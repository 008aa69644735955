/-
  SplitFlap.Wall.UpdatePolicy — when the master offers its stored row image.

  `WallUpdatePolicy.h`: one offer at a time on the whole wall, and what the
  master makes of the answers.  A row that fails too often is given up on until
  something speaks for a fresh look.
-/
import SplitFlap.Wall.Core

namespace SplitFlap

/-- Failed offers per row before the master gives up on it. -/
abbrev WALL_UPDATE_ATTEMPT_CAP : UInt8 := 3

/-- After a failed or refused offer nothing is offered for this long. -/
abbrev WALL_UPDATE_HOLDOFF_MS : UInt32 := 30000

abbrev WALL_UPDATE_ANSWER_MS : UInt32 := 20000

abbrev WALL_UPDATE_DOWNLOAD_MS : UInt32 := 220000

abbrev WALL_UPDATE_RETURN_MS : UInt32 := 120000

/-- Unbroken health that forgives a row its failed offers. -/
abbrev WALL_UPDATE_HEALTHY_FORGIVE_MS : UInt32 := 600000

/-- `UPDATE_UNITS_BUSY`: a unit job holds the row. -/
abbrev UPDATE_UNITS_BUSY : UInt32 := 2

inductive WallUpdatePhase where
  | idle
  | offered
  | downloading
  | returning
  deriving Repr, DecidableEq

/-- How an offer ended. -/
inductive WallUpdateEnd where
  | converged
  | rolledBack
  | stillRescue
  | failed
  | refused
  | heldOff
  | noAnswer
  | timedOut
  deriving Repr, DecidableEq

/-- What the offer rule needs to know about one row. -/
structure WallUpdateRow where
  reachable : Bool := false
  rescue : Bool := false
  rev : CStr := []

structure WallUpdater where
  phase : WallUpdatePhase := .idle
  /-- The row an offer is out to; -1 in the source while idle. -/
  row : Option RowIx := none
  attempts : RowIx → UInt8 := fun _ => 0
  blocked : RowIx → Bool := fun _ => false
  rescueOffer : Bool := false
  charged : Bool := false
  heldOff : Bool := false
  lastOffered : Option RowIx := none
  sinceMs : UInt32 := 0
  heldOffAtMs : UInt32 := 0
  healthy : RowIx → Bool := fun _ => false
  healthySinceMs : RowIx → UInt32 := fun _ => 0

namespace WallUpdater

/-! ## §1. The rule. -/

/-- The `n`-th row after the last offer. -/
def turnOf (u : WallUpdater) (n : Nat) : RowIx :=
  match u.lastOffered with
  | none => ⟨n % WALL_LINK_MAX_ROWS, Nat.mod_lt _ (by decide)⟩
  | some last => ⟨(last.val + 1 + n) % WALL_LINK_MAX_ROWS, Nat.mod_lt _ (by decide)⟩

/-- May this row be offered the stored image? -/
def wants (u : WallUpdater) (rows : RowIx → WallUpdateRow) (storedRev : CStr) (r : RowIx) : Bool :=
  (rows r).reachable && !u.blocked r && (rows r).rev ≠ [] &&
    !((rows r).rev = storedRev && !(rows r).rescue)

/-- `nextCandidate`: the row to offer the stored image to now. -/
def nextCandidate (u : WallUpdater) (rows : RowIx → WallUpdateRow) (storedRev : CStr)
    (nowMs : UInt32) : Option RowIx :=
  if u.phase ≠ .idle ∨ storedRev = [] then none
  else if u.heldOff = true ∧ wallLinkElapsed nowMs u.heldOffAtMs WALL_UPDATE_HOLDOFF_MS = false then
    none
  else ((List.range WALL_LINK_MAX_ROWS).map u.turnOf).find? (u.wants rows storedRev)

def forgive (u : WallUpdater) (r : RowIx) : WallUpdater :=
  { u with
    attempts := Function.update u.attempts r 0
    blocked := Function.update u.blocked r false }

/-- `charge`: an offer costs one attempt at most, however it goes wrong. -/
def charge (u : WallUpdater) : WallUpdater :=
  match u.charged, u.row with
  | false, some r =>
      let attempts := if u.attempts r < 255 then u.attempts r + 1 else u.attempts r
      { u with
        charged := true
        attempts := Function.update u.attempts r attempts
        blocked :=
          if WALL_UPDATE_ATTEMPT_CAP ≤ attempts then Function.update u.blocked r true
          else u.blocked }
  | _, _ => u

/-- `end`: the offer is over; with `holdOff` the next one waits. -/
def finish (u : WallUpdater) (costs : Bool) (nowMs : UInt32) (holdOff : Bool) : WallUpdater :=
  { if costs then u.charge else u with
    phase := .idle
    row := none
    heldOff := holdOff
    heldOffAtMs := nowMs }

/-- `offered`: the Update message was written to this row. -/
def offered (u : WallUpdater) (r : RowIx) (rescue : Bool) (nowMs : UInt32) : WallUpdater :=
  let u :=
    { u with
      phase := .offered
      row := some r
      lastOffered := some r
      sinceMs := nowMs
      rescueOffer := rescue
      charged := false }
  if rescue then u.charge else u

/-- `answer`: an UpdateState from a row.  One about another row, another image
or no open offer is history. -/
def answer (u : WallUpdater) (r : RowIx) (state : WlUpdateState) (storedRev : CStr)
    (nowMs : UInt32) : Option WallUpdateEnd × WallUpdater :=
  if u.row ≠ some r ∨ state.rev ≠ storedRev then (none, u)
  else if u.phase ≠ .offered ∧ u.phase ≠ .downloading then (none, u)
  else
    match state.phase with
    | .downloading => (none, { u with phase := .downloading, sinceMs := nowMs })
    | .installed => (none, { u with phase := .returning, sinceMs := nowMs })
    | .refused =>
        if state.reason = UPDATE_UNITS_BUSY then (some .heldOff, u.finish false nowMs true)
        else (some .refused, u.finish true nowMs true)
    | _ => (some .failed, u.finish true nowMs true)

/-- `hello`: only a row with another boot id than before has come back. -/
def hello (u : WallUpdater) (r : RowIx) (rev : CStr) (rescue restarted : Bool) (storedRev : CStr)
    (nowMs : UInt32) : Option WallUpdateEnd × WallUpdater :=
  let u := { u with healthy := Function.update u.healthy r false }
  if u.phase = .idle ∨ u.row ≠ some r ∨ restarted = false then (none, u)
  else if rescue then (some .stillRescue, u.finish true nowMs true)
  else if rev ≠ storedRev then (some .rolledBack, u.finish true nowMs true)
  else
    (some .converged, (if u.rescueOffer then u else u.forgive r).finish false nowMs false)

/-- `tick`: once per pass of the link task. -/
def tick (u : WallUpdater) (nowMs : UInt32) : Option WallUpdateEnd × WallUpdater :=
  match u.phase with
  | .idle => (none, u)
  | .offered =>
      if wallLinkElapsed nowMs u.sinceMs WALL_UPDATE_ANSWER_MS then
        (some .noAnswer, u.finish false nowMs true)
      else (none, u)
  | .downloading =>
      if wallLinkElapsed nowMs u.sinceMs WALL_UPDATE_DOWNLOAD_MS then
        (some .timedOut, u.finish true nowMs true)
      else (none, u)
  | .returning =>
      if wallLinkElapsed nowMs u.sinceMs WALL_UPDATE_RETURN_MS then
        (some .timedOut, u.finish true nowMs true)
      else (none, u)

/-- `noteRev`: a rev that changed other than by this master's own offer. -/
def noteRev (u : WallUpdater) (r : RowIx) (oldRev newRev : CStr) : WallUpdater :=
  if u.row = some r ∨ oldRev = [] ∨ newRev = [] ∨ oldRev = newRev then u else u.forgive r

/-- `health`, of a row that is welcomed and not in rescue mode, or is not. -/
def health (u : WallUpdater) (r : RowIx) (well : Bool) (nowMs : UInt32) : WallUpdater :=
  if well = false then { u with healthy := Function.update u.healthy r false }
  else if u.healthy r = false then
    { u with
      healthy := Function.update u.healthy r true
      healthySinceMs := Function.update u.healthySinceMs r nowMs }
  else if wallLinkElapsed nowMs (u.healthySinceMs r) WALL_UPDATE_HEALTHY_FORGIVE_MS then
    { u.forgive r with healthySinceMs := Function.update u.healthySinceMs r nowMs }
  else u

/-- `newImage`: what was held against the rows was held against the old one. -/
def newImage (u : WallUpdater) (nowMs : UInt32) : WallUpdater :=
  { (List.finRange WALL_LINK_MAX_ROWS).foldl forgive u with heldOff := true, heldOffAtMs := nowMs }

/-- `retry`: an operator asked for this row to be offered the image again. -/
def retry (u : WallUpdater) (r : RowIx) : WallUpdater := { u.forgive r with heldOff := false }

/-! ## §2. The offer that is out. -/

/-- An offer is out to this row. -/
def isOutTo (u : WallUpdater) (r : RowIx) : Bool := u.phase ≠ .idle && u.row = some r

/-- A row is named exactly while an offer is out. -/
def Named (u : WallUpdater) : Prop := u.phase = .idle ↔ u.row = none

/-- The same offer is out, or none was and none is. -/
structure SameOffer (u u' : WallUpdater) : Prop where
  phase : u'.phase = .idle ↔ u.phase = .idle
  row : u'.row = u.row

variable {u u' : WallUpdater}

theorem SameOffer.rfl' (u : WallUpdater) : SameOffer u u := ⟨Iff.rfl, rfl⟩

theorem SameOffer.trans {u'' : WallUpdater} (h : SameOffer u u') (h' : SameOffer u' u'') :
    SameOffer u u'' := ⟨h'.phase.trans h.phase, h'.row.trans h.row⟩

theorem SameOffer.named (h : SameOffer u u') (hnamed : u.Named) : u'.Named := by
  unfold Named
  rw [h.phase, h.row]
  exact hnamed

@[simp] theorem forgive_phase (u : WallUpdater) (r : RowIx) : (u.forgive r).phase = u.phase := rfl
@[simp] theorem forgive_row (u : WallUpdater) (r : RowIx) : (u.forgive r).row = u.row := rfl

theorem charge_same (u : WallUpdater) : SameOffer u u.charge := by
  unfold charge
  split
  · exact ⟨Iff.rfl, rfl⟩
  · exact .rfl' u

theorem noteRev_same (u : WallUpdater) (r : RowIx) (oldRev newRev : CStr) :
    SameOffer u (u.noteRev r oldRev newRev) := by
  unfold noteRev
  split
  · exact .rfl' u
  · exact ⟨Iff.rfl, rfl⟩

theorem health_same (u : WallUpdater) (r : RowIx) (well : Bool) (nowMs : UInt32) :
    SameOffer u (u.health r well nowMs) := by
  unfold health
  split
  · exact ⟨Iff.rfl, rfl⟩
  · split
    · exact ⟨Iff.rfl, rfl⟩
    · split
      · exact ⟨Iff.rfl, rfl⟩
      · exact .rfl' u

theorem foldl_same {α : Type} {f : WallUpdater → α → WallUpdater}
    (hf : ∀ u a, SameOffer u (f u a)) (as : List α) (u : WallUpdater) :
    SameOffer u (as.foldl f u) := by
  induction as generalizing u with
  | nil => exact .rfl' u
  | cons a as ih => exact (hf u a).trans (ih (f u a))

theorem newImage_same (u : WallUpdater) (nowMs : UInt32) : SameOffer u (u.newImage nowMs) := by
  have hforgiven := foldl_same (fun u r => (⟨Iff.rfl, rfl⟩ : SameOffer u (u.forgive r)))
    (List.finRange WALL_LINK_MAX_ROWS) u
  exact ⟨hforgiven.phase, hforgiven.row⟩

theorem retry_same (u : WallUpdater) (r : RowIx) : SameOffer u (u.retry r) := ⟨Iff.rfl, rfl⟩

/-- What a rule that may end row `r`'s offer comes to: the same offer is out and
nothing is reported, or `r`'s was, that is reported, and none is. -/
structure Ends (u : WallUpdater) (r : RowIx) (answer : Option WallUpdateEnd × WallUpdater) :
    Prop where
  same : answer.1 = none → SameOffer u answer.2
  ended : answer.1 ≠ none → u.row = some r ∧ answer.2.phase = .idle ∧ answer.2.row = none

variable {r : RowIx}

theorem Ends.of_same {answer : Option WallUpdateEnd × WallUpdater} (hnone : answer.1 = none)
    (h : SameOffer u answer.2) : Ends u r answer := ⟨fun _ => h, fun hsome => absurd hnone hsome⟩

theorem Ends.of_finish {why : WallUpdateEnd} (hrow : u.row = some r) (v : WallUpdater)
    (costs : Bool) (nowMs : UInt32) (holdOff : Bool) :
    Ends u r (some why, v.finish costs nowMs holdOff) :=
  ⟨fun hnone => (nomatch hnone), fun _ => ⟨hrow, rfl, rfl⟩⟩

theorem answer_ends (u : WallUpdater) (r : RowIx) (state : WlUpdateState) (storedRev : CStr)
    (nowMs : UInt32) : Ends u r (u.answer r state storedRev nowMs) := by
  unfold answer
  split
  · exact .of_same rfl (.rfl' u)
  · next hother =>
      have hrow : u.row = some r := not_not.mp fun hne => hother (.inl hne)
      split
      · exact .of_same rfl (.rfl' u)
      · next hout =>
          have hphase : u.phase ≠ .idle := by
            intro hidle
            exact hout ⟨by rw [hidle]; decide, by rw [hidle]; decide⟩
          have hstill : ∀ phase, phase ≠ .idle → ∀ since,
              Ends u r (none, { u with phase := phase, sinceMs := since }) :=
            fun phase hne since => .of_same rfl
              ⟨⟨fun h => absurd h hne, fun h => absurd h hphase⟩, rfl⟩
          split
          · exact hstill _ (by decide) _
          · exact hstill _ (by decide) _
          · split
            · exact .of_finish hrow ..
            · exact .of_finish hrow ..
          · exact .of_finish hrow ..

theorem hello_ends (u : WallUpdater) (r : RowIx) (rev : CStr) (rescue restarted : Bool)
    (storedRev : CStr) (nowMs : UInt32) :
    Ends u r (u.hello r rev rescue restarted storedRev nowMs) := by
  unfold hello
  dsimp only
  split
  · exact .of_same rfl ⟨Iff.rfl, rfl⟩
  · next hout =>
      have hrow : u.row = some r := not_not.mp fun hne => hout (.inr (.inl hne))
      split
      · exact .of_finish hrow ..
      · split
        · exact .of_finish hrow ..
        · exact .of_finish hrow ..

theorem tick_ends (hrow : u.row = some r) (nowMs : UInt32) : Ends u r (u.tick nowMs) := by
  unfold tick
  split
  · exact .of_same rfl (.rfl' u)
  · split
    · exact .of_finish hrow ..
    · exact .of_same rfl (.rfl' u)
  · split
    · exact .of_finish hrow ..
    · exact .of_same rfl (.rfl' u)
  · split
    · exact .of_finish hrow ..
    · exact .of_same rfl (.rfl' u)

/-- After an offer was written, it is the one that is out. -/
theorem offered_out (u : WallUpdater) (r : RowIx) (rescue : Bool) (nowMs : UInt32) :
    (u.offered r rescue nowMs).phase ≠ .idle ∧ (u.offered r rescue nowMs).row = some r := by
  unfold offered
  dsimp only
  split
  · have hsame := charge_same { u with
      phase := .offered, row := some r, lastOffered := some r, sinceMs := nowMs,
      rescueOffer := rescue, charged := false }
    exact ⟨fun h => (nomatch hsame.phase.mp h), hsame.row⟩
  · exact ⟨fun h => (nomatch h), rfl⟩

/-- A candidate is reachable, and there is one only while no offer is out. -/
theorem nextCandidate_some {rows : RowIx → WallUpdateRow} {storedRev : CStr} {nowMs : UInt32}
    {r : RowIx} (h : u.nextCandidate rows storedRev nowMs = some r) :
    u.phase = .idle ∧ (rows r).reachable = true := by
  unfold nextCandidate at h
  split at h
  · cases h
  · next hidle =>
      split at h
      · cases h
      · have hwants := List.find?_some h
        simp only [wants, Bool.and_eq_true] at hwants
        exact ⟨not_not.mp fun hne => hidle (.inl hne), hwants.1.1.1⟩

/-- Every row gets its turn. -/
theorem turnOf_surjective (u : WallUpdater) (r : RowIx) :
    ∃ n < WALL_LINK_MAX_ROWS, u.turnOf n = r := by
  unfold turnOf
  split
  · exact ⟨r.val, r.isLt, Fin.ext (Nat.mod_eq_of_lt r.isLt)⟩
  · next last _ =>
      have hr : r.val < 8 := r.isLt
      have hlast : last.val < 8 := last.isLt
      refine ⟨(r.val + 16 - (last.val + 1)) % 8, Nat.mod_lt _ (by decide), Fin.ext ?_⟩
      show (last.val + 1 + (r.val + 16 - (last.val + 1)) % 8) % 8 = r.val
      omega

/-- A row that wants the image is found, though perhaps after another. -/
theorem nextCandidate_isSome {rows : RowIx → WallUpdateRow} {storedRev : CStr} {nowMs : UInt32}
    {r : RowIx} (hidle : u.phase = .idle) (hstored : storedRev ≠ [])
    (hheld : u.heldOff = false) (hwants : u.wants rows storedRev r = true) :
    (u.nextCandidate rows storedRev nowMs).isSome = true := by
  unfold nextCandidate
  rw [if_neg (by simp [hidle, hstored]), if_neg (by simp [hheld])]
  obtain ⟨n, hn, hturn⟩ := u.turnOf_surjective r
  rw [List.find?_isSome]
  exact ⟨r, List.mem_map.mpr ⟨n, List.mem_range.mpr hn, hturn⟩, hwants⟩

end WallUpdater

end SplitFlap
