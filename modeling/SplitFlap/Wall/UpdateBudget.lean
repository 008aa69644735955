/-
  SplitFlap.Wall.UpdateBudget — what a row's attempts count.

  The link task drives the updater through nine calls.  Beside them a ledger
  remembers every offer that was made and, by watching `attempts` alone, what
  each was charged: an offer is charged once at most, a row three times at most
  between two events that forgive it, and then it is blocked (`update_budget`).
-/
import SplitFlap.Lib.Machine
import SplitFlap.Wall.UpdatePolicy

namespace SplitFlap

open Machine

namespace WallUpdater

/-! ## §1. The calls of the link task. -/

/-- The `n`-th row after the last offer, of the first `count`. -/
def turnAmong (u : WallUpdater) (count n : Nat) : RowIx :=
  match u.lastOffered with
  | none => Fin.ofNat WALL_LINK_MAX_ROWS (n % count)
  | some last => Fin.ofNat WALL_LINK_MAX_ROWS ((last.val + 1 + n) % count)

/-- `nextCandidate`, with the row count it is given. -/
def nextCandidateAmong (u : WallUpdater) (rows : RowIx → WallUpdateRow) (count : Nat)
    (storedRev : CStr) (nowMs : UInt32) : Option RowIx :=
  if u.phase ≠ .idle ∨ storedRev = [] then none
  else if u.heldOff = true ∧ wallLinkElapsed nowMs u.heldOffAtMs WALL_UPDATE_HOLDOFF_MS = false then
    none
  else
    let count := min count WALL_LINK_MAX_ROWS
    ((List.range count).map (u.turnAmong count)).find? (u.wants rows storedRev)

/-- The link task always gives it `WALL_LINK_MAX_ROWS`. -/
theorem nextCandidate_eq_among (u : WallUpdater) (rows : RowIx → WallUpdateRow)
    (storedRev : CStr) (nowMs : UInt32) :
    u.nextCandidate rows storedRev nowMs =
      u.nextCandidateAmong rows WALL_LINK_MAX_ROWS storedRev nowMs := by
  have hturn : u.turnOf = u.turnAmong (min WALL_LINK_MAX_ROWS WALL_LINK_MAX_ROWS) := by
    funext n
    unfold turnOf turnAmong
    cases u.lastOffered with
    | none => exact Fin.ext (Nat.mod_mod _ _).symm
    | some last => exact Fin.ext (Nat.mod_mod _ _).symm
  unfold nextCandidate nextCandidateAmong
  rw [hturn]
  rfl

/-- The candidate wants the image, is not blocked, and is the first in turn
that does. -/
theorem nextCandidateAmong_some {u : WallUpdater} {rows : RowIx → WallUpdateRow} {count : Nat}
    {storedRev : CStr} {nowMs : UInt32} {r : RowIx}
    (h : u.nextCandidateAmong rows count storedRev nowMs = some r) :
    u.wants rows storedRev r = true ∧
      ∃ n < min count WALL_LINK_MAX_ROWS, u.turnAmong (min count WALL_LINK_MAX_ROWS) n = r ∧
        ∀ k < n, u.wants rows storedRev (u.turnAmong (min count WALL_LINK_MAX_ROWS) k) = false := by
  unfold nextCandidateAmong at h
  split at h
  · cases h
  · split at h
    · cases h
    · dsimp only at h
      obtain ⟨hwants, n, hn, hturn, hbefore⟩ := List.find?_eq_some_iff_getElem.mp h
      rw [List.length_map, List.length_range] at hn
      rw [List.getElem_map, List.getElem_range] at hturn
      refine ⟨hwants, n, hn, hturn, ?_⟩
      intro k hk
      have hno := hbefore k hk
      rw [List.getElem_map, List.getElem_range, Bool.not_eq_true'] at hno
      exact hno

theorem wants_free {u : WallUpdater} {rows : RowIx → WallUpdateRow} {storedRev : CStr} {r : RowIx}
    (h : u.wants rows storedRev r = true) : u.blocked r = false := by
  simp only [wants, Bool.and_eq_true, Bool.not_eq_true'] at h
  exact h.1.1.2

/-- `reset`: the rows table changed. -/
def reset (_ : WallUpdater) : WallUpdater := {}

end WallUpdater

/-- One call of the link task.  `offer` asks for a row and, when there is one
and the message was written (`sent`), makes the offer. -/
inductive UpdaterCall where
  | offer (rows : RowIx → WallUpdateRow) (storedRev : CStr) (sent : Bool) (nowMs : UInt32)
  | answer (r : RowIx) (state : WlUpdateState) (storedRev : CStr) (nowMs : UInt32)
  | hello (r : RowIx) (rev : CStr) (rescue restarted : Bool) (storedRev : CStr) (nowMs : UInt32)
  | tick (nowMs : UInt32)
  | noteRev (r : RowIx) (oldRev newRev : CStr)
  | health (r : RowIx) (well : Bool) (nowMs : UInt32)
  | newImage (nowMs : UInt32)
  | retry (r : RowIx)
  | reset

namespace WallUpdater

/-- The row a call makes an offer to. -/
def offersTo (u : WallUpdater) (count : Nat) : UpdaterCall → Option RowIx
  | .offer rows storedRev true nowMs => u.nextCandidateAmong rows count storedRev nowMs
  | _ => none

def call (u : WallUpdater) (count : Nat) : UpdaterCall → WallUpdater
  | .offer rows storedRev sent nowMs =>
      match u.offersTo count (.offer rows storedRev sent nowMs) with
      | some r => u.offered r (rows r).rescue nowMs
      | none => u
  | .answer r state storedRev nowMs => (u.answer r state storedRev nowMs).2
  | .hello r rev rescue restarted storedRev nowMs =>
      (u.hello r rev rescue restarted storedRev nowMs).2
  | .tick nowMs => (u.tick nowMs).2
  | .noteRev r oldRev newRev => u.noteRev r oldRev newRev
  | .health r well nowMs => u.health r well nowMs
  | .newImage nowMs => u.newImage nowMs
  | .retry r => u.retry r
  | .reset => u.reset

/-- The calls that forgive row `r`: another image or table, an operator's
retry, a rev that changed by other means, ten minutes of unbroken health, and
the row's own return on the image from an offer made while it was well. -/
def forgives (u : WallUpdater) (r : RowIx) : UpdaterCall → Bool
  | .newImage _ | .reset => true
  | .retry r' => r = r'
  | .noteRev r' oldRev newRev =>
      r = r' && u.row ≠ some r' && oldRev ≠ [] && newRev ≠ [] && oldRev ≠ newRev
  | .health r' well nowMs =>
      r = r' && well && u.healthy r' &&
        wallLinkElapsed nowMs (u.healthySinceMs r') WALL_UPDATE_HEALTHY_FORGIVE_MS
  | .hello r' rev rescue restarted storedRev nowMs =>
      r = r' && (u.hello r' rev rescue restarted storedRev nowMs).1 = some .converged &&
        !u.rescueOffer
  | _ => false

end WallUpdater

/-- An offer goes to the candidate, and only such a call makes one. -/
theorem WallUpdater.offersTo_some {u : WallUpdater} {count : Nat} {c : UpdaterCall} {r : RowIx}
    (h : u.offersTo count c = some r) :
    ∃ rows storedRev nowMs, c = .offer rows storedRev true nowMs ∧
      u.nextCandidateAmong rows count storedRev nowMs = some r ∧
      u.call count c = u.offered r (rows r).rescue nowMs := by
  unfold offersTo at h
  split at h
  · next rows storedRev nowMs =>
      refine ⟨rows, storedRev, nowMs, rfl, h, ?_⟩
      unfold call offersTo
      dsimp only
      rw [h]
  · cases h

/-! ## §2. The ledger. -/

/-- An offer that was made: to which row, how many images had been stored and
how often the row had been forgiven by then.  `costs` is every attempt that was
counted while it was the last offer: of which row, and how often that row had
been forgiven when it was. -/
structure MadeOffer where
  row : RowIx
  image : Nat
  madeAt : Nat
  costs : List (RowIx × Nat) := []
  deriving DecidableEq

structure UpdateLedger where
  updater : WallUpdater := {}
  /-- The last offer first. -/
  made : List MadeOffer := []
  images : Nat := 0
  forgiven : RowIx → Nat := fun _ => 0

namespace UpdateLedger

/-- The attempts that were added, row by row. -/
def costsOf (before after : RowIx → UInt8) (forgiven : RowIx → Nat) : List (RowIx × Nat) :=
  (List.finRange WALL_LINK_MAX_ROWS).flatMap fun r =>
    List.replicate ((after r).toNat - (before r).toNat) (r, forgiven r)

/-- They are the last offer's. -/
def book (costs : List (RowIx × Nat)) : List MadeOffer → List MadeOffer
  | [] => []
  | o :: rest => { o with costs := o.costs ++ costs } :: rest

/-- The ledger after a call that turned the updater into `u`. -/
def noted (l : UpdateLedger) (u : WallUpdater) (forgives : RowIx → Bool) (offer : Option RowIx)
    (images : Nat) : UpdateLedger :=
  let forgiven := fun r => if forgives r then l.forgiven r + 1 else l.forgiven r
  let made :=
    match offer with
    | some r => { row := r, image := images, madeAt := forgiven r } :: l.made
    | none => l.made
  { updater := u
    made := book (costsOf l.updater.attempts u.attempts forgiven) made
    images := images
    forgiven := forgiven }

/-- The images stored by the end of a call. -/
def imagesAfter (l : UpdateLedger) : UpdaterCall → Nat
  | .newImage _ => l.images + 1
  | _ => l.images

def step (count : Nat) (l : UpdateLedger) (c : UpdaterCall) : Option UpdateLedger :=
  some (l.noted (l.updater.call count c) (fun r => l.updater.forgives r c)
    (l.updater.offersTo count c) (l.imagesAfter c))

/-- Every attempt ever counted. -/
def costs (l : UpdateLedger) : List (RowIx × Nat) := l.made.flatMap (·.costs)

/-! ## §3. What a call does to the attempts. -/

end UpdateLedger

namespace WallUpdater

variable {u u' : WallUpdater}

/-- A call either forgives some rows, or charges the offer that is out; either
way the offer is over or stays. -/
inductive Does (u u' : WallUpdater) (forgives : RowIx → Bool) : Prop
  | keeps (hattempts : ∀ r, u'.attempts r = if forgives r then 0 else u.attempts r)
      (hblocked : ∀ r, u'.blocked r = if forgives r then false else u.blocked r)
      (hrow : u'.row = none ∨ u'.row = u.row ∧ u'.charged = u.charged)
  | charges (hnone : ∀ r, forgives r = false) (hattempts : u'.attempts = u.charge.attempts)
      (hblocked : u'.blocked = u.charge.blocked)
      (hrow : u'.row = none ∨ u'.row = u.row ∧ u'.charged = true)

theorem Does.rfl' (u : WallUpdater) : Does u u fun _ => false :=
  .keeps (fun _ => rfl) (fun _ => rfl) (.inr ⟨rfl, rfl⟩)

/-- The end of an offer charges it, or does not. -/
theorem finish_does (u : WallUpdater) (costs : Bool) (nowMs : UInt32) (holdOff : Bool) :
    Does u (u.finish costs nowMs holdOff) fun _ => false := by
  unfold finish
  cases costs with
  | true => exact .charges (fun _ => rfl) rfl rfl (.inl rfl)
  | false => exact .keeps (fun _ => rfl) (fun _ => rfl) (.inl rfl)

theorem answer_does (u : WallUpdater) (r : RowIx) (state : WlUpdateState) (storedRev : CStr)
    (nowMs : UInt32) : Does u (u.answer r state storedRev nowMs).2 fun _ => false := by
  unfold answer
  split
  · exact .rfl' u
  · split
    · exact .rfl' u
    · split
      · exact .keeps (fun _ => rfl) (fun _ => rfl) (.inr ⟨rfl, rfl⟩)
      · exact .keeps (fun _ => rfl) (fun _ => rfl) (.inr ⟨rfl, rfl⟩)
      · split
        · exact finish_does ..
        · exact finish_does ..
      · exact finish_does ..

theorem tick_does (u : WallUpdater) (nowMs : UInt32) :
    Does u (u.tick nowMs).2 fun _ => false := by
  unfold tick
  split
  · exact .rfl' u
  · split
    · exact finish_does ..
    · exact .rfl' u
  · split
    · exact finish_does ..
    · exact .rfl' u
  · split
    · exact finish_does ..
    · exact .rfl' u

/-- Forgiving one row, when the call does. -/
theorem forgive_does (u : WallUpdater) (r : RowIx) {forgives : RowIx → Bool}
    (hforgives : ∀ r', forgives r' = decide (r' = r))
    (hattempts : u'.attempts = (u.forgive r).attempts)
    (hblocked : u'.blocked = (u.forgive r).blocked)
    (hrow : u'.row = none ∨ u'.row = u.row ∧ u'.charged = u.charged) : Does u u' forgives := by
  refine .keeps ?_ ?_ hrow
  · intro r'
    rw [hforgives, hattempts]
    show Function.update u.attempts r 0 r' = _
    by_cases hr : r' = r
    · simp [hr]
    · simp [hr]
  · intro r'
    rw [hforgives, hblocked]
    show Function.update u.blocked r false r' = _
    by_cases hr : r' = r
    · simp [hr]
    · simp [hr]

theorem charge_healthy (u : WallUpdater) (healthy : RowIx → Bool) :
    ({ u with healthy := healthy } : WallUpdater).charge = { u.charge with healthy := healthy } := by
  unfold charge
  dsimp only
  split
  · rfl
  · rfl

/-- What was noted of a row's health is no part of it. -/
theorem Does.of_healthy {healthy : RowIx → Bool} {forgives : RowIx → Bool}
    (h : Does { u with healthy := healthy } u' forgives) : Does u u' forgives := by
  cases h with
  | keeps hattempts hblocked hrow => exact .keeps hattempts hblocked hrow
  | charges hnone hattempts hblocked hrow =>
      rw [charge_healthy] at hattempts hblocked
      exact .charges hnone hattempts hblocked hrow

/-- A call whose answer is no return on the image forgives no one. -/
theorem Does.of_never {forgives : RowIx → Bool} (hnever : ∀ r, forgives r = false)
    (h : Does u u' fun _ => false) : Does u u' forgives := by
  rw [show forgives = fun _ => false from funext hnever]
  exact h

theorem hello_does (u : WallUpdater) (r : RowIx) (rev : CStr) (rescue restarted : Bool)
    (storedRev : CStr) (nowMs : UInt32) :
    Does u (u.hello r rev rescue restarted storedRev nowMs).2
      fun r' => u.forgives r' (.hello r rev rescue restarted storedRev nowMs) := by
  unfold forgives hello
  dsimp only
  split
  · exact .of_never (fun r' => by simp) (.of_healthy (.rfl' _))
  · split
    · exact .of_never (fun r' => by simp) (.of_healthy (finish_does ..))
    · split
      · exact .of_never (fun r' => by simp) (.of_healthy (finish_does ..))
      · cases hrescue : u.rescueOffer with
        | true =>
            exact .of_never (fun r' => by simp) (.keeps (fun _ => rfl) (fun _ => rfl) (.inl rfl))
        | false => exact forgive_does u r (fun r' => by simp) rfl rfl (.inl rfl)

theorem noteRev_does (u : WallUpdater) (r : RowIx) (oldRev newRev : CStr) :
    Does u (u.noteRev r oldRev newRev) fun r' => u.forgives r' (.noteRev r oldRev newRev) := by
  unfold forgives noteRev
  dsimp only
  split
  · next hno =>
      refine .of_never (fun r' => ?_) (.rfl' u)
      rcases hno with hno | hno | hno | hno
      · simp [hno]
      · simp [hno]
      · simp [hno]
      · simp [hno]
  · next hnoted =>
      simp only [not_or] at hnoted
      obtain ⟨hrow, hold, hnew, hdiffer⟩ := hnoted
      exact forgive_does u r (fun r' => by simp [hrow, hold, hnew, hdiffer]) rfl rfl
        (.inr ⟨rfl, rfl⟩)

theorem health_does (u : WallUpdater) (r : RowIx) (well : Bool) (nowMs : UInt32) :
    Does u (u.health r well nowMs) fun r' => u.forgives r' (.health r well nowMs) := by
  unfold forgives health
  dsimp only
  split
  · next hwell => exact .of_never (fun r' => by simp [hwell]) (.of_healthy (.rfl' _))
  · next hwell =>
      split
      · next hhealthy =>
          exact .of_never (fun r' => by simp [hhealthy])
            (.keeps (fun _ => rfl) (fun _ => rfl) (.inr ⟨rfl, rfl⟩))
      · next hhealthy =>
          split
          · next hlong =>
              exact forgive_does u r (fun r' => by simp [hwell, hhealthy, hlong]) rfl rfl
                (.inr ⟨rfl, rfl⟩)
          · next hshort => exact .of_never (fun r' => by simp [hshort]) (.rfl' u)

/-- `newImage` forgives every row, and leaves the offer that is out alone. -/
theorem newImage_does (u : WallUpdater) (nowMs : UInt32) :
    Does u (u.newImage nowMs) fun r => u.forgives r (.newImage nowMs) := by
  have hall : ∀ (rs : List RowIx) (v : WallUpdater),
      (rs.foldl forgive v).row = v.row ∧ (rs.foldl forgive v).charged = v.charged ∧
        ∀ r, (rs.foldl forgive v).attempts r = (if r ∈ rs then 0 else v.attempts r) ∧
          (rs.foldl forgive v).blocked r = if r ∈ rs then false else v.blocked r := by
    intro rs
    induction rs with
    | nil => exact fun v => ⟨rfl, rfl, fun r => ⟨by simp, by simp⟩⟩
    | cons r' rs ih =>
        intro v
        obtain ⟨hrow, hcharged, hforgiven⟩ := ih (v.forgive r')
        refine ⟨hrow, hcharged, fun r => ?_⟩
        rw [List.foldl_cons, (hforgiven r).1, (hforgiven r).2]
        by_cases hr : r = r'
        · subst hr
          simp [forgive]
        · simp [forgive, hr]
  obtain ⟨hrow, hcharged, hforgiven⟩ := hall (List.finRange WALL_LINK_MAX_ROWS) u
  refine .keeps ?_ ?_ (.inr ⟨hrow, hcharged⟩)
  · intro r
    exact (hforgiven r).1.trans (if_pos (List.mem_finRange r))
  · intro r
    exact (hforgiven r).2.trans (if_pos (List.mem_finRange r))

theorem retry_does (u : WallUpdater) (r : RowIx) :
    Does u (u.retry r) fun r' => u.forgives r' (.retry r) :=
  forgive_does u r (fun _ => rfl) rfl rfl (.inr ⟨rfl, rfl⟩)

theorem reset_does (u : WallUpdater) : Does u u.reset fun r => u.forgives r .reset :=
  .keeps (fun _ => rfl) (fun _ => rfl) (.inl rfl)

/-- **One call, no offer made.** -/
theorem call_does (u : WallUpdater) (count : Nat) (c : UpdaterCall)
    (hoffer : u.offersTo count c = none) :
    Does u (u.call count c) fun r => u.forgives r c := by
  cases c with
  | offer rows storedRev sent nowMs =>
      unfold call
      dsimp only
      rw [hoffer]
      exact .rfl' u
  | answer r state storedRev nowMs => exact answer_does ..
  | hello r rev rescue restarted storedRev nowMs => exact hello_does ..
  | tick nowMs => exact tick_does ..
  | noteRev r oldRev newRev => exact noteRev_does ..
  | health r well nowMs => exact health_does ..
  | newImage nowMs => exact newImage_does ..
  | retry r => exact retry_does ..
  | reset => exact reset_does u

/-- What `charge` does to the attempts of a row that is not blocked. -/
theorem charge_attempts {r : RowIx} (hfree : u.charged = false) (hrow : u.row = some r)
    (hroom : u.attempts r < WALL_UPDATE_ATTEMPT_CAP) :
    u.charge.attempts = Function.update u.attempts r (u.attempts r + 1) ∧
      ∀ r', u.charge.blocked r' =
        (u.blocked r' || (r' = r && WALL_UPDATE_ATTEMPT_CAP ≤ u.attempts r + 1)) := by
  have hsmall : u.attempts r < 255 := UInt8.lt_trans hroom (by decide)
  unfold charge
  rw [hfree, hrow]
  dsimp only
  rw [if_pos hsmall]
  refine ⟨rfl, fun r' => ?_⟩
  split
  · next hcap =>
      by_cases hr : r' = r
      · simp [hr, hcap]
      · simp [hr]
  · next hcap => simp [hcap]

/-- Nothing is charged twice, and nothing while no offer is out. -/
theorem charge_idle (h : u.charged = true ∨ u.row = none) : u.charge = u := by
  unfold charge
  split
  · next hfree hrow =>
      rcases h with h | h
      · rw [h] at hfree
        cases hfree
      · rw [h] at hrow
        cases hrow
  · rfl

end WallUpdater

/-! ## §4. A call, as moves of the ledger. -/

namespace UpdateLedger

variable {l l' : UpdateLedger} {u : WallUpdater} {r : RowIx}

@[simp] theorem book_nil (made : List MadeOffer) : book [] made = made := by
  cases made with
  | nil => rfl
  | cons o rest =>
      show { o with costs := o.costs ++ [] } :: rest = o :: rest
      rw [List.append_nil]

/-- Attempts that only fell cost nothing. -/
theorem costsOf_le {before after : RowIx → UInt8} (h : ∀ r, after r ≤ before r)
    (forgiven : RowIx → Nat) : costsOf before after forgiven = [] := by
  unfold costsOf
  rw [List.flatMap_eq_nil_iff]
  intro r _
  have hle : (after r).toNat ≤ (before r).toNat := UInt8.le_iff_toNat_le.mp (h r)
  rw [Nat.sub_eq_zero_of_le hle]
  rfl

/-- One attempt of row `r` more. -/
theorem costsOf_one {before : RowIx → UInt8} (hroom : before r < WALL_UPDATE_ATTEMPT_CAP)
    (forgiven : RowIx → Nat) :
    costsOf before (Function.update before r (before r + 1)) forgiven = [(r, forgiven r)] := by
  have hone : (before r + 1).toNat - (before r).toNat = 1 := by
    have hlt : (before r).toNat < 3 := UInt8.lt_iff_toNat_lt.mp hroom
    rw [UInt8.toNat_add]
    show ((before r).toNat + 1) % 256 - _ = 1
    omega
  have hsingle : ∀ rs : List RowIx, rs.Nodup →
      (rs.flatMap fun r' => List.replicate
        ((Function.update before r (before r + 1) r').toNat - (before r').toNat)
        (r', forgiven r')) = if r ∈ rs then [(r, forgiven r)] else [] := by
    intro rs hnodup
    induction rs with
    | nil => rfl
    | cons r' rs ih =>
        rw [List.nodup_cons] at hnodup
        rw [List.flatMap_cons, ih hnodup.2]
        by_cases hr : r' = r
        · subst hr
          simp [hone, hnodup.1, -UInt8.toNat_add]
        · simp [hr, Ne.symm hr]
  exact (hsingle _ (List.nodup_finRange _)).trans (if_pos (List.mem_finRange r))

/-- Rows are forgiven, and the offer that is out stays or is over. -/
structure Forgiven (forgives : RowIx → Bool) (l l' : UpdateLedger) : Prop where
  attempts : ∀ r, l'.updater.attempts r = if forgives r then 0 else l.updater.attempts r
  blocked : ∀ r, l'.updater.blocked r = if forgives r then false else l.updater.blocked r
  row : l'.updater.row = none ∨
    l'.updater.row = l.updater.row ∧ l'.updater.charged = l.updater.charged
  made : l'.made = l.made
  forgiven : ∀ r, l'.forgiven r = if forgives r then l.forgiven r + 1 else l.forgiven r
  images : l'.images = l.images ∨ ∀ r, forgives r = true

/-- The offer that is out, which had cost nothing, is charged to its row. -/
structure Charged (r : RowIx) (l l' : UpdateLedger) : Prop where
  out : l.updater.row = some r
  free : l.updater.charged = false
  attempts : l'.updater.attempts =
    Function.update l.updater.attempts r (l.updater.attempts r + 1)
  blocked : ∀ r', l'.updater.blocked r' = (l.updater.blocked r' ||
    (r' = r && WALL_UPDATE_ATTEMPT_CAP ≤ l.updater.attempts r + 1))
  row : l'.updater.row = none ∨ l'.updater.row = l.updater.row ∧ l'.updater.charged = true
  made : l'.made = book [(r, l.forgiven r)] l.made
  forgiven : l'.forgiven = l.forgiven
  images : l'.images = l.images

/-- A row that is not blocked is made an offer. -/
structure Offered (r : RowIx) (l l' : UpdateLedger) : Prop where
  unblocked : l.updater.blocked r = false
  attempts : l'.updater.attempts = l.updater.attempts
  blocked : l'.updater.blocked = l.updater.blocked
  row : l'.updater.row = some r
  charged : l'.updater.charged = false
  made : l'.made = { row := r, image := l.images, madeAt := l.forgiven r } :: l.made
  forgiven : l'.forgiven = l.forgiven
  images : l'.images = l.images

/-! ## §5. The invariant. -/

/-- What every move keeps. -/
structure Kept (l : UpdateLedger) : Prop where
  blocked : ∀ r, l.updater.blocked r = true ↔ WALL_UPDATE_ATTEMPT_CAP ≤ l.updater.attempts r
  room : ∀ r, l.updater.row = some r → l.updater.charged = false →
    l.updater.attempts r < WALL_UPDATE_ATTEMPT_CAP
  out : ∀ r, l.updater.row = some r →
    ∃ o rest, l.made = o :: rest ∧ o.row = r ∧ (l.updater.charged = false → o.costs = [])
  counted : ∀ r, (l.updater.attempts r).toNat = l.costs.count (r, l.forgiven r)
  cap : ∀ r k, l.costs.count (r, k) ≤ WALL_UPDATE_ATTEMPT_CAP.toNat
  past : ∀ c ∈ l.costs, c.2 ≤ l.forgiven c.1
  once : ∀ o ∈ l.made, o.costs.length ≤ 1 ∧ ∀ c ∈ o.costs, c.1 = o.row

theorem not_cap : ¬ WALL_UPDATE_ATTEMPT_CAP ≤ (0 : UInt8) := by decide

theorem Kept.start : Kept {} where
  blocked _ := iff_of_false Bool.false_ne_true not_cap
  room _ hr := nomatch hr
  out _ hr := nomatch hr
  counted _ := rfl
  cap _ _ := by simp [costs]
  past _ hc := by simp [costs] at hc
  once _ ho := nomatch ho

/-- A row that is not blocked has an attempt left. -/
theorem Kept.room_of_free (h : l.Kept) (hfree : l.updater.blocked r = false) :
    l.updater.attempts r < WALL_UPDATE_ATTEMPT_CAP := by
  rw [← UInt8.not_le]
  intro hcap
  rw [(h.blocked r).mpr hcap] at hfree
  cases hfree

theorem Forgiven.costs {forgives : RowIx → Bool} (hmove : Forgiven forgives l l') :
    l'.costs = l.costs := by
  unfold UpdateLedger.costs
  rw [hmove.made]

theorem Kept.forgiven (h : l.Kept) {forgives : RowIx → Bool}
    (hmove : Forgiven forgives l l') : l'.Kept := by
  have hle : ∀ r, l'.updater.attempts r ≤ l.updater.attempts r := by
    intro r
    rw [hmove.attempts]
    split
    · exact UInt8.le_iff_toNat_le.mpr (Nat.zero_le _)
    · exact UInt8.le_refl _
  have hsame : ∀ r, l'.updater.row = some r →
      l.updater.row = some r ∧ l'.updater.charged = l.updater.charged := by
    intro r hr
    rcases hmove.row with hnone | ⟨hrow, hcharged⟩
    · rw [hnone] at hr
      cases hr
    · exact ⟨hrow ▸ hr, hcharged⟩
  constructor
  · intro r
    rw [hmove.blocked, hmove.attempts]
    split
    · exact iff_of_false Bool.false_ne_true not_cap
    · exact h.blocked r
  · intro r hr hfree
    obtain ⟨hr', hcharged⟩ := hsame r hr
    exact UInt8.lt_of_le_of_lt (hle r) (h.room r hr' (hcharged ▸ hfree))
  · intro r hr
    obtain ⟨hr', hcharged⟩ := hsame r hr
    obtain ⟨o, rest, hlast, hrow, hfree⟩ := h.out r hr'
    exact ⟨o, rest, hmove.made.trans hlast, hrow, fun hno => hfree (hcharged ▸ hno)⟩
  · intro r
    rw [hmove.costs, hmove.attempts, hmove.forgiven]
    split
    · -- the new count starts at none: what was counted is from before
      symm
      apply List.count_eq_zero.mpr
      intro hmem
      exact absurd (h.past _ hmem) (Nat.not_succ_le_self _)
    · exact h.counted r
  · rw [hmove.costs]
    exact h.cap
  · intro c hc
    rw [hmove.costs] at hc
    rw [hmove.forgiven]
    have hpast := h.past c hc
    split
    · exact Nat.le_succ_of_le hpast
    · exact hpast
  · rw [hmove.made]
    exact h.once

/-- The charge stands with the last offer, which had cost nothing. -/
theorem Kept.charged_made (h : l.Kept) (hmove : Charged r l l') :
    ∃ o rest, l.made = o :: rest ∧ o.row = r ∧ o.costs = [] ∧
      l'.made = { o with costs := [(r, l.forgiven r)] } :: rest ∧
      l'.costs = (r, l.forgiven r) :: l.costs := by
  obtain ⟨o, rest, hlast, hrow, hcosts⟩ := h.out r hmove.out
  have hnone := hcosts hmove.free
  have hmade : l'.made = { o with costs := [(r, l.forgiven r)] } :: rest := by
    rw [hmove.made, hlast]
    show { o with costs := o.costs ++ [(r, l.forgiven r)] } :: rest = _
    rw [hnone, List.nil_append]
  refine ⟨o, rest, hlast, hrow, hnone, hmade, ?_⟩
  unfold UpdateLedger.costs
  rw [hmade, hlast, List.flatMap_cons, List.flatMap_cons, hnone]
  rfl

theorem Kept.charged (h : l.Kept) (hmove : Charged r l l') : l'.Kept := by
  have hroom := h.room r hmove.out hmove.free
  have hlt : (l.updater.attempts r).toNat < 3 := UInt8.lt_iff_toNat_lt.mp hroom
  have hadds : (l.updater.attempts r + 1).toNat = (l.updater.attempts r).toNat + 1 := by
    rw [UInt8.toNat_add]
    show ((l.updater.attempts r).toNat + 1) % 256 = _
    omega
  obtain ⟨o, rest, hlast, hrow, hnone, hmade, hcosts⟩ := h.charged_made hmove
  have hout : ∀ r', l'.updater.row = some r' → r' = r ∧ l'.updater.charged = true := by
    intro r' hr'
    rcases hmove.row with hno | ⟨hsame, hcharged⟩
    · rw [hno] at hr'
      cases hr'
    · rw [hsame, hmove.out] at hr'
      exact ⟨(Option.some.inj hr').symm, hcharged⟩
  constructor
  · intro r'
    rw [hmove.blocked, hmove.attempts]
    by_cases hr' : r' = r
    · subst hr'
      have hnot : l.updater.blocked r' = false := by
        rw [Bool.eq_false_iff]
        intro hblock
        exact UInt8.not_le.mpr hroom ((h.blocked r').mp hblock)
      simp [hnot]
    · simpa [hr'] using h.blocked r'
  · intro r' hr' hfree
    rw [(hout r' hr').2] at hfree
    cases hfree
  · intro r' hr'
    refine ⟨_, rest, hmade, hrow.trans (hout r' hr').1.symm, fun hfree => ?_⟩
    rw [(hout r' hr').2] at hfree
    cases hfree
  · intro r'
    rw [hcosts, hmove.attempts, hmove.forgiven, List.count_cons]
    by_cases hr' : r' = r
    · subst hr'
      rw [Function.update_self, hadds, h.counted r']
      simp
    · rw [Function.update_of_ne hr', h.counted r']
      simp [Ne.symm hr']
  · intro r' k
    rw [hcosts, List.count_cons]
    split
    · next heq =>
        -- the third attempt at most: the row was not blocked
        rw [beq_iff_eq, Prod.mk.injEq] at heq
        obtain ⟨rfl, rfl⟩ := heq
        rw [← h.counted r]
        exact hlt
    · exact h.cap r' k
  · intro c hc
    rw [hcosts, List.mem_cons] at hc
    rw [hmove.forgiven]
    rcases hc with rfl | hc
    · exact Nat.le_refl _
    · exact h.past c hc
  · intro o' ho'
    rw [hmade, List.mem_cons] at ho'
    rcases ho' with rfl | ho'
    · refine ⟨Nat.le_refl _, ?_⟩
      intro c hc
      rw [List.mem_singleton.mp hc]
      exact hrow.symm
    · exact h.once o' (by rw [hlast]; exact List.mem_cons_of_mem _ ho')

theorem Offered.costs (hmove : Offered r l l') : l'.costs = l.costs := by
  unfold UpdateLedger.costs
  rw [hmove.made]
  rfl

theorem Kept.offered (h : l.Kept) (hmove : Offered r l l') : l'.Kept := by
  constructor
  · rw [hmove.blocked, hmove.attempts]
    exact h.blocked
  · intro r' hr' _
    rw [hmove.row, Option.some.injEq] at hr'
    rw [hmove.attempts, ← hr']
    exact h.room_of_free hmove.unblocked
  · intro r' hr'
    rw [hmove.row, Option.some.injEq] at hr'
    exact ⟨_, l.made, hmove.made, hr', fun _ => rfl⟩
  · rw [hmove.costs, hmove.attempts, hmove.forgiven]
    exact h.counted
  · rw [hmove.costs]
    exact h.cap
  · rw [hmove.costs, hmove.forgiven]
    exact h.past
  · intro o ho
    rw [hmove.made, List.mem_cons] at ho
    rcases ho with rfl | ho
    · exact ⟨Nat.zero_le _, fun c hc => nomatch hc⟩
    · exact h.once o ho

/-! ## §6. Every call is made of such moves. -/

/-- What `charge` comes to on the ledger: one charge, or nothing. -/
theorem Kept.charge_moves (h : l.Kept) (hattempts : u.attempts = l.updater.charge.attempts)
    (hblocked : u.blocked = l.updater.charge.blocked)
    (hrow : u.row = none ∨ u.row = l.updater.row ∧ u.charged = true) :
    let l' := l.noted u (fun _ => false) none l.images
    Forgiven (fun _ => false) l l' ∨ ∃ r, Charged r l l' := by
  intro l'
  by_cases hidle : l.updater.charged = true ∨ l.updater.row = none
  · rw [WallUpdater.charge_idle hidle] at hattempts hblocked
    left
    refine ⟨fun r => congrFun hattempts r, fun r => congrFun hblocked r, ?_, ?_, fun r => rfl,
      .inl rfl⟩
    · rcases hrow with hnone | ⟨hrow, hcharged⟩
      · exact .inl hnone
      · rcases hidle with hidle | hidle
        · exact .inr ⟨hrow, hcharged.trans hidle.symm⟩
        · exact .inl (hrow.trans hidle)
    · show book (costsOf l.updater.attempts u.attempts _) l.made = l.made
      rw [hattempts, costsOf_le (fun _ => UInt8.le_refl _), book_nil]
  · right
    rw [not_or, Bool.not_eq_true, ← ne_eq, Option.ne_none_iff_exists'] at hidle
    obtain ⟨hfree, r, hr⟩ := hidle
    have hroom := h.room r hr hfree
    obtain ⟨hone, hcap⟩ := WallUpdater.charge_attempts hfree hr hroom
    refine ⟨r, hr, hfree, hattempts.trans hone, fun r' => ?_, hrow, ?_, rfl, rfl⟩
    · exact (congrFun hblocked r').trans (hcap r')
    · show book (costsOf l.updater.attempts u.attempts l.forgiven) l.made = _
      rw [hattempts, hone, costsOf_one hroom]

/-- A call that forgives. -/
theorem forgiven_moves {forgives : RowIx → Bool}
    (hattempts : ∀ r, u.attempts r = if forgives r then 0 else l.updater.attempts r)
    (hblocked : ∀ r, u.blocked r = if forgives r then false else l.updater.blocked r)
    (hrow : u.row = none ∨ u.row = l.updater.row ∧ u.charged = l.updater.charged) {images : Nat}
    (himages : images = l.images ∨ ∀ r, forgives r = true) :
    Forgiven forgives l (l.noted u forgives none images) := by
  refine ⟨hattempts, hblocked, hrow, ?_, fun r => rfl, himages⟩
  show book (costsOf l.updater.attempts u.attempts _) l.made = l.made
  rw [costsOf_le, book_nil]
  intro r
  rw [hattempts]
  split
  · exact UInt8.le_iff_toNat_le.mpr (Nat.zero_le _)
  · exact UInt8.le_refl _

/-- The ledger with the offer made, before a rescue offer's charge. -/
def withOffer (l : UpdateLedger) (r : RowIx) (rescue : Bool) (nowMs : UInt32) : UpdateLedger :=
  { l with
    updater :=
      { l.updater with
        phase := .offered
        row := some r
        lastOffered := some r
        sinceMs := nowMs
        rescueOffer := rescue
        charged := false }
    made := { row := r, image := l.images, madeAt := l.forgiven r } :: l.made }

theorem withOffer_offered (hfree : l.updater.blocked r = false) (rescue : Bool) (nowMs : UInt32) :
    Offered r l (l.withOffer r rescue nowMs) := ⟨hfree, rfl, rfl, rfl, rfl, rfl, rfl, rfl⟩

theorem Kept.offered_moves (h : l.Kept) (hfree : l.updater.blocked r = false) (rescue : Bool)
    (nowMs : UInt32) :
    let m := l.withOffer r rescue nowMs
    let l' := l.noted (l.updater.offered r rescue nowMs) (fun _ => false) (some r) l.images
    Offered r l m ∧ (Forgiven (fun _ => false) m l' ∨ ∃ r', Charged r' m l') := by
  intro m l'
  have hoffered := withOffer_offered hfree rescue nowMs
  refine ⟨hoffered, ?_⟩
  cases rescue with
  | true =>
      exact (h.offered hoffered).charge_moves (u := l.updater.offered r true nowMs) rfl rfl
        (.inr ⟨(WallUpdater.charge_same m.updater).row, rfl⟩)
  | false =>
      exact .inl (forgiven_moves (l := m) (fun _ => rfl) (fun _ => rfl) (.inr ⟨rfl, rfl⟩) (.inl rfl))

/-- **One call is a move, or an offer and a move.** -/
theorem Kept.step_moves {count : Nat} {c : UpdaterCall} (h : l.Kept)
    (hstep : step count l c = some l') :
    (∃ forgives, Forgiven forgives l l' ∧ ∀ r, forgives r = l.updater.forgives r c) ∨
      (∃ r, Charged r l l') ∨
      ∃ r m, Offered r l m ∧ l.updater.offersTo count c = some r ∧
        (Forgiven (fun _ => false) m l' ∨ ∃ r', Charged r' m l') := by
  unfold step at hstep
  rw [Option.some.injEq] at hstep
  subst hstep
  cases hoffer : l.updater.offersTo count c with
  | none =>
      have himages : l.imagesAfter c = l.images ∨ ∀ r, l.updater.forgives r c = true := by
        cases c with
        | newImage nowMs => exact .inr fun _ => rfl
        | _ => exact .inl rfl
      rcases l.updater.call_does count c hoffer with
        ⟨hattempts, hblocked, hrow⟩ | ⟨hnone, hattempts, hblocked, hrow⟩
      · exact .inl ⟨_, forgiven_moves hattempts hblocked hrow himages, fun _ => rfl⟩
      · have hsame : l.imagesAfter c = l.images :=
          himages.resolve_right fun hall => absurd ((hall 0).symm.trans (hnone 0)) (by decide)
        rw [hsame, show (fun r => l.updater.forgives r c) = fun _ => false from funext hnone]
        rcases h.charge_moves hattempts hblocked hrow with hmove | hmove
        · exact .inl ⟨_, hmove, fun r => (hnone r).symm⟩
        · exact .inr (.inl hmove)
  | some r =>
      obtain ⟨rows, storedRev, nowMs, rfl, hcandidate, hcall⟩ := WallUpdater.offersTo_some hoffer
      have hfree := WallUpdater.wants_free (WallUpdater.nextCandidateAmong_some hcandidate).1
      rw [hcall]
      exact .inr (.inr ⟨r, _, (h.offered_moves hfree _ nowMs).1, rfl,
        (h.offered_moves hfree _ nowMs).2⟩)

theorem step_kept {count : Nat} {c : UpdaterCall} (h : l.Kept)
    (hstep : step count l c = some l') : l'.Kept := by
  rcases h.step_moves hstep with ⟨_, hmove, _⟩ | ⟨r, hmove⟩ | ⟨r, m, hoffered, _, hmove⟩
  · exact h.forgiven hmove
  · exact h.charged hmove
  · have hm := h.offered hoffered
    rcases hmove with hmove | ⟨r', hmove⟩
    · exact hm.forgiven hmove
    · exact hm.charged hmove

end UpdateLedger

/-- A row is named exactly while an offer is out, whatever is called. -/
theorem WallUpdater.call_named {u : WallUpdater} (count : Nat) (c : UpdaterCall) (h : u.Named) :
    (u.call count c).Named := by
  have hends : ∀ {r : RowIx} {answer : Option WallUpdateEnd × WallUpdater},
      Ends u r answer → answer.2.Named := by
    intro r answer hanswer
    cases hwhy : answer.1 with
    | none => exact (hanswer.same hwhy).named h
    | some why =>
        obtain ⟨_, hidle, hrow⟩ := hanswer.ended (by rw [hwhy]; exact fun hno => nomatch hno)
        exact ⟨fun _ => hrow, fun _ => hidle⟩
  cases c with
  | offer rows storedRev sent nowMs =>
      cases hoffer : u.offersTo count (.offer rows storedRev sent nowMs) with
      | none =>
          unfold call
          dsimp only
          rw [hoffer]
          exact h
      | some r =>
          obtain ⟨_, _, _, _, _, hcall⟩ := offersTo_some hoffer
          rw [hcall]
          obtain ⟨hphase, hrow⟩ := u.offered_out r _ _
          exact ⟨fun hno => absurd hno hphase, fun hno => by rw [hrow] at hno; cases hno⟩
  | answer r state storedRev nowMs => exact hends (u.answer_ends r state storedRev nowMs)
  | hello r rev rescue restarted storedRev nowMs =>
      exact hends (u.hello_ends r rev rescue restarted storedRev nowMs)
  | tick nowMs =>
      cases hrow : u.row with
      | none =>
          have hidle : u.tick nowMs = (none, u) := by
            unfold tick
            rw [h.mpr hrow]
          show (u.tick nowMs).2.Named
          rw [hidle]
          exact h
      | some r => exact hends (tick_ends hrow nowMs)
  | noteRev r oldRev newRev => exact (u.noteRev_same r oldRev newRev).named h
  | health r well nowMs => exact (u.health_same r well nowMs).named h
  | newImage nowMs => exact (u.newImage_same nowMs).named h
  | retry r => exact (u.retry_same r).named h
  | reset => exact ⟨fun _ => rfl, fun _ => rfl⟩

namespace UpdateLedger

variable {l l' : UpdateLedger} {r : RowIx}

/-! ## §7. Every run. -/

theorem run_kept {count : Nat} {calls : List UpdaterCall}
    (hrun : run (step count) {} calls = some l) : l.Kept :=
  run_invariant (P := Kept) (fun _ _ _ h hstep => step_kept h hstep) .start hrun

/-- A charge is one offer's. -/
theorem Kept.count_costs (h : l.Kept) (c : RowIx × Nat) :
    l.costs.count c = l.made.countP fun o => c ∈ o.costs := by
  unfold costs
  have honce := fun o ho => (h.once o ho).1
  generalize l.made = made at honce
  induction made with
  | nil => rfl
  | cons o rest ih =>
      have hle := honce o List.mem_cons_self
      have hone : o.costs.count c = if c ∈ o.costs then 1 else 0 := by
        split
        · next hmem =>
            have hpos := List.count_pos_iff.mpr hmem
            have hbound := List.count_le_length (a := c) (l := o.costs)
            omega
        · next hmem => exact List.count_eq_zero.mpr hmem
      rw [List.flatMap_cons, List.count_append, List.countP_cons, hone,
        ih fun o' ho' => honce o' (List.mem_cons_of_mem _ ho'), Nat.add_comm]
      simp

/-- **A row's update budget.**  In every run a row is blocked exactly from its
third attempt on; an offer costs one attempt at most, of its own row; the
attempts of a row are the offers charged to it since it was last forgiven; a
blocked row is no candidate, so three offers at most are charged to a row
between two events that forgive it; and one row at most has an offer out. -/
theorem update_budget (count : Nat) (calls : List UpdaterCall) (l : UpdateLedger)
    (hrun : run (step count) {} calls = some l) :
    (∀ r, l.updater.blocked r = true ↔ WALL_UPDATE_ATTEMPT_CAP ≤ l.updater.attempts r) ∧
      (∀ o ∈ l.made, o.costs.length ≤ 1 ∧ ∀ c ∈ o.costs, c.1 = o.row) ∧
      (∀ r, (l.updater.attempts r).toNat =
        l.made.countP fun o => (r, l.forgiven r) ∈ o.costs) ∧
      (∀ rows storedRev nowMs r,
        l.updater.nextCandidateAmong rows count storedRev nowMs = some r →
          l.updater.blocked r = false) ∧
      (∀ r k, (l.made.countP fun o => (r, k) ∈ o.costs) ≤ WALL_UPDATE_ATTEMPT_CAP.toNat) ∧
      (l.updater.phase = .idle ↔ l.updater.row = none) := by
  have hkept := run_kept hrun
  have hnamed : l.updater.Named := by
    refine run_invariant (P := fun l : UpdateLedger => l.updater.Named) ?_
      ⟨fun _ => rfl, fun _ => rfl⟩ hrun
    intro m c m' hm hstep
    unfold step at hstep
    rw [Option.some.injEq] at hstep
    subst hstep
    exact WallUpdater.call_named count c hm
  refine ⟨hkept.blocked, hkept.once, ?_, ?_, ?_, hnamed⟩
  · intro r
    rw [hkept.counted r, hkept.count_costs]
  · intro rows storedRev nowMs r hcandidate
    exact WallUpdater.wants_free (WallUpdater.nextCandidateAmong_some hcandidate).1
  · intro r k
    rw [← hkept.count_costs]
    exact hkept.cap r k

/-- Row 0 alone is on the wall, on rev `1`. -/
def oneOldRow (r : RowIx) : WallUpdateRow :=
  if r = 0 then { reachable := true, rev := [49] } else {}

/-- It is offered the stored image, and fails to install it. -/
def failedOffer (storedRev : CStr) (nowMs : UInt32) : List UpdaterCall :=
  [.offer oneOldRow storedRev true nowMs,
    .answer 0 { rev := storedRev, phase := .failed } storedRev nowMs]

theorem update_budget_spent :
    ∃ l : UpdateLedger,
      run (step 8) {} (failedOffer [50] 0 ++ failedOffer [50] 30000 ++ failedOffer [50] 60000) = some l ∧
        l.updater.blocked 0 = true ∧ l.made.length = 3 ∧
        l.updater.nextCandidateAmong oneOldRow 8 [50] 90000 = none ∧
        (∀ r, l.updater.blocked r = true ↔ WALL_UPDATE_ATTEMPT_CAP ≤ l.updater.attempts r) ∧
        (∀ o ∈ l.made, o.costs.length ≤ 1 ∧ ∀ c ∈ o.costs, c.1 = o.row) ∧
        (∀ r, (l.updater.attempts r).toNat =
          l.made.countP fun o => (r, l.forgiven r) ∈ o.costs) ∧
        (∀ rows storedRev nowMs r,
          l.updater.nextCandidateAmong rows 8 storedRev nowMs = some r →
            l.updater.blocked r = false) ∧
        (∀ r k, (l.made.countP fun o => (r, k) ∈ o.costs) ≤ WALL_UPDATE_ATTEMPT_CAP.toNat) ∧
        (l.updater.phase = .idle ↔ l.updater.row = none) := by
  have hspent : (run (step 8) {}
      (failedOffer [50] 0 ++ failedOffer [50] 30000 ++ failedOffer [50] 60000)).map
      (fun l => (l.updater.blocked 0, l.made.length,
        l.updater.nextCandidateAmong oneOldRow 8 [50] 90000)) = some (true, 3, none) := by
    decide +kernel
  obtain ⟨l, hrun, hl⟩ := Option.map_eq_some_iff.mp hspent
  rw [Prod.mk.injEq, Prod.mk.injEq] at hl
  exact ⟨l, hrun, hl.1, hl.2.1, hl.2.2, update_budget 8 _ l hrun⟩

end UpdateLedger

end SplitFlap
