/-
  SplitFlap.Unit.ReflashRun — what a reflash run does to the units, and how it
  counts it.

  Everything is read off the log of hook calls (`Account`): a unit's turn lies
  between two publications of the progress, its outcome is that of the last
  flash in it.  `InPlan` is what each call may be, `Books` and `Going` what
  the run's locals say about the account.
-/
import Mathlib.Data.List.Induction
import SplitFlap.Unit.Reflash

namespace SplitFlap.Unit

open Trace

/-! ## §1. The account of a log. -/

/-- A unit's turn: whether the unit may be flashed (the image does not fit, or
it was in its bootloader), and the flashes so far. -/
structure Turn where
  addr : UInt8
  ready : Bool := false
  flashes : Nat := 0
  outcome : ReflashUnitOutcome := .notEntered
  deriving Repr, DecidableEq

def Turn.hear (t : Turn) : ReflashEvent → Turn
  | .imageFits false => { t with ready := true }
  | .inBootloader addr true => if addr = t.addr then { t with ready := true } else t
  | .flashUnit _ outcome => { t with flashes := t.flashes + 1, outcome := outcome }
  | _ => t

/-- The open turn, the completed ones, the units that run their sketch again
and those that were waited for. -/
structure Account where
  turn : Option Turn := none
  turns : List Turn := []
  flashed : List UInt8 := []
  settled : List UInt8 := []
  deriving Repr, DecidableEq

/-- A publication opens a turn and the next one completes it; those of the
settling do neither. -/
def Account.step (a : Account) : ReflashEvent → Account
  | .progressChanged p =>
      if p.state = .settling then a
      else match a.turn with
        | none => { a with turn := some { addr := p.currentAddr } }
        | some t => { a with turn := none, turns := a.turns ++ [t] }
  | .unitFlashed addr => { a with flashed := a.flashed ++ [addr] }
  | .settleBatch addrs => { a with settled := a.settled ++ addrs }
  | e => { a with turn := a.turn.map (·.hear e) }

def account (log : List ReflashEvent) : Account := log.foldl Account.step {}

@[simp] theorem account_snoc (log : List ReflashEvent) (e : ReflashEvent) :
    account (log ++ [e]) = (account log).step e := by
  unfold account
  rw [List.foldl_append]
  rfl

/-- The account once the open turn is completed. -/
def Account.complete (a : Account) (t : Turn) : Account :=
  { a with turn := none, turns := a.turns ++ [t] }

theorem step_opens {a : Account} {p : ReflashProgress} (hstate : p.state ≠ .settling)
    (hnone : a.turn = none) :
    a.step (.progressChanged p) = { a with turn := some { addr := p.currentAddr } } := by
  unfold Account.step
  dsimp only
  rw [if_neg hstate, hnone]

theorem step_completes {a : Account} {t : Turn} {p : ReflashProgress}
    (hstate : p.state ≠ .settling) (hturn : a.turn = some t) :
    a.step (.progressChanged p) = a.complete t := by
  unfold Account.step
  dsimp only
  rw [if_neg hstate, hturn]
  rfl

def Account.outcomes (a : Account) : List ReflashUnitOutcome := a.turns.map (·.outcome)

def Account.addrs (a : Account) : List UInt8 := a.turns.map (·.addr)

/-! ## §2. Two failures with no success between them. -/

def FailedTwice (outcomes : List ReflashUnitOutcome) : Prop :=
  ∃ pre mid post, outcomes = pre ++ .failed :: (mid ++ .failed :: post) ∧ .flashed ∉ mid

/-- The failures since the last success. -/
def failuresAfter (n : Nat) : ReflashUnitOutcome → Nat
  | .flashed => 0
  | .failed => n + 1
  | _ => n

def streak (outcomes : List ReflashUnitOutcome) : Nat := outcomes.foldl failuresAfter 0

@[simp] theorem streak_snoc (outcomes : List ReflashUnitOutcome) (o : ReflashUnitOutcome) :
    streak (outcomes ++ [o]) = failuresAfter (streak outcomes) o := by
  unfold streak
  rw [List.foldl_append]
  rfl

theorem streak_pos_iff (outcomes : List ReflashUnitOutcome) :
    0 < streak outcomes ↔ ∃ pre mid, outcomes = pre ++ .failed :: mid ∧ .flashed ∉ mid := by
  induction outcomes using List.reverseRecOn with
  | nil => simp [streak]
  | append_singleton outcomes o ih =>
      rw [streak_snoc]
      constructor
      · intro hpos
        by_cases hfailed : o = .failed
        · exact ⟨outcomes, [], by rw [hfailed], List.not_mem_nil⟩
        · by_cases hflashed : o = .flashed
          · rw [hflashed] at hpos
            exact absurd hpos (Nat.lt_irrefl 0)
          · have hsame : failuresAfter (streak outcomes) o = streak outcomes := by
              cases o <;> first | rfl | contradiction
            rw [hsame] at hpos
            obtain ⟨pre, mid, hsplit, hmid⟩ := ih.mp hpos
            refine ⟨pre, mid ++ [o], by rw [hsplit]; simp, ?_⟩
            intro hmem
            rcases List.mem_append.mp hmem with h | h
            · exact hmid h
            · exact hflashed (List.mem_singleton.mp h).symm
      · rintro ⟨pre, mid, hsplit, hmid⟩
        -- the last outcome is the failure itself, or comes after it
        induction mid using List.reverseRecOn with
        | nil =>
            have hlast := (List.append_inj' hsplit rfl).2
            injection hlast with hlast
            rw [hlast]
            exact Nat.succ_pos _
        | append_singleton mid o' _ =>
            rw [← List.cons_append, ← List.append_assoc] at hsplit
            obtain ⟨hinit, hlast⟩ := List.append_inj' hsplit rfl
            injection hlast with hlast
            have hmid' : .flashed ∉ mid := fun h => hmid (List.mem_append_left _ h)
            have hpos := ih.mpr ⟨pre, mid, hinit, hmid'⟩
            have ho : o ≠ .flashed := by
              rintro rfl
              exact hmid (by rw [← hlast]; simp)
            cases o with
            | flashed => exact absurd rfl ho
            | failed => exact Nat.succ_pos _
            | stopped => exact hpos
            | notEntered => exact hpos

/-- A run has failed twice once it had, or fails while a failure is open. -/
theorem failedTwice_snoc (outcomes : List ReflashUnitOutcome) (o : ReflashUnitOutcome) :
    FailedTwice (outcomes ++ [o]) ↔
      FailedTwice outcomes ∨ (o = .failed ∧ 0 < streak outcomes) := by
  constructor
  · rintro ⟨pre, mid, post, hsplit, hmid⟩
    induction post using List.reverseRecOn with
    | nil =>
        rw [← List.cons_append, ← List.append_assoc] at hsplit
        obtain ⟨hinit, hlast⟩ := List.append_inj' hsplit rfl
        injection hlast with hlast
        exact .inr ⟨hlast, (streak_pos_iff outcomes).mpr ⟨pre, mid, hinit, hmid⟩⟩
    | append_singleton post o' _ =>
        have hshift : pre ++ ReflashUnitOutcome.failed :: (mid ++ .failed :: (post ++ [o'])) =
            (pre ++ .failed :: (mid ++ .failed :: post)) ++ [o'] := by simp
        rw [hshift] at hsplit
        exact .inl ⟨pre, mid, post, (List.append_inj' hsplit rfl).1, hmid⟩
  · rintro (⟨pre, mid, post, hsplit, hmid⟩ | ⟨rfl, hpos⟩)
    · exact ⟨pre, mid, post ++ [o], by rw [hsplit]; simp, hmid⟩
    · obtain ⟨pre, mid, hsplit, hmid⟩ := (streak_pos_iff outcomes).mp hpos
      exact ⟨pre, mid, [], by rw [hsplit]; simp, hmid⟩

/-- While it has not failed twice, a run has two failures open only by failing
twice. -/
theorem two_open_iff {outcomes : List ReflashUnitOutcome} (hcalm : ¬ FailedTwice outcomes)
    (hlow : streak outcomes < 2) (o : ReflashUnitOutcome) :
    2 ≤ streak (outcomes ++ [o]) ↔ FailedTwice (outcomes ++ [o]) := by
  rw [failedTwice_snoc, streak_snoc]
  cases o with
  | failed =>
      show 2 ≤ streak outcomes + 1 ↔ _
      constructor
      · intro htwo
        exact .inr ⟨rfl, by omega⟩
      · rintro (htwice | ⟨_, hpos⟩)
        · exact absurd htwice hcalm
        · omega
  | flashed =>
      show 2 ≤ 0 ↔ _
      constructor
      · intro htwo
        omega
      · rintro (htwice | ⟨hno, _⟩)
        · exact absurd htwice hcalm
        · cases hno
  | stopped =>
      show 2 ≤ streak outcomes ↔ _
      constructor
      · intro htwo
        omega
      · rintro (htwice | ⟨hno, _⟩)
        · exact absurd htwice hcalm
        · cases hno
  | notEntered =>
      show 2 ≤ streak outcomes ↔ _
      constructor
      · intro htwo
        omega
      · rintro (htwice | ⟨hno, _⟩)
        · exact absurd htwice hcalm
        · cases hno

/-! ## §3. The calls of a run. -/

variable (B : Nat) (targets : List UInt8)

/-- What each call may be, after the log so far. -/
def InPlan (log : List ReflashEvent) : ReflashEvent → Prop
  | .progressChanged p => p.state ≠ .settling → (account log).turn = none →
      (account log).addrs ++ [p.currentAddr] <+: targets
  | .flashUnit addr _ => ∃ t, (account log).turn = some t ∧ t.addr = addr ∧ t.ready = true ∧
      t.flashes < REFLASH_UNIT_ATTEMPTS
  | .unitFlashed addr => ∃ t, (account log).turn = some t ∧ t.addr = addr ∧ t.outcome = .flashed
  | .settleBatch addrs => (account log).flashed = (account log).settled ++ addrs ∧
      0 < addrs.length ∧ addrs.length ≤ B
  | .runHalted _ _ => FailedTwice (account log).outcomes
  | _ => True

variable {B targets} {a : Account} {t : Turn} {log : List ReflashEvent}

/-- A turn is open, with all but `ready` known. -/
def Turned (a : Account) (t : Turn) (log : List ReflashEvent) : Prop :=
  ∃ r, account log = { a with turn := some { t with ready := r } }

/-- A turn is open, and its unit may be flashed. -/
def Ready (a : Account) (t : Turn) (log : List ReflashEvent) : Prop :=
  account log = { a with turn := some { t with ready := true } }

theorem Ready.turned (h : Ready a t log) : Turned a t log := ⟨true, h⟩

/-- A call that says nothing about the units leaves the account alone. -/
theorem account_quiet {e : ReflashEvent} (log : List ReflashEvent)
    (hstep : ∀ a : Account, a.step e = { a with turn := a.turn.map (·.hear e) })
    (hhear : ∀ t : Turn, t.hear e = t) : account (log ++ [e]) = account log := by
  have hid : (fun t : Turn => t.hear e) = id := funext hhear
  rw [account_snoc, hstep, hid, Option.map_id, id]

theorem stopRequested_does (h : ReflashHooks) (ht : Turned a t log) :
    Does (InPlan B targets) (stopRequested h) log fun _ log' => Turned a t log' := by
  refine does_ask trivial ?_
  unfold Turned
  rw [account_quiet log (fun _ => rfl) (fun _ => rfl)]
  exact ht

theorem pause_does (ms : UInt32) (ht : Turned a t log) :
    Does (InPlan B targets) (say (.pause ms)) log fun _ log' => Turned a t log' := by
  refine does_say trivial ?_
  unfold Turned
  rw [account_quiet log (fun _ => rfl) (fun _ => rfl)]
  exact ht

/-- What a question about the unit tells of its turn. -/
abbrev Answered (a : Account) (t : Turn) (on : Bool) (log : List ReflashEvent) : Prop :=
  Turned a t log ∧ (on = true → Ready a t log)

theorem inBootloader_does (h : ReflashHooks) (ht : Turned a t log) :
    Does (InPlan B targets) (inBootloader h t.addr) log (Answered a t) := by
  obtain ⟨r, hr⟩ := ht
  refine does_ask trivial ?_
  cases hon : h.inBootloader log t.addr with
  | false =>
      refine ⟨⟨r, ?_⟩, fun hno => nomatch hno⟩
      rw [account_snoc, hr]
      rfl
  | true =>
      have hready : Ready a t (log ++ [.inBootloader t.addr true]) := by
        unfold Ready
        rw [account_snoc, hr]
        show Account.mk (some (if t.addr = t.addr then _ else _)) _ _ _ = _
        rw [if_pos rfl]
      exact ⟨hready.turned, fun _ => hready⟩

theorem imageFits_does (h : ReflashHooks) (ht : Turned a t log) :
    Does (InPlan B targets) (imageFits h) log fun fits log' => Answered a t (!fits) log' := by
  obtain ⟨r, hr⟩ := ht
  refine does_ask trivial ?_
  cases hon : h.imageFits log with
  | false =>
      have hready : Ready a t (log ++ [.imageFits false]) := by
        unfold Ready
        rw [account_snoc, hr]
        rfl
      exact ⟨hready.turned, fun _ => hready⟩
  | true =>
      refine ⟨⟨r, ?_⟩, fun hno => nomatch hno⟩
      rw [account_snoc, hr]
      rfl

/-! ## §4. One unit's turn. -/

theorem enterProbes_does (h : ReflashHooks) :
    ∀ (more : Nat) {log : List ReflashEvent}, Turned a t log →
      Does (InPlan B targets) (enterProbes h t.addr more) log (Answered a t)
  | 0, _, ht => inBootloader_does h ht
  | more + 1, log, ht => by
      unfold enterProbes
      refine does_bind (inBootloader_does h ht) fun there said hthere => ?_
      split
      · next hyes => exact does_ret ⟨hthere.1, fun _ => hthere.2 hyes⟩
      · refine does_bind (pause_does _ hthere.1) fun _ more' hmore => ?_
        exact enterProbes_does h more hmore

theorem reflashEnterUnit_does (h : ReflashHooks) (ht : Turned a t log) :
    Does (InPlan B targets) (reflashEnterUnit h t.addr) log (Answered a t) := by
  unfold reflashEnterUnit
  refine does_bind (inBootloader_does h ht) fun there said hthere => ?_
  split
  · next hyes => exact does_ret ⟨hthere.1, fun _ => hthere.2 hyes⟩
  · refine does_bind (p := fun _ log' => Turned a t log') ?_ fun status more hmore => ?_
    · refine does_ask trivial ?_
      unfold Turned
      rw [account_quiet _ (fun _ => rfl) (fun _ => rfl)]
      exact hthere.1
    · split
      · exact does_ret ⟨hmore, fun hno => nomatch hno⟩
      · exact does_bind (pause_does _ hmore) fun _ _ hpaused => enterProbes_does h _ hpaused

theorem awaitHandReset_does (h : ReflashHooks) (waitMs : UInt32) :
    ∀ (fuel : Nat) (waited : UInt32) {log : List ReflashEvent}, Turned a t log →
      Does (InPlan B targets) (awaitHandResetLoop h t.addr waitMs fuel waited) log (Answered a t)
  | 0, _, _, _ => does_stuck
  | fuel + 1, waited, log, ht => by
      unfold awaitHandResetLoop
      split
      · refine does_bind (stopRequested_does h ht) fun stop said hstop => ?_
        split
        · exact does_ret ⟨hstop, fun hno => nomatch hno⟩
        · refine does_bind (pause_does _ hstop) fun _ more hmore => ?_
          refine does_bind (inBootloader_does h hmore) fun there tail hthere => ?_
          split
          · next hyes => exact does_ret ⟨hthere.1, fun _ => hthere.2 hyes⟩
          · exact awaitHandReset_does h waitMs fuel _ hthere.1
      · exact does_ret ⟨ht, fun hno => nomatch hno⟩

theorem askNotEntered_does (h : ReflashHooks) (ht : Turned a t log) :
    Does (InPlan B targets) (askNotEntered h t.addr) log
      fun notEntered log' => Answered a t (!notEntered) log' := by
  unfold askNotEntered
  refine does_bind (imageFits_does h ht) fun fits said hfits => ?_
  split
  · refine does_bind (reflashEnterUnit_does h hfits.1) fun entered more hentered => ?_
    refine does_ret ⟨hentered.1, ?_⟩
    intro hin
    rw [Bool.not_not] at hin
    exact hentered.2 hin
  · next hno => exact does_ret ⟨hfits.1, fun _ => hfits.2 (by simpa using hno)⟩

/-- The turn up to the first flash: a unit that is `ready` may be flashed. -/
theorem reflashEntry_does (h : ReflashHooks) (fuel : Nat) (waitMs : UInt32)
    (ht : Turned a t log) :
    Does (InPlan B targets) (reflashEntry h fuel t.addr waitMs) log
      fun entry log' => Turned a t log' ∧ (entry = .ready → Ready a t log') := by
  unfold reflashEntry
  refine does_bind (askNotEntered_does h ht) fun notEntered said hasked => ?_
  split
  · refine does_bind (p := fun _ log' => Turned a t log') ?_ fun _ more hmore => ?_
    · refine does_say trivial ?_
      unfold Turned
      rw [account_quiet _ (fun _ => rfl) (fun _ => rfl)]
      exact hasked.1
    · unfold reflashAwaitHandReset
      refine does_bind (awaitHandReset_does h waitMs fuel 0 hmore) fun reset tail hreset => ?_
      split
      · refine does_bind (stopRequested_does h hreset.1) fun stop last hstop => ?_
        refine does_ret ⟨hstop, ?_⟩
        intro hready
        split at hready <;> cases hready
      · next hyes => exact does_ret ⟨hreset.1, fun _ => hreset.2 (by simpa using hyes)⟩
  · refine does_ret ⟨hasked.1, ?_⟩
    intro hready
    cases notEntered with
    | true => cases hready
    | false => exact hasked.2 rfl

/-- A flash of a unit that may be flashed. -/
theorem flashUnit_does (h : ReflashHooks) (ht : Ready a t log)
    (hleft : t.flashes < REFLASH_UNIT_ATTEMPTS) :
    Does (InPlan B targets) (flashUnit h t.addr) log fun outcome log' =>
      Turned a { t with flashes := t.flashes + 1, outcome := outcome } log' := by
  refine does_ask ⟨{ t with ready := true }, by rw [ht], rfl, rfl, hleft⟩ ?_
  refine ⟨true, ?_⟩
  rw [account_snoc, ht]
  rfl

/-- A turn whose flashes are over. -/
def Flashed (a : Account) (addr : UInt8) (outcome : ReflashUnitOutcome)
    (log : List ReflashEvent) : Prop :=
  ∃ t, account log = { a with turn := some t } ∧ t.addr = addr ∧ t.outcome = outcome

theorem Turned.flashed (h : Turned a t log) : Flashed a t.addr t.outcome log := by
  obtain ⟨r, hr⟩ := h
  exact ⟨_, hr, rfl, rfl⟩

theorem retryLoop_does (h : ReflashHooks) :
    ∀ (left attempt : Nat) (t : Turn) {log : List ReflashEvent},
      Turned a t log → t.flashes + left ≤ REFLASH_UNIT_ATTEMPTS →
      Does (InPlan B targets) (retryLoop h t.addr left attempt t.outcome) log
        (Flashed a t.addr)
  | 0, _, _, _, ht, _ => does_ret ht.flashed
  | left + 1, attempt, t, log, ht, hleft => by
      unfold retryLoop
      split
      · refine does_bind (p := fun again log' => Answered a t again log') ?_
          fun again said hagain => ?_
        · unfold askStillThere
          refine does_bind (imageFits_does h ht) fun fits more hfits => ?_
          split
          · exact inBootloader_does h hfits.1
          · exact does_ret ⟨hfits.1, fun hno => nomatch hno⟩
        · split
          · next hyes =>
              refine does_bind (p := fun _ log' => Ready a t log') ?_ fun _ more hmore => ?_
              · refine does_say trivial ?_
                unfold Ready
                rw [account_quiet _ (fun _ => rfl) (fun _ => rfl)]
                exact hagain.2 hyes
              · refine does_bind (flashUnit_does h hmore (by omega)) fun outcome tail hflash => ?_
                exact retryLoop_does h left (attempt + 1) _ hflash
                  (show t.flashes + 1 + left ≤ _ by omega)
          · exact does_ret hagain.1.flashed
      · exact does_ret ht.flashed

theorem flashAttempts_does (h : ReflashHooks) (ht : Ready a t log) (hnone : t.flashes = 0) :
    Does (InPlan B targets) (flashAttempts h t.addr) log (Flashed a t.addr) := by
  unfold flashAttempts
  refine does_bind (flashUnit_does h ht (by rw [hnone]; decide)) fun outcome said hflash => ?_
  exact retryLoop_does h _ _ _ hflash (by show t.flashes + 1 + 2 ≤ 3; omega)

/-! ## §5. The books of a run. -/

def flashedTurns (a : Account) : Nat := a.turns.countP (·.outcome == .flashed)

def otherTurns (a : Account) : Nat := a.turns.countP (·.outcome != .flashed)

/-- What the run's locals say about the account. -/
structure Books (B : Nat) (a : Account) (run : ReflashRun) : Prop where
  batch : a.flashed = a.settled ++ run.batch
  room : run.batch.length < B
  done : run.progress.done = UInt8.ofNat (flashedTurns a)
  failed : run.progress.failed = UInt8.ofNat (otherTurns a)
  flashed : run.runEnd.flashed = run.progress.done
  named : a.flashed = (a.turns.filter (·.outcome == .flashed)).map (·.addr)

/-- A run that goes on has not failed twice. -/
structure Going (B : Nat) (a : Account) (run : ReflashRun) : Prop extends Books B a run where
  failures : run.consecutiveFailures.toNat = streak a.outcomes
  low : streak a.outcomes < 2
  calm : ¬ FailedTwice a.outcomes
  uncancelled : run.runEnd.cancelled = false
  unhalted : run.runEnd.halted = false

/-- A run that has ended halted if and only if it failed twice. -/
structure Ended (B : Nat) (a : Account) (run : ReflashRun) : Prop extends Books B a run where
  halted : run.runEnd.halted = true ↔ FailedTwice a.outcomes

theorem Going.ended {run : ReflashRun} (h : Going B a run) : Ended B a run :=
  { h.toBooks with
    halted := by
      rw [h.unhalted]
      exact ⟨fun hno => (nomatch hno), fun htwice => absurd htwice h.calm⟩ }

theorem complete_turns (a : Account) (t : Turn) : (a.complete t).turns = a.turns ++ [t] := rfl

@[simp] theorem complete_outcomes (a : Account) (t : Turn) :
    (a.complete t).outcomes = a.outcomes ++ [t.outcome] := by
  unfold Account.outcomes Account.complete
  rw [List.map_append]
  rfl

@[simp] theorem complete_addrs (a : Account) (t : Turn) :
    (a.complete t).addrs = a.addrs ++ [t.addr] := by
  unfold Account.addrs Account.complete
  rw [List.map_append]
  rfl

theorem complete_flashedTurns (a : Account) (t : Turn) :
    flashedTurns (a.complete t) = flashedTurns a + if t.outcome = .flashed then 1 else 0 := by
  unfold flashedTurns Account.complete
  rw [List.countP_append, List.countP_singleton]
  simp only [beq_iff_eq]

theorem complete_otherTurns (a : Account) (t : Turn) :
    otherTurns (a.complete t) = otherTurns a + if t.outcome = .flashed then 0 else 1 := by
  unfold otherTurns Account.complete
  rw [List.countP_append, List.countP_singleton]
  by_cases hflashed : t.outcome = .flashed
  · simp [hflashed]
  · simp [hflashed]

theorem flashed_add_other (a : Account) : flashedTurns a + otherTurns a = a.turns.length := by
  unfold flashedTurns otherTurns
  rw [List.length_eq_countP_add_countP (·.outcome == .flashed)]
  refine congrArg _ (List.countP_congr ?_)
  intro t _
  simp

/-- The progress after a turn's result. -/
theorem unitResult_counts (p : ReflashProgress) (o : ReflashUnitOutcome) (t : Turn)
    (ht : t.outcome = o) (hdone : p.done = UInt8.ofNat (flashedTurns a))
    (hfailed : p.failed = UInt8.ofNat (otherTurns a)) :
    (reflashProgressUnitResult p (o == .flashed)).done =
        UInt8.ofNat (flashedTurns (a.complete t)) ∧
      (reflashProgressUnitResult p (o == .flashed)).failed =
        UInt8.ofNat (otherTurns (a.complete t)) := by
  rw [complete_flashedTurns, complete_otherTurns, ht]
  unfold reflashProgressUnitResult
  by_cases hflashed : o = .flashed
  · rw [hflashed]
    refine ⟨?_, hfailed⟩
    show p.done + 1 = UInt8.ofNat (flashedTurns a + 1)
    rw [hdone, UInt8.ofNat_add]
    rfl
  · have hne : (o == ReflashUnitOutcome.flashed) = false := by simpa using hflashed
    rw [hne, if_neg hflashed, if_neg hflashed]
    refine ⟨hdone, ?_⟩
    show p.failed + 1 = UInt8.ofNat (otherTurns a + 1)
    rw [hfailed, UInt8.ofNat_add]
    rfl

theorem publish_does (run : ReflashRun) {post : Unit → List ReflashEvent → Prop}
    (hok : InPlan B targets log (.progressChanged run.progress))
    (hpost : post () (log ++ [.progressChanged run.progress])) :
    Does (InPlan B targets) (publish run) log post :=
  does_say hok hpost

/-- A publication inside a turn completes it. -/
theorem publish_completes (run : ReflashRun) (hstate : run.progress.state ≠ .settling)
    (hlog : account log = { a with turn := some t }) :
    Does (InPlan B targets) (publish run) log
      fun _ log' => account log' = a.complete t := by
  refine publish_does run ?_ ?_
  · intro _ hnone
    rw [hlog] at hnone
    cases hnone
  · rw [account_snoc, hlog, step_completes hstate rfl]
    rfl

/-- Settling waits for the whole batch. -/
theorem settle_does {size : Nat} (hsize : 0 < size) {run : ReflashRun}
    (hnone : (account log).turn = none)
    (hbatch : (account log).flashed = (account log).settled ++ run.batch)
    (hroom : run.batch.length ≤ B) :
    Does (InPlan B targets) (settle size run) log fun run' log' =>
      (account log').turn = none ∧ (account log').turns = (account log).turns ∧
        (account log').flashed = (account log).flashed ∧
        (account log').flashed = (account log').settled ++ run'.batch ∧
        run'.batch.length < size ∧
        run'.progress.done = run.progress.done ∧ run'.progress.failed = run.progress.failed ∧
        run'.runEnd = run.runEnd ∧ run'.consecutiveFailures = run.consecutiveFailures := by
  unfold settle
  split
  · next hfull =>
      dsimp only
      refine does_bind (p := fun _ log' => account log' = account log) ?_ fun _ said hsaid => ?_
      · refine publish_does _ (fun hstate => absurd rfl hstate) ?_
        rw [account_snoc]
        rfl
      · refine does_bind (p := fun _ log' =>
          account log' = { account log with settled := (account log).settled ++ run.batch })
          ?_ fun _ more hmore => ?_
        · refine does_say ?_ ?_
          · refine ⟨?_, Nat.lt_of_lt_of_le hsize hfull, hroom⟩
            rw [hsaid]
            exact hbatch
          · rw [account_snoc, hsaid]
            rfl
        · refine does_ret ?_
          rw [hmore]
          refine ⟨hnone, rfl, rfl, ?_, hsize, rfl, rfl, rfl, rfl⟩
          rw [List.append_nil]
          exact hbatch
  · next hless => exact does_ret ⟨hnone, rfl, rfl, hbatch, by omega, rfl, rfl, rfl, rfl⟩

/-- The units a turn's outcome adds to the batch. -/
def newlyFlashed (addr : UInt8) (o : ReflashUnitOutcome) : List UInt8 :=
  if o = .flashed then [addr] else []

theorem newlyFlashed_le (addr : UInt8) (o : ReflashUnitOutcome) :
    (newlyFlashed addr o).length ≤ 1 := by
  unfold newlyFlashed
  split
  · exact Nat.le_refl 1
  · exact Nat.zero_le 1

theorem newlyFlashed_eq (t : Turn) :
    newlyFlashed t.addr t.outcome =
      ([t].filter (·.outcome == .flashed)).map (·.addr) := by
  unfold newlyFlashed
  rw [List.filter_singleton]
  by_cases hyes : t.outcome = .flashed
  · rw [if_pos hyes, hyes]
    rfl
  · have hno : (t.outcome == ReflashUnitOutcome.flashed) = false := by simpa using hyes
    rw [if_neg hyes, hno]
    rfl

theorem noteOutcome_does {run : ReflashRun} (hlog : account log = { a with turn := some t })
    (hgoes : t.outcome ≠ .stopped) (hlow : run.consecutiveFailures.toNat < 2) :
    Does (InPlan B targets) (noteOutcome run t.addr t.outcome) log fun run' log' =>
      account log' = { a with
        turn := some t, flashed := a.flashed ++ newlyFlashed t.addr t.outcome } ∧
      run'.progress = run.progress ∧ run'.batch = run.batch ++ newlyFlashed t.addr t.outcome ∧
      run'.runEnd.flashed = run.runEnd.flashed + (if t.outcome = .flashed then 1 else 0) ∧
      run'.consecutiveFailures.toNat = failuresAfter run.consecutiveFailures.toNat t.outcome ∧
      run'.runEnd.cancelled = run.runEnd.cancelled ∧ run'.runEnd.halted = run.runEnd.halted := by
  cases ho : t.outcome with
  | stopped => exact absurd ho hgoes
  | flashed =>
      unfold noteOutcome
      refine does_bind (p := fun _ log' =>
        account log' = { a with turn := some t, flashed := a.flashed ++ [t.addr] })
        ?_ fun _ said hsaid => does_ret ⟨hsaid, rfl, rfl, rfl, rfl, rfl, rfl⟩
      refine does_say ⟨t, by rw [hlog], rfl, ho⟩ ?_
      rw [account_snoc, hlog]
      rfl
  | notEntered =>
      unfold noteOutcome
      refine does_bind (p := fun _ log' => account log' = { a with turn := some t })
        ?_ fun _ said hsaid => ?_
      · refine does_say trivial ?_
        rw [account_quiet log (fun _ => rfl) (fun _ => rfl)]
        exact hlog
      · refine does_ret ⟨?_, rfl, (List.append_nil _).symm, (UInt8.add_zero _).symm, rfl, rfl, rfl⟩
        show _ = { a with turn := some t, flashed := a.flashed ++ [] }
        rw [hsaid, List.append_nil]
  | failed =>
      unfold noteOutcome
      have hroom : run.consecutiveFailures < 0xFF := by
        rw [UInt8.lt_iff_toNat_lt]
        show run.consecutiveFailures.toNat < 255
        omega
      rw [if_pos hroom]
      refine does_ret ⟨?_, rfl, (List.append_nil _).symm, (UInt8.add_zero _).symm, ?_, rfl, rfl⟩
      · show _ = { a with turn := some t, flashed := a.flashed ++ [] }
        rw [hlog, List.append_nil]
      · show (run.consecutiveFailures + 1).toNat = run.consecutiveFailures.toNat + 1
        rw [UInt8.toNat_add]
        show (run.consecutiveFailures.toNat + 1) % 256 = _
        omega

/-- How a turn ends: the books are kept, and the run goes on only while it has
not failed twice. -/
abbrev TurnEnded (B : Nat) (a : Account) (addr : UInt8) (answer : ReflashRun × Bool)
    (log : List ReflashEvent) : Prop :=
  (account log).turn = none ∧ (account log).addrs = a.addrs ++ [addr] ∧
    Ended B (account log) answer.1 ∧ (answer.2 = true → Going B (account log) answer.1) ∧
    (answer.2 = false → answer.1.runEnd.cancelled = true ∨ answer.1.runEnd.halted = true)

/-- A turn that a stop ended. -/
theorem stopped_does {run : ReflashRun} (hgoing : Going B a run)
    (hstate : run.progress.state ≠ .settling) (hlog : account log = { a with turn := some t })
    (hfailed : t.outcome = .stopped ∨ t.outcome = .notEntered) :
    Does (InPlan B targets)
      (do publish { run with progress := reflashProgressUnitResult run.progress false }
          ret (({ run with progress := reflashProgressUnitResult run.progress false }).cancel,
            false))
      log (TurnEnded B a t.addr) := by
  refine does_bind (publish_completes _ hstate hlog) fun _ said hsaid => does_ret ?_
  have hcounts := unitResult_counts (a := a) run.progress t.outcome t rfl hgoing.done hgoing.failed
  have hother : (t.outcome == ReflashUnitOutcome.flashed) = false := by
    rcases hfailed with h | h <;> rw [h] <;> rfl
  rw [hother] at hcounts
  refine ⟨by rw [hsaid]; rfl, by rw [hsaid, complete_addrs], ?_, fun hno => (nomatch hno),
    fun _ => .inl rfl⟩
  rw [hsaid]
  refine
    { batch := hgoing.batch
      room := hgoing.room
      done := hcounts.1
      failed := hcounts.2
      flashed := hgoing.flashed
      named := ?_
      halted := ?_ }
  · show a.flashed = ((a.turns ++ [t]).filter _).map _
    rw [List.filter_append, List.filter_singleton, hother, hgoing.named]
    exact congrArg _ (List.append_nil _).symm
  · show run.runEnd.halted = true ↔ _
    rw [hgoing.unhalted, complete_outcomes, failedTwice_snoc]
    constructor
    · intro hno
      cases hno
    · rintro (htwice | ⟨hno, _⟩)
      · exact absurd htwice hgoing.calm
      · rcases hfailed with h | h <;> rw [h] at hno <;> cases hno

theorem endTurn_does (hB : 0 < B) {run : ReflashRun} {addr : UInt8} {o : ReflashUnitOutcome}
    (left : Nat) (hgoing : Going B a run) (hstate : run.progress.state ≠ .settling)
    (hlog : Flashed a addr o log) :
    Does (InPlan B targets) (endTurn B run addr left o) log (TurnEnded B a addr) := by
  obtain ⟨t, hturn, rfl, rfl⟩ := hlog
  unfold endTurn
  dsimp only
  by_cases hstop : t.outcome = .stopped
  · rw [if_pos hstop, hstop]
    exact stopped_does hgoing hstate hturn (.inl hstop)
  · rw [if_neg hstop]
    have hcounts :=
      unitResult_counts (a := a) run.progress t.outcome t rfl hgoing.done hgoing.failed
    have hlow : run.consecutiveFailures.toNat < 2 := by
      rw [hgoing.failures]
      exact hgoing.low
    refine does_bind (noteOutcome_does hturn hstop hlow) fun run' said hnote => ?_
    obtain ⟨haccount, hprogress, hbatch, hflashed, hfailures, hcancelled, hhalted⟩ := hnote
    have hstate' : run'.progress.state ≠ .settling := by
      rw [hprogress]
      unfold reflashProgressUnitResult
      split <;> exact hstate
    have hbegun : account (log ++ said) =
        { ({ a with flashed := a.flashed ++ newlyFlashed t.addr t.outcome } : Account) with
          turn := some t } := haccount
    refine does_bind (publish_completes run' hstate' hbegun) fun _ more hmore => ?_
    -- the books as they stand before the batch is settled
    have hroom : run'.batch.length ≤ B := by
      rw [show run'.batch = run.batch ++ newlyFlashed t.addr t.outcome from hbatch,
        List.length_append]
      have hone := newlyFlashed_le t.addr t.outcome
      have := hgoing.room
      omega
    have hflashedNow : (account (log ++ said ++ more)).flashed =
        a.flashed ++ newlyFlashed t.addr t.outcome := by
      rw [hmore]
      rfl
    have hkept : (account (log ++ said ++ more)).flashed =
        (account (log ++ said ++ more)).settled ++ run'.batch := by
      rw [hmore, hbatch, ← List.append_assoc]
      show a.flashed ++ _ = a.settled ++ run.batch ++ _
      rw [hgoing.batch]
    refine does_bind (settle_does hB (by rw [hmore]; rfl) hkept hroom) fun run'' tail htail => ?_
    obtain ⟨hnone, hturns, hnamed, hsettled, hless, hdone, hfailed, hend, hcf⟩ := htail
    have hflashed' : (account (log ++ said ++ more ++ tail)).flashed =
        a.flashed ++ newlyFlashed t.addr t.outcome := by
      rw [hnamed, hflashedNow]
    have hturns' : (account (log ++ said ++ more ++ tail)).turns = (a.complete t).turns := by
      rw [hturns, hmore]
      rfl
    have houtcomes : (account (log ++ said ++ more ++ tail)).outcomes = a.outcomes ++ [t.outcome] := by
      rw [← complete_outcomes]
      unfold Account.outcomes
      rw [hturns']
    have haddrs : (account (log ++ said ++ more ++ tail)).addrs = a.addrs ++ [t.addr] := by
      rw [← complete_addrs]
      unfold Account.addrs
      rw [hturns']
    have hbooks : Books B (account (log ++ said ++ more ++ tail)) run'' :=
      { batch := hsettled
        room := hless
        done := by
          rw [hdone, hprogress]
          unfold flashedTurns
          rw [hturns']
          exact hcounts.1
        failed := by
          rw [hfailed, hprogress]
          unfold otherTurns
          rw [hturns']
          exact hcounts.2
        flashed := by
          rw [hend, hdone, hprogress, hflashed, hgoing.flashed]
          unfold reflashProgressUnitResult
          by_cases hyes : t.outcome = .flashed
          · rw [hyes]
            rfl
          · have hno : (t.outcome == ReflashUnitOutcome.flashed) = false := by simpa using hyes
            rw [hno, if_neg hyes]
            exact UInt8.add_zero _
        named := by
          rw [hturns', hflashed', complete_turns, List.filter_append, List.map_append, hgoing.named,
            newlyFlashed_eq] }
    have hstreak : run''.consecutiveFailures.toNat =
        streak (account (log ++ said ++ more ++ tail)).outcomes := by
      rw [houtcomes, streak_snoc, hcf, hfailures, hgoing.failures]
    have htwo : reflashShouldHalt run''.consecutiveFailures = true ↔
        FailedTwice (account (log ++ said ++ more ++ tail)).outcomes := by
      rw [houtcomes, ← two_open_iff hgoing.calm hgoing.low, ← houtcomes, ← hstreak]
      unfold reflashShouldHalt
      rw [decide_eq_true_iff, UInt8.le_iff_toNat_le]
      exact Iff.rfl
    split
    · next hhalt =>
        have htwice := htwo.mp hhalt
        refine does_bind (p := fun _ log' =>
          account log' = account (log ++ said ++ more ++ tail)) ?_ fun _ last hlast => ?_
        · refine does_say htwice ?_
          exact account_quiet _ (fun _ => rfl) (fun _ => rfl)
        · refine does_ret ?_
          show TurnEnded B a t.addr _ _
          unfold TurnEnded
          rw [hlast]
          refine ⟨hnone, haddrs, ?_, fun hno => (nomatch hno), fun _ => .inr rfl⟩
          exact
            { batch := hbooks.batch
              room := hbooks.room
              done := hbooks.done
              failed := hbooks.failed
              flashed := hbooks.flashed
              named := hbooks.named
              halted := ⟨fun _ => htwice, fun _ => rfl⟩ }
    · next hgo =>
        have hcalm : ¬ FailedTwice (account (log ++ said ++ more ++ tail)).outcomes :=
          fun htwice => hgo (htwo.mpr htwice)
        have hgoes : Going B (account (log ++ said ++ more ++ tail)) run'' :=
          { hbooks with
            failures := hstreak
            low := by
              have hnot : ¬ 2 ≤ streak (account (log ++ said ++ more ++ tail)).outcomes := by
                rw [houtcomes, two_open_iff hgoing.calm hgoing.low, ← houtcomes]
                exact hcalm
              omega
            calm := hcalm
            uncancelled := by rw [hend, hcancelled]; exact hgoing.uncancelled
            unhalted := by rw [hend, hhalted]; exact hgoing.unhalted }
        exact does_ret ⟨hnone, haddrs, hgoes.ended, fun _ => hgoes, fun hno => (nomatch hno)⟩

/-! ## §6. The run. -/

theorem reflashTurn_does (h : ReflashHooks) (hB : 0 < B) (fuel : Nat) (waitMs : UInt32)
    {run : ReflashRun} {addr : UInt8} (left : Nat) (hnone : (account log).turn = none)
    (hgoing : Going B (account log) run)
    (hnext : (account log).addrs ++ [addr] <+: targets) :
    Does (InPlan B targets) (reflashTurn h B fuel waitMs run addr left) log
      (TurnEnded B (account log) addr) := by
  unfold reflashTurn
  dsimp only
  have hstarted : Going B (account log)
      { run with progress := reflashProgressUnitStart run.progress addr } :=
    { batch := hgoing.batch
      room := hgoing.room
      done := hgoing.done
      failed := hgoing.failed
      flashed := hgoing.flashed
      named := hgoing.named
      failures := hgoing.failures
      low := hgoing.low
      calm := hgoing.calm
      uncancelled := hgoing.uncancelled
      unhalted := hgoing.unhalted }
  have hstate : (reflashProgressUnitStart run.progress addr).state ≠ .settling := by
    intro hno
    cases hno
  refine does_bind (p := fun _ log' => Turned (account log) { addr := addr } log') ?_
    fun _ said hsaid => ?_
  · refine publish_does _ (fun _ _ => hnext) ⟨false, ?_⟩
    rw [account_snoc, step_opens hstate hnone]
    rfl
  · refine does_bind (reflashEntry_does (t := { addr := addr }) h fuel waitMs hsaid)
      fun entry more hentry => ?_
    cases entry with
    | stopped =>
        obtain ⟨r, hr⟩ := hentry.1
        exact stopped_does hstarted hstate hr (.inr rfl)
    | notEntered =>
        exact endTurn_does hB left hstarted hstate hentry.1.flashed
    | ready =>
        refine does_bind (flashAttempts_does (t := { addr := addr }) h (hentry.2 rfl) rfl)
          fun outcome tail hflash => ?_
        exact endTurn_does hB left hstarted hstate hflash

/-- The run lemma: whatever the targets, the books are kept to the end. -/
theorem targetLoop_does (h : ReflashHooks) (hB : 0 < B) (fuel : Nat) (waitMs : UInt32) :
    ∀ (todo : List UInt8) (run : ReflashRun) (log : List ReflashEvent),
      (account log).turn = none → Going B (account log) run →
      (account log).addrs ++ todo <+: targets →
      Does (InPlan B targets) (targetLoop h B fuel waitMs todo run) log fun run' log' =>
        (account log').turn = none ∧ Ended B (account log') run' ∧
          (account log').addrs <+: targets ∧
          (run'.runEnd.cancelled = false → run'.runEnd.halted = false →
            (account log').addrs = (account log).addrs ++ todo) := by
  intro todo
  induction todo with
  | nil =>
      intro run log hnone hgoing htodo
      rw [List.append_nil] at htodo
      exact does_ret ⟨hnone, hgoing.ended, htodo, fun _ _ => (List.append_nil _).symm⟩
  | cons addr todo ih =>
      intro run log hnone hgoing htodo
      have hnext : (account log).addrs ++ [addr] <+: targets := by
        rw [List.append_cons] at htodo
        exact (List.prefix_append _ todo).trans htodo
      unfold targetLoop
      refine does_bind (p := fun _ log' => account log' = account log) ?_ fun stop said hsaid => ?_
      · refine does_ask trivial ?_
        exact account_quiet log (fun _ => rfl) (fun _ => rfl)
      · split
        · refine does_ret ?_
          rw [hsaid]
          have hended := hgoing.ended
          refine ⟨hnone, ?_, (List.prefix_append _ _).trans htodo, fun hno => (nomatch hno)⟩
          exact
            { batch := hended.batch
              room := hended.room
              done := hended.done
              failed := hended.failed
              flashed := hended.flashed
              named := hended.named
              halted := hended.halted }
        · rw [← hsaid] at hnone hgoing hnext
          refine does_bind (reflashTurn_does h hB fuel waitMs todo.length hnone hgoing hnext)
            fun answer more hturn => ?_
          obtain ⟨hnone', haddrs, hended, hgoes, hends⟩ := hturn
          rw [hsaid] at haddrs
          obtain ⟨run', on⟩ := answer
          dsimp only
          split
          · next hon =>
              refine does_imp (ih run' _ hnone' (hgoes hon) ?_) fun run'' tail hrest => ?_
              · rw [haddrs, ← List.append_cons]
                exact htodo
              · obtain ⟨hnone'', hended'', horder, hwhole⟩ := hrest
                refine ⟨hnone'', hended'', horder, fun hcancelled hhalted => ?_⟩
                rw [hwhole hcancelled hhalted, haddrs, ← List.append_cons]
          · next hoff =>
              refine does_ret ⟨hnone', hended, ?_, fun hcancelled hhalted => ?_⟩
              · rw [haddrs, ← hsaid]
                exact hnext
              · rcases hends (by simpa using hoff) with h | h
                · rw [h] at hcancelled
                  cases hcancelled
                · rw [h] at hhalted
                  cases hhalted

/-- What a run that came back leaves. -/
structure Accounted (targets : List UInt8) (a : Account) (runEnd : ReflashRunEnd)
    (progress : ReflashProgress) : Prop where
  closed : a.turn = none
  order : a.addrs <+: targets
  settled : a.settled = a.flashed
  named : a.flashed = (a.turns.filter (·.outcome == .flashed)).map (·.addr)
  done : progress.done.toNat = flashedTurns a % 256
  failed : progress.failed.toNat = otherTurns a % 256
  flashed : runEnd.flashed = progress.done
  halted : runEnd.halted = true ↔ FailedTwice a.outcomes
  whole : runEnd.cancelled = false → runEnd.halted = false → a.addrs = targets

theorem reflashRunTargets_does (h : ReflashHooks) (hB : 0 < B) (fuel : Nat) (waitMs : UInt32)
    (targets : List UInt8) :
    Does (InPlan B targets)
      (reflashRunTargets h B fuel targets (reflashProgressBegin targets.length) waitMs) []
      fun answer log => Accounted targets (account log) answer.1 answer.2 := by
  unfold reflashRunTargets
  have hgoing : Going B (account [])
      { progress := reflashProgressBegin targets.length } :=
    { batch := rfl
      room := hB
      done := rfl
      failed := rfl
      flashed := rfl
      named := rfl
      failures := rfl
      low := Nat.zero_lt_two
      calm := by
        rintro ⟨pre, mid, post, hno, _⟩
        exact absurd hno.symm (by simp [account, Account.outcomes])
      uncancelled := rfl
      unhalted := rfl }
  refine does_bind (targetLoop_does h hB fuel waitMs targets _ [] rfl hgoing ?_)
    fun run said hrun => ?_
  · exact List.prefix_rfl
  · obtain ⟨hnone, hended, horder, hwhole⟩ := hrun
    refine does_bind (settle_does Nat.one_pos hnone hended.batch (Nat.le_of_lt hended.room))
      fun run' more hsettled => does_ret ?_
    obtain ⟨hnone', hturns, hnamed, hbatch, hless, hdone, hfailed, hend, _⟩ := hsettled
    -- nothing is left in the batch
    have hempty : run'.batch = [] := List.length_eq_zero_iff.mp (by omega)
    rw [hempty, List.append_nil] at hbatch
    refine
      { closed := hnone'
        order := ?_
        settled := hbatch.symm
        named := by rw [hnamed, hturns]; exact hended.named
        done := ?_
        failed := ?_
        flashed := by rw [hend, hdone]; exact hended.flashed
        halted := ?_
        whole := ?_ }
    · unfold Account.addrs
      rw [hturns]
      exact horder
    · unfold flashedTurns
      rw [hdone, hended.done, hturns]
      exact UInt8.toNat_ofNat'
    · unfold otherTurns
      rw [hfailed, hended.failed, hturns]
      exact UInt8.toNat_ofNat'
    · unfold Account.outcomes
      rw [hend, hturns]
      exact hended.halted
    · intro hcancelled hhalted
      unfold Account.addrs
      rw [hturns]
      rw [hend] at hcancelled hhalted
      exact hwhole hcancelled hhalted

end SplitFlap.Unit
