/-
  SplitFlap.Unit.SelfTest — whose result a self-test job reports, and when it ends.

  `SelfTestPoll.h`: a row master sends START and polls the unit.  The unit has one slot
  for a result; it holds the previous test until its loop picks the START up.
-/
import SplitFlap.Lib.Clock
import SplitFlap.Lib.Machine
import SplitFlap.Unit.Replies

namespace SplitFlap.SelfTest

open Machine Clock

abbrev SELF_TEST_TIMEOUT_MS : UInt32 := 45000
abbrev SELF_TEST_UNSUPPORTED_POLLS : UInt8 := 3
abbrev SELFTEST_STATE_NEVER : UInt8 := 0
abbrev SELFTEST_STATE_RUNNING : UInt8 := 1
abbrev SELFTEST_STATE_OK : UInt8 := 2

/-! ## §1. The poll. -/

inductive SelfTestOutcome where
  | pending
  | ok
  | wireFail
  | timeout
  | unitFailed
  | unsupported
  | aborted
  deriving DecidableEq

structure SelfTestSlot where
  seq : UInt32 := 0
  addr : UInt8 := 0
  outcome : SelfTestOutcome := .pending
  stepsPerRev : UInt16 := 0
  hallWindowSteps : UInt16 := 0
  revTimeMs : UInt16 := 0
  unitReason : UInt8 := 0

structure SelfTestPoll where
  sawRunning : Bool := false
  everValid : Bool := false
  /-- The first valid reading. -/
  baseline : UnitSelfTestReading := {}
  badPolls : UInt8 := 0
  windowStartMs : UInt32 := 0

def selfTestPollBegin (nowMs : UInt32) : SelfTestPoll := { windowStartMs := nowMs }

def selfTestReadingDiffers (a b : UnitSelfTestReading) : Bool :=
  a.state != b.state || a.stepsPerRev != b.stepsPerRev ||
    a.hallWindowSteps != b.hallWindowSteps || a.revTimeMs != b.revTimeMs ||
    a.reason != b.reason

/-- What a poll that decides nothing returns. -/
def undecided (p : SelfTestPoll) (nowMs : UInt32) : SelfTestOutcome :=
  if nowMs - p.windowStartMs ≥ SELF_TEST_TIMEOUT_MS then .timeout else .pending

def observeUnread (p : SelfTestPoll) (nowMs : UInt32) : SelfTestPoll × SelfTestOutcome :=
  if p.everValid then (p, undecided p nowMs)
  else
    let p := { p with badPolls := p.badPolls + 1 }
    if p.badPolls ≥ SELF_TEST_UNSUPPORTED_POLLS then (p, .unsupported)
    else (p, undecided p nowMs)

def noteBaseline (p : SelfTestPoll) (r : UnitSelfTestReading) : SelfTestPoll :=
  if p.everValid then p else { p with everValid := true, baseline := r }

/-- RUNNING: the first one opens the window again. -/
def observeRunning (p : SelfTestPoll) (nowMs : UInt32) : SelfTestPoll × SelfTestOutcome :=
  if p.sawRunning then (p, undecided p nowMs)
  else ({ p with sawRunning := true, windowStartMs := nowMs }, .pending)

def fresh (p : SelfTestPoll) (r : UnitSelfTestReading) : Bool :=
  p.sawRunning || selfTestReadingDiffers r p.baseline

def measured (slot : SelfTestSlot) (r : UnitSelfTestReading) : SelfTestSlot :=
  { slot with
    stepsPerRev := r.stepsPerRev
    hallWindowSteps := r.hallWindowSteps
    revTimeMs := r.revTimeMs
    unitReason := r.reason }

/-- A result that is not RUNNING. -/
def observeRest (p : SelfTestPoll) (r : UnitSelfTestReading) (nowMs : UInt32)
    (slot : SelfTestSlot) : SelfTestSlot × SelfTestOutcome :=
  if r.state = SELFTEST_STATE_NEVER ∨ fresh p r = false then (slot, undecided p nowMs)
  else (measured slot r, if r.state = SELFTEST_STATE_OK then .ok else .unitFailed)

def selfTestPollObserve (p : SelfTestPoll) (readOk : Bool) (r : UnitSelfTestReading)
    (nowMs : UInt32) (slot : SelfTestSlot) : SelfTestPoll × SelfTestSlot × SelfTestOutcome :=
  if readOk = false then
    let (p, outcome) := observeUnread p nowMs
    (p, slot, outcome)
  else
    let p := noteBaseline p r
    if r.state = SELFTEST_STATE_RUNNING then
      let (p, outcome) := observeRunning p nowMs
      (p, slot, outcome)
    else (p, observeRest p r nowMs slot)

/-! ## §2. The unit. -/

/-- What of a unit takes part: the flag START sets, and the one result. -/
structure TestedUnit where
  pendingSelfTest : Bool := false
  selfTest : SelfTestResult := {}
  /-- How many tests it has begun. -/
  began : Nat := 0
  /-- The results of those that ended, each under its test's number. -/
  ended : List (Nat × SelfTestResult) := []

inductive UnitAct where
  | start
  /-- The loop takes the flag: `runSelfTest` begins. -/
  | pickUp
  /-- `runSelfTest` is over. -/
  | finish (result : SelfTestResult)
  | reset

def isTerminal (t : SelfTestResult) : Bool :=
  t.state = .ok || t.state = .failed

def TestedUnit.step (u : TestedUnit) : UnitAct → Option TestedUnit
  | .start => some { u with pendingSelfTest := true }
  | .pickUp =>
      -- the loop is inside `runSelfTest` while one runs
      if u.pendingSelfTest = true ∧ u.selfTest.state ≠ .running then
        some
          { u with
            pendingSelfTest := false
            selfTest := { state := .running }
            began := u.began + 1 }
      else none
  | .finish result =>
      if u.selfTest.state = .running ∧ isTerminal result = true then
        some { u with selfTest := result, ended := (u.began, result) :: u.ended }
      else none
  | .reset => some { u with pendingSelfTest := false, selfTest := {} }

/-- A result the unit shows is that of the last test it began. -/
def Shows (u : TestedUnit) : Prop :=
  isTerminal u.selfTest = true → (u.began, u.selfTest) ∈ u.ended

theorem Shows.step {u u' : TestedUnit} {a : UnitAct} (h : Shows u) (hstep : u.step a = some u') :
    Shows u' := by
  cases a with
  | start =>
      cases hstep
      exact h
  | pickUp =>
      obtain ⟨-, hu⟩ := Option.ite_none_right_eq_some.mp hstep
      cases hu
      intro hterminal
      exact absurd hterminal Bool.false_ne_true
  | finish result =>
      obtain ⟨-, hu⟩ := Option.ite_none_right_eq_some.mp hstep
      cases hu
      intro _
      exact List.mem_cons_self
  | reset =>
      cases hstep
      intro hterminal
      exact absurd hterminal Bool.false_ne_true

/-! ## §3. The job. -/

/-- A self-test job from the START that was accepted on. -/
structure Job where
  unit : TestedUnit
  p : SelfTestPoll
  slot : SelfTestSlot
  now : Nat
  /-- How many tests the unit had begun when START was accepted. -/
  before : Nat
  beganAt : Nat
  /-- The last poll, or the beginning. -/
  lastPoll : Nat
  /-- Has a test begun before START been read as RUNNING? -/
  sawEarlier : Bool := false
  /-- The test whose result was taken, and that result. -/
  took : Option (Nat × SelfTestResult) := none

def Job.accepted (unit : TestedUnit) (slot : SelfTestSlot) (now : Nat) : Job where
  unit := { unit with pendingSelfTest := true }
  p := selfTestPollBegin (reading now)
  slot := { slot with outcome := .pending }
  now
  before := unit.began
  beganAt := now
  lastPoll := now

inductive Act where
  | unit (a : UnitAct)
  | wait (ms : Nat)
  | poll (readOk : Bool)

/-- Was the last test the unit began begun before START? -/
def Job.isEarlier (j : Job) : Bool := j.unit.began ≤ j.before

def Job.observed (j : Job) (readOk : Bool) : SelfTestPoll × SelfTestSlot × SelfTestOutcome :=
  selfTestPollObserve j.p readOk j.unit.selfTest.seen (reading j.now) j.slot

def Job.polled (j : Job) (readOk : Bool) : Job :=
  let r := j.observed readOk
  { j with
    p := r.1
    slot := { r.2.1 with outcome := r.2.2 }
    lastPoll := j.now
    sawEarlier := j.sawEarlier || (readOk && j.unit.selfTest.state = .running && j.isEarlier)
    took := if r.2.2 = .ok ∨ r.2.2 = .unitFailed then some (j.unit.began, j.unit.selfTest)
      else j.took }

/-- A job is polled while it is pending. -/
def Job.step (j : Job) : Act → Option Job
  | .unit a => (j.unit.step a).map fun u => { j with unit := u }
  | .wait ms => some { j with now := j.now + ms }
  | .poll readOk => if j.slot.outcome = .pending then some (j.polled readOk) else none

/-! ## §4. What a poll does. -/

/-- A poll that is no answer of the unit's decides nothing about the test. -/
theorem observeUnread_keeps (p : SelfTestPoll) (nowMs : UInt32) :
    (observeUnread p nowMs).1.sawRunning = p.sawRunning ∧
      (observeUnread p nowMs).1.everValid = p.everValid ∧
      (observeUnread p nowMs).1.baseline = p.baseline ∧
      (observeUnread p nowMs).1.windowStartMs = p.windowStartMs ∧
      (observeUnread p nowMs).2 ∈ [.unsupported, undecided p nowMs] := by
  unfold observeUnread
  split
  · simp
  · dsimp only
    split
    · simp
    · simp [undecided]

theorem undecided_mem (p : SelfTestPoll) (nowMs : UInt32) :
    undecided p nowMs ∈ [.timeout, .pending] := by
  unfold undecided
  split <;> simp

@[simp] theorem noteBaseline_sawRunning (p : SelfTestPoll) (r : UnitSelfTestReading) :
    (noteBaseline p r).sawRunning = p.sawRunning := by
  unfold noteBaseline
  split <;> rfl

@[simp] theorem noteBaseline_everValid (p : SelfTestPoll) (r : UnitSelfTestReading) :
    (noteBaseline p r).everValid = true := by
  unfold noteBaseline
  split
  · assumption
  · rfl

@[simp] theorem noteBaseline_windowStartMs (p : SelfTestPoll) (r : UnitSelfTestReading) :
    (noteBaseline p r).windowStartMs = p.windowStartMs := by
  unfold noteBaseline
  split <;> rfl

/-- The baseline is the first valid reading, so after a valid one it is that or older. -/
theorem noteBaseline_baseline (p : SelfTestPoll) (r : UnitSelfTestReading) :
    (p.everValid = true ∧ (noteBaseline p r).baseline = p.baseline) ∨
      (p.everValid = false ∧ (noteBaseline p r).baseline = r) := by
  unfold noteBaseline
  cases hvalid : p.everValid with
  | true => exact Or.inl ⟨rfl, by simp⟩
  | false => exact Or.inr ⟨rfl, by simp⟩

/-- A reading does not differ from itself. -/
@[simp] theorem selfTestReadingDiffers_self (r : UnitSelfTestReading) :
    selfTestReadingDiffers r r = false := by
  simp [selfTestReadingDiffers]

theorem seen_running {t : SelfTestResult} :
    t.seen.state = SELFTEST_STATE_RUNNING ↔ t.state = .running := by
  show t.state.toByte = SELFTEST_STATE_RUNNING ↔ _
  cases t.state <;> decide

theorem seen_never {t : SelfTestResult} :
    t.seen.state = SELFTEST_STATE_NEVER ↔ t.state = .never := by
  show t.state.toByte = SELFTEST_STATE_NEVER ↔ _
  cases t.state <;> decide

theorem seen_ok {t : SelfTestResult} : t.seen.state = SELFTEST_STATE_OK ↔ t.state = .ok := by
  show t.state.toByte = SELFTEST_STATE_OK ↔ _
  cases t.state <;> decide

theorem isTerminal_iff {t : SelfTestResult} :
    isTerminal t = true ↔ t.state ≠ .running ∧ t.state ≠ .never := by
  unfold isTerminal
  cases t.state <;> decide

/-- The answer to a terminal result. -/
def answer (t : SelfTestResult) : SelfTestOutcome := if t.state = .ok then .ok else .unitFailed

theorem answer_decides (t : SelfTestResult) : answer t = .ok ∨ answer t = .unitFailed := by
  unfold answer
  split
  · exact Or.inl rfl
  · exact Or.inr rfl

/-- What a poll of a unit that shows `t` can do. -/
inductive Observes (p : SelfTestPoll) (readOk : Bool) (t : SelfTestResult) (nowMs : UInt32)
    (slot : SelfTestSlot) : SelfTestPoll × SelfTestSlot × SelfTestOutcome → Prop
  | unread {p' : SelfTestPoll} {outcome : SelfTestOutcome} (hread : readOk = false)
      (hsaw : p'.sawRunning = p.sawRunning) (hvalid : p'.everValid = p.everValid)
      (hbase : p'.baseline = p.baseline) (hwindow : p'.windowStartMs = p.windowStartMs)
      (hout : outcome ∈ [.unsupported, undecided p nowMs]) :
      Observes p readOk t nowMs slot (p', slot, outcome)
  | firstRunning (hread : readOk = true) (hrunning : t.state = .running)
      (hsaw : p.sawRunning = false) :
      Observes p readOk t nowMs slot
        ({ noteBaseline p t.seen with sawRunning := true, windowStartMs := nowMs }, slot, .pending)
  | stillRunning (hread : readOk = true) (hrunning : t.state = .running)
      (hsaw : p.sawRunning = true) :
      Observes p readOk t nowMs slot (noteBaseline p t.seen, slot, undecided p nowMs)
  | notFresh (hread : readOk = true) (hrunning : t.state ≠ .running)
      (hstale : t.state = .never ∨ fresh (noteBaseline p t.seen) t.seen = false) :
      Observes p readOk t nowMs slot (noteBaseline p t.seen, slot, undecided p nowMs)
  | taken (hread : readOk = true) (hterminal : isTerminal t = true)
      (hfresh : fresh (noteBaseline p t.seen) t.seen = true) :
      Observes p readOk t nowMs slot
        (noteBaseline p t.seen, measured slot t.seen, answer t)

@[simp] theorem undecided_noteBaseline (p : SelfTestPoll) (r : UnitSelfTestReading)
    (nowMs : UInt32) : undecided (noteBaseline p r) nowMs = undecided p nowMs := by
  simp [undecided]

theorem selfTestPollObserve_observes (p : SelfTestPoll) (readOk : Bool) (t : SelfTestResult)
    (nowMs : UInt32) (slot : SelfTestSlot) :
    Observes p readOk t nowMs slot (selfTestPollObserve p readOk t.seen nowMs slot) := by
  unfold selfTestPollObserve
  by_cases hread : readOk = false
  · rw [if_pos hread]
    obtain ⟨hsaw, hvalid, hbase, hwindow, hout⟩ := observeUnread_keeps p nowMs
    exact .unread hread hsaw hvalid hbase hwindow hout
  rw [if_neg hread]
  have hread' : readOk = true := (Bool.not_eq_false _).mp hread
  by_cases hrunning : t.state = .running
  · rw [if_pos (seen_running.mpr hrunning)]
    unfold observeRunning
    rw [noteBaseline_sawRunning, undecided_noteBaseline]
    cases hsaw : p.sawRunning with
    | true => exact .stillRunning hread' hrunning hsaw
    | false => exact .firstRunning hread' hrunning hsaw
  rw [if_neg fun h => hrunning (seen_running.mp h)]
  unfold observeRest
  simp only [undecided_noteBaseline, seen_never, seen_ok]
  by_cases hstale : t.state = .never ∨ fresh (noteBaseline p t.seen) t.seen = false
  · rw [if_pos hstale]
    exact .notFresh hread' hrunning hstale
  · rw [if_neg hstale]
    rw [not_or, Bool.not_eq_false] at hstale
    exact .taken hread' (isTerminal_iff.mpr ⟨hrunning, hstale.1⟩) hstale.2

/-! ## §5. Whose result it is. -/

/-- A step of the unit begins a test, or keeps, drops or ends the one it shows. -/
theorem TestedUnit.step_moves {u u' : TestedUnit} {a : UnitAct} (hstep : u.step a = some u') :
    (∀ e ∈ u.ended, e ∈ u'.ended) ∧
      (u.began < u'.began ∨
        u'.began = u.began ∧ (u'.selfTest = u.selfTest ∨ u'.selfTest.state = .never ∨
          u.selfTest.state = .running)) := by
  cases a with
  | start =>
      cases hstep
      exact ⟨fun e he => he, Or.inr ⟨rfl, Or.inl rfl⟩⟩
  | pickUp =>
      obtain ⟨-, hu⟩ := Option.ite_none_right_eq_some.mp hstep
      cases hu
      exact ⟨fun e he => he, Or.inl (Nat.lt_succ_self _)⟩
  | finish result =>
      obtain ⟨hfinish, hu⟩ := Option.ite_none_right_eq_some.mp hstep
      cases hu
      exact ⟨fun e he => List.mem_cons_of_mem _ he, Or.inr ⟨rfl, Or.inr (Or.inr hfinish.1)⟩⟩
  | reset =>
      cases hstep
      exact ⟨fun e he => he, Or.inr ⟨rfl, Or.inr (Or.inl rfl)⟩⟩

/-- What a pending job has read, against what the unit did. -/
structure Traced (j : Job) : Prop where
  unitShows : Shows j.unit
  since : j.before ≤ j.unit.began
  /-- RUNNING was that of an earlier test, or a later test has begun. -/
  ran : j.p.sawRunning = true → j.sawEarlier = true ∨ j.before < j.unit.began
  earlier : j.sawEarlier = true → j.p.sawRunning = true
  /-- No test has begun since, and none was seen to run: the baseline is what the unit
  still shows. -/
  base : j.p.everValid = true → j.p.sawRunning = false → j.unit.began ≤ j.before →
    j.unit.selfTest.state = .never ∨
      (j.p.baseline = j.unit.selfTest.seen ∧ j.unit.selfTest.state ≠ .running)

theorem Traced.accepted {u : TestedUnit} (h : Shows u) (slot : SelfTestSlot) (now : Nat) :
    Traced (Job.accepted u slot now) where
  unitShows := h
  since := Nat.le_refl _
  ran hsaw := absurd hsaw Bool.false_ne_true
  earlier hsaw := absurd hsaw Bool.false_ne_true
  base hvalid := absurd hvalid Bool.false_ne_true

theorem Traced.unit {j : Job} (h : Traced j) {u : TestedUnit} {a : UnitAct}
    (hstep : j.unit.step a = some u) : Traced { j with unit := u } := by
  obtain ⟨-, hmoves⟩ := TestedUnit.step_moves hstep
  have hbegan : j.unit.began ≤ u.began := by omega
  refine ⟨h.unitShows.step hstep, Nat.le_trans h.since hbegan, ?_, h.earlier, ?_⟩
  · intro hsaw
    exact (h.ran hsaw).imp id fun hlater => Nat.lt_of_lt_of_le hlater hbegan
  · intro hvalid hsaw hnone
    have hold := h.base hvalid hsaw (Nat.le_trans hbegan hnone)
    have hsince := h.since
    rcases hmoves with hnew | ⟨-, hsame | hnever | hended⟩
    · -- a test that begins now begins after START
      exact absurd (Nat.lt_of_le_of_lt hsince hnew) (Nat.not_lt.mpr hnone)
    · show u.selfTest.state = .never ∨ _
      rw [hsame]
      exact hold
    · exact Or.inl hnever
    · rcases hold with hwas | ⟨-, hwas⟩
      · exact absurd (hwas.symm.trans hended) (by decide)
      · exact absurd hended hwas

/-- A valid reading that is not RUNNING leaves what the unit shows as the baseline. -/
theorem Traced.noted {j : Job} (h : Traced j) (hrunning : j.unit.selfTest.state ≠ .running)
    (hsaw : j.p.sawRunning = false) (hnone : j.unit.began ≤ j.before) :
    j.unit.selfTest.state = .never ∨
      ((noteBaseline j.p j.unit.selfTest.seen).baseline = j.unit.selfTest.seen ∧
        j.unit.selfTest.state ≠ .running) := by
  rcases noteBaseline_baseline j.p j.unit.selfTest.seen with ⟨hvalid, hsame⟩ | ⟨-, hfirst⟩
  · rw [hsame]
    exact h.base hvalid hsaw hnone
  · exact Or.inr ⟨hfirst, hrunning⟩

theorem Traced.polled {j : Job} (h : Traced j) (readOk : Bool) : Traced (j.polled readOk) := by
  have hsees := selfTestPollObserve_observes j.p readOk j.unit.selfTest (reading j.now) j.slot
  unfold Job.polled Job.observed
  generalize selfTestPollObserve j.p readOk j.unit.selfTest.seen (reading j.now) j.slot = r
    at hsees ⊢
  cases hsees with
  | unread hread hsaw hvalid hbase hwindow hout =>
      refine ⟨h.unitShows, h.since, ?_, ?_, ?_⟩
      · intro hran
        exact (h.ran (hsaw ▸ hran)).imp (fun hearlier => by simp [hearlier]) id
      · intro hearlier
        have hwas : j.sawEarlier = true := by simpa [hread] using hearlier
        exact hsaw.trans (h.earlier hwas)
      · intro hever hnot hnone
        show _ ∨ (_ = j.unit.selfTest.seen ∧ _)
        rw [hbase]
        exact h.base (hvalid ▸ hever) (hsaw ▸ hnot) hnone
  | firstRunning hread hrunning hsaw =>
      refine ⟨h.unitShows, h.since, ?_, fun _ => rfl, fun _ hnot => ?_⟩
      · intro _
        -- the test that runs began before START, or after it
        rcases Nat.lt_or_ge j.before j.unit.began with hlater | hbefore
        · exact Or.inr hlater
        · exact Or.inl (by simp [hread, hrunning, Job.isEarlier, hbefore])
      · exact absurd hnot.symm Bool.false_ne_true
  | stillRunning hread hrunning hsaw =>
      refine ⟨h.unitShows, h.since, ?_, ?_, ?_⟩
      · intro _
        exact (h.ran hsaw).imp (fun hearlier => by simp [hearlier]) id
      · intro _
        exact (noteBaseline_sawRunning _ _).trans hsaw
      · intro _ hnot
        rw [noteBaseline_sawRunning, hsaw] at hnot
        exact absurd hnot.symm Bool.false_ne_true
  | notFresh hread hrunning hstale =>
      refine ⟨h.unitShows, h.since, ?_, ?_, ?_⟩
      · intro hran
        rw [noteBaseline_sawRunning] at hran
        exact (h.ran hran).imp (fun hearlier => by simp [hearlier]) id
      · intro hearlier
        have hwas : j.sawEarlier = true := by simpa [hrunning] using hearlier
        exact (noteBaseline_sawRunning _ _).trans (h.earlier hwas)
      · intro _ hnot hnone
        rw [noteBaseline_sawRunning] at hnot
        exact h.noted hrunning hnot hnone
  | taken hread hterminal hfresh =>
      have hrunning := (isTerminal_iff.mp hterminal).1
      refine ⟨h.unitShows, h.since, ?_, ?_, ?_⟩
      · intro hran
        rw [noteBaseline_sawRunning] at hran
        exact (h.ran hran).imp (fun hearlier => by simp [hearlier]) id
      · intro hearlier
        have hwas : j.sawEarlier = true := by simpa [hrunning] using hearlier
        exact (noteBaseline_sawRunning _ _).trans (h.earlier hwas)
      · intro _ hnot hnone
        rw [noteBaseline_sawRunning] at hnot
        exact h.noted hrunning hnot hnone

/-- The slot carries what the unit measured. -/
def Carries (slot : SelfTestSlot) (t : SelfTestResult) : Prop :=
  slot.stepsPerRev = t.stepsPerRev ∧ slot.hallWindowSteps = t.hallWindowSteps ∧
    slot.revTimeMs = t.revTimeMs ∧ slot.unitReason = t.reason.toByte

/-- Is the result now shown one this poll may take? -/
def Job.takes (j : Job) (readOk : Bool) : Prop :=
  readOk = true ∧ isTerminal j.unit.selfTest = true ∧
    fresh (noteBaseline j.p j.unit.selfTest.seen) j.unit.selfTest.seen = true

theorem undecided_ne (p : SelfTestPoll) (nowMs : UInt32) :
    ¬(undecided p nowMs = .ok ∨ undecided p nowMs = .unitFailed) := by
  unfold undecided
  split <;> decide

theorem unread_ne {p : SelfTestPoll} {nowMs : UInt32} {outcome : SelfTestOutcome}
    (hout : outcome ∈ [.unsupported, undecided p nowMs]) :
    ¬(outcome = .ok ∨ outcome = .unitFailed) := by
  rcases List.mem_pair.mp hout with hunsupported | hundecided
  · rw [hunsupported]
    decide
  · rw [hundecided]
    exact undecided_ne p nowMs

/-- A poll that takes the result leaves it in the slot, and no other poll answers. -/
theorem Job.polled_takes (j : Job) (readOk : Bool) :
    (j.takes readOk ∧ (j.polled readOk).took = some (j.unit.began, j.unit.selfTest) ∧
        (j.polled readOk).slot.outcome = answer j.unit.selfTest ∧
        Carries (j.polled readOk).slot j.unit.selfTest) ∨
      (¬j.takes readOk ∧ (j.polled readOk).took = j.took ∧
        ¬((j.polled readOk).slot.outcome = .ok ∨
          (j.polled readOk).slot.outcome = .unitFailed)) := by
  have hsees := selfTestPollObserve_observes j.p readOk j.unit.selfTest (reading j.now) j.slot
  unfold Job.polled Job.observed Job.takes
  generalize selfTestPollObserve j.p readOk j.unit.selfTest.seen (reading j.now) j.slot = r
    at hsees ⊢
  cases hsees with
  | unread hread hsaw hvalid hbase hwindow hout =>
      have hnot := unread_ne hout
      exact Or.inr ⟨fun htakes => absurd (hread.symm.trans htakes.1) Bool.false_ne_true,
        if_neg hnot, hnot⟩
  | firstRunning hread hrunning hsaw =>
      have hnot : ¬(SelfTestOutcome.pending = .ok ∨ SelfTestOutcome.pending = .unitFailed) := by
        decide
      refine Or.inr ⟨fun htakes => (isTerminal_iff.mp htakes.2.1).1 hrunning, ?_, hnot⟩
      simp
  | stillRunning hread hrunning hsaw =>
      have hnot := undecided_ne j.p (reading j.now)
      exact Or.inr ⟨fun htakes => (isTerminal_iff.mp htakes.2.1).1 hrunning, if_neg hnot, hnot⟩
  | notFresh hread hrunning hstale =>
      have hnot := undecided_ne j.p (reading j.now)
      refine Or.inr ⟨?_, if_neg hnot, hnot⟩
      rintro ⟨-, hterminal, hfresh⟩
      rcases hstale with hnever | hstale
      · exact (isTerminal_iff.mp hterminal).2 hnever
      · exact Bool.false_ne_true (hstale.symm.trans hfresh)
  | taken hread hterminal hfresh =>
      refine Or.inl ⟨⟨hread, hterminal, hfresh⟩, if_pos (answer_decides _), rfl, ?_⟩
      exact ⟨rfl, rfl, rfl, rfl⟩

/-- An answer is the result of a test that ended, as the unit measured it. -/
structure Reported (j : Job) : Prop where
  pending : j.slot.outcome = .pending → j.took = none
  answered : j.slot.outcome = .ok ∨ j.slot.outcome = .unitFailed →
    ∃ n t, j.took = some (n, t) ∧ (n, t) ∈ j.unit.ended ∧ j.slot.outcome = answer t ∧
      Carries j.slot t

theorem Reported.accepted (u : TestedUnit) (slot : SelfTestSlot) (now : Nat) :
    Reported (Job.accepted u slot now) where
  pending _ := rfl
  answered hanswer := absurd hanswer (by simp [Job.accepted])

theorem Reported.step {j j' : Job} {a : Act} (h : Reported j) (hshows : Shows j.unit)
    (hstep : j.step a = some j') : Reported j' := by
  cases a with
  | unit a =>
      obtain ⟨u, hu, rfl⟩ := Option.map_eq_some_iff.mp hstep
      refine ⟨h.pending, fun hanswer => ?_⟩
      obtain ⟨n, t, htook, hended, hrest⟩ := h.answered hanswer
      exact ⟨n, t, htook, (TestedUnit.step_moves hu).1 _ hended, hrest⟩
  | wait ms =>
      cases hstep
      exact ⟨h.pending, h.answered⟩
  | poll readOk =>
      obtain ⟨hpending, hj⟩ := Option.ite_none_right_eq_some.mp hstep
      cases hj
      have htook := h.pending hpending
      rcases j.polled_takes readOk with ⟨htakes, hnow, hanswer, hcarries⟩ | ⟨-, hsame, hnot⟩
      · refine ⟨fun hstill => ?_, fun _ => ?_⟩
        · rw [hstill] at hanswer
          have hdecides := answer_decides j.unit.selfTest
          rw [← hanswer] at hdecides
          exact absurd hdecides (by decide)
        · exact ⟨j.unit.began, j.unit.selfTest, hnow, hshows htakes.2.1, hanswer, hcarries⟩
      · exact ⟨fun _ => hsame.trans htook, fun hanswer => absurd hanswer hnot⟩

/-- The result of an earlier test is read, and that test was read as RUNNING before. -/
def Job.mistakes (j : Job) (readOk : Bool) : Prop :=
  readOk = true ∧ j.sawEarlier = true ∧ isTerminal j.unit.selfTest = true ∧
    j.unit.began ≤ j.before

def Unmistaken (j : Job) : Act → Prop
  | .poll readOk => ¬j.mistakes readOk
  | _ => True

/-- The test whose result was taken was begun after START was accepted. -/
def OwnResult (j : Job) : Prop := ∀ n t, j.took = some (n, t) → j.before < n

/-- A result that is taken is this test's, or a mistake. -/
theorem Traced.takes {j : Job} (h : Traced j) {readOk : Bool} (htakes : j.takes readOk)
    (hbefore : j.unit.began ≤ j.before) : j.mistakes readOk := by
  obtain ⟨hread, hterminal, hfresh⟩ := htakes
  obtain ⟨hrunning, hnever⟩ := isTerminal_iff.mp hterminal
  refine ⟨hread, ?_, hterminal, hbefore⟩
  unfold fresh at hfresh
  rw [noteBaseline_sawRunning] at hfresh
  cases hsaw : j.p.sawRunning with
  | true => exact (h.ran hsaw).resolve_right (Nat.not_lt.mpr hbefore)
  | false =>
      -- nothing was seen to run, so the reading is the baseline
      rcases h.noted hrunning hsaw hbefore with hwas | ⟨hbase, -⟩
      · exact absurd hwas hnever
      · rw [hsaw, hbase, selfTestReadingDiffers_self] at hfresh
        exact absurd hfresh Bool.false_ne_true

theorem Traced.mistakes {j : Job} (h : Traced j) {readOk : Bool} (hmistakes : j.mistakes readOk) :
    j.takes readOk := by
  obtain ⟨hread, hearlier, hterminal, -⟩ := hmistakes
  refine ⟨hread, hterminal, ?_⟩
  unfold fresh
  rw [noteBaseline_sawRunning, h.earlier hearlier, Bool.true_or]

theorem Traced.step {j j' : Job} {a : Act} (h : Traced j) (hstep : j.step a = some j') :
    Traced j' := by
  cases a with
  | unit a =>
      obtain ⟨u, hu, rfl⟩ := Option.map_eq_some_iff.mp hstep
      exact h.unit hu
  | wait ms =>
      cases hstep
      exact ⟨h.unitShows, h.since, h.ran, h.earlier, h.base⟩
  | poll readOk =>
      obtain ⟨-, hj⟩ := Option.ite_none_right_eq_some.mp hstep
      cases hj
      exact h.polled readOk

/-- A decided job takes nothing more. -/
theorem Job.step_decided {j j' : Job} {a : Act} (hdecided : j.slot.outcome ≠ .pending)
    (hstep : j.step a = some j') :
    j'.slot = j.slot ∧ j'.took = j.took ∧ j'.before = j.before := by
  cases a with
  | unit a =>
      obtain ⟨u, hu, rfl⟩ := Option.map_eq_some_iff.mp hstep
      exact ⟨rfl, rfl, rfl⟩
  | wait ms =>
      cases hstep
      exact ⟨rfl, rfl, rfl⟩
  | poll readOk =>
      obtain ⟨hpending, -⟩ := Option.ite_none_right_eq_some.mp hstep
      exact absurd hpending hdecided

/-- A step takes no other test's result exactly when it makes no mistake. -/
theorem Traced.own_step {j j' : Job} {a : Act} (h : Traced j) (hrep : Reported j)
    (hown : OwnResult j) (hstep : j.step a = some j') :
    Unmistaken j a ↔ OwnResult j' := by
  cases a with
  | unit a =>
      obtain ⟨u, hu, rfl⟩ := Option.map_eq_some_iff.mp hstep
      exact iff_of_true trivial hown
  | wait ms =>
      cases hstep
      exact iff_of_true trivial hown
  | poll readOk =>
      obtain ⟨hpending, hj⟩ := Option.ite_none_right_eq_some.mp hstep
      cases hj
      have htook := hrep.pending hpending
      rcases j.polled_takes readOk with ⟨htakes, hnow, -, -⟩ | ⟨hnot, hsame, -⟩
      · constructor
        · intro hclean n t htaken
          rw [hnow] at htaken
          cases htaken
          exact Nat.lt_of_not_le fun hbefore => hclean (h.takes htakes hbefore)
        · intro hafter hmistakes
          exact Nat.not_lt.mpr hmistakes.2.2.2 (hafter _ _ hnow)
      · refine iff_of_true (fun hmistakes => hnot (h.mistakes hmistakes)) ?_
        intro n t htaken
        rw [hsame, htook] at htaken
        exact absurd htaken (by simp)

/-- Another test's result, once taken, is never put right. -/
theorem Reported.stays {j j' : Job} {as : List Act} (h : Reported j) (hother : ¬OwnResult j)
    (hrun : run Job.step j as = some j') : ¬OwnResult j' := by
  have hdecided : j.slot.outcome ≠ .pending := by
    intro hpending
    exact hother fun n t htaken => absurd ((h.pending hpending).symm.trans htaken) (by simp)
  have hkeeps : ∀ (s : Job) (a : Act) (s' : Job),
      (s.slot.outcome ≠ .pending ∧ s.took = j.took ∧ s.before = j.before) →
        s.step a = some s' →
        s'.slot.outcome ≠ .pending ∧ s'.took = j.took ∧ s'.before = j.before := by
    intro s a s' ⟨hnot, htook, hbefore⟩ hstep
    obtain ⟨hslot, htook', hbefore'⟩ := Job.step_decided hnot hstep
    exact ⟨by rw [hslot]; exact hnot, htook'.trans htook, hbefore'.trans hbefore⟩
  obtain ⟨-, htook, hbefore⟩ := run_invariant hkeeps ⟨hdecided, rfl, rfl⟩ hrun
  unfold OwnResult at hother ⊢
  rw [htook, hbefore]
  exact hother

/-- A whole run reports its own test exactly when none of its polls is a mistake. -/
theorem Traced.own_run {j j' : Job} {as : List Act} (h : Traced j) (hrep : Reported j)
    (hown : OwnResult j) (hrun : run Job.step j as = some j') :
    AllMeet Unmistaken Job.step j as ↔ OwnResult j' := by
  induction as generalizing j with
  | nil =>
      rw [run_nil, Option.some.injEq] at hrun
      exact iff_of_true trivial (hrun ▸ hown)
  | cons a as ih =>
      rw [run_cons, Option.bind_eq_some_iff] at hrun
      obtain ⟨m, hm, hrest⟩ := hrun
      have hstep := h.own_step hrep hown hm
      have hrep' := hrep.step h.unitShows hm
      constructor
      · intro hall
        exact (ih (h.step hm) hrep' (hstep.mp hall.1) hrest).mp (hall.2 m hm)
      · intro hlast
        have hown' : OwnResult m := by
          by_contra hother
          exact hrep'.stays hother hrest hlast
        refine ⟨hstep.mpr hown', fun s' hs' => ?_⟩
        rw [hm, Option.some.injEq] at hs'
        exact hs' ▸ (ih (h.step hm) hrep' hown' hrest).mpr hlast

/-! ## §6. How long it takes. -/

/-- Polls at least every `P` ms, from the beginning on: a pending job is not kept waiting
longer. -/
def PolledEvery (P : Nat) (j : Job) : Act → Prop
  | .wait ms => j.slot.outcome = .pending → j.now + ms ≤ j.lastPoll + P
  | _ => True

/-- Where a pending job stands: in the window from START, or in the one RUNNING opened. -/
structure Within (P : Nat) (j : Job) (opened : Nat) : Prop where
  isOpen : j.p.windowStartMs = reading opened
  polledIn : opened ≤ j.lastPoll ∧ j.lastPoll < opened + SELF_TEST_TIMEOUT_MS.toNat
  soon : j.lastPoll ≤ j.now ∧ j.now ≤ j.lastPoll + P
  first : j.p.sawRunning = false → opened = j.beganAt
  second : opened < j.beganAt + SELF_TEST_TIMEOUT_MS.toNat + P

/-- A poll that finds its window open is made inside it. -/
theorem undecided_pending {p : SelfTestPoll} {opened now : Nat}
    (hopen : p.windowStartMs = reading opened) (hle : opened ≤ now)
    (hround : now < opened + 2 ^ 32) (hpending : undecided p (reading now) = .pending) :
    now < opened + SELF_TEST_TIMEOUT_MS.toNat := by
  unfold undecided at hpending
  by_cases hover : reading now - p.windowStartMs ≥ SELF_TEST_TIMEOUT_MS
  · rw [if_pos hover] at hpending
    exact absurd hpending (by decide)
  · rw [hopen, ge_iff_le, UInt32.le_iff_toNat_le, elapsed_near hle hround] at hover
    omega

theorem unread_pending {p : SelfTestPoll} {nowMs : UInt32}
    (hout : SelfTestOutcome.pending ∈ [.unsupported, undecided p nowMs]) :
    undecided p nowMs = .pending := by
  rcases List.mem_pair.mp hout with hunsupported | hundecided
  · exact absurd hunsupported (by decide)
  · exact hundecided.symm

/-- A poll that leaves the job pending was made inside the window, or opens the second. -/
theorem Within.polled {P : Nat} {j : Job} {opened : Nat} (h : Within P j opened)
    (hP : SELF_TEST_TIMEOUT_MS.toNat + P ≤ 2 ^ 32) {readOk : Bool}
    (hpending : (j.polled readOk).slot.outcome = .pending) :
    ∃ opened', Within P (j.polled readOk) opened' := by
  have hpolled := h.polledIn
  have hsoon := h.soon
  have hround : j.now < opened + 2 ^ 32 := by omega
  have hinside (hp : undecided j.p (reading j.now) = .pending) :=
    undecided_pending h.isOpen (by omega) hround hp
  have hsees := selfTestPollObserve_observes j.p readOk j.unit.selfTest (reading j.now) j.slot
  unfold Job.polled Job.observed at hpending ⊢
  generalize selfTestPollObserve j.p readOk j.unit.selfTest.seen (reading j.now) j.slot = r
    at hsees hpending ⊢
  cases hsees with
  | @unread p' outcome hread hsaw hvalid hbase hwindow hout =>
      have hoff : outcome = .pending := hpending
      have hin := hinside (unread_pending (hoff ▸ hout))
      exact ⟨opened, hwindow.trans h.isOpen, ⟨by show opened ≤ j.now; omega, hin⟩,
        ⟨Nat.le_refl _, Nat.le_add_right _ _⟩, fun hnot => h.first (hsaw ▸ hnot), h.second⟩
  | firstRunning hread hrunning hsaw =>
      have hfirst := h.first hsaw
      refine ⟨j.now, rfl, ⟨Nat.le_refl _, Nat.lt_add_of_pos_right (by decide)⟩,
        ⟨Nat.le_refl _, Nat.le_add_right _ _⟩, fun hnot => ?_, ?_⟩
      · exact absurd hnot.symm Bool.false_ne_true
      · show j.now < j.beganAt + _ + P
        omega
  | stillRunning hread hrunning hsaw =>
      have hin := hinside hpending
      refine ⟨opened, (noteBaseline_windowStartMs _ _).trans h.isOpen,
        ⟨by show opened ≤ j.now; omega, hin⟩, ⟨Nat.le_refl _, Nat.le_add_right _ _⟩,
        fun hnot => ?_, h.second⟩
      exact h.first ((noteBaseline_sawRunning _ _).symm.trans hnot)
  | notFresh hread hrunning hstale =>
      have hin := hinside hpending
      refine ⟨opened, (noteBaseline_windowStartMs _ _).trans h.isOpen,
        ⟨by show opened ≤ j.now; omega, hin⟩, ⟨Nat.le_refl _, Nat.le_add_right _ _⟩,
        fun hnot => ?_, h.second⟩
      exact h.first ((noteBaseline_sawRunning _ _).symm.trans hnot)
  | taken hread hterminal hfresh =>
      have hdecides := answer_decides j.unit.selfTest
      have hpending' : answer j.unit.selfTest = .pending := hpending
      rw [hpending'] at hdecides
      exact absurd hdecides (by decide)

/-- While the job is pending, it is in one of its windows. -/
def Timely (P : Nat) (j : Job) : Prop :=
  j.slot.outcome = .pending → ∃ opened, Within P j opened

theorem Timely.accepted (P : Nat) (u : TestedUnit) (slot : SelfTestSlot) (now : Nat) :
    Timely P (Job.accepted u slot now) := by
  intro _
  refine ⟨now, rfl, ⟨Nat.le_refl _, Nat.lt_add_of_pos_right (by decide)⟩,
    ⟨Nat.le_refl _, Nat.le_add_right _ _⟩, fun _ => rfl, ?_⟩
  show now < now + 45000 + P
  omega

theorem Timely.step {P : Nat} (hP : SELF_TEST_TIMEOUT_MS.toNat + P ≤ 2 ^ 32) {j j' : Job}
    {a : Act} (h : Timely P j) (hpolled : PolledEvery P j a) (hstep : j.step a = some j') :
    Timely P j' := by
  cases a with
  | unit a =>
      obtain ⟨u, hu, rfl⟩ := Option.map_eq_some_iff.mp hstep
      intro hpending
      obtain ⟨opened, hin⟩ := h hpending
      exact ⟨opened, hin.isOpen, hin.polledIn, hin.soon, hin.first, hin.second⟩
  | wait ms =>
      cases hstep
      intro hpending
      obtain ⟨opened, hin⟩ := h hpending
      refine ⟨opened, hin.isOpen, hin.polledIn, ⟨?_, hpolled hpending⟩, hin.first, hin.second⟩
      exact Nat.le_trans hin.soon.1 (Nat.le_add_right _ _)
  | poll readOk =>
      obtain ⟨hwas, hj⟩ := Option.ite_none_right_eq_some.mp hstep
      cases hj
      intro hpending
      obtain ⟨opened, hin⟩ := h hwas
      exact hin.polled hP hpending

theorem Timely.ends {P : Nat} {j : Job} (h : Timely P j) (hpending : j.slot.outcome = .pending) :
    j.now < j.beganAt + 2 * SELF_TEST_TIMEOUT_MS.toNat + 2 * P := by
  obtain ⟨opened, hin⟩ := h hpending
  have hpolled := hin.polledIn
  have hsoon := hin.soon
  have hsecond := hin.second
  omega

/-! ## §7. Polls a whole round of the clock apart. -/

/-- A job that reads NEVER, its window open since the clock stood at 0. -/
structure Idle (j : Job) : Prop where
  pending : j.slot.outcome = .pending
  never : j.unit.selfTest.state = .never
  opened : j.p.windowStartMs = 0
  origin : j.beganAt = 0

theorem Idle.polled {j : Job} (h : Idle j) (hin : reading j.now < SELF_TEST_TIMEOUT_MS) :
    Idle (j.polled true) := by
  have hundecided : undecided j.p (reading j.now) = .pending := by
    unfold undecided
    rw [h.opened, UInt32.sub_zero, if_neg (UInt32.not_le.mpr hin)]
  have hsees := selfTestPollObserve_observes j.p true j.unit.selfTest (reading j.now) j.slot
  unfold Job.polled Job.observed
  generalize selfTestPollObserve j.p true j.unit.selfTest.seen (reading j.now) j.slot = r
    at hsees ⊢
  cases hsees with
  | unread hread hsaw hvalid hbase hwindow hout => exact absurd hread.symm Bool.false_ne_true
  | firstRunning hread hrunning hsaw => exact absurd (h.never.symm.trans hrunning) (by decide)
  | stillRunning hread hrunning hsaw => exact absurd (h.never.symm.trans hrunning) (by decide)
  | notFresh hread hrunning hstale =>
      exact ⟨hundecided, h.never, (noteBaseline_windowStartMs _ _).trans h.opened, h.origin⟩
  | taken hread hterminal hfresh => exact absurd h.never (isTerminal_iff.mp hterminal).2

/-- Two polls, `ms` and `ms + ms'` from now. -/
def round (ms ms' : Nat) : List Act := [.wait ms, .poll true, .wait ms', .poll true]

section Rounds

variable {P ms ms' : Nat} (hms : ms < SELF_TEST_TIMEOUT_MS.toNat) (hround : ms + ms' = 2 ^ 32)
  (hP : ms ≤ P ∧ ms' ≤ P)

include hms hround hP

/-- The clock goes round between two polls, and the job is as pending as before. -/
theorem Idle.round {j : Job} {k : Nat} (h : Idle j) (hnow : j.now = k * 2 ^ 32)
    (hlast : j.lastPoll = j.now) :
    ∃ j', run Job.step j (SelfTest.round ms ms') = some j' ∧ Idle j' ∧
      j'.now = (k + 1) * 2 ^ 32 ∧ j'.lastPoll = j'.now ∧
      AllMeet (PolledEvery P) Job.step j (SelfTest.round ms ms') := by
  have htimeout : SELF_TEST_TIMEOUT_MS.toNat = 45000 := rfl
  let j₁ : Job := { j with now := j.now + ms }
  have h₁ : Idle j₁ := ⟨h.pending, h.never, h.opened, h.origin⟩
  have hin₁ : reading j₁.now < SELF_TEST_TIMEOUT_MS := by
    rw [UInt32.lt_iff_toNat_lt, reading_toNat]
    show (j.now + ms) % 2 ^ 32 < _
    omega
  have h₂ : Idle (j₁.polled true) := h₁.polled hin₁
  let j₃ : Job := { j₁.polled true with now := j.now + ms + ms' }
  have h₃ : Idle j₃ := ⟨h₂.pending, h₂.never, h₂.opened, h₂.origin⟩
  have hin₃ : reading j₃.now < SELF_TEST_TIMEOUT_MS := by
    rw [UInt32.lt_iff_toNat_lt, reading_toNat]
    show (j.now + ms + ms') % 2 ^ 32 < _
    omega
  have hw₁ : j.step (.wait ms) = some j₁ := rfl
  have hp₁ : j₁.step (.poll true) = some (j₁.polled true) := if_pos h₁.pending
  have hw₂ : (j₁.polled true).step (.wait ms') = some j₃ := rfl
  have hp₂ : j₃.step (.poll true) = some (j₃.polled true) := if_pos h₃.pending
  refine ⟨j₃.polled true, ?_, h₃.polled hin₃, ?_, rfl, ?_⟩
  · simp only [SelfTest.round, run_cons, run_nil, hw₁, hp₁, hw₂, hp₂, Option.bind_some]
  · show j.now + ms + ms' = (k + 1) * 2 ^ 32
    omega
  · refine ⟨fun _ => by omega, fun s hs => ⟨trivial, fun s' hs' => ⟨fun _ => ?_, ?_⟩⟩⟩
    · rw [hw₁, Option.some.injEq] at hs
      rw [← hs, hp₁, Option.some.injEq] at hs'
      rw [← hs']
      exact Nat.add_le_add_left hP.2 _
    · exact fun _ _ => ⟨trivial, fun _ _ => trivial⟩

/-- After any number of rounds the job is still pending. -/
theorem Idle.rounds (n : Nat) {j : Job} {k : Nat} (h : Idle j) (hnow : j.now = k * 2 ^ 32)
    (hlast : j.lastPoll = j.now) :
    ∃ as j', run Job.step j as = some j' ∧ Idle j' ∧ j'.now = (k + n) * 2 ^ 32 ∧
      AllMeet (PolledEvery P) Job.step j as := by
  induction n generalizing j k with
  | zero =>
      have hnow' : j.now = (k + 0) * 2 ^ 32 := by omega
      exact ⟨[], j, rfl, h, hnow', trivial⟩
  | succ n ih =>
      obtain ⟨m, hm, hidle, hnow', hlast', hmeets⟩ := h.round hms hround hP hnow hlast
      obtain ⟨as, j', hrun, hidle', hend, hrest⟩ := ih hidle hnow' hlast'
      have hcount : k + 1 + n = k + (n + 1) := by omega
      rw [hcount] at hend
      refine ⟨SelfTest.round ms ms' ++ as, j', ?_, hidle', hend, hmeets.append fun s hs => ?_⟩
      · rw [run_append, hm]
        exact hrun
      · rw [hm, Option.some.injEq] at hs
        exact hs ▸ hrest

end Rounds

/-! ## §8. What a self-test job reports, and when. -/

/-- A unit after any history. -/
def Lived (u : TestedUnit) : Prop := ∃ history, run TestedUnit.step {} history = some u

theorem Lived.shows {u : TestedUnit} (h : Lived u) : Shows u := by
  obtain ⟨history, hrun⟩ := h
  refine run_invariant (fun _ _ _ hshows hstep => hshows.step hstep) ?_ hrun
  intro hterminal
  exact absurd hterminal Bool.false_ne_true

/-- The result `t` of the unit's test `n` is what the job answered. -/
def Answered (j : Job) (n : Nat) (t : SelfTestResult) : Prop :=
  (n, t) ∈ j.unit.ended ∧ j.slot.outcome = answer t ∧ Carries j.slot t

theorem before_step {j j' : Job} {a : Act} (hstep : j.step a = some j') :
    j'.before = j.before ∧ j'.beganAt = j.beganAt := by
  cases a with
  | unit a =>
      obtain ⟨u, hu, rfl⟩ := Option.map_eq_some_iff.mp hstep
      exact ⟨rfl, rfl⟩
  | wait ms =>
      cases hstep
      exact ⟨rfl, rfl⟩
  | poll readOk =>
      obtain ⟨-, hj⟩ := Option.ite_none_right_eq_some.mp hstep
      cases hj
      exact ⟨rfl, rfl⟩

theorem answered_of_reported {j : Job} (h : Reported j)
    (hanswer : j.slot.outcome = .ok ∨ j.slot.outcome = .unitFailed) :
    ∃ n t, j.took = some (n, t) ∧ Answered j n t := by
  obtain ⟨n, t, htook, hended, houtcome, hcarries⟩ := h.answered hanswer
  exact ⟨n, t, htook, hended, houtcome, hcarries⟩

/-- Every job, on a unit with any history, answers with the result of one of the unit's
tests, measured by the unit.  It is a test begun after START was accepted exactly when no
poll reads the end of a test begun before, which an earlier poll read as RUNNING.  Polled
at least every `P` ms, a job ends within two windows and two such intervals exactly when a
window and an interval fit into a round of the clock. -/
theorem self_test_reports (P : Nat) :
    (∀ u slot now as j, Lived u → run Job.step (Job.accepted u slot now) as = some j →
      (j.slot.outcome = .ok ∨ j.slot.outcome = .unitFailed →
        ∃ n t, j.took = some (n, t) ∧ Answered j n t) ∧
      (AllMeet Unmistaken Job.step (Job.accepted u slot now) as ↔
        ∀ n t, j.took = some (n, t) → u.began < n)) ∧
    (SELF_TEST_TIMEOUT_MS.toNat + P ≤ 2 ^ 32 ↔
      ∀ u slot now as j, Lived u → run Job.step (Job.accepted u slot now) as = some j →
        AllMeet (PolledEvery P) Job.step (Job.accepted u slot now) as →
        j.slot.outcome = .pending → j.now < now + 2 * SELF_TEST_TIMEOUT_MS.toNat + 2 * P) := by
  refine ⟨fun u slot now as j hlived hrun => ?_, fun hP u slot now as j hlived hrun hpolled => ?_,
    fun hends => ?_⟩
  · have hkeeps := run_invariant (P := fun s => Traced s ∧ Reported s)
      (fun s a s' h hstep => ⟨h.1.step hstep, h.2.step h.1.unitShows hstep⟩)
      ⟨Traced.accepted hlived.shows slot now, Reported.accepted u slot now⟩ hrun
    refine ⟨answered_of_reported hkeeps.2, ?_⟩
    rw [(Traced.accepted hlived.shows slot now).own_run (Reported.accepted u slot now)
      (fun _ _ htook => absurd htook (by simp [Job.accepted])) hrun]
    unfold OwnResult
    have hbefore := run_invariant (P := fun s => s.before = u.began)
      (fun s a s' h hstep => (before_step hstep).1.trans h) rfl hrun
    rw [hbefore]
  · intro hpending
    have htimely := run_invariant_of_meets (P := fun s => Timely P s ∧ s.beganAt = now)
      (fun s a s' h hmeets hstep => ⟨h.1.step hP hmeets hstep, (before_step hstep).2.trans h.2⟩)
      ⟨Timely.accepted P u slot now, rfl⟩ hpolled hrun
    have hend := htimely.1.ends hpending
    rw [htimely.2] at hend
    exact hend
  · -- polls a round of the clock apart leave it pending for good
    by_contra hlong
    have htimeout : SELF_TEST_TIMEOUT_MS.toNat = 45000 := rfl
    have hearly : 44999 < SELF_TEST_TIMEOUT_MS.toNat := by decide
    have hround : 44999 + 4294922297 = 2 ^ 32 := by omega
    have hP : 44999 ≤ P ∧ 4294922297 ≤ P := by omega
    have hidle : Idle (Job.accepted {} {} 0) := ⟨rfl, rfl, rfl, rfl⟩
    obtain ⟨as, j, hrun, hidle, hnow, hmeets⟩ :=
      hidle.rounds (k := 0) hearly hround hP (P + 1) (by simp [Job.accepted]) rfl
    have hend := hends {} {} 0 as j ⟨[], rfl⟩ hrun hmeets hidle.pending
    omega

def goodResult : SelfTestResult where
  state := .ok
  stepsPerRev := 2038
  hallWindowSteps := 59
  revTimeMs := 4000

/-- START is accepted while an earlier test runs; one poll reads RUNNING, the next its
result, before the loop has taken the flag. -/
theorem earlier_result_is_taken :
    ¬∀ u slot now as j, Lived u → run Job.step (Job.accepted u slot now) as = some j →
      j.slot.outcome = .ok ∨ j.slot.outcome = .unitFailed →
      ∃ n t, u.began < n ∧ Answered j n t := by
  intro hclaim
  have hlived : Lived { selfTest := { state := .running }, began := 1 } :=
    ⟨[.start, .pickUp], rfl⟩
  have hrun : ∃ j, run Job.step
      (Job.accepted { selfTest := { state := .running }, began := 1 } { seq := 7, addr := 5 } 0)
      [.wait 500, .poll true, .unit (.finish goodResult), .wait 500, .poll true] = some j ∧
      j.slot.outcome = .ok ∧ j.unit.ended = [(1, goodResult)] := ⟨_, rfl, rfl, rfl⟩
  obtain ⟨j, hj, hok, hended⟩ := hrun
  obtain ⟨n, t, hafter, hmem, -⟩ := hclaim _ _ _ _ j hlived hj (Or.inl hok)
  rw [hended, List.mem_singleton] at hmem
  cases hmem
  exact absurd hafter (Nat.lt_irrefl 1)

end SplitFlap.SelfTest
