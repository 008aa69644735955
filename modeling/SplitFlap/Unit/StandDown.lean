/-
  SplitFlap.Unit.StandDown — which re-homes the idle hall check stands down for.

  The check arms a re-home when the hall pin contradicts the belief at rest, and
  leaves a flag beside `driftPending`; `loop()` counts a flagged re-home that
  moved `driftEvents` nowhere as futile, and three of these switch the check off.
  The flag outlives a home that has settled the matter already, a seek that fails
  moves `driftEvents` nowhere either, and neither does a find once the counter is
  full.

  The loop is `HomeRest`'s, with the self-test followed too.  Beside it stands
  what no unit has: whether the check armed a re-home since the last home or
  re-home was over, and what the last re-home really found.
-/
import SplitFlap.Unit.HomeRest

namespace SplitFlap.StandDown

open Machine Motion HomeRest

/-! ## §1. The loop, watched. -/

/-- Whether the marker lies further off than the threshold from where it is believed. -/
def furtherOff (d : DriftState) : Bool :=
  let deviation := driftFoldDeviation d.drumPosition STEPS
  let magnitude := if deviation < 0 then -deviation else deviation
  !(magnitude ≤ DRIFT_THRESHOLD_STEPS.toInt16)

/-- A re-home: whether the idle check armed it since the last home or re-home, whether the
marker was found, and whether that was further off. -/
structure Rehome where
  armed : Bool
  found : Bool
  off : Bool
  deriving DecidableEq

structure Watched where
  sketch : Sketch
  /-- Inside `runSelfTest`. -/
  testing : Bool := false
  /-- The idle check armed a re-home since the last home or re-home was over. -/
  armed : Bool := false
  rehome : Option Rehome := none

def Watched.futile (w : Watched) : UInt8 := w.sketch.unit.idleHall.futileRehomes

/-- The idle check arms a re-home in this part of the pass. -/
def idleArms (o : Looks) (c : Sketch) : Bool :=
  match c.stage with
  | .idleHall =>
      idleHallEligible c.unit && (250 ≤ c.currentMillis - c.unit.clocks.idleHallLastSampleMs) &&
        (idleHallObserve c.unit.idleHall.check
          (idleHallExpectation c.unit.drift.drumPosition
            (idleHallResolveWindow c.unit.idleHall.selfTestLastHallWindow) STEPS) o.hallLow).1
  | _ => false

def testBegun (s : UnitState) : UnitState :=
  { s with
    pending := { s.pending with selfTest := false }
    boot := { s.boot with bootHomeAttempted := true }
    history := .testBegun :: s.history
    currentlyrotating := true }

/-- `windowSteps` is the window of a test that passed. -/
def testOver (steps : Int) (windowSteps : Option Nat) (now : UInt32) (s : UnitState) : UnitState :=
  let s := turn steps s
  match windowSteps with
  | some n =>
      let s := markSynced s
      let s := noted true now (testPassed (turn (ROTATIONDIRECTION * s.calOffset.toInt) s))
      { s with
        idleHall := { s.idleHall with
          selfTestLastHallWindow :=
            if n = 0 then s.idleHall.selfTestLastHallWindow else UInt16.ofNat n } }
  | none =>
      let s := blank { s with displayedLetter := 0, history := .testFailed :: s.history }
      noted false now
        { s with
          homed := false
          drift := { s.drift with positionKnown := false, driftPending := false } }

def tested (steps : Int) (windowSteps : Option Nat) (now : UInt32) (s : UnitState) : UnitState :=
  awake now
    { testOver steps windowSteps now s with
      lastRotation := rotationStamp now, currentlyrotating := false }

inductive Happens where
  | tick (ms : Nat)
  | hear (frame : List UInt8)
  | go (o : Looks)
  | seekEnds (steps : Nat) (found : Bool)
  | testBegins
  | testEnds (steps : Int) (windowSteps : Option Nat)

/-- What a seek that is over was, if it was a re-home. -/
def Watched.seen (who : Seeker) (steps : Nat) (found : Bool) (w : Watched) : Option Rehome :=
  match who with
  | .drift _ => some { armed := w.armed, found, off := furtherOff (turn steps w.sketch.unit).drift }
  | _ => w.rehome

def step (w : Watched) : Happens → Option Watched
  | .tick ms => (HomeRest.step w.sketch (.tick ms)).map fun c => { w with sketch := c }
  | .hear frame => (HomeRest.step w.sketch (.hear frame)).map fun c => { w with sketch := c }
  | .go o =>
      if w.testing then none
      else (w.sketch.go o).map fun c =>
        { w with sketch := c, armed := w.armed || idleArms o w.sketch }
  | .seekEnds steps found =>
      match w.sketch.stage with
      | .seeking who =>
          some { w with
            sketch := w.sketch.seekEnds who steps found
            armed := false
            rehome := w.seen who steps found }
      | _ => none
  | .testBegins =>
      match w.sketch.stage with
      | .selfTest =>
          if w.sketch.unit.pending.selfTest ∧ w.testing = false then
            some { w with
              sketch := w.sketch.on .selfTest (testBegun w.sketch.unit)
              testing := true }
          else none
      | _ => none
  | .testEnds steps windowSteps =>
      if w.testing then
        some { w with
          sketch := w.sketch.on .identify (tested steps windowSteps w.sketch.now w.sketch.unit)
          testing := false
          armed := false }
      else none

def start (e : Stored) (turned : Int) : Watched := { sketch := boot e turned }

/-! ## §2. What is asked of a run. -/

/-- The re-home that this part of the pass judges, and the state it began in. -/
def judged (w : Watched) : Happens → Option (UnitState × Rehome)
  | .go _ =>
      match w.sketch.stage with
      | .seekOver (.drift before) _ => w.rehome.map fun r => (before, r)
      | _ => none
  | _ => none

/-- The count grows only by a re-home of the check's own that found the marker where the belief
put it, and one that found it further off clears it. -/
def OnItsOwnFailures (w : Watched) (a : Happens) : Prop :=
  ∀ w', step w a = some w' →
    (w.futile < w'.futile →
      ∃ before r, judged w a = some (before, r) ∧ r.armed = true ∧ r.found = true ∧
        r.off = false) ∧
    ∀ before r, judged w a = some (before, r) → r.armed = true → r.found = true → r.off = true →
      w'.futile = 0

/-- A re-home under the flag finds the marker: further off while the counter has room, or where
it is believed to be, and then the flag is no older than the last home. -/
def FlagHolds (w : Watched) (a : Happens) : Prop :=
  ∀ before r, judged w a = some (before, r) → before.idleHall.armedRehome = true →
    r.found = true ∧
      ((r.off = true ∧ before.drift.driftEvents < 0xFF) ∨ (r.off = false ∧ r.armed = true))

/-! ## §3. The parts of a pass that have no say in it. -/

/-- Neither the count nor the flag is touched, and a re-home is not armed over an unknown
position. -/
structure Same (s s' : UnitState) : Prop where
  futile : s'.idleHall.futileRehomes = s.idleHall.futileRehomes
  armed : s'.idleHall.armedRehome = s.idleHall.armedRehome
  known : s'.drift.driftPending = true → s'.drift.positionKnown = false →
    s.drift.driftPending = true ∧ s.drift.positionKnown = false

theorem Same.refl (s : UnitState) : Same s s := ⟨rfl, rfl, fun hp hk => ⟨hp, hk⟩⟩

/-- Nothing is written that this is about. -/
theorem Same.of_eq {s s' : UnitState} (hdrift : s'.drift = s.drift)
    (hfutile : s'.idleHall.futileRehomes = s.idleHall.futileRehomes)
    (harmed : s'.idleHall.armedRehome = s.idleHall.armedRehome) : Same s s' where
  futile := hfutile
  armed := harmed
  known := by
    rw [hdrift]
    exact fun hp hk => ⟨hp, hk⟩

theorem Same.drained {s : UnitState} {asked : Pending → Bool} {work : UnitState → UnitState}
    (h : Same s (work s)) : Same s (drained asked work s) := by
  unfold HomeRest.drained
  split
  · exact h
  · exact Same.refl s

theorem Same.ite {s a b : UnitState} {φ : Prop} [Decidable φ] (ha : Same s a) (hb : Same s b) :
    Same s (if φ then a else b) := by
  split
  · exact ha
  · exact hb

theorem Same.turn (steps : Int) (s : UnitState) : Same s (turn steps s) :=
  ⟨rfl, rfl, fun hp hk => ⟨hp, hk⟩⟩

theorem Same.hear (s : UnitState) (frame : List UInt8) : Same s (receiveLetter s frame) := by
  have hidle : (receiveLetter s frame).idleHall = s.idleHall := by
    unfold receiveLetter
    dsimp only
    split
    · rfl
    · split
      · rfl
      · split <;> rfl
  exact Same.of_eq (receiveLetter_heard s frame).drift (by rw [hidle]) (by rw [hidle])

/-- An edge that is seen makes the position known. -/
theorem driftObserveEdge_known (d : DriftState) :
    (driftObserveEdge d STEPS DRIFT_THRESHOLD_STEPS).2.positionKnown = true := by
  unfold driftObserveEdge
  dsimp only
  split_ifs <;> rfl

theorem Same.flapStepped (w : Watch) (hallLow : Bool) (s : UnitState) :
    Same s (flapStepped w hallLow s) := by
  unfold HomeRest.flapStepped
  refine Same.ite ⟨rfl, rfl, fun _ hk => ?_⟩ (Same.turn _ s)
  exact Bool.noConfusion ((driftObserveEdge_known _).symm.trans hk)

/-! ## §4. A part of the pass. -/

/-- The parts that are no re-home. -/
def plain : Stage → Bool
  | .seeking (.drift _) => false
  | .seekOver (.drift _) _ => false
  | _ => true

/-- What a part of the pass is to the count and the flag. -/
inductive Goes (o : Looks) (c : Sketch) : Sketch → Prop where
  | same (c' : Sketch) (hfrom : plain c.stage = true) (hidle : idleArms o c = false)
      (hto : plain c'.stage = true) (h : Same c.unit c'.unit) : Goes o c c'
  | samples (hfrom : c.stage = .idleHall) :
      Goes o c (c.on .driftCheck (idleChecked c.currentMillis o.hallLow c.unit))
  | rehomes (hfrom : c.stage = .driftCheck) (hpending : c.unit.drift.driftPending = true) :
      Goes o c ((c.on .driftCheck (rehomeNoted c.currentMillis c.unit)).begins (.drift c.unit))
  | judges (before : UnitState) (found : Bool) (hfrom : c.stage = .seekOver (.drift before) found) :
      Goes o c (c.on .sleep (awake c.now (rehomeJudged before c.unit)))

theorem idleArms_other {o : Looks} {c : Sketch} (h : ∀ s, c.stage = s → s ≠ .idleHall) :
    idleArms o c = false := by
  unfold idleArms
  split
  · rename_i hstage
    exact absurd rfl (h _ hstage)
  · rfl

theorem Goes.plain {o : Looks} {c c' : Sketch} (hstage : StandDown.plain c.stage = true)
    (hidle : c.stage ≠ .idleHall) (hto : StandDown.plain c'.stage = true)
    (h : Same c.unit c'.unit) : Goes o c c' :=
  .same c' hstage (idleArms_other fun _ hs => hs ▸ hidle) hto h

/-- A seek that is no re-home begins. -/
theorem Goes.begins {o : Looks} {c d : Sketch} {who : Seeker}
    (hstage : StandDown.plain c.stage = true) (hidle : c.stage ≠ .idleHall)
    (hwho : StandDown.plain (.seeking who) = true) (h : Same c.unit d.unit) : Goes o c (d.begins who) :=
  .plain hstage hidle hwho ⟨h.futile, h.armed, h.known⟩

theorem Same.identifyBlink (now : UInt32) (s : UnitState) : Same s (identifyBlink now s) :=
  Same.ite (Same.refl s) (Same.of_eq rfl rfl rfl)

theorem go_goes {o : Looks} {c c' : Sketch} (hgo : c.go o = some c') : Goes o c c' := by
  obtain ⟨s, t, stage, currentMillis, log⟩ := c
  unfold Sketch.go at hgo
  cases stage with
  | silence =>
      cases hgo
      exact .plain rfl Stage.noConfusion rfl (Same.of_eq rfl rfl rfl)
  | bootloader =>
      cases hgo
      refine .plain rfl Stage.noConfusion ?_ (Same.refl _)
      show StandDown.plain (if s.pending.bootloader = true then .rebooting else .offsetWrite) = true
      split <;> rfl
  | rebooting => cases hgo
  | offsetWrite =>
      cases hgo
      exact .plain rfl Stage.noConfusion rfl (Same.drained (Same.of_eq rfl rfl rfl))
  | gatesWrite =>
      cases hgo
      exact .plain rfl Stage.noConfusion rfl (Same.drained (Same.of_eq rfl rfl rfl))
  | bootUpdate =>
      cases hgo
      exact .plain rfl Stage.noConfusion rfl (Same.drained (Same.of_eq rfl rfl rfl))
  | home =>
      cases hgo
      dsimp only
      split
      · exact .plain rfl Stage.noConfusion rfl (Same.of_eq rfl rfl rfl)
      · exact .plain rfl Stage.noConfusion rfl (Same.refl _)
  | homeGuard =>
      cases hgo
      dsimp only
      split
      · exact .begins rfl Stage.noConfusion rfl (Same.refl _)
      · exact .plain rfl Stage.noConfusion rfl (Same.of_eq rfl rfl rfl)
  | jog =>
      cases hgo
      dsimp only
      split
      · exact .plain rfl Stage.noConfusion rfl ⟨rfl, rfl, fun hp hk => ⟨hp, hk⟩⟩
      · exact .plain rfl Stage.noConfusion rfl (Same.refl _)
  | jogOver =>
      cases hgo
      exact .plain rfl Stage.noConfusion rfl (Same.of_eq rfl rfl rfl)
  | setAddress =>
      cases hgo
      exact .plain rfl Stage.noConfusion rfl
        (Same.drained (Same.ite (Same.of_eq rfl rfl rfl) (Same.of_eq rfl rfl rfl)))
  | clearAddress =>
      cases hgo
      exact .plain rfl Stage.noConfusion rfl (Same.drained (Same.of_eq rfl rfl rfl))
  | odometerReset =>
      cases hgo
      exact .plain rfl Stage.noConfusion rfl (Same.drained (Same.of_eq rfl rfl rfl))
  | selfTest =>
      dsimp only at hgo
      split at hgo
      · cases hgo
      · cases hgo
        exact .plain rfl Stage.noConfusion rfl (Same.refl _)
  | identify =>
      cases hgo
      exact .plain rfl Stage.noConfusion rfl (Same.drained (Same.of_eq rfl rfl rfl))
  | clock =>
      cases hgo
      exact .plain rfl Stage.noConfusion rfl (Same.identifyBlink _ _)
  | bootHome =>
      cases hgo
      dsimp only
      split
      · exact .begins rfl Stage.noConfusion rfl (Same.refl _)
      · exact .plain rfl Stage.noConfusion rfl (Same.refl _)
  | idleSample =>
      cases hgo
      exact .plain rfl Stage.noConfusion rfl (Same.ite (Same.of_eq rfl rfl rfl) (Same.refl _))
  | idleHall =>
      cases hgo
      exact .samples rfl
  | driftCheck =>
      cases hgo
      dsimp only
      split
      · rename_i hdue
        unfold driftRehomeDue at hdue
        simp only [Bool.and_eq_true] at hdue
        exact .rehomes rfl hdue.1.1.1
      · exact .plain rfl Stage.noConfusion rfl (Same.refl _)
  | sleep =>
      cases hgo
      exact .plain rfl Stage.noConfusion rfl (Same.ite (Same.of_eq rfl rfl rfl) (Same.refl _))
  | letter =>
      cases hgo
      dsimp only
      split
      · exact .plain rfl Stage.noConfusion rfl (Same.of_eq rfl rfl rfl)
      · exact .plain rfl Stage.noConfusion rfl
          (Same.ite (Same.of_eq rfl rfl rfl) (Same.of_eq rfl rfl rfl))
  | rotate =>
      cases hgo
      dsimp only
      split
      · exact .plain rfl Stage.noConfusion rfl (Same.of_eq rfl rfl rfl)
      · exact .plain rfl Stage.noConfusion rfl (Same.of_eq rfl rfl rfl)
  | attempt toLetter =>
      cases hgo
      dsimp only
      split
      · exact .plain rfl Stage.noConfusion rfl (Same.refl _)
      · exact .plain rfl Stage.noConfusion rfl (Same.refl _)
  | heat toLetter =>
      cases hgo
      dsimp only
      split
      · exact .plain rfl Stage.noConfusion rfl (Same.refl _)
      · exact .plain rfl Stage.noConfusion rfl (Same.of_eq rfl rfl rfl)
  | supply toLetter =>
      cases hgo
      dsimp only
      split
      · exact .plain rfl Stage.noConfusion rfl (Same.of_eq rfl rfl rfl)
      · exact .plain rfl Stage.noConfusion rfl (Same.of_eq rfl rfl rfl)
  | commit toLetter =>
      cases hgo
      dsimp only
      split
      · exact .plain rfl Stage.noConfusion rfl (Same.of_eq rfl rfl rfl)
      · exact .begins rfl Stage.noConfusion rfl (Same.of_eq rfl rfl rfl)
  | seeking who => cases hgo
  | seekOver who found =>
      cases hgo
      cases who with
      | home => exact .plain rfl Stage.noConfusion rfl (Same.of_eq rfl rfl rfl)
      | boot => exact .plain rfl Stage.noConfusion rfl (Same.of_eq rfl rfl rfl)
      | drift before => exact .judges before found rfl
      | letter toLetter =>
          refine .plain rfl Stage.noConfusion ?_ (Same.refl _)
          cases found <;> rfl
  | flaps toLetter flaps =>
      cases hgo
      exact .plain rfl Stage.noConfusion rfl (Same.refl _)
  | flapping toLetter flaps steps w =>
      cases hgo
      cases steps with
      | succ steps => exact .plain rfl Stage.noConfusion rfl (Same.flapStepped _ _ _)
      | zero =>
          cases flaps with
          | succ flaps => exact .plain rfl Stage.noConfusion rfl (Same.of_eq rfl rfl rfl)
          | zero => exact .plain rfl Stage.noConfusion rfl (Same.of_eq rfl rfl rfl)

/-! ## §5. What holds at every moment. -/

/-- Outside a re-home. -/
structure Resting (w : Watched) : Prop where
  known : w.sketch.unit.drift.driftPending = true → w.sketch.unit.drift.positionKnown = true
  low : w.sketch.unit.idleHall.armedRehome = true → w.futile < 3
  flag : w.armed = true → w.sketch.unit.idleHall.armedRehome = true

/-- Since a re-home began in the state `before`. -/
structure Under (before : UnitState) (w : Watched) : Prop where
  futile : w.futile = before.idleHall.futileRehomes
  clear : w.sketch.unit.idleHall.armedRehome = false
  low : before.idleHall.armedRehome = true → before.idleHall.futileRehomes < 3

structure Seeking (before : UnitState) (w : Watched) : Prop extends Under before w where
  known : w.sketch.unit.drift.positionKnown = true
  events : w.sketch.unit.drift.driftEvents = before.drift.driftEvents
  flag : w.armed = true → before.idleHall.armedRehome = true

/-- The events are those of a marker found further off, as far as they are counted. -/
structure Told (before : UnitState) (w : Watched) (r : Rehome) : Prop where
  flag : r.armed = true → before.idleHall.armedRehome = true
  events : w.sketch.unit.drift.driftEvents =
    if r.found = true ∧ r.off = true ∧ before.drift.driftEvents < 0xFF then
      before.drift.driftEvents + 1
    else before.drift.driftEvents

structure SeekOver (before : UnitState) (w : Watched) : Prop extends Under before w where
  pending : w.sketch.unit.drift.driftPending = false
  unarmed : w.armed = false
  told : ∃ r, w.rehome = some r ∧ Told before w r

def HeldAt (w : Watched) : Stage → Prop
  | .seeking (.drift before) => Seeking before w
  | .seekOver (.drift before) _ => SeekOver before w
  | _ => Resting w

structure Held (w : Watched) : Prop where
  testing : w.testing = true → w.sketch.stage = .selfTest
  here : HeldAt w w.sketch.stage

theorem HeldAt.resting {w : Watched} {stage : Stage} (h : HeldAt w stage)
    (hstage : plain stage = true) : Resting w := by
  unfold HeldAt at h
  split at h
  · cases hstage
  · cases hstage
  · exact h

theorem Resting.heldAt {w : Watched} {stage : Stage} (h : Resting w)
    (hstage : plain stage = true) : HeldAt w stage := by
  unfold HeldAt
  split
  · cases hstage
  · cases hstage
  · exact h

theorem Held.start (e : Stored) (turned : Int) : Held (start e turned) where
  testing := fun h => nomatch h
  here := Resting.heldAt
    ⟨(fun h => nomatch h), (fun h => nomatch h), (fun h => nomatch h)⟩ rfl

/-- What the step watch, the seek and the self-test have nothing to do with. -/
theorem Resting.same {w w' : Watched} (h : Resting w)
    (hsame : Same w.sketch.unit w'.sketch.unit) (harmed : w'.armed = true → w.armed = true) :
    Resting w' where
  known := by
    intro hpending
    by_contra hunknown
    rw [Bool.not_eq_true] at hunknown
    obtain ⟨hp, hk⟩ := hsame.known hpending hunknown
    exact Bool.noConfusion (hk.symm.trans (h.known hp))
  low := by
    unfold Watched.futile
    rw [hsame.armed, hsame.futile]
    exact h.low
  flag := by
    rw [hsame.armed]
    exact fun hw => h.flag (harmed hw)

/-- A frame, or time, in any part of the pass. -/
theorem Held.outside {w w' : Watched} (h : Held w) (hstage : w'.sketch.stage = w.sketch.stage)
    (htesting : w'.testing = w.testing) (harmed : w'.armed = w.armed)
    (hrehome : w'.rehome = w.rehome) (hdrift : w'.sketch.unit.drift = w.sketch.unit.drift)
    (hsame : Same w.sketch.unit w'.sketch.unit) : Held w' where
  testing := by
    rw [htesting, hstage]
    exact h.testing
  here := by
    have hhere := h.here
    have hfutile : w'.futile = w.futile := hsame.futile
    rw [hstage]
    unfold HeldAt at hhere ⊢
    split at hhere
    · exact {
        futile := hfutile.trans hhere.futile
        clear := hsame.armed.trans hhere.clear
        low := hhere.low
        known := by rw [hdrift]; exact hhere.known
        events := by rw [hdrift]; exact hhere.events
        flag := by rw [harmed]; exact hhere.flag }
    · obtain ⟨r, hr, htold⟩ := hhere.told
      exact {
        futile := hfutile.trans hhere.futile
        clear := hsame.armed.trans hhere.clear
        low := hhere.low
        pending := by rw [hdrift]; exact hhere.pending
        unarmed := harmed.trans hhere.unarmed
        told := ⟨r, hrehome.trans hr, htold.flag, by rw [hdrift]; exact htold.events⟩ }
    · exact hhere.same hsame fun hw => harmed ▸ hw

/-! ## §6. The steps. -/

/-- The idle check arms over a known position only, and before the third futile re-home. -/
theorem Resting.samples {w : Watched} {o : Looks} (h : Resting w)
    (hstage : w.sketch.stage = .idleHall) :
    Resting { w with
      sketch := w.sketch.on .driftCheck (idleChecked w.sketch.currentMillis o.hallLow w.sketch.unit)
      armed := w.armed || idleArms o w.sketch } := by
  have hidle : idleArms o w.sketch = (idleHallEligible w.sketch.unit &&
      (250 ≤ w.sketch.currentMillis - w.sketch.unit.clocks.idleHallLastSampleMs) &&
      (idleHallObserve w.sketch.unit.idleHall.check
        (idleHallExpectation w.sketch.unit.drift.drumPosition
          (idleHallResolveWindow w.sketch.unit.idleHall.selfTestLastHallWindow) STEPS)
        o.hallLow).1) := by
    unfold idleArms
    rw [hstage]
  have hflag := h.flag
  rw [hidle]
  unfold idleChecked
  cases heligible : idleHallEligible w.sketch.unit with
  | false =>
      rw [Bool.false_and, Bool.false_and, Bool.or_false]
      exact ⟨h.known, h.low, hflag⟩
  | true =>
      unfold idleHallEligible at heligible
      simp only [Bool.and_eq_true, Bool.not_eq_true', decide_eq_false_iff_not] at heligible
      have hknown : w.sketch.unit.drift.positionKnown = true := by tauto
      have hcount : w.futile < 3 := UInt8.not_le.mp (by tauto)
      rw [if_neg Bool.noConfusion]
      by_cases hdue : 250 ≤ w.sketch.currentMillis - w.sketch.unit.clocks.idleHallLastSampleMs
      · rw [if_pos hdue, decide_eq_true hdue, Bool.true_and, Bool.true_and]
        refine ⟨fun _ => hknown, fun _ => hcount, ?_⟩
        show (w.armed || _) = true → (_ || w.sketch.unit.idleHall.armedRehome) = true
        intro hw
        rw [Bool.or_eq_true] at hw ⊢
        exact hw.symm.imp id hflag
      · rw [if_neg hdue, decide_eq_false hdue, Bool.and_false, Bool.false_and, Bool.or_false]
        exact ⟨h.known, h.low, hflag⟩

theorem Held.go {w w' : Watched} (h : Held w) {o : Looks} (hstep : step w (.go o) = some w') :
    Held w' := by
  unfold step at hstep
  dsimp only at hstep
  split at hstep
  · cases hstep
  rename_i htesting
  rw [Option.map_eq_some_iff] at hstep
  obtain ⟨c', hgo, rfl⟩ := hstep
  have hhere := h.here
  refine ⟨fun ht => absurd ht htesting, ?_⟩
  show HeldAt _ c'.stage
  cases go_goes hgo with
  | same _ hfrom hidle hto hsame =>
      apply Resting.heldAt ?_ hto
      apply (hhere.resting hfrom).same hsame
      dsimp only
      rw [hidle, Bool.or_false]
      exact id
  | samples hfrom =>
      rw [hfrom] at hhere
      exact hhere.samples hfrom
  | rehomes hfrom hpending =>
      rw [hfrom] at hhere
      have hrest : Resting w := hhere
      have hidle : idleArms o w.sketch = false := idleArms_other fun s hs => by
        rw [← hs, hfrom]
        exact Stage.noConfusion
      exact {
        futile := rfl
        clear := rfl
        low := hrest.low
        known := hrest.known hpending
        events := rfl
        flag := by
          dsimp only
          rw [hidle, Bool.or_false]
          exact hrest.flag }
  | judges before found hfrom =>
      rw [hfrom] at hhere
      have hover : SeekOver before w := hhere
      have hidle : idleArms o w.sketch = false := idleArms_other fun s hs => by
        rw [← hs, hfrom]
        exact Stage.noConfusion
      have hjudged : (rehomeJudged before w.sketch.unit).drift = w.sketch.unit.drift ∧
          (rehomeJudged before w.sketch.unit).idleHall.armedRehome = false := by
        rw [← hover.clear]
        unfold rehomeJudged
        split_ifs <;> exact ⟨rfl, rfl⟩
      refine ⟨fun hp => ?_, fun ha => ?_, fun ha => ?_⟩
      · have hpending : w.sketch.unit.drift.driftPending = true := hjudged.1 ▸ hp
        exact Bool.noConfusion (hover.pending.symm.trans hpending)
      · exact Bool.noConfusion (hjudged.2.symm.trans ha)
      · dsimp only at ha
        rw [hover.unarmed, hidle] at ha
        exact Bool.noConfusion ha

/-! ### A seek that is over. -/

/-- The events a marker adds, when there was a belief to measure it against. -/
theorem driftObserveEdge_events {d : DriftState} (hknown : d.positionKnown = true) :
    (driftObserveEdge d STEPS DRIFT_THRESHOLD_STEPS).2.driftEvents =
      if furtherOff d = true ∧ d.driftEvents < 0xFF then d.driftEvents + 1 else d.driftEvents := by
  have hbelief : ¬d.positionKnown = false := by rw [hknown]; exact Bool.noConfusion
  unfold driftObserveEdge
  dsimp only
  rw [if_neg hbelief]
  cases hoff : furtherOff d with
  | true =>
      unfold furtherOff at hoff
      simp only [Bool.not_eq_true', decide_eq_false_iff_not] at hoff
      rw [if_neg hoff]
      simp only [true_and]
      rfl
  | false =>
      unfold furtherOff at hoff
      simp only [Bool.not_eq_false', decide_eq_true_iff] at hoff
      rw [if_pos hoff]
      rfl

/-- A re-home that is over is told by the state it leaves. -/
theorem Seeking.over {before : UnitState} {w : Watched} (h : Seeking before w) (steps : Nat)
    (found : Bool) :
    SeekOver before { w with
      sketch := w.sketch.seekEnds (.drift before) steps found
      armed := false
      rehome := w.seen (.drift before) steps found } := by
  have hturned : (turn steps w.sketch.unit).drift.driftEvents = before.drift.driftEvents :=
    h.events
  have hknown : (turn steps w.sketch.unit).drift.positionKnown = true := h.known
  cases found with
  | true =>
      have hevents := driftObserveEdge_events hknown
      rw [hturned] at hevents
      exact {
        futile := h.futile
        clear := h.clear
        low := h.low
        pending := rfl
        unarmed := rfl
        told := by
          refine ⟨_, rfl, h.flag, ?_⟩
          show (driftObserveEdge (turn steps w.sketch.unit).drift STEPS
            DRIFT_THRESHOLD_STEPS).2.driftEvents = _
          rw [hevents]
          simp only [true_and] }
  | false =>
      exact {
        futile := h.futile
        clear := h.clear
        low := h.low
        pending := rfl
        unarmed := rfl
        told := by
          refine ⟨_, rfl, h.flag, ?_⟩
          show (turn steps w.sketch.unit).drift.driftEvents = _
          rw [hturned, if_neg (fun hfound => Bool.noConfusion hfound.1)] }

/-- A home clears what was pending, and the flag stays. -/
theorem Resting.homed {w : Watched} (h : Resting w) (who : Seeker) (steps : Nat) (found : Bool) :
    Resting { w with
      sketch := w.sketch.seekEnds who steps found
      armed := false
      rehome := w.seen who steps found } := by
  cases found with
  | true => exact ⟨(fun hp => nomatch hp), h.low, (fun ha => nomatch ha)⟩
  | false => exact ⟨(fun hp => nomatch hp), h.low, (fun ha => nomatch ha)⟩

theorem Held.seekEnds {w w' : Watched} (h : Held w) {steps : Nat} {found : Bool}
    (hstep : step w (.seekEnds steps found) = some w') : Held w' := by
  unfold step at hstep
  dsimp only at hstep
  split at hstep
  · rename_i who hstage
    cases hstep
    refine ⟨fun ht => ?_, ?_⟩
    · exact absurd ((h.testing ht).symm.trans hstage) Stage.noConfusion
    · have hhere := h.here
      rw [hstage] at hhere
      have hto : (w.sketch.seekEnds who steps found).stage = .seekOver who found := by
        cases found <;> rfl
      show HeldAt _ (w.sketch.seekEnds who steps found).stage
      rw [hto]
      cases who with
      | drift before => exact Seeking.over hhere steps found
      | home => exact (HeldAt.resting hhere rfl).homed _ steps found
      | boot => exact (HeldAt.resting hhere rfl).homed _ steps found
      | letter toLetter => exact (HeldAt.resting hhere rfl).homed _ steps found
  · cases hstep

theorem Held.testBegins {w w' : Watched} (h : Held w) (hstep : step w .testBegins = some w') :
    Held w' := by
  unfold step at hstep
  dsimp only at hstep
  split at hstep
  · rename_i hstage
    split at hstep
    · cases hstep
      have hhere := h.here
      rw [hstage] at hhere
      refine ⟨fun _ => rfl, Resting.heldAt ?_ rfl⟩
      exact (HeldAt.resting hhere rfl).same (Same.of_eq rfl rfl rfl) id
    · cases hstep
  · cases hstep

/-- Whichever way a self-test ends, nothing is pending. -/
theorem tested_same (steps : Int) (windowSteps : Option Nat) (now : UInt32) (s : UnitState) :
    Same s (tested steps windowSteps now s) ∧
      (tested steps windowSteps now s).drift.driftPending = false := by
  cases windowSteps with
  | some n => exact ⟨⟨rfl, rfl, fun hp => nomatch hp⟩, rfl⟩
  | none => exact ⟨⟨rfl, rfl, fun hp => nomatch hp⟩, rfl⟩

theorem Held.testEnds {w w' : Watched} (h : Held w) {steps : Int} {windowSteps : Option Nat}
    (hstep : step w (.testEnds steps windowSteps) = some w') : Held w' := by
  unfold step at hstep
  dsimp only at hstep
  split at hstep
  · rename_i htesting
    cases hstep
    have hhere := h.here
    rw [h.testing htesting] at hhere
    refine ⟨(fun ht => nomatch ht), Resting.heldAt ?_ rfl⟩
    exact (HeldAt.resting hhere rfl).same (tested_same _ _ _ _).1 fun ha => nomatch ha
  · cases hstep

theorem Held.step {w w' : Watched} (h : Held w) {a : Happens}
    (hstep : StandDown.step w a = some w') : Held w' := by
  cases a with
  | tick ms =>
      cases hstep
      exact h.outside rfl rfl rfl rfl rfl (Same.refl _)
  | hear frame =>
      cases hstep
      exact h.outside rfl rfl rfl rfl (receiveLetter_heard _ _).drift (Same.hear _ _)
  | go o => exact h.go hstep
  | seekEnds steps found => exact h.seekEnds hstep
  | testBegins => exact h.testBegins hstep
  | testEnds steps windowSteps => exact h.testEnds hstep

/-! ## §7. The count. -/

theorem idleChecked_futile (currentMillis : UInt32) (hallLow : Bool) (s : UnitState) :
    (idleChecked currentMillis hallLow s).idleHall.futileRehomes = s.idleHall.futileRehomes := by
  unfold idleChecked
  split
  · rfl
  · split <;> rfl

/-- Nothing but a re-home that is judged touches the count. -/
theorem Held.futile_same {w w' : Watched} (h : Held w) {a : Happens} (hnone : judged w a = none)
    (hstep : StandDown.step w a = some w') : w'.futile = w.futile := by
  cases a with
  | tick ms =>
      cases hstep
      rfl
  | hear frame =>
      cases hstep
      exact (Same.hear _ _).futile
  | go o =>
      unfold StandDown.step at hstep
      dsimp only at hstep
      split at hstep
      · cases hstep
      rw [Option.map_eq_some_iff] at hstep
      obtain ⟨c', hgo, rfl⟩ := hstep
      cases go_goes hgo with
      | same _ hfrom hidle hto hsame => exact hsame.futile
      | samples hfrom => exact idleChecked_futile _ _ _
      | rehomes hfrom hpending => rfl
      | judges before found hfrom =>
          have hhere := h.here
          rw [hfrom] at hhere
          have hover : SeekOver before w := hhere
          obtain ⟨r, hr, -⟩ := hover.told
          unfold judged at hnone
          rw [hfrom, hr] at hnone
          cases hnone
  | seekEnds steps found =>
      unfold StandDown.step at hstep
      dsimp only at hstep
      split at hstep
      · cases hstep
        cases found <;> rfl
      · cases hstep
  | testBegins =>
      unfold StandDown.step at hstep
      dsimp only at hstep
      split at hstep
      · split at hstep
        · cases hstep
          rfl
        · cases hstep
      · cases hstep
  | testEnds steps windowSteps =>
      unfold StandDown.step at hstep
      dsimp only at hstep
      split at hstep
      · cases hstep
        exact (tested_same _ _ _ _).1.futile
      · cases hstep

/-- The state a judged re-home leaves. -/
theorem Held.judges {w : Watched} (h : Held w) {a : Happens} {before : UnitState} {r : Rehome}
    (hjudged : judged w a = some (before, r)) :
    SeekOver before w ∧ Told before w r ∧ ∃ w', StandDown.step w a = some w' ∧
      w'.futile = (rehomeJudged before w.sketch.unit).idleHall.futileRehomes := by
  unfold judged at hjudged
  split at hjudged
  · rename_i o
    split at hjudged
    · rename_i before' found hstage
      rw [Option.map_eq_some_iff] at hjudged
      obtain ⟨r', hr', heq⟩ := hjudged
      cases heq
      have hhere := h.here
      rw [hstage] at hhere
      have hover : SeekOver before w := hhere
      obtain ⟨r'', hr'', htold⟩ := hover.told
      obtain rfl : r = r'' := Option.some.inj (hr'.symm.trans hr'')
      have htesting : ¬w.testing = true := fun ht =>
        absurd (hstage.symm.trans (h.testing ht)) Stage.noConfusion
      have hgo : w.sketch.go o = some (w.sketch.on .sleep
          (awake w.sketch.now (rehomeJudged before w.sketch.unit))) := by
        unfold Sketch.go
        dsimp only
        rw [hstage]
        rfl
      have hstep : StandDown.step w (.go o) = some { w with
          sketch := w.sketch.on .sleep (awake w.sketch.now (rehomeJudged before w.sketch.unit))
          armed := w.armed || idleArms o w.sketch } := by
        unfold StandDown.step
        dsimp only
        rw [if_neg htesting, hgo]
        rfl
      exact ⟨hover, htold, _, hstep, rfl⟩
    · cases hjudged
  · cases hjudged

/-- A re-home that was not flagged leaves the count, and one that moved the events clears it. -/
inductive Counts (before : UnitState) (w w' : Watched) : Prop where
  | unflagged (hflag : before.idleHall.armedRehome = false) (h : w'.futile = w.futile)
  | caught (hflag : before.idleHall.armedRehome = true)
      (hevents : w.sketch.unit.drift.driftEvents ≠ before.drift.driftEvents) (h : w'.futile = 0)
  | futile (hflag : before.idleHall.armedRehome = true)
      (hevents : w.sketch.unit.drift.driftEvents = before.drift.driftEvents)
      (h : w.futile < w'.futile)

theorem Under.counts {before : UnitState} {w w' : Watched} (h : Under before w)
    (hnew : w'.futile = (rehomeJudged before w.sketch.unit).idleHall.futileRehomes) :
    Counts before w w' := by
  unfold rehomeJudged at hnew
  cases hflag : before.idleHall.armedRehome with
  | false =>
      rw [if_pos hflag] at hnew
      exact .unflagged hflag hnew
  | true =>
      have hlow : w.futile < 3 := h.futile ▸ h.low hflag
      rw [if_neg (by rw [hflag]; exact Bool.noConfusion)] at hnew
      by_cases hevents : w.sketch.unit.drift.driftEvents = before.drift.driftEvents
      · rw [if_pos hevents] at hnew
        refine .futile hflag hevents ?_
        have hroom : w.futile < 0xFF := UInt8.lt_trans hlow (by decide)
        have hplus : w'.futile = w.futile + 1 := hnew.trans (if_pos hroom)
        rw [hplus, UInt8.lt_iff_toNat_lt, UInt8.toNat_add]
        have hnat : w.futile.toNat < 3 := UInt8.lt_iff_toNat_lt.mp hlow
        show w.futile.toNat < (w.futile.toNat + 1) % 2 ^ 8
        omega
      · rw [if_neg hevents] at hnew
        exact .caught hflag hevents hnew

/-- **One step.** -/
theorem Held.ownFailures_iff {w : Watched} (h : Held w) (a : Happens) :
    OnItsOwnFailures w a ↔ FlagHolds w a := by
  cases hjudged : judged w a with
  | none =>
      constructor
      · intro _ before r hsome
        cases hjudged.symm.trans hsome
      · intro _ w' hstep
        have hsame := h.futile_same hjudged hstep
        refine ⟨fun hlt => ?_, fun before r hsome => nomatch hjudged.symm.trans hsome⟩
        rw [hsame] at hlt
        exact absurd hlt (UInt8.lt_irrefl _)
  | some judgment =>
      obtain ⟨before, r⟩ := judgment
      obtain ⟨hover, htold, w', hstep, hnew⟩ := h.judges hjudged
      have hevents := htold.events
      constructor
      · intro hown before' r' hsome hflag
        cases hjudged.symm.trans hsome
        obtain ⟨hgrow, hclears⟩ := hown w' hstep
        cases hover.counts hnew with
        | unflagged hnot => exact Bool.noConfusion (hnot.symm.trans hflag)
        | caught _ hmoved =>
            by_cases hcounted : r.found = true ∧ r.off = true ∧ before.drift.driftEvents < 0xFF
            · exact ⟨hcounted.1, .inl hcounted.2⟩
            · rw [if_neg hcounted] at hevents
              exact absurd hevents hmoved
        | futile _ _ hlt =>
            obtain ⟨_, _, hsome', harmed, hfound, hoff⟩ := hgrow hlt
            cases hjudged.symm.trans hsome'
            exact ⟨hfound, .inr ⟨hoff, harmed⟩⟩
      · intro hholds w'' hstep'
        cases hstep.symm.trans hstep'
        cases hover.counts hnew with
        | unflagged hnot hsame =>
            refine ⟨fun hlt => ?_, fun _ _ hsome harmed _ _ => ?_⟩
            · rw [hsame] at hlt
              exact absurd hlt (UInt8.lt_irrefl _)
            · cases hjudged.symm.trans hsome
              exact Bool.noConfusion (hnot.symm.trans (htold.flag harmed))
        | caught _ _ hzero =>
            refine ⟨fun hlt => ?_, fun _ _ _ _ _ _ => hzero⟩
            rw [hzero] at hlt
            exact absurd hlt (UInt8.not_lt.mpr (UInt8.zero_le))
        | futile hflag hkept hlt =>
            obtain ⟨hfound, hcases⟩ := hholds before r hjudged hflag
            obtain ⟨hoff, hroom⟩ | ⟨hoff, harmed⟩ := hcases
            · -- the event was counted
              rw [if_pos ⟨hfound, hoff, hroom⟩, hkept] at hevents
              have hnat := congrArg UInt8.toNat hevents
              have hlow : before.drift.driftEvents.toNat < 255 := UInt8.lt_iff_toNat_lt.mp hroom
              rw [UInt8.toNat_add] at hnat
              have hone : (1 : UInt8).toNat = 1 := rfl
              omega
            · refine ⟨fun _ => ⟨before, r, hjudged, harmed, hfound, hoff⟩, ?_⟩
              intro _ _ hsome _ _ hoff'
              cases hjudged.symm.trans hsome
              exact Bool.noConfusion (hoff.symm.trans hoff')

/-! ## §8. Every run. -/

/-- **The check stands down on its own failures**, in every run in which no re-home under the flag
misses the marker, finds it further off with the counter full, or has the flag from before the
last home. -/
theorem stands_down_on_its_own (e : Stored) (turned : Int) (labels : List Happens) :
    AllMeet OnItsOwnFailures step (start e turned) labels ↔
      AllMeet FlagHolds step (start e turned) labels := by
  apply AllMeet.iff_of
  exact AllMeet.of_invariant (P := Held) (fun _ _ _ h hstep => h.step hstep)
    (fun _ a h => h.ownFailures_iff a) (Held.start e turned) labels

/-- Parts of a pass with the pin low all the time. -/
def lowFor (n : Nat) : List Happens := List.replicate n (.go { hallLow := true })

/-- A unit parked outside the window homes itself, contradicts its pin six times and seeks; the
marker is not found. -/
def failedRehome : List Happens :=
  .tick 1000000 :: lowFor 14 ++ .seekEnds 100 true :: lowFor 6 ++
    (List.replicate 5 (.tick 250 :: lowFor 19)).flatten ++
    .tick 1000 :: lowFor 17 ++ [.seekEnds 6115 false]

/-- Its failure is counted as a re-home that found no drift. -/
theorem failed_rehome_counted :
    ¬AllMeet OnItsOwnFailures step (start { calOffset := 100, featureGates := 1 } 0)
      (failedRehome ++ [.go {}]) := by
  intro hmeet
  have hrun : ((run step (start { calOffset := 100, featureGates := 1 } 0) failedRehome).any
      fun w => (judged w (.go {})).map (·.2.found) = some false ∧
        ((step w (.go {})).any fun w' => w.futile < w'.futile)) = true := by
    decide +kernel
  rw [Option.any_eq_true] at hrun
  obtain ⟨w, hw, hthen⟩ := hrun
  rw [decide_eq_true_iff, Option.any_eq_true] at hthen
  obtain ⟨hjudged, w', hstep, hlt⟩ := hthen
  obtain ⟨_, r, hr, -, hfound, -⟩ := ((hmeet.split hw).2.1 w' hstep).1 (of_decide_eq_true hlt)
  rw [hr] at hjudged
  exact Bool.noConfusion (hfound.symm.trans (Option.some.inj hjudged))

end SplitFlap.StandDown
