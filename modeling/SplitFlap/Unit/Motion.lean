/-
  SplitFlap.Unit.Motion — every move of a unit's drum.

  The seek for the marker (`calibrate`), the step watch that carries the drum
  over so many flaps (`stepFlaps`), the letter move with its gates
  (`rotateToLetter`) and the self-test.  All of it blocks, and frames come in
  all the while: between any two looks at the outside a run is given the frames
  that were received (`window`).

  `low` is the sensor: what the hall pin reads with the drum `turned` steps on,
  and the outside having its say.
-/
import SplitFlap.Unit.Commands

namespace SplitFlap

namespace Motion

open TaskM

/-! ## §1. The outside. -/

/-- What the outside brings up to a unit's next look at it: the frames of the
bus, the hall pin, the clock, the rail, and what code that is not modelled has
come to. -/
structure Outside where
  frames : List (List UInt8) := []
  hallLow : Bool := false
  now : UInt32 := 0
  vcc : UInt16 := 0
  bootUpdateRuns : Bool := false
  silenceRestart : Bool := false

abbrev UnitTask := TaskM UnitState Outside

/-- The interrupt takes what came in. -/
def window : UnitTask Outside := do
  let o ← ask
  modify fun s => o.frames.foldl receiveLetter s
  pure o

def millis : UnitTask UInt32 := do
  let o ← window
  pure o.now

variable (low : Int → Outside → Bool)

/-- `digitalRead(HALLPIN) == 0`. -/
def hallReadsLow : UnitTask Bool := do
  let o ← window
  let s ← get
  pure (low s.turned o)

/-! ## §2. Steps. -/

abbrev ROTATIONDIRECTION : Int := 1

/-- Whole steps of a flap, and the 45ths of a step over them: 2038 / 45. -/
abbrev STEPS_PER_FLAP_WHOLE : Nat := 45
abbrev STEPS_PER_FLAP_FRAC : Nat := 13

def turn (steps : Int) (s : UnitState) : UnitState :=
  { s with
    turned := s.turned + steps * ROTATIONDIRECTION
    drift := driftAdvance s.drift (steps * ROTATIONDIRECTION) STEPS }

def stepCounted (steps : Int) : UnitTask Unit := do
  let _ ← window
  modify (turn steps)

/-- What the step watch carries from step to step. -/
structure Watch where
  inWindow : Bool
  lowStreak : Nat
  deriving DecidableEq

/-- An entering edge under the step watch: an event arms the re-home. -/
def edgeWatched (s : UnitState) : UnitState :=
  let r := driftObserveEdge s.drift STEPS DRIFT_THRESHOLD_STEPS
  { s with drift := { r.2 with driftPending := r.1 || r.2.driftPending } }

/-- One sample: the streak, and whether it is an edge. -/
def Watch.sample (w : Watch) (isLow : Bool) : Watch × Bool :=
  if isLow then
    let lowStreak := if w.lowStreak < 2 then w.lowStreak + 1 else w.lowStreak
    if lowStreak = 2 ∧ w.inWindow = false then (⟨true, lowStreak⟩, true)
    else (⟨w.inWindow, lowStreak⟩, false)
  else (⟨false, 0⟩, false)

def watchEdge (edge : Bool) : UnitTask Unit := if edge then modify edgeWatched else pure ()

def watchedStep (w : Watch) : UnitTask Watch := do
  stepCounted (ROTATIONDIRECTION * 1)
  let isLow ← hallReadsLow low
  watchEdge (w.sample isLow).2
  pure (w.sample isLow).1

/-- The steps of one flap, and what is carried over to the next. -/
def roundedStep (missedSteps : Nat) : Nat × Nat :=
  if 45 < missedSteps + STEPS_PER_FLAP_FRAC then
    (STEPS_PER_FLAP_WHOLE + 1, missedSteps + STEPS_PER_FLAP_FRAC - 45)
  else (STEPS_PER_FLAP_WHOLE, missedSteps + STEPS_PER_FLAP_FRAC)

def stepFlap (w : Watch) : UnitTask Watch := do
  let s ← get
  modify fun s => { s with missedSteps := (roundedStep s.missedSteps).2 }
  fold (watchedStep low) (roundedStep s.missedSteps).1 w

def stepFlaps (flaps : Nat) : UnitTask Unit := do
  let inWindow ← hallReadsLow low
  let _ ← fold (stepFlap low) flaps ⟨inWindow, 0⟩
  pure ()

def startMotor : UnitTask Unit := modify fun s => { s with currentlyrotating := true }

def stopMotor : UnitTask Unit := do
  modify fun s => { s with currentlyrotating := false }
  let _ ← window
  pure ()

/-! ## §3. The retries of a failed home. -/

abbrev HOME_RETRY_BASE_MS : UInt32 := 30000
abbrev HOME_RETRY_MAX_SHIFT : UInt8 := 5

def homeRetryWaitMs (consecutiveFails : UInt8) : UInt32 :=
  if consecutiveFails = 0 then 0
  else
    let shift := consecutiveFails - 1
    HOME_RETRY_BASE_MS <<< (if HOME_RETRY_MAX_SHIFT < shift then 5 else shift.toUInt32)

def homeAttemptAllowed (b : HomeBackoff) (nowMs : UInt32) : Bool :=
  b.consecutiveFails = 0 || homeRetryWaitMs b.consecutiveFails ≤ nowMs - b.lastFailEndMs

def homeRetryOwed (b : HomeBackoff) : Bool := b.consecutiveFails ≠ 0

def homeCommandAllowed (b : HomeBackoff) (nowMs : UInt32) : Bool :=
  b.consecutiveFails = 0 || HOME_RETRY_BASE_MS ≤ nowMs - b.lastFailEndMs

def homeNoteResult (b : HomeBackoff) (found : Bool) (nowMs : UInt32) : HomeBackoff :=
  if found then { b with consecutiveFails := 0 }
  else
    { consecutiveFails :=
        if b.consecutiveFails < 0xFF then b.consecutiveFails + 1 else b.consecutiveFails
      lastFailEndMs := nowMs }

def noteHome (found : Bool) : UnitTask Unit := do
  let now ← millis
  modify fun s => { s with homeBackoff := homeNoteResult s.homeBackoff found now }

/-! ## §4. The seek. -/

/-- Three revolutions, after which a seek gives up. -/
abbrev SEEK_LIMIT : Nat := 3 * 2038

/-- Out of the marker's window, a step at a time. -/
def stepOut (i : Nat) : UnitTask (Nat ⊕ Nat) := do
  let isLow ← hallReadsLow low
  if isLow = false then pure (.inr i)
  else do
    stepCounted (ROTATIONDIRECTION * 1)
    pure (if SEEK_LIMIT < i + 1 then .inr (i + 1) else .inl (i + 1))

/-- Past the edge it was released at. -/
def clearEdge (i : Nat) : UnitTask Nat :=
  if i ≤ SEEK_LIMIT then do
    stepCounted (ROTATIONDIRECTION * 50)
    pure (i + 50)
  else pure i

def markerReached (s : UnitState) : UnitState :=
  let drift := (driftObserveEdge s.drift STEPS DRIFT_THRESHOLD_STEPS).2
  { s with drift := { drift with driftPending := false } }

/-- The drum is parked at the calibrated zero. -/
def calibrated (s : UnitState) : UnitState :=
  { s with
    displayedLetter := 0, missedSteps := 0, homed := true
    homings := ⟨s.turned, s.calOffset, s.drift.drumPosition⟩ :: s.homings }

def homeFailed (s : UnitState) : UnitState :=
  { s with
    displayedLetter := 0, homed := false
    drift := { s.drift with positionKnown := false, driftPending := false } }

/-- The marker was found after `i` steps: on to the calibrated zero. -/
def park (initialCalibration : Bool) : UnitTask Unit := do
  modify markerReached
  let s ← get
  stepCounted (ROTATIONDIRECTION * s.calOffset.toInt)
  modify calibrated
  noteHome true
  if initialCalibration then stopMotor else pure ()

def giveUpOr (i : Nat) : UnitTask (Nat ⊕ Option Nat) :=
  if SEEK_LIMIT < i then do
    modify homeFailed
    stopMotor
    noteHome false
    pure (.inr none)
  else pure (.inl (i + 1))

/-- One turn of the seek. -/
def seekTurn (initialCalibration : Bool) (i : Nat) : UnitTask (Nat ⊕ Option Nat) := do
  let isLow ← hallReadsLow low
  if isLow ∧ i = 0 then do
    let i ← iter (stepOut low) 0
    let i ← clearEdge i
    giveUpOr i
  else if isLow then do
    park initialCalibration
    pure (.inr (some i))
  else if i = 0 then do
    stepCounted (ROTATIONDIRECTION * 50)
    giveUpOr 50
  else do
    stepCounted (ROTATIONDIRECTION * 1)
    giveUpOr i

/-- The steps it took, or none where the marker was not found. -/
def calibrate (initialCalibration : Bool) : UnitTask (Option Nat) := do
  modify fun s =>
    { s with currentlyrotating := true, boot := { s.boot with bootHomeAttempted := true } }
  iter (seekTurn low initialCalibration) 0

/-! ## §5. A letter move. -/

abbrev OVERHEAT_MS : UInt32 := 2000
abbrev SUPPLY_WAIT_DROP_MV : UInt32 := 300
abbrev SUPPLY_WAIT_MAX_MS : UInt32 := 2000

def supplyReadsLow (vccMv idleLevelMv : UInt16) : Bool :=
  vccMv ≠ 0 ∧ idleLevelMv ≠ 0 ∧ vccMv.toUInt32 + SUPPLY_WAIT_DROP_MV < idleLevelMv.toUInt32

def supplyWaitHold (w : SupplyWait) (vccMv idleLevelMv : UInt16) (nowMs : UInt32) :
    Bool × SupplyWait :=
  if supplyReadsLow vccMv idleLevelMv = false then (false, { w with waiting := false })
  else if w.waiting = false then (true, { waiting := true, held := true, sinceMs := nowMs })
  else if SUPPLY_WAIT_MAX_MS ≤ nowMs - w.sinceMs then (false, { w with waiting := false })
  else (true, w)

/-- The supply hold, behind its gate: whether the move waits. -/
def supplyHolds : UnitTask Bool := do
  let s ← get
  if unitGateEnabled s.featureGates UNIT_GATE_SUPPLY_WAIT then do
    let o ← window
    let now ← millis
    let s ← get
    let r := supplyWaitHold s.supplyWait o.vcc s.supplyIdleLevelMv now
    modify fun s => { s with supplyWait := r.2 }
    pure r.1
  else pure false

/-- `millis()` with 0 kept for "no rotation yet". -/
def rotationStamp (now : UInt32) : UInt32 := if now = 0 then 1 else now

/-- The letter is there: the loaded sample, and the motor off. -/
def arrive (toLetter : Nat) : UnitTask Unit := do
  modify fun s => { s with displayedLetter := toLetter }
  let _ ← window
  stopMotor

/-- A higher letter, or the same: straight on. -/
def moveOn (toLetter : Nat) : UnitTask Unit := do
  startMotor
  let s ← get
  stepFlaps low (toLetter - s.displayedLetter)
  arrive toLetter

/-- A full rotation, with a calibration on the way. -/
def moveRound (toLetter : Nat) : UnitTask Unit := do
  let homingSteps ← calibrate low false
  if homingSteps.isNone then pure ()
  else do
    stepFlaps low toLetter
    arrive toLetter

def move (toLetter : Nat) : UnitTask Unit := do
  let now ← millis
  modify fun s =>
    { s with lastRotation := rotationStamp now, supplyWait := { s.supplyWait with held := false } }
  let s ← get
  if s.homed ∧ s.displayedLetter ≤ toLetter then moveOn low toLetter else moveRound low toLetter

/-- Behind the overheat gate and the supply hold, which answer busy. -/
def moveGated (toLetter : Nat) : UnitTask Unit := do
  let now ← millis
  let s ← get
  if s.lastRotation = 0 ∨ OVERHEAT_MS < now - s.lastRotation then do
    let holds ← supplyHolds
    if holds then startMotor else move low toLetter
  else startMotor

/-- The letters are never negative here: `receivedNumber` is a byte. -/
def rotateToLetter (toLetter : Nat) : UnitTask Unit :=
  if AMOUNTFLAPS.toNat ≤ toLetter then pure ()
  else do
    let now ← millis
    let s ← get
    if s.homed = false ∧ homeAttemptAllowed s.homeBackoff now = false then pure ()
    else moveGated low toLetter

/-! ## §6. The self-test. -/

/-- Phase 1, inside the window: out of it, or the guard. -/
def testStepOut (guard : Nat) : UnitTask (Nat ⊕ Option Nat) := do
  let isLow ← hallReadsLow low
  if isLow = false then pure (.inr (some guard))
  else do
    stepCounted (ROTATIONDIRECTION * 1)
    pure (if SEEK_LIMIT < guard + 1 then .inr none else .inl (guard + 1))

/-- Phase 1, outside the window: to the entering edge, or the guard. -/
def testSeekEdge (guard : Nat) : UnitTask (Nat ⊕ Bool) := do
  let isLow ← hallReadsLow low
  if isLow then pure (.inr true)
  else do
    stepCounted (ROTATIONDIRECTION * 1)
    pure (if SEEK_LIMIT < guard + 1 then .inr false else .inl (guard + 1))

/-- Phase 1: the entering edge, approached from outside the window. -/
def testApproach : UnitTask Bool := do
  let isLow ← hallReadsLow low
  if isLow then do
    let out ← iter (testStepOut low) 0
    match out with
    | none => pure false
    | some guard => do
        stepCounted (ROTATIONDIRECTION * 50)
        iter (testSeekEdge low) (guard + 50)
  else iter (testSeekEdge low) 0

/-- Phase 2's counters. -/
structure Revolution where
  measuredSteps : Nat := 0
  windowSteps : Nat := 1
  leftWindow : Bool := false
  streak : Nat := 0

/-- One sample of the measured revolution; none once the window came back. -/
def Revolution.sample (r : Revolution) (isLow : Bool) : Option Revolution :=
  if r.leftWindow = false then
    if isLow then some { r with windowSteps := r.windowSteps + 1, streak := 0 }
    else if 2 ≤ r.streak + 1 then some { r with leftWindow := true, streak := 0 }
    else some { r with streak := r.streak + 1 }
  else if isLow then
    if 2 ≤ r.streak + 1 then none else some { r with streak := r.streak + 1 }
  else some { r with streak := 0 }

/-- One step of phase 2: the width of the window when the revolution is round. -/
def testRevolutionStep (r : Revolution) : UnitTask (Revolution ⊕ Option Nat) := do
  stepCounted (ROTATIONDIRECTION * 1)
  let r := { r with measuredSteps := r.measuredSteps + 1 }
  if 2 * 2038 < r.measuredSteps then pure (.inr none)
  else do
    let isLow ← hallReadsLow low
    pure (match r.sample isLow with
      | some r' => .inl r'
      | none => .inr (some r.windowSteps))

def markSynced (s : UnitState) : UnitState := { s with drift := driftMarkSynced s.drift }

/-- Both phases: the window's width, or none for a failed test. -/
def testMeasure : UnitTask (Option Nat) := do
  let atEdge ← testApproach low
  if atEdge then do
    modify markSynced
    iter (testRevolutionStep low) {}
  else pure none

def testPassed (s : UnitState) : UnitState :=
  { s with
    displayedLetter := 0, missedSteps := 0, homed := true
    drift := { s.drift with driftPending := false } }

/-- Re-parked at the calibrated zero: counts as a home, and is recorded. -/
def testPass (windowSteps : Nat) : UnitTask Unit := do
  modify markSynced
  let s ← get
  stepCounted (ROTATIONDIRECTION * s.calOffset.toInt)
  modify testPassed
  noteHome true
  modify fun s =>
    { s with
      idleHall := { s.idleHall with
        selfTestLastHallWindow :=
          if windowSteps = 0 then s.idleHall.selfTestLastHallWindow
          else UInt16.ofNat windowSteps } }

/-- `receivedNumber = 0`. -/
def blank (s : UnitState) : UnitState :=
  { s with receivedNumber := 0, history := .blanked :: s.history }

/-- The drum's position is unknowable: parked, and the letter given up. -/
def testFail : UnitTask Unit := do
  modify fun s => { s with displayedLetter := 0, history := .testFailed :: s.history }
  let _ ← window
  modify blank
  modify fun s =>
    { s with
      homed := false
      drift := { s.drift with positionKnown := false, driftPending := false } }
  noteHome false

def testResult : Option Nat → UnitTask Unit
  | some windowSteps => testPass windowSteps
  | none => testFail

def runSelfTest : UnitTask Unit := do
  modify fun s =>
    { s with
      boot := { s.boot with bootHomeAttempted := true }
      history := .testBegun :: s.history }
  startMotor
  let measured ← testMeasure low
  testResult measured
  let now ← millis
  modify fun s => { s with lastRotation := rotationStamp now }
  stopMotor

/-! ## §7. What every move leaves alone. -/

/-- What frames do not reach is there after a window as before it. -/
theorem window_heard {P : UnitState → Prop} (hP : ∀ s s', Heard s s' → P s → P s') :
    Keeps P window := by
  unfold window
  refine Keeps.bind Keeps.ask fun o => Keeps.bind (Keeps.modify fun s hs => ?_) fun _ => Keeps.pure o
  exact hP s _ (frames_heard s o.frames) hs

/-- The commanded letter and what was heard are as they were; the seeks that
were noted are still noted. -/
structure Silent (s s' : UnitState) : Prop where
  receivedNumber : s'.receivedNumber = s.receivedNumber
  history : s'.history = s.history
  unread : s'.unread = s.unread
  homings : s.homings <:+ s'.homings

/-- A property that only frames and the blanking of the letter could end. -/
structure Stable (J : UnitState → Prop) : Prop where
  frame : ∀ s frame, J s → J (receiveLetter s frame)
  silent : ∀ s s', Silent s s' → J s → J s'

section Moves

variable {low} {J : UnitState → Prop} (hJ : Stable J)

include hJ

theorem Stable.frames (frames : List (List UInt8)) :
    ∀ s, J s → J (frames.foldl receiveLetter s) := by
  induction frames with
  | nil => exact fun _ hs => hs
  | cons frame rest ih => exact fun s hs => ih _ (hJ.frame s frame hs)

theorem Stable.modify {f : UnitState → UnitState} (hf : ∀ s, Silent s (f s)) :
    Keeps J (TaskM.modify f : UnitTask Unit) := Keeps.modify fun s hs => hJ.silent s _ (hf s) hs

/-- A change of fields that the letter and its history are not among. -/
theorem Stable.modify_same {f : UnitState → UnitState}
    (hr : ∀ s, (f s).receivedNumber = s.receivedNumber) (hh : ∀ s, (f s).history = s.history) (hu : ∀ s, (f s).unread = s.unread)
    (hm : ∀ s, (f s).homings = s.homings) : Keeps J (TaskM.modify f : UnitTask Unit) :=
  hJ.modify fun s => ⟨hr s, hh s, hu s, (hm s).symm ▸ List.suffix_refl _⟩

theorem Stable.window : Keeps J window := by
  unfold Motion.window
  refine Keeps.bind Keeps.ask fun o => Keeps.bind (Keeps.modify ?_) fun _ => Keeps.pure o
  exact hJ.frames o.frames

theorem Stable.millis : Keeps J millis := Keeps.bind hJ.window fun _ => Keeps.pure _

theorem Stable.hallReadsLow : Keeps J (hallReadsLow low) :=
  Keeps.bind hJ.window fun _ => Keeps.bind Keeps.get fun _ => Keeps.pure _

theorem Stable.stepCounted (steps : Int) : Keeps J (stepCounted steps) :=
  Keeps.bind hJ.window fun _ =>
    hJ.modify_same (fun _ => rfl) (fun _ => rfl) (fun _ => rfl) fun _ => rfl

theorem Stable.watchedStep (w : Watch) : Keeps J (watchedStep low w) := by
  unfold Motion.watchedStep
  refine Keeps.bind (hJ.stepCounted _) fun _ => Keeps.bind hJ.hallReadsLow fun isLow => ?_
  refine Keeps.bind (Keeps.ite (fun _ => ?_) fun _ => Keeps.pure ()) fun _ => Keeps.pure _
  exact hJ.modify_same (fun _ => rfl) (fun _ => rfl) (fun _ => rfl) fun _ => rfl

theorem Stable.stepFlaps (flaps : Nat) : Keeps J (stepFlaps low flaps) := by
  unfold Motion.stepFlaps
  refine Keeps.bind hJ.hallReadsLow fun _ => Keeps.bind ?_ fun _ => Keeps.pure ()
  refine Keeps.fold (fun w => ?_) flaps _
  unfold Motion.stepFlap
  refine Keeps.bind Keeps.get fun s => Keeps.bind ?_ fun _ => ?_
  · exact hJ.modify_same (fun _ => rfl) (fun _ => rfl) (fun _ => rfl) fun _ => rfl
  · exact Keeps.fold (fun w => hJ.watchedStep w) _ w

theorem Stable.startMotor : Keeps J startMotor :=
  hJ.modify_same (fun _ => rfl) (fun _ => rfl) (fun _ => rfl) fun _ => rfl

theorem Stable.stopMotor : Keeps J stopMotor := by
  unfold Motion.stopMotor
  refine Keeps.bind ?_ fun _ => Keeps.bind hJ.window fun _ => Keeps.pure ()
  exact hJ.modify_same (fun _ => rfl) (fun _ => rfl) (fun _ => rfl) fun _ => rfl

theorem Stable.noteHome (found : Bool) : Keeps J (noteHome found) :=
  Keeps.bind hJ.millis fun _ =>
    hJ.modify_same (fun _ => rfl) (fun _ => rfl) (fun _ => rfl) fun _ => rfl

theorem Stable.park (initialCalibration : Bool) : Keeps J (park initialCalibration) := by
  unfold Motion.park
  refine Keeps.bind ?_ fun _ => Keeps.bind Keeps.get fun s => ?_
  · exact hJ.modify_same (fun _ => rfl) (fun _ => rfl) (fun _ => rfl) fun _ => rfl
  refine Keeps.bind (hJ.stepCounted _) fun _ => Keeps.bind ?_ fun _ => ?_
  · exact hJ.modify fun s => ⟨rfl, rfl, rfl, List.suffix_cons _ _⟩
  refine Keeps.bind (hJ.noteHome true) fun _ => ?_
  exact Keeps.ite (fun _ => hJ.stopMotor) fun _ => Keeps.pure ()

theorem Stable.giveUpOr (i : Nat) : Keeps J (giveUpOr i) := by
  refine Keeps.ite (fun _ => ?_) fun _ => Keeps.pure _
  refine Keeps.bind ?_ fun _ => Keeps.bind hJ.stopMotor fun _ => ?_
  · exact hJ.modify_same (fun _ => rfl) (fun _ => rfl) (fun _ => rfl) fun _ => rfl
  · exact Keeps.bind (hJ.noteHome false) fun _ => Keeps.pure _

theorem Stable.stepOut (i : Nat) : Keeps J (stepOut low i) :=
  Keeps.bind hJ.hallReadsLow fun _ =>
    Keeps.ite (fun _ => Keeps.pure _) fun _ =>
      Keeps.bind (hJ.stepCounted _) fun _ => Keeps.pure _

theorem Stable.seekTurn (initialCalibration : Bool) (i : Nat) :
    Keeps J (seekTurn low initialCalibration i) := by
  unfold Motion.seekTurn
  refine Keeps.bind hJ.hallReadsLow fun isLow => ?_
  refine Keeps.ite (fun _ => ?_) fun _ => Keeps.ite (fun _ => ?_) fun _ => Keeps.ite (fun _ => ?_)
    fun _ => ?_
  · refine Keeps.bind (Keeps.iter (fun i => hJ.stepOut i) 0) fun i => ?_
    refine Keeps.bind (Keeps.ite (fun _ => ?_) fun _ => Keeps.pure i) fun i => hJ.giveUpOr i
    exact Keeps.bind (hJ.stepCounted _) fun _ => Keeps.pure _
  · exact Keeps.bind (hJ.park initialCalibration) fun _ => Keeps.pure _
  · exact Keeps.bind (hJ.stepCounted _) fun _ => hJ.giveUpOr 50
  · exact Keeps.bind (hJ.stepCounted _) fun _ => hJ.giveUpOr i

theorem Stable.calibrate (initialCalibration : Bool) :
    Keeps J (calibrate low initialCalibration) := by
  unfold Motion.calibrate
  refine Keeps.bind ?_ fun _ => Keeps.iter (fun i => hJ.seekTurn initialCalibration i) 0
  exact hJ.modify_same (fun _ => rfl) (fun _ => rfl) (fun _ => rfl) fun _ => rfl

theorem Stable.arrive (toLetter : Nat) : Keeps J (arrive toLetter) := by
  unfold Motion.arrive
  refine Keeps.bind ?_ fun _ => Keeps.bind hJ.window fun _ => hJ.stopMotor
  exact hJ.modify_same (fun _ => rfl) (fun _ => rfl) (fun _ => rfl) fun _ => rfl

theorem Stable.moveOn (toLetter : Nat) : Keeps J (moveOn low toLetter) :=
  Keeps.bind hJ.startMotor fun _ => Keeps.bind Keeps.get fun _ =>
    Keeps.bind (hJ.stepFlaps _) fun _ => hJ.arrive toLetter

theorem Stable.moveRound (toLetter : Nat) : Keeps J (moveRound low toLetter) := by
  unfold Motion.moveRound
  refine Keeps.bind (hJ.calibrate false) fun _ => Keeps.ite (fun _ => Keeps.pure ()) fun _ => ?_
  exact Keeps.bind (hJ.stepFlaps _) fun _ => hJ.arrive toLetter

theorem Stable.move (toLetter : Nat) : Keeps J (move low toLetter) := by
  unfold Motion.move
  refine Keeps.bind hJ.millis fun now => Keeps.bind ?_ fun _ => Keeps.bind Keeps.get fun s => ?_
  · exact hJ.modify_same (fun _ => rfl) (fun _ => rfl) (fun _ => rfl) fun _ => rfl
  · exact Keeps.ite (fun _ => hJ.moveOn toLetter) fun _ => hJ.moveRound toLetter

theorem Stable.supplyHolds : Keeps J supplyHolds := by
  unfold Motion.supplyHolds
  refine Keeps.bind Keeps.get fun s => Keeps.ite (fun _ => ?_) fun _ => Keeps.pure false
  refine Keeps.bind hJ.window fun o => Keeps.bind hJ.millis fun now => Keeps.bind Keeps.get fun s => ?_
  refine Keeps.bind ?_ fun _ => Keeps.pure _
  exact hJ.modify_same (fun _ => rfl) (fun _ => rfl) (fun _ => rfl) fun _ => rfl

/-- Whatever a letter move does, what is commanded is left to the frames. -/
theorem Stable.rotateToLetter (toLetter : Nat) : Keeps J (rotateToLetter low toLetter) := by
  refine Keeps.ite (fun _ => Keeps.pure ()) fun _ => ?_
  refine Keeps.bind hJ.millis fun now => Keeps.bind Keeps.get fun s => ?_
  refine Keeps.ite (fun _ => Keeps.pure ()) fun _ => ?_
  refine Keeps.bind hJ.millis fun now => Keeps.bind Keeps.get fun s => ?_
  refine Keeps.ite (fun _ => ?_) fun _ => hJ.startMotor
  refine Keeps.bind hJ.supplyHolds fun holds => ?_
  exact Keeps.ite (fun _ => hJ.startMotor) fun _ => hJ.move toLetter

end Moves

end Motion

end SplitFlap
