/-
  SplitFlap.Unit.UnitLoop — one pass of a unit's `loop()`.

  The commands that frames have left are drained one by one, each with the bus
  interrupt shut for the moment its flag is taken; then come the self-homes,
  and last the letter check, which moves the drum when the letter shown is not
  the one commanded.
-/
import SplitFlap.Unit.Motion

namespace SplitFlap

namespace Motion

open TaskM

variable (low : Int → Outside → Bool)

/-! ## §1. The drains. -/

/-- `previousMillis = millis()`. -/
def keepAwake : UnitTask Unit := do
  let now ← millis
  modify fun s => { s with clocks := { s.clocks with previousMillis := now } }

/-- A command's flag, taken with interrupts shut, and its work. -/
def drain (asked : Pending → Bool) (take : UnitState → UnitState)
    (work : UnitState → UnitTask Unit) : UnitTask Unit := do
  let _ ← window
  let s ← get
  if asked s.pending then do
    let _ ← window
    let s ← get
    modify take
    work s
  else pure ()

/-- The reset that a watchdog makes of a loop without end. -/
def reboot : UnitTask Unit := whileTrue do
  let _ ← window
  pure true

def drainBootloader : UnitTask Unit :=
  drain (·.bootloader) id fun _ => reboot

def drainOffsetWrite : UnitTask Unit :=
  drain (·.offsetWrite)
    (fun s =>
      { s with calOffset := s.pending.offsetValue, pending := { s.pending with offsetWrite := false } })
    fun _ => keepAwake

def drainGatesWrite : UnitTask Unit :=
  drain (·.gatesWrite) (fun s => { s with pending := { s.pending with gatesWrite := false } })
    fun asked => do
      modify fun s =>
        { s with
          featureGates := asked.pending.gatesValue
          idleHall := { s.idleHall with check := {} } }
      keepAwake

/-- The boot section's update takes its time and no letter. -/
def runBootUpdate : UnitTask Unit := whileTrue do
  let o ← window
  pure o.bootUpdateRuns

def drainBootUpdate : UnitTask Unit :=
  drain (·.bootUpdate) (fun s => { s with pending := { s.pending with bootUpdate := false } })
    fun _ => do
      runBootUpdate
      keepAwake

/-- The home itself, and the letter left at blank. -/
def homeAndBlank : UnitTask Unit := do
  let _ ← calibrate low true
  let _ ← window
  modify blank
  modify fun s => { s with displayedLetter := 0 }

def refuseHome : UnitTask Unit := modify fun s => { s with history := .homeRefused :: s.history }

def homeRequested : UnitTask Unit := do
  let now ← millis
  let s ← get
  if homeCommandAllowed s.homeBackoff now then homeAndBlank low else refuseHome

def drainHome : UnitTask Unit :=
  drain (·.home)
    (fun s =>
      { s with pending := { s.pending with home := false }, history := .homeTaken :: s.history })
    fun _ => do
      homeRequested low
      keepAwake

def drainJog : UnitTask Unit :=
  drain (·.jogSteps ≠ 0) (fun s => { s with pending := { s.pending with jogSteps := 0 } })
    fun asked => do
      startMotor
      stepCounted (ROTATIONDIRECTION * asked.pending.jogSteps.toInt)
      stopMotor
      let now ← millis
      modify fun s => { s with lastRotation := rotationStamp now }
      keepAwake

/-- An address that may be burned ends in a reboot. -/
def addressTaken (v : UInt8) (s : UnitState) : UnitState :=
  if 1 ≤ v ∧ v ≤ 126 then { s with pending := { s.pending with bootloader := true } } else s

def drainSetAddress : UnitTask Unit :=
  drain (·.setAddress) (fun s => { s with pending := { s.pending with setAddress := false } })
    fun asked => modify (addressTaken asked.pending.addressValue)

def drainClearAddress : UnitTask Unit :=
  drain (·.clearAddress) (fun s => { s with pending := { s.pending with clearAddress := false } })
    fun _ => modify fun s => { s with pending := { s.pending with bootloader := true } }

def drainOdometerReset : UnitTask Unit :=
  drain (·.odometerReset) (fun s => { s with pending := { s.pending with odometerReset := false } })
    fun _ => keepAwake

def drainSelfTest : UnitTask Unit :=
  drain (·.selfTest) (fun s => { s with pending := { s.pending with selfTest := false } })
    fun _ => do
      runSelfTest low
      keepAwake

def drainIdentify : UnitTask Unit :=
  drain (·.identify) (fun s => { s with pending := { s.pending with identify := false } })
    fun _ => do
      let now ← millis
      modify fun s => { s with clocks := { s.clocks with identifyStartMs := rotationStamp now } }

/-! ## §2. What a pass does of its own. -/

def identifyBlink (currentMillis : UInt32) (s : UnitState) : UnitState :=
  if s.clocks.identifyStartMs = 0 then s
  else
    let elapsed := currentMillis - s.clocks.identifyStartMs
    { s with
      clocks := { s.clocks with
        previousMillis := currentMillis
        identifyStartMs := if 3000 ≤ elapsed then 0 else s.clocks.identifyStartMs } }

abbrev BOOT_HOME_SELF_TIMEOUT_MS : UInt32 := 30000
abbrev BOOT_HOME_STAGGER_MS : UInt32 := 600
abbrev BOOT_HOME_HARD_CAP_MS : UInt32 := 120000

def bootHomeSelfHomeDeadline (dipIndex : UInt8) (jitterMs : UInt16) : UInt32 :=
  BOOT_HOME_SELF_TIMEOUT_MS + dipIndex.toUInt32 * BOOT_HOME_STAGGER_MS + jitterMs.toUInt32

def bootHomeShouldSelfHome (homed : Bool) (b : BootHome) (elapsedMs : UInt32) : Bool :=
  if homed then false
  else if b.masterEverContacted then BOOT_HOME_HARD_CAP_MS ≤ elapsedMs
  else bootHomeSelfHomeDeadline b.dipIndex b.bootHomeJitterMs ≤ elapsedMs

def bootSelfHome (currentMillis : UInt32) : UnitTask Unit := do
  let _ ← window
  let s ← get
  if s.homed = false ∧ s.boot.bootHomeAttempted = false ∧
      bootHomeShouldSelfHome s.homed s.boot currentMillis = true then do
    homeAndBlank low
    keepAwake
  else pure ()

def supplyIdleLevelFold (levelMv idleMv : UInt16) : UInt16 :=
  if idleMv = 0 then levelMv
  else if levelMv = 0 ∨ levelMv ≤ idleMv then idleMv
  else
    let step := (levelMv - idleMv) / 256
    levelMv - (if step = 0 then 1 else step)

def idleSample (currentMillis : UInt32) : UnitTask Unit := do
  let o ← window
  modify fun s =>
    if 1000 ≤ currentMillis - s.clocks.vitalsLastSampleMs then
      { s with
        clocks := { s.clocks with vitalsLastSampleMs := currentMillis }
        supplyIdleLevelMv := supplyIdleLevelFold s.supplyIdleLevelMv o.vcc }
    else s

/-- Width and margin: the measured window inside the trusted band, else the
assumed one. -/
def idleHallResolveWindow (measuredSteps : UInt16) : UInt16 × UInt16 :=
  if measuredSteps < 23 ∨ 127 < measuredSteps then (46, 24) else (measuredSteps, 12)

def idleHallExpectation (position : UInt16) (w : UInt16 × UInt16) (stepsPerRev : UInt16) :
    HallExpectation :=
  if stepsPerRev ≤ position then .unknown
  else if w.2 < w.1 ∧ w.2 ≤ position ∧ position + w.2 < w.1 then .low
  else if w.1 + w.2 ≤ position ∧ position + w.2 < stepsPerRev then .high
  else .unknown

def idleHallObserve (c : IdleHallCheck) (expectation : HallExpectation) (hallLow : Bool) :
    Bool × IdleHallCheck :=
  let contradicted :=
    (expectation = .low ∧ hallLow = false) ∨ (expectation = .high ∧ hallLow = true)
  if ¬contradicted then (false, {})
  else
    let c := if c.expectation = expectation then c else { streak := 0, expectation }
    let streak := c.streak + 1
    if streak < 6 then (false, { c with streak }) else (true, {})

def idleHallEligible (s : UnitState) : Bool :=
  unitGateEnabled s.featureGates UNIT_GATE_IDLE_HALL_CHECK && !(3 ≤ s.idleHall.futileRehomes) &&
    s.homed && s.drift.positionKnown && !s.drift.driftPending && !s.currentlyrotating &&
    s.displayedLetter = s.receivedNumber && s.clocks.identifyStartMs = 0 &&
    !s.pending.selfTest && !s.pending.home && !s.pending.bootloader && s.pending.jogSteps = 0

def idleHallSampled (currentMillis : UInt32) (hallLow : Bool) (s : UnitState) : UnitState :=
  let r := idleHallObserve s.idleHall.check
    (idleHallExpectation s.drift.drumPosition
      (idleHallResolveWindow s.idleHall.selfTestLastHallWindow) STEPS) hallLow
  { s with
    clocks := { s.clocks with idleHallLastSampleMs := currentMillis }
    drift := { s.drift with driftPending := r.1 || s.drift.driftPending }
    idleHall := { s.idleHall with check := r.2, armedRehome := r.1 || s.idleHall.armedRehome } }

def idleHallCheck (currentMillis : UInt32) : UnitTask Unit := do
  let _ ← window
  let s ← get
  if idleHallEligible s = false then
    modify fun s => { s with idleHall := { s.idleHall with check := {} } }
  else if 250 ≤ currentMillis - s.clocks.idleHallLastSampleMs then do
    let isLow ← hallReadsLow low
    modify (idleHallSampled currentMillis isLow)
  else pure ()

abbrev WAIT_TIME : UInt32 := 2000
abbrev DRIFT_REHOME_COOLDOWN_MS : UInt32 := 60000

def driftRehomeDue (currentMillis : UInt32) (s : UnitState) : Bool :=
  s.drift.driftPending && s.displayedLetter = s.receivedNumber &&
    WAIT_TIME ≤ currentMillis - s.clocks.previousMillis &&
    (s.clocks.lastAutoRehomeMs = 0 ||
      DRIFT_REHOME_COOLDOWN_MS ≤ currentMillis - s.clocks.lastAutoRehomeMs)

/-- A re-home the idle check armed: futile when no drift was measured. -/
def rehomeJudged (before : UnitState) (s : UnitState) : UnitState :=
  if before.idleHall.armedRehome = false then s
  else if s.drift.driftEvents = before.drift.driftEvents then
    let futile := s.idleHall.futileRehomes
    { s with
      idleHall := { s.idleHall with
        futileRehomes := if futile < 0xFF then futile + 1 else futile } }
  else { s with idleHall := { s.idleHall with futileRehomes := 0 } }

/-- The letter is not given up: the letter check turns the drum back to it. -/
def driftRehome (currentMillis : UInt32) : UnitTask Unit := do
  let _ ← window
  let s ← get
  if driftRehomeDue currentMillis s then do
    modify fun s =>
      { s with
        clocks := { s.clocks with lastAutoRehomeMs := rotationStamp currentMillis }
        idleHall := { s.idleHall with armedRehome := false } }
    let _ ← calibrate low true
    modify (rehomeJudged s)
    keepAwake
  else pure ()

def sleepGate (currentMillis : UInt32) : UnitTask Unit := do
  let _ ← window
  modify fun s =>
    if WAIT_TIME ≤ currentMillis - s.clocks.previousMillis then
      { s with clocks := { s.clocks with previousMillis := currentMillis } }
    else s

/-- `loop()` has read `receivedNumber`. -/
def look : UnitTask UnitState := do
  let _ ← window
  modify fun s => { s with unread := false }
  get

def letterWithdrawn (s : UnitState) : UnitState :=
  if s.currentlyrotating then
    { s with
      currentlyrotating := false
      supplyWait := { s.supplyWait with waiting := false, held := false } }
  else s

def letterCheck : UnitTask Unit := do
  let s ← look
  if s.displayedLetter ≠ s.receivedNumber ∨ homeRetryOwed s.homeBackoff then do
    let s ← look
    rotateToLetter low s.receivedNumber
  else modify letterWithdrawn

/-! ## §3. A pass, and a run. -/

/-- `busSilenceLoop`: a unit that nobody addresses may restart itself. -/
def silenceCheck : UnitTask Unit := do
  let o ← window
  modify fun s =>
    { s with pending := { s.pending with bootloader := o.silenceRestart || s.pending.bootloader } }

def loop : UnitTask Unit := do
  silenceCheck
  drainBootloader
  drainOffsetWrite
  drainGatesWrite
  drainBootUpdate
  drainHome low
  drainJog
  drainSetAddress
  drainClearAddress
  drainOdometerReset
  drainSelfTest low
  drainIdentify
  let currentMillis ← millis
  modify (identifyBlink currentMillis)
  bootSelfHome low currentMillis
  idleSample currentMillis
  idleHallCheck low currentMillis
  driftRehome low currentMillis
  sleepGate currentMillis
  letterCheck low

def passes : Nat → UnitTask Unit
  | 0 => pure ()
  | n + 1 => do
      loop low
      passes n

/-- What `setup()` finds in the EEPROM, on its switches and in its noise. -/
structure Stored where
  calOffset : Int16 := 0
  featureGates : UInt8 := 0
  selfTestLastHallWindow : UInt16 := 0
  dipIndex : UInt8 := 0
  bootHomeJitterMs : UInt16 := 0

/-- A unit that has just booted: blank, unhomed, and its drum anywhere. -/
def setup (e : Stored) (turned : Int) : UnitState where
  calOffset := e.calOffset
  featureGates := e.featureGates
  boot := { dipIndex := e.dipIndex, bootHomeJitterMs := e.bootHomeJitterMs }
  idleHall := { selfTestLastHallWindow := e.selfTestLastHallWindow }
  turned := turned

end Motion

end SplitFlap
