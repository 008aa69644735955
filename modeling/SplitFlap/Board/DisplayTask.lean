/-
  SplitFlap.Board.DisplayTask — the master's display domain.

  `displayTaskMain` owns the bus: it takes one command after the other from its
  queue, and an idle wait becomes one heartbeat read.  One `exec` function for
  each opcode, as in the source.  The reflash job, the boot update and the
  exchanges of a boot-section dump are not followed here: they talk to their
  unit, arm the window and leave what they learnt (`ownExchanges`).
-/
import SplitFlap.Board.UnitBus

namespace SplitFlap.Bus

open TaskM

abbrev HOME_WAIT_TIMEOUT_MS : UInt32 := 45000
abbrev HOME_WAIT_POLL_MS : Nat := 250
abbrev HOME_WAIT_IDLE_MS : UInt32 := 500
abbrev SELF_TEST_POLL_MS : Nat := 500
abbrev UNIT_RESCUE_RETRY_MS : UInt32 := 60000
abbrev UNIT_FLAG_MOVING : UInt8 := 0x01

/-! ## §1. What this board keeps. -/

structure UnitRescueState where
  attempted : Bool := false
  lastAttemptMs : UInt32 := 0
  restorePending : Bool := false

abbrev Letters := Fin UNITS_AMOUNT → UInt8

/-- displayTask's own: a scan owed after the window, the heartbeat's cursor, the
rescue states and the last frame. -/
structure Display where
  probeOwedAfterRiskWindow : Bool := false
  slot : Fin UNITS_AMOUNT := 0
  rescueStates : Vector UnitRescueState UNITS_AMOUNT := Vector.replicate UNITS_AMOUNT {}
  lastFrameLetters : Letters := fun _ => 0
  lastFrameUnitSpeed : UInt8 := 0

/-- A command of the display queue; the letters of a text are built from it. -/
inductive DisplayCommand
  | showText (letters : Letters) (unitSpeed : UInt8)
  | probe
  | writeOffset (unitAddress : Nat)
  | jog (unitAddress : Nat)
  | home (unitAddress : Nat)
  | identify (unitAddress : Nat)
  | selfTest (unitAddress : Nat)
  | bootDump (unitAddress : Nat)
  | bootUpdate
  | bootInfo (unitAddress : Nat)
  | setGates (unitAddress : Nat)
  | resetOdometer (unitAddress : Nat)
  | rebootToBootloader (unitAddress : Nat)
  | setAddress (unitAddress target : Nat)
  | clearAddress (unitAddress : Nat)
  | resetUnits (dashes dots letters : Letters) (unitSpeed : UInt8)
  | stop
  | reflashUnits (letters : Letters) (unitSpeed : UInt8)

/-- The unit a command goes to without a look at the window. -/
def DisplayCommand.goesTo : DisplayCommand → List Nat
  | .writeOffset addr => [addr]
  | .jog addr => [addr]
  | .home addr => [addr]
  | .identify addr => [addr]
  | .selfTest addr => [addr]
  | .bootInfo addr => [addr]
  | .setGates addr => [addr]
  | .resetOdometer addr => [addr]
  | .rebootToBootloader addr => [addr]
  | .setAddress addr _ => [addr]
  | .clearAddress addr => [addr]
  | _ => []

abbrev DTask (β : Type) := BoardTask Display DisplayCommand β

def setOwn (f : Display → Display) : DTask Unit := modify fun b => { b with own := f b.own }

def unitBusAbortRequested : DTask Bool := do
  let a ← outside
  pure a.stop

/-! ## §2. The bus as displayTask uses it. -/

def unitBusShowFrame (letters : Letters) (unitSpeed : UInt8) : DTask Unit := do
  let b ← get
  writeFrame unitBusAbortRequested (unitsUpTo b.displayWidth) (unitsUpTo b.displayWidth) letters
    unitSpeed

/-- No unit can exist at these two addresses: both acknowledge on a floating
bus only. -/
def busReadsAsFloating : DTask Bool := do
  let a ← transact .empty 0x3B
  let b ← transact .empty 0x7B
  pure (a.ok && b.ok)

/-- A probe's acknowledgement alone is no proof of life: the rotation status
has to be answered too. -/
def unitBusProbeOne (i : Fin UNITS_AMOUNT) : DTask Unit := do
  setUnit i fun _ => {}
  let ping ← transact .empty (toI2cAddress i)
  if ping.ok then
    if ← twibootIsBootloader (toI2cAddress i) then
      setUnit i fun u => { u with state := 2 }
      let id ← twibootReadIdentity (toI2cAddress i)
      setUnit i fun u => { u with bootloader := id.2 }
    else
      match ← unitMovingStatus (toI2cAddress i) with
      | none => pure ()
      | some _ =>
          setUnit i fun u => { u with state := 1 }
          unitProbeSketchUnit i
  else pure ()

def unitBusProbe : DTask Unit := do
  if ← busReadsAsFloating then
    each (fun i => setUnit i fun _ => {}) (List.finRange UNITS_AMOUNT)
  else
    each unitBusProbeOne (List.finRange UNITS_AMOUNT)

def unitBusPollHealthOne (i : Fin UNITS_AMOUNT) : DTask Bool := do
  setUnit i fun u => { u with statusValid := false, bootVerdict := 0 }
  let b ← get
  if unitDrivable (b.units.get i) then unitPollHealth i else pure false

def pollHealthWithFreshness : DTask Unit := do
  each (fun i => do
      let _ ← unitBusPollHealthOne i)
    (List.finRange UNITS_AMOUNT)
  let now ← millis
  each (fun i => setUnit i fun u => heartbeatApply u u.statusValid now HEARTBEAT_MISS_THRESHOLD)
    (List.finRange UNITS_AMOUNT)

/-- The width follows the probe unless the operator pinned it. -/
def displayApplyUnitFacts : DTask Unit := do
  let override ← outside
  modify fun b => { b with
    displayWidth := if override.value = 0 then computeDisplayWidth b.units else override.value }

/-- Scan, health and width, as every job ends that moved a unit. -/
def reprobe : DTask Unit := do
  unitBusProbe
  pollHealthWithFreshness
  displayApplyUnitFacts

def displayInvalidateUnitReads (addr : Nat) : DTask Unit :=
  modify fun b => { b with
    units := if h : addr - SFP_I2C_ADDRESS_BASE < UNITS_AMOUNT then
        b.units.set (addr - SFP_I2C_ADDRESS_BASE)
          (unitFactsInvalidateReads (b.units.get ⟨addr - SFP_I2C_ADDRESS_BASE, h⟩))
      else b.units }

def displayApplyFrame (letters : Letters) : DTask Unit :=
  modify fun b =>
    { b with lastFrameValid := true, own := { b.own with lastFrameLetters := letters } }

/-! ## §3. The window. -/

def armTwibootRiskWindow : DTask Unit := armWindow

/-- A frame writes to every unit of the row: it waits the window out. -/
def showFrameOutsideBootloaderWindow (letters : Letters) (unitSpeed : UInt8) : DTask Unit := do
  whileTrue do
    if ← look twibootRiskHeld .frame then
      delay 20
      pure true
    else pure false
  unitBusShowFrame letters unitSpeed

def settleBeforeProbe : DTask Unit := do
  let b ← get
  if ← look twibootRiskHeld .probe then
    delay (b.inhibitUntilMs - b.millis).toNat
  else pure ()

/-- Nothing is written while a unit may sit in its bootloader: the scan owed
after that window shows the frame. -/
def reshowLastFrame : DTask Unit := do
  let b ← get
  if b.lastFrameValid then
    if ← look twibootRiskHeld .reshow then
      setOwn fun d => { d with probeOwedAfterRiskWindow := true }
    else
      unitBusShowFrame b.own.lastFrameLetters b.own.lastFrameUnitSpeed
  else pure ()

/-! ## §4. The heartbeat. -/

def setRescue (i : Fin UNITS_AMOUNT) (f : UnitRescueState → UnitRescueState) : DTask Unit :=
  setOwn fun d => { d with rescueStates := d.rescueStates.set i (f (d.rescueStates.get i)) i.isLt }

/-- True exactly once, on the first good read after a loss episode. -/
def unitRescueObserve (r : UnitRescueState) (u : UnitFacts) : UnitRescueState × Bool :=
  if unitIsLost u ∨ u.statusValid = false then (r, false)
  else if r.restorePending then
    ({ r with attempted := false, restorePending := false }, true)
  else ({ r with attempted := false }, false)

def unitHeldRecheckDue (u : UnitFacts) (r : UnitRescueState) (nowMs : UInt32) : Bool :=
  u.state == 2 && twibootHeldForCrashing u.bootloader &&
    decide (UNIT_RESCUE_RETRY_MS ≤ nowMs - r.lastAttemptMs)

def unitRescueDue (u : UnitFacts) (r : UnitRescueState) (nowMs : UInt32) : Bool :=
  unitIsLost u && (!r.attempted || decide (UNIT_RESCUE_RETRY_MS ≤ nowMs - r.lastAttemptMs))

def unitFactsBecomeBootloader (u : UnitFacts) (id : TwibootIdentity) : UnitFacts :=
  { u with state := 2, bootloader := id }

def rescueTick (i : Fin UNITS_AMOUNT) : DTask Unit := do
  let b ← get
  setRescue i fun r => (unitRescueObserve r (b.units.get i)).1
  if (unitRescueObserve (b.own.rescueStates.get i) (b.units.get i)).2 then reshowLastFrame
  else if unitHeldRecheckDue (b.units.get i) (b.own.rescueStates.get i) b.millis then
    setRescue i fun r => { r with lastAttemptMs := b.millis }
    if ← twibootIsBootloader (toI2cAddress i) then pure () else reprobe
  else if unitRescueDue (b.units.get i) (b.own.rescueStates.get i) b.millis then
    let found ← unitRescueProbe (toI2cAddress i)
    let now ← millis
    setRescue i fun r =>
      { r with attempted := true, lastAttemptMs := now, restorePending := true }
    match found with
    | .bootloader => armTwibootRiskWindow
    | .exitRefused => armTwibootRiskWindow
    | .crashHeld id => setUnit i fun u => unitFactsBecomeBootloader u id
    | .noAck => pure ()
    | .sketchSilent => pure ()
  else pure ()

def heartbeatNextSlot (slot : Fin UNITS_AMOUNT) (width : Nat) : Fin UNITS_AMOUNT :=
  if slot.val + 1 < width then Fin.ofNat UNITS_AMOUNT (slot.val + 1) else 0

/-- The budget's cap follows the supply readings. -/
def motionBudgetFold : DTask Unit := do
  let budget ← outside
  modify fun b => { b with motionCap := budget.value }

def heartbeatTick : DTask Unit := do
  let b ← get
  if b.displayWidth = 0 then pure ()
  else if ← look twibootRiskHeld .heartbeat then pure ()
  else if b.own.probeOwedAfterRiskWindow then
    setOwn fun d => { d with probeOwedAfterRiskWindow := false }
    reprobe
    reshowLastFrame
  else
    setOwn fun d => { d with slot := heartbeatNextSlot d.slot b.displayWidth }
    let ok ← unitBusPollHealthOne b.own.slot
    let now ← millis
    setUnit b.own.slot fun u => heartbeatApply u ok now HEARTBEAT_MISS_THRESHOLD
    displayApplyUnitFacts
    motionBudgetFold
    rescueTick b.own.slot

/-! ## §5. The commands. -/

/-- What a job that is not followed here does with its unit, as the answers
have it: an exchange, an arming of the window, or what it learnt of the row. -/
def ownExchanges : DTask Unit :=
  whileTrue do
    let a ← outside
    if a.stop then pure false
    else
      if a.ok then note .own else armTwibootRiskWindow
      match a.units with
      | some units => modify fun b => { b with units }
      | none => pure ()
      pure true

/-- A mover a pending stop keeps from starting is refused. -/
def unitBusMove (opcode : UInt8) (addr : Nat) : DTask Bool := do
  if ← admitMotion unitBusAbortRequested then unitSend opcode addr else pure false

structure HomeWait where
  startMs : UInt32 := 0
  idleSinceMs : UInt32 := 0
  idle : Bool := false

/-- One status read folded in; true while the search is undecided. -/
def homeWaitObserve (w : HomeWait) (readOk : Bool) (flags : UInt8) (nowMs : UInt32) :
    HomeWait × Bool :=
  let seen : HomeWait :=
    if readOk = false ∨ flags &&& UNIT_FLAG_MOVING ≠ 0 then { w with idle := false }
    else if w.idle then w
    else { w with idle := true, idleSinceMs := nowMs }
  (seen, !(seen.idle && decide (HOME_WAIT_IDLE_MS ≤ nowMs - seen.idleSinceMs)) &&
    !decide (HOME_WAIT_TIMEOUT_MS ≤ nowMs - w.startMs))

def waitForHome (addr : Nat) : DTask Unit := do
  let start ← millis
  iter (fun (w : HomeWait) => do
    if ← unitBusAbortRequested then pure (.inr ())
    else
      delay HOME_WAIT_POLL_MS
      let status ← unitReadStatus addr
      let now ← millis
      let observed := homeWaitObserve w status.ok (UInt8.ofNat status.value) now
      pure (if observed.2 then .inl observed.1 else .inr ())) { startMs := start }

def execShowText (letters : Letters) (unitSpeed : UInt8) : DTask Unit := do
  setOwn fun d => { d with lastFrameUnitSpeed := unitSpeed }
  showFrameOutsideBootloaderWindow letters unitSpeed
  displayApplyFrame letters

def execProbe : DTask Unit := do
  settleBeforeProbe
  setOwn fun d => { d with probeOwedAfterRiskWindow := false }
  reprobe

def execWriteOffset (addr : Nat) : DTask Unit := do
  let _ ← unitWriteOffset addr

def execJog (addr : Nat) : DTask Unit := do
  let _ ← unitBusMove SFP_CMD_JOG addr

def execHome (addr : Nat) : DTask Unit := do
  if ← unitBusMove SFP_CMD_HOME addr then
    waitForHome addr
    reshowLastFrame
  else pure ()

def execIdentify (addr : Nat) : DTask Unit := do
  let _ ← unitSend SFP_CMD_IDENTIFY addr

/-- Started, then polled until the poll's rules call the result. -/
def execSelfTest (addr : Nat) : DTask Unit := do
  if ← unitBusMove SFP_CMD_START_SELF_TEST addr then
    whileTrue do
      if ← unitBusAbortRequested then pure false
      else
        delay SELF_TEST_POLL_MS
        let reading ← unitReadSelfTest addr
        pure (reading.value = 0)
    let moved ← outside
    if moved.ok then reshowLastFrame else pure ()
  else pure ()

/-- The dump's own: the order, its exchanges, and the window armed however it
went. -/
def execBootDump (addr : Nat) : DTask Unit := do
  let a ← outside
  note .own
  unitActs true a
  if a.ok then
    displayInvalidateUnitReads addr
    ownExchanges
  else pure ()
  armTwibootRiskWindow
  setOwn fun d => { d with probeOwedAfterRiskWindow := true }

def execBootInfo (addr : Nat) : DTask Unit := do
  let _ ← unitReadBootInfo addr

def execSetGates (addr : Nat) : DTask Unit := do
  let _ ← unitSetGates addr

def execResetOdometer (addr : Nat) : DTask Unit := do
  let _ ← unitSend SFP_CMD_RESET_ODOMETER addr

def execRebootToBootloader (addr : Nat) : DTask Unit := do
  if ← order SFP_CMD_ENTER_BOOTLOADER addr then
    displayInvalidateUnitReads addr
    armTwibootRiskWindow
    setOwn fun d => { d with probeOwedAfterRiskWindow := true }
  else pure ()

def maintValidateSetAddressTarget (target currentAddr : Nat)
    (units : Vector UnitFacts UNITS_AMOUNT) : Bool :=
  decide (1 ≤ target ∧ target ≤ UNITS_AMOUNT) &&
    (target == currentAddr ||
      (units.get (Fin.ofNat UNITS_AMOUNT (target - SFP_I2C_ADDRESS_BASE))).state == 0)

/-- An order after which the row is scanned once the unit is through its
bootloader. -/
def orderAndSettle (opcode : UInt8) (addr : Nat) : DTask Unit := do
  if ← order opcode addr then
    armTwibootRiskWindow
    settleBeforeProbe
    reprobe
  else pure ()

def execSetAddress (addr target : Nat) : DTask Unit := do
  let b ← get
  if maintValidateSetAddressTarget target addr b.units then
    orderAndSettle SFP_CMD_SET_I2C_ADDRESS addr
  else pure ()

def execClearAddress (addr : Nat) : DTask Unit := orderAndSettle SFP_CMD_CLEAR_I2C_ADDRESS addr

/-- Every drivable unit's own word on its home. -/
def gradeHomeAll : DTask Unit := do
  let b ← get
  each (fun i => do
      let b ← get
      if unitDrivable (b.units.get i) then
        let _ ← unitReadStatus (toI2cAddress i)
      else pure ())
    (unitsUpTo b.displayWidth)

def execResetUnits (dashes dots letters : Letters) (unitSpeed : UInt8) : DTask Unit := do
  showFrameOutsideBootloaderWindow dashes unitSpeed
  delay 2000
  showFrameOutsideBootloaderWindow dots unitSpeed
  showFrameOutsideBootloaderWindow letters unitSpeed
  displayApplyFrame letters
  gradeHomeAll

def execStop : DTask Unit := do
  let b ← get
  showFrameOutsideBootloaderWindow (fun _ => 0) b.own.lastFrameUnitSpeed
  displayApplyFrame fun _ => 0

def execReflashUnits (letters : Letters) (unitSpeed : UInt8) : DTask Unit := do
  ownExchanges
  let cancelled ← unitBusAbortRequested
  if cancelled then pure ()
  else
    showFrameOutsideBootloaderWindow letters unitSpeed
    displayApplyFrame letters

def execCommand : DisplayCommand → DTask Unit
  | .showText letters speed => execShowText letters speed
  | .probe => execProbe
  | .writeOffset addr => execWriteOffset addr
  | .jog addr => execJog addr
  | .home addr => execHome addr
  | .identify addr => execIdentify addr
  | .selfTest addr => execSelfTest addr
  | .bootDump addr => execBootDump addr
  | .bootUpdate => ownExchanges
  | .bootInfo addr => execBootInfo addr
  | .setGates addr => execSetGates addr
  | .resetOdometer addr => execResetOdometer addr
  | .rebootToBootloader addr => execRebootToBootloader addr
  | .setAddress addr target => execSetAddress addr target
  | .clearAddress addr => execClearAddress addr
  | .resetUnits dashes dots letters speed => execResetUnits dashes dots letters speed
  | .stop => execStop
  | .reflashUnits letters speed => execReflashUnits letters speed

/-- One turn: a command, or the heartbeat of an idle wait. -/
def displayTurn : DTask Unit := do
  let a ← outside
  match a.next with
  | none => heartbeatTick
  | some cmd =>
      note (.began cmd.goesTo)
      execCommand cmd

/-- The command loop of `displayTaskMain`. -/
def displayTaskMain : DTask Unit :=
  whileTrue do
    displayTurn
    pure true

end SplitFlap.Bus
