/-
  SplitFlap.Board.RowLoop — a row board's loop().

  One pass: the staged unit job and its polls (`unitJobsLoopTick`), one
  scheduled read (`followerHeartbeatTick`), the link, which stages the next
  job, and the segment that is due (`clusterLoopTick`).  What the link brings,
  when a segment is due and what the bus-recovery policy says are the outside's.
-/
import SplitFlap.Board.DisplayTask

namespace SplitFlap.Bus

open TaskM

abbrev HEARTBEAT_TICK_MS : UInt32 := 3000
abbrev HOME_ALL_SPEED : UInt8 := 80

/-! ## §1. What this board keeps. -/

inductive FollowerOp
  | writeOffset (addr : Nat)
  | jog (addr : Nat)
  | home (addr : Nat)
  | identify (addr : Nat)
  | resetOdometer (addr : Nat)
  | setGates (addr : Nat)
  | reflashUnit
  | rebootToBootloader (addr : Nat)
  | selfTest (addr : Nat)
  | bootUpdate
  | bootDump (addr : Nat)
  | probe
  | setAddress (addr target : Nat)
  | clearAddress (addr : Nat)
  | homeAll (dashes dots : Letters)
  | bootInfo (addr : Nat)

/-- What reaches the loop from outside: a job over the link, or a segment that
is due; `content` is the leader's, the others are the blank and the clock. -/
inductive RowWork
  | stage (op : FollowerOp)
  | segment (letters : Letters) (unitSpeed : UInt8) (content : Bool)

structure SelfTestPolling where
  addr : Nat
  lastMs : UInt32

structure HomePoll where
  addr : Nat
  lastMs : UInt32
  wait : HomeWait

structure Row where
  stagedOp : Option FollowerOp := none
  selfTest : Option SelfTestPolling := none
  homePoll : Option HomePoll := none
  awaitingScan : Bool := false
  unitHealthRefreshPending : Bool := false
  reshowPending : Bool := false
  settleReadPending : Bool := false
  heartbeatLastMs : UInt32 := 0
  slot : Fin UNITS_AMOUNT := 0
  rescueStates : Vector UnitRescueState UNITS_AMOUNT := Vector.replicate UNITS_AMOUNT {}
  lastFrame : Letters := fun _ => 0
  lastFrameSpeed : UInt8 := 0

abbrev RTask (β : Type) := BoardTask Row RowWork β

def setRow (f : Row → Row) : RTask Unit := modify fun b => { b with own := f b.own }

def Row.opSlotBusy (r : Row) : Bool :=
  r.stagedOp.isSome || r.selfTest.isSome || r.homePoll.isSome || r.awaitingScan

def Row.unitJobHoldsRenders (r : Row) : Bool := r.selfTest.isSome || r.homePoll.isSome

/-- The addresses of the units the row drives. -/
def drivableAddrs (b : Board Row) : List Nat :=
  ((List.finRange UNITS_AMOUNT).filter fun i => unitDrivable (b.units.get i)).map toI2cAddress

/-! ## §2. The bus as the loop uses it. -/

/-- This firmware has no stop. -/
def noAbort : RTask Bool := pure false

def busPollHealthOne (i : Fin UNITS_AMOUNT) : RTask Bool := do
  let b ← get
  if unitDrivable (b.units.get i) then unitPollHealth i
  else
    setUnit i fun u => { u with statusValid := false, bootVerdict := 0 }
    pure false

def busPollHealth : RTask Unit := do
  let now ← millis
  each (fun i => do
      let ok ← busPollHealthOne i
      setUnit i fun u => heartbeatApply u ok now HEARTBEAT_MISS_THRESHOLD)
    (List.finRange UNITS_AMOUNT)

def busProbeOne (i : Fin UNITS_AMOUNT) : RTask Unit := do
  let ping ← transact .empty (toI2cAddress i)
  setUnit i fun _ => {}
  if ping.ok then
    if ← twibootIsBootloader (toI2cAddress i) then
      let id ← twibootReadIdentity (toI2cAddress i)
      setUnit i fun u => { u with state := 2, bootloader := id.2 }
    else
      setUnit i fun u => { u with state := 1 }
      unitProbeSketchUnit i
  else pure ()

def busProbe : RTask Unit := do
  each busProbeOne (List.finRange UNITS_AMOUNT)
  modify fun b => { b with displayWidth := computeDisplayWidth b.units }

/-- A settled render's re-read of every unit. -/
def settleReadTick : RTask Unit := do
  let b ← get
  if b.own.settleReadPending then
    if ← look probeInhibitHeld .settleRead then pure ()
    else
      setRow fun r => { r with settleReadPending := false }
      busPollHealth
  else pure ()

def busRowMoving : RTask Bool := do
  if ← look probeInhibitHeld .rowMoving then pure true
  else anyMoving (List.finRange UNITS_AMOUNT)

def keepFrame (letters : Letters) (unitSpeed : UInt8) : RTask Unit :=
  modify fun b => { b with
    lastFrameValid := true
    own := { b.own with lastFrame := letters, lastFrameSpeed := unitSpeed } }

/-- A segment on the drums.  It does not look at the window. -/
def busShowSegment (letters : Letters) (unitSpeed : UInt8) : RTask Unit := do
  keepFrame letters unitSpeed
  let b ← get
  writeFrame noAbort (List.finRange UNITS_AMOUNT) (unitsUpTo b.displayWidth) letters unitSpeed
  setRow fun r => { r with settleReadPending := true }
  settleReadTick

def busReshowLastFrame : RTask Unit := do
  let b ← get
  setRow fun r => { r with reshowPending := b.lastFrameValid }

def busHomeAll (dashes dots : Letters) : RTask Unit := do
  let b ← get
  let speed := if b.lastFrameValid then b.own.lastFrameSpeed else HOME_ALL_SPEED
  busShowSegment dashes speed
  delay 2000
  busShowSegment dots speed
  if b.lastFrameValid then busShowSegment b.own.lastFrame speed
  else modify fun b => { b with lastFrameValid := false }

def busGradeHomeAll : RTask Unit := do
  let b ← get
  each (fun i => do
      let b ← get
      if unitDrivable (b.units.get i) then
        let _ ← unitReadStatus (toI2cAddress i)
      else pure ())
    (unitsUpTo b.displayWidth)

def busMove (opcode : UInt8) (addr : Nat) : RTask Bool := do
  let _ ← admitMotion noAbort
  unitSend opcode addr

def busInvalidateUnitReads (addr : Nat) : RTask Unit :=
  modify fun b => { b with
    units := if h : addr - SFP_I2C_ADDRESS_BASE < UNITS_AMOUNT then
        b.units.set (addr - SFP_I2C_ADDRESS_BASE)
          (unitFactsInvalidateReads (b.units.get ⟨addr - SFP_I2C_ADDRESS_BASE, h⟩))
      else b.units }

/-- `busArmProbeInhibit(millis() + UNIT_PROBE_INHIBIT_MS)`. -/
def busArmProbeInhibit : RTask Unit := armWindow

/-! ## §3. The heartbeat. -/

def setRowRescue (i : Fin UNITS_AMOUNT) (f : UnitRescueState → UnitRescueState) : RTask Unit :=
  setRow fun r => { r with rescueStates := r.rescueStates.set i (f (r.rescueStates.get i)) i.isLt }

def busRescueTick (i : Fin UNITS_AMOUNT) : RTask Unit := do
  let b ← get
  setRowRescue i fun r => (unitRescueObserve r (b.units.get i)).1
  let bus ← outside
  if (unitRescueObserve (b.own.rescueStates.get i) (b.units.get i)).2 then busReshowLastFrame
  else if bus.stop then pure ()  -- a dead bus is the row-wide recovery's job
  else if unitHeldRecheckDue (b.units.get i) (b.own.rescueStates.get i) b.millis then
    setRowRescue i fun r => { r with lastAttemptMs := b.millis }
    if ← twibootIsBootloader (toI2cAddress i) then pure ()
    else
      busProbe
      busPollHealth
  else if unitRescueDue (b.units.get i) (b.own.rescueStates.get i) b.millis then
    let found ← unitRescueProbe (toI2cAddress i)
    let now ← millis
    setRowRescue i fun r =>
      { r with attempted := true, lastAttemptMs := now, restorePending := true }
    match found with
    | .bootloader => busArmProbeInhibit
    | .exitRefused => busArmProbeInhibit
    | .crashHeld id => setUnit i fun u => unitFactsBecomeBootloader u id
    | .noAck => pure ()
    | .sketchSilent => pure ()
  else pure ()

/-- A re-show that was staged, then what the recovery policy asks for: at the
first attempt of an episode every address is pinged, and an empty row is probed
again. -/
def followerBusRecoveryTick : RTask Unit := do
  let b ← get
  if b.own.reshowPending && !b.own.unitJobHoldsRenders then
    setRow fun r => { r with reshowPending := false }
    busShowSegment b.own.lastFrame b.own.lastFrameSpeed
  else pure ()
  let due ← outside
  if due.stop then
    let first ← outside
    if first.stop then
      each (fun i => do
          let _ ← transact .empty (toI2cAddress i))
        (List.finRange UNITS_AMOUNT)
    else pure ()
    let reprobe ← outside
    if reprobe.stop then
      busProbe
      let recovered ← outside
      if recovered.stop then busReshowLastFrame else pure ()
    else pure ()
  else pure ()

def busLinesHealthyTick : RTask Unit := do
  let due ← outside
  if due.stop then
    let _ ← busRowMoving
  else pure ()

def rowMotionBudgetFold : RTask Unit := do
  let budget ← outside
  modify fun b => { b with motionCap := budget.value }

def heartbeatRead : RTask Unit := do
  let b ← get
  if b.displayWidth = 0 ∨ ∀ i : Fin UNITS_AMOUNT, (b.units.get i).state = 0 then pure ()
  else
    setRow fun r => { r with slot := heartbeatNextSlot r.slot b.displayWidth }
    let ok ← busPollHealthOne b.own.slot
    let now ← millis
    setUnit b.own.slot fun u => heartbeatApply u ok now HEARTBEAT_MISS_THRESHOLD
    let recovered ← outside
    if recovered.stop then busReshowLastFrame else pure ()
    rowMotionBudgetFold
    busRescueTick b.own.slot

def followerHeartbeatTick : RTask Unit := do
  settleReadTick
  let b ← get
  if b.millis - b.own.heartbeatLastMs < HEARTBEAT_TICK_MS then pure ()
  else
    setRow fun r => { r with heartbeatLastMs := b.millis }
    if ← look probeInhibitHeld .heartbeat then pure ()
    else
      followerBusRecoveryTick
      busLinesHealthyTick
      heartbeatRead

/-! ## §4. The staged job. -/

def rowOwnExchanges : RTask Unit :=
  whileTrue do
    let a ← outside
    if a.stop then pure false
    else
      if a.ok then note .own else busArmProbeInhibit
      match a.units with
      | some units => modify fun b => { b with units }
      | none => pure ()
      pure true

def clearSlot : RTask Unit := setRow fun r => { r with stagedOp := none }

/-- The slot is given back; the job's result waits for the scan it asks for. -/
def awaitScan (await : Bool) : RTask Unit :=
  setRow fun r => { r with
    stagedOp := none
    unitHealthRefreshPending := true
    awaitingScan := if await then true else r.awaitingScan }

def executeHome (addr : Nat) : RTask Unit := do
  let ok ← busMove SFP_CMD_HOME addr
  let now ← millis
  if ok then
    setRow fun r => { r with
      stagedOp := none
      homePoll := some { addr, lastMs := now, wait := { startMs := now } } }
  else clearSlot

def executeSelfTest (addr : Nat) : RTask Unit := do
  let ok ← busMove SFP_CMD_START_SELF_TEST addr
  let now ← millis
  if ok then
    setRow fun r => { r with stagedOp := none, selfTest := some { addr, lastMs := now } }
  else clearSlot

/-- A NACK does not prove the unit stayed in its sketch: armed all the same. -/
def executeReboot (addr : Nat) : RTask Unit := do
  let ok ← order SFP_CMD_ENTER_BOOTLOADER addr
  if ok then busInvalidateUnitReads addr else pure ()
  busArmProbeInhibit
  awaitScan false

def executeAddressOp (opcode : UInt8) (addr : Nat) : RTask Unit := do
  let ok ← order opcode addr
  if ok then busInvalidateUnitReads addr else pure ()
  busArmProbeInhibit
  awaitScan ok

def executeSetAddress (addr target : Nat) : RTask Unit := do
  let b ← get
  if maintValidateSetAddressTarget target addr b.units then
    executeAddressOp SFP_CMD_SET_I2C_ADDRESS addr
  else clearSlot

def executeBootDump (addr : Nat) : RTask Unit := do
  let a ← outside
  note .own
  unitActs true a
  if a.ok then
    busInvalidateUnitReads addr
    rowOwnExchanges
  else pure ()
  busArmProbeInhibit
  awaitScan false

def executeHomeAll (dashes dots : Letters) : RTask Unit := do
  busHomeAll dashes dots
  busGradeHomeAll
  clearSlot

/-- The units a job goes to without a look at the window. -/
def FollowerOp.goesTo (b : Board Row) : FollowerOp → List Nat
  | .writeOffset addr => [addr]
  | .jog addr => [addr]
  | .home addr => [addr]
  | .identify addr => [addr]
  | .resetOdometer addr => [addr]
  | .setGates addr => [addr]
  | .rebootToBootloader addr => [addr]
  | .selfTest addr => [addr]
  | .setAddress addr _ => [addr]
  | .clearAddress addr => [addr]
  | .homeAll _ _ => drivableAddrs b
  | .bootInfo addr => [addr]
  | .reflashUnit => []
  | .bootUpdate => []
  | .bootDump _ => []
  | .probe => []

def executeOp : FollowerOp → RTask Unit
  | .writeOffset addr => do
      let _ ← unitWriteOffset addr
      clearSlot
  | .jog addr => do
      let _ ← busMove SFP_CMD_JOG addr
      clearSlot
  | .home addr => executeHome addr
  | .identify addr => do
      let _ ← unitSend SFP_CMD_IDENTIFY addr
      clearSlot
  | .resetOdometer addr => do
      let _ ← unitSend SFP_CMD_RESET_ODOMETER addr
      clearSlot
  | .setGates addr => do
      let _ ← unitSetGates addr
      clearSlot
  | .reflashUnit => do
      rowOwnExchanges
      clearSlot
  | .rebootToBootloader addr => executeReboot addr
  | .selfTest addr => executeSelfTest addr
  | .bootUpdate => do
      rowOwnExchanges
      awaitScan false
  | .bootDump addr => executeBootDump addr
  | .probe => awaitScan true
  | .setAddress addr target => executeSetAddress addr target
  | .clearAddress addr => executeAddressOp SFP_CMD_CLEAR_I2C_ADDRESS addr
  | .homeAll dashes dots => executeHomeAll dashes dots
  | .bootInfo addr => do
      let _ ← unitReadBootInfo addr
      clearSlot

def executeStagedOp : RTask Unit := do
  let b ← get
  match b.own.stagedOp with
  | none => pure ()
  | some op =>
      note (.began (op.goesTo b))
      executeOp op

/-- One poll for each SELF_TEST_POLL_MS. -/
def pollSelfTest : RTask Unit := do
  let b ← get
  match b.own.selfTest with
  | none => pure ()
  | some p =>
      if b.millis - p.lastMs < UInt32.ofNat SELF_TEST_POLL_MS then pure ()
      else
        setRow fun r => { r with selfTest := some { p with lastMs := b.millis } }
        let reading ← unitReadSelfTest p.addr
        if reading.value = 0 then pure ()
        else
          setRow fun r => { r with selfTest := none }
          if reading.stop then busReshowLastFrame else pure ()

/-- One status read for each HOME_WAIT_POLL_MS until the search is called. -/
def pollHome : RTask Unit := do
  let b ← get
  match b.own.homePoll with
  | none => pure ()
  | some p =>
      if b.millis - p.lastMs < UInt32.ofNat HOME_WAIT_POLL_MS then pure ()
      else
        let status ← unitReadStatus p.addr
        let observed := homeWaitObserve p.wait status.ok (UInt8.ofNat status.value) b.millis
        if observed.2 then
          setRow fun r =>
            { r with homePoll := some { p with lastMs := b.millis, wait := observed.1 } }
        else
          setRow fun r => { r with homePoll := none }
          busReshowLastFrame

/-- The scan owed after the window, and with it the end of the job that waits
for it. -/
def owedScan : RTask Unit := do
  let b ← get
  if b.own.unitHealthRefreshPending then
    if ← look probeInhibitHeld .rescan then pure ()
    else
      setRow fun r => { r with unitHealthRefreshPending := false }
      busProbe
      busReshowLastFrame
      busPollHealth
      setRow fun r => { r with awaitingScan := false }
  else pure ()

def unitJobsLoopTick : RTask Unit := do
  executeStagedOp
  pollSelfTest
  pollHome
  owedScan

/-! ## §5. The loop. -/

def unitOpStage (op : FollowerOp) : RTask Unit :=
  setRow fun r => if r.opSlotBusy then r else { r with stagedOp := some op }

def linkLoopTick : RTask Unit := do
  let a ← outside
  match a.next with
  | some (.stage op) => unitOpStage op
  | _ => pure ()

/-- A segment that is due.  The leader's waits while a job holds the renders. -/
def clusterLoopTick : RTask Unit := do
  let a ← outside
  match a.next with
  | some (.segment letters unitSpeed content) =>
      let b ← get
      if content && b.own.unitJobHoldsRenders then pure ()
      else
        note (.began (drivableAddrs b))
        busShowSegment letters unitSpeed
  | _ => pure ()

/-- The transmit-power ladder, which does not climb while the row moves. -/
def followerTxTick : RTask Unit := do
  let climb ← outside
  if climb.stop then
    let _ ← busRowMoving
  else pure ()

def rowTurn : RTask Unit := do
  let rescue ← outside
  if rescue.stop then linkLoopTick
  else
    followerTxTick
    unitJobsLoopTick
    followerHeartbeatTick
    linkLoopTick
    clusterLoopTick

def rowLoop : RTask Unit :=
  whileTrue do
    rowTurn
    pure true

end SplitFlap.Bus
