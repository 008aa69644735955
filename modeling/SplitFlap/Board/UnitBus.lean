/-
  SplitFlap.Board.UnitBus — what a board puts on the unit bus.

  The sketch protocol of `UnitBusCore.h`, the bootloader questions of
  `TwibootFlash.h` and `UnitBusTwiboot.h`, and the frame both boards write
  (`unitBusShowFrame`, `busShowSegment`), transaction by transaction.  What a
  reply says is the outside's; here only what is sent to whom, and what the
  board then knows of the unit's state, its protocol and its missed reads.

  Each function comes with its `_keeps`: it only talks to its own unit.
-/
import SplitFlap.Board.Window
import Mathlib.Data.List.FinRange

namespace SplitFlap.Bus

open TaskM

abbrev SFP_FLAP_AMOUNT : Nat := 45
abbrev SFP_PROTOCOL_VERSION : UInt8 := 1
abbrev SFP_CMD_ENTER_BOOTLOADER : UInt8 := 0x80
abbrev SFP_CMD_GET_VERSION : UInt8 := 0x81
abbrev SFP_CMD_GET_OFFSET : UInt8 := 0x82
abbrev SFP_CMD_GET_STATUS : UInt8 := 0x83
abbrev SFP_CMD_GET_LETTER : UInt8 := 0x84
abbrev SFP_CMD_GET_ODOMETER : UInt8 := 0x85
abbrev SFP_CMD_GET_DIAG : UInt8 := 0x86
abbrev SFP_CMD_GET_SELF_TEST : UInt8 := 0x87
abbrev SFP_CMD_GET_VITALS : UInt8 := 0x88
abbrev SFP_CMD_GET_EXT_DIAG : UInt8 := 0x89
abbrev SFP_CMD_GET_LIFETIME : UInt8 := 0x8A
abbrev SFP_CMD_GET_BOOT_INFO : UInt8 := 0x8B
abbrev SFP_CMD_GET_BUS_RECORD : UInt8 := 0x8C
abbrev SFP_CMD_HOME : UInt8 := 0x90
abbrev SFP_CMD_JOG : UInt8 := 0x91
abbrev SFP_CMD_SET_OFFSET : UInt8 := 0x93
abbrev SFP_CMD_SET_I2C_ADDRESS : UInt8 := 0x94
abbrev SFP_CMD_CLEAR_I2C_ADDRESS : UInt8 := 0x95
abbrev SFP_CMD_IDENTIFY : UInt8 := 0x96
abbrev SFP_CMD_RESET_ODOMETER : UInt8 := 0x97
abbrev SFP_CMD_START_SELF_TEST : UInt8 := 0x98
abbrev SFP_CMD_SET_GATES : UInt8 := 0x99

abbrev UNIT_RESPONSE_SETTLE_MS : Nat := 2
abbrev UNIT_OFFSET_WRITE_SETTLE_MS : Nat := 30
abbrev UNIT_GATES_WRITE_SETTLE_MS : Nat := 30
abbrev UNIT_SHOW_STUCK_TIMEOUT_MS : UInt32 := 30000
abbrev HEARTBEAT_MISS_THRESHOLD : UInt8 := 3
abbrev MOTION_START_GRACE_MS : UInt32 := 150
abbrev MOTION_STUCK_MS : UInt32 := 20000
abbrev MOTION_RADIO_MAX_HOLD_MS : UInt32 := 35000
abbrev MOTION_BUDGET_MAX : Nat := 4
abbrev RENDER_STAGGER_BATCH : Nat := 4
abbrev RENDER_STAGGER_SETTLE_MS : Nat := 100
abbrev TWIBOOT_CAP_CRASH_RECORD : UInt8 := 0x04
abbrev TWIBOOT_CAP_FUSE_CHIPINFO : UInt8 := 0x08
abbrev TWIBOOT_CRASH_HOLD_COUNT : UInt8 := 3

variable {ρ κ : Type}

def toI2cAddress (i : Fin UNITS_AMOUNT) : Nat := SFP_I2C_ADDRESS_BASE + i

/-! ## §1. A unit's facts. -/

def unitProtocolSupported (version : UInt8) : Bool := version == SFP_PROTOCOL_VERSION

/-- Running its sketch, and speaking the contract we speak. -/
def unitDrivable (u : UnitFacts) : Bool :=
  u.state == 1 && !(u.protocolKnown && !unitProtocolSupported u.protocolVersion)

def unitFactsInvalidateReads (u : UnitFacts) : UnitFacts :=
  { u with offsetValid := false, statusValid := false, odometerValid := false }

def unitIsLost (u : UnitFacts) : Bool := u.state == 1 && u.stale

def twibootHeldForCrashing (id : TwibootIdentity) : Bool :=
  id.crashValid && decide (TWIBOOT_CRASH_HOLD_COUNT ≤ id.crashCount)

def heartbeatMissCount (prev : UInt8) (ok : Bool) : UInt8 :=
  if ok then 0 else if 0xFF ≤ prev then 0xFF else prev + 1

/-- One scheduled read's outcome, folded into a unit's freshness. -/
def heartbeatApply (u : UnitFacts) (ok : Bool) (nowMs : UInt32) (threshold : UInt8) : UnitFacts :=
  if u.state ≠ 1 then { u with misses := 0, stale := false }
  else
    let misses := heartbeatMissCount u.misses ok
    { u with
      misses
      stale := decide (threshold ≤ misses)
      lastSeenMs := if ok then nowMs else u.lastSeenMs }

def computeDisplayWidth (units : Vector UnitFacts UNITS_AMOUNT) : Nat :=
  let width := (List.finRange UNITS_AMOUNT).foldl
    (fun width i => if units[i].state ≠ 0 then i.val + 1 else width) 0
  if width = 0 then UNITS_AMOUNT else width

def setUnit (i : Fin UNITS_AMOUNT) (f : UnitFacts → UnitFacts) : BoardTask ρ κ Unit :=
  modify fun b => { b with units := b.units.set i (f b.units[i]) }

theorem units_get (units : Vector UnitFacts UNITS_AMOUNT) (i : Fin UNITS_AMOUNT) :
    units.get i = units[i] := rfl

/-! ## §2. Transactions of the sketch protocol. -/

/-- The opcode, then its reply; true when the reply passed its checks. -/
def unitQuery (opcode : UInt8) (addr : Nat) : BoardTask ρ κ (Answer κ) := do
  let sent ← transact (.query opcode) addr
  if sent.ok then
    delay UNIT_RESPONSE_SETTLE_MS
    transact (.query opcode) addr
  else pure sent

/-- A command that has no reply; true when acknowledged. -/
def unitSend (opcode : UInt8) (addr : Nat) : BoardTask ρ κ Bool := do
  let a ← transact (.command opcode) addr
  pure a.ok

/-- The rotation status, `none` for a silent unit, which gets an empty
transmission as a wake-up pulse. -/
def unitMovingStatus (addr : Nat) : BoardTask ρ κ (Option Nat) := do
  let a ← transact .rotation addr
  if a.ok then pure (some a.value)
  else
    let _ ← transact .empty addr
    pure none

def unitReadStatus (addr : Nat) : BoardTask ρ κ (Answer κ) := unitQuery SFP_CMD_GET_STATUS addr
def unitReadSelfTest (addr : Nat) : BoardTask ρ κ (Answer κ) := unitQuery SFP_CMD_GET_SELF_TEST addr
def unitReadBootInfo (addr : Nat) : BoardTask ρ κ (Answer κ) := unitQuery SFP_CMD_GET_BOOT_INFO addr
def unitReadDisplayedLetter (addr : Nat) : BoardTask ρ κ (Answer κ) :=
  unitQuery SFP_CMD_GET_LETTER addr

def unitWriteLetter (addr : Nat) (letter speed : UInt8) : BoardTask ρ κ Bool := do
  let a ← transact (.letter letter speed) addr
  pure a.ok

/-- Written, then read back. -/
def unitSetAndRead (set read : UInt8) (settle : Nat) (addr : Nat) : BoardTask ρ κ Bool := do
  if ← unitSend set addr then
    delay settle
    let a ← unitQuery read addr
    pure a.ok
  else pure false

def unitWriteOffset (addr : Nat) : BoardTask ρ κ Bool :=
  unitSetAndRead SFP_CMD_SET_OFFSET SFP_CMD_GET_OFFSET UNIT_OFFSET_WRITE_SETTLE_MS addr

def unitSetGates (addr : Nat) : BoardTask ρ κ Bool :=
  unitSetAndRead SFP_CMD_SET_GATES SFP_CMD_GET_LIFETIME UNIT_GATES_WRITE_SETTLE_MS addr

/-- Everything beyond the status that a probe and a poll both refresh. -/
def unitRefreshDiagnostics (addr : Nat) : BoardTask ρ κ Unit :=
  each (fun opcode => do
      let _ ← unitQuery opcode addr)
    [SFP_CMD_GET_ODOMETER, SFP_CMD_GET_DIAG, SFP_CMD_GET_VITALS, SFP_CMD_GET_EXT_DIAG,
      SFP_CMD_GET_LIFETIME, SFP_CMD_GET_BUS_RECORD, SFP_CMD_GET_BOOT_INFO]

/-- A unit found running its sketch: its version, its offset, its diagnostics. -/
def unitProbeSketchUnit (i : Fin UNITS_AMOUNT) : BoardTask ρ κ Unit := do
  let version ← unitQuery SFP_CMD_GET_VERSION (toI2cAddress i)
  if version.ok then
    setUnit i fun u =>
      { u with protocolVersion := UInt8.ofNat version.value, protocolKnown := true }
  else pure ()
  let _ ← unitQuery SFP_CMD_GET_OFFSET (toI2cAddress i)
  unitRefreshDiagnostics (toI2cAddress i)

/-- One unit's health poll.  A unit that missed its status before and misses it
again is asked nothing else. -/
def unitPollHealth (i : Fin UNITS_AMOUNT) : BoardTask ρ κ Bool := do
  let status ← unitReadStatus (toI2cAddress i)
  setUnit i fun u => { u with statusValid := status.ok }
  let b ← get
  if !status.ok && 0 < b.units[i].misses then pure false
  else
    unitRefreshDiagnostics (toI2cAddress i)
    pure status.ok

/-! ## §3. Questions to a bootloader. -/

/-- A request and its reply without a stop between them. -/
def twibootAsk (msg : UnitMsg) (addr : Nat) : BoardTask ρ κ (Answer κ) := do
  let sent ← transact msg addr
  if sent.ok then transact msg addr else pure sent

def twibootIsBootloader (addr : Nat) : BoardTask ρ κ Bool := do
  let a ← twibootAsk .chipinfo addr
  pure a.ok

/-- The identity and, from an image that serves them, the crash count and the
fuse bytes; a failed fuse read keeps the identity. -/
def twibootReadIdentity (addr : Nat) : BoardTask ρ κ (Bool × TwibootIdentity) := do
  let info ← twibootAsk .version addr
  if info.ok then
    let named : TwibootIdentity :=
      { generation := info.identity.generation, caps := info.identity.caps }
    let wantFuses := named.caps &&& TWIBOOT_CAP_FUSE_CHIPINFO ≠ 0
    let wantCrash := named.caps &&& TWIBOOT_CAP_CRASH_RECORD ≠ 0
    if named.generation < 2 ∨ named.generation = 0xFF ∨ ¬(wantFuses ∨ wantCrash) then
      pure (true, named)
    else
      let chip ← twibootAsk .chipinfo addr
      if chip.ok then
        let counted : TwibootIdentity :=
          if wantCrash then
            { named with crashCount := chip.identity.crashCount, crashValid := true }
          else named
        if wantFuses then
          let flash ← twibootAsk .chipinfo addr
          if flash.ok ∧ flash.identity.fusesValid then
            pure (true, { counted with
              fusesValid := true
              lfuse := chip.identity.lfuse
              lock := chip.identity.lock
              efuse := chip.identity.efuse
              hfuse := chip.identity.hfuse })
          else pure (true, counted)
        else pure (true, counted)
      else pure (true, named)
  else pure (false, {})

def twibootExit (addr : Nat) : BoardTask ρ κ Bool := do
  let a ← transact .exit addr
  pure a.ok

inductive UnitRescueProbe
  | noAck
  | bootloader
  | sketchSilent
  | crashHeld (id : TwibootIdentity)
  | exitRefused

/-- Asked twice before the unit is started: one lost read must not put a
crash-looping unit back into its crash. -/
def unitRescueProbe (addr : Nat) : BoardTask ρ κ UnitRescueProbe := do
  let ping ← transact .empty addr
  if ping.ok then
    if ← twibootIsBootloader addr then
      let first ← twibootReadIdentity addr
      let id ← if first.1 then pure first else twibootReadIdentity addr
      if twibootHeldForCrashing id.2 then pure (.crashHeld id.2)
      else if ← twibootExit addr then pure .bootloader
      else pure .exitRefused
    else pure .sketchSilent
  else pure .noAck

/-! ## §4. A frame. -/

/-- The units a board drives, the first `width` of its row. -/
def unitsUpTo (width : Nat) : List (Fin UNITS_AMOUNT) :=
  (List.finRange UNITS_AMOUNT).filter fun i => i.val < width

/-- A poll of the drivable ones until one turns. -/
def anyMoving : List (Fin UNITS_AMOUNT) → BoardTask ρ κ Bool
  | [] => pure false
  | i :: rest => do
      let b ← get
      if unitDrivable b.units[i] then
        let active ← unitMovingStatus (toI2cAddress i)
        if active = some 1 then pure true else anyMoving rest
      else anyMoving rest

/-- Until nothing turns, a stop is asked for, or a unit may be stuck. -/
def waitForStop (abort : BoardTask ρ κ Bool) (watched : List (Fin UNITS_AMOUNT)) :
    BoardTask ρ κ Unit := do
  let waitStart ← millis
  whileTrue do
    if ← anyMoving watched then
      if ← abort then pure false
      else
        let now ← millis
        if UNIT_SHOW_STUCK_TIMEOUT_MS < now - waitStart then pure false
        else
          delay 100
          pure true
    else pure false

/-- No motion while the radio is in a high-draw phase, bounded. -/
def admitMotion (abort : BoardTask ρ κ Bool) : BoardTask ρ κ Bool := do
  let holdStart ← millis
  whileTrue do
    let radio ← outside
    if radio.ok then pure false
    else if ← abort then pure false
    else
      let now ← millis
      if MOTION_RADIO_MAX_HOLD_MS ≤ now - holdStart then pure false
      else
        delay 100
        pure true
  let stopped ← abort
  pure !stopped

/-- Units that move, and since when. -/
abbrev MotionTracker := List (Fin UNITS_AMOUNT × UInt32)

/-- The tracker's poll of one mover: whether it is retired. -/
def motionTrackerObserve (startMs nowMs : UInt32) (reply : Option Nat) : Bool :=
  let age := nowMs - startMs
  let moving := reply ≠ some 0 ∧ reply ≠ none
  !(decide (age < MOTION_START_GRACE_MS)) && !(decide (moving ∧ age < MOTION_STUCK_MS))

def pollMovers : MotionTracker → BoardTask ρ κ MotionTracker
  | [] => pure []
  | m :: rest => do
      -- the last one first
      let kept ← pollMovers rest
      let reply ← unitMovingStatus (toI2cAddress m.1)
      let now ← millis
      pure (if motionTrackerObserve m.2 now reply then kept else m :: kept)

/-- Until fewer units move than the budget allows; `none` when stopped. -/
def waitForMotionSlot (abort : BoardTask ρ κ Bool) (movers : MotionTracker) :
    BoardTask ρ κ (Option MotionTracker) :=
  iter (fun movers => do
    let b ← get
    if movers.length < max b.motionCap 1 then pure (.inr (some movers))
    else if ← abort then pure (.inr none)
    else
      let kept ← pollMovers movers
      if kept.length < max b.motionCap 1 then pure (.inr (some kept))
      else
        delay 50
        pure (.inl kept)) movers

def motionTrackerAdd (movers : MotionTracker) (i : Fin UNITS_AMOUNT) (nowMs : UInt32) :
    MotionTracker :=
  if movers.length < MOTION_BUDGET_MAX then movers ++ [(i, nowMs)] else movers

/-- The letters, unit by unit; true unless stopped. -/
def writeLetters (abort : BoardTask ρ κ Bool) (letters : Fin UNITS_AMOUNT → UInt8) (speed : UInt8) :
    List (Fin UNITS_AMOUNT) → MotionTracker → Nat → BoardTask ρ κ Bool
  | [], _, _ => pure true
  | i :: rest, movers, commanded => do
      let b ← get
      if unitDrivable b.units[i] then
        match ← waitForMotionSlot abort movers with
        | none => pure false
        | some free =>
            if 0 < commanded ∧ commanded % RENDER_STAGGER_BATCH = 0 then
              delay RENDER_STAGGER_SETTLE_MS
            else pure ()
            let _ ← unitWriteLetter (toI2cAddress i) (letters i) speed
            let now ← millis
            writeLetters abort letters speed rest (motionTrackerAdd free i now) (commanded + 1)
      else writeLetters abort letters speed rest movers commanded

/-- Each letter is read back and sent once more where it is another; the number
of letters sent. -/
def resendLetters (abort : BoardTask ρ κ Bool) (letters : Fin UNITS_AMOUNT → UInt8)
    (speed : UInt8) : List (Fin UNITS_AMOUNT) → MotionTracker → Nat → BoardTask ρ κ Nat
  | [], _, resent => pure resent
  | i :: rest, movers, resent => do
      let b ← get
      if unitDrivable b.units[i] then
        let shown ← unitReadDisplayedLetter (toI2cAddress i)
        if shown.ok ∧ shown.value ≠ (letters i).toNat then
          match ← waitForMotionSlot abort movers with
          | none => pure resent
          | some free =>
              let _ ← unitWriteLetter (toI2cAddress i) (letters i) speed
              let now ← millis
              resendLetters abort letters speed rest (motionTrackerAdd free i now) (resent + 1)
        else resendLetters abort letters speed rest movers resent
      else resendLetters abort letters speed rest movers resent

/-- A frame on the bus: the row comes to rest, the letters, the row comes to
rest again, the letters are verified. -/
def writeFrame (abort : BoardTask ρ κ Bool) (watched written : List (Fin UNITS_AMOUNT))
    (letters : Fin UNITS_AMOUNT → UInt8) (speed : UInt8) : BoardTask ρ κ Unit := do
  waitForStop abort watched
  if ← admitMotion abort then
    let whole ← writeLetters abort letters speed written [] 0
    waitForStop abort watched
    if whole then
      let resent ← resendLetters abort letters speed written [] 0
      if 0 < resent then waitForStop abort watched else pure ()
    else pure ()
  else pure ()

/-! ## §5. Each talks to its own unit. -/

section Keeps

variable {held : UInt32 → UInt32 → Bool} {S : Nat → Prop} {J : Board ρ → Prop}

/-- What a task may learn that leaves the drivable units what they are. -/
def Notes (J : Board ρ → Prop) : Prop :=
  ∀ b units, (∀ i : Fin UNITS_AMOUNT, unitDrivable units[i] = unitDrivable b.units[i]) → J b →
    J { b with units }

theorem Learns.notes (h : Learns J) : Notes J := fun b units _ hb => h b units hb

theorem setUnit_notes (hnote : Notes J) (i : Fin UNITS_AMOUNT) {f : UnitFacts → UnitFacts}
    (hf : ∀ u, unitDrivable (f u) = unitDrivable u) :
    Keeps J (setUnit i f : BoardTask ρ κ Unit) := by
  refine Keeps.modify fun b hb => hnote b _ (fun j => ?_) hb
  show unitDrivable (b.units.set i (f b.units[i]))[j.val] = unitDrivable b.units[j.val]
  rw [Vector.getElem_set]
  split
  · next hij =>
      rw [hf]
      simp only [Fin.getElem_fin, hij]
  · rfl

theorem setUnit_keeps (hlearn : Learns J) (i : Fin UNITS_AMOUNT) (f : UnitFacts → UnitFacts) :
    Keeps J (setUnit i f : BoardTask ρ κ Unit) :=
  Keeps.modify fun b hb => hlearn b _ hb

variable (hJ : Bears held S J)
include hJ

theorem unitQuery_keeps (opcode : UInt8) {addr : Nat} (haddr : S addr) :
    Keeps J (unitQuery opcode addr : BoardTask ρ κ (Answer κ)) := by
  refine Keeps.bind (transact_keeps hJ _ haddr) fun sent => Keeps.ite (fun _ => ?_) fun _ =>
    Keeps.pure _
  exact Keeps.bind (delay_keeps hJ _) fun _ => transact_keeps hJ _ haddr

theorem unitSend_keeps (opcode : UInt8) {addr : Nat} (haddr : S addr) :
    Keeps J (unitSend opcode addr : BoardTask ρ κ Bool) :=
  Keeps.bind (transact_keeps hJ _ haddr) fun _ => Keeps.pure _

theorem unitMovingStatus_keeps {addr : Nat} (haddr : S addr) :
    Keeps J (unitMovingStatus addr : BoardTask ρ κ (Option Nat)) := by
  refine Keeps.bind (transact_keeps hJ _ haddr) fun a => Keeps.ite (fun _ => Keeps.pure _) fun _ => ?_
  exact Keeps.bind (transact_keeps hJ _ haddr) fun _ => Keeps.pure _

theorem unitWriteLetter_keeps (letter speed : UInt8) {addr : Nat} (haddr : S addr) :
    Keeps J (unitWriteLetter addr letter speed : BoardTask ρ κ Bool) :=
  Keeps.bind (transact_keeps hJ _ haddr) fun _ => Keeps.pure _

theorem unitSetAndRead_keeps (set read : UInt8) (settle : Nat) {addr : Nat} (haddr : S addr) :
    Keeps J (unitSetAndRead set read settle addr : BoardTask ρ κ Bool) := by
  refine Keeps.bind (unitSend_keeps hJ _ haddr) fun ok => Keeps.ite (fun _ => ?_) fun _ =>
    Keeps.pure _
  refine Keeps.bind (delay_keeps hJ _) fun _ => ?_
  exact Keeps.bind (unitQuery_keeps hJ _ haddr) fun _ => Keeps.pure _

theorem unitRefreshDiagnostics_keeps {addr : Nat} (haddr : S addr) :
    Keeps J (unitRefreshDiagnostics addr : BoardTask ρ κ Unit) :=
  Keeps.each fun opcode _ => Keeps.bind (unitQuery_keeps hJ opcode haddr) fun _ => Keeps.pure _

theorem unitProbeSketchUnit_keeps (hlearn : Learns J) {i : Fin UNITS_AMOUNT} (haddr : S (toI2cAddress i)) :
    Keeps J (unitProbeSketchUnit i : BoardTask ρ κ Unit) := by
  have hrest : Keeps J (do
      let _ ← unitQuery SFP_CMD_GET_OFFSET (toI2cAddress i)
      unitRefreshDiagnostics (toI2cAddress i) : BoardTask ρ κ Unit) :=
    Keeps.bind (unitQuery_keeps hJ _ haddr) fun _ => unitRefreshDiagnostics_keeps hJ haddr
  refine Keeps.bind (unitQuery_keeps hJ _ haddr) fun version => Keeps.ite (fun _ => ?_) fun _ => ?_
  · exact Keeps.bind (setUnit_keeps hlearn i _) fun _ => hrest
  · exact hrest

theorem unitPollHealth_keeps (hnote : Notes J) {i : Fin UNITS_AMOUNT} (haddr : S (toI2cAddress i)) :
    Keeps J (unitPollHealth i : BoardTask ρ κ Bool) := by
  refine Keeps.bind (unitQuery_keeps hJ _ haddr) fun status => ?_
  refine Keeps.bind (setUnit_notes hnote i fun _ => rfl) fun _ => Keeps.bind Keeps.get fun b => ?_
  refine Keeps.ite (fun _ => Keeps.pure _) fun _ => ?_
  exact Keeps.bind (unitRefreshDiagnostics_keeps hJ haddr) fun _ => Keeps.pure _

theorem twibootAsk_keeps (msg : UnitMsg) {addr : Nat} (haddr : S addr) :
    Keeps J (twibootAsk msg addr : BoardTask ρ κ (Answer κ)) :=
  Keeps.bind (transact_keeps hJ _ haddr) fun _ =>
    Keeps.ite (fun _ => transact_keeps hJ _ haddr) fun _ => Keeps.pure _

theorem twibootIsBootloader_keeps {addr : Nat} (haddr : S addr) :
    Keeps J (twibootIsBootloader addr : BoardTask ρ κ Bool) :=
  Keeps.bind (twibootAsk_keeps hJ _ haddr) fun _ => Keeps.pure _

theorem twibootReadIdentity_keeps {addr : Nat} (haddr : S addr) :
    Keeps J (twibootReadIdentity addr : BoardTask ρ κ (Bool × TwibootIdentity)) := by
  refine Keeps.bind (twibootAsk_keeps hJ _ haddr) fun info => Keeps.ite (fun _ => ?_) fun _ =>
    Keeps.pure _
  refine Keeps.ite (fun _ => Keeps.pure _) fun _ => ?_
  refine Keeps.bind (twibootAsk_keeps hJ _ haddr) fun chip => Keeps.ite (fun _ => ?_) fun _ =>
    Keeps.pure _
  refine Keeps.ite (fun _ => ?_) fun _ => Keeps.pure _
  refine Keeps.bind (twibootAsk_keeps hJ _ haddr) fun flash => ?_
  exact Keeps.ite (fun _ => Keeps.pure _) fun _ => Keeps.pure _

theorem unitRescueProbe_keeps {addr : Nat} (haddr : S addr) :
    Keeps J (unitRescueProbe addr : BoardTask ρ κ UnitRescueProbe) := by
  have hend : ∀ id : Bool × TwibootIdentity, Keeps J
      (if twibootHeldForCrashing id.2 then pure (.crashHeld id.2)
        else do if ← twibootExit addr then pure .bootloader else pure .exitRefused :
        BoardTask ρ κ UnitRescueProbe) := by
    intro id
    refine Keeps.ite (fun _ => Keeps.pure _) fun _ => ?_
    refine Keeps.bind (Keeps.bind (transact_keeps hJ _ haddr) fun _ => Keeps.pure _) fun _ => ?_
    exact Keeps.ite (fun _ => Keeps.pure _) fun _ => Keeps.pure _
  refine Keeps.bind (transact_keeps hJ _ haddr) fun ping => Keeps.ite (fun _ => ?_) fun _ =>
    Keeps.pure _
  refine Keeps.bind (twibootIsBootloader_keeps hJ haddr) fun _ => Keeps.ite (fun _ => ?_) fun _ =>
    Keeps.pure _
  refine Keeps.bind (twibootReadIdentity_keeps hJ haddr) fun first => Keeps.ite (fun _ => ?_)
    fun _ => ?_
  · exact Keeps.bind (Keeps.pure _) hend
  · exact Keeps.bind (twibootReadIdentity_keeps hJ haddr) hend

/-- A task that may talk to the drivable ones of `units`. -/
def DrivesOnly (S : Nat → Prop) (J : Board ρ → Prop) (units : List (Fin UNITS_AMOUNT)) : Prop :=
  ∀ b, J b → ∀ i ∈ units, unitDrivable b.units[i] = true → S (toI2cAddress i)

omit hJ in
theorem DrivesOnly.head {i : Fin UNITS_AMOUNT} {rest : List (Fin UNITS_AMOUNT)}
    (h : DrivesOnly S J (i :: rest)) {b : Board ρ} (hb : J b)
    (hdrive : unitDrivable b.units[i] = true) : S (toI2cAddress i) :=
  h b hb i (List.mem_cons_self ..) hdrive

omit hJ in
theorem DrivesOnly.tail {i : Fin UNITS_AMOUNT} {rest : List (Fin UNITS_AMOUNT)}
    (h : DrivesOnly S J (i :: rest)) : DrivesOnly S J rest :=
  fun b hb j hj => h b hb j (List.mem_cons_of_mem i hj)

theorem anyMoving_keeps {watched : List (Fin UNITS_AMOUNT)} (hwatch : DrivesOnly S J watched) :
    Keeps J (anyMoving watched : BoardTask ρ κ Bool) := by
  induction watched with
  | nil => exact Keeps.pure _
  | cons i rest ih =>
      have hrest := ih hwatch.tail
      refine Keeps.bind_get fun b hb => Keeps.ite (fun hdrive => ?_) fun _ => hrest
      refine Keeps.bind (unitMovingStatus_keeps hJ (hwatch.head hb hdrive)) fun _ => ?_
      exact Keeps.ite (fun _ => Keeps.pure _) fun _ => hrest

/-- The units a tracker polls. -/
def Tracks (S : Nat → Prop) (movers : MotionTracker) : Prop :=
  ∀ m ∈ movers, S (toI2cAddress m.1)

theorem pollMovers_sat {movers : MotionTracker} (htrack : Tracks S movers) :
    Sat J (pollMovers movers : BoardTask ρ κ MotionTracker) (fun kept b => J b ∧ Tracks S kept)
      J := by
  induction movers with
  | nil => exact Sat.pure _ fun b hb => ⟨hb, htrack⟩
  | cons m rest ih =>
      have hfirst := htrack m (List.mem_cons_self ..)
      refine Sat.bind (ih fun n hn => htrack n (List.mem_cons_of_mem m hn)) fun kept =>
        Sat.fact fun hkept => ?_
      refine Sat.bind (unitMovingStatus_keeps hJ hfirst) fun reply => ?_
      refine Sat.bind millis_keeps fun now => Sat.pure _ fun b hb => ⟨hb, ?_⟩
      split
      · exact hkept
      · intro n hn
        rcases List.mem_cons.mp hn with rfl | hn
        · exact hfirst
        · exact hkept n hn

variable {abort : BoardTask ρ κ Bool} (habort : Keeps J abort)
include habort

theorem waitForStop_keeps {watched : List (Fin UNITS_AMOUNT)} (hwatch : DrivesOnly S J watched) :
    Keeps J (waitForStop abort watched) := by
  refine Keeps.bind millis_keeps fun waitStart => Keeps.whileTrue ?_
  refine Keeps.bind (anyMoving_keeps hJ hwatch) fun _ => Keeps.ite (fun _ => ?_) fun _ =>
    Keeps.pure _
  refine Keeps.bind habort fun _ => Keeps.ite (fun _ => Keeps.pure _) fun _ => ?_
  refine Keeps.bind millis_keeps fun now => Keeps.ite (fun _ => Keeps.pure _) fun _ => ?_
  exact Keeps.bind (delay_keeps hJ _) fun _ => Keeps.pure _

theorem admitMotion_keeps : Keeps J (admitMotion abort) := by
  refine Keeps.bind millis_keeps fun holdStart => Keeps.bind (Keeps.whileTrue ?_) fun _ => ?_
  · refine Keeps.bind (outside_keeps hJ) fun radio => Keeps.ite (fun _ => Keeps.pure _) fun _ => ?_
    refine Keeps.bind habort fun _ => Keeps.ite (fun _ => Keeps.pure _) fun _ => ?_
    refine Keeps.bind millis_keeps fun now => Keeps.ite (fun _ => Keeps.pure _) fun _ => ?_
    exact Keeps.bind (delay_keeps hJ _) fun _ => Keeps.pure _
  · exact Keeps.bind habort fun _ => Keeps.pure _

/-- What is free after the wait was tracked before it. -/
theorem waitForMotionSlot_sat {movers : MotionTracker} (htrack : Tracks S movers) :
    Sat J (waitForMotionSlot abort movers)
      (fun free b => J b ∧ ∀ m, free = some m → Tracks S m) J := by
  unfold waitForMotionSlot
  refine Sat.pre (Sat.iter (I := fun (movers : MotionTracker) b => J b ∧ Tracks S movers) ?_
    (fun _ _ h => h.1) movers) fun b hb => ⟨hb, htrack⟩
  intro movers
  refine Sat.fact fun htrack => ?_
  refine Sat.bind (R := fun _ b => J b) Keeps.get fun b => Sat.ite (fun _ => ?_) fun _ => ?_
  · exact Sat.pure _ fun b hb => ⟨hb, fun m hm => Option.some.inj hm ▸ htrack⟩
  · refine Sat.bind habort fun stop => Sat.ite (fun _ => ?_) fun _ => ?_
    · exact Sat.pure _ fun b hb => ⟨hb, nofun⟩
    · refine Sat.bind (pollMovers_sat hJ htrack) fun kept => Sat.fact fun hkept => ?_
      refine Sat.ite (fun _ => ?_) fun _ => ?_
      · exact Sat.pure _ fun b hb => ⟨hb, fun m hm => Option.some.inj hm ▸ hkept⟩
      · exact Sat.bind (delay_keeps hJ 50) fun _ => Sat.pure _ fun b hb => ⟨hb, hkept⟩

omit hJ habort in
theorem Tracks.add {movers : MotionTracker} (htrack : Tracks S movers) {i : Fin UNITS_AMOUNT}
    (haddr : S (toI2cAddress i)) (nowMs : UInt32) : Tracks S (motionTrackerAdd movers i nowMs) := by
  unfold motionTrackerAdd
  split
  · intro m hm
    rcases List.mem_append.mp hm with hm | hm
    · exact htrack m hm
    · rw [List.mem_singleton.mp hm]
      exact haddr
  · exact htrack

theorem writeLetters_keeps (letters : Fin UNITS_AMOUNT → UInt8) (speed : UInt8)
    {written : List (Fin UNITS_AMOUNT)} (hwrite : DrivesOnly S J written) {movers : MotionTracker}
    (htrack : Tracks S movers) (commanded : Nat) :
    Keeps J (writeLetters abort letters speed written movers commanded) := by
  induction written generalizing movers commanded with
  | nil => exact Keeps.pure _
  | cons i rest ih =>
      refine Keeps.bind_get fun b hb => Keeps.ite (fun hdrive => ?_) fun _ =>
        ih hwrite.tail htrack _
      have haddr := hwrite.head hb hdrive
      refine Keeps.bind_sat (waitForMotionSlot_sat hJ habort htrack) fun slot hslot => ?_
      cases slot with
      | none => exact Keeps.pure _
      | some free =>
          have hletter : Keeps J (do
              let _ ← unitWriteLetter (toI2cAddress i) (letters i) speed
              let now ← millis
              writeLetters abort letters speed rest (motionTrackerAdd free i now)
                (commanded + 1)) := by
            refine Keeps.bind (unitWriteLetter_keeps hJ _ _ haddr) fun _ => ?_
            exact Keeps.bind millis_keeps fun now =>
              ih hwrite.tail ((hslot free rfl).add haddr now) _
          refine Keeps.ite (fun _ => ?_) fun _ => hletter
          exact Keeps.bind (delay_keeps hJ _) fun _ => hletter

theorem resendLetters_keeps (letters : Fin UNITS_AMOUNT → UInt8) (speed : UInt8)
    {written : List (Fin UNITS_AMOUNT)} (hwrite : DrivesOnly S J written) {movers : MotionTracker}
    (htrack : Tracks S movers) (resent : Nat) :
    Keeps J (resendLetters abort letters speed written movers resent) := by
  induction written generalizing movers resent with
  | nil => exact Keeps.pure _
  | cons i rest ih =>
      refine Keeps.bind_get fun b hb => Keeps.ite (fun hdrive => ?_) fun _ =>
        ih hwrite.tail htrack _
      have haddr := hwrite.head hb hdrive
      refine Keeps.bind (unitQuery_keeps hJ _ haddr) fun shown => Keeps.ite (fun _ => ?_) fun _ =>
        ih hwrite.tail htrack _
      refine Keeps.bind_sat (waitForMotionSlot_sat hJ habort htrack) fun slot hslot => ?_
      cases slot with
      | none => exact Keeps.pure _
      | some free =>
          refine Keeps.bind (unitWriteLetter_keeps hJ _ _ haddr) fun _ => ?_
          exact Keeps.bind millis_keeps fun now =>
            ih hwrite.tail ((hslot free rfl).add haddr now) _

/-- A frame talks to the drivable units of the row. -/
theorem writeFrame_keeps {watched written : List (Fin UNITS_AMOUNT)}
    (letters : Fin UNITS_AMOUNT → UInt8) (speed : UInt8) (hwatch : DrivesOnly S J watched)
    (hwrite : DrivesOnly S J written) :
    Keeps J (writeFrame abort watched written letters speed) := by
  have hstop := waitForStop_keeps hJ habort hwatch
  refine Keeps.bind hstop fun _ => Keeps.bind (admitMotion_keeps hJ habort) fun _ =>
    Keeps.ite (fun _ => ?_) fun _ => Keeps.pure _
  refine Keeps.bind (writeLetters_keeps hJ habort letters speed hwrite (List.forall_mem_nil _) 0) fun whole => ?_
  refine Keeps.bind hstop fun _ => Keeps.ite (fun _ => ?_) fun _ => Keeps.pure _
  refine Keeps.bind (resendLetters_keeps hJ habort letters speed hwrite (List.forall_mem_nil _) 0) fun resent => ?_
  exact Keeps.ite (fun _ => hstop) fun _ => Keeps.pure _

end Keeps

end SplitFlap.Bus
