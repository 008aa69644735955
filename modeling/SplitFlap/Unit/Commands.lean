/-
  SplitFlap.Unit.Commands — what a unit keeps, and what a received frame does to it.

  `receiveLetter` runs in the bus interrupt: a frame of two bytes whose first
  one names a flap commands a letter, a first byte from `AMOUNTFLAPS` on is an
  opcode, and what an opcode asks for is left in a `pending` flag for `loop()`.

  Beside the sketch's own fields stands what no unit has and a proof needs:
  how far the drum really is (`turned`), what was heard and done about letters
  (`history`, newest first), whether a letter came that `loop()` has not looked
  at (`unread`), and where each successful seek left the drum (`homings`).
-/
import SplitFlap.Lib.Task
import SplitFlap.Unit.Drift
import SplitFlap.Unit.Twiboot

namespace SplitFlap

namespace Motion

open SplitFlap.Unit (SFP_CMD_REBOOT)

/-! ## §1. The sketch's state. -/

/-- `UnitHomePolicy.h`: the retries of a home that failed. -/
structure HomeBackoff where
  consecutiveFails : UInt8 := 0
  lastFailEndMs : UInt32 := 0
  deriving DecidableEq

structure SupplyWait where
  waiting : Bool := false
  held : Bool := false
  sinceMs : UInt32 := 0
  deriving DecidableEq

inductive HallExpectation where
  | unknown | low | high
  deriving DecidableEq

structure IdleHallCheck where
  streak : UInt8 := 0
  expectation : HallExpectation := .unknown
  deriving DecidableEq

/-- What bears on the letter a unit owes. -/
inductive Event where
  | letter (index : Nat)
  | home
  | homeTaken
  | homeRefused
  | testBegun
  | testFailed
  | blanked
  deriving DecidableEq

/-- Where a successful seek left the drum, and where it believed to be. -/
structure Homing where
  turned : Int
  calOffset : Int16
  drumPosition : UInt16
  deriving DecidableEq

/-- What a frame asked for and `loop()` has not done yet. -/
structure Pending where
  bootloader : Bool := false
  offsetWrite : Bool := false
  offsetValue : Int16 := 0
  gatesWrite : Bool := false
  gatesValue : UInt8 := 0
  bootUpdate : Bool := false
  home : Bool := false
  jogSteps : Int8 := 0
  setAddress : Bool := false
  addressValue : UInt8 := 0
  clearAddress : Bool := false
  odometerReset : Bool := false
  selfTest : Bool := false
  identify : Bool := false
  deriving DecidableEq

/-- What the boot self-home is decided from. -/
structure BootHome where
  bootHomeAttempted : Bool := false
  masterEverContacted : Bool := false
  dipIndex : UInt8 := 0
  bootHomeJitterMs : UInt16 := 0

/-- `loop()`'s own clocks. -/
structure Clocks where
  previousMillis : UInt32 := 0
  identifyStartMs : UInt32 := 0
  lastAutoRehomeMs : UInt32 := 0
  vitalsLastSampleMs : UInt32 := 0
  idleHallLastSampleMs : UInt32 := 0

/-- The idle hall check, the window it was measured under and what came of it. -/
structure IdleHall where
  check : IdleHallCheck := {}
  selfTestLastHallWindow : UInt16 := 0
  futileRehomes : UInt8 := 0
  armedRehome : Bool := false

structure UnitState where
  displayedLetter : Nat := 0
  receivedNumber : Nat := 0
  /-- In 45ths of a step. -/
  missedSteps : Nat := 0
  calOffset : Int16 := 0
  drift : DriftState := {}
  currentlyrotating : Bool := false
  homed : Bool := false
  homeBackoff : HomeBackoff := {}
  lastRotation : UInt32 := 0
  supplyWait : SupplyWait := {}
  supplyIdleLevelMv : UInt16 := 0
  featureGates : UInt8 := 0
  boot : BootHome := {}
  clocks : Clocks := {}
  idleHall : IdleHall := {}
  pending : Pending := {}
  turned : Int := 0
  history : List Event := []
  unread : Bool := false
  homings : List Homing := []

/-! ## §2. The commands. -/

abbrev SFP_CMD_ENTER_BOOTLOADER : UInt8 := 0x80
abbrev SFP_CMD_HOME : UInt8 := 0x90
abbrev SFP_CMD_JOG : UInt8 := 0x91
abbrev SFP_CMD_SET_OFFSET : UInt8 := 0x93
abbrev SFP_CMD_SET_I2C_ADDRESS : UInt8 := 0x94
abbrev SFP_CMD_CLEAR_I2C_ADDRESS : UInt8 := 0x95
abbrev SFP_CMD_IDENTIFY : UInt8 := 0x96
abbrev SFP_CMD_RESET_ODOMETER : UInt8 := 0x97
abbrev SFP_CMD_START_SELF_TEST : UInt8 := 0x98
abbrev SFP_CMD_SET_GATES : UInt8 := 0x99
abbrev SFP_CMD_BOOT_UPDATE : UInt8 := 0x9A

abbrev UNIT_GATE_IDLE_HALL_CHECK : UInt8 := 0x01
abbrev UNIT_GATE_STRICT_OPCODES : UInt8 := 0x04
abbrev UNIT_GATE_SUPPLY_WAIT : UInt8 := 0x08
abbrev UNIT_GATE_ALL : UInt8 := 0x1D

def unitGateEnabled (gates gate : UInt8) : Bool := gates &&& gate ≠ 0

def unitGateBitsKnown (gates : UInt8) : Bool := gates &&& ~~~UNIT_GATE_ALL = 0

def sfpIsNoArgMutation (opcode : UInt8) : Bool :=
  opcode = SFP_CMD_ENTER_BOOTLOADER ∨ opcode = SFP_CMD_HOME ∨ opcode = SFP_CMD_REBOOT ∨
    opcode = SFP_CMD_CLEAR_I2C_ADDRESS ∨ opcode = SFP_CMD_IDENTIFY ∨
    opcode = SFP_CMD_RESET_ODOMETER ∨ opcode = SFP_CMD_START_SELF_TEST

/-- A bare command is taken unless the strict gate is on; one with bytes behind
it only with its complement and nothing else. -/
def noArgMutationAccepted (opcode : UInt8) (strict : Bool) : List UInt8 → Bool
  | [] => !strict || opcode = SFP_CMD_ENTER_BOOTLOADER
  | [guard] => guard = ~~~opcode
  | _ => false

def word16 (low high : UInt8) : UInt16 := low.toUInt16 ||| (high.toUInt16 <<< 8)

def setOffsetDecode : List UInt8 → Option Int16
  | b0 :: b1 :: b2 :: b3 :: _ =>
      if word16 b2 b3 = ~~~word16 b0 b1 then some (word16 b0 b1).toInt16 else none
  | _ => none

/-- A byte and its complement: SET_I2C_ADDRESS, SET_GATES and BOOT_UPDATE. -/
def complementedByte : List UInt8 → Option UInt8
  | b :: comp :: _ => if comp = ~~~b then some b else none
  | _ => none

def jogDecode (strict : Bool) : List UInt8 → Option Int8
  | [steps] => if strict then none else some steps.toInt8
  | [steps, comp] => if comp = ~~~steps then some steps.toInt8 else none
  | _ => none

def offsetInRange (offset : Int16) : Bool := -2038 ≤ offset ∧ offset ≤ 2038

/-- The switch over the opcodes; one that only asks for a reply, and one that
is refused, leaves all of this as it is. -/
def command (strict : Bool) (p : Pending) (opcode : UInt8) (args : List UInt8) : Pending :=
  if sfpIsNoArgMutation opcode ∧ noArgMutationAccepted opcode strict args = false then p
  else if opcode = SFP_CMD_ENTER_BOOTLOADER ∨ opcode = SFP_CMD_REBOOT then
    { p with bootloader := true }
  else if opcode = SFP_CMD_START_SELF_TEST then { p with selfTest := true }
  else if opcode = SFP_CMD_SET_OFFSET then
    match setOffsetDecode args with
    | some offset =>
        if offsetInRange offset then { p with offsetValue := offset, offsetWrite := true } else p
    | none => p
  else if opcode = SFP_CMD_JOG then
    match jogDecode strict args with
    | some steps => { p with jogSteps := steps }
    | none => p
  else if opcode = SFP_CMD_HOME then { p with home := true }
  else if opcode = SFP_CMD_SET_I2C_ADDRESS then
    match complementedByte args with
    | some v => { p with addressValue := v, setAddress := true }
    | none => p
  else if opcode = SFP_CMD_CLEAR_I2C_ADDRESS then { p with clearAddress := true }
  else if opcode = SFP_CMD_IDENTIFY then { p with identify := true }
  else if opcode = SFP_CMD_RESET_ODOMETER then { p with odometerReset := true }
  else if opcode = SFP_CMD_SET_GATES then
    match complementedByte args with
    | some v => if unitGateBitsKnown v then { p with gatesValue := v, gatesWrite := true } else p
    | none => p
  else if opcode = SFP_CMD_BOOT_UPDATE then
    match complementedByte args with
    | some stage => if stage = 1 ∨ stage = 2 then { p with bootUpdate := true } else p
    | none => p
  else p

/-- A frame that is a HOME the switch takes up. -/
def isHome (strict : Bool) (opcode : UInt8) (args : List UInt8) : Bool :=
  opcode = SFP_CMD_HOME ∧ noArgMutationAccepted opcode strict args = true

def receiveCommand (s : UnitState) (opcode : UInt8) (args : List UInt8) : UnitState :=
  let strict := unitGateEnabled s.featureGates UNIT_GATE_STRICT_OPCODES
  let pending := command strict s.pending opcode args
  let history := if isHome strict opcode args then .home :: s.history else s.history
  { s with pending, history }

/-- A frame off the bus, an empty one being a bare probe. -/
def receiveLetter (s : UnitState) : List UInt8 → UnitState
  | [] => s
  | firstByte :: args =>
      let s := { s with boot := { s.boot with masterEverContacted := true } }
      if AMOUNTFLAPS ≤ firstByte then receiveCommand s firstByte args
      else
        -- a letter is exactly two bytes, anything else is a probe or malformed
        match args with
        | [_speed] =>
            { s with
              receivedNumber := firstByte.toNat, unread := true
              history := .letter firstByte.toNat :: s.history }
        | _ => s

/-! ## §3. What a frame leaves alone. -/

/-- A frame off the bus reaches the `pending` fields, the commanded letter and
`masterEverContacted`; what the drum, its beliefs and the retries have to do
with, it does not reach. -/
structure Heard (s s' : UnitState) : Prop where
  displayedLetter : s'.displayedLetter = s.displayedLetter
  missedSteps : s'.missedSteps = s.missedSteps
  calOffset : s'.calOffset = s.calOffset
  drift : s'.drift = s.drift
  currentlyrotating : s'.currentlyrotating = s.currentlyrotating
  homed : s'.homed = s.homed
  homeBackoff : s'.homeBackoff = s.homeBackoff
  turned : s'.turned = s.turned
  homings : s'.homings = s.homings

theorem Heard.refl (s : UnitState) : Heard s s := ⟨rfl, rfl, rfl, rfl, rfl, rfl, rfl, rfl, rfl⟩

theorem Heard.trans {s s' s'' : UnitState} (h : Heard s s') (h' : Heard s' s'') : Heard s s'' where
  displayedLetter := h'.displayedLetter.trans h.displayedLetter
  missedSteps := h'.missedSteps.trans h.missedSteps
  calOffset := h'.calOffset.trans h.calOffset
  drift := h'.drift.trans h.drift
  currentlyrotating := h'.currentlyrotating.trans h.currentlyrotating
  homed := h'.homed.trans h.homed
  homeBackoff := h'.homeBackoff.trans h.homeBackoff
  turned := h'.turned.trans h.turned
  homings := h'.homings.trans h.homings

theorem receiveLetter_heard (s : UnitState) (frame : List UInt8) :
    Heard s (receiveLetter s frame) := by
  unfold receiveLetter
  dsimp only
  split
  · exact Heard.refl s
  · split
    · exact ⟨rfl, rfl, rfl, rfl, rfl, rfl, rfl, rfl, rfl⟩
    · split <;> exact ⟨rfl, rfl, rfl, rfl, rfl, rfl, rfl, rfl, rfl⟩

theorem frames_heard (s : UnitState) (frames : List (List UInt8)) :
    Heard s (frames.foldl receiveLetter s) := by
  induction frames generalizing s with
  | nil => exact Heard.refl s
  | cons frame rest ih => exact (receiveLetter_heard s frame).trans (ih _)

end Motion

end SplitFlap
