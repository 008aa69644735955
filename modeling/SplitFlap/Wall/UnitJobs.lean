/-
  SplitFlap.Wall.UnitJobs — one unit job, on the master's own row or on a row board.

  `WallJobs.h` builds the job from what the operator asked for; `WebWall.cpp`
  checks it against the master's own units and makes a display command of it;
  `FollowerLinkOps.h` checks it against a row board's units and plans it.  The
  two paths take the checks of `MaintenancePolicy.h` at different places, and
  come to the same (`same_jobs`): a value is judged once when the job is built,
  and again by the row board.
-/
import SplitFlap.Board.UnitBus
import SplitFlap.Lib.Strtol
import SplitFlap.Link.Names
import SplitFlap.Wall.Layout

namespace SplitFlap

open Bus Strtol

/-! ## §1. The shared checks. -/

abbrev SFP_OFFSET_LIMIT_STEPS : Int := 2038

/-- The four gates some unit firmware has code for. -/
abbrev SFP_UNIT_GATE_IMPLEMENTED : UInt32 := 0x01 ||| 0x04 ||| 0x08 ||| 0x10

/-- 200 is a pass; anything else is refused with the message. -/
structure MaintVerdict where
  httpStatus : Nat := 200
  message : String := ""
  deriving Repr, DecidableEq

variable {n : Nat}

/-- `maintValidateAddress`: the verdict, and the address of a pass. -/
def maintValidateAddress (raw : Option CStr) (units : Vector UnitFacts n) : MaintVerdict × Int :=
  match raw with
  | none => ({ httpStatus := 400, message := "Missing 'address' query param" }, 0)
  | some raw =>
      match strtol 0 raw with
      | none => ({ httpStatus := 400, message := "Address must be a number" }, 0)
      | some (parsed, _) =>
          if parsed < 1 || parsed > 126 then
            ({ httpStatus := 400, message := "Address must be 1..126" }, 0)
          else
            match units[(parsed - SFP_I2C_ADDRESS_BASE).toNat]? with
            | none => ({ httpStatus := 404, message := "No sketch-running unit at that address" }, 0)
            | some u =>
                if u.state ≠ 1 then
                  ({ httpStatus := 404, message := "No sketch-running unit at that address" }, 0)
                else if !unitDrivable u then
                  ({ httpStatus := 409
                     message := "Unit reports an unrecognised protocol version — reflash it" }, 0)
                else ({}, parsed)

def maintValidateOffset (value : Int) : MaintVerdict :=
  if value < -SFP_OFFSET_LIMIT_STEPS || value > SFP_OFFSET_LIMIT_STEPS then
    { httpStatus := 400, message := "Offset must be within +/-2038 steps (one revolution)" }
  else {}

def maintValidateJog (steps : Int) : MaintVerdict :=
  if steps < -127 || steps > 127 then
    { httpStatus := 400, message := "Steps must be -127..127" }
  else {}

def maintValidateGates (gates : Int) : MaintVerdict :=
  if gates < 0 || gates > 255 then
    { httpStatus := 400, message := "Gates must be a 0..255 bit mask" }
  else if UInt32.ofNat gates.toNat &&& ~~~SFP_UNIT_GATE_IMPLEMENTED ≠ 0 then
    { httpStatus := 400, message := "Gates contain bits no unit firmware implements" }
  else {}

/-- Within the row, and free unless it is the unit's own. -/
def maintValidateSetAddressTarget (target currentAddr : Int) (units : Vector UnitFacts n) :
    MaintVerdict :=
  if target < 1 || target > n then
    { httpStatus := 400, message := "Address must be within the managed unit range" }
  else if target ≠ currentAddr &&
      units[(target - SFP_I2C_ADDRESS_BASE).toNat]?.any (·.state ≠ 0) then
    { httpStatus := 409, message := "Target address is already occupied on the bus" }
  else {}

def reflashAddressInRange (addr base maxUnits : Int) : Bool := addr ≥ base && addr < base + maxUnits

/-! ## §2. The jobs. -/

inductive WallJobUnit where
  /-- A job on the whole row. -/
  | none
  | one
  /-- Without a unit: every unit that needs it. -/
  | oneOrAll
  deriving Repr, DecidableEq

/-- What a job needs; `arg` is the key of the value it reads. -/
structure WallJobKind where
  name : String
  opcode : WlOpCode
  unit : WallJobUnit
  arg : Option String := none
  argRequired : Bool := false
  deriving Repr, DecidableEq

def WALL_JOB_KINDS : List WallJobKind :=
  [{ name := "home", opcode := .home, unit := .one },
    { name := "identify", opcode := .identify, unit := .one },
    { name := "jog", opcode := .jog, unit := .one, arg := "steps", argRequired := true },
    { name := "set-offset", opcode := .setOffset, unit := .one, arg := "offset",
      argRequired := true },
    { name := "self-test", opcode := .selfTest, unit := .one },
    { name := "restart-unit", opcode := .restartUnit, unit := .one },
    { name := "reset-odometer", opcode := .resetOdometer, unit := .one },
    { name := "set-gates", opcode := .setGates, unit := .one, arg := "gates",
      argRequired := true },
    { name := "boot-info", opcode := .bootInfo, unit := .one },
    { name := "boot-dump", opcode := .bootDump, unit := .one },
    { name := "boot-update", opcode := .bootUpdate, unit := .one },
    { name := "update-units", opcode := .updateUnits, unit := .oneOrAll, arg := "force" },
    { name := "probe", opcode := .probe, unit := .none },
    { name := "set-address", opcode := .setAddress, unit := .one, arg := "address",
      argRequired := true },
    { name := "clear-address", opcode := .clearAddress, unit := .one },
    { name := "home-all", opcode := .homeAll, unit := .none }]

/-- The unit a job is for, 0 for a whole row. -/
def wallJobAddress (kind : WallJobUnit) : (unit : Option Int) → Except String UInt32
  | some unit =>
      if kind = .none then .error "this job is for the whole row: leave target.unit out"
      else if unit < 1 || unit > 126 then .error "target.unit is the unit's address, 1 to 126"
      else .ok (UInt32.ofNat unit.toNat)
  | none =>
      if kind = .one then .error "target.unit is required: the unit's address" else .ok 0

def MaintVerdict.passed (verdict : MaintVerdict) : Except String Unit :=
  if verdict.httpStatus ≠ 200 then .error verdict.message else .ok ()

/-- What a value is held to before any row sees it. -/
def wallJobValue (opcode : WlOpCode) (haveUnit : Bool) (arg : Int) : Except String Unit :=
  match opcode with
  | .jog => (maintValidateJog arg).passed
  | .setOffset => (maintValidateOffset arg).passed
  | .setGates => (maintValidateGates arg).passed
  | .setAddress =>
      if arg < 1 || arg > 126 then .error "args.address is the new address, 1 to 126" else .ok ()
  | .updateUnits =>
      if arg ≠ 0 && arg ≠ 1 then .error "args.force is 1 or 0"
      else if arg = 1 && !haveUnit then
        .error "args.force needs target.unit: one unit at a time"
      else .ok ()
  | _ => .ok ()

/-- `wallJobBuild`: the job, all but its number, or why not. -/
def wallJobBuild (kind : WallJobKind) (unit arg : Option Int) : Except String WlOp :=
  match wallJobAddress kind.unit unit with
  | .error message => .error message
  | .ok address =>
      let op : WlOp := { opcode := kind.opcode, address := address }
      if kind.arg = none then
        if arg.isSome then .error "this job takes no args" else .ok op
      else
        match arg with
        | none => if kind.argRequired then .error "this job needs its value under args" else .ok op
        | some arg =>
            match wallJobValue kind.opcode unit.isSome arg with
            | .error message => .error message
            | .ok () => .ok { op with arg := Int32.ofInt arg }

/-! ## §3. On the master's own row. -/

/-- `checkOwnUnit`: nothing, or the status and the message of a refusal. -/
def checkOwnUnit (kind : WallJobKind) (op : WlOp) (units : Vector UnitFacts n) :
    Except (Nat × String) Unit :=
  if op.address = 0 || kind.opcode = .restartUnit then .ok ()
  else if kind.opcode = .updateUnits then
    if reflashAddressInRange op.address.toNat SFP_I2C_ADDRESS_BASE n then .ok ()
    else .error (400, "target.unit is not an address this row can hold")
  else
    let found := maintValidateAddress (decimal op.address.toNat) units
    let verdict :=
      if found.1.httpStatus = 200 && kind.opcode = .setAddress then
        maintValidateSetAddressTarget op.arg.toInt found.2 units
      else found.1
    if verdict.httpStatus = 200 then .ok () else .error (verdict.httpStatus, verdict.message)

namespace OwnRow

inductive DisplayOpcode where
  | showText
  | probe
  | writeOffset
  | jog
  | home
  | rebootToBootloader
  | identify
  | setAddress
  | clearAddress
  | resetOdometer
  | setGates
  | selfTest
  | bootDump
  | bootUpdate
  | bootInfo
  | resetUnits
  | reflashUnits
  deriving Repr, DecidableEq

structure DisplayCommand where
  opcode : DisplayOpcode
  alignment : DisplayAlignment := .left
  speed : UInt8 := 0
  seq : UInt32 := 0
  unitAddress : UInt8 := 0
  value : Int16 := 0
  text : CStr := []
  deriving Repr, DecidableEq

/-- The text on the flaps, and how it is set. -/
structure Shown where
  currentText : CStr := []
  alignment : CStr := []
  flapSpeed : Int := 1

def truncateForDisplay (text : CStr) : CStr := text.take UNITS_AMOUNT

def makeShowTextCommand (shown : Shown) : DisplayCommand where
  opcode := .showText
  alignment := displayAlignmentFromString shown.alignment
  speed := UInt8.ofNat (max 1 (min 100 shown.flapSpeed)).toNat
  text := truncateForDisplay shown.currentText

def makeProbeCommand : DisplayCommand := { opcode := .probe }

def makeMaintCommand (op : DisplayOpcode) (seq : UInt32) (unitAddress : UInt8) (value : Int16) :
    DisplayCommand :=
  { opcode := op, seq := seq, unitAddress := unitAddress, value := value }

def makeJogCommand (seq : UInt32) (addr : UInt8) (steps : Int) : DisplayCommand :=
  makeMaintCommand .jog seq addr (Int16.ofInt (max (-127) (min 127 steps)))

def makeSetAddressCommand (seq : UInt32) (addr newAddress : UInt8) : DisplayCommand :=
  makeMaintCommand .setAddress seq addr (Int16.ofNat newAddress.toNat)

def makeSetGatesCommand (seq : UInt32) (addr gates : UInt8) : DisplayCommand :=
  makeMaintCommand .setGates seq addr (Int16.ofNat gates.toNat)

def makeResetUnitsCommand (seq : UInt32) (shown : Shown) : DisplayCommand :=
  { makeShowTextCommand shown with opcode := .resetUnits, seq := seq }

/-- `force` means nothing without an address. -/
def makeReflashUnitsCommand (seq : UInt32) (shown : Shown) (addr : UInt8) (force : Bool) :
    DisplayCommand :=
  { makeShowTextCommand shown with
    opcode := .reflashUnits
    seq := seq
    unitAddress := addr
    value := if force && addr ≠ 0 then 1 else 0 }

end OwnRow

open OwnRow

/-- `(uint8_t)` of a number that may be negative. -/
def byteOf (value : Int32) : UInt8 := UInt8.ofNat (value.toInt % 256).toNat

/-- `ownCommand`: the display command of a job on the master's own units. -/
def ownCommand (op : WlOp) (seq : UInt32) (shown : Shown) : OwnRow.DisplayCommand :=
  let unit := op.address.toUInt8
  match op.opcode with
  | .home => makeMaintCommand .home seq unit 0
  | .identify => makeMaintCommand .identify seq unit 0
  | .jog => makeJogCommand seq unit op.arg.toInt
  | .setOffset => makeMaintCommand .writeOffset seq unit (Int16.ofInt op.arg.toInt)
  | .selfTest => makeMaintCommand .selfTest seq unit 0
  | .restartUnit => makeMaintCommand .rebootToBootloader seq unit 0
  | .resetOdometer => makeMaintCommand .resetOdometer seq unit 0
  | .setGates => makeSetGatesCommand seq unit (byteOf op.arg)
  | .bootInfo => makeMaintCommand .bootInfo seq unit 0
  | .bootDump => makeMaintCommand .bootDump seq unit 0
  | .bootUpdate => makeMaintCommand .bootUpdate seq unit 0
  | .updateUnits => makeReflashUnitsCommand seq shown unit (op.arg ≠ 0)
  | .setAddress => makeSetAddressCommand seq unit (byteOf op.arg)
  | .clearAddress => makeMaintCommand .clearAddress seq unit 0
  | .homeAll => makeResetUnitsCommand seq shown
  | _ => makeProbeCommand

/-! ## §4. On a row board. -/

inductive FollowerOpKind where
  | none
  | writeOffset
  | jog
  | home
  | identify
  | resetOdometer
  | selfTest
  | rebootToBootloader
  | setGates
  | reflashUnit
  | bootUpdate
  | bootInfo
  | bootDump
  | probe
  | setAddress
  | clearAddress
  | homeAll
  deriving Repr, DecidableEq

structure FollowerLinkOpPlan where
  refusal : WlOpRefusal := .none
  kind : FollowerOpKind := .none
  addr : UInt8 := 0
  arg : Int := 0
  deriving Repr, DecidableEq

def followerLinkCheckUnit (address : UInt32) (units : Vector UnitFacts n) : WlOpRefusal :=
  match (maintValidateAddress (decimal address.toNat) units).1.httpStatus with
  | 200 => .none
  | 404 => .noUnit
  | 409 => .unitProtocol
  | _ => .badAddress

/-- A job on one running unit, with the check its argument takes. -/
def onUnit (address : UInt32) (arg : Int) (units : Vector UnitFacts n) (kind : FollowerOpKind)
    (argVerdict : MaintVerdict) : FollowerLinkOpPlan :=
  let unit := followerLinkCheckUnit address units
  if unit ≠ .none then { refusal := unit }
  else if argVerdict.httpStatus ≠ 200 then { refusal := .badArg }
  else { kind := kind, addr := address.toUInt8, arg := arg }

/-- `followerLinkPlanOp`. -/
def followerLinkPlanOp (opcode : WlOpCode) (address : UInt32) (arg : Int)
    (units : Vector UnitFacts n) : FollowerLinkOpPlan :=
  match opcode with
  | .home => onUnit address arg units .home {}
  | .identify => onUnit address arg units .identify {}
  | .jog => onUnit address arg units .jog (maintValidateJog arg)
  | .setOffset => onUnit address arg units .writeOffset (maintValidateOffset arg)
  | .selfTest => onUnit address arg units .selfTest {}
  | .resetOdometer => onUnit address arg units .resetOdometer {}
  | .setGates => onUnit address arg units .setGates (maintValidateGates arg)
  | .bootInfo => onUnit address arg units .bootInfo {}
  | .bootDump => onUnit address arg units .bootDump {}
  | .bootUpdate => onUnit address arg units .bootUpdate {}
  | .restartUnit =>
      -- range only: the way back for a unit whose protocol is not spoken here
      if address < 1 || address > 126 then { refusal := .badAddress }
      else { kind := .rebootToBootloader, addr := address.toUInt8 }
  | .updateUnits =>
      if arg ≠ 0 && arg ≠ 1 then { refusal := .badArg }
      else if address = 0 && arg ≠ 0 then { refusal := .badArg }
      else if address ≠ 0 &&
          !reflashAddressInRange address.toNat SFP_I2C_ADDRESS_BASE n then
        { refusal := .badAddress }
      else { kind := .reflashUnit, addr := address.toUInt8, arg := arg }
  | .probe => { kind := .probe }
  | .setAddress =>
      let unit := followerLinkCheckUnit address units
      if unit ≠ .none then { refusal := unit }
      else
        match (maintValidateSetAddressTarget arg address.toNat units).httpStatus with
        | 200 => { kind := .setAddress, addr := address.toUInt8, arg := arg }
        | 409 => { refusal := .addressTaken }
        | _ => { refusal := .badArg }
  | .clearAddress => onUnit address arg units .clearAddress {}
  | .homeAll => { kind := .homeAll }
  | _ => { refusal := .unknownOp }

/-! ## §5. The checks, judged. -/

/-- A number printed and read back is what it was. -/
theorem strtol_decimal {a : Nat} (h : 0 < a) (hfits : (a : Int) ≤ LONG_MAX) :
    strtol 0 (decimal a) = some ((a : Int), []) := by
  have hdigits : ∀ c ∈ decimal a, 48 ≤ c ∧ c ≤ 57 := by
    intro c hc
    have hdigit := decimal_digits a c hc
    unfold isDigit at hdigit
    rw [Bool.and_eq_true, decide_eq_true_eq, decide_eq_true_eq] at hdigit
    exact hdigit
  rw [strtol_digits (Or.inl rfl) hdigits (decimal_ne_nil a) (decimal_head h)]
  have hvalue : (decimal a).foldl (fun value c => value * 10 + (c.toNat - 48)) 0 = a :=
    digitsValue_decimal a
  have hclamp : clampLong (a : Int) = a := by
    unfold clampLong
    rw [min_eq_right hfits]
    exact max_eq_right (Int.le_trans (by decide) (Int.natCast_nonneg a))
  rw [hvalue, hclamp]

/-- A pass hands back the address that was asked for. -/
theorem maintValidateAddress_pass {a : Nat} {units : Vector UnitFacts n} (h : 0 < a)
    (hfits : (a : Int) ≤ LONG_MAX)
    (hpass : (maintValidateAddress (decimal a) units).1.httpStatus = 200) :
    (maintValidateAddress (decimal a) units).2 = a := by
  unfold maintValidateAddress at hpass ⊢
  dsimp only at hpass ⊢
  rw [strtol_decimal h hfits] at hpass ⊢
  dsimp only at hpass ⊢
  split at hpass
  · exact absurd hpass (by decide)
  · next hrange =>
      rw [if_neg hrange]
      split at hpass
      · exact absurd hpass (by decide)
      · next u hu =>
          split at hpass
          · exact absurd hpass (by decide)
          · next hstate =>
              rw [if_neg hstate]
              split at hpass
              · exact absurd hpass (by decide)
              · next hdrivable => rw [if_neg hdrivable]

theorem followerLinkCheckUnit_none {address : UInt32} {units : Vector UnitFacts n} :
    followerLinkCheckUnit address units = .none ↔
      (maintValidateAddress (decimal address.toNat) units).1.httpStatus = 200 := by
  unfold followerLinkCheckUnit
  split
  · next h => exact iff_of_true rfl h
  · next h =>
      rw [h]
      decide
  · next h =>
      rw [h]
      decide
  · next h _ _ => exact iff_of_false (fun hno => (nomatch hno)) h

theorem jog_range {v : Int} (h : (maintValidateJog v).httpStatus = 200) : -127 ≤ v ∧ v ≤ 127 := by
  unfold maintValidateJog at h
  split at h
  · exact absurd h (by decide)
  · next hrange =>
      simp only [Bool.or_eq_true, decide_eq_true_eq, not_or] at hrange
      omega

theorem offset_range {v : Int} (h : (maintValidateOffset v).httpStatus = 200) :
    -2038 ≤ v ∧ v ≤ 2038 := by
  unfold maintValidateOffset at h
  split at h
  · exact absurd h (by decide)
  · next hrange =>
      simp only [Bool.or_eq_true, decide_eq_true_eq, not_or, SFP_OFFSET_LIMIT_STEPS] at hrange
      omega

theorem gates_range {v : Int} (h : (maintValidateGates v).httpStatus = 200) :
    0 ≤ v ∧ v ≤ 255 := by
  unfold maintValidateGates at h
  split at h
  · exact absurd h (by decide)
  · next hrange =>
      simp only [Bool.or_eq_true, decide_eq_true_eq, not_or] at hrange
      omega

theorem passed_ok {verdict : MaintVerdict} :
    verdict.passed = .ok () ↔ verdict.httpStatus = 200 := by
  unfold MaintVerdict.passed
  split
  · next h => exact iff_of_false (fun hno => (nomatch hno)) h
  · next h => exact iff_of_true rfl (Decidable.not_not.mp h)

/-- A small number fits every type it passes through. -/
theorem small_arg {v : Int} (h : -2038 ≤ v ∧ v ≤ 2038) :
    (Int32.ofInt v).toInt = v ∧ (Int16.ofInt v).toInt = v :=
  ⟨Int32.toInt_ofInt_of_le (by omega) (by omega), Int16.toInt_ofInt_of_le (by omega) (by omega)⟩

theorem byte_arg {v : Int} (h : 0 ≤ v ∧ v ≤ 255) :
    (Int32.ofInt v).toInt = v ∧ (Int16.ofNat (byteOf (Int32.ofInt v)).toNat).toInt = v := by
  have hwide := (small_arg (v := v) (by omega)).1
  have hbyte : (byteOf (Int32.ofInt v)).toNat = v.toNat := by
    unfold byteOf
    rw [hwide, UInt8.toNat_ofNat']
    omega
  refine ⟨hwide, ?_⟩
  rw [hbyte, Int16.toInt_ofNat_of_lt (by omega)]
  omega

/-! ## §6. A job that was built. -/

/-- The address of a built job, by what the job is for. -/
inductive AddressFits : WallJobUnit → Option Int → UInt32 → Prop
  | row {kind : WallJobUnit} (h : kind ≠ .one) : AddressFits kind none 0
  | unit {kind : WallJobUnit} {a : Int} (h : kind ≠ .none) (hrange : 1 ≤ a ∧ a ≤ 126) :
      AddressFits kind (some a) (UInt32.ofNat a.toNat)

theorem wallJobAddress_ok {kind : WallJobUnit} {unit : Option Int} {address : UInt32}
    (h : wallJobAddress kind unit = .ok address) : AddressFits kind unit address := by
  unfold wallJobAddress at h
  cases unit with
  | none =>
      dsimp only at h
      split at h
      · cases h
      · next hkind =>
          cases h
          exact .row hkind
  | some a =>
      dsimp only at h
      split at h
      · cases h
      · next hkind =>
          split at h
          · cases h
          · next hrange =>
              simp only [Bool.or_eq_true, decide_eq_true_eq, not_or] at hrange
              cases h
              exact .unit hkind (by omega)

/-- The value of a built job: none, or one that was judged. -/
inductive ArgFits (kind : WallJobKind) (haveUnit : Bool) : Int32 → Prop
  | absent (h : kind.arg = none ∨ kind.argRequired = false) : ArgFits kind haveUnit 0
  | given {v : Int} (hkind : kind.arg ≠ none) (h : wallJobValue kind.opcode haveUnit v = .ok ()) :
      ArgFits kind haveUnit (Int32.ofInt v)

/-- **What `wallJobBuild` accepts.** -/
theorem wallJobBuild_ok {kind : WallJobKind} {unit arg : Option Int} {op : WlOp}
    (h : wallJobBuild kind unit arg = .ok op) :
    op.opcode = kind.opcode ∧ AddressFits kind.unit unit op.address ∧
      ArgFits kind unit.isSome op.arg := by
  unfold wallJobBuild at h
  cases haddress : wallJobAddress kind.unit unit with
  | error message =>
      rw [haddress] at h
      cases h
  | ok address =>
      rw [haddress] at h
      have hfits := wallJobAddress_ok haddress
      dsimp only at h
      split at h
      · next hkind =>
          split at h
          · cases h
          · cases h
            exact ⟨rfl, hfits, .absent (Or.inl hkind)⟩
      · next hkind =>
          cases arg with
          | none =>
              dsimp only at h
              split at h
              · cases h
              · next hrequired =>
                  cases h
                  exact ⟨rfl, hfits, .absent (Or.inr (Bool.eq_false_iff.mpr hrequired))⟩
          | some v =>
              dsimp only at h
              cases hvalue : wallJobValue kind.opcode unit.isSome v with
              | error message =>
                  rw [hvalue] at h
                  cases h
              | ok _ =>
                  rw [hvalue] at h
                  cases h
                  exact ⟨rfl, hfits, .given hkind hvalue⟩

theorem AddressFits.one {unit : Option Int} {address : UInt32}
    (h : AddressFits .one unit address) : address ≠ 0 ∧ address.toNat ≤ 126 ∧ 0 < address.toNat := by
  cases h with
  | row h => exact absurd rfl h
  | @unit a _ hrange =>
      have hnat : (UInt32.ofNat a.toNat).toNat = a.toNat := by
        rw [UInt32.toNat_ofNat']
        omega
      refine ⟨?_, by omega, by omega⟩
      intro hzero
      have hzero : (UInt32.ofNat a.toNat).toNat = 0 := congrArg UInt32.toNat hzero
      omega

theorem ArgFits.zero {kind : WallJobKind} {haveUnit : Bool} {arg : Int32}
    (h : ArgFits kind haveUnit arg) (hkind : kind.arg = none) : arg = 0 := by
  cases h with
  | absent _ => rfl
  | given hsome _ => exact absurd hkind hsome

theorem ArgFits.judged {kind : WallJobKind} {haveUnit : Bool} {arg : Int32}
    (h : ArgFits kind haveUnit arg) (hkind : kind.arg ≠ none) (hrequired : kind.argRequired = true) :
    ∃ v, wallJobValue kind.opcode haveUnit v = .ok () ∧ arg = Int32.ofInt v := by
  cases h with
  | absent hnone =>
      rcases hnone with hnone | hnone
      · exact absurd hnone hkind
      · rw [hrequired] at hnone
        exact Bool.noConfusion hnone
  | given _ hvalue => exact ⟨_, hvalue, rfl⟩

/-! ## §7. One rule. -/

/-- The display's word for a row board's job. -/
def ownOpcode : FollowerOpKind → Option DisplayOpcode
  | .none => none
  | .writeOffset => some .writeOffset
  | .jog => some .jog
  | .home => some .home
  | .identify => some .identify
  | .resetOdometer => some .resetOdometer
  | .selfTest => some .selfTest
  | .rebootToBootloader => some .rebootToBootloader
  | .setGates => some .setGates
  | .reflashUnit => some .reflashUnits
  | .bootUpdate => some .bootUpdate
  | .bootInfo => some .bootInfo
  | .bootDump => some .bootDump
  | .probe => some .probe
  | .setAddress => some .setAddress
  | .clearAddress => some .clearAddress
  | .homeAll => some .resetUnits

/-- The row board's plan is the command of the master's own row. -/
def SamePlan (cmd : OwnRow.DisplayCommand) (plan : FollowerLinkOpPlan) : Prop :=
  ownOpcode plan.kind = some cmd.opcode ∧ cmd.unitAddress = plan.addr ∧ cmd.value.toInt = plan.arg

/-- Both rows admit the job, or neither, and make the same of it. -/
structure SameJob (kind : WallJobKind) (op : WlOp) (units : Vector UnitFacts n) (seq : UInt32)
    (shown : Shown) : Prop where
  admitted : checkOwnUnit kind op units = .ok () ↔
    (followerLinkPlanOp op.opcode op.address op.arg.toInt units).refusal = .none
  plan : (followerLinkPlanOp op.opcode op.address op.arg.toInt units).refusal = .none →
    SamePlan (ownCommand op seq shown)
      (followerLinkPlanOp op.opcode op.address op.arg.toInt units)

section Same

variable {kind : WallJobKind} {op : WlOp} {units : Vector UnitFacts n} {seq : UInt32}
  {shown : Shown}

/-- A job on one running unit, whose value both sides have judged. -/
theorem onUnit_same {fkind : FollowerOpKind} {dop : DisplayOpcode} {verdict : MaintVerdict} {value : Int16}
    (haddress : op.address ≠ 0) (hrestart : kind.opcode ≠ .restartUnit)
    (hupdate : kind.opcode ≠ .updateUnits) (haddr : kind.opcode ≠ .setAddress)
    (hverdict : verdict.httpStatus = 200)
    (hplan : followerLinkPlanOp op.opcode op.address op.arg.toInt units =
      onUnit op.address op.arg.toInt units fkind verdict)
    (hcmd : ownCommand op seq shown = makeMaintCommand dop seq op.address.toUInt8 value)
    (hkind : ownOpcode fkind = some dop) (hvalue : value.toInt = op.arg.toInt) :
    SameJob kind op units seq shown := by
  have hown : checkOwnUnit kind op units = .ok () ↔
      followerLinkCheckUnit op.address units = .none := by
    rw [followerLinkCheckUnit_none]
    unfold checkOwnUnit
    rw [if_neg (by simp [haddress, hrestart]), if_neg hupdate]
    simp only [haddr, decide_false, Bool.and_false, Bool.false_eq_true, if_false]
    split
    · next h => exact iff_of_true rfl h
    · next h => exact iff_of_false (fun hno => (nomatch hno)) h
  constructor
  · rw [hplan, hown]
    unfold onUnit
    by_cases hunit : followerLinkCheckUnit op.address units = .none
    · rw [if_neg (not_not_intro hunit), if_neg (not_not_intro hverdict)]
      exact iff_of_true hunit rfl
    · rw [if_pos hunit]
  · rw [hplan]
    intro hnone
    unfold onUnit at hnone ⊢
    by_cases hunit : followerLinkCheckUnit op.address units = .none
    · rw [if_neg (not_not_intro hunit), if_neg (not_not_intro hverdict)]
      rw [hcmd]
      exact ⟨hkind, rfl, hvalue⟩
    · rw [if_pos hunit] at hnone
      exact absurd hnone hunit

/-- A job on one running unit that has no value. -/
theorem plain_same {fkind : FollowerOpKind} {dop : DisplayOpcode}
    (hone : op.address ≠ 0 ∧ op.address.toNat ≤ 126 ∧ 0 < op.address.toNat) (hzero : op.arg = 0)
    (hplan : followerLinkPlanOp op.opcode op.address op.arg.toInt units =
      onUnit op.address op.arg.toInt units fkind {})
    (hcmd : ownCommand op seq shown = makeMaintCommand dop seq op.address.toUInt8 0)
    (hkind : ownOpcode fkind = some dop)
    (hother : kind.opcode ≠ .restartUnit ∧ kind.opcode ≠ .updateUnits ∧
      kind.opcode ≠ .setAddress) :
    SameJob kind op units seq shown := by
  refine onUnit_same hone.1 hother.1 hother.2.1 hother.2.2 rfl hplan hcmd hkind ?_
  rw [hzero]
  rfl

/-- The way back for a unit whose protocol is not spoken: no look at the unit. -/
theorem restart_same (hkind : kind.opcode = .restartUnit) (hopcode : op.opcode = .restartUnit)
    (hone : op.address ≠ 0 ∧ op.address.toNat ≤ 126 ∧ 0 < op.address.toNat) :
    SameJob kind op units seq shown := by
  have hplan : followerLinkPlanOp op.opcode op.address op.arg.toInt units =
      { kind := .rebootToBootloader, addr := op.address.toUInt8 } := by
    rw [hopcode]
    unfold followerLinkPlanOp
    dsimp only
    rw [if_neg]
    simp only [Bool.or_eq_true, decide_eq_true_eq, gt_iff_lt, UInt32.lt_iff_toNat_lt,
      UInt32.toNat_ofNat]
    omega
  constructor
  · rw [hplan]
    unfold checkOwnUnit
    rw [if_pos (by simp [hkind])]
    exact iff_of_true rfl rfl
  · intro _
    rw [hplan]
    unfold ownCommand
    rw [hopcode]
    exact ⟨rfl, rfl, rfl⟩

/-- A job on the whole row. -/
theorem row_same {fkind : FollowerOpKind} (haddress : op.address = 0)
    (hplan : followerLinkPlanOp op.opcode op.address op.arg.toInt units = { kind := fkind })
    (hcmd : ownOpcode fkind = some (ownCommand op seq shown).opcode ∧
      (ownCommand op seq shown).unitAddress = 0 ∧ (ownCommand op seq shown).value = 0) :
    SameJob kind op units seq shown := by
  constructor
  · rw [hplan]
    unfold checkOwnUnit
    rw [if_pos (by simp [haddress])]
    exact iff_of_true rfl rfl
  · intro _
    rw [hplan]
    obtain ⟨hopcode, haddr, hvalue⟩ := hcmd
    refine ⟨hopcode, haddr, ?_⟩
    rw [hvalue]
    rfl

/-- A new address is held against the units of either row, with the same present one. -/
theorem setAddress_same (hkind : kind.opcode = .setAddress) (hopcode : op.opcode = .setAddress)
    (hone : op.address ≠ 0 ∧ op.address.toNat ≤ 126 ∧ 0 < op.address.toNat)
    (hvalue : (Int16.ofNat (byteOf op.arg).toNat).toInt = op.arg.toInt) :
    SameJob kind op units seq shown := by
  have hplan : followerLinkPlanOp op.opcode op.address op.arg.toInt units =
      if followerLinkCheckUnit op.address units ≠ .none then
        { refusal := followerLinkCheckUnit op.address units }
      else
        match (maintValidateSetAddressTarget op.arg.toInt op.address.toNat units).httpStatus with
        | 200 => { kind := .setAddress, addr := op.address.toUInt8, arg := op.arg.toInt }
        | 409 => { refusal := .addressTaken }
        | _ => { refusal := .badArg } := by
    rw [hopcode]
    rfl
  have hown : checkOwnUnit kind op units = .ok () ↔
      followerLinkCheckUnit op.address units = .none ∧
        (maintValidateSetAddressTarget op.arg.toInt op.address.toNat units).httpStatus = 200 := by
    rw [followerLinkCheckUnit_none]
    unfold checkOwnUnit
    rw [if_neg (by simp [hone.1, hkind]), if_neg (by rw [hkind]; decide)]
    dsimp only
    by_cases hpass : (maintValidateAddress (decimal op.address.toNat) units).1.httpStatus = 200
    · have hparsed := maintValidateAddress_pass hone.2.2 (by
        show _ ≤ (2147483647 : Int)
        omega) hpass
      simp only [hpass, hkind, hparsed, decide_true, Bool.and_self, if_true]
      split
      · next h => exact iff_of_true rfl ⟨trivial, h⟩
      · next h => exact iff_of_false (fun hno => (nomatch hno)) fun hno => h hno.2
    · simp only [hpass, decide_false, Bool.false_and, Bool.false_eq_true, if_false]
      exact iff_of_false (fun hno => (nomatch hno)) fun hno => hno.1
  by_cases hunit : followerLinkCheckUnit op.address units = .none
  · rw [if_neg (not_not_intro hunit)] at hplan
    split at hplan
    · next h =>
        constructor
        · rw [hplan]
          exact iff_of_true (hown.mpr ⟨hunit, h⟩) rfl
        · intro _
          rw [hplan]
          unfold ownCommand
          rw [hopcode]
          exact ⟨rfl, rfl, hvalue⟩
    · next h =>
        constructor
        · rw [hplan]
          refine iff_of_false (fun hno => ?_) fun hno => (nomatch hno)
          rw [(hown.mp hno).2] at h
          exact absurd h (by decide)
        · rw [hplan]
          exact fun hno => (nomatch hno)
    · next h _ =>
        constructor
        · rw [hplan]
          exact iff_of_false (fun hno => h (hown.mp hno).2) fun hno => (nomatch hno)
        · rw [hplan]
          exact fun hno => (nomatch hno)
  · rw [if_pos hunit] at hplan
    constructor
    · rw [hplan]
      exact iff_of_false (fun hno => hunit (hown.mp hno).1) hunit
    · rw [hplan]
      exact fun hno => absurd hno hunit

/-- An update is of the whole row, or of an address the row can hold. -/
theorem update_same (hkind : kind.opcode = .updateUnits) (hopcode : op.opcode = .updateUnits)
    (hsmall : op.address.toNat ≤ 126) (harg : op.arg = 0 ∨ (op.arg = 1 ∧ op.address ≠ 0)) :
    SameJob kind op units seq shown := by
  have hplan : followerLinkPlanOp op.opcode op.address op.arg.toInt units =
      if op.address ≠ 0 && !reflashAddressInRange op.address.toNat SFP_I2C_ADDRESS_BASE n then
        { refusal := .badAddress }
      else { kind := .reflashUnit, addr := op.address.toUInt8, arg := op.arg.toInt } := by
    rw [hopcode]
    unfold followerLinkPlanOp
    dsimp only
    rcases harg with hzero | ⟨hforce, hsome⟩
    · rw [hzero, if_neg (by decide), if_neg (by simp)]
    · rw [hforce, if_neg (by decide), if_neg (by simp [hsome])]
  have hown : checkOwnUnit kind op units = .ok () ↔
      op.address = 0 ∨ reflashAddressInRange op.address.toNat SFP_I2C_ADDRESS_BASE n = true := by
    unfold checkOwnUnit
    by_cases hrow : op.address = 0
    · rw [if_pos (by simp [hrow])]
      exact iff_of_true rfl (Or.inl hrow)
    · rw [if_neg (by simp [hrow, hkind]), if_pos hkind]
      split
      · next h => exact iff_of_true rfl (Or.inr h)
      · next h =>
          refine iff_of_false (fun hno => (nomatch hno)) ?_
          rintro (hno | hno)
          · exact hrow hno
          · exact h hno
  have hcmd : ownCommand op seq shown =
      makeReflashUnitsCommand seq shown op.address.toUInt8 (op.arg ≠ 0) := by
    unfold ownCommand
    rw [hopcode]
  have hvalue : (ownCommand op seq shown).value.toInt = op.arg.toInt := by
    rw [hcmd]
    show (if _ then (1 : Int16) else 0).toInt = _
    rcases harg with hzero | ⟨hforce, hsome⟩
    · rw [hzero]
      rfl
    · have hbyte : op.address.toUInt8 ≠ 0 := by
        intro hzero
        have hnat := congrArg UInt8.toNat hzero
        rw [UInt32.toNat_toUInt8] at hnat
        have hzero : (0 : UInt8).toNat = 0 := rfl
        refine hsome (UInt32.toNat_inj.mp ?_)
        show _ = 0
        omega
      rw [hforce, if_pos]
      · rfl
      · exact Bool.and_eq_true_iff.mpr ⟨rfl, decide_eq_true hbyte⟩
  constructor
  · rw [hplan, hown]
    by_cases hrow : op.address = 0
    · rw [if_neg (by simp [hrow])]
      exact iff_of_true (Or.inl hrow) rfl
    · by_cases hrange : reflashAddressInRange op.address.toNat SFP_I2C_ADDRESS_BASE n = true
      · rw [if_neg (by rw [hrange, Bool.not_true, Bool.and_false]; exact Bool.false_ne_true)]
        exact iff_of_true (Or.inr hrange) rfl
      · rw [Bool.eq_false_iff.mpr hrange, if_pos (by simp [hrow])]
        refine iff_of_false ?_ fun hno => (nomatch hno)
        rintro (hno | hno)
        · exact hrow hno
        · exact Bool.noConfusion hno
  · intro hnone
    rw [hplan] at hnone ⊢
    split
    · next hrefused =>
        rw [if_pos hrefused] at hnone
        exact (nomatch hnone)
    · refine ⟨?_, ?_, hvalue⟩
      · rw [hcmd]
        rfl
      · rw [hcmd]
        rfl

end Same

/-- An update of a whole row is never a forced one. -/
theorem update_forced {unit : Option Int} {address : UInt32} {kind : WallJobKind} {arg : Int32}
    (hkind : kind.opcode = .updateUnits) (haddress : AddressFits kind.unit unit address)
    (harg : ArgFits kind unit.isSome arg) :
    address.toNat ≤ 126 ∧ (arg = 0 ∨ (arg = 1 ∧ address ≠ 0)) := by
  have hnat : ∀ a : Int, 1 ≤ a ∧ a ≤ 126 → (UInt32.ofNat a.toNat).toNat = a.toNat := by
    intro a ha
    rw [UInt32.toNat_ofNat']
    omega
  constructor
  · cases haddress with
    | row _ => exact Nat.zero_le _
    | @unit a _ hrange =>
        rw [hnat a hrange]
        omega
  · cases harg with
    | absent _ => exact Or.inl rfl
    | @given v _ hvalue =>
        rw [hkind] at hvalue
        unfold wallJobValue at hvalue
        dsimp only at hvalue
        split at hvalue
        · cases hvalue
        · next hbit =>
            simp only [Bool.and_eq_true, decide_eq_true_eq, not_and, Decidable.not_not] at hbit
            split at hvalue
            · cases hvalue
            · next hforced =>
                by_cases hzero : v = 0
                · subst hzero
                  exact Or.inl rfl
                · have hone := hbit hzero
                  subst hone
                  right
                  refine ⟨rfl, ?_⟩
                  cases haddress with
                  | row _ => exact absurd rfl hforced
                  | @unit a _ hrange =>
                      intro hno
                      have hno := congrArg UInt32.toNat hno
                      rw [hnat a hrange] at hno
                      have hzero : (0 : UInt32).toNat = 0 := rfl
                      omega

/-- Whatever a row board is asked, it forces no update of its whole row. -/
theorem row_never_forced {opcode : WlOpCode} {address : UInt32} {arg : Int}
    {units : Vector UnitFacts n}
    (h : (followerLinkPlanOp opcode address arg units).refusal = .none) :
    ¬(opcode = .updateUnits ∧ address = 0 ∧ arg ≠ 0) := by
  rintro ⟨rfl, rfl, harg⟩
  unfold followerLinkPlanOp at h
  dsimp only at h
  split at h
  · exact (nomatch h)
  · rw [if_pos (by simp [harg])] at h
    exact (nomatch h)

/-- **The master's own row and a row board admit the same unit jobs**, and make
the same of them; a forced update is of one unit. -/
theorem same_jobs (kind : WallJobKind) (hkind : kind ∈ WALL_JOB_KINDS) (unit arg : Option Int)
    (op : WlOp) (units : Vector UnitFacts n) (hbuild : wallJobBuild kind unit arg = .ok op)
    (seq : UInt32) (shown : Shown) :
    ((checkOwnUnit kind op units = .ok () ↔
        (followerLinkPlanOp op.opcode op.address op.arg.toInt units).refusal = .none) ∧
      ((followerLinkPlanOp op.opcode op.address op.arg.toInt units).refusal = .none →
        SamePlan (ownCommand op seq shown)
          (followerLinkPlanOp op.opcode op.address op.arg.toInt units))) ∧
    ¬(op.opcode = .updateUnits ∧ op.address = 0 ∧ op.arg ≠ 0) ∧
    ∀ (opcode : WlOpCode) (address : UInt32) (arg : Int),
      (followerLinkPlanOp opcode address arg units).refusal = .none →
        ¬(opcode = .updateUnits ∧ address = 0 ∧ arg ≠ 0) := by
  obtain ⟨hopcode, haddress, harg⟩ := wallJobBuild_ok hbuild
  obtain ⟨opId, opcode, address, value⟩ := op
  dsimp only at hopcode haddress harg
  subst hopcode
  have hsame : SameJob kind { opId := opId, opcode := kind.opcode, address := address, arg := value }
      units seq shown := by
    simp only [WALL_JOB_KINDS, List.mem_cons, List.not_mem_nil, or_false] at hkind
    rcases hkind with rfl | rfl | rfl | rfl | rfl | rfl | rfl | rfl | rfl | rfl | rfl | rfl | rfl |
      rfl | rfl | rfl
    · exact plain_same haddress.one (harg.zero rfl) rfl rfl rfl (by decide)
    · exact plain_same haddress.one (harg.zero rfl) rfl rfl rfl (by decide)
    · -- jog: the clamp of the display command changes nothing
      obtain ⟨v, hjudged, rfl⟩ := harg.judged (by decide) rfl
      have hpass := passed_ok.mp hjudged
      have hrange := jog_range hpass
      obtain ⟨hwide, hnarrow⟩ := small_arg (v := v) (by omega)
      refine onUnit_same haddress.one.1 (by decide) (by decide) (by decide) ?_ rfl rfl rfl ?_
      · rw [hwide]
        exact hpass
      · rw [hwide, min_eq_right hrange.2, max_eq_right hrange.1]
        exact hnarrow
    · obtain ⟨v, hjudged, rfl⟩ := harg.judged (by decide) rfl
      have hpass := passed_ok.mp hjudged
      obtain ⟨hwide, hnarrow⟩ := small_arg (offset_range hpass)
      refine onUnit_same haddress.one.1 (by decide) (by decide) (by decide) ?_ rfl rfl rfl ?_
      · rw [hwide]
        exact hpass
      · rw [hwide]
        exact hnarrow
    · exact plain_same haddress.one (harg.zero rfl) rfl rfl rfl (by decide)
    · exact restart_same rfl rfl haddress.one
    · exact plain_same haddress.one (harg.zero rfl) rfl rfl rfl (by decide)
    · obtain ⟨v, hjudged, rfl⟩ := harg.judged (by decide) rfl
      have hpass := passed_ok.mp hjudged
      obtain ⟨hwide, hbyte⟩ := byte_arg (gates_range hpass)
      refine onUnit_same haddress.one.1 (by decide) (by decide) (by decide) ?_ rfl rfl rfl ?_
      · rw [hwide]
        exact hpass
      · rw [hwide]
        exact hbyte
    · exact plain_same haddress.one (harg.zero rfl) rfl rfl rfl (by decide)
    · exact plain_same haddress.one (harg.zero rfl) rfl rfl rfl (by decide)
    · exact plain_same haddress.one (harg.zero rfl) rfl rfl rfl (by decide)
    · obtain ⟨hsmall, hforce⟩ := update_forced rfl haddress harg
      exact update_same rfl rfl hsmall hforce
    · cases haddress with
      | row _ => exact row_same rfl rfl ⟨rfl, rfl, rfl⟩
      | unit hno _ => exact absurd rfl hno
    · obtain ⟨v, hjudged, rfl⟩ := harg.judged (by decide) rfl
      have hrange : 0 ≤ v ∧ v ≤ 255 := by
        unfold wallJobValue at hjudged
        dsimp only at hjudged
        split at hjudged
        · cases hjudged
        · next hrange =>
            simp only [Bool.or_eq_true, decide_eq_true_eq, not_or] at hrange
            omega
      obtain ⟨hwide, hbyte⟩ := byte_arg hrange
      refine setAddress_same rfl rfl haddress.one ?_
      rw [hbyte, hwide]
    · exact plain_same haddress.one (harg.zero rfl) rfl rfl rfl (by decide)
    · cases haddress with
      | row _ => exact row_same rfl rfl ⟨rfl, rfl, rfl⟩
      | unit hno _ => exact absurd rfl hno
  refine ⟨⟨hsame.admitted, hsame.plan⟩, ?_, fun _ _ _ h => row_never_forced h⟩
  rintro ⟨hupdate, hrow, hforce⟩
  rcases (update_forced hupdate haddress harg).2 with hzero | ⟨_, hsome⟩
  · exact hforce hzero
  · exact hsome hrow

/-- A row whose units all run their sketch. -/
def runningRow : Vector UnitFacts UNITS_AMOUNT := Vector.replicate UNITS_AMOUNT { state := 1 }

theorem same_jobs_jog :
    (followerLinkPlanOp .jog 3 (-4) runningRow).refusal = .none ∧
      SamePlan (ownCommand { opcode := .jog, address := 3, arg := -4 } 7 {})
        (followerLinkPlanOp .jog 3 (-4) runningRow) := by
  have hsame := same_jobs
    { name := "jog", opcode := .jog, unit := .one, arg := "steps", argRequired := true }
    (by decide) (some 3) (some (-4)) { opcode := .jog, address := 3, arg := -4 } runningRow
    (by decide +kernel) 7 {}
  have hplanned := hsame.1.1.mp (by decide +kernel)
  exact ⟨hplanned, hsame.1.2 hplanned⟩

end SplitFlap
