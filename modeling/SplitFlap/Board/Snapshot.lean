/-
  SplitFlap.Board.Snapshot — what displayTask publishes of its row.

  `DisplayIpc.h`: the snapshot carries the facts of every unit, the frame that
  went out last and which units were not read since.  displayTask keeps the
  facts a second time, as the bus left them, and folds those into the snapshot
  after each poll; a few operations patch a fact in between.
-/
import SplitFlap.Board.DisplayTask
import SplitFlap.Unit.HealthPoll

namespace SplitFlap.Shown

open Bus (UNITS_AMOUNT Letters UNIT_FLAG_MOVING SFP_I2C_ADDRESS_BASE unitFactsInvalidateReads)

abbrev UNIT_DRIFT_FLAG_POSITION_KNOWN : UInt8 := 0x02

abbrev Facts := Fin UNITS_AMOUNT → UnitFacts

structure DisplaySnapshot where
  displayWidth : UInt8 := 16
  probed : Bool := false
  detectedUnitCount : UInt8 := 0
  units : Facts := fun _ => {}
  lastFrameLetters : Letters := fun _ => 0
  lastFrameValid : Bool := false
  lastFrameAtMs : UInt32 := 0
  /-- The units not read since that frame, a bit each. -/
  frameUnreadMask : Fin UNITS_AMOUNT → Bool := fun _ => false

/-! ## §1. Frames. -/

/-- A unit whose flap the frame changes loses its verdict; the others keep
theirs. -/
def displayApplyFrame (snap : DisplaySnapshot) (letters : Letters) (nowMs : UInt32) :
    DisplaySnapshot :=
  { snap with
    units := fun i =>
      if !snap.lastFrameValid || snap.lastFrameLetters i ≠ letters i then
        { snap.units i with mismatch := false }
      else snap.units i
    lastFrameLetters := letters
    lastFrameValid := true
    lastFrameAtMs := nowMs
    frameUnreadMask := fun _ => true }

def displayApplyReshow (snap : DisplaySnapshot) (nowMs : UInt32) : DisplaySnapshot :=
  { snap with
    units := fun i => { snap.units i with mismatch := false }
    lastFrameAtMs := nowMs
    frameUnreadMask := fun _ => true }

/-! ## §2. The fold. -/

/-- The highest unit that answers, and everything when none does. -/
def computeDisplayWidth (unitStates : List UInt8) : Nat :=
  let width := unitStates.zipIdx.foldl (fun width s => if s.1 ≠ 0 then s.2 + 1 else width) 0
  if width = 0 then unitStates.length else width

def countRespondingUnits (unitStates : List UInt8) : Nat := unitStates.countP (· ≠ 0)

/-- Read after the frame went out; a `lastSeenMs` of 0 is a unit never read. -/
def readAfterFrame (snap : DisplaySnapshot) (u : UnitFacts) : Bool :=
  u.lastSeenMs ≠ 0 && decide (0 < (u.lastSeenMs - snap.lastFrameAtMs).toInt32)

def physKnown (u : UnitFacts) : Bool :=
  u.diagValid && u.driftFlags &&& UNIT_DRIFT_FLAG_POSITION_KNOWN ≠ 0 && u.physLetter ≠ 0xFF

def moving (u : UnitFacts) : Bool := u.statusValid && u.status.flags &&& UNIT_FLAG_MOVING ≠ 0

/-- Whether unit `i` is still not read since the frame, with these facts of it. -/
def stillUnread (snap : DisplaySnapshot) (u : UnitFacts) (i : Fin UNITS_AMOUNT) : Bool :=
  snap.frameUnreadMask i && !readAfterFrame snap u

/-- The verdict on unit `i`: the one it had while it is unread, a new one after. -/
def foldVerdict (snap : DisplaySnapshot) (u : UnitFacts) (i : Fin UNITS_AMOUNT) : Bool :=
  if stillUnread snap u i then (snap.units i).mismatch
  else
    physKnown u && !moving u && snap.lastFrameValid && u.physLetter ≠ snap.lastFrameLetters i

def displayApplyUnitFacts (snap : DisplaySnapshot) (facts : Facts)
    (maxUnits widthOverride : Nat) : DisplaySnapshot :=
  let maxUnits := min maxUnits UNITS_AMOUNT
  let states := ((List.finRange UNITS_AMOUNT).take maxUnits).map fun i => (facts i).state
  let width := computeDisplayWidth states
  let width := if 1 ≤ widthOverride ∧ widthOverride ≤ maxUnits then widthOverride else width
  { snap with
    units := fun i =>
      if i.val < maxUnits then { facts i with mismatch := foldVerdict snap (facts i) i }
      else snap.units i
    frameUnreadMask := fun i =>
      if i.val < maxUnits then stillUnread snap (facts i) i else snap.frameUnreadMask i
    displayWidth := UInt8.ofNat width
    detectedUnitCount := UInt8.ofNat (countRespondingUnits states)
    probed := true }

section Fold

variable (snap : DisplaySnapshot) (facts : Facts) {maxUnits widthOverride : Nat}
  {i : Fin UNITS_AMOUNT}

theorem fold_units_of_lt (h : i.val < maxUnits) :
    (displayApplyUnitFacts snap facts maxUnits widthOverride).units i =
      { facts i with mismatch := foldVerdict snap (facts i) i } :=
  if_pos (Nat.lt_min.mpr ⟨h, i.isLt⟩)

theorem fold_units_of_ge (h : ¬i.val < maxUnits) :
    (displayApplyUnitFacts snap facts maxUnits widthOverride).units i = snap.units i :=
  if_neg fun hlt => h (Nat.lt_min.mp hlt).1

theorem fold_unread_of_lt (h : i.val < maxUnits) :
    (displayApplyUnitFacts snap facts maxUnits widthOverride).frameUnreadMask i =
      stillUnread snap (facts i) i :=
  if_pos (Nat.lt_min.mpr ⟨h, i.isLt⟩)

theorem fold_unread_of_ge (h : ¬i.val < maxUnits) :
    (displayApplyUnitFacts snap facts maxUnits widthOverride).frameUnreadMask i =
      snap.frameUnreadMask i :=
  if_neg fun hlt => h (Nat.lt_min.mp hlt).1

end Fold

/-! ## §3. Patches. -/

def unitFactsApplyOffsetWrite (u : UnitFacts) (value : Int16) : UnitFacts :=
  { u with offset := value, offsetValid := true }

def unitFactsApplyOdometerReset (u : UnitFacts) : UnitFacts :=
  { u with odometer := 0, odometerValid := true }

def unitFactsApplyGatesWrite (u : UnitFacts) (gates : UInt8) : UnitFacts :=
  { u with lifetime := { u.lifetime with featureGates := gates } }

/-- The slot of an address; no other address is patched. -/
def slotOf (i2cAddress : Nat) : Option (Fin UNITS_AMOUNT) :=
  if h : SFP_I2C_ADDRESS_BASE ≤ i2cAddress ∧ i2cAddress - SFP_I2C_ADDRESS_BASE < UNITS_AMOUNT then
    some ⟨i2cAddress - SFP_I2C_ADDRESS_BASE, h.2⟩
  else none

/-- The facts as the bus left them, with each unit's baselines. -/
abbrev BusFacts := Fin UNITS_AMOUNT → PolledUnit

def patchSnap (snap : DisplaySnapshot) (i2cAddress : Nat) (patch : UnitFacts → UnitFacts) :
    DisplaySnapshot :=
  match slotOf i2cAddress with
  | none => snap
  | some i => { snap with units := Function.update snap.units i (patch (snap.units i)) }

def patchBus (busFacts : BusFacts) (i2cAddress : Nat) (patch : UnitFacts → UnitFacts) :
    BusFacts :=
  match slotOf i2cAddress with
  | none => busFacts
  | some i =>
      Function.update busFacts i { busFacts i with fact := patch (busFacts i).fact }

/-- The bus facts take it too. -/
def displayApplyOffsetWrite (snap : DisplaySnapshot) (busFacts : BusFacts) (i2cAddress : Nat)
    (value : Int16) : DisplaySnapshot × BusFacts :=
  (patchSnap snap i2cAddress (unitFactsApplyOffsetWrite · value),
    patchBus busFacts i2cAddress (unitFactsApplyOffsetWrite · value))

def displayApplyOdometerReset (snap : DisplaySnapshot) (busFacts : BusFacts) (i2cAddress : Nat) :
    DisplaySnapshot × BusFacts :=
  (patchSnap snap i2cAddress unitFactsApplyOdometerReset,
    patchBus busFacts i2cAddress unitFactsApplyOdometerReset)

def displayApplyGatesWrite (snap : DisplaySnapshot) (i2cAddress : Nat) (gates : UInt8) :
    DisplaySnapshot :=
  patchSnap snap i2cAddress (unitFactsApplyGatesWrite · gates)

def displayInvalidateUnitReads (snap : DisplaySnapshot) (i2cAddress : Nat) : DisplaySnapshot :=
  patchSnap snap i2cAddress unitFactsInvalidateReads

end SplitFlap.Shown
