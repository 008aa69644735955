/-
  SplitFlap.Unit.Drift — where a unit believes its drum is.

  The drum's position is counted in steps past the entering edge of the hall
  marker, and every edge that is seen sets it back to 0.  A drum that never
  slips is `turned` steps past an edge of some revolution; the counter is with
  it, or one step behind it since the last edge, which the step watch sees on
  its second low sample (`Tracks`).
-/
import SplitFlap.Lib.Marks
import SplitFlap.Unit.Replies

namespace SplitFlap

/-! ## §1. The tracking. -/

abbrev DRIFT_THRESHOLD_STEPS : UInt16 := 23

def driftAdvance (s : DriftState) (steps : Int) (stepsPerRev : UInt16) : DriftState :=
  let pos := (s.drumPosition.toNat + steps : Int).tmod stepsPerRev.toNat
  let pos := if pos < 0 then pos + stepsPerRev.toNat else pos
  { s with drumPosition := UInt16.ofNat pos.toNat }

def driftFoldDeviation (position stepsPerRev : UInt16) : Int16 :=
  if position ≤ stepsPerRev / 2 then position.toInt16
  else Int16.ofInt (position.toNat - stepsPerRev.toNat)

def driftMarkSynced (s : DriftState) : DriftState :=
  { s with drumPosition := 0, positionKnown := true }

/-- An entering edge was seen: whether it counts as a drift event, and the state. -/
def driftObserveEdge (s : DriftState) (stepsPerRev thresholdSteps : UInt16) : Bool × DriftState :=
  let hadExpectation := s.positionKnown
  let deviation := driftFoldDeviation s.drumPosition stepsPerRev
  let s := driftMarkSynced s
  if hadExpectation = false then (false, s)
  else
    let magnitude := if deviation < 0 then -deviation else deviation
    if magnitude ≤ thresholdSteps.toInt16 then (false, s)
    else
      (true, { s with
        driftEvents := if s.driftEvents < 0xFF then s.driftEvents + 1 else s.driftEvents
        lastDriftSteps := deviation })

/-! ## §2. A drum that never slips. -/

/-- The drum is `turned` steps past an entering edge, and the counter is with
it or one step behind. -/
def Tracks (turned : Int) (s : DriftState) : Prop :=
  (s.drumPosition.toNat : Int) = turned % 2038 ∨ (s.drumPosition.toNat : Int) = (turned - 1) % 2038

/-- What C leaves of a position after `%` and the step back into the revolution. -/
theorem tmod_wrapped (a : Int) :
    (if a.tmod 2038 < 0 then a.tmod 2038 + 2038 else a.tmod 2038) = a % 2038 := by
  rw [Int.tmod_eq_emod]
  split <;> split <;> omega

theorem driftAdvance_position (s : DriftState) (steps : Int) :
    ((driftAdvance s steps STEPS).drumPosition.toNat : Int) =
      (s.drumPosition.toNat + steps) % 2038 := by
  show ((UInt16.ofNat (if (s.drumPosition.toNat + steps : Int).tmod 2038 < 0 then
    (s.drumPosition.toNat + steps : Int).tmod 2038 + 2038
    else (s.drumPosition.toNat + steps : Int).tmod 2038).toNat).toNat : Int) = _
  rw [tmod_wrapped, UInt16.toNat_ofNat']
  omega

theorem Tracks.advance {turned : Int} {s : DriftState} (h : Tracks turned s) (steps : Int) :
    Tracks (turned + steps) (driftAdvance s steps STEPS) := by
  unfold Tracks at h ⊢
  rw [driftAdvance_position]
  omega

theorem Tracks.wraps {turned : Int} {s : DriftState} (h : Tracks turned s) :
    s.drumPosition.toNat < 2038 := by
  unfold Tracks at h
  omega

/-- The fold of a position that is at the edge or a step to either side of it. -/
theorem driftFoldDeviation_close {p : UInt16}
    (h : p.toNat = 0 ∨ p.toNat = 1 ∨ p.toNat = 2037) :
    driftFoldDeviation p STEPS = 0 ∨ driftFoldDeviation p STEPS = 1 ∨
      driftFoldDeviation p STEPS = -1 := by
  have hp : p = 0 ∨ p = 1 ∨ p = 2037 := by
    rw [← UInt16.toNat_inj, ← UInt16.toNat_inj, ← UInt16.toNat_inj]
    exact h
  obtain rfl | rfl | rfl := hp
  · exact .inl (by decide)
  · exact .inr (.inl (by decide))
  · exact .inr (.inr (by decide))

/-- Within a step of the edge nothing is counted. -/
theorem driftObserveEdge_quiet {s : DriftState}
    (h : s.drumPosition.toNat = 0 ∨ s.drumPosition.toNat = 1 ∨ s.drumPosition.toNat = 2037) :
    driftObserveEdge s STEPS DRIFT_THRESHOLD_STEPS = (false, driftMarkSynced s) := by
  unfold driftObserveEdge
  dsimp only
  split
  · rfl
  · obtain hdev | hdev | hdev := driftFoldDeviation_close h <;> rw [hdev] <;> rfl

/-- A drum that is seen at the edge, or one step past it, has not drifted. -/
theorem Tracks.observeEdge {turned : Int} {s : DriftState} (h : Tracks turned s)
    (hedge : turned % 2038 = 0 ∨ turned % 2038 = 1) :
    driftObserveEdge s STEPS DRIFT_THRESHOLD_STEPS = (false, driftMarkSynced s) ∧
      Tracks turned (driftMarkSynced s) := by
  unfold Tracks at h
  refine ⟨driftObserveEdge_quiet ?_, ?_⟩
  · omega
  · show (0 : Int) = _ ∨ (0 : Int) = _
    omega

/-! ## §3. The letter the counter stands for. -/

theorem driftPhysicalLetter_known {s : DriftState} (hknown : s.positionKnown = true)
    (calOffset : Int16) :
    driftPhysicalLetter s calOffset STEPS AMOUNTFLAPS =
      (((((s.drumPosition.toNat - calOffset.toInt : Int) % 2038).toNat.toUInt32 * 45 + 1019) /
        2038) % 45).toUInt8 := by
  unfold driftPhysicalLetter
  rw [if_neg (by rw [hknown]; exact Bool.noConfusion)]
  show ((((if (s.drumPosition.toNat - calOffset.toInt : Int).tmod 2038 < 0 then
    (s.drumPosition.toNat - calOffset.toInt : Int).tmod 2038 + 2038
    else (s.drumPosition.toNat - calOffset.toInt : Int).tmod 2038).toNat.toUInt32 * 45 + 1019) /
      2038) % 45).toUInt8 = _
  rw [tmod_wrapped]

/-- The unit's reading is the mark its counter rounds to. -/
theorem driftPhysicalLetter_rounded {s : DriftState} (hknown : s.positionKnown = true)
    (calOffset : Int16) :
    (driftPhysicalLetter s calOffset STEPS AMOUNTFLAPS).toNat =
      Marks.rounded 2038 45 (45 * (s.drumPosition.toNat - calOffset.toInt)) := by
  rw [driftPhysicalLetter_known hknown]
  generalize (s.drumPosition.toNat - calOffset.toInt : Int) = a
  have hr : (45 * a) % (2038 * 45 : Nat) = 45 * (a % 2038) := by
    push_cast
    omega
  unfold Marks.rounded
  rw [hr]
  generalize hfz : (a % 2038).toNat = fz
  have hlt : fz < 2038 := by omega
  have hfz' : (45 * (a % 2038)).toNat = 45 * fz := by omega
  rw [hfz']
  have h32 : fz.toUInt32.toNat = fz := UInt32.toNat_ofNat_of_lt' (by show fz < 4294967296; omega)
  rw [UInt32.toNat_toUInt8, UInt32.toNat_mod, UInt32.toNat_div, UInt32.toNat_add, UInt32.toNat_mul,
    h32]
  -- nothing wraps: the product is at most 91665
  show ((fz * 45 % 4294967296 + 1019) % 4294967296 / 2038 % 45) % 256 = (45 * fz + 1019) / 2038 % 45
  rw [Nat.mod_eq_of_lt (by omega : fz * 45 < 4294967296),
    Nat.mod_eq_of_lt (by omega : fz * 45 + 1019 < 4294967296), Nat.mul_comm fz 45]
  exact Nat.mod_eq_of_lt (by omega)

/-- A drum at rest at most one step short of letter `k`'s place: the flap that
is nearest is `k`, and so the counter says. -/
theorem letter_of_past {turned : Int} {s : DriftState} {calOffset : Int16} {k : Nat} {d : Int}
    (htrack : Tracks turned s) (hknown : s.positionKnown = true) (hk : k < 45)
    (hpast : Marks.Past 2038 45 (45 * (turned - calOffset.toInt)) k d) (hlow : -45 ≤ d)
    (hhigh : d ≤ 0) :
    Marks.Nearest 2038 45 (45 * (turned - calOffset.toInt)) k ∧
      (driftPhysicalLetter s calOffset STEPS AMOUNTFLAPS).toNat = k := by
  refine ⟨Marks.nearest_of_past hk hpast ?_, ?_⟩
  · have : |d| ≤ 45 := abs_le.mpr ⟨hlow, by omega⟩
    omega
  · rw [driftPhysicalLetter_rounded hknown]
    obtain ⟨t, ht⟩ := hpast
    obtain hat | hat := htrack
    · refine Marks.rounded_of_past (d := d) (by omega) hk ⟨t - turned / 2038, ?_⟩ (by omega)
        (by omega)
      rw [hat]
      push_cast at ht ⊢
      omega
    · refine Marks.rounded_of_past (d := d - 45) (by omega) hk ⟨t - (turned - 1) / 2038, ?_⟩
        (by omega) (by omega)
      rw [hat]
      push_cast at ht ⊢
      omega

end SplitFlap
