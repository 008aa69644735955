/-
  SplitFlap.Unit.StoredBlocks — what a unit keeps in its EEPROM.

  `UnitEeprom.h` and its use in `Unit.ino`: the identity, the calibration offset,
  the lifetime health and the bus record, each a block under a masked XOR.  They
  are rewritten in place, a byte at a time, and the power may go at any of them.

  A block whose change has two bytes beside its checksum cannot be mixed: one
  changed byte does not cancel, and the payload as a whole has its own checksum
  (`cancels_two`).  So the identity and the offset survive a cut
  (`torn_identity_harmless`).  The two records are longer, and a change of
  several fields can cancel half way: `torn_record_iff` says when.
-/
import SplitFlap.Lib.TornBlock
import SplitFlap.Unit.Facts
import Mathlib.Tactic.IntervalCases

namespace SplitFlap

open MaskedXor TornBlock

/-! ## §1. The layout. -/

abbrev UNIT_EE_LAYOUT_VERSION : UInt8 := 1
abbrev EE_LAYOUT_VERSION_ADDR : Nat := 0
abbrev EE_ID_BLOCK_LEN : Nat := 4
abbrev EE_ID_FLAG_PROVISIONED : UInt8 := 0x01
abbrev EE_ID_CHECKSUM_MASK : UInt8 := 0x5A
abbrev EE_CAL_OFFSET : Nat := 4
abbrev EE_CAL_BLOCK_LEN : Nat := 3
abbrev EE_CAL_CHECKSUM_MASK : UInt8 := 0x2D
abbrev EE_HEALTH_BASE : Nat := 8
abbrev EE_HEALTH_CHECKSUM_MASK : UInt8 := 0x71
abbrev EE_BUS_RECORD : Nat := 28
abbrev EE_BUS_RECORD_BLOCK_LEN : Nat := 8
abbrev EE_BUS_RECORD_CHECKSUM_MASK : UInt8 := 0xB3

def unitEeIsBlank (layoutVersion : UInt8) : Bool := layoutVersion ≠ UNIT_EE_LAYOUT_VERSION

/-! ## §2. The blocks. -/

def unitEeIdentityEncode (address : UInt8) : Vector UInt8 EE_ID_BLOCK_LEN :=
  withChecksum EE_ID_CHECKSUM_MASK #v[UNIT_EE_LAYOUT_VERSION, address, EE_ID_FLAG_PROVISIONED]

/-- No address burned, in a valid block. -/
def unitEeIdentityClear : Vector UInt8 EE_ID_BLOCK_LEN :=
  withChecksum EE_ID_CHECKSUM_MASK #v[UNIT_EE_LAYOUT_VERSION, 0, 0]

/-- The burned address, or 0: the switches decide. -/
def unitEeIdentityAddress (block : Vector UInt8 EE_ID_BLOCK_LEN) : UInt8 :=
  if unitEeIsBlank block[0] then 0
  else if block[3] ≠ checksum EE_ID_CHECKSUM_MASK block then 0
  else if block[2] &&& EE_ID_FLAG_PROVISIONED = 0 then 0
  else if block[1] < 1 || block[1] > 126 then 0
  else block[1]

def unitEeCalEncode (offset : Int16) : Vector UInt8 EE_CAL_BLOCK_LEN :=
  withChecksum EE_CAL_CHECKSUM_MASK #v[byte16 offset.toUInt16 0, byte16 offset.toUInt16 1]

/-- `false`: blank or torn, and no offset. -/
def unitEeCalDecode (block : Vector UInt8 EE_CAL_BLOCK_LEN) : Bool × Int16 :=
  if block[2] ≠ checksum EE_CAL_CHECKSUM_MASK block then (false, 0)
  else (true, (word16 block[0] block[1]).toInt16)

structure UnitLifetimeHealth where
  brownoutCount : UInt8 := 0
  watchdogCount : UInt8 := 0
  homeFailedCount : UInt8 := 0
  featureGates : UInt8 := 0
  stepExcessLifetimeMax : UInt16 := 0
  selfTestFirstHallWindow : UInt16 := 0
  selfTestFirstStepsPerRev : UInt16 := 0
  selfTestLastHallWindow : UInt16 := 0
  selfTestLastStepsPerRev : UInt16 := 0
  deriving Repr, DecidableEq

def unitEeHealthEncode (h : UnitLifetimeHealth) : Vector UInt8 15 :=
  withChecksum EE_HEALTH_CHECKSUM_MASK #v[h.brownoutCount, h.watchdogCount, h.homeFailedCount,
    h.featureGates, byte16 h.stepExcessLifetimeMax 0, byte16 h.stepExcessLifetimeMax 1,
    byte16 h.selfTestFirstHallWindow 0, byte16 h.selfTestFirstHallWindow 1,
    byte16 h.selfTestFirstStepsPerRev 0, byte16 h.selfTestFirstStepsPerRev 1,
    byte16 h.selfTestLastHallWindow 0, byte16 h.selfTestLastHallWindow 1,
    byte16 h.selfTestLastStepsPerRev 0, byte16 h.selfTestLastStepsPerRev 1]

/-- `false`: blank or torn, and the record is empty. -/
def unitEeHealthDecode (block : Vector UInt8 15) : Bool × UnitLifetimeHealth :=
  if block[14] ≠ checksum EE_HEALTH_CHECKSUM_MASK block then (false, {})
  else (true,
    { brownoutCount := block[0]
      watchdogCount := block[1]
      homeFailedCount := block[2]
      featureGates := block[3]
      stepExcessLifetimeMax := word16 block[4] block[5]
      selfTestFirstHallWindow := word16 block[6] block[7]
      selfTestFirstStepsPerRev := word16 block[8] block[9]
      selfTestLastHallWindow := word16 block[10] block[11]
      selfTestLastStepsPerRev := word16 block[12] block[13] })

def unitEeBusRecordEncode (r : UnitBusRecord) : Vector UInt8 EE_BUS_RECORD_BLOCK_LEN :=
  withChecksum EE_BUS_RECORD_CHECKSUM_MASK #v[r.silences, r.lastMinutes, r.longestMinutes,
    r.reinits, r.reinitsHeard, r.selfRestarts, r.flags]

/-- `false`: blank or torn, and the record is empty. -/
def unitEeBusRecordDecode (block : Vector UInt8 EE_BUS_RECORD_BLOCK_LEN) : Bool × UnitBusRecord :=
  if block[7] ≠ checksum EE_BUS_RECORD_CHECKSUM_MASK block then (false, {})
  else (true,
    { silences := block[0]
      lastMinutes := block[1]
      longestMinutes := block[2]
      reinits := block[3]
      reinitsHeard := block[4]
      selfRestarts := block[5]
      flags := block[6] })

/-! ## §3. The writes. -/

/-- The two address jobs of the loop. -/
inductive AddressJob where
  | setAddress (v : UInt8)
  | clearAddress

/-- A reserved address is refused: nothing is written. -/
def AddressJob.writes : AddressJob → List (Nat × UInt8)
  | .setAddress v =>
      if v ≥ 1 && v ≤ 126 then writesAt EE_LAYOUT_VERSION_ADDR (unitEeIdentityEncode v).toList else []
  | .clearAddress => writesAt EE_LAYOUT_VERSION_ADDR unitEeIdentityClear.toList

/-- The day-0 initialisation: the identity goes last, backwards, its version
byte after everything else. -/
def day0Writes : List (Nat × UInt8) :=
  writesAt EE_CAL_OFFSET (unitEeCalEncode 0).toList ++
    writesAt EE_HEALTH_BASE (unitEeHealthEncode {}).toList ++
    [(EE_LAYOUT_VERSION_ADDR + 3, unitEeIdentityClear[3]),
      (EE_LAYOUT_VERSION_ADDR + 2, unitEeIdentityClear[2]),
      (EE_LAYOUT_VERSION_ADDR + 1, unitEeIdentityClear[1])] ++
    [(EE_LAYOUT_VERSION_ADDR, unitEeIdentityClear[0])]

/-- What `setup` writes before anything is read. -/
def setupWrites (memory : Memory) : List (Nat × UInt8) :=
  if unitEeIsBlank (memory EE_LAYOUT_VERSION_ADDR) then day0Writes else []

/-! ## §4. The codecs. -/

theorem word16_int16 (offset : Int16) :
    (word16 (byte16 offset.toUInt16 0) (byte16 offset.toUInt16 1)).toInt16 = offset := by
  rw [word16_bytes]
  exact Int16.toInt16_toUInt16 offset

theorem cal_kept : Kept EE_CAL_CHECKSUM_MASK unitEeCalEncode unitEeCalDecode := by
  apply kept_of_payload
  · intro offset
    exact word16_int16 offset
  · intro b
    apply Vector.ext
    intro i hi
    rw [Vector.getElem_pop]
    interval_cases i <;> simp

theorem health_kept : Kept EE_HEALTH_CHECKSUM_MASK unitEeHealthEncode unitEeHealthDecode := by
  apply kept_of_payload
  · intro h
    simp [withChecksum]
  · intro b
    apply Vector.ext
    intro i hi
    rw [Vector.getElem_pop]
    interval_cases i <;> simp

theorem busRecord_kept :
    Kept EE_BUS_RECORD_CHECKSUM_MASK unitEeBusRecordEncode unitEeBusRecordDecode := by
  apply kept_of_payload
  · intro r
    rfl
  · intro b
    apply Vector.ext
    intro i hi
    rw [Vector.getElem_pop]
    interval_cases i <;> simp

/-! ## §5. The identity and the offset. -/

/-- A block the identity was written as: an address, or cleared. -/
inductive IdentityBlock : Vector UInt8 4 → Prop
  | burned (address : UInt8) : IdentityBlock (unitEeIdentityEncode address)
  | cleared : IdentityBlock unitEeIdentityClear

theorem IdentityBlock.seals {block : Vector UInt8 4} (h : IdentityBlock block) :
    Sealed EE_ID_CHECKSUM_MASK block := by
  cases h with
  | burned address => exact withChecksum_sealed _ _
  | cleared => exact withChecksum_sealed _ _

theorem unitEeIdentityAddress_unsealed {block : Vector UInt8 4}
    (h : ¬Sealed EE_ID_CHECKSUM_MASK block) : unitEeIdentityAddress block = 0 := by
  have hsum : block[3] ≠ checksum EE_ID_CHECKSUM_MASK block := h
  unfold unitEeIdentityAddress
  rw [if_pos hsum, ite_self]

theorem IdentityBlock.cancels {old new : Vector UInt8 4} (hold : IdentityBlock old)
    (hnew : IdentityBlock new) : CancelsOnlyWhole old.toList new.toList := by
  have hsum : xorAll new.toList = xorAll old.toList := by
    rw [(sealed_iff _ _).mp hold.seals, (sealed_iff _ _).mp hnew.seals]
  -- the version byte is the same in both
  have hparts : ∀ block, IdentityBlock block →
      ∃ a b c, block.toList = [UNIT_EE_LAYOUT_VERSION, a, b, c] := by
    intro block h
    cases h with
    | burned address => exact ⟨_, _, _, rfl⟩
    | cleared => exact ⟨_, _, _, rfl⟩
  obtain ⟨a, b, c, hlist⟩ := hparts old hold
  obtain ⟨a', b', c', hlist'⟩ := hparts new hnew
  rw [hlist, hlist'] at hsum ⊢
  rw [xorAll_cons, xorAll_cons _ [a, b, c], UInt8.xor_right_inj] at hsum
  exact (cancels_two hsum).cons _

/-- **The identity, cut short**: the old address, the new one, or none. -/
theorem torn_identity {old new : Vector UInt8 4} (hold : IdentityBlock old)
    (hnew : IdentityBlock new) (j : Nat) :
    unitEeIdentityAddress (TornBlock.torn old new j) = unitEeIdentityAddress old ∨
      unitEeIdentityAddress (TornBlock.torn old new j) = unitEeIdentityAddress new ∨
        unitEeIdentityAddress (TornBlock.torn old new j) = 0 := by
  rcases torn_cases hold.seals (hold.cancels hnew) j with hunsealed | hsame | hdone
  · exact Or.inr (Or.inr (unitEeIdentityAddress_unsealed hunsealed))
  · rw [hsame]
    exact Or.inl rfl
  · rw [hdone]
    exact Or.inr (Or.inl rfl)

theorem unitEeIdentityAddress_encode {v : UInt8} (h : (v ≥ 1 && v ≤ 126) = true) :
    unitEeIdentityAddress (unitEeIdentityEncode v) = v := by
  simp only [Bool.and_eq_true, decide_eq_true_eq] at h
  have hversion : (unitEeIdentityEncode v)[0] = UNIT_EE_LAYOUT_VERSION := rfl
  have hflags : (unitEeIdentityEncode v)[2] = EE_ID_FLAG_PROVISIONED := rfl
  have haddress : (unitEeIdentityEncode v)[1] = v := rfl
  have hsum : (unitEeIdentityEncode v)[3] =
      checksum EE_ID_CHECKSUM_MASK (unitEeIdentityEncode v) := withChecksum_sealed _ _
  unfold unitEeIdentityAddress
  rw [hversion, if_neg (by decide), if_neg (not_not_intro hsum), hflags, if_neg (by decide),
    haddress, if_neg]
  simp only [Bool.or_eq_true, decide_eq_true_eq, not_or, UInt8.not_lt]
  exact h

theorem unitEeIdentityAddress_clear : unitEeIdentityAddress unitEeIdentityClear = 0 := by
  decide

/-- The address an address job burns; 0: the switches decide. -/
def AddressJob.address : AddressJob → UInt8
  | .setAddress v => v
  | .clearAddress => 0

/-- An address job, cut short. -/
theorem torn_job {memory : Memory} (hold : IdentityBlock (blockAt 4 EE_LAYOUT_VERSION_ADDR memory))
    (job : AddressJob) (j : Nat) :
    let now := unitEeIdentityAddress
      (blockAt 4 EE_LAYOUT_VERSION_ADDR (poke memory (job.writes.take j)))
    now = unitEeIdentityAddress (blockAt 4 EE_LAYOUT_VERSION_ADDR memory) ∨
      now = job.address ∨ now = 0 := by
  cases job with
  | setAddress v =>
      unfold AddressJob.writes
      dsimp only
      split
      · next hallowed =>
          rw [blockAt_poke]
          have htorn := torn_identity hold (.burned v) j
          rw [unitEeIdentityAddress_encode hallowed] at htorn
          exact htorn
      · rw [List.take_nil]
        exact Or.inl rfl
  | clearAddress =>
      unfold AddressJob.writes
      dsimp only
      rw [blockAt_poke]
      have htorn := torn_identity hold .cleared j
      rw [unitEeIdentityAddress_clear] at htorn
      exact htorn

theorem cal_cancels (old new : Int16) :
    CancelsOnlyWhole (unitEeCalEncode old).toList (unitEeCalEncode new).toList := by
  apply cancels_two
  have hold := (sealed_iff _ _).mp (cal_kept.seals old)
  have hnew := (sealed_iff _ _).mp (cal_kept.seals new)
  exact hnew.trans hold.symm

/-! ## §6. The day-0 initialisation. -/

/-- Everything the initialisation writes, in place. -/
structure LayoutComplete (memory : Memory) : Prop where
  identity : blockAt 4 EE_LAYOUT_VERSION_ADDR memory = unitEeIdentityClear
  calibration : blockAt 3 EE_CAL_OFFSET memory = unitEeCalEncode 0
  health : blockAt 15 EE_HEALTH_BASE memory = unitEeHealthEncode {}

/-- Up to its last byte the initialisation leaves the version byte alone. -/
theorem day0_front {j : Nat} (hj : j < day0Writes.length) (memory : Memory) :
    poke memory (day0Writes.take j) EE_LAYOUT_VERSION_ADDR = memory EE_LAYOUT_VERSION_ADDR := by
  apply poke_other
  have hall : ∀ w ∈ day0Writes.take 21, EE_LAYOUT_VERSION_ADDR ≠ w.1 := by decide
  intro w hw
  have hlength : day0Writes.length = 22 := by decide
  exact hall w (List.take_subset_take_left day0Writes (by omega) hw)

theorem day0_complete (memory : Memory) : LayoutComplete (poke memory day0Writes) := by
  have hcal : ∀ w ∈ day0Writes.drop 3, w.1 < EE_CAL_OFFSET ∨ EE_CAL_OFFSET + 3 ≤ w.1 := by decide
  have hhealth : ∀ w ∈ day0Writes.drop 18, w.1 < EE_HEALTH_BASE ∨ EE_HEALTH_BASE + 15 ≤ w.1 := by
    decide
  have htail : day0Writes.drop 18 =
      [(3, unitEeIdentityClear[3]), (2, unitEeIdentityClear[2]), (1, unitEeIdentityClear[1]),
        (0, unitEeIdentityClear[0])] := rfl
  constructor
  · rw [← List.take_append_drop 18 day0Writes, poke_append, htail]
    apply Vector.ext
    intro i hi
    interval_cases i <;> rfl
  · rw [← List.take_append_drop 3 day0Writes, poke_append, blockAt_poke_other hcal]
    exact blockAt_poke_whole EE_CAL_OFFSET (unitEeCalEncode 0) memory
  · rw [← List.take_append_drop 18 day0Writes, poke_append, blockAt_poke_other hhealth]
    have hsplit : day0Writes.take 18 = writesAt EE_CAL_OFFSET (unitEeCalEncode 0).toList ++
        writesAt EE_HEALTH_BASE (unitEeHealthEncode {}).toList := rfl
    rw [hsplit, poke_append]
    exact blockAt_poke_whole EE_HEALTH_BASE (unitEeHealthEncode {}) _

theorem torn_day0 {memory : Memory} (h : unitEeIsBlank (memory EE_LAYOUT_VERSION_ADDR) = true)
    (j : Nat) :
    unitEeIsBlank (poke memory (day0Writes.take j) EE_LAYOUT_VERSION_ADDR) = true ∨
      LayoutComplete (poke memory (day0Writes.take j)) := by
  by_cases hj : j < day0Writes.length
  · left
    rw [day0_front hj]
    exact h
  · right
    rw [List.take_of_length_le (Nat.le_of_not_lt hj)]
    exact day0_complete memory

/-! ## §7. A write that is cut short. -/

/-- **A torn identity or calibration write is harmless.**  Over an identity that
was an address or cleared, an address job that is cut short leaves the old
address, the new one or none; an offset that is cut short reads as the old, the
new or none; and a cut day-0 initialisation leaves the layout blank or whole. -/
theorem torn_identity_harmless (memory : Memory) (j : Nat) :
    (∀ job : AddressJob, IdentityBlock (blockAt 4 EE_LAYOUT_VERSION_ADDR memory) →
      unitEeIdentityAddress (blockAt 4 EE_LAYOUT_VERSION_ADDR
          (poke memory (job.writes.take j))) ∈
        [unitEeIdentityAddress (blockAt 4 EE_LAYOUT_VERSION_ADDR memory), job.address, 0]) ∧
    (∀ old new : Int16, blockAt 3 EE_CAL_OFFSET memory = unitEeCalEncode old →
      (unitEeCalDecode (blockAt 3 EE_CAL_OFFSET (poke memory
        ((writesAt EE_CAL_OFFSET (unitEeCalEncode new).toList).take j)))).2 ∈ [old, new, 0]) ∧
    (unitEeIsBlank (memory EE_LAYOUT_VERSION_ADDR) = true →
      unitEeIsBlank (poke memory ((setupWrites memory).take j) EE_LAYOUT_VERSION_ADDR) = true ∨
        LayoutComplete (poke memory ((setupWrites memory).take j))) := by
  refine ⟨?_, ?_, ?_⟩
  · intro job hold
    rcases torn_job hold job j with h | h | h
    · simp [h]
    · simp [h]
    · simp [h]
  · intro old new hold
    have hnever := (never_mixed_iff cal_kept EE_CAL_OFFSET old new).mpr (cal_cancels old new)
    rcases hnever memory hold j with hno | h | h
    · rw [unitEeCalDecode] at hno ⊢
      split
      · simp
      · next hsealed =>
          rw [if_neg hsealed] at hno
          exact Bool.noConfusion hno
    · simp [h]
    · simp [h]
  · intro hblank
    rw [setupWrites, if_pos hblank]
    exact torn_day0 hblank j

/-- An erased chip, a unit at address 5 that is to be 9, an offset of 3 that is
to be -4. -/
theorem torn_identity_harmless_once :
    unitEeIdentityAddress (blockAt 4 EE_LAYOUT_VERSION_ADDR
      (poke (poke (fun _ => 0xFF) (writesAt EE_LAYOUT_VERSION_ADDR (unitEeIdentityEncode 5).toList))
        ((AddressJob.setAddress 9).writes.take 2))) ∈ [5, 9, 0] ∧
    (unitEeCalDecode (blockAt 3 EE_CAL_OFFSET
      (poke (poke (fun _ => 0xFF) (writesAt EE_CAL_OFFSET (unitEeCalEncode 3).toList))
        ((writesAt EE_CAL_OFFSET (unitEeCalEncode (-4)).toList).take 1)))).2 ∈ [3, -4, 0] ∧
    (unitEeIsBlank (poke (fun _ => 0xFF) ((setupWrites (fun _ => 0xFF)).take 20)
        EE_LAYOUT_VERSION_ADDR) = true ∨
      LayoutComplete (poke (fun _ => 0xFF) ((setupWrites (fun _ => 0xFF)).take 20))) := by
  refine ⟨?_, ?_, ?_⟩
  · have hold : blockAt 4 EE_LAYOUT_VERSION_ADDR (poke (fun _ => 0xFF)
        (writesAt EE_LAYOUT_VERSION_ADDR (unitEeIdentityEncode 5).toList)) =
          unitEeIdentityEncode 5 := by decide
    have h := (torn_identity_harmless (poke (fun _ => 0xFF)
      (writesAt EE_LAYOUT_VERSION_ADDR (unitEeIdentityEncode 5).toList)) 2).1
        (.setAddress 9) (by rw [hold]; exact .burned 5)
    rw [hold] at h
    exact h
  · exact (torn_identity_harmless _ 1).2.1 3 (-4) (by decide)
  · exact (torn_identity_harmless _ 20).2.2 (by decide)

/-- **A record that was never held** is read after a cut exactly when the change
cancels half way: the XOR of its first bytes is 0, some of them have changed and
some behind them still have to. -/
theorem torn_record_iff (old new : UnitLifetimeHealth) (oldBus newBus : UnitBusRecord) :
    (NeverMixed EE_HEALTH_BASE unitEeHealthEncode unitEeHealthDecode old new ∧
      NeverMixed EE_BUS_RECORD unitEeBusRecordEncode unitEeBusRecordDecode oldBus newBus) ↔
    (CancelsOnlyWhole (unitEeHealthEncode old).toList (unitEeHealthEncode new).toList ∧
      CancelsOnlyWhole (unitEeBusRecordEncode oldBus).toList
        (unitEeBusRecordEncode newBus).toList) :=
  and_congr (never_mixed_iff health_kept EE_HEALTH_BASE old new)
    (never_mixed_iff busRecord_kept EE_BUS_RECORD oldBus newBus)

/-- The record of a silence written at six minutes, and at twelve. -/
def busRecordAtSix : UnitBusRecord :=
  { silences := 1, lastMinutes := 6, longestMinutes := 6, reinits := 2 }

def busRecordAtTwelve : UnitBusRecord :=
  { silences := 1, lastMinutes := 12, longestMinutes := 12, reinits := 4 }

/-- Cut after three bytes, twelve minutes stand beside the two restarts of six. -/
theorem busRecord_mixed :
    ¬NeverMixed EE_BUS_RECORD unitEeBusRecordEncode unitEeBusRecordDecode busRecordAtSix
      busRecordAtTwelve := by
  intro hnever
  rcases hnever (poke (fun _ => 0xFF)
    (writesAt EE_BUS_RECORD (unitEeBusRecordEncode busRecordAtSix).toList)) (by decide) 3 with
      h | h | h
  · exact absurd h (by decide)
  · exact absurd h (by decide)
  · exact absurd h (by decide)

end SplitFlap
