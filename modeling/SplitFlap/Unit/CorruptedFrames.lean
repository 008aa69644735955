/-
  SplitFlap.Unit.CorruptedFrames — a frame that loses one bit on the bus.

  What a master may put on the bus stands as `Sent`, with the bytes its
  encoders make of it and the mutation it asks for; what the unit takes from
  the bytes that arrive is `receiveLetter`.  Guard bytes and complements keep
  every argument, and the strict gate refuses every bare command, so that one
  turned bit stages nothing — unless it is bit 3 of the opcode of a JOG or of a
  SET_GATES: these two share a frame shape, and each arrives as the other.
-/
import SplitFlap.Lib.BitFlips
import SplitFlap.Lib.MaskedXor
import SplitFlap.Lib.Machine
import SplitFlap.Unit.Commands

namespace SplitFlap

namespace CorruptedFrames

open SplitFlap.BitFlips
open SplitFlap.Motion
open SplitFlap.Unit (SFP_CMD_REBOOT)

/-! ## §1. The unit. -/

/-- The sketch, with the stage of a boot update beside the flag for it. -/
structure Slave where
  unit : UnitState
  pendingBootUpdateStage : UInt8 := 0

def bootUpdateStage (stage : UInt8) : List UInt8 → UInt8
  | [] => stage
  | opcode :: args =>
      if opcode = SFP_CMD_BOOT_UPDATE then
        match complementedByte args with
        | some v => if v = 1 ∨ v = 2 then v else stage
        | none => stage
      else stage

def receiveLetter (s : Slave) (frame : List UInt8) : Slave where
  unit := Motion.receiveLetter s.unit frame
  pendingBootUpdateStage := bootUpdateStage s.pendingBootUpdateStage frame

/-- What waits for `loop()`. -/
structure Staged where
  pending : Pending := {}
  bootUpdateStage : UInt8 := 0
  deriving DecidableEq

def Slave.staged (s : Slave) : Staged := ⟨s.unit.pending, s.pendingBootUpdateStage⟩

def Slave.strict (s : Slave) : Bool :=
  unitGateEnabled s.unit.featureGates UNIT_GATE_STRICT_OPCODES

/-! ## §2. The master. -/

inductive Sent where
  | letter (index speed : UInt8)
  | query (opcode : UInt8)
  | enterBootloader
  | noArg (opcode : UInt8)
  | jog (steps : UInt8)
  | setOffset (offset : Int16)
  | setAddress (address : UInt8)
  | setGates (gates : UInt8)
  | bootUpdate (stage : UInt8)

def setOffsetEncode (offset : Int16) : List UInt8 :=
  let v := offset.toUInt16
  let c := ~~~v
  [MaskedXor.byte16 v 0, MaskedXor.byte16 v 1, MaskedXor.byte16 c 0, MaskedXor.byte16 c 1]

def Sent.frame : Sent → List UInt8
  | .letter index speed => [index, speed]
  | .query opcode => [opcode]
  | .enterBootloader => [SFP_CMD_ENTER_BOOTLOADER]
  | .noArg opcode => [opcode, ~~~opcode]
  | .jog steps => [SFP_CMD_JOG, steps, ~~~steps]
  | .setOffset offset => SFP_CMD_SET_OFFSET :: setOffsetEncode offset
  | .setAddress address => [SFP_CMD_SET_I2C_ADDRESS, address, ~~~address]
  | .setGates gates => [SFP_CMD_SET_GATES, gates, ~~~gates]
  | .bootUpdate stage => [SFP_CMD_BOOT_UPDATE, stage, ~~~stage]

/-- The letters there are at the speeds a master sends, the GET_* polls, and
the no-argument mutations that travel with their guard byte. -/
def Sent.Valid : Sent → Prop
  | .letter index speed => index < AMOUNTFLAPS ∧ speed ≤ 12
  | .query opcode => 0x81 ≤ opcode ∧ opcode ≤ 0x8C
  | .noArg opcode => sfpIsNoArgMutation opcode = true ∧ opcode ≠ SFP_CMD_ENTER_BOOTLOADER
  | _ => True

/-- A no-argument mutation, staged. -/
def stageNoArg (opcode : UInt8) (p : Pending) : Pending :=
  if opcode = SFP_CMD_ENTER_BOOTLOADER ∨ opcode = SFP_CMD_REBOOT then { p with bootloader := true }
  else if opcode = SFP_CMD_START_SELF_TEST then { p with selfTest := true }
  else if opcode = SFP_CMD_HOME then { p with home := true }
  else if opcode = SFP_CMD_CLEAR_I2C_ADDRESS then { p with clearAddress := true }
  else if opcode = SFP_CMD_IDENTIFY then { p with identify := true }
  else if opcode = SFP_CMD_RESET_ODOMETER then { p with odometerReset := true }
  else p

/-- What the master wants of the unit. -/
def Sent.asks (m : Sent) (st : Staged) : Staged :=
  match m with
  | .letter _ _ => st
  | .query _ => st
  | .enterBootloader => { st with pending := { st.pending with bootloader := true } }
  | .noArg opcode => { st with pending := stageNoArg opcode st.pending }
  | .jog steps => { st with pending := { st.pending with jogSteps := steps.toInt8 } }
  | .setOffset offset =>
      { st with pending := { st.pending with offsetValue := offset, offsetWrite := true } }
  | .setAddress address =>
      { st with pending := { st.pending with addressValue := address, setAddress := true } }
  | .setGates gates =>
      { st with pending := { st.pending with gatesValue := gates, gatesWrite := true } }
  | .bootUpdate stage =>
      { st with
        pending := { st.pending with bootUpdate := true }
        bootUpdateStage := stage }

/-! ## §3. The switch, opcode by opcode. -/

section Command

variable {strict : Bool} {p : Pending} {opcode : UInt8} {args : List UInt8}

theorem command_refused (hmutation : sfpIsNoArgMutation opcode = true)
    (hrefused : noArgMutationAccepted opcode strict args = false) :
    command strict p opcode args = p := by
  unfold command
  rw [if_pos ⟨hmutation, hrefused⟩]

theorem command_noArg (hmutation : sfpIsNoArgMutation opcode = true)
    (haccepted : noArgMutationAccepted opcode strict args = true) :
    command strict p opcode args = stageNoArg opcode p := by
  have hpast : ¬(sfpIsNoArgMutation opcode = true ∧
      noArgMutationAccepted opcode strict args = false) := by
    rw [haccepted]
    exact fun h => Bool.noConfusion h.2
  unfold command
  rw [if_neg hpast]
  unfold sfpIsNoArgMutation at hmutation
  rw [decide_eq_true_eq] at hmutation
  obtain rfl | rfl | rfl | rfl | rfl | rfl | rfl := hmutation <;> rfl

theorem command_jog : command strict p SFP_CMD_JOG args =
    match jogDecode strict args with
    | some steps => { p with jogSteps := steps }
    | none => p := rfl

theorem command_offset : command strict p SFP_CMD_SET_OFFSET args =
    match setOffsetDecode args with
    | some offset =>
        if offsetInRange offset then { p with offsetValue := offset, offsetWrite := true } else p
    | none => p := rfl

theorem command_address : command strict p SFP_CMD_SET_I2C_ADDRESS args =
    match complementedByte args with
    | some v => { p with addressValue := v, setAddress := true }
    | none => p := rfl

theorem command_gates : command strict p SFP_CMD_SET_GATES args =
    match complementedByte args with
    | some v => if unitGateBitsKnown v then { p with gatesValue := v, gatesWrite := true } else p
    | none => p := rfl

theorem command_bootUpdate : command strict p SFP_CMD_BOOT_UPDATE args =
    match complementedByte args with
    | some stage => if stage = 1 ∨ stage = 2 then { p with bootUpdate := true } else p
    | none => p := rfl

theorem command_other (hmutation : sfpIsNoArgMutation opcode = false)
    (hjog : opcode ≠ SFP_CMD_JOG) (hoffset : opcode ≠ SFP_CMD_SET_OFFSET)
    (haddress : opcode ≠ SFP_CMD_SET_I2C_ADDRESS) (hgates : opcode ≠ SFP_CMD_SET_GATES)
    (hupdate : opcode ≠ SFP_CMD_BOOT_UPDATE) : command strict p opcode args = p := by
  have hnone := hmutation
  unfold sfpIsNoArgMutation at hnone
  rw [decide_eq_false_iff_not] at hnone
  simp only [not_or] at hnone
  obtain ⟨hbootloader, hhome, hreboot, hclear, hidentify, hodometer, htest⟩ := hnone
  simp only [command, hmutation, Bool.false_eq_true, false_and, if_false, hjog, hoffset, haddress,
    hgates, hupdate, hbootloader, hhome, hreboot, hclear, hidentify, hodometer, htest, false_or]

end Command

/-! ## §4. What a frame can stage. -/

/-- Two bytes and their complements, as the decoder puts them together. -/
theorem word16_not (b0 b1 : UInt8) : word16 (~~~b0) (~~~b1) = ~~~word16 b0 b1 := by
  have hlow := b0.toNat_lt
  have hhigh := b1.toNat_lt
  have hword : (word16 b0 b1).toNat = b0.toNat + b1.toNat * 2 ^ 8 := MaskedXor.word16_toNat b0 b1
  have hnot : (word16 (~~~b0) (~~~b1)).toNat = (~~~b0).toNat + (~~~b1).toNat * 2 ^ 8 :=
    MaskedXor.word16_toNat _ _
  apply UInt16.toNat_inj.mp
  rw [hnot, UInt16.toNat_not, hword, UInt8.toNat_not, UInt8.toNat_not]
  simp only [UInt8.size, UInt16.size]
  omega

theorem word16_injective {a0 a1 b0 b1 : UInt8} (h : word16 a0 a1 = word16 b0 b1) :
    a0 = b0 ∧ a1 = b1 := by
  have hlow := congrArg (MaskedXor.byte16 · 0) h
  have hhigh := congrArg (MaskedXor.byte16 · 1) h
  exact ⟨(MaskedXor.byte16_word16_low a0 a1).symm.trans
      (hlow.trans (MaskedXor.byte16_word16_low b0 b1)),
    (MaskedXor.byte16_word16_high a0 a1).symm.trans
      (hhigh.trans (MaskedXor.byte16_word16_high b0 b1))⟩

/-- A frame the unit acts on with the strict gate on, and what it leaves. -/
inductive Takes (st : Staged) : List UInt8 → Staged → Prop where
  | bootloader : Takes st [SFP_CMD_ENTER_BOOTLOADER] (Sent.enterBootloader.asks st)
  | noArg (opcode : UInt8) (h : sfpIsNoArgMutation opcode = true) :
      Takes st [opcode, ~~~opcode] ((Sent.noArg opcode).asks st)
  | jog (steps : UInt8) : Takes st [SFP_CMD_JOG, steps, ~~~steps] ((Sent.jog steps).asks st)
  | offset (b0 b1 : UInt8) (rest : List UInt8) :
      Takes st (SFP_CMD_SET_OFFSET :: b0 :: b1 :: ~~~b0 :: ~~~b1 :: rest)
        ((Sent.setOffset (word16 b0 b1).toInt16).asks st)
  | address (v : UInt8) (rest : List UInt8) :
      Takes st (SFP_CMD_SET_I2C_ADDRESS :: v :: ~~~v :: rest) ((Sent.setAddress v).asks st)
  | gates (v : UInt8) (rest : List UInt8) (h : unitGateBitsKnown v = true) :
      Takes st (SFP_CMD_SET_GATES :: v :: ~~~v :: rest) ((Sent.setGates v).asks st)
  | bootUpdate (v : UInt8) (rest : List UInt8) :
      Takes st (SFP_CMD_BOOT_UPDATE :: v :: ~~~v :: rest) ((Sent.bootUpdate v).asks st)

theorem complementedByte_some {args : List UInt8} {v : UInt8}
    (h : complementedByte args = some v) : ∃ rest, args = v :: ~~~v :: rest := by
  unfold complementedByte at h
  split at h
  · rename_i b comp rest
    split at h
    · rename_i hcomp
      obtain rfl := Option.some.inj h
      exact ⟨rest, by rw [hcomp]⟩
    · exact nomatch h
  · exact nomatch h

theorem setOffsetDecode_some {args : List UInt8} {offset : Int16}
    (h : setOffsetDecode args = some offset) :
    ∃ b0 b1 rest, args = b0 :: b1 :: ~~~b0 :: ~~~b1 :: rest ∧ offset = (word16 b0 b1).toInt16 := by
  unfold setOffsetDecode at h
  split at h
  · rename_i b0 b1 b2 b3 rest
    split at h
    · rename_i hcomp
      rw [← word16_not] at hcomp
      obtain ⟨rfl, rfl⟩ := word16_injective hcomp
      exact ⟨b0, b1, rest, rfl, (Option.some.inj h).symm⟩
    · exact nomatch h
  · exact nomatch h

theorem jogDecode_strict {args : List UInt8} {steps : Int8}
    (h : jogDecode true args = some steps) : ∃ v : UInt8, args = [v, ~~~v] ∧ steps = v.toInt8 := by
  unfold jogDecode at h
  split at h
  · exact nomatch h
  · rename_i v comp
    split at h
    · rename_i hcomp
      exact ⟨v, by rw [hcomp], (Option.some.inj h).symm⟩
    · exact nomatch h
  · exact nomatch h

theorem complementedByte_pair (v : UInt8) (rest : List UInt8) :
    complementedByte (v :: ~~~v :: rest) = some v := if_pos rfl

theorem jogDecode_pair (strict : Bool) (v : UInt8) :
    jogDecode strict [v, ~~~v] = some v.toInt8 := if_pos rfl

theorem accepted_strict {opcode : UInt8} {args : List UInt8}
    (h : noArgMutationAccepted opcode true args = true) :
    (opcode = SFP_CMD_ENTER_BOOTLOADER ∧ args = []) ∨ args = [~~~opcode] := by
  unfold noArgMutationAccepted at h
  split at h
  · exact .inl ⟨by simpa using h, rfl⟩
  · rename_i guard
    rw [decide_eq_true_eq] at h
    exact .inr (by rw [h])
  · exact nomatch h

theorem bootUpdateStage_other {stage opcode : UInt8} {args : List UInt8}
    (h : opcode ≠ SFP_CMD_BOOT_UPDATE) : bootUpdateStage stage (opcode :: args) = stage :=
  if_neg h

theorem bootUpdateStage_update {stage : UInt8} {args : List UInt8} :
    bootUpdateStage stage (SFP_CMD_BOOT_UPDATE :: args) =
      match complementedByte args with
      | some v => if v = 1 ∨ v = 2 then v else stage
      | none => stage := rfl

theorem receive_letter {s : Slave} {firstByte : UInt8} {args : List UInt8}
    (h : ¬AMOUNTFLAPS ≤ firstByte) : (receiveLetter s (firstByte :: args)).staged = s.staged := by
  have hstage : bootUpdateStage s.pendingBootUpdateStage (firstByte :: args)
      = s.pendingBootUpdateStage := by
    apply bootUpdateStage_other
    rintro rfl
    exact h (by decide)
  have hpending : (Motion.receiveLetter s.unit (firstByte :: args)).pending = s.unit.pending := by
    unfold Motion.receiveLetter
    dsimp only
    rw [if_neg h]
    split <;> rfl
  show (⟨(Motion.receiveLetter s.unit (firstByte :: args)).pending, _⟩ : Staged) = ⟨_, _⟩
  rw [hpending]
  exact congrArg (Staged.mk s.unit.pending) hstage

theorem receive_command {s : Slave} {opcode : UInt8} {args : List UInt8} (hstrict : s.strict = true)
    (h : AMOUNTFLAPS ≤ opcode) : (receiveLetter s (opcode :: args)).staged =
      ⟨command true s.unit.pending opcode args,
        bootUpdateStage s.pendingBootUpdateStage (opcode :: args)⟩ := by
  have hpending : (Motion.receiveLetter s.unit (opcode :: args)).pending
      = command true s.unit.pending opcode args := by
    unfold Motion.receiveLetter
    dsimp only
    rw [if_pos h]
    unfold receiveCommand
    dsimp only
    unfold Slave.strict at hstrict
    rw [hstrict]
  show (⟨(Motion.receiveLetter s.unit (opcode :: args)).pending, _⟩ : Staged) = ⟨_, _⟩
  rw [hpending]
  rfl

/-- **With the strict gate on a frame stages nothing, or it is one of these.** -/
theorem receive_takes {s : Slave} (hstrict : s.strict = true) (got : List UInt8) :
    (receiveLetter s got).staged = s.staged ∨
      Takes s.staged got (receiveLetter s got).staged := by
  cases got with
  | nil => exact .inl rfl
  | cons opcode args =>
      by_cases hletter : AMOUNTFLAPS ≤ opcode
      swap
      · exact .inl (receive_letter hletter)
      rw [receive_command hstrict hletter]
      cases hmutation : sfpIsNoArgMutation opcode with
      | true =>
          have hother : opcode ≠ SFP_CMD_BOOT_UPDATE := by
            rintro rfl
            exact absurd hmutation (by decide)
          rw [bootUpdateStage_other hother]
          cases haccepted : noArgMutationAccepted opcode true args with
          | false =>
              rw [command_refused hmutation haccepted]
              exact .inl rfl
          | true =>
              rw [command_noArg hmutation haccepted]
              obtain ⟨rfl, rfl⟩ | rfl := accepted_strict haccepted
              · exact .inr .bootloader
              · exact .inr (.noArg opcode hmutation)
      | false =>
          by_cases hjog : opcode = SFP_CMD_JOG
          · subst hjog
            rw [command_jog, bootUpdateStage_other (by decide)]
            cases hdecode : jogDecode true args with
            | none => exact .inl rfl
            | some steps =>
                obtain ⟨v, rfl, rfl⟩ := jogDecode_strict hdecode
                exact .inr (.jog v)
          by_cases hoffset : opcode = SFP_CMD_SET_OFFSET
          · subst hoffset
            rw [command_offset, bootUpdateStage_other (by decide)]
            cases hdecode : setOffsetDecode args with
            | none => exact .inl rfl
            | some offset =>
                obtain ⟨b0, b1, rest, rfl, rfl⟩ := setOffsetDecode_some hdecode
                dsimp only
                split
                · exact .inr (.offset b0 b1 rest)
                · exact .inl rfl
          by_cases haddress : opcode = SFP_CMD_SET_I2C_ADDRESS
          · subst haddress
            rw [command_address, bootUpdateStage_other (by decide)]
            cases hdecode : complementedByte args with
            | none => exact .inl rfl
            | some v =>
                obtain ⟨rest, rfl⟩ := complementedByte_some hdecode
                exact .inr (.address v rest)
          by_cases hgates : opcode = SFP_CMD_SET_GATES
          · subst hgates
            rw [command_gates, bootUpdateStage_other (by decide)]
            cases hdecode : complementedByte args with
            | none => exact .inl rfl
            | some v =>
                obtain ⟨rest, rfl⟩ := complementedByte_some hdecode
                dsimp only
                split
                · rename_i hknown
                  exact .inr (.gates v rest hknown)
                · exact .inl rfl
          by_cases hupdate : opcode = SFP_CMD_BOOT_UPDATE
          · subst hupdate
            rw [command_bootUpdate, bootUpdateStage_update]
            cases hdecode : complementedByte args with
            | none => exact .inl rfl
            | some v =>
                obtain ⟨rest, rfl⟩ := complementedByte_some hdecode
                dsimp only
                split
                · exact .inr (.bootUpdate v rest)
                · exact .inl rfl
          · rw [bootUpdateStage_other hupdate,
              command_other hmutation hjog hoffset haddress hgates hupdate]
            exact .inl rfl

/-! ## §5. One bit. -/

/-- A JOG that arrives as a SET_GATES, or a SET_GATES that arrives as a JOG,
asking for something that does not already wait. -/
def Crossed (st : Staged) (m : Sent) (got : List UInt8) : Prop :=
  match m with
  | .jog steps =>
      got = [SFP_CMD_SET_GATES, steps, ~~~steps] ∧ unitGateBitsKnown steps = true ∧
        ¬(st.pending.gatesWrite = true ∧ st.pending.gatesValue = steps)
  | .setGates gates =>
      got = [SFP_CMD_JOG, gates, ~~~gates] ∧ st.pending.jogSteps ≠ gates.toInt8
  | _ => False

/-- The frame stages nothing, or what the master asked for with its argument. -/
def Faithful (s : Slave) (m : Sent) (got : List UInt8) : Prop :=
  got ≠ [SFP_CMD_ENTER_BOOTLOADER] →
    (receiveLetter s got).staged = s.staged ∨ (receiveLetter s got).staged = m.asks s.staged

/-- What a no-argument opcode looks like with its guard. -/
theorem Takes.of_pair {st st' : Staged} {a b : UInt8} (h : Takes st [a, b] st') :
    b = ~~~a ∧ sfpIsNoArgMutation a = true ∧ st' = (Sent.noArg a).asks st := by
  cases h with
  | noArg opcode hmutation => exact ⟨rfl, hmutation, rfl⟩

theorem Takes.of_single {st st' : Staged} {a : UInt8} (h : Takes st [a] st') :
    a = SFP_CMD_ENTER_BOOTLOADER := by
  cases h with
  | bootloader => rfl

/-- The four commands of two bytes behind the opcode. -/
theorem Takes.of_triple {st st' : Staged} {a b c : UInt8} (h : Takes st [a, b, c] st') :
    c = ~~~b ∧
      (a = SFP_CMD_JOG ∧ st' = (Sent.jog b).asks st ∨
        a = SFP_CMD_SET_I2C_ADDRESS ∧ st' = (Sent.setAddress b).asks st ∨
        a = SFP_CMD_SET_GATES ∧ unitGateBitsKnown b = true ∧ st' = (Sent.setGates b).asks st ∨
        a = SFP_CMD_BOOT_UPDATE ∧ st' = (Sent.bootUpdate b).asks st) := by
  cases h with
  | jog steps => exact ⟨rfl, .inl ⟨rfl, rfl⟩⟩
  | address v rest => exact ⟨rfl, .inr (.inl ⟨rfl, rfl⟩)⟩
  | gates v rest hknown => exact ⟨rfl, .inr (.inr (.inl ⟨rfl, hknown, rfl⟩))⟩
  | bootUpdate v rest => exact ⟨rfl, .inr (.inr (.inr ⟨rfl, rfl⟩))⟩

/-- Behind an opcode that may have lost its bit the argument is the one sent. -/
theorem argument_kept {opcode v a b : UInt8}
    (h : AtMostOneBit [opcode, v, ~~~v] [a, b, ~~~b]) :
    b = v ∧ (a = opcode ∨ ∃ k, a = opcode ^^^ bit k) := by
  by_cases hsame : a = opcode
  · subst hsame
    exact ⟨h.tail.pair_kept, .inl rfl⟩
  · obtain ⟨hrest, hflip⟩ := h.of_head_ne hsame
    exact ⟨(List.cons.inj hrest).1, .inr hflip⟩

/-- How far the opcodes with arguments lie apart. -/
theorem jog_flips (k : Fin 8) : SFP_CMD_JOG ^^^ bit k ≠ SFP_CMD_SET_I2C_ADDRESS ∧
    SFP_CMD_JOG ^^^ bit k ≠ SFP_CMD_BOOT_UPDATE := by
  revert k
  decide

theorem address_flips (k : Fin 8) : SFP_CMD_SET_I2C_ADDRESS ^^^ bit k ≠ SFP_CMD_JOG ∧
    SFP_CMD_SET_I2C_ADDRESS ^^^ bit k ≠ SFP_CMD_SET_GATES ∧
    SFP_CMD_SET_I2C_ADDRESS ^^^ bit k ≠ SFP_CMD_BOOT_UPDATE := by
  revert k
  decide

theorem gates_flips (k : Fin 8) : SFP_CMD_SET_GATES ^^^ bit k ≠ SFP_CMD_SET_I2C_ADDRESS ∧
    SFP_CMD_SET_GATES ^^^ bit k ≠ SFP_CMD_BOOT_UPDATE := by
  revert k
  decide

theorem bootUpdate_flips (k : Fin 8) : SFP_CMD_BOOT_UPDATE ^^^ bit k ≠ SFP_CMD_JOG ∧
    SFP_CMD_BOOT_UPDATE ^^^ bit k ≠ SFP_CMD_SET_I2C_ADDRESS ∧
    SFP_CMD_BOOT_UPDATE ^^^ bit k ≠ SFP_CMD_SET_GATES := by
  revert k
  decide

theorem offset_flips (k : Fin 8) : SFP_CMD_SET_OFFSET ^^^ bit k ≠ SFP_CMD_SET_I2C_ADDRESS ∧
    SFP_CMD_SET_OFFSET ^^^ bit k ≠ SFP_CMD_SET_GATES ∧
    SFP_CMD_SET_OFFSET ^^^ bit k ≠ SFP_CMD_BOOT_UPDATE := by
  revert k
  decide

/-! ## §6. Frame by frame. -/

section Frames

variable {st st' : Staged} {got : List UInt8}

theorem query_takes {opcode : UInt8} (hbit : AtMostOneBit [opcode] got)
    (hbare : got ≠ [SFP_CMD_ENTER_BOOTLOADER]) : ¬Takes st got st' := by
  intro htakes
  obtain ⟨a, rfl⟩ := List.length_eq_one_iff.mp hbit.length
  exact hbare (by rw [htakes.of_single])

/-- The speeds a master sends are no opcode's guard byte. -/
theorem letter_takes {index speed : UInt8} (hindex : index < AMOUNTFLAPS) (hspeed : speed ≤ 12)
    (hbit : AtMostOneBit [index, speed] got) : ¬Takes st got st' := by
  intro htakes
  obtain ⟨a, b, rfl⟩ := List.length_eq_two.mp hbit.length
  obtain ⟨hguard, hmutation, -⟩ := htakes.of_pair
  have hopcode : 0x80 ≤ a ∧ a ≤ 0x98 := by
    unfold sfpIsNoArgMutation at hmutation
    rw [decide_eq_true_eq] at hmutation
    obtain rfl | rfl | rfl | rfl | rfl | rfl | rfl := hmutation <;> decide
  have hne : a ≠ index := by
    rintro rfl
    exact absurd (UInt8.lt_of_lt_of_le hindex (by decide : AMOUNTFLAPS ≤ 0x80))
      (UInt8.not_lt.mpr hopcode.1)
  obtain ⟨hrest, -⟩ := hbit.of_head_ne hne
  have hb : b = speed := (List.cons.inj hrest).1
  subst hb
  have hsum : (~~~a).toNat = 255 - a.toNat := UInt8.toNat_not a
  have hhigh : a.toNat ≤ 0x98 := UInt8.le_iff_toNat_le.mp hopcode.2
  have hlow : (~~~a).toNat ≤ 12 := hguard ▸ UInt8.le_iff_toNat_le.mp hspeed
  omega

theorem noArg_takes {opcode : UInt8} (hbit : AtMostOneBit [opcode, ~~~opcode] got)
    (htakes : Takes st got st') : st' = (Sent.noArg opcode).asks st := by
  obtain ⟨a, b, rfl⟩ := List.length_eq_two.mp hbit.length
  obtain ⟨rfl, -, hst⟩ := htakes.of_pair
  rw [hbit.pair_kept] at hst
  exact hst

/-- The encoder's last two bytes are the complements of the first two. -/
theorem setOffsetEncode_eq (offset : Int16) : ∃ b0 b1 : UInt8,
    setOffsetEncode offset = [b0, b1, ~~~b0, ~~~b1] ∧ (word16 b0 b1).toInt16 = offset := by
  have hword : word16 (MaskedXor.byte16 offset.toUInt16 0) (MaskedXor.byte16 offset.toUInt16 1)
      = offset.toUInt16 := MaskedXor.word16_bytes offset.toUInt16
  have hnot := word16_not (MaskedXor.byte16 offset.toUInt16 0) (MaskedXor.byte16 offset.toUInt16 1)
  rw [hword] at hnot
  refine ⟨MaskedXor.byte16 offset.toUInt16 0, MaskedXor.byte16 offset.toUInt16 1, ?_, ?_⟩
  · unfold setOffsetEncode
    dsimp only
    rw [← hnot]
    exact congrArg₂ (fun c0 c1 => [_, _, c0, c1]) (MaskedXor.byte16_word16_low _ _)
      (MaskedXor.byte16_word16_high _ _)
  · rw [hword]
    exact Int16.toInt16_toUInt16 offset

theorem offset_takes {offset : Int16}
    (hbit : AtMostOneBit (Sent.setOffset offset).frame got) (htakes : Takes st got st') :
    st' = (Sent.setOffset offset).asks st := by
  obtain ⟨v0, v1, hencode, hoffset⟩ := setOffsetEncode_eq offset
  unfold Sent.frame at hbit
  dsimp only at hbit
  rw [hencode] at hbit
  obtain ⟨k, rfl⟩ | ⟨rest, rfl, hrest⟩ := hbit.cases_cons
  · -- the opcode was turned: no other one takes four bytes
    generalize hop : SFP_CMD_SET_OFFSET ^^^ bit k = opcode at htakes
    cases htakes with
    | offset => exact absurd hop (flip_ne _ k)
    | address => exact absurd hop (offset_flips k).1
    | gates => exact absurd hop (offset_flips k).2.1
    | bootUpdate => exact absurd hop (offset_flips k).2.2
  · have hlength := hrest.length
    cases htakes with
    | noArg => exact nomatch hlength
    | offset b0 b1 rest =>
        obtain ⟨rfl, rfl⟩ := hrest.quad_kept
        rw [hoffset]

theorem jog_takes {steps : UInt8} (hbit : AtMostOneBit (Sent.jog steps).frame got)
    (hcross : ¬Crossed st (.jog steps) got) (htakes : Takes st got st') :
    st' = st ∨ st' = (Sent.jog steps).asks st := by
  obtain ⟨a, b, c, rfl⟩ := List.length_eq_three.mp hbit.length
  obtain ⟨rfl, hshape⟩ := htakes.of_triple
  obtain ⟨rfl, hopcode⟩ := argument_kept hbit
  obtain ⟨rfl, hst⟩ | ⟨rfl, -⟩ | ⟨rfl, hknown, hst⟩ | ⟨rfl, -⟩ := hshape
  · exact .inr hst
  · obtain hsame | ⟨k, hk⟩ := hopcode
    · exact absurd hsame (by decide)
    · exact absurd hk.symm (jog_flips k).1
  · by_cases hwaits : st.pending.gatesWrite = true ∧ st.pending.gatesValue = b
    · left
      obtain ⟨hwrite, rfl⟩ := hwaits
      rw [hst]
      unfold Sent.asks
      dsimp only
      rw [← hwrite]
    · exact absurd ⟨rfl, hknown, hwaits⟩ hcross
  · obtain hsame | ⟨k, hk⟩ := hopcode
    · exact absurd hsame (by decide)
    · exact absurd hk.symm (jog_flips k).2

theorem gates_takes {gates : UInt8} (hbit : AtMostOneBit (Sent.setGates gates).frame got)
    (hcross : ¬Crossed st (.setGates gates) got) (htakes : Takes st got st') :
    st' = st ∨ st' = (Sent.setGates gates).asks st := by
  obtain ⟨a, b, c, rfl⟩ := List.length_eq_three.mp hbit.length
  obtain ⟨rfl, hshape⟩ := htakes.of_triple
  obtain ⟨rfl, hopcode⟩ := argument_kept hbit
  obtain ⟨rfl, hst⟩ | ⟨rfl, -⟩ | ⟨rfl, -, hst⟩ | ⟨rfl, -⟩ := hshape
  · by_cases hwaits : st.pending.jogSteps = b.toInt8
    · left
      rw [hst]
      unfold Sent.asks
      dsimp only
      rw [← hwaits]
    · exact absurd ⟨rfl, hwaits⟩ hcross
  · obtain hsame | ⟨k, hk⟩ := hopcode
    · exact absurd hsame (by decide)
    · exact absurd hk.symm (gates_flips k).1
  · exact .inr hst
  · obtain hsame | ⟨k, hk⟩ := hopcode
    · exact absurd hsame (by decide)
    · exact absurd hk.symm (gates_flips k).2

theorem address_takes {address : UInt8}
    (hbit : AtMostOneBit (Sent.setAddress address).frame got) (htakes : Takes st got st') :
    st' = (Sent.setAddress address).asks st := by
  obtain ⟨a, b, c, rfl⟩ := List.length_eq_three.mp hbit.length
  obtain ⟨rfl, hshape⟩ := htakes.of_triple
  obtain ⟨rfl, rfl | ⟨k, rfl⟩⟩ := argument_kept hbit
  · obtain ⟨h, -⟩ | ⟨-, hst⟩ | ⟨h, -⟩ | ⟨h, -⟩ := hshape
    · exact absurd h (by decide)
    · exact hst
    · exact absurd h (by decide)
    · exact absurd h (by decide)
  · obtain ⟨h, -⟩ | ⟨h, -⟩ | ⟨h, -⟩ | ⟨h, -⟩ := hshape
    · exact absurd h (address_flips k).1
    · exact absurd h (flip_ne _ k)
    · exact absurd h (address_flips k).2.1
    · exact absurd h (address_flips k).2.2

theorem bootUpdate_takes {stage : UInt8}
    (hbit : AtMostOneBit (Sent.bootUpdate stage).frame got) (htakes : Takes st got st') :
    st' = (Sent.bootUpdate stage).asks st := by
  obtain ⟨a, b, c, rfl⟩ := List.length_eq_three.mp hbit.length
  obtain ⟨rfl, hshape⟩ := htakes.of_triple
  obtain ⟨rfl, rfl | ⟨k, rfl⟩⟩ := argument_kept hbit
  · obtain ⟨h, -⟩ | ⟨h, -⟩ | ⟨h, -⟩ | ⟨-, hst⟩ := hshape
    · exact absurd h (by decide)
    · exact absurd h (by decide)
    · exact absurd h (by decide)
    · exact hst
  · obtain ⟨h, -⟩ | ⟨h, -⟩ | ⟨h, -⟩ | ⟨h, -⟩ := hshape
    · exact absurd h (bootUpdate_flips k).1
    · exact absurd h (bootUpdate_flips k).2.1
    · exact absurd h (bootUpdate_flips k).2.2
    · exact absurd h (flip_ne _ k)

end Frames

/-- A crossed frame stages the other command of the pair. -/
theorem crossed_unfaithful {s : Slave} {m : Sent} {got : List UInt8} (hstrict : s.strict = true)
    (hcross : Crossed s.staged m got) : ¬Faithful s m got := by
  intro hfaithful
  unfold Crossed at hcross
  split at hcross
  · rename_i steps
    obtain ⟨rfl, hknown, hfresh⟩ := hcross
    have hgates : (receiveLetter s [SFP_CMD_SET_GATES, steps, ~~~steps]).staged
        = (Sent.setGates steps).asks s.staged := by
      rw [receive_command hstrict (by decide), command_gates, bootUpdateStage_other (by decide),
        complementedByte_pair]
      dsimp only
      rw [if_pos hknown]
      rfl
    apply hfresh
    obtain hsame | hasked := hfaithful (fun h => nomatch h)
    · rw [hgates] at hsame
      rw [← hsame]
      exact ⟨rfl, rfl⟩
    · rw [hgates] at hasked
      have hwrite := congrArg (·.pending.gatesWrite) hasked
      have hvalue := congrArg (·.pending.gatesValue) hasked
      exact ⟨hwrite.symm, hvalue.symm⟩
  · rename_i gates
    obtain ⟨rfl, hfresh⟩ := hcross
    have hjog : (receiveLetter s [SFP_CMD_JOG, gates, ~~~gates]).staged
        = (Sent.jog gates).asks s.staged := by
      rw [receive_command hstrict (by decide), command_jog, bootUpdateStage_other (by decide),
        jogDecode_pair]
      rfl
    apply hfresh
    obtain hsame | hasked := hfaithful (fun h => nomatch h)
    · rw [hjog] at hsame
      exact (congrArg (·.pending.jogSteps) hsame).symm
    · rw [hjog] at hasked
      exact (congrArg (·.pending.jogSteps) hasked).symm
  · exact hcross

/-- **One frame**, of anything a master sends. -/
theorem faithful_iff {s : Slave} {m : Sent} {got : List UInt8} (hstrict : s.strict = true)
    (hvalid : m.Valid) (hbit : AtMostOneBit m.frame got) :
    Faithful s m got ↔ ¬Crossed s.staged m got := by
  constructor
  · intro hfaithful hcross
    exact crossed_unfaithful hstrict hcross hfaithful
  · intro hcross hbare
    obtain hsame | htakes := receive_takes hstrict got
    · exact .inl hsame
    cases m with
    | letter index speed => exact absurd htakes (letter_takes hvalid.1 hvalid.2 hbit)
    | query opcode => exact absurd htakes (query_takes hbit hbare)
    | enterBootloader => exact absurd htakes (query_takes hbit hbare)
    | noArg opcode => exact .inr (noArg_takes hbit htakes)
    | jog steps => exact jog_takes hbit hcross htakes
    | setOffset offset => exact .inr (offset_takes hbit htakes)
    | setAddress address => exact .inr (address_takes hbit htakes)
    | setGates gates => exact gates_takes hbit hcross htakes
    | bootUpdate stage => exact .inr (bootUpdate_takes hbit htakes)

/-! ## §7. Every run. -/

/-- A frame of the master's, and what of it reached the unit. -/
structure Transfer where
  sent : Sent
  got : List UInt8
  valid : sent.Valid
  oneBit : AtMostOneBit sent.frame got

/-- Between the frames `loop()` may leave the unit in any state. -/
inductive Happens where
  | frame (f : Transfer)
  | loops (s : Slave)

def step (s : Slave) : Happens → Option Slave
  | .frame f => some (receiveLetter s f.got)
  | .loops s' => some s'

/-- With the strict gate on, a frame stages nothing but what was asked for. -/
def StagesOnlyAsked (s : Slave) : Happens → Prop
  | .frame f => s.strict = true → Faithful s f.sent f.got
  | .loops _ => True

def NotCrossed (s : Slave) : Happens → Prop
  | .frame f => s.strict = true → ¬Crossed s.staged f.sent f.got
  | .loops _ => True

/-- **No run stages another mutation**, as long as no JOG and no SET_GATES
loses bit 3 of its opcode. -/
theorem one_flipped_bit (s : Slave) (frames : List Happens) :
    Machine.AllMeet StagesOnlyAsked step s frames ↔ Machine.AllMeet NotCrossed step s frames := by
  apply Machine.AllMeet.iff_of
  apply Machine.AllMeet.of_invariant (P := fun _ => True) (fun _ _ _ _ _ => trivial) ?_ trivial
  intro s a _
  cases a with
  | frame f =>
      constructor
      · intro h hstrict
        exact (faithful_iff hstrict f.valid f.oneBit).mp (h hstrict)
      · intro h hstrict
        exact (faithful_iff hstrict f.valid f.oneBit).mpr (h hstrict)
  | loops s' => exact Iff.rfl

/-- The wizard's jog of one step, with bit 3 of the opcode turned. -/
def oneStepAsGates : Transfer where
  sent := .jog 1
  got := [SFP_CMD_SET_GATES, 1, ~~~1]
  valid := trivial
  oneBit := .inr (.here SFP_CMD_JOG 3 [1, ~~~1])

/-- A unit with the strict gate on takes it for its new gates. -/
theorem jog_sets_gates : ¬Machine.AllMeet StagesOnlyAsked step
    { unit := { featureGates := UNIT_GATE_STRICT_OPCODES } } [.frame oneStepAsGates] := by
  intro h
  obtain hsame | hasked := h.1 (by decide) (by decide)
  · exact absurd (congrArg (·.pending.gatesWrite) hsame) (by decide)
  · exact absurd (congrArg (·.pending.gatesWrite) hasked) (by decide)

end CorruptedFrames

end SplitFlap
