/-
  SplitFlap.Unit.Replies — what a unit answers, and what its master makes of it.

  Every diagnostic reply of a unit is a few bytes and a masked checksum.  The
  two sides are written twice, on two processors; here they are put side by
  side, reply by reply.  A decoder judges the checksum first, then the values
  it can judge, and writes its output last (`maskedDecode`); `Intact` is what
  such a pair of codecs promises.
-/
import SplitFlap.Lib.MaskedXor
import SplitFlap.Unit.Facts

namespace SplitFlap

open MaskedXor

/-! ## §1. A reply's way to the master. -/

section Replies

variable {α β : Type} {n : Nat}

/-- A decoder: the checksum, the values' ranges, and only then the output. -/
def maskedDecode (mask : UInt8) (valid : Vector UInt8 (n + 1) → Bool)
    (read : Vector UInt8 (n + 1) → β) (buf : Vector UInt8 (n + 1)) (out : β) : Bool × β :=
  if ¬Sealed mask buf then (false, out)
  else if valid buf = false then (false, out)
  else (true, read buf)

/-- `unitQuery` and a decoder: a short answer is no answer. -/
def unitRead (decode : Vector UInt8 n → β → Bool × β) (answer : Option (Vector UInt8 n)) (out : β) :
    Bool × β :=
  match answer with
  | none => (false, out)
  | some buf => decode buf out

/-- The byte every unit answers a bare read with. -/
def rotationStatus (currentlyrotating : Bool) : UInt8 := if currentlyrotating then 1 else 0

/-- The answer of a unit that does not know the opcode: its rotation status,
and the bus padding behind it. -/
def oldUnitAnswer (n : Nat) (currentlyrotating : Bool) : Vector UInt8 (n + 1) :=
  (Vector.replicate (n + 1) 0xFF).set 0 (rotationStatus currentlyrotating) (Nat.succ_pos n)

/-- A reply crosses the bus intact or not at all. -/
structure Intact (encode : α → Vector UInt8 (n + 1))
    (read : Option (Vector UInt8 (n + 1)) → β → Bool × β) (seen : α → β) : Prop where
  round : ∀ a out, read (some (encode a)) out = (true, seen a)
  changed : ∀ a (i : Fin (n + 1)) b out, b ≠ (encode a)[i] →
    (read (some ((encode a).set i b)) out).1 = false
  zeros : ∀ out, (read (some (Vector.replicate (n + 1) 0)) out).1 = false
  ones : ∀ out, (read (some (Vector.replicate (n + 1) 0xFF)) out).1 = false
  oldUnit : ∀ rotating out, (read (some (oldUnitAnswer n rotating)) out).1 = false
  untouched : ∀ answer out, (read answer out).1 = false → (read answer out).2 = out

theorem maskedDecode_unsealed {mask : UInt8} {buf : Vector UInt8 (n + 1)} (h : ¬Sealed mask buf)
    (valid : Vector UInt8 (n + 1) → Bool) (read : Vector UInt8 (n + 1) → β) (out : β) :
    maskedDecode mask valid read buf out = (false, out) := if_pos h

/-- A mask that tells a reply from an idle bus and from an old unit's answer. -/
structure TellsApart (mask : UInt8) (n : Nat) : Prop where
  zeros : mask ≠ 0
  ones : (if (n + 1) % 2 = 0 then 0 else 0xFF) ≠ mask
  oldUnit : ∀ rotating, rotationStatus rotating ^^^ (if n % 2 = 0 then 0 else 0xFF) ≠ mask

/-- **A masked reply crosses intact or not at all**, with a mask that tells it
apart and a reader that reads back what was written. -/
theorem masked_intact {mask : UInt8} {valid : Vector UInt8 (n + 1) → Bool}
    {read : Vector UInt8 (n + 1) → β} {payload : α → Vector UInt8 n} {seen : α → β}
    (hmask : TellsApart mask n) (hvalid : ∀ a, valid (withChecksum mask (payload a)) = true)
    (hread : ∀ a, read (withChecksum mask (payload a)) = seen a) :
    Intact (fun a => withChecksum mask (payload a)) (unitRead (maskedDecode mask valid read))
      seen := by
  have hreject : ∀ buf : Vector UInt8 (n + 1), ¬Sealed mask buf → ∀ out,
      (unitRead (maskedDecode mask valid read) (some buf) out).1 = false := by
    intro buf hbuf out
    show (maskedDecode mask valid read buf out).1 = false
    rw [maskedDecode_unsealed hbuf]
  refine ⟨?_, ?_, ?_, ?_, ?_, ?_⟩
  · intro a out
    show maskedDecode mask valid read (withChecksum mask (payload a)) out = (true, seen a)
    unfold maskedDecode
    rw [if_neg (not_not_intro (withChecksum_sealed mask (payload a))), hvalid a, hread a]
    rfl
  · intro a i b out hb
    exact hreject _ ((withChecksum_sealed mask (payload a)).changed i.isLt hb) out
  · intro out
    refine hreject _ ?_ out
    rw [replicate_sealed_iff]
    intro hzero
    exact hmask.zeros (by rw [← hzero]; split <;> rfl)
  · intro out
    refine hreject _ ?_ out
    rw [replicate_sealed_iff]
    exact hmask.ones
  · intro rotating out
    refine hreject _ ?_ out
    rw [oldUnitAnswer, padded_sealed_iff]
    exact hmask.oldUnit rotating
  · intro answer out hno
    cases answer with
    | none => rfl
    | some buf =>
        replace hno : (maskedDecode mask valid read buf out).1 = false := hno
        show (maskedDecode mask valid read buf out).2 = out
        unfold maskedDecode at hno ⊢
        split
        · rfl
        · split
          · rfl
          · next hsealed hvalid =>
              rw [if_neg hsealed, if_neg hvalid] at hno
              cases hno

end Replies

/-! ## §2. GET_STATUS, GET_ODOMETER. -/

abbrev STATUS_REPLY_CHECKSUM_MASK : UInt8 := 0x7E
abbrev STATUS_REPLY_LEN : UInt8 := 9
abbrev ODO_REPLY_CHECKSUM_MASK : UInt8 := 0xA5

/-- What a unit's GET_STATUS answer is made of. -/
structure UnitStatusSource where
  currentlyrotating : Bool := false
  statusLastHomeFailed : Bool := false
  statusHallNeverTriggered : Bool := false
  addressFromEeprom : Bool := false
  homed : Bool := false
  resetStatusByte : UInt8 := 0
  lifetimeBrownoutCount : UInt8 := 0
  lifetimeWatchdogCount : UInt8 := 0
  uptimeSeconds : UInt16 := 0
  badCommandCount : UInt8 := 0
  lastHomingStepCount : UInt16 := 0

namespace UnitStatusSource

def flags (u : UnitStatusSource) : UInt8 :=
  (if u.currentlyrotating then 1 else 0) ||| (if u.statusLastHomeFailed then 2 else 0) |||
    (if u.statusHallNeverTriggered then 4 else 0) ||| (if u.addressFromEeprom then 16 else 0) |||
    (if u.homed then 32 else 0)

/-- The homing steps go over the wire in sixteens, saturating. -/
def lastHomeScaled (u : UnitStatusSource) : UInt8 :=
  if u.lastHomingStepCount >>> 4 > 0xFF then 0xFF else (u.lastHomingStepCount >>> 4).toUInt8

def payload (u : UnitStatusSource) : Vector UInt8 8 :=
  #v[u.flags, u.resetStatusByte, u.lifetimeBrownoutCount, u.lifetimeWatchdogCount,
    byte16 u.uptimeSeconds 1, byte16 u.uptimeSeconds 0, u.badCommandCount, u.lastHomeScaled]

end UnitStatusSource

def statusEncodeReply (payload : Vector UInt8 8) : Vector UInt8 9 :=
  withChecksum STATUS_REPLY_CHECKSUM_MASK payload

def statusReadbackValid (buf : Vector UInt8 9) (len : UInt8) (out : Vector UInt8 8) :
    Bool × Vector UInt8 8 :=
  if len < STATUS_REPLY_LEN then (false, out)
  else maskedDecode STATUS_REPLY_CHECKSUM_MASK (fun _ => true) (fun buf => buf.pop) buf out

/-- `unitReadStatus`, of a checked payload. -/
def statusOf (p : Vector UInt8 8) : UnitStatus where
  flags := p[0]
  mcusrAtBoot := p[1]
  lifetimeBrownoutCount := p[2]
  lifetimeWatchdogCount := p[3]
  uptimeSeconds := p[4].toUInt16 <<< 8 ||| p[5].toUInt16
  badCommandCount := p[6]
  lastHomingStepCount := p[7].toUInt16 <<< 4

def unitReadStatus : Option (Vector UInt8 9) → UnitStatus → Bool × UnitStatus :=
  unitRead fun buf out =>
    match statusReadbackValid buf STATUS_REPLY_LEN (Vector.replicate 8 0) with
    | (true, p) => (true, statusOf p)
    | (false, _) => (false, out)

/-- What the master sees of a unit's status: the homing steps cut to sixteens,
at most 4080. -/
def UnitStatusSource.seen (u : UnitStatusSource) : UnitStatus where
  flags := u.flags
  mcusrAtBoot := u.resetStatusByte
  lifetimeBrownoutCount := u.lifetimeBrownoutCount
  lifetimeWatchdogCount := u.lifetimeWatchdogCount
  uptimeSeconds := u.uptimeSeconds
  badCommandCount := u.badCommandCount
  lastHomingStepCount := (min (u.lastHomingStepCount.toNat / 16 * 16) 4080).toUInt16

def odometerEncodeReply (revolutions : UInt32) : Vector UInt8 5 :=
  withChecksum ODO_REPLY_CHECKSUM_MASK #v[byte32 revolutions 0, byte32 revolutions 1,
    byte32 revolutions 2, byte32 revolutions 3]

def odometerReadbackValid (buf : Vector UInt8 5) (out : UInt32) : Bool × UInt32 :=
  maskedDecode ODO_REPLY_CHECKSUM_MASK (fun _ => true)
    (fun buf => word32 buf[0] buf[1] buf[2] buf[3]) buf out

/-! ## §3. GET_DIAG. -/

abbrev DRIFT_REPLY_CHECKSUM_MASK : UInt8 := 0xB7
abbrev DRIFT_LETTER_UNKNOWN : UInt8 := 0xFF
abbrev STEPS : UInt16 := 2038
abbrev AMOUNTFLAPS : UInt8 := 45

structure DriftState where
  drumPosition : UInt16 := 0
  positionKnown : Bool := false
  driftEvents : UInt8 := 0
  lastDriftSteps : Int16 := 0
  driftPending : Bool := false

def driftPhysicalLetter (s : DriftState) (calOffset : Int16) (stepsPerRev : UInt16)
    (flapAmount : UInt8) : UInt8 :=
  if s.positionKnown = false then DRIFT_LETTER_UNKNOWN
  else
    let fromZero := (s.drumPosition.toNat - calOffset.toInt : Int).tmod stepsPerRev.toNat
    let fromZero := if fromZero < 0 then fromZero + stepsPerRev.toNat else fromZero
    let letter :=
      (fromZero.toNat.toUInt32 * flapAmount.toUInt32 + stepsPerRev.toUInt32 / 2) /
        stepsPerRev.toUInt32
    (letter % flapAmount.toUInt32).toUInt8

/-- The drift's steps as the wire has them. -/
def driftClamped (steps : Int16) : Int16 :=
  let clamped := if 127 < steps then 127 else steps
  if clamped < -127 then -127 else clamped

def driftEncodeDiagReply (physicalLetter flags driftEvents : UInt8) (lastDriftSteps : Int16) :
    Vector UInt8 6 :=
  withChecksum DRIFT_REPLY_CHECKSUM_MASK
    #v[physicalLetter, flags, driftEvents, (driftClamped lastDriftSteps).toInt8.toUInt8, 0]

def driftFlags (s : DriftState) : UInt8 :=
  (if s.driftPending then 1 else 0) ||| (if s.positionKnown then 2 else 0)

/-- `driftRefreshReplyBuffers`, its GET_DIAG half: a drift and the calibration
offset it is seen under. -/
def driftReply (u : DriftState × Int16) : Vector UInt8 6 :=
  driftEncodeDiagReply (driftPhysicalLetter u.1 u.2 STEPS AMOUNTFLAPS) (driftFlags u.1)
    u.1.driftEvents u.1.lastDriftSteps

def diagReadbackValid (flapAmount : UInt8) (buf : Vector UInt8 6) (out : UnitDiagReading) :
    Bool × UnitDiagReading :=
  maskedDecode DRIFT_REPLY_CHECKSUM_MASK (fun buf => buf[0] = 0xFF ∨ buf[0] < flapAmount)
    (fun buf =>
      { physicalLetter := buf[0], flags := buf[1], driftEvents := buf[2]
        lastDriftSteps := buf[3].toInt8 }) buf out

/-- What the master sees of a drift: its last steps, at most 127 either way. -/
def driftSeen (u : DriftState × Int16) : UnitDiagReading where
  physicalLetter := driftPhysicalLetter u.1 u.2 STEPS AMOUNTFLAPS
  flags := driftFlags u.1
  driftEvents := u.1.driftEvents
  lastDriftSteps := (driftClamped u.1.lastDriftSteps).toInt8

/-! ## §4. GET_VITALS, GET_EXT_DIAG. -/

abbrev VITALS_REPLY_CHECKSUM_MASK : UInt8 := 0x3C
abbrev EXT_DIAG_REPLY_CHECKSUM_MASK : UInt8 := 0x93
abbrev EXT_DIAG_LINK_CHECKSUM_MASK : UInt8 := 0xC6

def vitalsEncodeReply (v : UnitVitals) : Vector UInt8 8 :=
  withChecksum VITALS_REPLY_CHECKSUM_MASK #v[byte16 v.vccNow_mV 0, byte16 v.vccNow_mV 1,
    byte16 v.vccMin_mV 0, byte16 v.vccMin_mV 1, v.cmdPos, byte16 v.freeRamMin 0,
    byte16 v.freeRamMin 1]

def vitalsReadbackValid (buf : Vector UInt8 8) (out : UnitVitals) : Bool × UnitVitals :=
  maskedDecode VITALS_REPLY_CHECKSUM_MASK (fun _ => true)
    (fun buf =>
      { vccNow_mV := word16 buf[0] buf[1], vccMin_mV := word16 buf[2] buf[3], cmdPos := buf[4]
        freeRamMin := word16 buf[5] buf[6] }) buf out

def extDiagEncodeReply (d : UnitExtDiag) : Vector UInt8 11 :=
  withChecksum EXT_DIAG_REPLY_CHECKSUM_MASK #v[byte16 d.stepExcessLast 0, byte16 d.stepExcessLast 1,
    byte16 d.stepExcessMax 0, byte16 d.stepExcessMax 1, byte16 d.vccSagLastMove 0,
    byte16 d.vccSagLastMove 1, d.hallEdgesLastRev, byte16 d.dutyWindow 0, byte16 d.dutyWindow 1,
    d.statusBits]

def extDiagReadbackValid (buf : Vector UInt8 11) (out : UnitExtDiag) : Bool × UnitExtDiag :=
  maskedDecode EXT_DIAG_REPLY_CHECKSUM_MASK (fun _ => true)
    (fun buf =>
      { stepExcessLast := word16 buf[0] buf[1], stepExcessMax := word16 buf[2] buf[3]
        vccSagLastMove := word16 buf[4] buf[5], hallEdgesLastRev := buf[6]
        dutyWindow := word16 buf[7] buf[8], statusBits := buf[9] }) buf out

def extDiagLinkEncode (l : UnitLinkStats) : Vector UInt8 10 :=
  withChecksum EXT_DIAG_LINK_CHECKSUM_MASK #v[byte32 l.uptimeSeconds 0, byte32 l.uptimeSeconds 1,
    byte32 l.uptimeSeconds 2, byte32 l.uptimeSeconds 3, byte16 l.rxFrames 0, byte16 l.rxFrames 1,
    byte16 l.txReplies 0, byte16 l.txReplies 1, l.deafHeals]

def extDiagLinkReadbackValid (ext : Vector UInt8 10) (out : UnitLinkStats) : Bool × UnitLinkStats :=
  maskedDecode EXT_DIAG_LINK_CHECKSUM_MASK (fun _ => true)
    (fun ext =>
      { uptimeSeconds := word32 ext[0] ext[1] ext[2] ext[3], rxFrames := word16 ext[4] ext[5]
        txReplies := word16 ext[6] ext[7], deafHeals := ext[8] }) ext out

/-- The whole GET_EXT_DIAG answer: the base packet and the link block. -/
def extDiagReply (u : UnitExtDiag × UnitLinkStats) : Vector UInt8 21 :=
  extDiagEncodeReply u.1 ++ extDiagLinkEncode u.2

/-- The base packet's bytes, and the link block's. -/
def extDiagBase (buf : Vector UInt8 21) : Vector UInt8 11 := (buf.extract 0 11).cast (by rfl)

def extDiagExt (buf : Vector UInt8 21) : Vector UInt8 10 := (buf.extract 11 21).cast (by rfl)

/-- `unitFactsFoldExtDiag`: each part is judged by its own checksum. -/
def unitFactsFoldExtDiag (fact : UnitFacts) (buf : Vector UInt8 21) : UnitFacts :=
  let fact := { fact with extDiagValid := false, linkValid := false }
  let fact :=
    match extDiagReadbackValid (extDiagBase buf) {} with
    | (true, d) => { fact with extDiag := d, extDiagValid := true }
    | (false, _) => fact
  match extDiagLinkReadbackValid (extDiagExt buf) {} with
  | (true, l) => { fact with link := l, linkValid := true }
  | (false, _) => fact

/-- `unitRefreshExtDiag`. -/
def unitRefreshExtDiag (fact : UnitFacts) (answer : Option (Vector UInt8 21)) : UnitFacts :=
  match answer with
  | none => { fact with extDiagValid := false, linkValid := false }
  | some buf => unitFactsFoldExtDiag fact buf

/-! ## §5. GET_LIFETIME, GET_BUS_RECORD. -/

abbrev LIFETIME_REPLY_CHECKSUM_MASK : UInt8 := 0x6E
abbrev LIFETIME_REPLY_LEN : UInt8 := 15
abbrev LIFETIME_FUTILE_REHOME_MAX : UInt8 := 0x7F
abbrev LIFETIME_STAND_DOWN_BIT : UInt8 := 0x80
abbrev BUS_RECORD_REPLY_CHECKSUM_MASK : UInt8 := 0xD4
abbrev BUS_RECORD_REPLY_LEN : UInt8 := 9

def lifetimeEncodeReply (f : UnitLifetimeFacts) : Vector UInt8 15 :=
  withChecksum LIFETIME_REPLY_CHECKSUM_MASK #v[f.layoutVersion, f.homeFailedCount, f.featureGates,
    (if f.idleHallFutileRehomes > LIFETIME_FUTILE_REHOME_MAX then LIFETIME_FUTILE_REHOME_MAX
      else f.idleHallFutileRehomes) ||| (if f.idleHallStoodDown then LIFETIME_STAND_DOWN_BIT else 0),
    byte16 f.stepExcessLifetimeMax 0, byte16 f.stepExcessLifetimeMax 1,
    byte16 f.selfTestFirstHallWindow 0, byte16 f.selfTestFirstHallWindow 1,
    byte16 f.selfTestFirstStepsPerRev 0, byte16 f.selfTestFirstStepsPerRev 1,
    byte16 f.selfTestLastHallWindow 0, byte16 f.selfTestLastHallWindow 1,
    byte16 f.selfTestLastStepsPerRev 0, byte16 f.selfTestLastStepsPerRev 1]

def lifetimeReadbackValid (buf : Vector UInt8 15) (len : UInt8) (out : UnitLifetimeFacts) :
    Bool × UnitLifetimeFacts :=
  if len < LIFETIME_REPLY_LEN then (false, out)
  else
    maskedDecode LIFETIME_REPLY_CHECKSUM_MASK (fun _ => true)
      (fun buf =>
        { layoutVersion := buf[0], homeFailedCount := buf[1], featureGates := buf[2]
          idleHallFutileRehomes := buf[3] &&& LIFETIME_FUTILE_REHOME_MAX
          idleHallStoodDown := buf[3] &&& LIFETIME_STAND_DOWN_BIT ≠ 0
          stepExcessLifetimeMax := word16 buf[4] buf[5]
          selfTestFirstHallWindow := word16 buf[6] buf[7]
          selfTestFirstStepsPerRev := word16 buf[8] buf[9]
          selfTestLastHallWindow := word16 buf[10] buf[11]
          selfTestLastStepsPerRev := word16 buf[12] buf[13] }) buf out

/-- What the master sees of a unit's lifetime: the futile re-homes, at most 127. -/
def lifetimeSeen (f : UnitLifetimeFacts) : UnitLifetimeFacts :=
  { f with
    idleHallFutileRehomes :=
      if f.idleHallFutileRehomes > LIFETIME_FUTILE_REHOME_MAX then LIFETIME_FUTILE_REHOME_MAX
      else f.idleHallFutileRehomes }

/-- The record, and the minutes of the silence that is going on. -/
def busRecordEncodeReply (u : UnitBusRecord × UInt8) : Vector UInt8 9 :=
  withChecksum BUS_RECORD_REPLY_CHECKSUM_MASK #v[u.1.silences, u.1.lastMinutes,
    u.1.longestMinutes, u.1.reinits, u.1.reinitsHeard, u.1.selfRestarts, u.1.flags, u.2]

def busRecordReadbackValid (buf : Vector UInt8 9) (len : UInt8) (out : UnitBusRecord × UInt8) :
    Bool × (UnitBusRecord × UInt8) :=
  if len < BUS_RECORD_REPLY_LEN then (false, out)
  else
    maskedDecode BUS_RECORD_REPLY_CHECKSUM_MASK (fun _ => true)
      (fun buf =>
        ({ silences := buf[0], lastMinutes := buf[1], longestMinutes := buf[2], reinits := buf[3]
           reinitsHeard := buf[4], selfRestarts := buf[5], flags := buf[6] }, buf[7])) buf out

/-! ## §6. GET_SELF_TEST, GET_BOOT_INFO. -/

abbrev SELFTEST_REPLY_CHECKSUM_MASK : UInt8 := 0x5C
abbrev SELFTEST_STATE_FAILED : UInt8 := 3
abbrev SELFTEST_REASON_REV_INCOMPLETE : UInt8 := 3
abbrev BOOT_INFO_CHECKSUM_MASK : UInt8 := 0x5A
abbrev BOOT_INFO_FLAG_LOCKFUSE_UNREADABLE : UInt8 := 0x80
abbrev BOOT_STATE_LAST : UInt8 := 5
abbrev BOOT_RESULT_COUNT : UInt8 := 7

inductive SelfTestState where
  | never
  | running
  | ok
  | failed
  deriving DecidableEq

inductive SelfTestReason where
  | none
  | hallStuck
  | hallNever
  | revIncomplete
  deriving DecidableEq

def SelfTestState.toByte : SelfTestState → UInt8
  | .never => 0
  | .running => 1
  | .ok => 2
  | .failed => 3

def SelfTestReason.toByte : SelfTestReason → UInt8
  | .none => 0
  | .hallStuck => 1
  | .hallNever => 2
  | .revIncomplete => 3

structure SelfTestResult where
  state : SelfTestState := .never
  stepsPerRev : UInt16 := 0
  hallWindowSteps : UInt16 := 0
  revTimeMs : UInt16 := 0
  reason : SelfTestReason := .none

def selfTestEncodeReply (r : SelfTestResult) : Vector UInt8 9 :=
  withChecksum SELFTEST_REPLY_CHECKSUM_MASK #v[r.state.toByte, byte16 r.stepsPerRev 0,
    byte16 r.stepsPerRev 1, byte16 r.hallWindowSteps 0, byte16 r.hallWindowSteps 1,
    byte16 r.revTimeMs 0, byte16 r.revTimeMs 1, r.reason.toByte]

def selfTestReadbackValid (buf : Vector UInt8 9) (out : UnitSelfTestReading) :
    Bool × UnitSelfTestReading :=
  maskedDecode SELFTEST_REPLY_CHECKSUM_MASK
    (fun buf => ¬buf[0] > SELFTEST_STATE_FAILED ∧ ¬buf[7] > SELFTEST_REASON_REV_INCOMPLETE)
    (fun buf =>
      { state := buf[0], stepsPerRev := word16 buf[1] buf[2]
        hallWindowSteps := word16 buf[3] buf[4], revTimeMs := word16 buf[5] buf[6]
        reason := buf[7] }) buf out

def SelfTestResult.seen (r : SelfTestResult) : UnitSelfTestReading where
  state := r.state.toByte
  stepsPerRev := r.stepsPerRev
  hallWindowSteps := r.hallWindowSteps
  revTimeMs := r.revTimeMs
  reason := r.reason.toByte

inductive BootSectionState where
  | unknown
  | old
  | page7Installed
  | trampoline
  | new
  | prevNew
  deriving DecidableEq

inductive BootUpdateResult where
  | none
  | stage1Ok
  | stage2Ok
  | refusedState
  | refusedLock
  | refusedBusy
  | verifyFailed
  deriving DecidableEq

def BootSectionState.toByte : BootSectionState → UInt8
  | .unknown => 0
  | .old => 1
  | .page7Installed => 2
  | .trampoline => 3
  | .new => 4
  | .prevNew => 5

def BootUpdateResult.toByte : BootUpdateResult → UInt8
  | .none => 0
  | .stage1Ok => 1
  | .stage2Ok => 2
  | .refusedState => 3
  | .refusedLock => 4
  | .refusedBusy => 5
  | .verifyFailed => 6

/-- What a unit's chip and its updater say of its boot section. -/
structure BootSource where
  lock : UInt8
  low : UInt8
  high : UInt8
  ext : UInt8
  flash0to3 : Vector UInt8 4
  sigRow : Vector UInt8 3
  fullCrc32 : UInt32
  state : BootSectionState
  lastBootUpdateResult : BootUpdateResult

def bootLockFuseReadFellThrough (lockByte fuseLow fuseHigh fuseExt : UInt8)
    (flash0to3 : Vector UInt8 4) : Bool :=
  fuseLow = flash0to3[0] ∧ lockByte = flash0to3[1] ∧ fuseExt = flash0to3[2] ∧
    fuseHigh = flash0to3[3]

def readLockAndFuses (u : BootSource) (r : BootUpdateReport) : BootUpdateReport :=
  if bootLockFuseReadFellThrough u.lock u.low u.high u.ext u.flash0to3 then
    { r with lockFuseReadable := false, sigRow := u.sigRow }
  else
    { r with
      lockFuseReadable := true, lockByte := u.lock, fuseLow := u.low, fuseHigh := u.high
      fuseExt := u.ext }

/-- `refreshBootInfoReply`, its report. -/
def bootReport (u : BootSource) : BootUpdateReport :=
  { readLockAndFuses u {} with
    bootCrc32 := u.fullCrc32
    state := u.state.toByte
    lastResult := u.lastBootUpdateResult.toByte }

def bootInfoEncode (r : BootUpdateReport) : Vector UInt8 11 :=
  withChecksum BOOT_INFO_CHECKSUM_MASK #v[
    if r.lockFuseReadable then r.lockByte else 0xFF,
    if r.lockFuseReadable then r.fuseLow else r.sigRow[0],
    if r.lockFuseReadable then r.fuseHigh else r.sigRow[1],
    if r.lockFuseReadable then r.fuseExt else r.sigRow[2],
    byte32 r.bootCrc32 0, byte32 r.bootCrc32 1, byte32 r.bootCrc32 2, byte32 r.bootCrc32 3,
    r.state,
    r.lastResult ||| (if r.lockFuseReadable then 0 else BOOT_INFO_FLAG_LOCKFUSE_UNREADABLE)]

def bootInfoDecode (buf : Vector UInt8 11) (out : BootUpdateReport) : Bool × BootUpdateReport :=
  maskedDecode BOOT_INFO_CHECKSUM_MASK
    (fun buf => ¬buf[8] > BOOT_STATE_LAST ∧
      ¬(buf[9] &&& ~~~BOOT_INFO_FLAG_LOCKFUSE_UNREADABLE) ≥ BOOT_RESULT_COUNT)
    (fun buf =>
      let readable := buf[9] &&& BOOT_INFO_FLAG_LOCKFUSE_UNREADABLE = 0
      { lockFuseReadable := readable
        lockByte := if readable then buf[0] else 0xFF
        fuseLow := if readable then buf[1] else 0xFF
        fuseHigh := if readable then buf[2] else 0xFF
        fuseExt := if readable then buf[3] else 0xFF
        sigRow := if readable then sigRowUnread else #v[buf[1], buf[2], buf[3]]
        bootCrc32 := word32 buf[4] buf[5] buf[6] buf[7]
        state := buf[8]
        lastResult := buf[9] &&& ~~~BOOT_INFO_FLAG_LOCKFUSE_UNREADABLE }) buf out

/-! ## §7. Every reply crosses intact or not at all. -/

theorem lastHome_seen (u : UnitStatusSource) : u.lastHomeScaled.toUInt16 <<< 4 =
    (min (u.lastHomingStepCount.toNat / 16 * 16) 4080).toUInt16 := by
  have hshift : (u.lastHomingStepCount >>> 4).toNat = u.lastHomingStepCount.toNat / 16 := by
    simp [Nat.shiftRight_eq_div_pow]
  apply UInt16.toNat_inj.mp
  unfold UnitStatusSource.lastHomeScaled
  split
  · next hmore =>
      rw [gt_iff_lt, UInt16.lt_iff_toNat_lt, hshift] at hmore
      replace hmore : 255 < u.lastHomingStepCount.toNat / 16 := hmore
      have hcut : min (u.lastHomingStepCount.toNat / 16 * 16) 4080 = 4080 := by omega
      rw [hcut]
      rfl
  · next hless =>
      rw [gt_iff_lt, UInt16.lt_iff_toNat_lt, hshift] at hless
      replace hless : ¬255 < u.lastHomingStepCount.toNat / 16 := hless
      have hcut : min (u.lastHomingStepCount.toNat / 16 * 16) 4080 =
          u.lastHomingStepCount.toNat / 16 * 16 := by omega
      have hbyte : u.lastHomingStepCount.toNat / 16 % 256 = u.lastHomingStepCount.toNat / 16 := by
        omega
      rw [hcut]
      simp [UInt16.toNat_shiftLeft, Nat.shiftLeft_eq, Nat.shiftRight_eq_div_pow, hbyte]

theorem unitReadStatus_eq : unitReadStatus =
    unitRead (maskedDecode STATUS_REPLY_CHECKSUM_MASK (fun _ => true)
      fun buf => statusOf buf.pop) := by
  funext answer out
  cases answer with
  | none => rfl
  | some buf =>
      unfold unitReadStatus unitRead statusReadbackValid maskedDecode
      dsimp only
      by_cases hsealed : Sealed STATUS_REPLY_CHECKSUM_MASK buf
      · simp [hsealed]
      · simp [hsealed]

theorem status_intact : Intact (fun u : UnitStatusSource => statusEncodeReply u.payload)
    unitReadStatus UnitStatusSource.seen := by
  rw [unitReadStatus_eq]
  refine masked_intact ⟨by decide, by decide, by decide⟩ (fun _ => rfl) ?_
  intro u
  have huptime : (byte16 u.uptimeSeconds 1).toUInt16 <<< 8 ||| (byte16 u.uptimeSeconds 0).toUInt16 =
      u.uptimeSeconds := by
    rw [UInt16.or_comm]
    exact word16_bytes u.uptimeSeconds
  simp [withChecksum, statusOf, UnitStatusSource.payload, UnitStatusSource.seen, huptime,
    lastHome_seen]

theorem odometer_intact : Intact odometerEncodeReply (unitRead odometerReadbackValid) id := by
  refine masked_intact ⟨by decide, by decide, by decide⟩ (fun _ => rfl) ?_
  intro revolutions
  exact word32_bytes revolutions

theorem driftPhysicalLetter_valid (s : DriftState) (calOffset : Int16) (stepsPerRev : UInt16) :
    driftPhysicalLetter s calOffset stepsPerRev AMOUNTFLAPS = 0xFF ∨
      driftPhysicalLetter s calOffset stepsPerRev AMOUNTFLAPS < AMOUNTFLAPS := by
  unfold driftPhysicalLetter
  split
  · exact .inl rfl
  · right
    dsimp only
    generalize (_ / _ : UInt32) = letter
    rw [UInt8.lt_iff_toNat_lt, UInt32.toNat_toUInt8, UInt32.toNat_mod]
    show letter.toNat % 45 % 256 < 45
    omega

theorem diag_intact : Intact driftReply (unitRead (diagReadbackValid AMOUNTFLAPS)) driftSeen := by
  refine masked_intact ⟨by decide, by decide, by decide⟩ ?_ ?_
  · intro u
    exact decide_eq_true (driftPhysicalLetter_valid u.1 u.2 STEPS)
  · intro u
    show UnitDiagReading.mk _ _ _ (driftClamped u.1.lastDriftSteps).toInt8.toUInt8.toInt8 = _
    rw [Int8.toInt8_toUInt8]
    rfl

theorem vitals_intact : Intact vitalsEncodeReply (unitRead vitalsReadbackValid) id := by
  refine masked_intact ⟨by decide, by decide, by decide⟩ (fun _ => rfl) ?_
  intro v
  simp [withChecksum]

theorem extDiag_intact : Intact extDiagEncodeReply (unitRead extDiagReadbackValid) id := by
  refine masked_intact ⟨by decide, by decide, by decide⟩ (fun _ => rfl) ?_
  intro d
  simp [withChecksum]

theorem link_intact : Intact extDiagLinkEncode (unitRead extDiagLinkReadbackValid) id := by
  refine masked_intact ⟨by decide, by decide, by decide⟩ (fun _ => rfl) ?_
  intro l
  simp [withChecksum]

/-- The low seven bits and the top bit of a byte do not mix. -/
theorem standDown_bits (x : UInt8) (hx : x ≤ LIFETIME_FUTILE_REHOME_MAX) (stoodDown : Bool) :
    (x ||| if stoodDown then LIFETIME_STAND_DOWN_BIT else 0) &&& LIFETIME_FUTILE_REHOME_MAX = x ∧
      decide ((x ||| if stoodDown then LIFETIME_STAND_DOWN_BIT else 0) &&&
        LIFETIME_STAND_DOWN_BIT ≠ 0) = stoodDown := by
  have hall : ∀ (n : Fin 128) (b : Bool),
      (UInt8.ofNat n ||| if b then LIFETIME_STAND_DOWN_BIT else 0) &&& LIFETIME_FUTILE_REHOME_MAX =
          UInt8.ofNat n ∧
        decide ((UInt8.ofNat n ||| if b then LIFETIME_STAND_DOWN_BIT else 0) &&&
          LIFETIME_STAND_DOWN_BIT ≠ 0) = b := by
    decide +kernel
  rw [UInt8.le_iff_toNat_le] at hx
  have hlt : x.toNat < 128 := Nat.lt_succ_of_le hx
  have hone := hall ⟨x.toNat, hlt⟩ stoodDown
  rwa [UInt8.ofNat_toNat] at hone

theorem lifetime_intact : Intact lifetimeEncodeReply
    (unitRead fun buf => lifetimeReadbackValid buf LIFETIME_REPLY_LEN) lifetimeSeen := by
  refine masked_intact ⟨by decide, by decide, by decide⟩ (fun _ => rfl) ?_
  intro f
  have hle : (lifetimeSeen f).idleHallFutileRehomes ≤ LIFETIME_FUTILE_REHOME_MAX := by
    unfold lifetimeSeen
    dsimp only
    split
    · exact UInt8.le_refl _
    · next hless => exact UInt8.not_lt.mp hless
  obtain ⟨hcount, hstood⟩ := standDown_bits _ hle f.idleHallStoodDown
  simp only [ne_eq, decide_not] at hstood
  simp [withChecksum]
  exact congrArg₂ (fun rehomes stoodDown =>
    { f with idleHallFutileRehomes := rehomes, idleHallStoodDown := stoodDown }) hcount hstood

theorem busRecord_intact : Intact busRecordEncodeReply
    (unitRead fun buf => busRecordReadbackValid buf BUS_RECORD_REPLY_LEN) id :=
  masked_intact ⟨by decide, by decide, by decide⟩ (fun _ => rfl) fun _ => rfl

theorem selfTest_intact :
    Intact selfTestEncodeReply (unitRead selfTestReadbackValid) SelfTestResult.seen := by
  refine masked_intact ⟨by decide, by decide, by decide⟩ ?_ ?_
  · intro r
    show decide (¬r.state.toByte > SELFTEST_STATE_FAILED ∧
      ¬r.reason.toByte > SELFTEST_REASON_REV_INCOMPLETE) = true
    cases r.state <;> cases r.reason <;> rfl
  · intro r
    simp [withChecksum, SelfTestResult.seen]

/-- The updater's last result, beside the flag in its top bit. -/
theorem result_bits (result : BootUpdateResult) (readable : Bool) :
    (result.toByte ||| if readable then 0 else BOOT_INFO_FLAG_LOCKFUSE_UNREADABLE) &&&
        ~~~BOOT_INFO_FLAG_LOCKFUSE_UNREADABLE = result.toByte ∧
      decide ((result.toByte ||| if readable then 0 else BOOT_INFO_FLAG_LOCKFUSE_UNREADABLE) &&&
        BOOT_INFO_FLAG_LOCKFUSE_UNREADABLE = 0) = readable := by
  cases readable <;> cases result <;> decide

theorem bootInfo_intact :
    Intact (fun u => bootInfoEncode (bootReport u)) (unitRead bootInfoDecode) bootReport := by
  refine masked_intact ⟨by decide, by decide, by decide⟩ ?_ ?_
  · intro u
    have hstate : ¬u.state.toByte > BOOT_STATE_LAST := by cases u.state <;> decide
    have hresult : ¬u.lastBootUpdateResult.toByte ≥ BOOT_RESULT_COUNT := by
      cases u.lastBootUpdateResult <;> decide
    rw [← (result_bits u.lastBootUpdateResult (bootReport u).lockFuseReadable).1] at hresult
    exact decide_eq_true ⟨hstate, hresult⟩
  · intro u
    have hsig : #v[u.sigRow[0], u.sigRow[1], u.sigRow[2]] = u.sigRow := by
      apply Vector.ext
      intro i hi
      rcases i with _ | _ | _ | i
      · rfl
      · rfl
      · rfl
      · omega
    cases hfell : bootLockFuseReadFellThrough u.lock u.low u.high u.ext u.flash0to3 with
    | false =>
        obtain ⟨hresult, hflag⟩ := result_bits u.lastBootUpdateResult true
        simp [withChecksum, bootReport, readLockAndFuses, hfell] at hresult hflag ⊢
        simp [hresult, hflag, sigRowUnread]
    | true =>
        obtain ⟨hresult, hflag⟩ := result_bits u.lastBootUpdateResult false
        simp [withChecksum, bootReport, readLockAndFuses, hfell] at hresult hflag ⊢
        simp [hresult, hflag, hsig]

/-! ## §8. The two parts of GET_EXT_DIAG. -/

theorem extDiagBase_get (buf : Vector UInt8 21) {i : Nat} (hi : i < 11) :
    (extDiagBase buf)[i] = buf[i] := by
  unfold extDiagBase
  rw [Vector.getElem_cast, Vector.getElem_extract]
  simp only [Nat.zero_add]

theorem extDiagExt_get (buf : Vector UInt8 21) {i : Nat} (hi : i < 10) :
    (extDiagExt buf)[i] = buf[11 + i] := by
  unfold extDiagExt
  rw [Vector.getElem_cast, Vector.getElem_extract]

theorem extDiagBase_reply (u : UnitExtDiag × UnitLinkStats) :
    extDiagBase (extDiagReply u) = extDiagEncodeReply u.1 := by
  apply Vector.ext
  intro i hi
  rw [extDiagBase_get _ hi]
  exact Vector.getElem_append_left hi

theorem extDiagExt_reply (u : UnitExtDiag × UnitLinkStats) :
    extDiagExt (extDiagReply u) = extDiagLinkEncode u.2 := by
  apply Vector.ext
  intro i hi
  rw [extDiagExt_get _ hi]
  refine (Vector.getElem_append_right (by omega) (by omega)).trans ?_
  simp

/-- One changed byte is in the base packet or in the link block. -/
theorem extDiagBase_set (buf : Vector UInt8 21) (i : Fin 21) (b : UInt8) :
    extDiagBase (buf.set i b) =
      if h : i.val < 11 then (extDiagBase buf).set i b else extDiagBase buf := by
  apply Vector.ext
  intro j hj
  rw [extDiagBase_get _ hj, Vector.getElem_set]
  split
  · next hij =>
      subst hij
      rw [dif_pos hj, Vector.getElem_set_self]
  · next hij =>
      split
      · rw [Vector.getElem_set_ne _ _ hij, extDiagBase_get _ hj]
      · rw [extDiagBase_get _ hj]

theorem extDiagExt_set (buf : Vector UInt8 21) (i : Fin 21) (b : UInt8) :
    extDiagExt (buf.set i b) =
      if h : 11 ≤ i.val then (extDiagExt buf).set (i.val - 11) b (by omega) else extDiagExt buf := by
  apply Vector.ext
  intro j hj
  rw [extDiagExt_get _ hj, Vector.getElem_set]
  split
  · next hij =>
      have hj' : j = i.val - 11 := by omega
      subst hj'
      rw [dif_pos (by omega), Vector.getElem_set_self]
  · next hij =>
      split
      · rw [Vector.getElem_set_ne _ _ (by omega), extDiagExt_get _ hj]
      · rw [extDiagExt_get _ hj]

/-- What a fold makes of its two parts. -/
theorem fold_parts (fact : UnitFacts) {buf : Vector UInt8 21} {base ext : Bool}
    {diag : UnitExtDiag} {link : UnitLinkStats}
    (hbase : extDiagReadbackValid (extDiagBase buf) {} = (base, diag))
    (hext : extDiagLinkReadbackValid (extDiagExt buf) {} = (ext, link)) :
    unitRefreshExtDiag fact (some buf) =
      { fact with
        extDiag := if base then diag else fact.extDiag
        extDiagValid := base
        link := if ext then link else fact.link
        linkValid := ext } := by
  show unitFactsFoldExtDiag fact buf = _
  unfold unitFactsFoldExtDiag
  rw [hbase, hext]
  cases base <;> cases ext <;> rfl

/-- What GET_EXT_DIAG promises, its two parts judged apart: a changed byte costs
the part it is in. -/
structure IntactInParts : Prop where
  round : ∀ fact u, unitRefreshExtDiag fact (some (extDiagReply u)) =
    { fact with extDiag := u.1, extDiagValid := true, link := u.2, linkValid := true }
  baseChanged : ∀ fact u (i : Fin 21) b, i.val < 11 → b ≠ (extDiagReply u)[i] →
    unitRefreshExtDiag fact (some ((extDiagReply u).set i b)) =
      { fact with extDiagValid := false, link := u.2, linkValid := true }
  linkChanged : ∀ fact u (i : Fin 21) b, 11 ≤ i.val → b ≠ (extDiagReply u)[i] →
    unitRefreshExtDiag fact (some ((extDiagReply u).set i b)) =
      { fact with extDiag := u.1, extDiagValid := true, linkValid := false }
  rejected : ∀ fact answer,
    answer = some (Vector.replicate 21 0) ∨ answer = some (Vector.replicate 21 0xFF) ∨
      (∃ rotating, answer = some (oldUnitAnswer 20 rotating)) ∨ answer = none →
    unitRefreshExtDiag fact answer = { fact with extDiagValid := false, linkValid := false }
  untouched : ∀ fact answer,
    ((unitRefreshExtDiag fact answer).extDiagValid = false →
      (unitRefreshExtDiag fact answer).extDiag = fact.extDiag) ∧
    ((unitRefreshExtDiag fact answer).linkValid = false →
      (unitRefreshExtDiag fact answer).link = fact.link)

theorem rejected_pair {α : Type} {answer : Bool × α} {out : α} (hno : answer.1 = false)
    (hout : answer.1 = false → answer.2 = out) : answer = (false, out) :=
  Prod.ext hno (hout hno)

theorem extDiag_parts : IntactInParts where
  round fact u := by
    have hbase : extDiagReadbackValid (extDiagBase (extDiagReply u)) {} = (true, u.1) := by
      rw [extDiagBase_reply]
      exact extDiag_intact.round u.1 {}
    have hext : extDiagLinkReadbackValid (extDiagExt (extDiagReply u)) {} = (true, u.2) := by
      rw [extDiagExt_reply]
      exact link_intact.round u.2 {}
    rw [fold_parts fact hbase hext]
    simp only [if_true]
  baseChanged fact u i b hi hb := by
    have hb' : b ≠ (extDiagEncodeReply u.1)[i.val] := by
      rw [← extDiagBase_reply u, extDiagBase_get _ hi]
      exact hb
    have hbase : extDiagReadbackValid (extDiagBase ((extDiagReply u).set i b)) {} = (false, {}) := by
      rw [extDiagBase_set, dif_pos hi, extDiagBase_reply]
      exact rejected_pair (extDiag_intact.changed u.1 ⟨i.val, hi⟩ b {} hb')
        (extDiag_intact.untouched (some _) {})
    have hext : extDiagLinkReadbackValid (extDiagExt ((extDiagReply u).set i b)) {} =
        (true, u.2) := by
      rw [extDiagExt_set, dif_neg (by omega), extDiagExt_reply]
      exact link_intact.round u.2 {}
    rw [fold_parts fact hbase hext]
    simp only [if_true, Bool.false_eq_true, if_false]
  linkChanged fact u i b hi hb := by
    have hi' : i.val - 11 < 10 := by omega
    have hb' : b ≠ (extDiagLinkEncode u.2)[i.val - 11] := by
      rw [← extDiagExt_reply u, extDiagExt_get _ hi']
      have hsame : 11 + (i.val - 11) = i.val := by omega
      simpa only [hsame, Fin.getElem_fin] using hb
    have hbase : extDiagReadbackValid (extDiagBase ((extDiagReply u).set i b)) {} =
        (true, u.1) := by
      rw [extDiagBase_set, dif_neg (by omega), extDiagBase_reply]
      exact extDiag_intact.round u.1 {}
    have hext : extDiagLinkReadbackValid (extDiagExt ((extDiagReply u).set i b)) {} =
        (false, {}) := by
      rw [extDiagExt_set, dif_pos hi, extDiagExt_reply]
      exact rejected_pair (link_intact.changed u.2 ⟨i.val - 11, hi'⟩ b {} hb')
        (link_intact.untouched (some _) {})
    rw [fold_parts fact hbase hext]
    simp only [if_true, Bool.false_eq_true, if_false]
  rejected fact answer h := by
    have hboth : ∀ buf, extDiagReadbackValid (extDiagBase buf) {} = (false, {}) →
        extDiagLinkReadbackValid (extDiagExt buf) {} = (false, {}) →
        unitRefreshExtDiag fact (some buf) =
          { fact with extDiagValid := false, linkValid := false } := by
      intro buf hbase hext
      rw [fold_parts fact hbase hext]
      simp only [Bool.false_eq_true, if_false]
    rcases h with rfl | rfl | ⟨rotating, rfl⟩ | rfl
    · apply hboth
      · show extDiagReadbackValid (Vector.replicate 11 0) {} = _
        exact rejected_pair (extDiag_intact.zeros {}) (extDiag_intact.untouched (some _) {})
      · show extDiagLinkReadbackValid (Vector.replicate 10 0) {} = _
        exact rejected_pair (link_intact.zeros {}) (link_intact.untouched (some _) {})
    · apply hboth
      · show extDiagReadbackValid (Vector.replicate 11 0xFF) {} = _
        exact rejected_pair (extDiag_intact.ones {}) (extDiag_intact.untouched (some _) {})
      · show extDiagLinkReadbackValid (Vector.replicate 10 0xFF) {} = _
        exact rejected_pair (link_intact.ones {}) (link_intact.untouched (some _) {})
    · have hbase : extDiagBase (oldUnitAnswer 20 rotating) = oldUnitAnswer 10 rotating := by
        cases rotating <;> decide
      have hext : extDiagExt (oldUnitAnswer 20 rotating) = Vector.replicate 10 0xFF := by
        cases rotating <;> decide
      apply hboth
      · rw [hbase]
        exact rejected_pair (extDiag_intact.oldUnit rotating {}) (extDiag_intact.untouched (some _) {})
      · rw [hext]
        exact rejected_pair (link_intact.ones {}) (link_intact.untouched (some _) {})
    · rfl
  untouched fact answer := by
    cases answer with
    | none => exact ⟨fun _ => rfl, fun _ => rfl⟩
    | some buf =>
        cases hbase : extDiagReadbackValid (extDiagBase buf) {}
        cases hext : extDiagLinkReadbackValid (extDiagExt buf) {}
        rw [fold_parts fact hbase hext]
        constructor
        · intro hno
          exact if_neg (ne_true_of_eq_false hno)
        · intro hno
          exact if_neg (ne_true_of_eq_false hno)

/-- **Unit replies cross the bus intact or not at all**: each reply gives back
what the unit put in, its saturations apart; a changed byte, an idle bus and an
old unit are rejected, and a rejected reply changes nothing.  The two parts of
GET_EXT_DIAG are rejected each for itself. -/
theorem replies_cross_intact :
    Intact (fun u : UnitStatusSource => statusEncodeReply u.payload) unitReadStatus
        UnitStatusSource.seen ∧
      Intact odometerEncodeReply (unitRead odometerReadbackValid) id ∧
      Intact driftReply (unitRead (diagReadbackValid AMOUNTFLAPS)) driftSeen ∧
      Intact vitalsEncodeReply (unitRead vitalsReadbackValid) id ∧
      Intact extDiagEncodeReply (unitRead extDiagReadbackValid) id ∧
      Intact extDiagLinkEncode (unitRead extDiagLinkReadbackValid) id ∧
      IntactInParts ∧
      Intact lifetimeEncodeReply (unitRead fun buf => lifetimeReadbackValid buf LIFETIME_REPLY_LEN)
        lifetimeSeen ∧
      Intact busRecordEncodeReply
        (unitRead fun buf => busRecordReadbackValid buf BUS_RECORD_REPLY_LEN) id ∧
      Intact selfTestEncodeReply (unitRead selfTestReadbackValid) SelfTestResult.seen ∧
      Intact (fun u => bootInfoEncode (bootReport u)) (unitRead bootInfoDecode) bootReport :=
  ⟨status_intact, odometer_intact, diag_intact, vitals_intact, extDiag_intact, link_intact,
    extDiag_parts, lifetime_intact, busRecord_intact, selfTest_intact, bootInfo_intact⟩

/-- A byte of the link block is changed, and the base packet still counts. -/
theorem extDiag_outlives_its_link :
    ¬∀ fact u (i : Fin 21) b, b ≠ (extDiagReply u)[i] →
      (unitRefreshExtDiag fact (some ((extDiagReply u).set i b))).extDiagValid = false ∧
        (unitRefreshExtDiag fact (some ((extDiagReply u).set i b))).linkValid = false := by
  intro hall
  have hfails := (hall {} ({}, {}) 20 0 (by decide)).1
  revert hfails
  decide

end SplitFlap
