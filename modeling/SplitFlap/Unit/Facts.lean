/-
  SplitFlap.Unit.Facts — what a row master knows about a unit.

  The packets a unit answers with, decoded, and the facts a master keeps of
  each unit: the packets' last readings, each with its own valid flag, and the
  master's own tallies.
-/
import SplitFlap.Link.Wire

namespace SplitFlap

/-! ## §1. Decoded packets. -/

/-- The health snapshot of GET_STATUS. -/
structure UnitStatus where
  flags : UInt8 := 0
  mcusrAtBoot : UInt8 := 0
  lifetimeBrownoutCount : UInt8 := 0
  lifetimeWatchdogCount : UInt8 := 0
  uptimeSeconds : UInt16 := 0
  badCommandCount : UInt8 := 0
  lastHomingStepCount : UInt16 := 0
  deriving Repr, DecidableEq

structure UnitDiagReading where
  physicalLetter : UInt8 := 0xFF
  flags : UInt8 := 0
  driftEvents : UInt8 := 0
  lastDriftSteps : Int8 := 0
  deriving DecidableEq

structure UnitVitals where
  vccNow_mV : UInt16 := 0
  vccMin_mV : UInt16 := 0
  cmdPos : UInt8 := 0
  freeRamMin : UInt16 := 0
  deriving Repr, DecidableEq

structure UnitExtDiag where
  stepExcessLast : UInt16 := 0
  stepExcessMax : UInt16 := 0
  vccSagLastMove : UInt16 := 0
  hallEdgesLastRev : UInt8 := 0
  dutyWindow : UInt16 := 0
  statusBits : UInt8 := 0
  deriving Repr, DecidableEq

structure UnitLinkStats where
  uptimeSeconds : UInt32 := 0
  rxFrames : UInt16 := 0
  txReplies : UInt16 := 0
  deafHeals : UInt8 := 0
  deriving Repr, DecidableEq

structure UnitLifetimeFacts where
  layoutVersion : UInt8 := 0
  homeFailedCount : UInt8 := 0
  featureGates : UInt8 := 0
  idleHallFutileRehomes : UInt8 := 0
  idleHallStoodDown : Bool := false
  stepExcessLifetimeMax : UInt16 := 0
  selfTestFirstHallWindow : UInt16 := 0
  selfTestFirstStepsPerRev : UInt16 := 0
  selfTestLastHallWindow : UInt16 := 0
  selfTestLastStepsPerRev : UInt16 := 0
  deriving Repr, DecidableEq

structure UnitBusRecord where
  silences : UInt8 := 0
  lastMinutes : UInt8 := 0
  longestMinutes : UInt8 := 0
  reinits : UInt8 := 0
  reinitsHeard : UInt8 := 0
  selfRestarts : UInt8 := 0
  flags : UInt8 := 0
  deriving Repr, DecidableEq

structure UnitSelfTestReading where
  state : UInt8 := 0
  stepsPerRev : UInt16 := 0
  hallWindowSteps : UInt16 := 0
  revTimeMs : UInt16 := 0
  reason : UInt8 := 0
  deriving Repr, DecidableEq

/-- A signature row that was not read. -/
def sigRowUnread : Vector UInt8 3 := #v[0xFF, 0xFF, 0xFF]

/-- GET_BOOT_INFO.  The lock byte and the fuses mean nothing unless they were
readable; the signature row is reported only when they were not. -/
structure BootUpdateReport where
  lockByte : UInt8 := 0xFF
  fuseLow : UInt8 := 0xFF
  fuseHigh : UInt8 := 0xFF
  fuseExt : UInt8 := 0xFF
  lockFuseReadable : Bool := true
  sigRow : Vector UInt8 3 := sigRowUnread
  bootCrc32 : UInt32 := 0
  state : UInt8 := 0
  lastResult : UInt8 := 0
  deriving DecidableEq

/-- What a bootloader says about itself. -/
structure TwibootIdentity where
  generation : UInt8 := 0
  caps : UInt8 := 0
  fusesValid : Bool := false
  lfuse : UInt8 := 0
  lock : UInt8 := 0
  efuse : UInt8 := 0
  hfuse : UInt8 := 0
  crashValid : Bool := false
  crashCount : UInt8 := 0
  deriving Repr, DecidableEq

/-! ## §2. One unit's facts. -/

/-- `state` is 0 silent, 1 running its sketch, 2 in its bootloader; `fwStatus`
is 0 current, 1 outdated, 2 unknown. -/
structure UnitFacts where
  state : UInt8 := 0
  fwStatus : UInt8 := 2
  rev : CStr := []
  statusValid : Bool := false
  status : UnitStatus := {}
  protocolVersion : UInt8 := 0
  protocolKnown : Bool := false
  offset : Int16 := 0
  offsetValid : Bool := false
  odometer : UInt32 := 0
  odometerValid : Bool := false
  physLetter : UInt8 := 0xFF
  driftFlags : UInt8 := 0
  driftEvents : UInt8 := 0
  lastDriftSteps : Int8 := 0
  diagValid : Bool := false
  vitals : UnitVitals := {}
  vitalsValid : Bool := false
  extDiag : UnitExtDiag := {}
  extDiagValid : Bool := false
  link : UnitLinkStats := {}
  linkValid : Bool := false
  lifetime : UnitLifetimeFacts := {}
  lifetimeValid : Bool := false
  busRecord : UnitBusRecord := {}
  busSilentNowMinutes : UInt8 := 0
  busRecordValid : Bool := false
  lastSeenMs : UInt32 := 0
  misses : UInt8 := 0
  stale : Bool := false
  mismatch : Bool := false
  i2cErrors : UInt16 := 0
  lastErrorMs : UInt32 := 0
  rescueExits : UInt16 := 0
  resetSeen : Bool := false
  bootVerdict : UInt8 := 0
  bootCrc32 : UInt32 := 0
  bootloader : TwibootIdentity := {}
  deriving DecidableEq

end SplitFlap
