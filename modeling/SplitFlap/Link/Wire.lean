/-
  SplitFlap.Link.Wire — the messages of the wall link.

  `wall_link.proto` as data: one `ToRow` or `ToMaster` is one message on the
  TCP connection between the master and a row board.  Strings are the bytes
  before their terminator.  proto3 enumerations are open, so each one keeps a
  constructor for a number this build does not know.

  The encoder and decoder are nanopb's, generated at build time: `Nanopb` is
  what the two boards use of them.
-/
import Mathlib.Data.List.Basic
import SplitFlap.Lib.Numerals

namespace SplitFlap

/-- A C string: the bytes before the terminator. -/
abbrev CStr := List UInt8

/-- Bytes on the wire. -/
abbrev Bytes := List UInt8

/-! ## §1. Master to row. -/

structure WlWelcome where
  protocol : UInt32 := 0
  masterId : CStr := []
  deriving Repr, DecidableEq

structure WlShow where
  renderId : UInt32 := 0
  commitAtMs : UInt64 := 0
  speed : UInt32 := 0
  text : CStr := []
  deriving Repr, DecidableEq

inductive WlFallback where
  | blank
  | time
  | date
  | other (n : Nat)
  deriving Repr, DecidableEq

structure WlConfig where
  fallback : WlFallback := .blank
  updateUnitsAtStart : Bool := false
  tz : CStr := []
  wifiAwake : Bool := false
  deriving Repr, DecidableEq

/-- The unit jobs a row board runs. -/
inductive WlOpCode where
  | none
  | home
  | identify
  | jog
  | setOffset
  | selfTest
  | restartUnit
  | resetOdometer
  | setGates
  | bootInfo
  | bootDump
  | bootUpdate
  | updateUnits
  | probe
  | setAddress
  | clearAddress
  | homeAll
  | other (n : Nat)
  deriving Repr, DecidableEq

/-- A unit job, named by the master. -/
structure WlOp where
  opId : UInt32 := 0
  opcode : WlOpCode := .none
  address : UInt32 := 0
  arg : Int32 := 0
  deriving Repr, DecidableEq

structure WlUpdate where
  rev : CStr := []
  size : UInt32 := 0
  md5 : Bytes := []
  packed : Bool := false
  httpPort : UInt32 := 0
  deriving Repr, DecidableEq

inductive WlToRow where
  | welcome (m : WlWelcome)
  | show (m : WlShow)
  | quiet (on : Bool)
  | config (m : WlConfig)
  | op (m : WlOp)
  | update (m : WlUpdate)
  | logCtl (on : Bool)
  | ping
  | restart
  | release
  | name (host : CStr)
  deriving Repr, DecidableEq

/-! ## §2. Row to master. -/

structure WlHello where
  protocol : UInt32 := 0
  id : CStr := []
  rev : CStr := []
  bootId : UInt32 := 0
  rescue : Bool := false
  width : UInt32 := 0
  deriving Repr, DecidableEq

inductive WlOpPhase where
  | running
  | ok
  | failed
  | refused
  | other (n : Nat)
  deriving Repr, DecidableEq

/-- Why a row did not start a job. -/
inductive WlOpRefusal where
  | none
  | unknownOp
  | busy
  | rescue
  | badAddress
  | noUnit
  | unitProtocol
  | badArg
  | noMemory
  | addressTaken
  deriving Repr, DecidableEq

/-- The number a refusal travels as. -/
def WlOpRefusal.toNumber : WlOpRefusal → UInt32
  | .none => 0
  | .unknownOp => 1
  | .busy => 2
  | .rescue => 3
  | .badAddress => 4
  | .noUnit => 5
  | .unitProtocol => 6
  | .badArg => 7
  | .noMemory => 8
  | .addressTaken => 9

structure WlOpState where
  opId : UInt32 := 0
  phase : WlOpPhase := .running
  reason : UInt32 := 0
  dataOffset : UInt32 := 0
  data : Bytes := []
  outcome : UInt32 := 0
  deriving Repr, DecidableEq

inductive WlUpdatePhase where
  | downloading
  | installed
  | failed
  | refused
  | other (n : Nat)
  deriving Repr, DecidableEq

structure WlUpdateState where
  rev : CStr := []
  phase : WlUpdatePhase := .downloading
  reason : UInt32 := 0
  detail : UInt32 := 0
  deriving Repr, DecidableEq

/-- A message from a row; `empty` is one whose body this build does not know.
Of the vitals only `busy` is read by the link. -/
inductive WlToMaster where
  | empty
  | hello (m : WlHello)
  | status (busy : Bool)
  | shown (renderId lateMs : UInt32)
  | opState (m : WlOpState)
  | event
  | logLine (text : Bytes)
  | unitsJson (docId offset total : UInt32) (data : Bytes)
  | pong
  | updateState (m : WlUpdateState)
  deriving Repr, DecidableEq

/-! ## §3. The generated codec. -/

/-- What nanopb generates from `wall_link.proto`: the largest encoded body of
each direction, an encoder with its length prefix (empty when the message
cannot be encoded) and a decoder of one body. -/
class Nanopb where
  toRowSize : Nat
  toMasterSize : Nat
  encodeToRow : WlToRow → Bytes
  decodeToMaster : Bytes → Option WlToMaster

end SplitFlap
