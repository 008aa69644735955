/-
  SplitFlap.Link.Codec — the wire format `wall_link.proto` describes.

  proto3 as nanopb writes and reads it: a field is a key and a varint or a
  length and its bytes, a field of value zero is not written, an unknown one
  is skipped, of a repeated one the last counts.  The core takes any codec;
  this is the one its bytes mean on the wire.
-/
import SplitFlap.Link.Wire

namespace SplitFlap.Codec

/-! ## §1. Writing. -/

/-- A varint of at most `fuel` digits. -/
def putVarint : (fuel : Nat) → Nat → Bytes
  | 0, _ => []
  | fuel + 1, n =>
      if n < 128 then [UInt8.ofNat n] else UInt8.ofNat (n % 128 + 128) :: putVarint fuel (n / 128)

/-- An integer field; zero is not written. -/
def intField (tag n : Nat) : Bytes :=
  if n = 0 then [] else putVarint 10 (8 * tag) ++ putVarint 10 n

def boolField (tag : Nat) (b : Bool) : Bytes := intField tag b.toNat

/-- A submessage, written also when it is empty. -/
def subField (tag : Nat) (b : Bytes) : Bytes :=
  putVarint 10 (8 * tag + 2) ++ putVarint 10 b.length ++ b

/-- A string or bytes field; an empty one is not written. -/
def bytesField (tag : Nat) (b : Bytes) : Bytes := if b = [] then [] else subField tag b

/-- The zigzag of a `sint32`. -/
def zigzag (n : Int32) : Nat :=
  if n.toInt < 0 then (-2 * n.toInt - 1).toNat else (2 * n.toInt).toNat

def fallbackNumber : WlFallback → Nat
  | .blank => 0
  | .time => 1
  | .date => 2
  | .other n => n

def opCodeNumber : WlOpCode → Nat
  | .none => 0
  | .home => 1
  | .identify => 2
  | .jog => 3
  | .setOffset => 4
  | .selfTest => 5
  | .restartUnit => 6
  | .resetOdometer => 7
  | .setGates => 8
  | .bootInfo => 9
  | .bootDump => 10
  | .bootUpdate => 11
  | .updateUnits => 12
  | .probe => 13
  | .setAddress => 14
  | .clearAddress => 15
  | .homeAll => 16
  | .other n => n

/-- The body of one `ToRow`. -/
def toRowBody : WlToRow → Bytes
  | .welcome m => subField 1 (intField 1 m.protocol.toNat ++ bytesField 2 m.masterId)
  | .show m =>
      subField 2 (intField 1 m.renderId.toNat ++ intField 2 m.commitAtMs.toNat ++
        intField 3 m.speed.toNat ++ bytesField 4 m.text)
  | .quiet on => subField 3 (boolField 1 on)
  | .config m =>
      subField 4 (intField 1 (fallbackNumber m.fallback) ++ boolField 2 m.updateUnitsAtStart ++
        bytesField 3 m.tz ++ boolField 4 m.wifiAwake)
  | .op m =>
      subField 5 (intField 1 m.opId.toNat ++ intField 2 (opCodeNumber m.opcode) ++
        intField 3 m.address.toNat ++ intField 4 (zigzag m.arg))
  | .update m =>
      subField 6 (bytesField 1 m.rev ++ intField 2 m.size.toNat ++ bytesField 3 m.md5 ++
        boolField 4 m.packed ++ intField 5 m.httpPort.toNat)
  | .logCtl on => subField 7 (boolField 1 on)
  | .ping => subField 8 []
  | .restart => subField 9 []
  | .release => subField 10 []
  | .name host => subField 11 (bytesField 1 host)

/-- The largest body of each direction, as the generated header has it. -/
abbrev toRowSize : Nat := 74
abbrev toMasterSize : Nat := 512

/-- `wlEncodeToRow`: the body behind its length, empty when it does not fit. -/
def encodeToRow (m : WlToRow) : Bytes :=
  let body := toRowBody m
  if body.length ≤ toRowSize then putVarint 3 body.length ++ body else []

/-! ## §2. Reading. -/

inductive Field where
  | int (n : Nat)
  | bytes (b : Bytes)

def getVarint : (fuel : Nat) → Bytes → Option (Nat × Bytes)
  | 0, _ => none
  | _, [] => none
  | fuel + 1, b :: rest =>
      if b.toNat < 128 then some (b.toNat, rest)
      else (getVarint fuel rest).map fun p => (b.toNat - 128 + 128 * p.1, p.2)

/-- The fields of a message, in order. -/
def getFields : (fuel : Nat) → Bytes → Option (List (Nat × Field))
  | _, [] => some []
  | 0, _ => none
  | fuel + 1, bytes =>
      (getVarint 10 bytes).bind fun key =>
        if key.1 % 8 = 0 then
          (getVarint 10 key.2).bind fun n =>
            (getFields fuel n.2).map ((key.1 / 8, Field.int n.1) :: ·)
        else if key.1 % 8 = 2 then
          (getVarint 10 key.2).bind fun n =>
            if n.1 ≤ n.2.length then
              (getFields fuel (n.2.drop n.1)).map ((key.1 / 8, Field.bytes (n.2.take n.1)) :: ·)
            else none
        else none

def intOf (fields : List (Nat × Field)) (tag : Nat) : Nat :=
  fields.foldl (fun n f =>
    match f with
    | (t, .int m) => if t = tag then m else n
    | _ => n) 0

def bytesOf (fields : List (Nat × Field)) (tag : Nat) : Bytes :=
  fields.foldl (fun b f =>
    match f with
    | (t, .bytes m) => if t = tag then m else b
    | _ => b) []

def uint32Of (fields : List (Nat × Field)) (tag : Nat) : UInt32 := UInt32.ofNat (intOf fields tag)

def boolOf (fields : List (Nat × Field)) (tag : Nat) : Bool := intOf fields tag ≠ 0

def opPhaseOf : Nat → WlOpPhase
  | 0 => .running
  | 1 => .ok
  | 2 => .failed
  | 3 => .refused
  | n => .other n

def updatePhaseOf : Nat → WlUpdatePhase
  | 0 => .downloading
  | 1 => .installed
  | 2 => .failed
  | 3 => .refused
  | n => .other n

/-- One body of the `ToMaster` oneof. -/
def toMasterOf (tag : Nat) (f : List (Nat × Field)) : Option WlToMaster :=
  match tag with
  | 1 =>
      some (.hello
        { protocol := uint32Of f 1, id := bytesOf f 2, rev := bytesOf f 3, bootId := uint32Of f 4
          rescue := boolOf f 5, width := uint32Of f 6 })
  | 2 => some (.status (boolOf f 12))
  | 3 => some (.shown (uint32Of f 1) (uint32Of f 2))
  | 4 =>
      some (.opState
        { opId := uint32Of f 1, phase := opPhaseOf (intOf f 2), reason := uint32Of f 3
          dataOffset := uint32Of f 4, data := bytesOf f 5, outcome := uint32Of f 6 })
  | 5 => some .event
  | 6 => some (.logLine (bytesOf f 1))
  | 7 => some (.unitsJson (uint32Of f 1) (uint32Of f 2) (uint32Of f 3) (bytesOf f 4))
  | 8 => some .pong
  | 9 =>
      some (.updateState
        { rev := bytesOf f 1, phase := updatePhaseOf (intOf f 2), reason := uint32Of f 3
          detail := uint32Of f 4 })
  | _ => none

/-- One `ToMaster`: the last known member of its oneof, `none` when the bytes
are no message. -/
def decodeToMaster (body : Bytes) : Option WlToMaster :=
  (getFields body.length body).bind fun fields =>
    fields.foldlM (fun m f =>
      match f with
      | (tag, .bytes b) =>
          (getFields b.length b).map fun sub => (toMasterOf tag sub).getD m
      | _ => some m) WlToMaster.empty

/-- The codec of the wire. -/
@[reducible] def nanopb : Nanopb where
  toRowSize := toRowSize
  toMasterSize := toMasterSize
  encodeToRow := encodeToRow
  decodeToMaster := decodeToMaster

/-- A Hello, as a row writes it. -/
example :
    decodeToMaster [10, 9, 8, 1, 18, 3, 114, 48, 49, 32, 7] =
      some (.hello { protocol := 1, id := [114, 48, 49], bootId := 7 }) := by decide

end SplitFlap.Codec
