/-
  SplitFlap.Link.Stream — `WlReader`: one direction's messages off a byte stream.

  A reader collects bytes in a buffer of `WL_PREFIX_MAX + maxBody` bytes until
  a length prefix and its whole body are there.  The buffer bound is part of
  the type, so a reader that has written past its buffer cannot be built.

  `take` is the feed/peek/pop loop of `WallLinkCore::bytes`, `takeTick` the one
  of `linkLoopTick`, both for a connection that stays open; the bodies they
  pop are returned in order.  Loops carry fuel and answer `none` when it runs
  out (`SplitFlap.Link.Chunking` proves that it never does).
-/
import SplitFlap.Link.Wire

namespace SplitFlap

/-- Room for the length prefix in front of a body. -/
abbrev WL_PREFIX_MAX : Nat := 3

/-- The link protocol of this build. -/
abbrev WALL_LINK_PROTOCOL : UInt32 := 1

inductive WlFeed where
  | needMore
  | message
  | bad
  deriving Repr, DecidableEq

/-! ## §1. The reader. -/

/-- The first `have` bytes of the reader's buffer. -/
structure WlReader (maxBody : Nat) where
  buf : Bytes := []
  fits : buf.length ≤ WL_PREFIX_MAX + maxBody := by simp

namespace WlReader

variable {maxBody : Nat}

/-- A reader that was fed nothing. -/
def unfed : WlReader maxBody := {}

/-- The varint in front of a body, scanned over its first bytes: `len` is what
the `i` bytes before `bytes` came to.  The answer is the length and how many
bytes its prefix took; `none` when no byte ended it. -/
def scanPrefix : (i : Nat) → (len : Nat) → Bytes → Option (Nat × Nat)
  | _, _, [] => none
  | i, len, b :: bytes =>
      if i < WL_PREFIX_MAX then
        let len := len ||| ((b &&& 0x7F).toNat <<< (7 * i))
        if b &&& 0x80 = 0 then some (len, i + 1) else scanPrefix (i + 1) len bytes
      else none

/-- `WlReader::parse`: the verdict on the buffer, with the prefix and body
lengths of the message in front (0 and 0 when there is none). -/
def parse (maxBody : Nat) (buf : Bytes) : WlFeed × Nat × Nat :=
  match scanPrefix 0 0 buf with
  | some (len, pre) =>
      if maxBody < len then (.bad, 0, 0)
      else if pre + len ≤ buf.length then (.message, pre, len)
      else (.needMore, pre, len)
  | none => if WL_PREFIX_MAX ≤ buf.length then (.bad, 0, 0) else (.needMore, 0, 0)

/-- How many of `n` offered bytes there is room for. -/
def room (r : WlReader maxBody) (n : Nat) : Nat :=
  min n (WL_PREFIX_MAX + maxBody - r.buf.length)

/-- Appends as many bytes of `data` as the buffer takes; with their number. -/
def feed (r : WlReader maxBody) (data : Bytes) : WlReader maxBody × Nat :=
  let take := r.room data.length
  ({ buf := r.buf ++ data.take take
     fits := by
       have h := r.fits
       simp only [List.length_append, List.length_take, take, room]
       omega },
   take)

def peek (r : WlReader maxBody) : WlFeed := (parse maxBody r.buf).1

/-- The body in front; empty unless `peek` says there is a message. -/
def body (r : WlReader maxBody) : Bytes :=
  let p := parse maxBody r.buf
  (r.buf.drop p.2.1).take p.2.2

def pop (r : WlReader maxBody) : WlReader maxBody :=
  let p := parse maxBody r.buf
  if p.1 = .message then
    { buf := r.buf.drop (p.2.1 + p.2.2)
      fits := by
        have h := r.fits
        rw [List.length_drop]
        omega }
  else r

end WlReader

/-! ## §2. The read loops, for a connection that stays open. -/

/-- What a read loop came to: the bodies popped, in order, whether it ended
on a byte sequence that is no message, how many bytes it popped, and the
reader it leaves. -/
structure Taken (maxBody : Nat) where
  bodies : List Bytes := []
  bad : Bool := false
  popped : Nat := 0
  reader : WlReader maxBody := {}

/-- A loop that went on from where `t` left the reader. -/
def Taken.andThen {maxBody : Nat} (t rest : Taken maxBody) : Taken maxBody :=
  { rest with bodies := t.bodies ++ rest.bodies, popped := t.popped + rest.popped }

namespace WlReader

variable {maxBody : Nat}

/-- `while (reader.peek() == WlFeed::Message) { ...; reader.pop(); }`, with
the verdict it ends on. -/
def popAll : (fuel : Nat) → WlReader maxBody → Option (Taken maxBody)
  | 0, _ => none
  | fuel + 1, r =>
      if r.peek = .message then
        (popAll fuel r.pop).map fun rest =>
          { rest with
            bodies := r.body :: rest.bodies
            popped := (r.buf.length - r.pop.buf.length) + rest.popped }
      else some { bad := r.peek = .bad, reader := r }

/-- The loop of `WallLinkCore::bytes` over one read from the socket. -/
def take : (fuel : Nat) → WlReader maxBody → Bytes → Option (Taken maxBody)
  | 0, _, _ => none
  | fuel + 1, r, data =>
      let fed := r.feed data
      let rest := data.drop fed.2
      (popAll (fed.1.buf.length + 1) fed.1).bind fun t =>
        if t.bad then some t
        else if rest = [] then some t
        else (take fuel t.reader rest).map t.andThen

/-- The loop of `linkLoopTick` over one chunk it read: the chunk is tested
before it is fed, the verdict after the messages. -/
def takeTick : (fuel : Nat) → WlReader maxBody → Bytes → Option (Taken maxBody)
  | 0, _, _ => none
  | fuel + 1, r, data =>
      if data = [] then some { reader := r }
      else
        let fed := r.feed data
        (popAll (fed.1.buf.length + 1) fed.1).bind fun t =>
          if t.bad then some t
          else (takeTick fuel t.reader (data.drop fed.2)).map t.andThen

/-- A stream that arrives in `chunks`, each handed to `loop`; the first `Bad`
closes the connection and nothing after it is read. -/
def takeChunks (loop : WlReader maxBody → Bytes → Option (Taken maxBody)) :
    WlReader maxBody → List Bytes → Option (Taken maxBody)
  | r, [] => some { reader := r }
  | r, chunk :: chunks =>
      (loop r chunk).bind fun t =>
        if t.bad then some t
        else (takeChunks loop t.reader chunks).map t.andThen

end WlReader

end SplitFlap
