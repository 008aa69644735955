/-
  SplitFlap.Record.LogRings — a row's log, on the row and on the master.

  The row keeps the newest bytes of its log in a ring (`FollowerLogRing`) and sends
  them up line by line from a cursor of its own.  The master keeps the newest whole
  lines of what arrived (`RowLogRing`).
-/
import SplitFlap.Link.Names
import SplitFlap.Lib.Latest

namespace SplitFlap.LogRings

open SplitFlap.Latest

def newline : UInt8 := 10

/-! ## §1. The row's ring. -/

abbrev FOLLOWER_LOG_SIZE : Nat := 4096

/-- `all` is every byte ever appended; no function reads it. -/
structure FollowerLogRing where
  buf : Nat → UInt8 := fun _ => 0
  head : Nat := 0
  wrapped : Bool := false
  written : Nat := 0
  atLineStart : Bool := true
  all : List UInt8 := []

namespace FollowerLogRing

/-- One turn of `append`'s loop. -/
def put (size : Nat) (ring : FollowerLogRing) (byte : UInt8) : FollowerLogRing :=
  { ring with
    buf := Function.update ring.buf ring.head byte
    head := if ring.head + 1 ≥ size then 0 else ring.head + 1
    wrapped := ring.wrapped || decide (ring.head + 1 ≥ size)
    written := (ring.written + 1) % 2 ^ 32
    all := ring.all ++ [byte] }

def append (size : Nat) (ring : FollowerLogRing) (data : List UInt8) : FollowerLogRing :=
  data.foldl (put size) ring

/-- `"[%lu] "` of the uptime. -/
def stamp (seconds : Nat) : List UInt8 := [91] ++ decimal seconds ++ [93, 32]

/-- One turn of `appendStamped`'s loop. -/
def putStamped (size seconds : Nat) (ring : FollowerLogRing) (byte : UInt8) : FollowerLogRing :=
  let ring := if ring.atLineStart then
      { ring.append size (stamp seconds) with atLineStart := false }
    else ring
  let ring := ring.append size [byte]
  if byte = newline then { ring with atLineStart := true } else ring

def appendStamped (size : Nat) (ring : FollowerLogRing) (data : List UInt8) (seconds : Nat) :
    FollowerLogRing :=
  data.foldl (putStamped size seconds) ring

def fill (size : Nat) (ring : FollowerLogRing) : Nat :=
  if ring.wrapped then size else ring.head

def oldestCursor (size : Nat) (ring : FollowerLogRing) : Nat :=
  (ring.written + 2 ^ 32 - ring.fill size) % 2 ^ 32

/-- The loop of `nextLine`: `left` bytes to go, `i` looked at, `out` taken. -/
def scan (size : Nat) (ring : FollowerLogRing) (start cap : Nat) :
    Nat → Nat → Nat → List UInt8 → Option (Nat × List UInt8)
  | 0, _, _, _ => none
  | left + 1, i, idx, out =>
      let c := ring.buf idx
      let idx := if idx + 1 ≥ size then 0 else idx + 1
      if c = newline then some ((start + i + 1) % 2 ^ 32, out)
      else if out.length = cap then some ((start + i) % 2 ^ 32, out)
      else scan size ring start cap left (i + 1) idx (out ++ [c])

/-- Where `nextLine` starts to read. -/
def startOf (size : Nat) (ring : FollowerLogRing) (cursor : Nat) : Nat :=
  let start := if cursor < ring.oldestCursor size then ring.oldestCursor size else cursor
  if start > ring.written then ring.written else start

/-- The cursor after the next line and the line, or no answer. -/
def nextLine (size : Nat) (ring : FollowerLogRing) (cursor cap : Nat) :
    Option (Nat × List UInt8) :=
  let start := ring.startOf size cursor
  let waiting := ring.written - start
  let idx := (ring.head + size - waiting) % size
  ring.scan size start cap waiting 0 idx []

end FollowerLogRing

/-- One line read: the cursor before and after, the piece, and what had been written by then. -/
structure Taken where
  was : Nat
  now : Nat
  piece : List UInt8
  written : Nat

/-- The ring and one reader of it. -/
structure Reader where
  ring : FollowerLogRing := {}
  cursor : Nat := 0
  taken : List Taken := []

inductive LogStep where
  | append (data : List UInt8)
  | appendStamped (data : List UInt8) (seconds : Nat)
  /-- The next line into a buffer of `cap` bytes. -/
  | nextLine (cap : Nat)

/-- The cursor moves with the answer. -/
def Reader.took (r : Reader) : Option (Nat × List UInt8) → Reader
  | none => r
  | some (cursor, piece) =>
      { r with cursor, taken := r.taken ++ [⟨r.cursor, cursor, piece, r.ring.written⟩] }

def Reader.step (size : Nat) (r : Reader) : LogStep → Reader
  | .append data => { r with ring := r.ring.append size data }
  | .appendStamped data seconds => { r with ring := r.ring.appendStamped size data seconds }
  | .nextLine cap => r.took (r.ring.nextLine size r.cursor cap)

def Reader.run (size first : Nat) (steps : List LogStep) : Reader :=
  steps.foldl (Reader.step size) { cursor := first }

/-! ## §2. What the ring holds. -/

/-- The ring against everything appended to it, fewer than `2 ^ 32` bytes. -/
structure Holds (size : Nat) (ring : FollowerLogRing) : Prop where
  written : ring.written = ring.all.length
  head : ring.head = ring.all.length % size
  wrapped : ring.wrapped = true ↔ size ≤ ring.all.length
  cells : Window size ring.buf ring.all

theorem holds_new {size : Nat} (hsize : 0 < size) : Holds size {} := by
  refine ⟨rfl, (Nat.zero_mod size).symm, ?_, window_nil size _⟩
  show false = true ↔ size ≤ 0
  simp only [Bool.false_eq_true, false_iff]
  omega

/-! Appending only adds to what was written. -/

@[simp] theorem put_all (size : Nat) (ring : FollowerLogRing) (byte : UInt8) :
    (ring.put size byte).all = ring.all ++ [byte] := rfl

@[simp] theorem append_all (size : Nat) (ring : FollowerLogRing) (data : List UInt8) :
    (ring.append size data).all = ring.all ++ data := by
  induction data generalizing ring with
  | nil => simp [FollowerLogRing.append]
  | cons byte data ih =>
      show ((ring.put size byte).append size data).all = ring.all ++ byte :: data
      rw [ih, put_all, List.append_assoc]
      rfl

variable {size : Nat} {ring : FollowerLogRing}

namespace Holds

theorem put (hsize : 0 < size) (h : Holds size ring) (byte : UInt8)
    (hroom : ring.all.length + 1 < 2 ^ 32) : Holds size (ring.put size byte) := by
  have hlength : (ring.all ++ [byte]).length = ring.all.length + 1 := by simp
  have hmod : ring.all.length % size < size := Nat.mod_lt _ hsize
  have hle : ring.all.length % size ≤ ring.all.length := Nat.mod_le _ _
  constructor
  · show (ring.written + 1) % 2 ^ 32 = (ring.all ++ [byte]).length
    rw [hlength, h.written, Nat.mod_eq_of_lt hroom]
  · show (if ring.head + 1 ≥ size then 0 else ring.head + 1) = (ring.all ++ [byte]).length % size
    rw [hlength, h.head]
    exact next_cell hsize _
  · show (ring.wrapped || decide (ring.head + 1 ≥ size)) = true ↔ size ≤ (ring.all ++ [byte]).length
    rw [hlength, Bool.or_eq_true, h.wrapped, decide_eq_true_eq, h.head]
    constructor
    · omega
    · intro hfull
      by_cases hold : size ≤ ring.all.length
      · exact .inl hold
      · rw [Nat.mod_eq_of_lt (Nat.not_le.mp hold)]
        exact .inr hfull
  · show Window size (Function.update ring.buf ring.head byte) (ring.all ++ [byte])
    rw [h.head]
    exact h.cells.push byte

theorem append (hsize : 0 < size) (data : List UInt8) (h : Holds size ring)
    (hroom : (ring.append size data).all.length < 2 ^ 32) : Holds size (ring.append size data) := by
  induction data generalizing ring with
  | nil => exact h
  | cons byte data ih =>
      apply ih (h.put hsize byte ?_) hroom
      rw [append_all, List.length_append, List.length_cons] at hroom
      omega

theorem lineStart (h : Holds size ring) (opens : Bool) :
    Holds size { ring with atLineStart := opens } := ⟨h.written, h.head, h.wrapped, h.cells⟩

end Holds

/-- A stamped byte is written, behind a stamp where it opens a line. -/
theorem putStamped_all (size seconds : Nat) (ring : FollowerLogRing) (byte : UInt8) :
    (ring.putStamped size seconds byte).all =
      ring.all ++ (if ring.atLineStart then FollowerLogRing.stamp seconds else []) ++ [byte] := by
  unfold FollowerLogRing.putStamped
  by_cases hopens : ring.atLineStart = true <;> by_cases hends : byte = newline <;>
    simp [hopens, hends]

theorem appendStamped_all (size seconds : Nat) (ring : FollowerLogRing) (data : List UInt8) :
    ring.all <+: (ring.appendStamped size data seconds).all := by
  induction data generalizing ring with
  | nil => exact List.prefix_rfl
  | cons byte data ih =>
      have hone : ring.all <+: (ring.putStamped size seconds byte).all := by
        rw [putStamped_all, List.append_assoc]
        exact List.prefix_append _ _
      exact hone.trans (ih (ring.putStamped size seconds byte))

namespace Holds

theorem putStamped (hsize : 0 < size) (seconds : Nat) (byte : UInt8) (h : Holds size ring)
    (hroom : (ring.putStamped size seconds byte).all.length < 2 ^ 32) :
    Holds size (ring.putStamped size seconds byte) := by
  rw [putStamped_all] at hroom
  unfold FollowerLogRing.putStamped
  -- The ring after the stamp, if there is one, and then after the byte.
  by_cases hopens : ring.atLineStart = true
  · rw [if_pos hopens] at hroom
    have hstamped := h.append hsize (FollowerLogRing.stamp seconds) (by
      rw [append_all]
      rw [List.length_append] at hroom
      omega)
    have hbyte := (hstamped.lineStart false).append hsize [byte] (by simpa using hroom)
    simp only [if_pos hopens]
    split
    · exact hbyte.lineStart true
    · exact hbyte
  · have hbyte := h.append hsize [byte] (by simpa [hopens] using hroom)
    simp only [if_neg hopens]
    split
    · exact hbyte.lineStart true
    · exact hbyte

theorem appendStamped (hsize : 0 < size) (data : List UInt8) (seconds : Nat)
    (h : Holds size ring) (hroom : (ring.appendStamped size data seconds).all.length < 2 ^ 32) :
    Holds size (ring.appendStamped size data seconds) := by
  induction data generalizing ring with
  | nil => exact h
  | cons byte data ih =>
      have hgrows := (appendStamped_all size seconds (ring.putStamped size seconds byte) data).length_le
      have hrest : ((ring.putStamped size seconds byte).appendStamped size data seconds).all.length
          < 2 ^ 32 := hroom
      exact ih (h.putStamped hsize seconds byte (by omega)) hrest

theorem oldestCursor (h : Holds size ring) (hroom : ring.all.length < 2 ^ 32) :
    ring.oldestCursor size = ring.all.length - size := by
  have hfill : ring.fill size = min size ring.all.length := by
    unfold FollowerLogRing.fill
    split
    · next hfull =>
        have hle := h.wrapped.mp hfull
        omega
    · next hnot =>
        have hlt : ring.all.length < size := Nat.not_le.mp fun hle => hnot (h.wrapped.mpr hle)
        rw [h.head, Nat.mod_eq_of_lt hlt]
        omega
  unfold FollowerLogRing.oldestCursor
  rw [hfill, h.written]
  have hsum : ring.all.length + 2 ^ 32 - min size ring.all.length =
      (ring.all.length - size) + 2 ^ 32 := by omega
  rw [hsum, Nat.add_mod_right, Nat.mod_eq_of_lt (by omega)]

theorem startOf (h : Holds size ring) (hroom : ring.all.length < 2 ^ 32) (cursor : Nat) :
    ring.startOf size cursor = min (max cursor (ring.all.length - size)) ring.all.length := by
  unfold FollowerLogRing.startOf
  rw [h.oldestCursor hroom, h.written]
  show (if (if _ then _ else _) > _ then _ else _) = _
  split <;> split <;> omega

/-- The first index `nextLine` looks at is the cell of the position it starts from. -/
theorem firstIdx (h : Holds size ring) {start : Nat} (hstart : start ≤ ring.all.length)
    (hnear : ring.all.length ≤ start + size) :
    (ring.head + size - (ring.written - start)) % size = start % size := by
  have hsum : (ring.head + size - (ring.written - start)) + (ring.written - start) =
      ring.all.length % size + size := by
    rw [h.head, h.written]
    omega
  have hend : start + (ring.written - start) = ring.all.length := by
    rw [h.written]
    omega
  apply Nat.ModEq.add_right_cancel' (ring.written - start)
  show _ % size = _ % size
  rw [hsum, hend, Nat.add_mod_right, Nat.mod_mod]

/-- One turn of the scan looks at the byte of its own position. -/
theorem scan_succ (hsize : 0 < size) (h : Holds size ring) (start cap : Nat) {k : Nat}
    (hk : k < ring.all.length) (hnear : ring.all.length ≤ k + size) (left i : Nat)
    (out : List UInt8) :
    ring.scan size start cap (left + 1) i (k % size) out =
      if ring.all[k] = newline then some ((start + i + 1) % 2 ^ 32, out)
      else if out.length = cap then some ((start + i) % 2 ^ 32, out)
      else ring.scan size start cap left (i + 1) ((k + 1) % size) (out ++ [ring.all[k]]) := by
  rw [← next_cell hsize k, ← h.cells k hk hnear]
  rfl

end Holds

/-! ## §3. What one read takes. -/

theorem scan_none (hsize : 0 < size) (h : Holds size ring) {start cap : Nat}
    (hnear : ring.all.length ≤ start + size) {left i : Nat} {out : List UInt8}
    (hleft : start + i + left = ring.all.length) (hout : out.length ≤ cap)
    (hscan : ring.scan size start cap left i ((start + i) % size) out = none) :
    newline ∉ ring.all.drop (start + i) ∧ out.length + left ≤ cap := by
  induction left generalizing i out with
  | zero =>
      rw [List.drop_eq_nil_of_le (by omega)]
      exact ⟨List.not_mem_nil, hout⟩
  | succ left ih =>
      have hk : start + i < ring.all.length := by omega
      rw [h.scan_succ hsize start cap hk (by omega)] at hscan
      split at hscan
      · exact (nomatch hscan)
      · next hbyte =>
          split at hscan
          · exact (nomatch hscan)
          · next hcap =>
              have hrest := ih (i := i + 1) (by omega) (by simp; omega) hscan
              rw [List.length_append, List.length_singleton] at hrest
              rw [List.drop_eq_getElem_cons hk, List.mem_cons, not_or]
              exact ⟨⟨fun heq => hbyte heq.symm, hrest.1⟩, by omega⟩

/-- A line found: more bytes of the ring, and what the cursor passed behind them. -/
structure Found (all : List UInt8) (cap start pos : Nat) (out : List UInt8)
    (answer : Nat × List UInt8) (more passed rest : List UInt8) : Prop where
  piece : answer.2 = out ++ more
  bytes : all.drop pos = more ++ passed ++ rest
  cursor : answer.1 = pos + more.length + passed.length
  passed : passed = [newline] ∨ passed = [] ∧ answer.2.length = cap
  fits : answer.2.length ≤ cap

theorem scan_some (hsize : 0 < size) (h : Holds size ring) (hroom : ring.all.length < 2 ^ 32)
    {start cap : Nat} (hnear : ring.all.length ≤ start + size) {left i : Nat} {out : List UInt8}
    {answer : Nat × List UInt8} (hleft : start + i + left = ring.all.length)
    (hout : out.length ≤ cap)
    (hscan : ring.scan size start cap left i ((start + i) % size) out = some answer) :
    ∃ more passed rest, Found ring.all cap start (start + i) out answer more passed rest := by
  induction left generalizing i out with
  | zero => exact (nomatch hscan)
  | succ left ih =>
      have hk : start + i < ring.all.length := by omega
      rw [h.scan_succ hsize start cap hk (by omega)] at hscan
      have hdrop := List.drop_eq_getElem_cons hk
      split at hscan
      · next hbyte =>
          -- The newline is passed, and is not part of the piece.
          obtain rfl := Option.some.inj hscan
          refine ⟨[], [newline], ring.all.drop (start + i + 1), ⟨?_, ?_, ?_, .inl rfl, hout⟩⟩
          · exact (List.append_nil out).symm
          · rw [hdrop, hbyte]
            rfl
          · exact Nat.mod_eq_of_lt (by omega)
      · split at hscan
        · next hcap =>
            obtain rfl := Option.some.inj hscan
            refine ⟨[], [], ring.all.drop (start + i), ⟨?_, rfl, ?_, .inr ⟨rfl, hcap⟩, hout⟩⟩
            · exact (List.append_nil out).symm
            · exact Nat.mod_eq_of_lt (by omega)
        · next hbyte hcap =>
            obtain ⟨more, passed, rest, hfound⟩ := ih (i := i + 1) (by omega) (by simp; omega) hscan
            refine ⟨ring.all[start + i] :: more, passed, rest,
              ⟨?_, ?_, ?_, hfound.passed, hfound.fits⟩⟩
            · rw [hfound.piece, List.append_assoc]
              rfl
            · have hbytes : ring.all.drop (start + i + 1) = more ++ passed ++ rest := hfound.bytes
              rw [hdrop, hbytes]
              rfl
            · rw [hfound.cursor, List.length_cons]
              omega

/-- Where a read starts, against what is written. -/
theorem start_spec (h : Holds size ring) (hroom : ring.all.length < 2 ^ 32) (cursor : Nat) :
    ring.startOf size cursor ≤ ring.all.length ∧
      ring.all.length ≤ ring.startOf size cursor + size := by
  rw [h.startOf hroom]
  omega

theorem nextLine_eq (h : Holds size ring) {cursor cap : Nat}
    (hstart : ring.startOf size cursor ≤ ring.all.length)
    (hnear : ring.all.length ≤ ring.startOf size cursor + size) :
    ring.nextLine size cursor cap =
      ring.scan size (ring.startOf size cursor) cap (ring.all.length - ring.startOf size cursor) 0
        ((ring.startOf size cursor + 0) % size) [] := by
  rw [Nat.add_zero, ← h.firstIdx hstart hnear, ← h.written]
  rfl

theorem nextLine_none (hsize : 0 < size) (h : Holds size ring) (hroom : ring.all.length < 2 ^ 32)
    {cursor cap : Nat} (hnone : ring.nextLine size cursor cap = none) :
    newline ∉ ring.all.drop (max cursor (ring.all.length - size)) ∧
      (ring.all.drop (max cursor (ring.all.length - size))).length ≤ cap := by
  obtain ⟨hstart, hnear⟩ := start_spec h hroom cursor
  rw [nextLine_eq h hstart hnear] at hnone
  have hscan := scan_none hsize h hnear (by omega) (Nat.zero_le cap) hnone
  rw [List.length_nil, Nat.zero_add, Nat.add_zero, h.startOf hroom] at hscan
  rw [List.length_drop]
  by_cases hpast : ring.all.length ≤ max cursor (ring.all.length - size)
  · rw [List.drop_eq_nil_of_le hpast]
    exact ⟨List.not_mem_nil, by omega⟩
  · have hmin : min (max cursor (ring.all.length - size)) ring.all.length =
        max cursor (ring.all.length - size) := by omega
    rw [hmin] at hscan
    exact hscan

theorem nextLine_some (hsize : 0 < size) (h : Holds size ring) (hroom : ring.all.length < 2 ^ 32)
    {cursor cap : Nat} {answer : Nat × List UInt8}
    (hsome : ring.nextLine size cursor cap = some answer) :
    ∃ passed rest, Found ring.all cap (ring.startOf size cursor) (ring.startOf size cursor) []
      answer answer.2 passed rest := by
  obtain ⟨hstart, hnear⟩ := start_spec h hroom cursor
  rw [nextLine_eq h hstart hnear] at hsome
  obtain ⟨more, passed, rest, hfound⟩ :=
    scan_some hsize h hroom hnear (by omega) (Nat.zero_le cap) hsome
  rw [Nat.add_zero] at hfound
  have hpiece : answer.2 = more := hfound.piece
  exact ⟨passed, rest, hpiece ▸ hfound⟩

/-! ## §4. What a reader was told. -/

/-- The lines read, from a cursor at `first`, are the bytes up to `now` in order.  Each
    is behind a stretch that is missing and before the newline the cursor passed, if
    it passed one; a missing stretch had left the ring. -/
inductive Tells (size : Nat) (all : List UInt8) (first : Nat) : List Taken → Nat → Prop
  | nothing : Tells size all first [] first
  | line {taken : List Taken} {was : Nat} (told : Tells size all first taken was)
      (t : Taken) (missing passed rest : List UInt8)
      (bytes : all.drop was = missing ++ t.piece ++ passed ++ rest)
      (newlines : passed = [newline] ∨ passed = [])
      (left : missing ≠ [] → was + missing.length + size ≤ t.written)
      (cursors : t.was = was ∧ t.now = was + (missing ++ t.piece ++ passed).length) :
      Tells size all first (taken ++ [t]) t.now

theorem Tells.more {all : List UInt8} {first now : Nat} {taken : List Taken}
    (h : Tells size all first taken now) (later : List UInt8) :
    Tells size (all ++ later) first taken now := by
  induction h with
  | nothing => exact .nothing
  | @line taken was told t missing passed rest bytes newlines left cursors ih =>
      refine .line ih t missing passed (rest ++ later.drop (was - all.length)) ?_ newlines left
        cursors
      rw [List.drop_append, bytes, List.append_assoc _ rest]

/-- What was told had been written. -/
theorem Tells.le {all : List UInt8} {first now : Nat} {taken : List Taken}
    (h : Tells size all first taken now) : now ≤ max first all.length := by
  induction h with
  | nothing => exact Nat.le_max_left _ _
  | @line taken was told t missing passed rest bytes newlines left cursors ih =>
      have hlength := congrArg List.length bytes
      rw [List.length_drop, List.length_append] at hlength
      rw [cursors.2]
      omega

/-- What an answer of `nextLine` tells: it goes on from the cursor, or from the oldest byte. -/
theorem Tells.read (hsize : 0 < size) (h : Holds size ring) (hroom : ring.all.length < 2 ^ 32)
    {first cursor cap : Nat} {taken : List Taken} {answer : Nat × List UInt8}
    (hcap : 0 < cap) (htold : Tells size ring.all first taken cursor)
    (hsome : ring.nextLine size cursor cap = some answer) :
    Tells size ring.all first (taken ++ [⟨cursor, answer.1, answer.2, ring.written⟩]) answer.1 := by
  obtain ⟨passed, rest, hfound⟩ := nextLine_some hsize h hroom hsome
  have hbytes := hfound.bytes
  have hcursor := hfound.cursor
  have hpassed : passed = [newline] ∨ passed = [] := hfound.passed.imp_right And.left
  have hlong : 0 < answer.2.length + passed.length := by
    rcases hfound.passed with hpassed | ⟨_, hfull⟩
    · rw [hpassed, List.length_singleton]
      omega
    · omega
  -- Something was read, so the read began inside what is written.
  have hinside : ring.startOf size cursor < ring.all.length := by
    have hlength := congrArg List.length hbytes
    rw [List.length_drop, List.length_append, List.length_append] at hlength
    omega
  rw [h.startOf hroom] at hbytes hcursor hinside
  have hstart : min (max cursor (ring.all.length - size)) ring.all.length =
      max cursor (ring.all.length - size) := by omega
  rw [hstart] at hbytes hcursor hinside
  have hmissing : (ring.all.drop cursor).take (ring.all.length - size - cursor) ++
      ring.all.drop (max cursor (ring.all.length - size)) = ring.all.drop cursor := by
    have hwhere : max cursor (ring.all.length - size) =
        cursor + (ring.all.length - size - cursor) := by omega
    rw [hwhere, ← List.drop_drop, List.take_append_drop]
  have hcount : ((ring.all.drop cursor).take (ring.all.length - size - cursor)).length =
      ring.all.length - size - cursor := by
    rw [List.length_take, List.length_drop]
    omega
  refine .line htold _ ((ring.all.drop cursor).take (ring.all.length - size - cursor)) passed rest
    ?_ hpassed ?_ ⟨rfl, ?_⟩
  · calc ring.all.drop cursor
        = (ring.all.drop cursor).take (ring.all.length - size - cursor) ++
            ring.all.drop (max cursor (ring.all.length - size)) := hmissing.symm
      _ = _ := by
          rw [hbytes]
          simp only [List.append_assoc]
  · intro hgone
    have hpositive := List.length_pos_of_ne_nil hgone
    rw [hcount] at hpositive ⊢
    show _ ≤ ring.written
    rw [h.written]
    omega
  · rw [List.length_append, List.length_append, hcount]
    simp only [hcursor]
    omega

/-- A true answer moves the cursor on, and not past what is written. -/
theorem nextLine_moves (hsize : 0 < size) (h : Holds size ring) (hroom : ring.all.length < 2 ^ 32)
    {cursor cap : Nat} {answer : Nat × List UInt8} (hcap : 0 < cap)
    (hsome : ring.nextLine size cursor cap = some answer) :
    cursor < answer.1 ∧ answer.1 ≤ ring.written ∧ answer.2.length ≤ cap := by
  obtain ⟨passed, rest, hfound⟩ := nextLine_some hsize h hroom hsome
  have hcursor := hfound.cursor
  have hlong : 0 < answer.2.length + passed.length := by
    rcases hfound.passed with hpassed | ⟨_, hfull⟩
    · rw [hpassed, List.length_singleton]
      omega
    · omega
  have hlength := congrArg List.length hfound.bytes
  rw [List.length_drop, List.length_append, List.length_append] at hlength
  rw [h.startOf hroom] at hlength hcursor
  have hwritten := h.written
  exact ⟨by omega, by omega, hfound.fits⟩

/-- What holds in every state of a run that wrote fewer than `2 ^ 32` bytes. -/
structure Followed (size first : Nat) (r : Reader) : Prop where
  holds : Holds size r.ring
  told : Tells size r.ring.all first r.taken r.cursor

def LogStep.capped : LogStep → Prop
  | .nextLine cap => 0 < cap
  | _ => True

theorem step_append (size : Nat) (r : Reader) (data : List UInt8) :
    r.step size (.append data) = { r with ring := r.ring.append size data } := rfl

theorem step_appendStamped (size : Nat) (r : Reader) (data : List UInt8) (seconds : Nat) :
    r.step size (.appendStamped data seconds) =
      { r with ring := r.ring.appendStamped size data seconds } := rfl

theorem step_nextLine (size : Nat) (r : Reader) (cap : Nat) :
    r.step size (.nextLine cap) = r.took (r.ring.nextLine size r.cursor cap) := rfl

/-- A read adds nothing to the ring. -/
theorem took_ring (r : Reader) (answer : Option (Nat × List UInt8)) :
    (r.took answer).ring = r.ring := by
  cases answer <;> rfl

theorem step_all (size : Nat) (r : Reader) (e : LogStep) :
    r.ring.all <+: (r.step size e).ring.all := by
  cases e with
  | append data =>
      show r.ring.all <+: (r.ring.append size data).all
      rw [append_all]
      exact List.prefix_append _ _
  | appendStamped data seconds => exact appendStamped_all size seconds r.ring data
  | nextLine cap => rw [step_nextLine, took_ring]

theorem Followed.step (hsize : 0 < size) {first : Nat} {r : Reader} {e : LogStep}
    (h : Followed size first r) (he : e.capped)
    (hroom : (r.step size e).ring.all.length < 2 ^ 32) : Followed size first (r.step size e) := by
  have hbefore : r.ring.all.length < 2 ^ 32 :=
    Nat.lt_of_le_of_lt (step_all size r e).length_le hroom
  obtain ⟨later, hlater⟩ := step_all size r e
  have hmore := h.told.more later
  rw [hlater] at hmore
  cases e with
  | append data =>
      rw [step_append] at hroom hmore ⊢
      exact ⟨h.holds.append hsize data hroom, hmore⟩
  | appendStamped data seconds =>
      rw [step_appendStamped] at hroom hmore ⊢
      exact ⟨h.holds.appendStamped hsize data seconds hroom, hmore⟩
  | nextLine cap =>
      rw [step_nextLine]
      cases hanswer : r.ring.nextLine size r.cursor cap with
      | none => exact h
      | some answer =>
          exact ⟨h.holds, h.told.read hsize h.holds hbefore he hanswer⟩

theorem followed (hsize : 0 < size) (first : Nat) (steps : List LogStep)
    (hcapped : ∀ e ∈ steps, e.capped)
    (hroom : (Reader.run size first steps).ring.all.length < 2 ^ 32) :
    Followed size first (Reader.run size first steps) := by
  induction steps using List.reverseRecOn with
  | nil => exact ⟨holds_new hsize, .nothing⟩
  | append_singleton steps e ih =>
      have hlast : Reader.run size first (steps ++ [e]) =
          (Reader.run size first steps).step size e := by
        unfold Reader.run
        rw [List.foldl_append]
        rfl
      rw [hlast] at hroom ⊢
      have hbefore : (Reader.run size first steps).ring.all.length < 2 ^ 32 :=
        Nat.lt_of_le_of_lt (step_all size _ e).length_le hroom
      have hearlier := ih (fun e' hmem => hcapped e' (List.mem_append_left _ hmem)) hbefore
      exact hearlier.step hsize (hcapped e (by simp)) hroom

/-! ## §5. The master's ring. -/

abbrev ROW_LOG_KEEP_BYTES : Nat := 8192

/-- `held` is `buf[0]` to `buf[len - 1]`; a ring that was not begun has no `cap`. -/
structure RowLogRing where
  cap : Nat := 0
  held : List UInt8 := []

namespace RowLogRing

def beginWith (size : Nat) : RowLogRing := { cap := size }

/-- What is left of the bytes behind the first newline. -/
def behindNewline (bytes : List UInt8) : Option (List UInt8) :=
  (bytes.findIdx? (· == newline)).map fun found => bytes.drop (found + 1)

def dropOldest (held : List UInt8) : List UInt8 := (behindNewline held).getD []

theorem behindNewline_length {bytes rest : List UInt8} (h : behindNewline bytes = some rest) :
    rest.length < bytes.length := by
  unfold behindNewline at h
  obtain ⟨found, hfound, rfl⟩ := Option.map_eq_some_iff.mp h
  obtain ⟨hlt, _⟩ := List.findIdx?_eq_some_iff_getElem.mp hfound
  rw [List.length_drop]
  omega

theorem dropOldest_length {held : List UInt8} (h : held ≠ []) :
    (dropOldest held).length < held.length := by
  unfold dropOldest
  cases hrest : behindNewline held with
  | none => exact List.length_pos_of_ne_nil h
  | some rest => exact behindNewline_length hrest

/-- `append`'s loop: lines go until `need` more bytes fit.  It ends, as a ring that holds
    nothing has room. -/
def makeRoom (cap need : Nat) (held : List UInt8) : List UInt8 :=
  if h : held.length + need > cap ∧ held ≠ [] then makeRoom cap need (dropOldest held) else held
termination_by held.length
decreasing_by exact dropOldest_length h.2

/-- What is inside a line reads as text. -/
def asText (c : UInt8) : UInt8 := if c < 0x20 || c = 0x7F then 32 else c

def append (ring : RowLogRing) (line : List UInt8) : RowLogRing :=
  if ring.cap < 2 then ring
  else
    let line := if line.length > ring.cap - 1 then line.drop (line.length - (ring.cap - 1)) else line
    { ring with
      held := makeRoom ring.cap (line.length + 1) ring.held ++ line.map asText ++ [newline] }

/-- `read`'s loop, from the bytes at `from` on. -/
def readFrom (outCap : Nat) (rest : List UInt8) : List UInt8 :=
  if rest.length > outCap then
    match h : behindNewline rest with
    | none => []
    | some next => readFrom outCap next
  else rest
termination_by rest.length
decreasing_by exact behindNewline_length h

def read (ring : RowLogRing) (outCap : Nat) : List UInt8 := readFrom outCap ring.held

end RowLogRing

/-- The bytes of whole lines. -/
def spelled (lines : List (List UInt8)) : List UInt8 := lines.flatMap fun line => line ++ [newline]

/-- What a line costs: its bytes and its newline. -/
def lineCost (line : List UInt8) : Nat := line.length + 1

/-- What becomes of a line: its last `cap - 1` bytes, as text. -/
def kept (cap : Nat) (line : List UInt8) : List UInt8 :=
  (line.drop (line.length - (cap - 1))).map RowLogRing.asText

/-! ## §6. Whole lines. -/

@[simp] theorem spelled_nil : spelled [] = [] := rfl

theorem spelled_cons (line : List UInt8) (lines : List (List UInt8)) :
    spelled (line :: lines) = line ++ newline :: spelled lines := by
  unfold spelled
  rw [List.flatMap_cons, List.append_assoc]
  rfl

theorem spelled_snoc (lines : List (List UInt8)) (line : List UInt8) :
    spelled (lines ++ [line]) = spelled lines ++ line ++ [newline] := by
  unfold spelled
  simp

@[simp] theorem spelled_length (lines : List (List UInt8)) :
    (spelled lines).length = total lineCost lines := by
  induction lines with
  | nil => rfl
  | cons line lines ih =>
      rw [spelled_cons, List.length_append, List.length_cons, ih, total_cons]
      unfold lineCost
      omega

theorem kept_clean (cap : Nat) (line : List UInt8) : newline ∉ kept cap line := by
  intro hmem
  obtain ⟨c, _, hc⟩ := List.mem_map.mp hmem
  unfold RowLogRing.asText at hc
  split at hc
  · exact absurd hc (by decide)
  · next hnot =>
      rw [hc] at hnot
      exact hnot (by decide)

theorem kept_cost {cap : Nat} (hcap : 2 ≤ cap) (line : List UInt8) :
    lineCost (kept cap line) ≤ cap := by
  unfold lineCost kept
  rw [List.length_map, List.length_drop]
  omega

theorem behindNewline_spelled {line : List UInt8} (hclean : newline ∉ line)
    (lines : List (List UInt8)) :
    RowLogRing.behindNewline (spelled (line :: lines)) = some (spelled lines) := by
  have hfound : (line ++ newline :: spelled lines).findIdx? (· == newline) = some line.length := by
    rw [List.findIdx?_append, List.findIdx?_eq_none_iff.mpr]
    · simp [List.findIdx?_cons]
    · intro c hc
      exact beq_false_of_ne fun heq => hclean (heq ▸ hc)
  unfold RowLogRing.behindNewline
  rw [spelled_cons, hfound, Option.map_some, List.drop_append]
  simp

theorem makeRoom_spelled {cap need : Nat} (hneed : need ≤ cap) {lines : List (List UInt8)}
    (hclean : ∀ line ∈ lines, newline ∉ line) :
    RowLogRing.makeRoom cap need (spelled lines) = spelled (fitting lineCost (cap - need) lines) := by
  induction lines with
  | nil =>
      rw [RowLogRing.makeRoom]
      simp [fitting]
  | cons line lines ih =>
      have hrest := ih fun other hmem => hclean other (List.mem_cons_of_mem line hmem)
      have hlength := spelled_length (line :: lines)
      rw [RowLogRing.makeRoom]
      by_cases hfits : total lineCost (line :: lines) ≤ cap - need
      · rw [fitting_of_fits hfits, dif_neg]
        omega
      · have hnonempty : spelled (line :: lines) ≠ [] := by
          rw [spelled_cons]
          simp
        rw [dif_pos ⟨by omega, hnonempty⟩, fitting_cons_of_over (Nat.not_le.mp hfits), ← hrest]
        unfold RowLogRing.dropOldest
        rw [behindNewline_spelled (hclean line List.mem_cons_self)]
        rfl

theorem readFrom_spelled (outCap : Nat) {lines : List (List UInt8)}
    (hclean : ∀ line ∈ lines, newline ∉ line) :
    RowLogRing.readFrom outCap (spelled lines) = spelled (fitting lineCost outCap lines) := by
  induction lines with
  | nil =>
      rw [RowLogRing.readFrom]
      simp [fitting]
  | cons line lines ih =>
      have hrest := ih fun other hmem => hclean other (List.mem_cons_of_mem line hmem)
      rw [RowLogRing.readFrom, spelled_length]
      by_cases hfits : total lineCost (line :: lines) ≤ outCap
      · rw [fitting_of_fits hfits, if_neg (Nat.not_lt.mpr hfits)]
      · rw [if_pos (Nat.not_le.mp hfits), fitting_cons_of_over (Nat.not_le.mp hfits), ← hrest]
        have hbehind := behindNewline_spelled (hclean line List.mem_cons_self) lines
        split
        · next hnone => rw [hbehind] at hnone; cases hnone
        · next hsome =>
            rw [hbehind] at hsome
            obtain rfl := Option.some.inj hsome
            rfl

/-- A line is taken behind the newest older ones that leave it room. -/
theorem append_spelled {cap : Nat} (hcap : 2 ≤ cap) {lines : List (List UInt8)}
    (hclean : ∀ line ∈ lines, newline ∉ line) (line : List UInt8) :
    RowLogRing.append ⟨cap, spelled (fitting lineCost cap lines)⟩ line =
      ⟨cap, spelled (fitting lineCost cap (lines ++ [kept cap line]))⟩ := by
  have hcut : (if line.length > cap - 1 then line.drop (line.length - (cap - 1)) else line) =
      line.drop (line.length - (cap - 1)) := by
    split
    · rfl
    · next hshort =>
        have hnone : line.length - (cap - 1) = 0 := by omega
        rw [hnone, List.drop_zero]
  have hneed : (line.drop (line.length - (cap - 1))).length + 1 = lineCost (kept cap line) := by
    unfold lineCost kept
    rw [List.length_map]
  have hfitting : ∀ other ∈ fitting lineCost cap lines, newline ∉ other := fun other hmem =>
    hclean other ((fitting_newest cap lines).suffix.subset hmem)
  unfold RowLogRing.append
  rw [if_neg (Nat.not_lt.mpr hcap)]
  simp only [hcut]
  rw [hneed, makeRoom_spelled (kept_cost hcap line) hfitting,
    fitting_fitting (Nat.sub_le _ _), fitting_snoc (kept_cost hcap line), spelled_snoc]
  rfl

theorem appends_spelled {cap : Nat} (hcap : 2 ≤ cap) (lines : List (List UInt8)) :
    lines.foldl RowLogRing.append (RowLogRing.beginWith cap) =
      ⟨cap, spelled (fitting lineCost cap (lines.map (kept cap)))⟩ := by
  induction lines using List.reverseRecOn with
  | nil => rfl
  | append_singleton lines line ih =>
      have hclean : ∀ other ∈ lines.map (kept cap), newline ∉ other := by
        intro other hmem
        obtain ⟨source, _, rfl⟩ := List.mem_map.mp hmem
        exact kept_clean cap source
      rw [List.foldl_append, ih, List.map_append]
      exact append_spelled hcap hclean line

/-- A ring too small for a line and its newline takes none. -/
theorem append_tiny {ring : RowLogRing} (h : ring.cap < 2) (line : List UInt8) :
    ring.append line = ring := by
  unfold RowLogRing.append
  rw [if_pos h]

/-! ## §7. What a reader of either ring loses. -/

/-- The row's reader is told every byte in order but those that had left the ring, its
    cursor only moves on, and no answer means that nothing more can be told.  The
    master holds the newest whole lines that fit, and reads out the newest of those. -/
theorem readers_lose_only_the_overwritten (size first cap : Nat) (steps : List LogStep)
    (lines : List (List UInt8)) (hsize : 0 < size) (hcapped : ∀ e ∈ steps, e.capped)
    (hroom : (Reader.run size first steps).ring.all.length < 2 ^ 32) (hcap : 2 ≤ cap) :
    (let r := Reader.run size first steps
     r.ring.written = r.ring.all.length ∧
       Tells size r.ring.all first r.taken r.cursor ∧ r.cursor ≤ max first r.ring.written ∧
       ∀ most, 0 < most →
         match r.ring.nextLine size r.cursor most with
         | some (cursor, piece) =>
             r.cursor < cursor ∧ cursor ≤ r.ring.written ∧ piece.length ≤ most
         | none =>
             newline ∉ r.ring.all.drop (max r.cursor (r.ring.written - size)) ∧
               (r.ring.all.drop (max r.cursor (r.ring.written - size))).length ≤ most) ∧
    (let ring := lines.foldl RowLogRing.append (RowLogRing.beginWith cap)
     ∃ held, IsNewest lineCost cap (lines.map (kept cap)) held ∧ ring.held = spelled held ∧
       ∀ outCap, ∃ out, IsNewest lineCost outCap held out ∧ ring.read outCap = spelled out) := by
  constructor
  · have hfollowed := followed hsize first steps hcapped hroom
    have hwritten := hfollowed.holds.written
    refine ⟨hwritten, hfollowed.told, hwritten ▸ hfollowed.told.le, ?_⟩
    intro most hmost
    split
    · next hsome => exact nextLine_moves hsize hfollowed.holds hroom hmost hsome
    · next hnone =>
        rw [hfollowed.holds.written]
        exact nextLine_none hsize hfollowed.holds hroom hnone
  · have hlines := appends_spelled hcap lines
    have hnewest : IsNewest lineCost cap (lines.map (kept cap))
        (fitting lineCost cap (lines.map (kept cap))) := fitting_newest cap _
    refine ⟨fitting lineCost cap (lines.map (kept cap)), hnewest, congrArg RowLogRing.held hlines, ?_⟩
    intro outCap
    refine ⟨_, fitting_newest outCap _, ?_⟩
    have hclean : ∀ line ∈ fitting lineCost cap (lines.map (kept cap)), newline ∉ line := by
      intro line hmem
      obtain ⟨source, _, rfl⟩ := List.mem_map.mp (hnewest.suffix.subset hmem)
      exact kept_clean cap source
    unfold RowLogRing.read
    rw [hlines]
    exact readFrom_spelled outCap hclean

/-- A ring of eight bytes whose reader comes back late, and one of the master's whose
    oldest line is dropped. -/
theorem readers_lose_only_the_overwritten_late :
    (Reader.run 8 0 [.append [97, 10, 98], .nextLine 4, .append [99, 10, 100, 101],
        .appendStamped [102, 10] 7, .nextLine 4]).taken.map (·.piece) = [[97], [100, 101, 91, 55]] ∧
      ∃ held, IsNewest lineCost 6 (List.map (kept 6) [[97, 98], [99, 100], [101]]) held := by
  have hlate := readers_lose_only_the_overwritten 8 0 6
    [.append [97, 10, 98], .nextLine 4, .append [99, 10, 100, 101], .appendStamped [102, 10] 7,
      .nextLine 4] [[97, 98], [99, 100], [101]] (by decide) (by simp [LogStep.capped])
    (by decide +kernel) (by decide)
  obtain ⟨_, held, hheld, _⟩ := hlate
  exact ⟨by decide +kernel, held, hheld⟩

end SplitFlap.LogRings
