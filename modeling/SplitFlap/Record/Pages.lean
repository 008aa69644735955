/-
  SplitFlap.Record.Pages — the event record's two files, and how they are read back.

  `EventRecordPolicy.h` and `EventRecord.cpp`: a tick appends its entries to the
  current file, behind padding when the last write was cut short, and turns the files
  over when the current one is full.  A page is read newest first from the current
  file and then from the one before it.
-/
import SplitFlap.Lib.Machine
import SplitFlap.Lib.MaskedXor
import SplitFlap.Lib.SkipBack
import SplitFlap.Record.Events

namespace SplitFlap.Pages

open Machine MaskedXor Record SkipBack

/-! ## §1. An entry in a file. -/

abbrev EVENT_RECORD_SIZE : Nat := 24
abbrev EVENT_CHECK_MASK : UInt8 := 0x5A
abbrev EVENT_FILE_RECORDS : Nat := 2048

def put32 (v : UInt32) : List UInt8 := [byte32 v 0, byte32 v 1, byte32 v 2, byte32 v 3]

def get32 (p : List UInt8) : UInt32 := word32 (p.getD 0 0) (p.getD 1 0) (p.getD 2 0) (p.getD 3 0)

/-- `eventrecord::check`: the XOR of all bytes but its own. -/
def check (p : List UInt8) : UInt8 :=
  (List.range EVENT_RECORD_SIZE).foldl (fun x i => if i ≠ 21 then x ^^^ p.getD i 0 else x)
    EVENT_CHECK_MASK

def eventEncode (r : EventRecord) : List UInt8 :=
  let out := put32 r.timeS ++ put32 r.seq ++ put32 r.a ++ put32 r.b ++
    [byte16 r.board 0, byte16 r.board 1, r.kind, r.detail, r.unit, 0, 0, 0]
  out.set 21 (check out)

/-- The fields of these bytes. -/
def fieldsOf (p : List UInt8) : EventRecord :=
  { timeS := get32 p
    seq := get32 (p.drop 4)
    a := get32 (p.drop 8)
    b := get32 (p.drop 12)
    board := word16 (p.getD 16 0) (p.getD 17 0)
    kind := p.getD 18 0
    detail := p.getD 19 0
    unit := p.getD 20 0 }

def eventDecode (p : List UInt8) : Option EventRecord :=
  if p.getD 21 0 ≠ check p then none
  else if (fieldsOf p).seq ≠ 0 then some (fieldsOf p)
  else none

/-! ## §2. The files. -/

abbrev File := List UInt8

def eventPadNeeded (fileSize : Nat) : Nat :=
  (EVENT_RECORD_SIZE - fileSize % EVENT_RECORD_SIZE) % EVENT_RECORD_SIZE

def eventShouldRotate (fileSize : Nat) : Bool := fileSize ≥ EVENT_FILE_RECORDS * EVENT_RECORD_SIZE

/-- The entry read at a slot, if one is there. -/
def slotAt (file : File) (i : Nat) : Option EventRecord :=
  eventDecode ((file.drop (i * EVENT_RECORD_SIZE)).take EVENT_RECORD_SIZE)

/-- The loop of `eventLastSeq`, from this slot down. -/
def lastSeqFrom (file : File) : Nat → UInt32
  | 0 => 0
  | i + 1 =>
      match slotAt file i with
      | some r => r.seq
      | none => lastSeqFrom file i

def eventLastSeq (file : File) : UInt32 := lastSeqFrom file (file.length / EVENT_RECORD_SIZE)

/-- The entries of one chunk, from its last slot down. -/
def readBack (file : File) (before : UInt32) (cap first : Nat) :
    Nat → List EventRecord → List EventRecord
  | 0, out => out
  | i + 1, out =>
      if out.length < cap then
        match slotAt file (first + i) with
        | none => readBack file before cap first i out
        | some r =>
            if before ≠ 0 ∧ r.seq ≥ before then readBack file before cap first i out
            else readBack file before cap first i (out ++ [r])
      else out

/-- Chunk after chunk from the slot `next` down; each round takes at least one slot. -/
def readChunks (file : File) (before : UInt32) (cap : Nat) :
    Nat → Nat → List EventRecord → List EventRecord
  | 0, _, out => out
  | rounds + 1, next, out =>
      if next > 0 ∧ out.length < cap then
        let n := min next 16
        readChunks file before cap rounds (next - n) (readBack file before cap (next - n) n out)
      else out

/-- One past the entry to read next, where there is one. -/
def startOf (file : File) (before : UInt32) : Option Nat :=
  let total := file.length / EVENT_RECORD_SIZE
  if before ≠ 0 then
    let last := eventLastSeq file
    if last = 0 then none
    else if last ≥ before then
      let skip := last - before + 1
      if skip.toNat ≥ total then none else some (total - skip.toNat)
    else some total
  else some total

def eventPageRead (file : File) (before : UInt32) (out : List EventRecord) (cap : Nat) :
    List EventRecord :=
  let total := file.length / EVENT_RECORD_SIZE
  if total = 0 ∨ out.length ≥ cap then out
  else
    match startOf file before with
    | none => out
    | some next => readChunks file before cap next next out

/-- The two files, and the next number; a file that is not there is empty. -/
structure Files where
  current : File := []
  previous : File := []
  nextSeq : UInt32 := 1

/-- What the flash does in one tick: whether the file opens, how many bytes it takes
    before a write is cut short, and whether a file is removed and renamed. -/
structure Flash where
  opens : Bool := true
  takes : Nat
  removes : Bool := true
  renames : Bool := true

namespace Files

/-- Writes until one is cut short. -/
def writeAll : Nat → List (List UInt8) → List UInt8
  | _, [] => []
  | room, w :: ws => if w.length ≤ room then w ++ writeAll (room - w.length) ws else w.take room

/-- The zeros that go before the next entry. -/
def padding (file : File) : List UInt8 := List.replicate (eventPadNeeded file.length) 0

/-- The full file takes the place of the one before it. -/
def rotate (s : Files) (flash : Flash) : Files :=
  if eventShouldRotate s.current.length then
    let previous := if flash.removes then [] else s.previous
    if flash.renames then { s with current := [], previous := s.current }
    else { s with previous := previous }
  else s

/-- What the open file takes of the padding and the entries. -/
def append (s : Files) (entries : List EventRecord) (flash : Flash) : Files :=
  { s with
    current := s.current ++ writeAll flash.takes (padding s.current :: entries.map eventEncode) }

/-- `eventRecordTick`, of the entries that are to be written. -/
def eventRecordTick (s : Files) (toWrite : List EventRecord) (flash : Flash) : Files :=
  let entries := numbered s.nextSeq toWrite
  let numbered := { s with nextSeq := s.nextSeq + UInt32.ofNat toWrite.length }
  if toWrite = [] then s
  else if flash.opens then (numbered.append entries flash).rotate flash
  else numbered

/-- `eventRecordInit`, after a restart. -/
def eventRecordInit (s : Files) : Files :=
  let last := eventLastSeq s.current
  let last := if last = 0 then eventLastSeq s.previous else last
  { s with nextSeq := last + 1 }

end Files

/-- `pageOf`. -/
def pageOf (file : File) (before : UInt32) (cap : Nat) (out : List EventRecord) :
    List EventRecord :=
  if out.length ≥ cap then out else eventPageRead file before out cap

def Files.eventRecordPage (s : Files) (before : UInt32) (cap : Nat) : List EventRecord :=
  pageOf s.previous before cap (pageOf s.current before cap [])

inductive FileStep where
  | tick (toWrite : List EventRecord) (flash : Flash)
  /-- The master restarts; a power cut is a tick whose flash stops, and a restart. -/
  | restart

def Files.step (s : Files) : FileStep → Option Files
  | .tick toWrite flash => some (s.eventRecordTick toWrite flash)
  | .restart => some s.eventRecordInit

/-! ## §3. Slots. -/

/-- The slots of a file below this one. -/
def slotsTo (file : File) (k : Nat) : List (Option EventRecord) := (List.range k).map (slotAt file)

/-- What a file stores, slot by slot. -/
def slotsOf (file : File) : List (Option EventRecord) :=
  slotsTo file (file.length / EVENT_RECORD_SIZE)

def seqOf (r : EventRecord) : Nat := r.seq.toNat

variable {file more : File} {before : UInt32} {cap : Nat}

@[simp] theorem slotsTo_zero : slotsTo file 0 = [] := rfl

theorem slotsTo_succ (file : File) (k : Nat) :
    slotsTo file (k + 1) = slotsTo file k ++ [slotAt file k] := by
  unfold slotsTo
  rw [List.range_succ, List.map_append, List.map_singleton]

@[simp] theorem slotsTo_length (file : File) (k : Nat) : (slotsTo file k).length = k := by
  unfold slotsTo
  rw [List.length_map, List.length_range]

theorem slotsTo_take {k n : Nat} (h : k ≤ n) : (slotsTo file n).take k = slotsTo file k := by
  unfold slotsTo
  rw [← List.map_take, List.take_range, Nat.min_eq_left h]

@[simp] theorem slotsOf_length (file : File) :
    (slotsOf file).length = file.length / EVENT_RECORD_SIZE := slotsTo_length _ _

theorem eventDecode_seq {p : List UInt8} {r : EventRecord} (h : eventDecode p = some r) :
    r.seq ≠ 0 := by
  unfold eventDecode at h
  split at h
  · exact (nomatch h)
  · split at h
    · next hseq =>
        rw [← Option.some.inj h]
        exact hseq
    · exact (nomatch h)

theorem mem_slotsTo {k : Nat} {r : EventRecord} (h : r ∈ stored (slotsTo file k)) :
    r.seq ≠ 0 := by
  obtain ⟨i, hi⟩ := mem_stored.mp h
  unfold slotsTo at hi
  rw [List.getElem?_map, Option.map_eq_some_iff] at hi
  obtain ⟨j, _, hslot⟩ := hi
  exact eventDecode_seq hslot

theorem check_set (p : List UInt8) (c : UInt8) : check (p.set 21 c) = check p := by
  unfold check
  apply List.foldl_ext
  intro x i _
  by_cases hi : i ≠ 21
  · rw [if_pos hi, if_pos hi, List.getD_eq_getElem?_getD, List.getD_eq_getElem?_getD,
      List.getElem?_set_ne (Ne.symm hi)]
  · rw [if_neg hi, if_neg hi]

@[simp] theorem eventEncode_length (r : EventRecord) :
    (eventEncode r).length = EVENT_RECORD_SIZE := by
  unfold eventEncode
  rw [List.length_set]
  rfl

/-- **An entry reads as it was written**, where it has a number. -/
theorem eventDecode_eventEncode {r : EventRecord} (h : r.seq ≠ 0) :
    eventDecode (eventEncode r) = some r := by
  have hsealed : (eventEncode r).getD 21 0 = check (eventEncode r) := by
    unfold eventEncode
    dsimp only
    rw [check_set]
    rfl
  have hfields : fieldsOf (eventEncode r) = r := by
    obtain ⟨timeS, seq, a, b, board, kind, detail, unit⟩ := r
    unfold fieldsOf
    rw [EventRecord.mk.injEq]
    exact ⟨word32_bytes timeS, word32_bytes seq, word32_bytes a, word32_bytes b,
      word16_bytes board, rfl, rfl, rfl⟩
  unfold eventDecode
  rw [if_neg (not_not.mpr hsealed), hfields, if_pos h]

/-! ## §4. Files that grow. -/

/-- What is appended leaves the slots before it as they were. -/
theorem slotAt_append {k : Nat} (h : (k + 1) * EVENT_RECORD_SIZE ≤ file.length) :
    slotAt (file ++ more) k = slotAt file k := by
  have hstart : k * EVENT_RECORD_SIZE + EVENT_RECORD_SIZE ≤ file.length := by
    rwa [← Nat.succ_mul]
  unfold slotAt
  rw [List.drop_append_of_le_length (Nat.le_of_add_right_le hstart), List.take_append_of_le_length]
  rw [List.length_drop]
  exact Nat.le_sub_of_add_le' hstart

theorem slotsTo_append (more : File) {k : Nat} (h : k * EVENT_RECORD_SIZE ≤ file.length) :
    slotsTo (file ++ more) k = slotsTo file k := by
  unfold slotsTo
  apply List.map_congr_left
  intro i hi
  have hless := List.mem_range.mp hi
  apply slotAt_append
  exact Nat.le_trans (Nat.mul_le_mul_right _ hless) h

/-- Behind an entry's end the file starts anew. -/
theorem slotAt_behind {n : Nat} (h : file.length = n * EVENT_RECORD_SIZE) (k : Nat) :
    slotAt (file ++ more) (n + k) = slotAt more k := by
  unfold slotAt
  rw [Nat.add_mul, ← h, ← List.drop_drop, List.drop_left]

theorem slotsOf_append (h : EVENT_RECORD_SIZE ∣ file.length) :
    slotsOf (file ++ more) = slotsOf file ++ slotsOf more := by
  obtain ⟨n, hn⟩ := h
  have hlength : file.length = n * EVENT_RECORD_SIZE := by rw [hn, Nat.mul_comm]
  have hfile : file.length / EVENT_RECORD_SIZE = n := by
    rw [hlength]
    exact Nat.mul_div_cancel _ (by decide)
  have htotal : (file ++ more).length / EVENT_RECORD_SIZE =
      n + more.length / EVENT_RECORD_SIZE := by
    rw [List.length_append, hlength, Nat.add_comm, Nat.add_mul_div_right _ _ (by decide),
      Nat.add_comm]
  have hbehind : (slotAt (file ++ more)) ∘ (n + ·) = slotAt more :=
    funext fun k => slotAt_behind hlength k
  have hbefore := slotsTo_append more (Nat.le_of_eq hlength.symm)
  unfold slotsOf
  rw [htotal, hfile, ← hbefore]
  unfold slotsTo
  rw [List.range_add, List.map_append, List.map_map, hbehind]

theorem slotsOf_take (file : File) (n : Nat) :
    slotsOf (file.take n) = (slotsOf file).take (n / EVENT_RECORD_SIZE) := by
  have hcut : (file.take n).length / EVENT_RECORD_SIZE =
      min (n / EVENT_RECORD_SIZE) (file.length / EVENT_RECORD_SIZE) := by
    rw [List.length_take]
    rcases Nat.le_total n file.length with h | h
    · rw [Nat.min_eq_left h, Nat.min_eq_left (Nat.div_le_div_right h)]
    · rw [Nat.min_eq_right h, Nat.min_eq_right (Nat.div_le_div_right h)]
  have hinside : (file.take n).length / EVENT_RECORD_SIZE * EVENT_RECORD_SIZE ≤
      (file.take n).length := Nat.div_mul_le_self _ _
  have hkeep := slotsTo_append (file.drop n) hinside
  rw [List.take_append_drop] at hkeep
  unfold slotsOf
  rw [← hkeep, hcut]
  unfold slotsTo
  rw [← List.map_take, List.take_range]

@[simp] theorem slotsOf_nil : slotsOf [] = [] := rfl

/-- Less than an entry fills no slot. -/
theorem slotsOf_short (h : file.length < EVENT_RECORD_SIZE) : slotsOf file = [] := by
  unfold slotsOf
  rw [Nat.div_eq_of_lt h]
  rfl

/-- Whole entries fill a slot each. -/
theorem slotsOf_entries {entries : List EventRecord} (h : ∀ r ∈ entries, r.seq ≠ 0) :
    slotsOf (entries.map eventEncode).flatten = entries.map some := by
  induction entries with
  | nil => rfl
  | cons r entries ih =>
      have hwhole : EVENT_RECORD_SIZE ∣ (eventEncode r).length := by rw [eventEncode_length]
      have hone : slotsOf (eventEncode r) = [some r] := by
        have hread := eventDecode_eventEncode (h r List.mem_cons_self)
        have hslot : slotAt (eventEncode r) 0 = some r := by
          unfold slotAt
          rw [Nat.zero_mul, List.drop_zero, List.take_of_length_le]
          · exact hread
          · rw [eventEncode_length]
        unfold slotsOf
        rw [eventEncode_length, Nat.div_self (by decide), slotsTo_succ, slotsTo_zero, hslot]
        rfl
      rw [List.map_cons, List.flatten_cons, slotsOf_append hwhole, hone,
        ih fun r' hr' => h r' (List.mem_cons_of_mem _ hr')]
      rfl

/-! ## §5. What a page holds. -/

/-- The walk's entries among the first slots, newest first. -/
def walk (file : File) (before : UInt32) (k : Nat) : List EventRecord :=
  ((stored (slotsTo file k)).filter (wanted seqOf before.toNat)).reverse

theorem walk_zero (file : File) (before : UInt32) : walk file before 0 = [] := rfl

theorem walk_hole {k : Nat} (h : slotAt file k = none) :
    walk file before (k + 1) = walk file before k := by
  unfold walk
  rw [slotsTo_succ, stored_append, h]
  show ((stored (slotsTo file k) ++ []).filter _).reverse = _
  rw [List.append_nil]

theorem walk_entry {k : Nat} {r : EventRecord} (h : slotAt file k = some r) :
    walk file before (k + 1) =
      if wanted seqOf before.toNat r then r :: walk file before k else walk file before k := by
  have hone : stored [some r] = [r] := rfl
  unfold walk
  rw [slotsTo_succ, stored_append, h, hone, List.filter_append, List.reverse_append]
  split
  · next hwanted =>
      rw [List.filter_cons, if_pos hwanted]
      rfl
  · next hno =>
      rw [List.filter_cons, if_neg hno]
      rfl

theorem wanted_iff (before : UInt32) (r : EventRecord) :
    wanted seqOf before.toNat r = true ↔ ¬(before ≠ 0 ∧ r.seq ≥ before) := by
  unfold wanted seqOf
  rw [decide_eq_true_eq, not_and_or, not_not, UInt32.not_le, UInt32.lt_iff_toNat_lt]
  rw [← UInt32.toNat_inj]
  rfl

theorem take_full {xs ys : List EventRecord} (h : ¬xs.length < cap) :
    (xs ++ ys).take cap = xs.take cap :=
  List.take_append_of_le_length (Nat.not_lt.mp h)

theorem readBack_length {first n : Nat} {out : List EventRecord} (h : out.length ≤ cap) :
    (readBack file before cap first n out).length ≤ cap := by
  induction n generalizing out with
  | zero => exact h
  | succ n ih =>
      unfold readBack
      split
      · next hroom =>
          split
          · exact ih h
          · split
            · exact ih h
            · apply ih
              rw [List.length_append]
              exact hroom
      · exact h

/-- A chunk gives what the walk over it would. -/
theorem readBack_walk {first n : Nat} {out : List EventRecord} :
    (readBack file before cap first n out ++ walk file before first).take cap =
      (out ++ walk file before (first + n)).take cap := by
  induction n generalizing out with
  | zero => rfl
  | succ n ih =>
      unfold readBack
      split
      · cases hslot : slotAt file (first + n) with
        | none =>
            dsimp only
            rw [ih, ← Nat.add_assoc, walk_hole hslot]
        | some r =>
            dsimp only
            rw [← Nat.add_assoc, walk_entry hslot]
            by_cases hless : before ≠ 0 ∧ r.seq ≥ before
            · have hno : ¬wanted seqOf before.toNat r = true := by
                rw [wanted_iff]
                exact not_not.mpr hless
              rw [if_pos hless, if_neg hno, ih]
            · rw [if_neg hless, if_pos ((wanted_iff _ _).mpr hless), ih, List.append_assoc]
              rfl
      · next hfull => rw [take_full hfull, take_full hfull]

theorem readChunks_walk {rounds next : Nat} {out : List EventRecord} (hrounds : next ≤ rounds)
    (hout : out.length ≤ cap) :
    readChunks file before cap rounds next out = (out ++ walk file before next).take cap := by
  induction rounds generalizing next out with
  | zero =>
      obtain rfl := Nat.le_zero.mp hrounds
      rw [walk_zero, List.append_nil, List.take_of_length_le hout]
      rfl
  | succ rounds ih =>
      unfold readChunks
      split
      · next hmore =>
          have hsplit : next - min next 16 + min next 16 = next :=
            Nat.sub_add_cancel (Nat.min_le_left _ _)
          dsimp only
          rw [ih (by omega) (readBack_length hout), readBack_walk, hsplit]
      · next hdone =>
          rcases not_and_or.mp hdone with hzero | hfull
          · obtain rfl : next = 0 := by omega
            rw [walk_zero, List.append_nil, List.take_of_length_le hout]
          · rw [take_full hfull, List.take_of_length_le hout]

/-- The newest entry's number, 0 where there is none. -/
theorem lastSeqFrom_newest (file : File) (k : Nat) :
    lastSeqFrom file k = ((newest (slotsTo file k)).map (·.seq)).getD 0 := by
  induction k with
  | zero => rfl
  | succ k ih =>
      unfold lastSeqFrom newest
      rw [slotsTo_succ, stored_append]
      cases hslot : slotAt file k with
      | none =>
          show lastSeqFrom file k = _
          rw [ih]
          show _ = (((stored (slotsTo file k) ++ []).getLast?).map EventRecord.seq).getD 0
          rw [List.append_nil]
          rfl
      | some r =>
          show r.seq = (((stored (slotsTo file k) ++ [r]).getLast?).map EventRecord.seq).getD 0
          rw [List.getLast?_append]
          rfl

/-- The walk starts where the reader reaches. -/
theorem startOf_reach (file : File) (before : UInt32) :
    (startOf file before).getD 0 = reach seqOf (slotsOf file) before.toNat := by
  have hnewest : eventLastSeq file = ((newest (slotsOf file)).map (·.seq)).getD 0 :=
    lastSeqFrom_newest _ _
  unfold startOf reach
  rw [slotsOf_length]
  by_cases hzero : before = 0
  · rw [hzero]
    rfl
  · have hbefore : ¬before.toNat = 0 := fun h => hzero (UInt32.toNat_inj.mp h)
    dsimp only
    rw [if_pos hzero, if_neg hbefore, hnewest]
    cases hlast : newest (slotsOf file) with
    | none => rfl
    | some last =>
        have hseq : last.seq ≠ 0 := mem_slotsTo (List.mem_of_getLast? hlast)
        have hsome : ((some last).map EventRecord.seq).getD 0 = last.seq := rfl
        rw [hsome, if_neg hseq]
        show Option.getD (if last.seq ≥ before then _ else _) 0 =
          if before.toNat ≤ last.seq.toNat then
            file.length / EVENT_RECORD_SIZE - (last.seq.toNat - before.toNat + 1)
          else file.length / EVENT_RECORD_SIZE
        by_cases hless : before ≤ last.seq
        · have hle : before.toNat ≤ last.seq.toNat := UInt32.le_iff_toNat_le.mp hless
          have hskip : (last.seq - before + 1).toNat = last.seq.toNat - before.toNat + 1 := by
            have hlt := last.seq.toNat_lt
            rw [UInt32.toNat_add, UInt32.toNat_sub_of_le _ _ hless]
            show (last.seq.toNat - before.toNat + 1) % 2 ^ 32 = _
            omega
          rw [if_pos hless, if_pos hle, hskip]
          split
          · next hfar => exact (Nat.sub_eq_zero_of_le hfar).symm
          · rfl
        · have hnle : ¬before.toNat ≤ last.seq.toNat := fun h =>
            hless (UInt32.le_iff_toNat_le.mpr h)
          rw [if_neg hless, if_neg hnle]
          rfl

theorem found_walk (file : File) (before : UInt32) :
    found seqOf (slotsOf file) before.toNat =
      walk file before (reach seqOf (slotsOf file) before.toNat) := by
  have hinside : reach seqOf (slotsOf file) before.toNat ≤ file.length / EVENT_RECORD_SIZE := by
    unfold reach
    rw [slotsOf_length]
    split
    · exact Nat.le_refl _
    · split
      · exact Nat.zero_le _
      · split
        · exact Nat.sub_le _ _
        · exact Nat.le_refl _
  unfold found walk
  rw [← slotsTo_take hinside]
  rfl

/-- **A file's page is what the walk back finds.** -/
theorem eventPageRead_found {out : List EventRecord} (hout : out.length ≤ cap) :
    eventPageRead file before out cap =
      (out ++ found seqOf (slotsOf file) before.toNat).take cap := by
  rw [found_walk, ← startOf_reach]
  unfold eventPageRead
  dsimp only
  split
  · next hnone =>
      rcases hnone with hempty | hfull
      · have hzero : (startOf file before).getD 0 = 0 := by
          rw [startOf_reach]
          have hlength := slotsOf_length file
          rw [hempty] at hlength
          rw [List.length_eq_zero_iff.mp hlength]
          unfold reach
          split
          · rfl
          · rfl
        rw [hzero, walk_zero, List.append_nil, List.take_of_length_le hout]
      · rw [take_full (Nat.not_lt.mpr hfull), List.take_of_length_le hout]
  · cases startOf file before with
    | none =>
        show out = (out ++ walk file before 0).take cap
        rw [walk_zero, List.append_nil, List.take_of_length_le hout]
    | some next => exact readChunks_walk (Nat.le_refl _) hout

theorem pageOf_found {out : List EventRecord} (hout : out.length ≤ cap) :
    pageOf file before cap out = (out ++ found seqOf (slotsOf file) before.toNat).take cap := by
  unfold pageOf
  split
  · next hfull => rw [take_full (Nat.not_lt.mpr hfull), List.take_of_length_le hout]
  · exact eventPageRead_found hout

/-- **A page is what the walks back over the two files find.** -/
theorem Files.eventRecordPage_found (s : Files) (before : UInt32) (cap : Nat) :
    s.eventRecordPage before cap =
      (found seqOf (slotsOf s.current) before.toNat ++
        found seqOf (slotsOf s.previous) before.toNat).take cap := by
  have hshort : (pageOf s.current before cap []).length ≤ cap := by
    rw [pageOf_found (Nat.zero_le _)]
    exact List.length_take_le _ _
  unfold eventRecordPage
  rw [pageOf_found hshort, pageOf_found (Nat.zero_le _), List.nil_append]
  by_cases hroom : (found seqOf (slotsOf s.current) before.toNat).length < cap
  · rw [List.take_of_length_le (Nat.le_of_lt hroom)]
  · rw [take_full hroom, List.take_append_of_le_length, List.take_take, Nat.min_self]
    rw [List.length_take]
    exact Nat.le_min.mpr ⟨Nat.le_refl _, Nat.not_lt.mp hroom⟩

end SplitFlap.Pages
