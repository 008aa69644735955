/-
  SplitFlap.Link.Document — a row's unit facts, sent as a document in pieces.

  The row cuts the document with `wlUnitsPiece`, the master puts it back
  together in a `WlDocAssembler`.  The buffer is the `cap` bytes the caller
  gave it, and a copy that would reach past them has no outcome: `add` answers
  `none` there, and never does (`add_writes_inside`).

  §3 carries what an assembler that is collecting holds: the events end with
  the pieces since the last one at offset 0, in order, and the buffer begins
  with their bytes (`Collecting`).  Completeness of an arbitrary stream and
  the way of a whole document (§4) both come from it.
-/
import SplitFlap.Link.Wire

namespace SplitFlap

/-- `max_size` of `wl.UnitsJson.data`. -/
abbrev WL_UNITS_DATA_MAX : Nat := 480

structure WlUnitsJson where
  docId : UInt32 := 0
  offset : UInt32 := 0
  total : UInt32 := 0
  data : Bytes := []
  fits : data.length ≤ WL_UNITS_DATA_MAX := by simp

/-! ## §1. The row's side. -/

/-- The piece of `doc` that starts at `offset`, and the offset of the next. -/
def wlUnitsPiece (docId : UInt32) (doc : Bytes) (total offset : UInt32) : WlUnitsJson × UInt32 :=
  let left := total - offset
  let n := if left.toNat > WL_UNITS_DATA_MAX then UInt32.ofNat WL_UNITS_DATA_MAX else left
  ({ docId := docId
     offset := offset
     total := total
     data := (doc.drop offset.toNat).take n.toNat
     fits := by
       have hn : n.toNat ≤ WL_UNITS_DATA_MAX := by
         simp only [n]
         split
         · decide
         · omega
       rw [List.length_take]
       omega },
   offset + n)

/-- `unitsTick`, pass after pass: pieces from `offset` on until there is
nothing left.  `none`: more than `fuel` of them. -/
def unitsPieces (docId : UInt32) (doc : Bytes) (total : UInt32) :
    (fuel : Nat) → (offset : UInt32) → Option (List WlUnitsJson)
  | 0, _ => none
  | fuel + 1, offset =>
      let (piece, next) := wlUnitsPiece docId doc total offset
      if next ≥ total then some [piece]
      else (unitsPieces docId doc total fuel next).map (piece :: ·)

/-! ## §2. The master's side. -/

/-- The caller's buffer of `cap` bytes. -/
structure Room (cap : UInt32) where
  bytes : Bytes
  size : bytes.length = cap.toNat

/-- Copies `data` to `start`; `none` when that is not inside the buffer. -/
def Room.write {cap : UInt32} (room : Room cap) (start : UInt32) (data : Bytes) :
    Option (Room cap) :=
  if h : start.toNat + data.length ≤ cap.toNat then
    some { bytes := room.bytes.take start.toNat ++ data ++
             room.bytes.drop (start.toNat + data.length)
           size := by
             have hsize := room.size
             simp only [List.length_append, List.length_take, List.length_drop]
             omega }
  else none

/-- `WlDocAssembler::Result`. -/
inductive WlDocResult where
  | partly
  | complete
  | rejected
  deriving Repr, DecidableEq

/-- `held` is the source's `have`. -/
structure WlDocAssembler (cap : UInt32) where
  buf : Room cap
  docId : UInt32 := 0
  total : UInt32 := 0
  held : UInt32 := 0
  active : Bool := false

namespace WlDocAssembler

variable {cap : UInt32}

/-- The half of `add` after the piece was found to be the next. -/
def append (a : WlDocAssembler cap) (p : WlUnitsJson) :
    Option (WlDocResult × WlDocAssembler cap) :=
  (a.buf.write a.held p.data).bind fun buf =>
    let held := a.held + UInt32.ofNat p.data.length
    if held < a.total then some (.partly, { a with buf := buf, held := held })
    else
      (buf.write a.total [0]).map fun buf =>
        (.complete, { a with buf := buf, held := held, active := false })

def add (a : WlDocAssembler cap) (p : WlUnitsJson) : Option (WlDocResult × WlDocAssembler cap) :=
  if p.total = 0 || p.total ≥ cap || p.offset > p.total ||
      p.data.length > (p.total - p.offset).toNat then
    some (.rejected, { a with active := false })
  else if p.offset = 0 then
    append { a with docId := p.docId, total := p.total, held := 0, active := true } p
  else if !a.active || p.docId ≠ a.docId || p.total ≠ a.total || p.offset ≠ a.held then
    some (.rejected, { a with active := false })
  else a.append p

end WlDocAssembler

/-- What happens to an assembler. -/
inductive DocEvent where
  | piece (p : WlUnitsJson)
  | reset

/-- An event's answer; a reset has none. -/
def WlDocAssembler.step {cap : UInt32} (a : WlDocAssembler cap) :
    DocEvent → Option (Option WlDocResult × WlDocAssembler cap)
  | .piece p => (a.add p).map fun answer => (some answer.1, answer.2)
  | .reset => some (none, { a with active := false })

/-- The answers to a sequence of events, with the assembler it leaves; `none`
when one of them wrote outside the buffer. -/
def WlDocAssembler.run {cap : UInt32} (a : WlDocAssembler cap) :
    List DocEvent → Option (List (Option WlDocResult) × WlDocAssembler cap)
  | [] => some ([], a)
  | e :: events =>
      (a.step e).bind fun answer =>
        (answer.2.run events).map fun rest => (answer.1 :: rest.1, rest.2)

/-! ## §3. One piece. -/

theorem Room.write_inside {cap : UInt32} (room : Room cap) (start : UInt32) (data : Bytes)
    (h : start.toNat + data.length ≤ cap.toNat) :
    ∃ room', room.write start data = some room' ∧
      room'.bytes = room.bytes.take start.toNat ++ data ++
        room.bytes.drop (start.toNat + data.length) := by
  unfold Room.write
  rw [dif_pos h]
  exact ⟨_, rfl, rfl⟩

/-- The bytes the pieces carry. -/
def bytesOf (pieces : List WlUnitsJson) : Bytes := (pieces.map (·.data)).flatten

theorem bytesOf_snoc (pieces : List WlUnitsJson) (p : WlUnitsJson) :
    bytesOf (pieces ++ [p]) = bytesOf pieces ++ p.data := by
  simp [bytesOf]

/-- Consecutive pieces of one document, from its first: each begins where the
ones before it ended, and only the first at 0. -/
inductive Collected (docId total : UInt32) : List WlUnitsJson → Prop
  | first (p : WlUnitsJson) (hdoc : p.docId = docId) (htotal : p.total = total)
      (hstart : p.offset = 0) : Collected docId total [p]
  | next {pieces : List WlUnitsJson} (h : Collected docId total pieces) (p : WlUnitsJson)
      (hdoc : p.docId = docId) (htotal : p.total = total) (hlater : p.offset ≠ 0)
      (hoffset : p.offset.toNat = (bytesOf pieces).length) :
      Collected docId total (pieces ++ [p])

namespace WlDocAssembler

variable {cap : UInt32}

/-- What the buffer begins with. -/
structure Holds (a : WlDocAssembler cap) (got : Bytes) : Prop where
  begins : a.buf.bytes.take a.held.toNat = got
  long : a.held.toNat = got.length

/-- What `append` comes to, when the piece fits the document and the document
the buffer. -/
structure Appended (a : WlDocAssembler cap) (p : WlUnitsJson) (got : Bytes)
    (answer : WlDocResult × WlDocAssembler cap) : Prop where
  docId : answer.2.docId = a.docId
  total : answer.2.total = a.total
  holds : answer.2.Holds (got ++ p.data)
  ends : (answer.1 = .partly ∧ answer.2.active = a.active ∧ answer.2.held < a.total) ∨
    (answer.1 = .complete ∧ answer.2.active = false ∧ answer.2.held = a.total ∧
      answer.2.buf.bytes[a.total.toNat]? = some 0)

theorem append_spec (a : WlDocAssembler cap) (p : WlUnitsJson) {got : Bytes} (h : a.Holds got)
    (hfits : a.held.toNat + p.data.length ≤ a.total.toNat) (hroom : a.total < cap) :
    ∃ answer, a.append p = some answer ∧ Appended a p got answer := by
  have hcap : a.total.toNat < cap.toNat := UInt32.lt_iff_toNat_lt.mp hroom
  have hword : cap.toNat < 2 ^ 32 := cap.toNat_lt
  have hheld : (a.held + UInt32.ofNat p.data.length).toNat = a.held.toNat + p.data.length := by
    rw [UInt32.toNat_add, UInt32.toNat_ofNat']
    omega
  obtain ⟨buf, hwrite, hbytes⟩ := a.buf.write_inside a.held p.data (by omega)
  have hsize := a.buf.size
  have htake : (a.buf.bytes.take a.held.toNat ++ p.data).length =
      a.held.toNat + p.data.length := by
    rw [List.length_append, h.begins, ← h.long]
  have hbegins : buf.bytes.take (a.held.toNat + p.data.length) = got ++ p.data := by
    rw [hbytes, List.take_left' htake, h.begins]
  unfold append
  rw [hwrite, Option.bind_some]
  dsimp only
  split
  · -- more is to come
    rename_i hmore
    refine ⟨_, rfl, rfl, rfl, ⟨?_, ?_⟩, Or.inl ⟨rfl, rfl, hmore⟩⟩
    · rw [hheld]
      exact hbegins
    · rw [hheld, List.length_append, h.long]
  · -- the last piece: the terminator goes behind it
    rename_i hlast
    have hend : a.held.toNat + p.data.length = a.total.toNat := by
      rw [UInt32.lt_iff_toNat_lt, hheld] at hlast
      omega
    obtain ⟨ended, hzero, hended⟩ :=
      buf.write_inside a.total [0] (by simp; omega)
    have hbuf := buf.size
    rw [hzero, Option.map_some]
    refine ⟨_, rfl, rfl, rfl, ⟨?_, ?_⟩, Or.inr ⟨rfl, rfl, ?_, ?_⟩⟩
    · rw [hheld, hended, hend, List.append_assoc, List.take_left' (by simp; omega), ← hend]
      exact hbegins
    · rw [hheld, List.length_append, h.long]
    · apply UInt32.toNat_inj.mp
      rw [hheld, hend]
    · have hbefore : (buf.bytes.take a.total.toNat).length = a.total.toNat := by
        rw [List.length_take]
        omega
      rw [hended, List.append_assoc, List.getElem?_append_right (Nat.le_of_eq hbefore), hbefore]
      simp

/-! ## §4. Any stream of pieces. -/

/-- While it collects, the events end with the pieces since the last one at
offset 0, and the buffer begins with their bytes. -/
def Collecting (a : WlDocAssembler cap) (events : List DocEvent) : Prop :=
  a.active = true → a.total < cap ∧ a.held < a.total ∧ ∃ before pieces,
    events = before ++ pieces.map .piece ∧ Collected a.docId a.total pieces ∧
      a.Holds (bytesOf pieces)

/-- The document is whole: the buffer holds the bytes of the consecutive
pieces the events end with, and the terminator. -/
structure Whole (a : WlDocAssembler cap) (events : List DocEvent) : Prop where
  pieces : ∃ before pieces, events = before ++ pieces.map .piece ∧
    Collected a.docId a.total pieces ∧ a.buf.bytes.take a.total.toNat = bytesOf pieces ∧
      a.total.toNat = (bytesOf pieces).length
  ended : a.buf.bytes[a.total.toNat]? = some 0

theorem collecting_idle {a : WlDocAssembler cap} (h : a.active = false)
    (events : List DocEvent) : a.Collecting events := by
  intro hactive
  rw [h] at hactive
  exact absurd hactive Bool.false_ne_true

/-- A piece taken as the next of `pieces` leaves what was promised of one. -/
theorem append_collecting {a : WlDocAssembler cap} {p : WlUnitsJson} {got : Bytes}
    {events : List DocEvent} (before : List DocEvent) (pieces : List WlUnitsJson) (hgot : a.Holds got)
    (hfits : a.held.toNat + p.data.length ≤ a.total.toNat) (hroom : a.total < cap)
    (hbytes : got ++ p.data = bytesOf pieces) (hcollected : Collected a.docId a.total pieces)
    (hevents : events = before ++ pieces.map .piece) :
    ∃ answer, a.append p = some answer ∧ answer.2.Collecting events ∧
      (answer.1 = .complete → answer.2.Whole events) := by
  obtain ⟨answer, hanswer, happended⟩ := append_spec a p hgot hfits hroom
  have hholds := happended.holds
  rw [hbytes] at hholds
  refine ⟨answer, hanswer, ?_, ?_⟩
  · intro hactive
    rcases happended.ends with ⟨_, _, hmore⟩ | ⟨_, hidle, _, _⟩
    · refine ⟨?_, ?_, before, pieces, hevents, ?_, hholds⟩
      · rw [happended.total]
        exact hroom
      · rw [happended.total]
        exact hmore
      · rw [happended.docId, happended.total]
        exact hcollected
    · rw [hidle] at hactive
      exact absurd hactive Bool.false_ne_true
  · intro hcomplete
    rcases happended.ends with ⟨hpartly, _, _⟩ | ⟨_, _, hheld, hzero⟩
    · rw [hpartly] at hcomplete
      exact absurd hcomplete (by decide)
    · have htotal : answer.2.held = answer.2.total := by rw [hheld, happended.total]
      constructor
      · refine ⟨before, pieces, hevents, ?_, ?_, ?_⟩
        · rw [happended.docId, happended.total]
          exact hcollected
        · rw [← htotal]
          exact hholds.begins
        · rw [← htotal]
          exact hholds.long
      · rw [happended.total]
        exact hzero

/-- **One piece**, whatever it carries: nothing is written outside the buffer,
and what is collected stays the end of the stream. -/
theorem add_collecting {a : WlDocAssembler cap} {events : List DocEvent}
    (h : a.Collecting events) (p : WlUnitsJson) :
    ∃ answer, a.add p = some answer ∧ answer.2.Collecting (events ++ [.piece p]) ∧
      (answer.1 = .complete → answer.2.Whole (events ++ [.piece p])) := by
  unfold add
  split
  · -- past the buffer, or past the document it says it is of
    exact ⟨_, rfl, collecting_idle rfl _, fun hcomplete => WlDocResult.noConfusion hcomplete⟩
  · rename_i hinside
    simp only [Bool.or_eq_true, decide_eq_true_eq, not_or, Nat.not_lt] at hinside
    obtain ⟨⟨⟨_, hroom⟩, hoffset⟩, hfits⟩ := hinside
    have hroom : p.total < cap := UInt32.not_le.mp hroom
    have hoffset : p.offset ≤ p.total := UInt32.not_lt.mp hoffset
    rw [UInt32.toNat_sub_of_le _ _ hoffset] at hfits
    have hoffset := UInt32.le_iff_toNat_le.mp hoffset
    split
    · -- the first of a document
      rename_i hstart
      have hzero : p.offset.toNat = 0 := by rw [hstart]; rfl
      refine append_collecting events [p] ⟨List.take_zero, rfl⟩ ?_ ?_ ?_ ?_ ?_
      · show 0 + _ ≤ p.total.toNat
        omega
      · exact hroom
      · simp [bytesOf]
      · exact .first p rfl rfl hstart
      · rfl
    · rename_i hlater
      split
      · -- not the next of the one being collected
        exact ⟨_, rfl, collecting_idle rfl _, fun hcomplete => WlDocResult.noConfusion hcomplete⟩
      · rename_i hnext
        simp only [Bool.or_eq_true, Bool.not_eq_true', decide_eq_true_eq, not_or, ne_eq,
          Decidable.not_not, Bool.not_eq_false] at hnext
        obtain ⟨⟨⟨hactive, hdoc⟩, htotal⟩, hheld⟩ := hnext
        obtain ⟨hcap, _, before, pieces, hevents, hcollected, hholds⟩ := h hactive
        have hlong := hholds.long
        rw [← hheld] at hlong
        refine append_collecting before (pieces ++ [p]) hholds ?_ ?_ ?_ ?_ ?_
        · rw [← hheld, ← htotal]
          omega
        · exact hcap
        · rw [bytesOf_snoc]
        · exact hcollected.next p hdoc htotal hlater hlong
        · rw [hevents, List.map_append, List.append_assoc]
          rfl

theorem step_collecting {a : WlDocAssembler cap} {events : List DocEvent}
    (h : a.Collecting events) (e : DocEvent) :
    ∃ answer, a.step e = some answer ∧ answer.2.Collecting (events ++ [e]) ∧
      (answer.1 = some .complete → answer.2.Whole (events ++ [e])) := by
  cases e with
  | piece p =>
      obtain ⟨answer, hadd, hcollecting, hwhole⟩ := add_collecting h p
      refine ⟨_, congrArg (Option.map _) hadd, hcollecting, ?_⟩
      intro hcomplete
      exact hwhole (Option.some.inj hcomplete)
  | reset =>
      exact ⟨_, rfl, collecting_idle rfl _, fun hno => Option.noConfusion rfl (heq_of_eq hno)⟩

/-- Every answer of a run says what it says of the events up to there. -/
theorem run_collecting {a : WlDocAssembler cap} {before : List DocEvent}
    (h : a.Collecting before) (events : List DocEvent) :
    ∃ answers a', a.run events = some (answers, a') ∧ a'.Collecting (before ++ events) ∧
      (answers.getLast? = some (some .complete) → a'.Whole (before ++ events)) := by
  induction events generalizing a before with
  | nil => exact ⟨[], a, rfl, by rwa [List.append_nil], fun hno => absurd hno (by decide)⟩
  | cons e events ih =>
      obtain ⟨answer, hstep, hcollecting, hwhole⟩ := step_collecting h e
      obtain ⟨answers, a', hrun, hafter, hlast⟩ := ih hcollecting
      rw [List.append_assoc, List.singleton_append] at hafter hlast
      refine ⟨answer.1 :: answers, a', ?_, hafter, ?_⟩
      · rw [run, hstep, Option.bind_some, hrun]
        rfl
      · intro hcomplete
        cases events with
        | nil =>
            cases hrun
            exact hwhole (Option.some.inj hcomplete)
        | cons e' events =>
            apply hlast
            cases answers with
            | nil =>
                rw [run, Option.bind_eq_some_iff] at hrun
                obtain ⟨_, _, hrest⟩ := hrun
                rw [Option.map_eq_some_iff] at hrest
                obtain ⟨_, _, hpair⟩ := hrest
                cases hpair
            | cons => rwa [List.getLast?_cons_cons] at hcomplete

/-! ## §5. A whole document. -/

/-- Before the first piece, or with the document's first `offset` bytes. -/
def Ready (a : WlDocAssembler cap) (docId : UInt32) (doc : Bytes) (total offset : UInt32) : Prop :=
  offset = 0 ∨ (offset ≠ 0 ∧ a.active = true ∧ a.docId = docId ∧ a.total = total ∧
    a.held = offset ∧ a.buf.bytes.take offset.toNat = doc.take offset.toNat)

variable {docId total offset : UInt32} {doc : Bytes}

/-- What a piece carries, and where the next one begins. -/
theorem wlUnitsPiece_spec (docId : UInt32) (htotal : total.toNat = doc.length) (hoffset : offset < total) :
    ∃ n, 0 < n ∧ offset.toNat + n ≤ doc.length ∧
      (wlUnitsPiece docId doc total offset).1.data = (doc.drop offset.toNat).take n ∧
        (wlUnitsPiece docId doc total offset).2.toNat = offset.toNat + n := by
  have hlt := UInt32.lt_iff_toNat_lt.mp hoffset
  have hleft : (total - offset).toNat = total.toNat - offset.toNat :=
    UInt32.toNat_sub_of_le _ _ (UInt32.le_of_lt hoffset)
  have hword : total.toNat < 2 ^ 32 := total.toNat_lt
  have hmax : (UInt32.ofNat WL_UNITS_DATA_MAX).toNat = WL_UNITS_DATA_MAX := rfl
  have hbound : WL_UNITS_DATA_MAX = 480 := rfl
  refine ⟨min (total.toNat - offset.toNat) WL_UNITS_DATA_MAX, by omega, by omega, ?_, ?_⟩
  · unfold wlUnitsPiece
    dsimp only
    rw [hleft]
    split
    · rw [hmax, Nat.min_eq_right (by omega)]
    · rw [hleft, Nat.min_eq_left (by omega)]
  · unfold wlUnitsPiece
    dsimp only
    rw [hleft, UInt32.toNat_add]
    split
    · rw [hmax]
      omega
    · rw [hleft]
      omega

/-- **One piece of a document** brings the buffer to the next piece's offset,
or completes it. -/
theorem add_piece {a : WlDocAssembler cap} (htotal : total.toNat = doc.length)
    (hcap : total < cap) (hoffset : offset < total) (h : a.Ready docId doc total offset) :
    ∃ answer, a.add (wlUnitsPiece docId doc total offset).1 = some answer ∧
      ((answer.1 = .partly ∧ (wlUnitsPiece docId doc total offset).2 < total ∧
          answer.2.Ready docId doc total (wlUnitsPiece docId doc total offset).2) ∨
        (answer.1 = .complete ∧ (wlUnitsPiece docId doc total offset).2 = total ∧
          answer.2.buf.bytes.take doc.length = doc ∧
            answer.2.buf.bytes[doc.length]? = some 0)) := by
  obtain ⟨n, hn, hinside, hdata, hnext⟩ := wlUnitsPiece_spec docId htotal hoffset
  generalize hpiece : wlUnitsPiece docId doc total offset = sent at hdata hnext ⊢
  have hdoc : sent.1.docId = docId := by rw [← hpiece]; rfl
  have hof : sent.1.total = total := by rw [← hpiece]; rfl
  have hat : sent.1.offset = offset := by rw [← hpiece]; rfl
  have hlength : sent.1.data.length = n := by
    rw [hdata, List.length_take, List.length_drop]
    omega
  have hlt := UInt32.lt_iff_toNat_lt.mp hoffset
  have hpositive : total ≠ 0 := by
    intro hzero
    rw [hzero] at hlt
    exact absurd hlt (Nat.not_lt_zero _)
  have hguard : (sent.1.total = 0 || sent.1.total ≥ cap || sent.1.offset > sent.1.total ||
      sent.1.data.length > (sent.1.total - sent.1.offset).toNat) = false := by
    rw [hof, hat, UInt32.toNat_sub_of_le _ _ (UInt32.le_of_lt hoffset), hlength]
    simp only [Bool.or_eq_false_iff, decide_eq_false_iff_not, Nat.not_lt, UInt32.not_lt,
      UInt32.not_le]
    exact ⟨⟨⟨hpositive, hcap⟩, UInt32.le_of_lt hoffset⟩, by omega⟩
  have hjoin : doc.take offset.toNat ++ sent.1.data = doc.take sent.2.toNat := by
    rw [hdata, hnext, List.take_add]
  -- in both cases the piece goes behind the bytes already there
  have htaken : ∃ b : WlDocAssembler cap, a.add sent.1 = b.append sent.1 ∧ b.active = true ∧
      b.docId = docId ∧ b.total = total ∧ b.held = offset ∧
      b.Holds (doc.take offset.toNat) := by
    have hlong : offset.toNat = (doc.take offset.toNat).length := by
      rw [List.length_take]
      omega
    unfold add
    rw [hguard, if_neg Bool.false_ne_true]
    rcases h with hzero | ⟨hlater, hactive, hid, ht, hheld, hbegins⟩
    · rw [if_pos (hat.trans hzero)]
      refine ⟨_, rfl, rfl, hdoc, hof, hzero.symm, ⟨?_, ?_⟩⟩
      · rw [hzero]
        rfl
      · rw [hzero]
        rfl
    · rw [if_neg (by rw [hat]; exact hlater),
        if_neg (by simp [hactive, hdoc, hid, hof, ht, hat, hheld])]
      refine ⟨a, rfl, hactive, hid, ht, hheld, ⟨?_, ?_⟩⟩
      · rw [hheld]
        exact hbegins
      · rw [hheld]
        exact hlong
  obtain ⟨b, hadd, hactive, hid, ht, hheld, hholds⟩ := htaken
  obtain ⟨answer, hanswer, happended⟩ := append_spec b sent.1 hholds
    (by rw [hheld, ht, hlength]; omega) (by rw [ht]; exact hcap)
  rw [hadd, hanswer]
  have hall := happended.holds
  rw [hjoin] at hall
  have hreached : answer.2.held = sent.2 := by
    apply UInt32.toNat_inj.mp
    rw [hall.long, List.length_take]
    omega
  refine ⟨answer, rfl, ?_⟩
  rcases happended.ends with ⟨hpartly, hstill, hmore⟩ | ⟨hcomplete, _, hend, hzero⟩
  · refine Or.inl ⟨hpartly, ?_, Or.inr ⟨?_, ?_, ?_, ?_, hreached, ?_⟩⟩
    · rw [← hreached, ← ht]
      exact hmore
    · intro hno
      rw [hno] at hnext
      have hnext : 0 = offset.toNat + n := hnext
      omega
    · rw [hstill, hactive]
    · rw [happended.docId, hid]
    · rw [happended.total, ht]
    · rw [← hreached]
      rw [hall.begins, hreached]
  · have hwhole : sent.2 = total := by rw [← hreached, hend, ht]
    refine Or.inr ⟨hcomplete, hwhole, ?_, ?_⟩
    · have hbegins := hall.begins
      rw [hreached, hwhole, htotal, List.take_length] at hbegins
      exact hbegins
    · rw [← htotal, ← ht]
      exact hzero

/-- The pieces from `offset` on, all of them partial but the last. -/
theorem run_pieces (htotal : total.toNat = doc.length) (hcap : total < cap) (fuel : Nat)
    (hfuel : total.toNat ≤ offset.toNat + fuel) (hoffset : offset < total)
    {a : WlDocAssembler cap} (h : a.Ready docId doc total offset) :
    ∃ pieces last a', unitsPieces docId doc total fuel offset = some (pieces ++ [last]) ∧
      a.run ((pieces ++ [last]).map .piece) =
        some (pieces.map (fun _ => some .partly) ++ [some .complete], a') ∧
      a'.buf.bytes.take doc.length = doc ∧ a'.buf.bytes[doc.length]? = some 0 := by
  induction fuel generalizing offset a with
  | zero =>
      have hlt := UInt32.lt_iff_toNat_lt.mp hoffset
      omega
  | succ fuel ih =>
      obtain ⟨n, hn, _, _, hnext⟩ := wlUnitsPiece_spec docId htotal hoffset
      obtain ⟨answer, hadd, hanswer⟩ := add_piece htotal hcap hoffset h
      have hstep : a.step (.piece (wlUnitsPiece docId doc total offset).1) =
          some (some answer.1, answer.2) := by
        rw [step, hadd]
        rfl
      unfold unitsPieces
      dsimp only
      rcases hanswer with ⟨hpartly, hmore, hready⟩ | ⟨hcomplete, hlast, hbytes, hzero⟩
      · obtain ⟨pieces, last, a', hpieces, hrun, hend⟩ := ih (by omega) hmore hready
        refine ⟨(wlUnitsPiece docId doc total offset).1 :: pieces, last, a', ?_, ?_, hend⟩
        · rw [if_neg (UInt32.not_le.mpr hmore), hpieces]
          rfl
        · rw [List.cons_append, List.map_cons, run, hstep, Option.bind_some, hrun, hpartly]
          rfl
      · refine ⟨[], (wlUnitsPiece docId doc total offset).1, answer.2, ?_, ?_, hbytes, hzero⟩
        · rw [hlast, if_pos (UInt32.le_refl _)]
          rfl
        · rw [List.nil_append, List.map_singleton, run, hstep, hcomplete]
          rfl

end WlDocAssembler

/-- **Unit facts cross the link whole or not at all.**  A document cut from its
start arrives as it is, with a terminator, on its last piece; and whatever
pieces and resets an assembler sees, nothing is written outside its buffer and
a document it calls complete is the consecutive pieces since the last one at
offset 0. -/
theorem units_cross_whole (cap : UInt32) (room : Room cap) (a : WlDocAssembler cap)
    (docId : UInt32) (doc : Bytes) (hdoc : 1 ≤ doc.length) (hcap : doc.length < cap.toNat) :
    (∃ pieces last a',
      unitsPieces docId doc (UInt32.ofNat doc.length) doc.length 0 = some (pieces ++ [last]) ∧
        a.run ((pieces ++ [last]).map .piece) =
          some (pieces.map (fun _ => some .partly) ++ [some .complete], a') ∧
        a'.buf.bytes.take doc.length = doc ∧ a'.buf.bytes[doc.length]? = some 0) ∧
    (∀ events, ∃ answers a', ({ buf := room } : WlDocAssembler cap).run events =
      some (answers, a') ∧ (answers.getLast? = some (some .complete) → a'.Whole events)) := by
  have hword : cap.toNat < 2 ^ 32 := cap.toNat_lt
  have htotal : (UInt32.ofNat doc.length).toNat = doc.length := by
    rw [UInt32.toNat_ofNat']
    omega
  constructor
  · apply WlDocAssembler.run_pieces htotal
    · rw [UInt32.lt_iff_toNat_lt, htotal]
      exact hcap
    · rw [htotal]
      exact Nat.le_add_left _ _
    · rw [UInt32.lt_iff_toNat_lt, htotal]
      exact hdoc
    · exact Or.inl rfl
  · intro events
    have hidle : ({ buf := room } : WlDocAssembler cap).active = false := rfl
    obtain ⟨answers, a', hrun, _, hwhole⟩ :=
      WlDocAssembler.run_collecting (WlDocAssembler.collecting_idle hidle []) events
    exact ⟨answers, a', hrun, hwhole⟩

/-- One character in a buffer of two. -/
theorem units_cross_short :
    ∃ pieces last a', unitsPieces 1 [65] 1 1 0 = some (pieces ++ [last]) ∧
      ({ buf := ⟨[0, 0], rfl⟩ } : WlDocAssembler 2).run ((pieces ++ [last]).map .piece) =
        some (pieces.map (fun _ => some .partly) ++ [some .complete], a') ∧
      a'.buf.bytes.take 1 = [65] ∧ a'.buf.bytes[1]? = some 0 :=
  (units_cross_whole 2 ⟨[0, 0], rfl⟩ { buf := ⟨[0, 0], rfl⟩ } 1 [65] (by decide) (by decide)).1

end SplitFlap
