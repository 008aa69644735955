/-
  SplitFlap.Record.Account — no event is lost, and none is counted twice.

  An account of a moment says for every event that was born (a put, or an
  EventsDropped entry, which is an event of its own) where it is: in the stage,
  counted as dropped, in the hand of a tick, counted in a slot of the damp
  table, in a line of the record, or behind an EventsDropped entry.  Each event
  is in exactly one place.  The account of a step's end is the account of its
  start with a few events moved; one lemma for each step says which.
-/
import SplitFlap.Record.Events
import Mathlib.Data.List.Forall2
import Mathlib.Algebra.BigOperators.Group.Finset.Piecewise
import Mathlib.Algebra.BigOperators.Fin

namespace SplitFlap.Record

open List (Forall₂)

/-! ## §1. Events, and what an entry says of them. -/

/-- An event: put by someone, or made for those that found no room. -/
inductive Born
  | put (record : EventRecord)
  | lost (record : EventRecord)

def Born.record : Born → EventRecord
  | .put r => r
  | .lost r => r

def Born.put? : Born → Option EventRecord
  | .put r => some r
  | .lost _ => none

/-- The same but for its time and its number. -/
def SameEvent (e r : EventRecord) : Prop :=
  e.kind = r.kind ∧ e.detail = r.detail ∧ e.board = r.board ∧ e.unit = r.unit ∧ e.a = r.a ∧
    e.b = r.b

/-- The entry is that of event `id`. -/
def IsEvent (born : List Born) (e : EventRecord) (id : Nat) : Prop :=
  ∃ b, born[id]? = some b ∧ SameEvent e b.record

/-- A line of the record: an event, or those a Repeated entry counts. -/
inductive Line
  | event (id : Nat)
  | repeated (ids : List Nat)

def Line.ids : Line → List Nat
  | .event id => [id]
  | .repeated ids => ids

def Line.written? : Line → Option Nat
  | .event id => some id
  | .repeated _ => none

/-- A Repeated entry has the kind, board, unit and detail of what it counts, and
their number. -/
def Says (born : List Born) (e : EventRecord) : Line → Prop
  | .event id => IsEvent born e id
  | .repeated ids =>
      e.kind = EventKind.repeated.toByte ∧ e.a.toNat = ids.length ∧
        ∀ id ∈ ids, ∃ b, born[id]? = some b ∧ b.record.kind = e.detail ∧
          b.record.board = e.board ∧ b.record.unit = e.unit ∧ b.record.detail.toUInt32 = e.b

/-- A slot counts these events. -/
def Counts (born : List Born) (slot : EventDampSlot) (ids : List Nat) : Prop :=
  slot.unwritten.toNat = ids.length ∧
    ∀ id ∈ ids, ∃ b, born[id]? = some b ∧ slot.same b.record = true

/-! ## §2. The account of a moment. -/

structure Account where
  born : List Born := []
  staged : List Nat := []
  dropped : List Nat := []
  hand : List Nat := []
  out : List Line := []
  held : Fin EVENT_DAMP_SLOTS → List Nat := fun _ => []
  lines : List Line := []
  lost : List (Nat × List Nat) := []

def lineCount (lines : List Line) (id : Nat) : Nat := (lines.map fun l => l.ids.count id).sum

def heldCount (held : Fin EVENT_DAMP_SLOTS → List Nat) (id : Nat) : Nat :=
  ∑ i, (held i).count id

def lostCount (lost : List (Nat × List Nat)) (id : Nat) : Nat :=
  (lost.map fun l => l.2.count id).sum

/-- In how many places an event is. -/
def Account.places (acc : Account) (id : Nat) : Nat :=
  acc.staged.count id + acc.dropped.count id + acc.hand.count id + lineCount acc.out id +
    heldCount acc.held id + lineCount acc.lines id + lostCount acc.lost id

/-- The events written and still to be written, in order. -/
def Account.queue (acc : Account) : List Nat :=
  (acc.lines ++ acc.out).filterMap Line.written? ++ acc.hand ++ acc.staged

def EventLog.inHand (s : EventLog) : List EventRecord := (s.tick.map Tick.due).getD []
def EventLog.toWrite (s : EventLog) : List EventRecord := (s.tick.map Tick.toWrite).getD []

/-- The account is right: every event is in exactly one place, each place holds
what the code has there, and what is written keeps the order of the puts. -/
structure Accounts (puts : List EventRecord) (s : EventLog) (acc : Account) : Prop where
  puts_eq : acc.born.filterMap Born.put? = puts
  once : ∀ id, acc.places id = if id < acc.born.length then 1 else 0
  order : acc.queue.Pairwise (· < ·)
  staged : Forall₂ (IsEvent acc.born) (s.stage.q.map Pending.record) acc.staged
  dropped : s.stage.dropped.toNat = acc.dropped.length
  hand : Forall₂ (IsEvent acc.born) s.inHand acc.hand
  out : Forall₂ (Says acc.born) s.toWrite acc.out
  held : ∀ i : Fin EVENT_DAMP_SLOTS, Counts acc.born s.damp[i] (acc.held i)
  free : ∀ i : Fin EVENT_DAMP_SLOTS, s.damp[i].kind = 0 → s.damp[i].unwritten = 0
  lines : Forall₂ (Says acc.born) s.record acc.lines
  lost : ∀ l ∈ acc.lost, ∃ r, acc.born[l.1]? = some (.lost r) ∧
    r.kind = EventKind.eventsDropped.toByte ∧ r.a.toNat = l.2.length
  lost_once : (acc.lost.map Prod.fst).Nodup

/-! ## §3. Counting. -/

theorem lineCount_append (xs ys : List Line) (id : Nat) :
    lineCount (xs ++ ys) id = lineCount xs id + lineCount ys id := by
  unfold lineCount
  rw [List.map_append, List.sum_append]

theorem lineCount_event (id id' : Nat) : lineCount [.event id'] id = [id'].count id := by
  simp [lineCount, Line.ids]

theorem lineCount_repeated (ids : List Nat) (id : Nat) :
    lineCount [.repeated ids] id = ids.count id := by
  simp [lineCount, Line.ids]

theorem heldCount_update (held : Fin EVENT_DAMP_SLOTS → List Nat) (i : Fin EVENT_DAMP_SLOTS)
    (ids : List Nat) (id : Nat) :
    heldCount (Function.update held i ids) id + (held i).count id =
      heldCount held id + ids.count id := by
  have hupdate : (fun j => (Function.update held i ids j).count id) =
      Function.update (fun j => (held j).count id) i (ids.count id) := by
    funext j
    by_cases hj : j = i
    · subst hj
      rw [Function.update_self, Function.update_self]
    · rw [Function.update_of_ne hj, Function.update_of_ne hj]
  unfold heldCount
  have hsum := Finset.sum_erase_add Finset.univ (fun j => (held j).count id) (Finset.mem_univ i)
  rw [hupdate, Finset.sum_update_of_mem (Finset.mem_univ i), Finset.sdiff_singleton_eq_erase]
  omega

theorem lostCount_append (xs ys : List (Nat × List Nat)) (id : Nat) :
    lostCount (xs ++ ys) id = lostCount xs id + lostCount ys id := by
  unfold lostCount
  rw [List.map_append, List.sum_append]

theorem lostCount_one (e : Nat) (ids : List Nat) (id : Nat) :
    lostCount [(e, ids)] id = ids.count id := by
  simp [lostCount]

theorem count_one (id id' : Nat) : [id'].count id = if id = id' then 1 else 0 := by
  rw [List.count_singleton]
  by_cases hid : id = id'
  · subst hid
    simp
  · rw [if_neg hid, if_neg fun heq => hid (eq_of_beq heq).symm]

/-! ## §4. Events that are born. -/

section Grow

variable {born : List Born} (x : Born)

theorem born_grow {id : Nat} {b : Born} (h : born[id]? = some b) :
    (born ++ [x])[id]? = some b := by
  obtain ⟨hlt, -⟩ := List.getElem?_eq_some_iff.mp h
  rw [List.getElem?_append_left hlt]
  exact h

theorem IsEvent.grow {e : EventRecord} {id : Nat} (h : IsEvent born e id) :
    IsEvent (born ++ [x]) e id := by
  obtain ⟨b, hb, hsame⟩ := h
  exact ⟨b, born_grow x hb, hsame⟩

theorem Says.grow {e : EventRecord} {line : Line} (h : Says born e line) :
    Says (born ++ [x]) e line := by
  cases line with
  | event id => exact IsEvent.grow x h
  | repeated ids =>
      obtain ⟨hkind, hcount, hids⟩ := h
      refine ⟨hkind, hcount, fun id hid => ?_⟩
      obtain ⟨b, hb, hrest⟩ := hids id hid
      exact ⟨b, born_grow x hb, hrest⟩

theorem Counts.grow {slot : EventDampSlot} {ids : List Nat} (h : Counts born slot ids) :
    Counts (born ++ [x]) slot ids := by
  refine ⟨h.1, fun id hid => ?_⟩
  obtain ⟨b, hb, hsame⟩ := h.2 id hid
  exact ⟨b, born_grow x hb, hsame⟩

theorem isEvent_born (e : EventRecord) (hsame : SameEvent e x.record) :
    IsEvent (born ++ [x]) e born.length :=
  ⟨x, List.getElem?_concat_length, hsame⟩

theorem SameEvent.refl (e : EventRecord) : SameEvent e e := ⟨rfl, rfl, rfl, rfl, rfl, rfl⟩

end Grow

/-! ## §5. What the tick's parts do. -/

theorem SameEvent.trans {e r q : EventRecord} (h : SameEvent e r) (h' : SameEvent r q) :
    SameEvent e q :=
  ⟨h.1.trans h'.1, h.2.1.trans h'.2.1, h.2.2.1.trans h'.2.2.1, h.2.2.2.1.trans h'.2.2.2.1,
    h.2.2.2.2.1.trans h'.2.2.2.2.1, h.2.2.2.2.2.trans h'.2.2.2.2.2⟩

theorem IsEvent.same {born : List Born} {e r : EventRecord} {id : Nat} (h : IsEvent born r id)
    (hsame : SameEvent e r) : IsEvent born e id := by
  obtain ⟨b, hb, hb'⟩ := h
  exact ⟨b, hb, hsame.trans hb'⟩

/-- The take's loop takes the oldest entries, as they are but for the stamp. -/
theorem takeLoop_takes (at' : TakeAt) (q : List Pending) (cap : Nat) (nextSeq : UInt32) :
    ∃ pre, q = pre ++ (takeLoop at' q cap nextSeq).2 ∧
      Forall₂ (fun e (p : Pending) => SameEvent e p.record) (takeLoop at' q cap nextSeq).1 pre := by
  induction q generalizing cap nextSeq with
  | nil => exact ⟨[], rfl, .nil⟩
  | cons p q ih =>
      cases cap with
      | zero => exact ⟨[], rfl, .nil⟩
      | succ cap =>
          unfold takeLoop
          split
          · exact ⟨[], rfl, .nil⟩
          · obtain ⟨pre, hq, hpre⟩ := ih cap (nextSeq + 1)
            refine ⟨p :: pre, ?_, .cons ⟨rfl, rfl, rfl, rfl, rfl, rfl⟩ hpre⟩
            rw [List.cons_append, ← hq]

/-- A take, without and with an entry for what found no room. -/
theorem EventStage.take_cases (st : EventStage) (at' : TakeAt) (nextSeq : UInt32) :
    (((st.take at' nextSeq (EVENT_STAGE_CAP + 1)).1 =
        (takeLoop at' st.q (EVENT_STAGE_CAP + 1) nextSeq).1 ∧
      (st.take at' nextSeq (EVENT_STAGE_CAP + 1)).2.q =
        (takeLoop at' st.q (EVENT_STAGE_CAP + 1) nextSeq).2) ∧
      (st.take at' nextSeq (EVENT_STAGE_CAP + 1)).2.dropped = st.dropped) ∨
    ∃ seq, ((st.take at' nextSeq (EVENT_STAGE_CAP + 1)).1 =
        (takeLoop at' st.q (EVENT_STAGE_CAP + 1) nextSeq).1 ++ [lostEntry at' st.dropped seq] ∧
      (st.take at' nextSeq (EVENT_STAGE_CAP + 1)).2.q = [] ∧
      (st.take at' nextSeq (EVENT_STAGE_CAP + 1)).2.dropped = 0) ∧
      (takeLoop at' st.q (EVENT_STAGE_CAP + 1) nextSeq).2 = [] := by
  unfold EventStage.take
  dsimp only
  split
  · next hlost =>
      have hnone := List.eq_nil_of_length_eq_zero hlost.2.1
      exact .inr ⟨_, ⟨rfl, hnone, rfl⟩, hnone⟩
  · exact .inl ⟨⟨rfl, rfl⟩, rfl⟩

theorem isEvents_of_same {born : List Born} {es : List EventRecord} {ps : List Pending}
    {ids : List Nat} (hes : Forall₂ (fun e (p : Pending) => SameEvent e p.record) es ps)
    (hids : Forall₂ (IsEvent born) (ps.map Pending.record) ids) : Forall₂ (IsEvent born) es ids := by
  induction hes generalizing ids with
  | nil => exact hids
  | cons hsame _ ih =>
      cases hids with
      | cons hid hrest => exact .cons (hid.same hsame) (ih hrest)

theorem forall₂_split {α β : Type} {R : α → β → Prop} {xs ys : List α} {ids : List β}
    (h : Forall₂ R (xs ++ ys) ids) :
    ∃ is js, ids = is ++ js ∧ Forall₂ R xs is ∧ Forall₂ R ys js := by
  induction xs generalizing ids with
  | nil => exact ⟨[], ids, rfl, .nil, h⟩
  | cons x xs ih =>
      cases h with
      | cons hx hrest =>
          obtain ⟨is, js, hids, his, hjs⟩ := ih hrest
          exact ⟨_ :: is, js, by rw [hids, List.cons_append], .cons hx his, hjs⟩

theorem damp_set (d : EventDamp) (i j : Fin EVENT_DAMP_SLOTS) (x : EventDampSlot) :
    (d.set i x)[j] = if j = i then x else d[j] := by
  show (d.set i.val x)[j.val] = _
  rw [Vector.getElem_set]
  by_cases hij : j = i
  · rw [if_pos hij, if_pos (congrArg Fin.val hij).symm]
  · rw [if_neg hij, if_neg fun h => hij (Fin.ext h.symm)]
    rfl

theorem EventDampSlot.same_congr (x : EventDampSlot) {e r : EventRecord} (h : SameEvent e r) :
    x.same r = x.same e := by
  obtain ⟨hkind, hdetail, hboard, hunit, ha, hb⟩ := h
  unfold EventDampSlot.same
  rw [hkind, hdetail, hboard, hunit, ha, hb]

/-- The slot counts as many as before, of the same entry. -/
structure SameSlot (x y : EventDampSlot) : Prop where
  kind : x.kind = y.kind
  unwritten : x.unwritten = y.unwritten
  same : ∀ r, x.same r = y.same r

theorem Counts.slot {born : List Born} {x y : EventDampSlot} {ids : List Nat}
    (h : Counts born y ids) (hsame : SameSlot x y) : Counts born x ids := by
  refine ⟨by rw [hsame.unwritten]; exact h.1, fun id hid => ?_⟩
  obtain ⟨b, hb, hb'⟩ := h.2 id hid
  exact ⟨b, hb, (hsame.same b.record).trans hb'⟩

/-- An admission writes the entry, counts it in the slot of its like, or starts a
slot over with it. -/
theorem EventDamp.admit_cases (d : EventDamp) (r : EventRecord) :
    ((d.admitEvent r).written = true ∧ (d.admitEvent r).summary = none ∧
      ∀ i : Fin EVENT_DAMP_SLOTS, SameSlot (d.admitEvent r).damp[i] d[i]) ∨
    ((d.admitEvent r).written = false ∧ (d.admitEvent r).summary = none ∧
      ∃ (i : Fin EVENT_DAMP_SLOTS) (x : EventDampSlot), d[i].kind ≠ 0 ∧ d[i].same r = true ∧ (d.admitEvent r).damp = d.set i x ∧
        x.kind = d[i].kind ∧ (∀ q, x.same q = d[i].same q) ∧
        (d[i].unwritten < 0xFFFF → x.unwritten = d[i].unwritten + 1)) ∨
    ∃ i, d.admitEvent r = d.startOver i r := by
  unfold EventDamp.admitEvent
  split
  · exact .inl ⟨rfl, rfl, fun i => ⟨rfl, rfl, fun _ => rfl⟩⟩
  · cases hfind : d.find r with
    | none => exact .inr (.inr ⟨_, rfl⟩)
    | some i =>
        have hfound := List.find?_some hfind
        rw [Bool.and_eq_true, bne_iff_ne] at hfound
        dsimp only
        split
        · split
          · refine .inl ⟨rfl, rfl, fun j => ?_⟩
            rw [damp_set]
            split
            · next hj =>
                subst hj
                exact ⟨rfl, rfl, fun _ => rfl⟩
            · exact ⟨rfl, rfl, fun _ => rfl⟩
          · refine .inr (.inl ⟨rfl, rfl, i, _, hfound.1, hfound.2, rfl, rfl, fun _ => rfl, ?_⟩)
            intro hsat
            exact if_pos hsat
        · exact .inr (.inr ⟨i, rfl⟩)

theorem EventDampSlot.same_iff (x : EventDampSlot) (r : EventRecord) :
    x.same r = true ↔ x.kind = r.kind ∧ x.detail = r.detail ∧ x.board = r.board ∧
      x.unit = r.unit ∧ x.a = r.a ∧ x.b = r.b := by
  simp [EventDampSlot.same, and_assoc]

/-- The Repeated entry of a slot says what the slot counts. -/
theorem Counts.repeated {born : List Born} {x : EventDampSlot} {ids : List Nat}
    (h : Counts born x ids) : Says born x.repeated (.repeated ids) := by
  refine ⟨rfl, ?_, fun id hid => ?_⟩
  · show x.unwritten.toUInt32.toNat = ids.length
    rw [UInt16.toNat_toUInt32, h.1]
  · obtain ⟨b, hb, hsame⟩ := h.2 id hid
    obtain ⟨hkind, hdetail, hboard, hunit, -, -⟩ := (x.same_iff b.record).mp hsame
    refine ⟨b, hb, hkind.symm, hboard.symm, hunit.symm, ?_⟩
    rw [← hdetail]
    rfl

theorem Counts.nil_of_zero {born : List Born} {x : EventDampSlot} {ids : List Nat}
    (h : Counts born x ids) (hzero : x.unwritten = 0) : ids = [] := by
  refine List.eq_nil_of_length_eq_zero ?_
  rw [← h.1, hzero]
  rfl

/-- The line of a slot that starts over, when it counts something. -/
theorem overLine_count {born : List Born} {x : EventDampSlot} {ids : List Nat}
    (h : Counts born x ids) (id : Nat) :
    lineCount (if x.unwritten = 0 then [] else [.repeated ids]) id = ids.count id := by
  split
  · next hzero =>
      rw [h.nil_of_zero hzero]
      rfl
  · exact lineCount_repeated ids id

theorem damp_get (d : EventDamp) (i : Fin EVENT_DAMP_SLOTS) : d.get i = d[i] := rfl

theorem startOver_lines {born : List Born} {d : EventDamp} {i : Fin EVENT_DAMP_SLOTS}
    {r : EventRecord} {ids : List Nat} (h : Counts born d[i] ids)
    (hfree : d[i].kind = 0 → d[i].unwritten = 0) :
    Forall₂ (Says born) (d.startOver i r).summary.toList
      (if d[i].unwritten = 0 then [] else [.repeated ids]) := by
  unfold EventDamp.startOver
  rw [damp_get]
  by_cases hzero : d[i].unwritten = 0
  · have hnone : ¬(d[i].kind ≠ 0 ∧ 0 < d[i].unwritten) := by
      rw [hzero]
      exact fun h => absurd h.2 (UInt16.lt_irrefl 0)
    dsimp only
    rw [if_neg hnone, if_pos hzero]
    exact .nil
  · have hsome : d[i].kind ≠ 0 ∧ 0 < d[i].unwritten := by
      refine ⟨fun hkind => hzero (hfree hkind), ?_⟩
      exact UInt16.pos_iff_ne_zero.mpr hzero
    dsimp only
    rw [if_pos hsome, if_neg hzero]
    exact .cons h.repeated .nil

/-- The windows that have passed: what their slots count is said by their
Repeated entries. -/
theorem dueFrom_lines {born : List Born} (nowS : UInt32) (is : List (Fin EVENT_DAMP_SLOTS))
    (d : EventDamp) (cap : Nat) (held : Fin EVENT_DAMP_SLOTS → List Nat)
    (hheld : ∀ j : Fin EVENT_DAMP_SLOTS, Counts born d[j] (held j))
    (hfree : ∀ j : Fin EVENT_DAMP_SLOTS, d[j].kind = 0 → d[j].unwritten = 0) :
    ∃ lines held', Forall₂ (Says born) (EventDamp.dueFrom nowS is d cap).1 lines ∧
      (∀ j : Fin EVENT_DAMP_SLOTS,
        Counts born (EventDamp.dueFrom nowS is d cap).2[j] (held' j)) ∧
      (∀ j : Fin EVENT_DAMP_SLOTS, (EventDamp.dueFrom nowS is d cap).2[j].kind = 0 →
        (EventDamp.dueFrom nowS is d cap).2[j].unwritten = 0) ∧
      lines.filterMap Line.written? = [] ∧
      ∀ id, lineCount lines id + heldCount held' id = heldCount held id := by
  have hfreed : ∀ (d : EventDamp) (held : Fin EVENT_DAMP_SLOTS → List Nat)
      (i : Fin EVENT_DAMP_SLOTS), (∀ j : Fin EVENT_DAMP_SLOTS, Counts born d[j] (held j)) →
      (∀ j : Fin EVENT_DAMP_SLOTS, d[j].kind = 0 → d[j].unwritten = 0) →
      (∀ j : Fin EVENT_DAMP_SLOTS,
        Counts born (d.set i {})[j] (Function.update held i [] j)) ∧
      ∀ j : Fin EVENT_DAMP_SLOTS, (d.set i {})[j].kind = 0 → (d.set i {})[j].unwritten = 0 := by
    intro d held i hheld hfree
    constructor
    · intro j
      rw [damp_set]
      by_cases hj : j = i
      · subst hj
        rw [if_pos rfl, Function.update_self]
        exact ⟨rfl, fun _ hmem => absurd hmem List.not_mem_nil⟩
      · rw [if_neg hj, Function.update_of_ne hj]
        exact hheld j
    · intro j
      rw [damp_set]
      split
      · exact fun _ => rfl
      · exact hfree j
  induction is generalizing d cap held with
  | nil => exact ⟨[], held, .nil, hheld, hfree, rfl, fun id => Nat.zero_add _⟩
  | cons i rest ih =>
      unfold EventDamp.dueFrom
      split
      · exact ih d cap held hheld hfree
      · split
        · cases cap with
          | zero => exact ⟨[], held, .nil, hheld, hfree, rfl, fun id => Nat.zero_add _⟩
          | succ cap =>
              obtain ⟨hheld', hfree'⟩ := hfreed d held i hheld hfree
              obtain ⟨lines, held', hsaid, hcounts, hzero, hwritten, hsum⟩ :=
                ih (d.set i {}) cap (Function.update held i []) hheld' hfree'
              refine ⟨.repeated (held i) :: lines, held', .cons (hheld i).repeated hsaid, hcounts,
                hzero, hwritten, fun id => ?_⟩
              have hupdate := heldCount_update held i [] id
              have hline := lineCount_append [.repeated (held i)] lines id
              rw [lineCount_repeated, List.singleton_append] at hline
              rw [List.count_nil] at hupdate
              have hrest := hsum id
              omega
        · next hnone =>
            have hnil : held i = [] := by
              refine (hheld i).nil_of_zero ?_
              by_contra hne
              exact hnone (UInt16.pos_iff_ne_zero.mpr hne)
            obtain ⟨hheld', hfree'⟩ := hfreed d held i hheld hfree
            rw [← hnil, Function.update_eq_self] at hheld'
            exact ih (d.set i {}) cap held hheld' hfree'

theorem Says.number {born : List Born} {e : EventRecord} {line : Line} (h : Says born e line)
    (seq : UInt32) : Says born { e with seq } line := by
  cases line with
  | event id => exact h
  | repeated ids => exact h

theorem numbered_lines {born : List Born} {es : List EventRecord} {lines : List Line}
    (h : Forall₂ (Says born) es lines) (firstSeq : UInt32) :
    Forall₂ (Says born) (numbered firstSeq es) lines := by
  induction h generalizing firstSeq with
  | nil => exact .nil
  | cons hsaid _ ih => exact .cons (hsaid.number firstSeq) (ih (firstSeq + 1))

section Accounts

variable {puts : List EventRecord} {s : EventLog} {acc : Account} (h : Accounts puts s acc)
include h

theorem Accounts.lt {id : Nat} (hid : 0 < acc.places id) : id < acc.born.length := by
  rw [h.once] at hid
  split at hid
  · assumption
  · exact absurd hid (Nat.lt_irrefl 0)

theorem Accounts.queue_lt {id : Nat} (hid : id ∈ acc.queue) : id < acc.born.length := by
  refine h.lt ?_
  unfold Account.queue at hid
  unfold Account.places
  rw [List.mem_append, List.mem_append, List.filterMap_append, List.mem_append] at hid
  have hline : ∀ lines : List Line, id ∈ lines.filterMap Line.written? → 0 < lineCount lines id := by
    intro lines hmem
    obtain ⟨line, hline, hwritten⟩ := List.mem_filterMap.mp hmem
    cases line with
    | event id' =>
        have hid' := Option.some.inj hwritten
        subst hid'
        obtain ⟨pre, post, hsplit⟩ := List.append_of_mem hline
        rw [hsplit, ← List.singleton_append, lineCount_append, lineCount_append, lineCount_event,
          count_one, if_pos rfl]
        omega
    | repeated ids => cases hwritten
  rcases hid with ((hid | hid) | hid) | hid
  · have hpos := hline _ hid
    omega
  · have hpos := hline _ hid
    omega
  · have hpos := List.count_pos_iff.mpr hid
    omega
  · have hpos := List.count_pos_iff.mpr hid
    omega

/-- The event that is born next comes after all that are in the queue. -/
theorem Accounts.order_next : (acc.queue ++ [acc.born.length]).Pairwise (· < ·) := by
  refine List.pairwise_append.mpr ⟨h.order, List.pairwise_singleton _ _, fun a ha b hb => ?_⟩
  rw [List.mem_singleton.mp hb]
  exact h.queue_lt ha

/-- A put finds room, or is counted. -/
theorem Accounts.put (r : EventRecord) (nowMs : UInt32) (hsat : s.stage.dropped < 0xFFFFFFFF) :
    ∃ acc', Accounts (puts ++ [r]) { s with stage := s.stage.put r nowMs } acc' := by
  have hputs : (acc.born ++ [Born.put r]).filterMap Born.put? = puts ++ [r] := by
    rw [List.filterMap_append, h.puts_eq]
    rfl
  by_cases hroom : s.stage.q.length < EVENT_STAGE_CAP
  · have hq : (s.stage.put r nowMs).q = s.stage.q ++ [⟨r, nowMs⟩] := by
      simp only [EventStage.put, hroom, dif_pos]
    have hdropped : (s.stage.put r nowMs).dropped = s.stage.dropped := by
      simp only [EventStage.put, hroom, dif_pos]
    refine ⟨{ acc with
      born := acc.born ++ [.put r], staged := acc.staged ++ [acc.born.length] }, ?_⟩
    refine ⟨hputs, fun id => ?_, ?_, ?_, ?_, ?_, ?_, ?_, h.free, ?_, ?_, h.lost_once⟩
    · have hid := h.once id
      simp only [Account.places, List.count_append, count_one, List.length_append,
        List.length_singleton] at hid ⊢
      split at hid <;> split <;> split <;> omega
    · have horder := h.order_next
      simp only [Account.queue, List.append_assoc] at horder ⊢
      exact horder
    · rw [hq, List.map_append]
      refine List.rel_append (h.staged.imp fun _ _ he => he.grow _) ?_
      exact .cons (isEvent_born _ r (SameEvent.refl r)) .nil
    · rw [hdropped]
      exact h.dropped
    · exact h.hand.imp fun _ _ he => he.grow _
    · exact h.out.imp fun _ _ he => he.grow _
    · exact fun i => (h.held i).grow _
    · exact h.lines.imp fun _ _ he => he.grow _
    · intro l hl
      obtain ⟨r', hr', hrest⟩ := h.lost l hl
      exact ⟨r', born_grow _ hr', hrest⟩
  · have hq : (s.stage.put r nowMs).q = s.stage.q := by
      simp only [EventStage.put, hroom, dif_neg, not_false_eq_true]
    have hdropped : (s.stage.put r nowMs).dropped = s.stage.dropped + 1 := by
      simp only [EventStage.put, hroom, dif_neg, not_false_eq_true, hsat, if_true]
    refine ⟨{ acc with
      born := acc.born ++ [.put r], dropped := acc.dropped ++ [acc.born.length] }, ?_⟩
    refine ⟨hputs, fun id => ?_, h.order, ?_, ?_, ?_, ?_, ?_, h.free, ?_, ?_, h.lost_once⟩
    · have hid := h.once id
      simp only [Account.places, List.count_append, count_one, List.length_append,
        List.length_singleton] at hid ⊢
      split at hid <;> split <;> split <;> omega
    · rw [hq]
      exact h.staged.imp fun _ _ he => he.grow _
    · rw [hdropped, List.length_append, List.length_singleton, ← h.dropped, UInt32.toNat_add]
      have hlt := UInt32.lt_iff_toNat_lt.mp hsat
      have hmax : (0xFFFFFFFF : UInt32).toNat = 4294967295 := rfl
      have hone : (1 : UInt32).toNat = 1 := rfl
      omega
    · exact h.hand.imp fun _ _ he => he.grow _
    · exact h.out.imp fun _ _ he => he.grow _
    · exact fun i => (h.held i).grow _
    · exact h.lines.imp fun _ _ he => he.grow _
    · intro l hl
      obtain ⟨r', hr', hrest⟩ := h.lost l hl
      exact ⟨r', born_grow _ hr', hrest⟩

theorem Accounts.hand_nil (hidle : s.tick = none) : acc.hand = [] ∧ acc.out = [] := by
  have hhand := h.hand
  have hout := h.out
  unfold EventLog.inHand at hhand
  unfold EventLog.toWrite at hout
  rw [hidle] at hhand hout
  exact ⟨List.forall₂_nil_left_iff.mp hhand, List.forall₂_nil_left_iff.mp hout⟩

/-- A take: the oldest entries pass into the tick's hand, and behind them, when
nothing is left, the entry for what found no room. -/
theorem Accounts.take (at' : TakeAt) (hidle : s.tick = none) :
    ∃ acc', Accounts puts (eventTake s at') acc' := by
  obtain ⟨hhand, hout⟩ := h.hand_nil hidle
  obtain ⟨pre, hq, hpre⟩ := takeLoop_takes at' s.stage.q (EVENT_STAGE_CAP + 1) s.nextSeq
  have hstaged := h.staged
  rw [hq, List.map_append] at hstaged
  obtain ⟨is, js, hids, his, hjs⟩ := forall₂_split hstaged
  have htaken := isEvents_of_same hpre his
  have hqueue : acc.lines.filterMap Line.written? ++ is ++ js = acc.queue := by
    simp only [Account.queue, hhand, hout, hids, List.append_nil, List.append_assoc]
  rcases EventStage.take_cases s.stage at' s.nextSeq with ⟨htake, hstays⟩ | ⟨seq, htake, hnone⟩
  · refine ⟨{ acc with staged := js, hand := is, out := [] }, ?_⟩
    refine ⟨h.puts_eq, fun id => ?_, ?_, ?_, ?_, ?_, .nil, h.held, h.free, h.lines, h.lost,
      h.lost_once⟩
    · have hid := h.once id
      simp only [Account.places, hids, hhand, hout, List.count_append, List.count_nil] at hid ⊢
      omega
    · simp only [Account.queue, List.append_nil]
      rw [hqueue]
      exact h.order
    · rw [← htake.2] at hjs
      exact hjs
    · exact (congrArg UInt32.toNat hstays).trans h.dropped
    · rw [← htake.1] at htaken
      exact htaken
  · have hjs_nil : js = [] := by
      rw [hnone] at hjs
      exact List.forall₂_nil_left_iff.mp hjs
    refine ⟨{ acc with
      born := acc.born ++ [.lost (lostEntry at' s.stage.dropped seq)]
      staged := [], dropped := [], hand := is ++ [acc.born.length], out := []
      lost := acc.lost ++ [(acc.born.length, acc.dropped)] }, ?_⟩
    refine ⟨?_, fun id => ?_, ?_, ?_, ?_, ?_, .nil, fun i => (h.held i).grow _, h.free,
      h.lines.imp fun _ _ he => he.grow _, ?_, ?_⟩
    · rw [List.filterMap_append, h.puts_eq]
      exact List.append_nil puts
    · have hid := h.once id
      simp only [Account.places, hids, hjs_nil, hhand, hout, List.count_append, List.count_nil, count_one,
        lostCount_append, lostCount_one, List.length_append, List.length_singleton] at hid ⊢
      split at hid <;> split <;> split <;> omega
    · have horder := h.order_next
      rw [← hqueue, hjs_nil, List.append_nil] at horder
      simp only [Account.queue, List.append_nil]
      rw [← List.append_assoc]
      exact horder
    · show Forall₂ _ ((s.stage.take at' s.nextSeq (EVENT_STAGE_CAP + 1)).2.q.map _) _
      rw [htake.2.1]
      exact .nil
    · show (s.stage.take at' s.nextSeq (EVENT_STAGE_CAP + 1)).2.dropped.toNat = _
      rw [htake.2.2]
      rfl
    · show Forall₂ _ (s.stage.take at' s.nextSeq (EVENT_STAGE_CAP + 1)).1 _
      rw [htake.1]
      refine List.rel_append (htaken.imp fun _ _ he => he.grow _) ?_
      exact .cons (isEvent_born _ _ (SameEvent.refl _)) .nil
    · intro l hl
      rcases List.mem_append.mp hl with hl | hl
      · obtain ⟨r, hr, hrest⟩ := h.lost l hl
        exact ⟨r, born_grow _ hr, hrest⟩
      · rw [List.mem_singleton.mp hl]
        exact ⟨_, List.getElem?_concat_length, rfl, h.dropped⟩
    · rw [List.map_append, List.nodup_append]
      refine ⟨h.lost_once, List.nodup_singleton _, fun e he e' he' heq => ?_⟩
      obtain ⟨l, hl, hle⟩ := List.mem_map.mp he
      obtain ⟨r, hr, -⟩ := h.lost l hl
      obtain ⟨hlt, -⟩ := List.getElem?_eq_some_iff.mp hr
      have he'' : e' = acc.born.length := List.mem_singleton.mp he'
      omega

/-- One admission: the entry in hand is to be written, or counted in its slot;
what the slot had counted is then said by a Repeated entry. -/
theorem Accounts.admitEvent {t : Tick} {r : EventRecord} {rest : List EventRecord}
    (htick : s.tick = some t) (hdue : t.due = r :: rest)
    (hsat : ∀ i : Fin EVENT_DAMP_SLOTS, s.damp[i].unwritten < 0xFFFF) :
    ∃ acc', Accounts puts (eventAdmit s t r rest) acc' := by
  have hhand := h.hand
  have hout := h.out
  unfold EventLog.inHand at hhand
  unfold EventLog.toWrite at hout
  rw [htick] at hhand hout
  simp only [Option.map_some, Option.getD_some, hdue] at hhand hout
  obtain ⟨id, ids, hid, hids, hsplit⟩ := List.forall₂_cons_left_iff.mp hhand
  have hcons : acc.hand = [id] ++ ids := hsplit
  have hmoved : (acc.lines ++ (acc.out ++ [Line.event id])).filterMap Line.written? ++ ids ++
      acc.staged = acc.queue := by
    simp only [Account.queue, hsplit, List.filterMap_append, List.append_assoc]
    rfl
  rcases s.damp.admit_cases r with ⟨hwritten, hsummary, hslots⟩ |
      ⟨hwritten, hsummary, i, x, hkind, hsame, hdamp, hxkind, hxsame, hcount⟩ | ⟨i, hover⟩
  · refine ⟨{ acc with hand := ids, out := acc.out ++ [.event id] }, ?_⟩
    refine ⟨h.puts_eq, fun id' => ?_, ?_, h.staged, h.dropped, hids, ?_, fun i => ?_, fun i => ?_,
      h.lines, h.lost, h.lost_once⟩
    · have honce := h.once id'
      simp only [Account.places, hcons, lineCount_append, lineCount_event,
        List.count_append] at honce ⊢
      omega
    · unfold Account.queue
      rw [hmoved]
      exact h.order
    · show Forall₂ _ (t.toWrite ++ (s.damp.admitEvent r).summary.toList ++
        if (s.damp.admitEvent r).written then [r] else []) _
      rw [hwritten, hsummary]
      simp only [Option.toList_none, List.append_nil, if_true]
      exact List.rel_append hout (.cons hid .nil)
    · exact (h.held i).slot (hslots i)
    · show (s.damp.admitEvent r).damp[i].kind = 0 → (s.damp.admitEvent r).damp[i].unwritten = 0
      intro hzero
      rw [(hslots i).unwritten]
      exact h.free i ((hslots i).kind.symm.trans hzero)
  · obtain ⟨b, hb, hsame'⟩ := hid
    refine ⟨{ acc with
      hand := ids, held := Function.update acc.held i (acc.held i ++ [id]) }, ?_⟩
    refine ⟨h.puts_eq, fun id' => ?_, ?_, h.staged, h.dropped, hids, ?_, fun j => ?_, fun j => ?_,
      h.lines, h.lost, h.lost_once⟩
    · have honce := h.once id'
      have hheld := heldCount_update acc.held i (acc.held i ++ [id]) id'
      simp only [Account.places, hcons, List.count_append] at honce hheld ⊢
      omega
    · refine h.order.sublist ?_
      unfold Account.queue
      rw [hsplit]
      refine List.Sublist.append_right (List.Sublist.append_left ?_ _) _
      exact List.sublist_cons_self id ids
    · show Forall₂ _ (t.toWrite ++ (s.damp.admitEvent r).summary.toList ++
        if (s.damp.admitEvent r).written then [r] else []) _
      rw [hwritten, hsummary]
      simp only [Option.toList_none, List.append_nil, Bool.false_eq_true, if_false]
      exact hout
    · show Counts acc.born (s.damp.admitEvent r).damp[j]
        (Function.update acc.held i (acc.held i ++ [id]) j)
      rw [hdamp, damp_set]
      by_cases hj : j = i
      · subst hj
        rw [if_pos rfl, Function.update_self]
        have hheld := h.held j
        refine ⟨?_, fun id' hid' => ?_⟩
        · rw [hcount (hsat j), List.length_append, List.length_singleton, ← hheld.1]
          have hlt := UInt16.lt_iff_toNat_lt.mp (hsat j)
          have hmax : (0xFFFF : UInt16).toNat = 65535 := rfl
          have hone : (1 : UInt16).toNat = 1 := rfl
          rw [UInt16.toNat_add]
          omega
        · rcases List.mem_append.mp hid' with hid' | hid'
          · obtain ⟨b', hb', hin⟩ := hheld.2 id' hid'
            exact ⟨b', hb', (hxsame _).trans hin⟩
          · rw [List.mem_singleton.mp hid']
            refine ⟨b, hb, (hxsame _).trans ?_⟩
            rw [← hsame]
            exact EventDampSlot.same_congr _ hsame'
      · rw [if_neg hj, Function.update_of_ne hj]
        exact h.held j
    · show (s.damp.admitEvent r).damp[j].kind = 0 → (s.damp.admitEvent r).damp[j].unwritten = 0
      rw [hdamp, damp_set]
      split
      · intro hzero
        exact absurd (hxkind.symm.trans hzero) hkind
      · exact h.free j
  · refine ⟨{ acc with
      hand := ids
      out := acc.out ++ (if s.damp[i].unwritten = 0 then [] else [.repeated (acc.held i)]) ++
        [.event id]
      held := Function.update acc.held i [] }, ?_⟩
    have hsaid : Forall₂ (Says acc.born) (s.damp.startOver i r).summary.toList
        (if s.damp[i].unwritten = 0 then [] else [.repeated (acc.held i)]) :=
      startOver_lines (h.held i) (h.free i)
    refine ⟨h.puts_eq, fun id' => ?_, ?_, h.staged, h.dropped, hids, ?_, fun j => ?_, fun j => ?_,
      h.lines, h.lost, h.lost_once⟩
    · have honce := h.once id'
      have hheld := heldCount_update acc.held i [] id'
      have hline := overLine_count (h.held i) id'
      simp only [Account.places, hcons, lineCount_append, lineCount_event, List.count_append,
        List.count_nil] at honce hheld hline ⊢
      omega
    · have hnothing : (if s.damp[i].unwritten = 0 then [] else [Line.repeated (acc.held i)]).filterMap
          Line.written? = [] := by
        split <;> rfl
      simp only [Account.queue, hsplit, List.filterMap_append, List.append_assoc, hnothing,
        List.nil_append] at hmoved ⊢
      rw [hmoved]
      have horder := h.order
      simp only [Account.queue, hsplit, List.filterMap_append, List.append_assoc] at horder
      exact horder
    · show Forall₂ _ (t.toWrite ++ (s.damp.admitEvent r).summary.toList ++
        if (s.damp.admitEvent r).written then [r] else []) _
      rw [hover]
      exact List.rel_append (List.rel_append hout hsaid) (.cons hid .nil)
    · show Counts acc.born (s.damp.admitEvent r).damp[j] (Function.update acc.held i [] j)
      rw [hover]
      show Counts acc.born (s.damp.set i _)[j] _
      rw [damp_set]
      by_cases hj : j = i
      · subst hj
        rw [if_pos rfl, Function.update_self]
        exact ⟨rfl, fun _ hmem => absurd hmem List.not_mem_nil⟩
      · rw [if_neg hj, Function.update_of_ne hj]
        exact h.held j
    · show (s.damp.admitEvent r).damp[j].kind = 0 → (s.damp.admitEvent r).damp[j].unwritten = 0
      rw [hover]
      show (s.damp.set i _)[j].kind = 0 → (s.damp.set i _)[j].unwritten = 0
      rw [damp_set]
      split
      · exact fun _ => rfl
      · exact h.free j

/-- The write: the windows that have passed speak last, and all goes to the
record. -/
theorem Accounts.write {t : Tick} (htick : s.tick = some t) (hdue : t.due = []) :
    ∃ acc', Accounts puts (eventWrite s t) acc' := by
  have hhand := h.hand
  have hout := h.out
  unfold EventLog.inHand at hhand
  unfold EventLog.toWrite at hout
  rw [htick] at hhand hout
  simp only [Option.map_some, Option.getD_some, hdue] at hhand hout
  have hhand := List.forall₂_nil_left_iff.mp hhand
  obtain ⟨lines, held', hsaid, hcounts, hzero, hwritten, hsum⟩ : ∃ lines held',
      Forall₂ (Says acc.born) (passed s t).1 lines ∧
      (∀ j : Fin EVENT_DAMP_SLOTS, Counts acc.born (passed s t).2[j] (held' j)) ∧
      (∀ j : Fin EVENT_DAMP_SLOTS, (passed s t).2[j].kind = 0 → (passed s t).2[j].unwritten = 0) ∧
      lines.filterMap Line.written? = [] ∧
      ∀ id, lineCount lines id + heldCount held' id = heldCount acc.held id := by
    unfold passed
    split
    · exact dueFrom_lines t.nowS _ s.damp EVENT_DAMP_SLOTS acc.held h.held h.free
    · exact ⟨[], acc.held, .nil, h.held, h.free, rfl, fun id => Nat.zero_add _⟩
  refine ⟨{ acc with hand := [], out := [], held := held', lines := acc.lines ++ acc.out ++ lines },
    ?_⟩
  refine ⟨h.puts_eq, fun id => ?_, ?_, h.staged, h.dropped, .nil, .nil, hcounts, hzero, ?_, h.lost,
    h.lost_once⟩
  · have honce := h.once id
    have hid := hsum id
    have hempty : lineCount [] id = 0 := rfl
    simp only [Account.places, hhand, lineCount_append, List.count_nil, hempty] at honce ⊢
    omega
  · have horder := h.order
    simp only [Account.queue, hhand, List.filterMap_append, hwritten, List.append_nil] at horder ⊢
    exact horder
  · rw [List.append_assoc]
    exact List.rel_append h.lines (numbered_lines (List.rel_append hout hsaid) s.nextSeq)

end Accounts

end SplitFlap.Record
