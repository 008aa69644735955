/-
  SplitFlap.Record.PageRuns — runs of the event record's files.

  The walk back skips as many slots as the newest number is beyond the wanted one.  It
  loses nothing while entries keep in stride with their slots, so a tick keeps the
  pages whole where the next number is no further beyond any stored entry than the
  slots behind it (`InStep`); a file that does not open uses numbers up without slots.
-/
import SplitFlap.Record.Conserved
import SplitFlap.Record.Pages

namespace SplitFlap.Pages

open Machine Record SkipBack

variable {file : File} {s s' : Files}

/-! ## §1. What a tick appends. -/

def padded (file : File) : File := file ++ Files.padding file

/-- The entry the padding makes of a torn one, if it passes for one. -/
def torn (file : File) : Option EventRecord :=
  slotAt (padded file) (file.length / EVENT_RECORD_SIZE)

theorem writeAll_take (room : Nat) (ws : List (List UInt8)) :
    Files.writeAll room ws = ws.flatten.take room := by
  induction ws generalizing room with
  | nil => exact List.take_nil.symm
  | cons w ws ih =>
      unfold Files.writeAll
      rw [List.flatten_cons]
      split
      · next hfits => rw [ih, List.take_append, List.take_of_length_le hfits]
      · next hcut => rw [List.take_append_of_le_length (Nat.le_of_not_le hcut)]

theorem padding_length (file : File) :
    (Files.padding file).length = eventPadNeeded file.length := List.length_replicate

theorem padded_whole (file : File) : EVENT_RECORD_SIZE ∣ (padded file).length := by
  unfold padded
  rw [List.length_append, padding_length]
  unfold eventPadNeeded EVENT_RECORD_SIZE
  omega

/-- The padding fills the torn entry's slot. -/
theorem slotsOf_padded (file : File) : slotsOf (padded file) = slotsOf file ∨
    slotsOf (padded file) = slotsOf file ++ [torn file] := by
  have hlength : (padded file).length = file.length + eventPadNeeded file.length := by
    unfold padded
    rw [List.length_append, padding_length]
  have hkeep : slotsTo (padded file) (file.length / EVENT_RECORD_SIZE) = slotsOf file :=
    slotsTo_append _ (Nat.div_mul_le_self _ _)
  by_cases hwhole : eventPadNeeded file.length = 0
  · have hnone : Files.padding file = [] := List.eq_nil_of_length_eq_zero
      ((padding_length file).trans hwhole)
    left
    unfold padded
    rw [hnone, List.append_nil]
  · right
    have hone : (padded file).length / EVENT_RECORD_SIZE = file.length / EVENT_RECORD_SIZE + 1 := by
      rw [hlength]
      unfold eventPadNeeded EVENT_RECORD_SIZE at hwhole
      unfold eventPadNeeded EVENT_RECORD_SIZE
      omega
    have hsplit : slotsOf (padded file) =
        slotsTo (padded file) (file.length / EVENT_RECORD_SIZE + 1) := by
      unfold slotsOf
      rw [hone]
    rw [hsplit, slotsTo_succ, hkeep]
    rfl

/-- The slots behind a write that may be cut short. -/
theorem slotsOf_written (file : File) {entries : List EventRecord}
    (hentries : ∀ r ∈ entries, r.seq ≠ 0) (room : Nat) :
    slotsOf (file ++ Files.writeAll room (Files.padding file :: entries.map eventEncode)) =
      if room < eventPadNeeded file.length then slotsOf file
      else slotsOf (padded file) ++
        (entries.take ((room - eventPadNeeded file.length) / EVENT_RECORD_SIZE)).map some := by
  rw [writeAll_take, List.flatten_cons]
  split
  · next hcut =>
      -- The padding itself is cut short: no slot is full that was not before.
      have hle : room ≤ (Files.padding file).length := by
        rw [padding_length]
        exact Nat.le_of_lt hcut
      have hsame : (file ++ (Files.padding file).take room).length / EVENT_RECORD_SIZE =
          file.length / EVENT_RECORD_SIZE := by
        rw [List.length_append, List.length_take, Nat.min_eq_left hle]
        unfold eventPadNeeded EVENT_RECORD_SIZE at hcut
        unfold EVENT_RECORD_SIZE
        omega
      rw [List.take_append_of_le_length hle]
      unfold slotsOf
      rw [hsame]
      exact slotsTo_append _ (Nat.div_mul_le_self _ _)
  · next hroom =>
      have hle : (Files.padding file).length ≤ room := by
        rw [padding_length]
        exact Nat.not_lt.mp hroom
      have hsplit : file ++ (Files.padding file ++ (entries.map eventEncode).flatten).take room =
          padded file ++ (entries.map eventEncode).flatten.take
            (room - eventPadNeeded file.length) := by
        unfold padded
        rw [List.take_append, List.take_of_length_le hle, padding_length, List.append_assoc]
      rw [hsplit, slotsOf_append (padded_whole file), slotsOf_take, slotsOf_entries hentries,
        List.map_take]

/-! ## §2. Numbers in step. -/

/-- The next slot may hold the entry of this number: it is beyond every stored one, and
    no further beyond one in these slots than there are slots behind that. -/
def Files.Follows (s : Files) (slots : List (Option EventRecord)) (n : Nat) : Prop :=
  SkipBack.Follows seqOf (slotsOf s.previous) slots n

instance (s : Files) (slots : List (Option EventRecord)) (n : Nat) :
    Decidable (s.Follows slots n) := inferInstanceAs (Decidable (SkipBack.Follows _ _ _ _))

/-- A tick that writes finds its numbers in step with the slots, and enough of them. -/
def Files.InStep (s : Files) : FileStep → Prop
  | .tick toWrite flash => toWrite ≠ [] → flash.opens = true →
      (∀ r ∈ torn s.current, eventPadNeeded s.current.length ≤ flash.takes →
        s.Follows (slotsOf s.current) (seqOf r)) ∧
      (eventPadNeeded s.current.length + EVENT_RECORD_SIZE ≤ flash.takes →
        s.Follows (slotsOf (padded s.current)) s.nextSeq.toNat) ∧
      0 < s.nextSeq.toNat ∧ s.nextSeq.toNat + toWrite.length ≤ 2 ^ 32
  | .restart => True

instance (s : Files) : ∀ a, Decidable (s.InStep a)
  | .tick _ _ => inferInstanceAs (Decidable (_ → _ → _ ∧ _))
  | .restart => inferInstanceAs (Decidable True)

/-- The numbers go up by one. -/
theorem entries_seq {first : UInt32} {es : List EventRecord}
    (hroom : first.toNat + es.length ≤ 2 ^ 32) :
    ∀ k (hk : k < (numbered first es).length),
      seqOf (numbered first es)[k] = first.toNat + k := by
  intro k hk
  have hseq := numbered_seq first es k _ (List.getElem?_eq_getElem hk)
  rw [numbered_length] at hk
  unfold seqOf
  rw [hseq, UInt32.toNat_add, UInt32.toNat_ofNat']
  omega

theorem entries_some {first : UInt32} {es : List EventRecord} (hpositive : 0 < first.toNat)
    (hroom : first.toNat + es.length ≤ 2 ^ 32) : ∀ r ∈ numbered first es, r.seq ≠ 0 := by
  intro r hr hzero
  obtain ⟨k, hk, rfl⟩ := List.mem_iff_getElem.mp hr
  have hseq := entries_seq hroom k hk
  unfold seqOf at hseq
  rw [hzero] at hseq
  have hno : (0 : Nat) = first.toNat + k := hseq
  omega

/-! ## §3. Whole pages. -/

/-- The current file continues the one before it, slot by slot. -/
def Files.Ordered (s : Files) : Prop :=
  SkipBack.Ordered seqOf (slotsOf s.previous) (slotsOf s.current)

theorem Files.Ordered.rotate (h : s.Ordered) (flash : Flash) : (s.rotate flash).Ordered := by
  unfold Files.rotate
  split
  · dsimp only
    split
    · show SkipBack.Ordered seqOf (slotsOf s.current) (slotsOf [])
      rw [slotsOf_nil]
      exact h.turn
    · split
      · show SkipBack.Ordered seqOf (slotsOf []) (slotsOf s.current)
        rw [slotsOf_nil]
        exact h.forget
      · exact h
  · exact h

/-- The padding puts a hole behind the entries, or an entry in step. -/
theorem Files.Ordered.padded (h : s.Ordered)
    (htorn : ∀ r ∈ torn s.current, s.Follows (slotsOf s.current) (seqOf r)) :
    SkipBack.Ordered seqOf (slotsOf s.previous) (slotsOf (padded s.current)) := by
  rcases slotsOf_padded s.current with hsame | hmore
  · rw [hsame]
    exact h
  · rw [hmore]
    cases hslot : torn s.current with
    | none => exact h.hole
    | some r => exact h.snoc (htorn r hslot)

theorem Files.Ordered.append (h : s.Ordered) {entries : List EventRecord} {flash : Flash} {n : Nat}
    (htorn : ∀ r ∈ torn s.current, eventPadNeeded s.current.length ≤ flash.takes →
      s.Follows (slotsOf s.current) (seqOf r))
    (hnext : eventPadNeeded s.current.length + EVENT_RECORD_SIZE ≤ flash.takes →
      s.Follows (slotsOf (Pages.padded s.current)) n)
    (hseq : ∀ k (hk : k < entries.length), seqOf entries[k] = n + k)
    (hsome : ∀ r ∈ entries, r.seq ≠ 0) : (s.append entries flash).Ordered := by
  have hslots := slotsOf_written s.current hsome flash.takes
  show SkipBack.Ordered seqOf (slotsOf s.previous) (slotsOf (s.current ++ _))
  rw [hslots]
  split
  · exact h
  · next hroom =>
      have hpadded := h.padded fun r hr => htorn r hr (Nat.not_lt.mp hroom)
      by_cases hone : eventPadNeeded s.current.length + EVENT_RECORD_SIZE ≤ flash.takes
      · apply hpadded.entries (hnext hone)
        intro k hk
        rw [List.getElem_take]
        exact hseq k _
      · -- Not even one entry is whole.
        have hnone : (flash.takes - eventPadNeeded s.current.length) / EVENT_RECORD_SIZE = 0 :=
          Nat.div_eq_of_lt (by omega)
        rw [hnone, List.take_zero, List.map_nil, List.append_nil]
        exact hpadded

/-- **A tick keeps the files in order** where its numbers are in step. -/
theorem Files.Ordered.tick (h : s.Ordered) {toWrite : List EventRecord} {flash : Flash}
    (hstep : s.InStep (.tick toWrite flash)) : (s.eventRecordTick toWrite flash).Ordered := by
  unfold Files.eventRecordTick
  dsimp only
  split
  · exact h
  · next hsome =>
      split
      · next hopens =>
          obtain ⟨htorn, hnext, hpositive, hroom⟩ := hstep hsome hopens
          apply Files.Ordered.rotate
          exact Files.Ordered.append h htorn hnext (entries_seq hroom)
            (entries_some hpositive hroom)
      · exact h

theorem Files.Ordered.step (h : s.Ordered) {a : FileStep} (hok : s.InStep a)
    (hstep : s.step a = some s') : s'.Ordered := by
  cases a with
  | tick toWrite flash =>
      obtain rfl := Option.some.inj hstep
      exact h.tick hok
  | restart =>
      obtain rfl := Option.some.inj hstep
      exact h

/-- The stored entries, oldest first. -/
def Files.entries (s : Files) : List EventRecord :=
  stored (slotsOf s.previous) ++ stored (slotsOf s.current)

/-- A page is the newest of the stored entries below its bound, and page after page from
    the last number read are all of them, newest first. -/
def Files.Paged (s : Files) : Prop :=
  (∀ before cap, s.eventRecordPage before cap =
    (s.entries.reverse.filter (wanted seqOf before.toNat)).take cap) ∧
  ∀ cap, 0 < cap →
    pages seqOf (fun before => s.eventRecordPage (UInt32.ofNat before) cap)
      (s.entries.length + 1) 0 = s.entries.reverse

theorem Files.Ordered.paged (h : s.Ordered) : s.Paged := by
  have hpage : ∀ before cap, s.eventRecordPage before cap =
      (s.entries.reverse.filter (wanted seqOf before.toNat)).take cap := by
    intro before cap
    rw [s.eventRecordPage_found]
    exact congrArg (List.take cap) (SkipBack.Ordered.found h before.toNat)
  refine ⟨hpage, ?_⟩
  intro cap hcap
  apply pages_all _ _ hcap
  · intro before hbefore
    have hsame : (UInt32.ofNat before).toNat = before := by
      rcases hbefore with rfl | ⟨r, _, rfl⟩
      · rfl
      · unfold seqOf
        rw [UInt32.ofNat_toNat]
    rw [hpage, hsame]
  · rw [List.length_reverse]
    exact Nat.lt_succ_self _
  · rw [List.pairwise_reverse]
    exact SkipBack.Ordered.increasing h
  · intro r hr
    rw [List.mem_reverse] at hr
    apply Nat.pos_of_ne_zero
    intro hzero
    have hseq : r.seq = 0 := UInt32.toNat_inj.mp hzero
    rcases List.mem_append.mp hr with hold | hnew
    · exact mem_slotsTo hold hseq
    · exact mem_slotsTo hnew hseq

/-- **Pages skip and repeat nothing**, in every run whose ticks find their numbers in
    step with the slots. -/
theorem pages_skip_nothing (steps : List FileStep) (s : Files)
    (hok : AllMeet Files.InStep Files.step {} steps) (hrun : run Files.step {} steps = some s) :
    s.Paged := by
  have hempty : Files.Ordered {} := ⟨inStride_nil, inStride_nil, fun x hx => by cases hx⟩
  have hordered : s.Ordered :=
    run_invariant_of_meets (fun _ _ _ h hok hstep => h.step hok hstep) hempty hok hrun
  exact hordered.paged

/-- One event after another, the second cut short, and both after a restart. -/
theorem pages_skip_nothing_torn :
    ∃ s, run Files.step {} [.tick [{ kind := 22 }] { takes := 24 },
      .tick [{ kind := 30 }] { takes := 9 }, .restart, .tick [{ kind := 30 }] { takes := 48 }] =
        some s ∧ s.Paged := by
  refine ⟨_, rfl, ?_⟩
  apply pages_skip_nothing [.tick [{ kind := 22 }] { takes := 24 },
    .tick [{ kind := 30 }] { takes := 9 }, .restart, .tick [{ kind := 30 }] { takes := 48 }]
  · exact AllMeet.of_decide (by decide +kernel)
  · rfl

/-- **A file that did not open skips entries**: it used two numbers up, so below the
    second entry's number nothing is found, though the first is stored. -/
theorem failed_open_skips :
    ∃ s, run Files.step {} [.tick [{ kind := 22 }, { kind := 30 }] { takes := 48 },
      .tick [{ kind := 30 }, { kind := 30 }] { opens := false, takes := 0 },
      .tick [{ kind := 30 }] { takes := 24 }] = some s ∧ ¬s.Paged := by
  refine ⟨_, rfl, ?_⟩
  intro h
  exact absurd (h.1 2 10) (by decide +kernel)

end SplitFlap.Pages
