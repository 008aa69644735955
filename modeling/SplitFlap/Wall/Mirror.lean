/-
  SplitFlap.Wall.Mirror — the wall as it hangs.

  A board's piece of a row's text begins as many characters in as columns with
  flaps lie left of the board; the mirror draws it at the board's own column,
  gaps and all.  Both are the rank of a column among those with flaps: in a
  table that holds, the spans of a row are the same or apart, so widths and
  offsets, which count each span once, count columns (`spanSum_rank`).  Hence
  the mirror undoes the layout (`mirror_undoes_layout`).
-/
import SplitFlap.Lib.Ranks
import SplitFlap.Wall.Wrapping

namespace SplitFlap

open Ranks

/-! ## §1. The mirror. -/

/-- `setCharAt` for every character of a slot, from column `col` on. -/
def drawSlot (row : CStr) (col width : Nat) (slot : CStr) : CStr :=
  (List.range width).foldl (fun row c => row.set (col + c) (slot.getD c 0)) row

/-- The two passes: first the boards that have an address, then the master's
own, whose live text wins over a twin's piece. -/
def mirrorPass (self : Bool) (slot : ClusterMemberDef → CStr → CStr)
    (members : List (ClusterMemberDef × CStr)) (rows : Nat → CStr) : Nat → CStr :=
  members.foldl (fun rows (m, segment) =>
    if decide (m.host = []) = self then
      Function.update rows m.row.toNat
        (drawSlot (rows m.row.toNat) m.col.toNat m.width.toNat (slot m segment))
    else rows) rows

/-- `clusterMirrorRows`: how many rows there are, 0 for a table that does not
hold, and the rows. -/
def clusterMirrorRows (table : ClusterMemberTable) (segments : List CStr) (selfRowText : CStr)
    (selfAlign : DisplayAlignment) : Nat × (Nat → CStr) :=
  match validateMemberTable table with
  | .error _ => (0, fun _ => [])
  | .ok grid =>
      let blank := fun r =>
        if r < grid.rows then clusterAlignRow [] (grid.rowExtent r) .left else []
      let members := table.zip segments
      let others :=
        mirrorPass false (fun m segment => clusterAlignRow segment m.width.toNat .left) members blank
      (grid.rows,
        mirrorPass true (fun m _ => clusterAlignRow selfRowText m.width.toNat selfAlign) members
          others)

/-! ## §2. Columns with flaps. -/

/-- The columns of a member's span. -/
def ClusterMemberDef.covers (m : ClusterMemberDef) (c : Nat) : Bool :=
  m.col.toNat ≤ c && c < m.col.toNat + m.width.toNat

/-- Column `c` of row `r` has a flap. -/
def owned (table : ClusterMemberTable) (r c : Nat) : Bool :=
  table.any fun m => m.width ≠ 0 && m.row.toNat = r && m.covers c

/-- No span reaches further. -/
abbrev COLUMNS : Nat := 510

/-- Any two spans are the same or apart. -/
def SpansApart (table : ClusterMemberTable) : Prop :=
  table.Pairwise fun a b => spansOverlap a b = false

theorem membersOverlap_iff (table : ClusterMemberTable) :
    membersOverlap table = false ↔ SpansApart table := by
  induction table with
  | nil => exact iff_of_true rfl List.Pairwise.nil
  | cons a rest ih =>
      unfold membersOverlap SpansApart
      rw [Bool.or_eq_false_iff, List.pairwise_cons, List.any_eq_false, ih]
      simp only [Bool.not_eq_true]
      rfl

theorem spansOverlap_comm (a b : ClusterMemberDef) : spansOverlap a b = spansOverlap b a := by
  unfold spansOverlap
  rw [Bool.eq_iff_iff]
  simp only [Bool.and_eq_true, Bool.not_eq_true', Bool.and_eq_false_iff, decide_eq_true_eq,
    decide_eq_false_iff_not, ne_eq]
  constructor
  · rintro ⟨⟨⟨⟨⟨ha, hb⟩, hrow⟩, hsame⟩, hab⟩, hba⟩
    exact ⟨⟨⟨⟨⟨hb, ha⟩, hrow.symm⟩, hsame.imp (fun h e => h e.symm) fun h e => h e.symm⟩, hba⟩, hab⟩
  · rintro ⟨⟨⟨⟨⟨ha, hb⟩, hrow⟩, hsame⟩, hab⟩, hba⟩
    exact ⟨⟨⟨⟨⟨hb, ha⟩, hrow.symm⟩, hsame.imp (fun h e => h e.symm) fun h e => h e.symm⟩, hba⟩, hab⟩

/-- Any two members of such a table, the same one or not. -/
theorem apart_of_mem {table : ClusterMemberTable} (h : SpansApart table) {a b : ClusterMemberDef}
    (ha : a ∈ table) (hb : b ∈ table) : spansOverlap a b = false := by
  by_cases hsame : a = b
  · subst hsame
    simp [spansOverlap]
  · have hsymm : Std.Symm fun a b => spansOverlap a b = false :=
      ⟨fun a b hab => (spansOverlap_comm b a).trans hab⟩
    exact h.forall ha hb hsame

/-- Two spans of one row that are apart, or begin alike and are the same. -/
theorem apart_cases {a b : ClusterMemberDef} (h : spansOverlap a b = false) (ha : a.width ≠ 0)
    (hb : b.width ≠ 0) (hrow : a.row = b.row) :
    (a.col = b.col ∧ a.width = b.width) ∨ a.col.toNat + a.width.toNat ≤ b.col.toNat ∨
      b.col.toNat + b.width.toNat ≤ a.col.toNat := by
  by_cases hsame : a.col = b.col ∧ a.width = b.width
  · exact .inl hsame
  · right
    by_contra hnot
    rw [not_or, Nat.not_le, Nat.not_le] at hnot
    unfold spansOverlap at h
    simp [ha, hb, hrow, hnot.1, hnot.2] at h
    exact hsame h

theorem spanSum_snoc (table : ClusterMemberTable) (m : ClusterMemberDef)
    (which : ClusterMemberDef → Bool) :
    spanSum (table ++ [m]) which = spanSum table which +
      if m.width ≠ 0 && which m && clusterSpanIsFirst table table.length m then m.width.toNat
      else 0 := by
  have hfirst : ∀ i ≤ table.length, ∀ x,
      clusterSpanIsFirst (table ++ [m]) i x = clusterSpanIsFirst table i x := by
    intro i hi x
    unfold clusterSpanIsFirst
    rw [List.take_append_of_le_length hi]
  unfold spanSum
  rw [List.zipIdx_append, List.map_append, List.sum_append]
  congr 1
  · congr 1
    apply List.map_congr_left
    rintro ⟨x, i⟩ hx
    have hi : i < table.length := by
      have hlt := List.snd_lt_of_mem_zipIdx hx
      omega
    dsimp only
    rw [hfirst i (Nat.le_of_lt hi)]
  · show (if m.width ≠ 0 && which m && clusterSpanIsFirst (table ++ [m]) (0 + table.length) m then
      m.width.toNat else 0) + 0 = _
    rw [Nat.zero_add, hfirst _ (Nat.le_refl _), Nat.add_zero]

theorem covers_iff (m : ClusterMemberDef) (c : Nat) :
    m.covers c = true ↔ m.col.toNat ≤ c ∧ c < m.col.toNat + m.width.toNat := by
  simp [ClusterMemberDef.covers]

/-- No span reaches beyond the last column. -/
theorem span_le (m : ClusterMemberDef) : m.col.toNat + m.width.toNat ≤ COLUMNS := by
  have hcol : m.col.toNat < 256 := m.col.toNat_lt
  have hwidth : m.width.toNat < 256 := m.width.toNat_lt
  show _ ≤ 510
  omega

/-- A span covers as many columns as it is wide. -/
theorem rank_covers (m : ClusterMemberDef) : rank m.covers COLUMNS = m.width.toNat := by
  have hspan := rank_span (span_le m)
  rw [← hspan]
  apply rank_congr
  intro c _
  rfl

theorem spanIsFirst_iff (table : ClusterMemberTable) (m : ClusterMemberDef) :
    clusterSpanIsFirst table table.length m = true ↔
      ∀ o ∈ table, o.width ≠ 0 → o.row = m.row → o.col = m.col → False := by
  unfold clusterSpanIsFirst
  rw [List.take_length, Bool.not_eq_true', List.any_eq_false]
  simp only [Bool.and_eq_true, decide_eq_true_eq, ne_eq, not_and, and_imp]

/-- **A sum of widths is a number of columns**, when it is over spans of one row. -/
theorem spanSum_rank {table : ClusterMemberTable} (h : SpansApart table) {r : Nat}
    {which : ClusterMemberDef → Bool} (hrow : ∀ m, which m = true → m.row.toNat = r)
    (hspan : ∀ a b : ClusterMemberDef, a.row = b.row → a.col = b.col → which a = which b) :
    spanSum table which =
      rank (fun c => table.any fun m => m.width ≠ 0 && which m && m.covers c) COLUMNS := by
  induction table using List.reverseRecOn with
  | nil => exact (rank_false COLUMNS).symm
  | append_singleton table m ih =>
      obtain ⟨hrest, _, hapart⟩ := List.pairwise_append.mp h
      have hfrom : ∀ o ∈ table, spansOverlap o m = false :=
        fun o ho => hapart o ho m List.mem_cons_self
      rw [spanSum_snoc, ih hrest]
      have hsnoc : ∀ c, ((table ++ [m]).any fun m => m.width ≠ 0 && which m && m.covers c) =
          ((table.any fun m => m.width ≠ 0 && which m && m.covers c) ||
            (m.width ≠ 0 && which m && m.covers c)) := by
        intro c
        rw [List.any_append]
        simp only [List.any_cons, List.any_nil, Bool.or_false]
      simp only [hsnoc]
      cases hpicked : (decide (m.width ≠ 0) && which m) with
      | false =>
          -- the member does not count
          simp
      | true =>
          rw [Bool.and_eq_true, decide_eq_true_eq] at hpicked
          obtain ⟨hwidth, hwhich⟩ := hpicked
          simp only [Bool.true_and]
          cases hfirst : clusterSpanIsFirst table table.length m with
          | true =>
              -- a new span: apart from every other of the row
              rw [if_pos rfl, rank_or, rank_covers]
              intro c _ hc
              obtain ⟨o, ho, hcovers⟩ := List.any_eq_true.mp hc
              simp only [Bool.and_eq_true, decide_eq_true_eq] at hcovers
              obtain ⟨⟨howidth, howhich⟩, hoc⟩ := hcovers
              rw [covers_iff] at hoc
              rw [Bool.eq_false_iff, ne_eq, covers_iff]
              intro hmc
              have hsame : o.row = m.row := UInt8.toNat_inj.mp ((hrow o howhich).trans (hrow m hwhich).symm)
              rcases apart_cases (hfrom o ho) howidth hwidth hsame with ⟨hcol, _⟩ | hleft | hright
              · exact (spanIsFirst_iff table m).mp hfirst o ho howidth hsame hcol
              · omega
              · omega
          | false =>
              -- a mirror: its columns are counted already
              rw [if_neg Bool.false_ne_true, Nat.add_zero]
              have hnot := mt (spanIsFirst_iff table m).mpr (by rw [hfirst]; exact Bool.false_ne_true)
              push Not at hnot
              obtain ⟨o, ho, howidth, hsame, hcol, _⟩ := hnot
              have howhich : which o = true := (hspan o m hsame hcol).trans hwhich
              have hequal : o.width = m.width := by
                have hpos : 0 < o.width.toNat := by
                  have hne := mt UInt8.toNat_inj.mp howidth
                  exact Nat.pos_of_ne_zero hne
                have hmpos : 0 < m.width.toNat := by
                  have hne := mt UInt8.toNat_inj.mp hwidth
                  exact Nat.pos_of_ne_zero hne
                rcases apart_cases (hfrom o ho) howidth hwidth hsame with hboth | hleft | hright
                · exact hboth.2
                · rw [hcol] at hleft
                  omega
                · rw [hcol] at hright
                  omega
              apply rank_congr
              intro c _
              cases hmc : m.covers c with
              | false => rw [Bool.or_false]
              | true =>
                  rw [Bool.or_true, List.any_eq_true]
                  refine ⟨o, ho, ?_⟩
                  have hoc : o.covers c = true := by
                    unfold ClusterMemberDef.covers at hmc ⊢
                    rw [hcol, hequal]
                    exact hmc
                  simp [howidth, howhich, hoc]

/-! ## §3. A table that holds. -/

theorem validate_cases {table : ClusterMemberTable} {grid : ClusterGrid}
    (h : validateMemberTable table = .ok grid) :
    SpansApart table ∧ ∃ top, maxRow table = some top ∧ grid = gridOf table (top + 1) := by
  unfold validateMemberTable at h
  split at h
  · cases h
  · split at h
    · cases h
    · split at h
      · cases h
      · split at h
        · cases h
        · next top htop =>
            split at h
            · cases h
            · next hoverlap =>
                split at h
                · cases h
                · injection h with h
                  exact ⟨(membersOverlap_iff table).mp (Bool.eq_false_iff.mpr hoverlap), top, htop,
                    h.symm⟩

section Holding

variable {table table' : ClusterMemberTable} (h : SpansApart table)

include h

/-- A row's width is the number of its columns with flaps. -/
theorem rowWidth_rank (r : Nat) :
    spanSum table (fun m => m.row.toNat = r) = rank (owned table r) COLUMNS :=
  spanSum_rank h (fun _ hm => of_decide_eq_true hm) fun a b hrow _ => by rw [hrow]

/-- A member's text begins at the rank of its first column. -/
theorem clusterTextOffset_rank {m : ClusterMemberDef} (hm : m ∈ table) (hwidth : m.width ≠ 0) :
    clusterTextOffset table m.row m.col = rank (owned table m.row.toNat) m.col.toNat := by
  have hcol : m.col.toNat ≤ COLUMNS := Nat.le_trans (Nat.le_add_right _ _) (span_le m)
  unfold clusterTextOffset
  rw [spanSum_rank h (r := m.row.toNat), ← rank_below _ hcol]
  · apply rank_congr
    intro c _
    rw [Bool.eq_iff_iff, Bool.and_eq_true, decide_eq_true_eq, List.any_eq_true]
    unfold owned
    rw [List.any_eq_true]
    simp only [Bool.and_eq_true, decide_eq_true_eq, covers_iff]
    constructor
    · rintro ⟨o, ho, ⟨howidth, hrow, hbefore⟩, hfrom, hto⟩
      -- the other span ends before the member's begins
      have hlt : o.col.toNat < m.col.toNat := UInt8.lt_iff_toNat_lt.mp hbefore
      refine ⟨⟨o, ho, ⟨howidth, congrArg UInt8.toNat hrow⟩, hfrom, hto⟩, ?_⟩
      rcases apart_cases (apart_of_mem h ho hm) howidth hwidth hrow with hsame | hleft | hright
      · rw [hsame.1] at hlt
        exact absurd hlt (Nat.lt_irrefl _)
      · omega
      · omega
    · rintro ⟨⟨o, ho, ⟨howidth, hrow⟩, hfrom, hto⟩, hbefore⟩
      exact ⟨o, ho, ⟨howidth, UInt8.toNat_inj.mp hrow, UInt8.lt_iff_toNat_lt.mpr (by omega)⟩,
        hfrom, hto⟩
  · intro o ho
    rw [Bool.and_eq_true, decide_eq_true_eq] at ho
    rw [ho.1]
  · intro a b hrow hcol
    rw [hrow, hcol]

end Holding

theorem owned_iff {table : ClusterMemberTable} {r c : Nat} :
    owned table r c = true ↔
      ∃ m ∈ table, m.width ≠ 0 ∧ m.row.toNat = r ∧ m.col.toNat ≤ c ∧
        c < m.col.toNat + m.width.toNat := by
  unfold owned
  rw [List.any_eq_true]
  simp only [Bool.and_eq_true, decide_eq_true_eq, covers_iff, and_assoc]

/-- The columns of a row with flaps lie within its extent. -/
theorem owned_lt_extent {table : ClusterMemberTable} {r c n : Nat}
    (h : owned table r c = true) : c < (gridOf table n).rowExtent r := by
  obtain ⟨m, hm, hwidth, hrow, _, hto⟩ := owned_iff.mp h
  have hle : ∀ (ms : List ClusterMemberDef) (extent : Nat), (extent ≤ ms.foldl
      (fun extent m => max extent (m.col.toNat + m.width.toNat)) extent) ∧
      ∀ m ∈ ms, m.col.toNat + m.width.toNat ≤ ms.foldl
        (fun extent m => max extent (m.col.toNat + m.width.toNat)) extent := by
    intro ms
    induction ms with
    | nil => exact fun extent => ⟨Nat.le_refl _, fun m hm => nomatch hm⟩
    | cons o ms ih =>
        intro extent
        obtain ⟨hfrom, hall⟩ := ih (max extent (o.col.toNat + o.width.toNat))
        refine ⟨Nat.le_trans (Nat.le_max_left _ _) hfrom, ?_⟩
        intro m hm
        rcases List.mem_cons.mp hm with rfl | hm
        · exact Nat.le_trans (Nat.le_max_right _ _) hfrom
        · exact hall m hm
  refine Nat.lt_of_lt_of_le hto ((hle _ 0).2 m ?_)
  rw [List.mem_filter]
  exact ⟨hm, by simp [hwidth, hrow]⟩

/-- Every board hangs on one of the rows. -/
theorem row_lt {table : ClusterMemberTable} {top : Nat} (htop : maxRow table = some top)
    {m : ClusterMemberDef} (hm : m ∈ table) (hwidth : m.width ≠ 0) : m.row.toNat < top + 1 := by
  unfold maxRow at htop
  have hle := (List.max?_eq_some_iff.mp htop).2 m.row.toNat
    (List.mem_map.mpr ⟨m, List.mem_filter.mpr ⟨hm, decide_eq_true hwidth⟩, rfl⟩)
  exact Nat.lt_succ_of_le hle

/-! ## §4. What the mirror draws. -/

theorem drawSlot_length (row : CStr) (col width : Nat) (slot : CStr) :
    (drawSlot row col width slot).length = row.length := by
  unfold drawSlot
  induction width with
  | zero => rfl
  | succ n ih =>
      rw [List.range_succ, List.foldl_append, List.foldl_cons, List.foldl_nil, List.length_set, ih]

theorem drawSlot_getD (row : CStr) (col width : Nat) (slot : CStr) {c : Nat}
    (hc : c < row.length) :
    (drawSlot row col width slot).getD c 32 =
      if col ≤ c ∧ c < col + width then slot.getD (c - col) 0 else row.getD c 32 := by
  have hlength := drawSlot_length row col
  unfold drawSlot at hlength ⊢
  induction width with
  | zero =>
      rw [if_neg (by omega)]
      rfl
  | succ n ih =>
      rw [List.range_succ, List.foldl_append, List.foldl_cons, List.foldl_nil]
      have hlt : c < ((List.range n).foldl
          (fun row c => row.set (col + c) (slot.getD c 0)) row).length := by
        rw [hlength n slot]
        exact hc
      by_cases hlast : col + n = c
      · subst hlast
        rw [List.getD_eq_getElem _ _ (by rw [List.length_set]; exact hlt), List.getElem_set_self,
          if_pos (by omega), Nat.add_sub_cancel_left]
      · rw [List.getD_eq_getElem _ _ (by rw [List.length_set]; exact hlt),
          List.getElem_set_ne hlast, ← List.getD_eq_getElem _ 32 hlt, ih]
        congr 1
        rw [eq_iff_iff]
        omega

/-- The rows as drawn so far: where `P` holds the character that belongs there,
and blanks elsewhere. -/
structure Drawn (grid : ClusterGrid) (char : Nat → Nat → UInt8) (P : Nat → Nat → Bool)
    (rows : Nat → CStr) : Prop where
  length : ∀ r < grid.rows, (rows r).length = grid.rowExtent r
  char : ∀ r < grid.rows, ∀ c < grid.rowExtent r,
    (rows r).getD c 32 = if P r c then char r c else 32

variable {grid : ClusterGrid} {char : Nat → Nat → UInt8} {P : Nat → Nat → Bool}
  {rows : Nat → CStr}

theorem Drawn.slot (h : Drawn grid char P rows) (m : ClusterMemberDef) {slot : CStr}
    (hslot : ∀ k < m.width.toNat, slot.getD k 0 = char m.row.toNat (m.col.toNat + k)) :
    Drawn grid char (fun r c => P r c || (m.row.toNat = r && m.covers c))
      (Function.update rows m.row.toNat
        (drawSlot (rows m.row.toNat) m.col.toNat m.width.toNat slot)) := by
  constructor
  · intro r hr
    by_cases hrow : r = m.row.toNat
    · subst hrow
      rw [Function.update_self, drawSlot_length]
      exact h.length _ hr
    · rw [Function.update_of_ne hrow]
      exact h.length r hr
  · intro r hr c hc
    by_cases hrow : r = m.row.toNat
    · subst hrow
      rw [Function.update_self, drawSlot_getD _ _ _ _ (by rw [h.length _ hr]; exact hc)]
      by_cases hcovers : m.col.toNat ≤ c ∧ c < m.col.toNat + m.width.toNat
      · rw [if_pos hcovers, hslot _ (by omega), Nat.add_sub_cancel' hcovers.1,
          (covers_iff m c).mpr hcovers]
        simp
      · rw [if_neg hcovers, h.char _ hr c hc, Bool.eq_false_iff.mpr (mt (covers_iff m c).mp hcovers)]
        simp
    · rw [Function.update_of_ne hrow, h.char r hr c hc]
      simp [Ne.symm hrow]

theorem Drawn.pass (h : Drawn grid char P rows) (self : Bool)
    (slot : ClusterMemberDef → CStr → CStr) (members : List (ClusterMemberDef × CStr))
    (hslot : ∀ x ∈ members, decide (x.1.host = []) = self → ∀ k < x.1.width.toNat,
      (slot x.1 x.2).getD k 0 = char x.1.row.toNat (x.1.col.toNat + k)) :
    Drawn grid char
      (fun r c => P r c || members.any fun x =>
        decide (decide (x.1.host = []) = self) && (x.1.row.toNat = r && x.1.covers c))
      (mirrorPass self slot members rows) := by
  unfold mirrorPass
  induction members generalizing P rows with
  | nil => simpa using h
  | cons x members ih =>
      obtain ⟨m, segment⟩ := x
      have hrest := fun x hx => hslot x (List.mem_cons_of_mem _ hx)
      rw [List.foldl_cons]
      dsimp only
      split
      · next hself =>
          have hdrawn := ih (h.slot m (hslot (m, segment) List.mem_cons_self hself)) hrest
          simpa only [List.any_cons, hself, decide_true, Bool.true_and, Bool.or_assoc] using hdrawn
      · next hself =>
          have hdrawn := ih h hrest
          simpa only [List.any_cons, hself, decide_false, Bool.false_and, Bool.false_or] using hdrawn

/-! ## §5. Pieces, and the wall they make. -/

/-- A text as wide as the slot is shown as it is. -/
theorem clusterAlignRow_self {text : CStr} {width : Nat} (h : text.length = width)
    (align : DisplayAlignment) : clusterAlignRow text width align = text := by
  unfold clusterAlignRow
  subst h
  simp only [Nat.min_self, Nat.sub_self, List.take_length]
  cases align with
  | left => simp
  | center => simp
  | right => simp

theorem clusterAlignRow_blank (width : Nat) :
    clusterAlignRow [] width .left = List.replicate width 32 := by
  unfold clusterAlignRow
  simp

theorem width_ne_zero {m : ClusterMemberDef} (h : 0 < m.width.toNat) : m.width ≠ 0 := by
  intro hno
  rw [hno] at h
  exact absurd h (Nat.lt_irrefl 0)

section Pieces

variable {table : ClusterMemberTable} (h : SpansApart table) {texts : Nat → CStr}
  (htexts : ∀ r, (texts r).length = rank (owned table r) COLUMNS)

include h htexts

/-- A board's piece holds what belongs on its columns. -/
theorem clusterSliceSegment_getD {m : ClusterMemberDef} (hm : m ∈ table) {k : Nat}
    (hk : k < m.width.toNat) :
    (clusterSliceSegment table texts m).getD k 0 =
      (texts m.row.toNat).getD (rank (owned table m.row.toNat) (m.col.toNat + k)) 32 := by
  have hwidth : m.width ≠ 0 := by
    intro hno
    rw [hno] at hk
    cases hk
  have howned : ∀ j ≤ k, owned table m.row.toNat (m.col.toNat + j) = true := fun j hj =>
    owned_iff.mpr ⟨m, hm, hwidth, rfl, Nat.le_add_right _ _, by omega⟩
  have hrank := rank_add fun j hj => howned j (Nat.le_of_lt hj)
  have hend := span_le m
  have hlt : rank (owned table m.row.toNat) (m.col.toNat + k) < (texts m.row.toNat).length := by
    rw [htexts]
    exact rank_lt (howned k (Nat.le_refl _)) (by omega)
  unfold clusterSliceSegment
  rw [hrank] at hlt ⊢
  rw [if_neg hwidth, clusterTextOffset_rank h hm hwidth]
  simp only [List.getD_eq_getElem?_getD, List.getElem?_take_of_lt hk, List.getElem?_drop,
    List.getElem?_eq_getElem hlt, Option.getD_some]

theorem clusterSliceSegment_length {m : ClusterMemberDef} (hm : m ∈ table) :
    (clusterSliceSegment table texts m).length = m.width.toNat := by
  unfold clusterSliceSegment
  split
  · next hno => rw [hno]; rfl
  · next hwidth =>
      have hend := span_le m
      have hrank := rank_add (p := owned table m.row.toNat) (a := m.col.toNat)
        (w := m.width.toNat) fun j hj =>
          owned_iff.mpr ⟨m, hm, hwidth, rfl, Nat.le_add_right _ _, by omega⟩
      have hmono := rank_mono (owned table m.row.toNat) hend
      rw [clusterTextOffset_rank h hm hwidth, List.length_take, List.length_drop, htexts]
      omega

end Pieces

/-- The pieces of a layout, and the text of a row as wide as its flaps. -/
theorem layout_cases {text : CStr} {align : DisplayAlignment} {table : ClusterMemberTable}
    {grid : ClusterGrid} (hgrid : validateMemberTable table = .ok grid) {pieces : List CStr}
    (hpieces : layoutGridText text align table = some pieces) :
    pieces = sliceRows table grid align (clusterWrapRows text grid) ∧
      ∀ r, (clusterAlignRow (clusterWrapRows text grid r) (grid.rowWidth r) align).length =
        rank (owned table r) COLUMNS := by
  unfold layoutGridText at hpieces
  rw [hgrid, Option.some.injEq] at hpieces
  refine ⟨hpieces.symm, ?_⟩
  intro r
  obtain ⟨hapart, top, _, hgridOf⟩ := validate_cases hgrid
  rw [clusterAlignRow_length, hgridOf]
  exact rowWidth_rank hapart r

/-- **Every column shows what belongs there.** -/
theorem mirror_drawn {text : CStr} {align selfAlign : DisplayAlignment}
    {table : ClusterMemberTable} {grid : ClusterGrid}
    (hgrid : validateMemberTable table = .ok grid) {pieces : List CStr}
    (hpieces : layoutGridText text align table = some pieces) {selfRowText : CStr}
    (hself : ∀ x ∈ table.zip pieces, x.1.host = [] →
      clusterAlignRow selfRowText x.1.width.toNat selfAlign = x.2) :
    (clusterMirrorRows table pieces selfRowText selfAlign).1 = grid.rows ∧
      Drawn grid
        (fun r c => (clusterAlignRow (clusterWrapRows text grid r) (grid.rowWidth r) align).getD
          (rank (owned table r) c) 32)
        (owned table) (clusterMirrorRows table pieces selfRowText selfAlign).2 := by
  obtain ⟨hslices, htexts⟩ := layout_cases hgrid hpieces
  obtain ⟨hapart, _⟩ := validate_cases hgrid
  have hzip : table.zip pieces = table.map fun m => (m, clusterSliceSegment table
      (fun r => clusterAlignRow (clusterWrapRows text grid r) (grid.rowWidth r) align) m) := by
    rw [hslices, sliceRows, List.map_prod_left_eq_zip]
  have hmem : ∀ x ∈ table.zip pieces, x.1 ∈ table ∧
      x.2 = clusterSliceSegment table
        (fun r => clusterAlignRow (clusterWrapRows text grid r) (grid.rowWidth r) align) x.1 := by
    intro x hx
    rw [hzip, List.mem_map] at hx
    obtain ⟨m, hm, rfl⟩ := hx
    exact ⟨hm, rfl⟩
  have hblank : Drawn grid
      (fun r c => (clusterAlignRow (clusterWrapRows text grid r) (grid.rowWidth r) align).getD
        (rank (owned table r) c) 32) (fun _ _ => false)
      (fun r => if r < grid.rows then clusterAlignRow [] (grid.rowExtent r) .left else []) := by
    constructor
    · intro r hr
      rw [if_pos hr, clusterAlignRow_length]
    · intro r hr c hc
      rw [if_pos hr, clusterAlignRow_blank, if_neg Bool.false_ne_true,
        List.getD_eq_getElem _ _ (by rw [List.length_replicate]; exact hc), List.getElem_replicate]
  have hothers := hblank.pass false
    (fun m segment => clusterAlignRow segment m.width.toNat .left) (table.zip pieces) (by
      intro x hx _ k hk
      obtain ⟨hm, hsegment⟩ := hmem x hx
      rw [clusterAlignRow_self (by rw [hsegment]; exact clusterSliceSegment_length hapart htexts hm),
        hsegment]
      exact clusterSliceSegment_getD hapart htexts hm hk)
  have hown := hothers.pass true
    (fun m _ => clusterAlignRow selfRowText m.width.toNat selfAlign) (table.zip pieces) (by
      intro x hx hhost k hk
      obtain ⟨hm, hsegment⟩ := hmem x hx
      rw [hself x hx (of_decide_eq_true hhost), hsegment]
      exact clusterSliceSegment_getD hapart htexts hm hk)
  unfold clusterMirrorRows
  rw [hgrid]
  refine ⟨rfl, ?_⟩
  have hall : (fun r c => (false || (table.zip pieces).any fun x =>
        decide (decide (x.1.host = []) = false) && (x.1.row.toNat = r && x.1.covers c)) ||
      (table.zip pieces).any fun x =>
        decide (decide (x.1.host = []) = true) && (x.1.row.toNat = r && x.1.covers c)) =
      owned table := by
    funext r c
    rw [Bool.false_or, hzip, List.any_map, List.any_map, Bool.eq_iff_iff, Bool.or_eq_true,
      List.any_eq_true, List.any_eq_true, owned_iff]
    simp only [Function.comp_apply, Bool.and_eq_true, decide_eq_true_eq, decide_eq_false_iff_not,
      covers_iff]
    constructor
    · rintro (⟨m, hm, _, hrow, hfrom, hto⟩ | ⟨m, hm, _, hrow, hfrom, hto⟩)
      · exact ⟨m, hm, width_ne_zero (by omega), hrow, hfrom, hto⟩
      · exact ⟨m, hm, width_ne_zero (by omega), hrow, hfrom, hto⟩
    · rintro ⟨m, hm, _, hrow, hfrom, hto⟩
      by_cases hhost : m.host = []
      · exact .inr ⟨m, hm, hhost, hrow, hfrom, hto⟩
      · exact .inl ⟨m, hm, hhost, hrow, hfrom, hto⟩
  rw [hall] at hown
  exact hown

/-! ## §6. The order of the table. -/

theorem owned_perm {table table' : ClusterMemberTable} (hperm : table'.Perm table) :
    owned table' = owned table := by
  funext r c
  exact hperm.any_eq

theorem apart_perm {table table' : ClusterMemberTable} (hperm : table'.Perm table)
    (h : SpansApart table) : SpansApart table' :=
  (hperm.pairwise_iff fun {a b} hab => (spansOverlap_comm b a).trans hab).mpr h

theorem gridOf_perm {table table' : ClusterMemberTable} (hperm : table'.Perm table)
    (h : SpansApart table) (n : Nat) : gridOf table' n = gridOf table n := by
  have hwidth : (fun r => spanSum table' fun m => m.row.toNat = r) =
      fun r => spanSum table fun m => m.row.toNat = r := by
    funext r
    rw [rowWidth_rank (apart_perm hperm h), rowWidth_rank h, owned_perm hperm]
  have hextent : ∀ r, (table'.filter fun m => m.width ≠ 0 && m.row.toNat = r).foldl
      (fun extent m => max extent (m.col.toNat + m.width.toNat)) 0 =
        (table.filter fun m => m.width ≠ 0 && m.row.toNat = r).foldl
          (fun extent m => max extent (m.col.toNat + m.width.toNat)) 0 := by
    intro r
    refine (hperm.filter _).foldl_eq' ?_ 0
    intro a _ b _ extent
    rw [Nat.max_assoc, Nat.max_assoc, Nat.max_comm (a.col.toNat + _)]
  unfold gridOf
  rw [hwidth]
  congr 1
  exact funext hextent

/-- A table holds in whichever order its members come, and makes the same grid. -/
theorem validate_perm {table table' : ClusterMemberTable} {grid : ClusterGrid}
    (hperm : table'.Perm table) (h : validateMemberTable table = .ok grid) :
    validateMemberTable table' = .ok grid := by
  have hapart := (validate_cases h).1
  have hempty : table'.isEmpty = table.isEmpty := by
    rw [Bool.eq_iff_iff, List.isEmpty_iff_length_eq_zero, List.isEmpty_iff_length_eq_zero,
      hperm.length_eq]
  have hmax : maxRow table' = maxRow table := by
    unfold maxRow
    have hrows := (hperm.filter fun m => decide (m.width ≠ 0)).map fun m => m.row.toNat
    apply Option.ext
    intro top
    simp only [List.max?_eq_some_iff, hrows.mem_iff]
  have hoverlap : membersOverlap table' = membersOverlap table := by
    rw [(membersOverlap_iff table).mpr hapart, membersOverlap_iff]
    exact apart_perm hperm hapart
  unfold validateMemberTable at h ⊢
  rw [hempty, hperm.length_eq, hperm.any_eq, hmax, hoverlap]
  simp only [gridOf_perm hperm hapart]
  exact h

/-- **The mirror undoes the layout.**  With the pieces of a layout, and every
board of the master's own showing its own, each row of the mirror is as long as
its boards reach; along its columns with flaps it reads as the row's aligned
text, and it is blank elsewhere.  Boards with one span have one piece, and the
order of the table changes nothing. -/
theorem mirror_undoes_layout (text : CStr) (align selfAlign : DisplayAlignment)
    (table : ClusterMemberTable) (grid : ClusterGrid)
    (hgrid : validateMemberTable table = .ok grid) (pieces : List CStr)
    (hpieces : layoutGridText text align table = some pieces) (selfRowText : CStr)
    (hself : ∀ x ∈ table.zip pieces, x.1.host = [] →
      clusterAlignRow selfRowText x.1.width.toNat selfAlign = x.2) :
    (clusterMirrorRows table pieces selfRowText selfAlign).1 = grid.rows ∧
      (∀ r < grid.rows,
        ((clusterMirrorRows table pieces selfRowText selfAlign).2 r).length = grid.rowExtent r ∧
        ((List.range (grid.rowExtent r)).filter (owned table r)).map
            (fun c => ((clusterMirrorRows table pieces selfRowText selfAlign).2 r).getD c 32) =
          clusterAlignRow (clusterWrapRows text grid r) (grid.rowWidth r) align ∧
        ∀ c < grid.rowExtent r, owned table r c = false →
          ((clusterMirrorRows table pieces selfRowText selfAlign).2 r)[c]? = some 32) ∧
      (∀ x ∈ table.zip pieces, ∀ y ∈ table.zip pieces, x.1.row = y.1.row → x.1.col = y.1.col →
        x.1.width = y.1.width → x.2 = y.2) ∧
      ∀ table' : ClusterMemberTable, table'.Perm table →
        ∃ pieces', layoutGridText text align table' = some pieces' ∧
          (table'.zip pieces').Perm (table.zip pieces) ∧
          (clusterMirrorRows table' pieces' selfRowText selfAlign).1 = grid.rows ∧
          ∀ r < grid.rows, (clusterMirrorRows table' pieces' selfRowText selfAlign).2 r =
            (clusterMirrorRows table pieces selfRowText selfAlign).2 r := by
  obtain ⟨hrows, hdrawn⟩ := mirror_drawn hgrid hpieces hself
  obtain ⟨hslices, htexts⟩ := layout_cases hgrid hpieces
  obtain ⟨hapart, top, _, hgridOf⟩ := validate_cases hgrid
  have hzip : table.zip pieces = table.map fun m => (m, clusterSliceSegment table
      (fun r => clusterAlignRow (clusterWrapRows text grid r) (grid.rowWidth r) align) m) := by
    rw [hslices, sliceRows, List.map_prod_left_eq_zip]
  have howned : ∀ r c, grid.rowExtent r ≤ c → owned table r c = false := by
    intro r c hc
    rw [Bool.eq_false_iff]
    intro hyes
    have hlt := owned_lt_extent (n := top + 1) hyes
    rw [← hgridOf] at hlt
    omega
  refine ⟨hrows, ?_, ?_, ?_⟩
  · intro r hr
    refine ⟨hdrawn.length r hr, ?_, ?_⟩
    · have hwide : (clusterAlignRow (clusterWrapRows text grid r) (grid.rowWidth r) align).length =
          rank (owned table r) (grid.rowExtent r) := by
        rw [htexts r]
        rcases Nat.le_total (grid.rowExtent r) COLUMNS with hle | hle
        · exact rank_beyond (howned r) hle
        · refine (rank_beyond (fun c hc => ?_) hle).symm
          rw [Bool.eq_false_iff, ne_eq, owned_iff]
          rintro ⟨m, _, _, _, _, hto⟩
          have hend := span_le m
          omega
      refine Eq.trans (List.map_congr_left ?_) (read_ranks hwide 32)
      intro c hc
      rw [List.mem_filter, List.mem_range] at hc
      rw [hdrawn.char r hr c hc.1, if_pos hc.2]
    · intro c hc hno
      have hblank := hdrawn.char r hr c hc
      rw [if_neg (by rw [hno]; exact Bool.false_ne_true)] at hblank
      have hlt : c < ((clusterMirrorRows table pieces selfRowText selfAlign).2 r).length := by
        rw [hdrawn.length r hr]
        exact hc
      rw [List.getElem?_eq_getElem hlt, ← List.getD_eq_getElem _ 32 hlt, hblank]
  · intro x hx y hy hrow hcol hwidth
    rw [hzip, List.mem_map] at hx hy
    obtain ⟨a, _, rfl⟩ := hx
    obtain ⟨b, _, rfl⟩ := hy
    dsimp only at hrow hcol hwidth ⊢
    unfold clusterSliceSegment
    rw [hrow, hcol, hwidth]
  · intro table' hperm
    have hgrid' := validate_perm hperm hgrid
    have hapart' := apart_perm hperm hapart
    have hpieces' : layoutGridText text align table' =
        some (sliceRows table' grid align (clusterWrapRows text grid)) := by
      unfold layoutGridText
      rw [hgrid']
    have hsame : (table'.zip (sliceRows table' grid align (clusterWrapRows text grid))).Perm
        (table.zip pieces) := by
      rw [hzip, sliceRows, ← List.map_prod_left_eq_zip]
      refine List.Perm.trans ?_ (hperm.map _)
      rw [List.map_congr_left]
      intro m hm
      rw [Prod.mk.injEq]
      refine ⟨rfl, ?_⟩
      unfold clusterSliceSegment
      split
      · rfl
      · next hwidth =>
          rw [clusterTextOffset_rank hapart' hm hwidth,
            clusterTextOffset_rank hapart (hperm.mem_iff.mp hm) hwidth, owned_perm hperm]
    obtain ⟨hrows', hdrawn'⟩ := mirror_drawn hgrid' hpieces' fun x hx =>
      hself x (hsame.mem_iff.mp hx)
    refine ⟨_, hpieces', hsame, hrows', ?_⟩
    intro r hr
    rw [owned_perm hperm] at hdrawn'
    have hlength := (hdrawn'.length r hr).trans (hdrawn.length r hr).symm
    apply List.ext_getElem hlength
    intro c hc hc'
    have hlt : c < grid.rowExtent r := by
      rw [← hdrawn.length r hr]
      exact hc'
    rw [← List.getD_eq_getElem _ 32 hc, ← List.getD_eq_getElem _ 32 hc', hdrawn'.char r hr c hlt,
      hdrawn.char r hr c hlt]

/-- The master's own four flaps, and two more hanging under its middle. -/
def centredUnderFour : ClusterMemberTable :=
  [{ host := [], row := 0, col := 0, width := 4 }, { host := [97], row := 1, col := 1, width := 2 }]

theorem mirror_undoes_layout_centred :
    ∃ (grid : ClusterGrid) (pieces : List CStr),
      validateMemberTable centredUnderFour = .ok grid ∧
        layoutGridText [65, 66, 32, 67, 68] .left centredUnderFour = some pieces ∧
        (clusterMirrorRows centredUnderFour pieces [65, 66] .left).1 = grid.rows ∧
        (clusterMirrorRows centredUnderFour pieces [65, 66] .left).2 1 = [32, 67, 68] ∧
        ∀ r < grid.rows,
          ((List.range (grid.rowExtent r)).filter (owned centredUnderFour r)).map (fun c =>
              ((clusterMirrorRows centredUnderFour pieces [65, 66] .left).2 r).getD c 32) =
            clusterAlignRow (clusterWrapRows [65, 66, 32, 67, 68] grid r) (grid.rowWidth r)
              .left := by
  have hgrid : validateMemberTable centredUnderFour = .ok (gridOf centredUnderFour 2) := rfl
  have hpieces : layoutGridText [65, 66, 32, 67, 68] .left centredUnderFour =
      some [[65, 66, 32, 32], [67, 68]] := by
    decide +kernel
  have hmirror := mirror_undoes_layout _ .left .left centredUnderFour _ hgrid _ hpieces [65, 66]
    (by decide)
  exact ⟨_, _, hgrid, hpieces, hmirror.1, by decide, fun r hr => (hmirror.2.1 r hr).2.1⟩

end SplitFlap
