/-
  SplitFlap.Wall.Edits — boards come to the wall and leave it.

  `WallRows.h`: pairing puts a board below the last grid row, a release closes
  up the grid row it leaves empty, and the new table is judged like any other.
  The judge takes no notice of the place of a board without columns; both edits
  do.  A board that leaves its grid row to such boards alone leaves a gap
  (`GapLeft`), and a board paired below one that lies deeper than the wall makes
  one.  Apart from that the judge accepts every edit that leaves a board with
  flaps (`wallRowsWithout_iff`, `paired_iff`).
-/
import Mathlib.Data.List.Perm.Subperm
import SplitFlap.Wall.Mirror
import SplitFlap.Wall.RowsTable

namespace SplitFlap

open Ranks

/-! ## §1. The edits. -/

/-- `wallRowsValidate`, as the last step of an edit. -/
def judged (next : WallRowsTable) : Except String WallRowsTable :=
  match wallRowsValidate next with
  | .ok _ => .ok next
  | .error message => .error message

/-- Where a newly paired row goes; -1 is the default. -/
structure WallRowPlace where
  row : Int := -1
  col : Int := -1
  width : Int := -1
  deriving Repr, DecidableEq

/-- The first row paired brings the master's own units in as grid row 0. -/
def WallRowsTable.withOwn (table : WallRowsTable) (ownWidth : Int) : WallRowsTable :=
  if table.rows = [] ∧ ownWidth > 0 then
    { rows := [{ width := UInt8.ofNat ownWidth.toNat }], fits := Nat.succ_le_of_lt (by decide) }
  else table

/-- The grid row below every board of the table. -/
def below (rows : List WallRowDef) : Nat :=
  rows.foldl (fun below r => max below (r.row.toNat + 1)) 0

/-- One board more. -/
def WallRowsTable.add (table : WallRowsTable) (r : WallRowDef)
    (room : table.rows.length < WALL_LINK_MAX_ROWS) : WallRowsTable where
  rows := table.rows ++ [r]
  fits := by
    rw [List.length_append, List.length_singleton]
    exact room

/-- The board at an index, at another address. -/
def WallRowsTable.readdress (table : WallRowsTable) (i : Nat) (host : CStr) : WallRowsTable where
  rows := table.rows.modify i fun r => { r with host := host }
  fits := by
    rw [List.length_modify]
    exact table.fits

def wallRowsWithPaired (table : WallRowsTable) (id host : CStr) (reportedWidth : Int)
    (place : WallRowPlace) (ownWidth : Int) : Except String WallRowsTable :=
  if id.length > WALL_ROW_ID_MAX || host.length > CLUSTER_HOST_MAX_LEN then
    .error "A row id is not a board name"
  else
    let next := table.withOwn ownWidth
    let found := wallRowsFind next id
    if found < 0 then
      if room : next.rows.length < CLUSTER_MAX_MEMBERS then
        let row := if place.row ≥ 0 then place.row else below next.rows
        let col := if place.col ≥ 0 then place.col else 0
        let width := if place.width ≥ 0 then place.width else reportedWidth
        if width ≤ 0 then .error "A row without units has no place on the wall"
        else if row > 255 || col > 255 || width > 255 then
          .error "Row index beyond the member cap"
        else
          judged (next.add
            { id := id
              host := host
              row := UInt8.ofNat row.toNat
              col := UInt8.ofNat col.toNat
              width := UInt8.ofNat width.toNat } room)
      else .error "A Split-Flap has at most 8 boards"
    else judged (next.readdress found.toNat host)

/-- A board's grid row once `gone` has closed up, unless that is still used. -/
def movedUp (used : Bool) (gone row : UInt8) : UInt8 :=
  if !used && gone < row then row - 1 else row

/-- The boards but the one at an index, grid row `gone` closed up. -/
def WallRowsTable.without (table : WallRowsTable) (i : Nat) (gone : UInt8) : WallRowsTable where
  rows :=
    let rest := table.rows.eraseIdx i
    rest.map fun r => { r with row := movedUp (rest.any (·.row = gone)) gone r.row }
  fits := by
    have hfits := table.fits
    have hfewer := (List.eraseIdx_sublist table.rows i).length_le
    rw [List.length_map]
    omega

/-- Nothing is left but the master's own row, or not even that. -/
def masterAlone (rows : List WallRowDef) : Bool :=
  rows = [] || (rows.length = 1 && rows.all wallRowIsOwn)

def wallRowsWithout (table : WallRowsTable) (id : CStr) : Except String WallRowsTable :=
  let found := wallRowsFind table id
  if found < 0 then .error "No such row"
  else
    let gone := (table.rows.getD found.toNat {}).row
    let next := table.without found.toNat gone
    if masterAlone next.rows then .ok {} else judged next

/-! ## §2. What the judge of the grid accepts. -/

/-- A board as the layout has it. -/
def WallRowDef.span (r : WallRowDef) : ClusterMemberDef where
  host := if wallRowIsOwn r then [] else ascii "row"
  row := r.row
  col := r.col
  width := r.width

/-- Some board has flaps and hangs on grid row `n`. -/
def Occupied (rows : List WallRowDef) (n : Nat) : Prop :=
  ∃ r ∈ rows, r.width ≠ 0 ∧ r.row.toNat = n

/-- The boards with flaps hang apart, or as mirrors, on grid rows without a gap. -/
structure GridHolds (rows : List WallRowDef) : Prop where
  low : ∀ r ∈ rows, r.row.toNat < CLUSTER_MAX_MEMBERS
  flaps : ∃ r ∈ rows, r.width ≠ 0
  apart : rows.Pairwise fun a b => spansOverlap a.span b.span = false
  closed : ∀ r ∈ rows, r.width ≠ 0 → ∀ n < r.row.toNat, Occupied rows n

theorem owned_of_board {rows : List WallRowDef} {n : Nat} :
    (∃ c, owned (rows.map WallRowDef.span) n c = true) ↔ Occupied rows n := by
  constructor
  · rintro ⟨c, hc⟩
    obtain ⟨m, hm, hwidth, hrow, _⟩ := owned_iff.mp hc
    obtain ⟨r, hr, rfl⟩ := List.mem_map.mp hm
    exact ⟨r, hr, hwidth, hrow⟩
  · rintro ⟨r, hr, hwidth, hrow⟩
    refine ⟨r.col.toNat, owned_iff.mpr ⟨r.span, List.mem_map_of_mem hr, hwidth, hrow, ?_⟩⟩
    have hpos : r.width.toNat ≠ 0 := mt (fun h => UInt8.toNat_inj.mp h) hwidth
    have hcol : r.span.col.toNat = r.col.toNat := rfl
    have hspan : r.span.width.toNat = r.width.toNat := rfl
    omega

/-- A grid row has no columns when no board with flaps hangs on it. -/
theorem rowWidth_zero {rows : List WallRowDef}
    (h : SpansApart (rows.map WallRowDef.span)) (n k : Nat) :
    (gridOf (rows.map WallRowDef.span) k).rowWidth n = 0 ↔ ¬Occupied rows n := by
  show spanSum _ (fun m => decide (m.row.toNat = n)) = 0 ↔ _
  rw [rowWidth_rank h, ← owned_of_board]
  constructor
  · rintro hzero ⟨c, hc⟩
    obtain ⟨m, _, _, _, _, hto⟩ := owned_iff.mp hc
    have hin : c < COLUMNS := Nat.lt_of_lt_of_le hto (span_le m)
    have hpos := rank_lt hc hin
    omega
  · intro hnone
    rw [← rank_false COLUMNS]
    apply rank_congr
    intro c _
    exact Bool.eq_false_iff.mpr fun hc => hnone ⟨c, hc⟩

theorem maxRow_none {rows : List WallRowDef} :
    maxRow (rows.map WallRowDef.span) = none ↔ ∀ r ∈ rows, r.width = 0 := by
  unfold maxRow
  rw [List.max?_eq_none_iff, List.map_eq_nil_iff, List.filter_eq_nil_iff]
  simp only [List.mem_map, forall_exists_index, and_imp, forall_apply_eq_imp_iff₂,
    decide_eq_true_eq, ne_eq, Decidable.not_not]
  exact Iff.rfl

theorem maxRow_some {rows : List WallRowDef} {top : Nat}
    (h : maxRow (rows.map WallRowDef.span) = some top) :
    Occupied rows top ∧ ∀ r ∈ rows, r.width ≠ 0 → r.row.toNat ≤ top := by
  constructor
  · unfold maxRow at h
    obtain ⟨m, hm, htop⟩ := List.mem_map.mp (List.max?_eq_some_iff.mp h).1
    obtain ⟨hm, hwidth⟩ := List.mem_filter.mp hm
    obtain ⟨r, hr, rfl⟩ := List.mem_map.mp hm
    exact ⟨r, hr, of_decide_eq_true hwidth, htop⟩
  · intro r hr hwidth
    exact Nat.le_of_lt_succ (row_lt h (List.mem_map_of_mem (f := WallRowDef.span) hr) hwidth)

/-- A list of boards that is judged, up to the judgement of the spans. -/
theorem refused {α : Type} {message : String} {P : Prop} (h : ¬P) :
    (∃ a : α, (.error message : Except String α) = .ok a) ↔ P :=
  ⟨fun ⟨_, herror⟩ => (nomatch herror), fun hP => absurd hP h⟩

/-- **What `validateMemberTable` accepts** of at most eight boards. -/
theorem grid_iff {rows : List WallRowDef} (hfits : rows.length ≤ CLUSTER_MAX_MEMBERS) :
    (∃ grid, validateMemberTable (rows.map WallRowDef.span) = .ok grid) ↔ GridHolds rows := by
  unfold validateMemberTable
  by_cases hempty : rows = []
  · subst hempty
    exact refused fun h => by obtain ⟨r, hr, _⟩ := h.flaps; exact List.not_mem_nil hr
  rw [if_neg (by simpa using hempty), if_neg (by rw [List.length_map]; omega)]
  by_cases hlow : ∀ r ∈ rows, r.row.toNat < CLUSTER_MAX_MEMBERS
  case neg =>
    rw [if_pos]
    · exact refused fun h => hlow h.low
    · simp only [not_forall, Nat.not_lt] at hlow
      obtain ⟨r, hr, hdeep⟩ := hlow
      exact List.any_eq_true.mpr ⟨r.span, List.mem_map_of_mem hr, decide_eq_true hdeep⟩
  rw [if_neg]
  case hnc =>
    intro hany
    obtain ⟨m, hm, hdeep⟩ := List.any_eq_true.mp hany
    obtain ⟨r, hr, rfl⟩ := List.mem_map.mp hm
    have hdeep : CLUSTER_MAX_MEMBERS ≤ r.row.toNat := of_decide_eq_true hdeep
    exact Nat.not_lt.mpr hdeep (hlow r hr)
  cases htop : maxRow (rows.map WallRowDef.span) with
  | none =>
      have hnone := maxRow_none.mp htop
      exact refused fun h => by obtain ⟨r, hr, hwidth⟩ := h.flaps; exact hwidth (hnone r hr)
  | some top =>
      obtain ⟨⟨last, hlast, hflaps, hrow⟩, hmost⟩ := maxRow_some htop
      dsimp only
      by_cases hoverlap : membersOverlap (rows.map WallRowDef.span) = true
      · rw [if_pos hoverlap]
        refine refused fun h => ?_
        have hapart := (membersOverlap_iff _).mpr (List.pairwise_map.mpr h.apart)
        rw [hapart] at hoverlap
        exact Bool.noConfusion hoverlap
      · rw [if_neg hoverlap]
        have hspans := (membersOverlap_iff _).mp (Bool.eq_false_iff.mpr hoverlap)
        by_cases hgap : ∃ n < top + 1, ¬Occupied rows n
        · obtain ⟨n, hn, hvacant⟩ := hgap
          rw [if_pos]
          · refine refused fun h => hvacant ?_
            by_cases hsame : n = top
            · exact ⟨last, hlast, hflaps, hrow.trans hsame.symm⟩
            · exact h.closed last hlast hflaps n (by omega)
          · exact List.any_eq_true.mpr ⟨n, List.mem_range.mpr hn,
              decide_eq_true ((rowWidth_zero hspans n 0).mpr hvacant)⟩
        · have hall : ∀ n < top + 1, Occupied rows n := by
            intro n hn
            by_contra hvacant
            exact hgap ⟨n, hn, hvacant⟩
          rw [if_neg]
          · refine ⟨fun _ => ?_, fun _ => ⟨_, rfl⟩⟩
            refine ⟨hlow, ⟨last, hlast, hflaps⟩, List.pairwise_map.mp hspans, ?_⟩
            intro r hr hwidth n hn
            have hle := hmost r hr hwidth
            exact hall n (by omega)
          · intro hany
            obtain ⟨n, hn, hzero⟩ := List.any_eq_true.mp hany
            exact (rowWidth_zero hspans n 0).mp (of_decide_eq_true hzero)
              (hall n (List.mem_range.mp hn))

/-- A table that the judge accepts. -/
def Accepted (table : WallRowsTable) : Prop := ∃ grid, wallRowsValidate table = .ok grid

theorem accepted_of_isOk {table : WallRowsTable} (h : (wallRowsValidate table).isOk = true) :
    Accepted table := by
  unfold Accepted
  cases hvalid : wallRowsValidate table with
  | ok grid => exact ⟨grid, rfl⟩
  | error message =>
      rw [hvalid] at h
      exact Bool.noConfusion h

theorem accepted_iff {table : WallRowsTable} :
    Accepted table ↔ BoardsHold table.rows ∧ GridHolds table.rows := by
  unfold Accepted
  simp only [wallRowsValidate_ok]
  rw [exists_and_left]
  exact and_congr_right' (grid_iff table.fits)

theorem judged_ok {next out : WallRowsTable} :
    judged next = .ok out ↔ out = next ∧ Accepted next := by
  unfold judged Accepted
  cases h : wallRowsValidate next with
  | ok grid =>
      constructor
      · intro hout
        cases hout
        exact ⟨rfl, grid, rfl⟩
      · rintro ⟨rfl, _⟩
        rfl
  | error message =>
      constructor
      · intro hout
        cases hout
      · rintro ⟨_, _, hno⟩
        cases hno

/-- Boards on no grid are refused as such. -/
theorem offGrid_refused {table : WallRowsTable} (h : BoardsHold table.rows)
    (hsome : table.rows ≠ []) (hlow : ∀ r ∈ table.rows, r.row.toNat < CLUSTER_MAX_MEMBERS)
    (hnone : ∀ r ∈ table.rows, r.width = 0) :
    wallRowsValidate table = .error "No rendering members (all off-grid)" := by
  have hjudge : judgeRows [] false table.rows = .ok () :=
    (judgeRows_ok rfl).mpr ⟨h, fun o ho => absurd ho List.not_mem_nil⟩
  unfold wallRowsValidate
  rw [hjudge]
  show validateMemberTable (table.rows.map WallRowDef.span) = _
  unfold validateMemberTable
  rw [if_neg (by simpa using hsome), if_neg, if_neg, maxRow_none.mpr hnone]
  · intro hany
    obtain ⟨m, hm, hdeep⟩ := List.any_eq_true.mp hany
    obtain ⟨r, hr, rfl⟩ := List.mem_map.mp hm
    exact Nat.not_lt.mpr (of_decide_eq_true hdeep) (hlow r hr)
  · rw [List.length_map]
    exact Nat.not_lt.mpr table.fits

/-! ## §3. A board that leaves. -/

/-- The other boards of the table. -/
def others (rows : List WallRowDef) (id : CStr) : List WallRowDef := rows.filter (·.id ≠ id)

/-- The same boards, each in its column, in the same order from top to bottom. -/
def SameOrder (before after : List WallRowDef) : Prop :=
  ∃ place : UInt8 → UInt8, after = before.map (fun r => { r with row := place r.row }) ∧
    ∀ a ∈ before, ∀ b ∈ before, place a.row < place b.row ↔ a.row < b.row

/-- What is left of grid row `gone` has no columns, and flaps hang below it. -/
structure GapLeft (left : List WallRowDef) (gone : UInt8) : Prop where
  used : ∃ r ∈ left, r.row = gone
  vacant : ∀ r ∈ left, r.row = gone → r.width = 0
  flapsBelow : ∃ r ∈ left, r.width ≠ 0 ∧ gone < r.row

theorem movedUp_toNat (used : Bool) (gone row : UInt8) :
    (movedUp used gone row).toNat =
      if used = false ∧ gone.toNat < row.toNat then row.toNat - 1 else row.toNat := by
  unfold movedUp
  simp only [Bool.and_eq_true, Bool.not_eq_true', decide_eq_true_eq, UInt8.lt_iff_toNat_lt]
  split
  · next hmoved =>
      have hone : (1 : UInt8) ≤ row := by
        rw [UInt8.le_iff_toNat_le]
        show 1 ≤ _
        omega
      rw [UInt8.toNat_sub_of_le _ _ hone]
      rfl
  · rfl

/-- A board's id is found where the board is, and the rest are the others. -/
theorem found_board {table : WallRowsTable} (h : BoardsHold table.rows) {d : WallRowDef}
    (hd : d ∈ table.rows) (hboard : wallRowIsOwn d = false) :
    ∃ i : Nat, wallRowsFind table d.id = i ∧ table.rows.getD i {} = d ∧
      table.rows.eraseIdx i = others table.rows d.id := by
  obtain ⟨before, after, hrows⟩ := List.append_of_mem hd
  have hpairs := h.distinct
  rw [hrows, List.pairwise_append, List.pairwise_cons] at hpairs
  obtain ⟨_, ⟨hafter, _⟩, hbefore⟩ := hpairs
  have hbefore : ∀ r ∈ before, r.id ≠ d.id := fun r hr => hbefore r hr d List.mem_cons_self
  have hid : d.id ≠ [] := of_decide_eq_false hboard
  refine ⟨before.length, ?_, ?_, ?_⟩
  · unfold wallRowsFind
    rw [if_neg hid]
    have hfound : table.ids.findIdx? (· = d.id) = some before.length := by
      unfold WallRowsTable.ids
      rw [hrows, List.map_append, List.map_cons, List.findIdx?_append, List.findIdx?_eq_none_iff.mpr]
      · rw [List.findIdx?_cons, decide_eq_true rfl]
        simp
      · intro id hmem
        obtain ⟨r, hr, rfl⟩ := List.mem_map.mp hmem
        exact decide_eq_false (hbefore r hr)
    rw [hfound]
  · rw [hrows, List.getD_eq_getElem?_getD, List.getElem?_append_right (Nat.le_refl _),
      Nat.sub_self]
    rfl
  · unfold others
    rw [hrows, List.eraseIdx_append_of_length_le (Nat.le_refl _), Nat.sub_self,
      List.eraseIdx_cons_zero, List.filter_append, List.filter_cons_of_neg (by simp),
      List.filter_eq_self.mpr, List.filter_eq_self.mpr]
    · exact fun r hr => decide_eq_true (hafter r hr).symm
    · exact fun r hr => decide_eq_true (hbefore r hr)

/-- Who the boards are does not change with their grid rows. -/
theorem BoardsHold.moved {rows : List WallRowDef} (h : BoardsHold rows) {kept : List WallRowDef}
    (hkept : kept.Sublist rows) (place : UInt8 → UInt8) :
    BoardsHold (kept.map fun r => { r with row := place r.row }) := by
  have hfrom : ∀ {P : WallRowDef → Prop},
      (∀ r ∈ rows, P r) → (∀ r, P r → P { r with row := place r.row }) →
        ∀ r ∈ kept.map fun r => { r with row := place r.row }, P r := by
    intro P hall hstep r hr
    obtain ⟨r', hr', rfl⟩ := List.mem_map.mp hr
    exact hstep r' (hall r' (hkept.subset hr'))
  refine ⟨?_, ?_, ?_, ?_⟩
  · exact hfrom h.own fun r hr => hr
  · exact hfrom h.named fun r hr => hr
  · exact hfrom h.onLan fun r hr => hr
  · rw [List.pairwise_map]
    exact h.distinct.sublist hkept

/-- A board that is not on the grid row that closes up keeps its distance. -/
theorem movedUp_lt {used : Bool} {gone a b : UInt8}
    (ha : used = false → a ≠ gone) (hb : used = false → b ≠ gone) :
    movedUp used gone a < movedUp used gone b ↔ a < b := by
  simp only [UInt8.lt_iff_toNat_lt, movedUp_toNat]
  cases used with
  | true => simp
  | false =>
      have ha := mt UInt8.toNat_inj.mp (ha rfl)
      have hb := mt UInt8.toNat_inj.mp (hb rfl)
      simp only [true_and]
      split
      · split
        · omega
        · omega
      · split
        · omega
        · omega

section Leaving

variable {rows left : List WallRowDef} {d : WallRowDef}
  (hrest : ∀ r ∈ rows, r = d ∨ r ∈ left)

/-- The others after the release. -/
def closedUp (left : List WallRowDef) (gone : UInt8) : List WallRowDef :=
  left.map fun r => { r with row := movedUp (left.any (·.row = gone)) gone r.row }

theorem not_used {gone : UInt8} (h : left.any (·.row = gone) = false) :
    ∀ r ∈ left, r.row ≠ gone := by
  intro r hr hrow
  have hnot := List.any_eq_false.mp h r hr
  exact hnot (decide_eq_true hrow)

theorem left_lt {gone : UInt8} {a b : WallRowDef} (ha : a ∈ left) (hb : b ∈ left) :
    movedUp (left.any (·.row = gone)) gone a.row < movedUp (left.any (·.row = gone)) gone b.row ↔
      a.row < b.row :=
  movedUp_lt (fun h => not_used h a ha) fun h => not_used h b hb

theorem closedUp_order (gone : UInt8) : SameOrder left (closedUp left gone) :=
  ⟨movedUp (left.any (·.row = gone)) gone, rfl, fun _ ha _ hb => left_lt ha hb⟩

include hrest

/-- **A release leaves the grid whole**, but for the gap it may leave. -/
theorem closedUp_holds (h : GridHolds rows) (hsub : left.Sublist rows)
    (hflaps : ∃ r ∈ left, r.width ≠ 0) (hgap : ¬GapLeft left d.row) :
    GridHolds (closedUp left d.row) := by
  have hmem : ∀ r ∈ left, r ∈ rows := fun r hr => hsub.subset hr
  refine ⟨?_, ?_, ?_, ?_⟩
  · intro r hr
    obtain ⟨r', hr', rfl⟩ := List.mem_map.mp hr
    have hlow := h.low r' (hmem r' hr')
    show (movedUp _ _ r'.row).toNat < _
    rw [movedUp_toNat]
    split
    · omega
    · exact hlow
  · obtain ⟨r, hr, hwidth⟩ := hflaps
    exact ⟨_, List.mem_map_of_mem hr, hwidth⟩
  · rw [closedUp, List.pairwise_map]
    refine (h.apart.sublist hsub).imp_of_mem ?_
    intro a b ha hb hapart
    have hsame : movedUp (left.any (·.row = d.row)) d.row b.row =
        movedUp (left.any (·.row = d.row)) d.row a.row → b.row = a.row := by
      intro heq
      have hab : ¬a.row < b.row := by
        rw [← left_lt ha hb, heq]
        exact UInt8.lt_irrefl _
      have hba : ¬b.row < a.row := by
        rw [← left_lt hb ha, heq]
        exact UInt8.lt_irrefl _
      rw [UInt8.lt_iff_toNat_lt] at hab hba
      exact UInt8.toNat_inj.mp (by omega)
    unfold spansOverlap at hapart ⊢
    dsimp only [WallRowDef.span] at hapart ⊢
    by_cases hrow : b.row = a.row
    · simp only [hrow, decide_true] at hapart ⊢
      exact hapart
    · simp [mt hsame hrow]
  · intro r hr hwidth n hn
    obtain ⟨r', hr', rfl⟩ := List.mem_map.mp hr
    have hwidth : r'.width ≠ 0 := hwidth
    have hn : n < (movedUp (left.any (·.row = d.row)) d.row r'.row).toNat := hn
    rw [movedUp_toNat] at hn
    have hland : ∀ o ∈ left, o.width ≠ 0 →
        (movedUp (left.any (·.row = d.row)) d.row o.row).toNat = n →
          Occupied (closedUp left d.row) n :=
      fun o ho howidth hrow => ⟨_, List.mem_map_of_mem ho, howidth, hrow⟩
    cases hused : left.any (·.row = d.row) with
    | true =>
        -- nothing moves: row `n` had a board, and if it was the one that left
        -- then what is left there has flaps too
        rw [hused] at hn hland
        simp only [Bool.true_eq_false, false_and, if_false, movedUp_toNat] at hn hland
        obtain ⟨o, ho, howidth, hrow⟩ := h.closed r' (hmem r' hr') hwidth n hn
        rcases hrest o ho with rfl | hin
        · have hother : ∃ x ∈ left, x.row = o.row ∧ x.width ≠ 0 := by
            by_contra hno
            push Not at hno
            refine hgap ⟨?_, hno, r', hr', hwidth, ?_⟩
            · obtain ⟨x, hx, hxrow⟩ := List.any_eq_true.mp hused
              exact ⟨x, hx, of_decide_eq_true hxrow⟩
            · rw [UInt8.lt_iff_toNat_lt]
              omega
          obtain ⟨x, hx, hxrow, hxwidth⟩ := hother
          exact hland x hx hxwidth ((congrArg UInt8.toNat hxrow).trans hrow)
        · exact hland o hin howidth hrow
    | false =>
        -- rows below the gap move up by one
        have hnot := not_used hused
        rw [hused] at hn hland
        simp only [true_and, movedUp_toNat] at hn hland
        have hfar : ∀ o ∈ rows, o.row ≠ d.row → o ∈ left := by
          intro o ho hrow
          rcases hrest o ho with rfl | hin
          · exact absurd rfl hrow
          · exact hin
        have hr'row := mt UInt8.toNat_inj.mp (hnot r' hr')
        by_cases habove : n < d.row.toNat
        · have hn' : n < r'.row.toNat := by
            split at hn
            · omega
            · omega
          obtain ⟨o, ho, howidth, hrow⟩ := h.closed r' (hmem r' hr') hwidth n hn'
          have hother : o.row ≠ d.row := by
            intro heq
            rw [heq] at hrow
            omega
          refine hland o (hfar o ho hother) howidth ?_
          rw [if_neg (by omega)]
          exact hrow
        · have hn' : n + 1 < r'.row.toNat := by
            split at hn
            · omega
            · omega
          obtain ⟨o, ho, howidth, hrow⟩ := h.closed r' (hmem r' hr') hwidth (n + 1) hn'
          have hother : o.row ≠ d.row := by
            intro heq
            rw [heq] at hrow
            omega
          refine hland o (hfar o ho hother) howidth ?_
          rw [if_pos (by omega)]
          omega

end Leaving

theorem masterAlone_moved (rows : List WallRowDef) (place : UInt8 → UInt8) :
    masterAlone (rows.map fun r => { r with row := place r.row }) = masterAlone rows := by
  unfold masterAlone
  rw [List.length_map, List.all_map]
  simp only [List.map_eq_nil_iff]
  rfl

theorem others_rest {rows : List WallRowDef} (h : BoardsHold rows) {d : WallRowDef}
    (hd : d ∈ rows) : ∀ r ∈ rows, r = d ∨ r ∈ others rows d.id := by
  intro r hr
  by_cases hsame : r = d
  · exact Or.inl hsame
  · right
    refine List.mem_filter.mpr ⟨hr, decide_eq_true ?_⟩
    have hsymm : Std.Symm fun a b : WallRowDef => a.id ≠ b.id := ⟨fun _ _ => Ne.symm⟩
    exact h.distinct.forall hr hd hsame

theorem released_boards {rows : List WallRowDef} (h : BoardsHold rows) (d : WallRowDef) :
    BoardsHold (closedUp (others rows d.id) d.row) :=
  h.moved List.filter_sublist _

section Released

variable {table : WallRowsTable} {d : WallRowDef} (h : Accepted table) (hd : d ∈ table.rows)
  (hboard : wallRowIsOwn d = false)

include h hd hboard

/-- A release builds the table of the others, closed up, and judges it. -/
theorem wallRowsWithout_board :
    ∃ next : WallRowsTable, next.rows = closedUp (others table.rows d.id) d.row ∧
      wallRowsWithout table d.id =
        if masterAlone (others table.rows d.id) then .ok {} else judged next := by
  obtain ⟨i, hfound, hgetD, hrest⟩ := found_board (accepted_iff.mp h).1 hd hboard
  refine ⟨table.without i d.row, ?_, ?_⟩
  · show List.map _ (table.rows.eraseIdx i) = _
    rw [hrest]
    rfl
  · unfold wallRowsWithout
    rw [hfound]
    dsimp only
    rw [if_neg (by omega), Int.toNat_natCast, hgetD]
    have hrows : (table.without i d.row).rows = closedUp (others table.rows d.id) d.row := by
      show List.map _ (table.rows.eraseIdx i) = _
      rw [hrest]
      rfl
    rw [hrows, closedUp, masterAlone_moved]

/-- With flaps left, and no gap, the table without the board is accepted. -/
theorem wallRowsWithout_ok (hflaps : ∃ r ∈ others table.rows d.id, r.width ≠ 0)
    (hgap : ¬GapLeft (others table.rows d.id) d.row)
    (hmore : masterAlone (others table.rows d.id) = false) :
    ∃ out, wallRowsWithout table d.id = .ok out ∧ Accepted out ∧
      SameOrder (others table.rows d.id) out.rows := by
  obtain ⟨next, hrows, hresult⟩ := wallRowsWithout_board h hd hboard
  have haccepted : Accepted next := by
    rw [accepted_iff, hrows]
    obtain ⟨hboards, hgrid⟩ := accepted_iff.mp h
    refine ⟨released_boards hboards d, ?_⟩
    exact closedUp_holds (others_rest hboards hd) hgrid List.filter_sublist hflaps hgap
  refine ⟨next, ?_, haccepted, ?_⟩
  · rw [hresult, hmore, if_neg Bool.false_ne_true]
    exact judged_ok.mpr ⟨rfl, haccepted⟩
  · rw [hrows]
    exact closedUp_order d.row

/-- **When a release is accepted.** -/
theorem wallRowsWithout_iff :
    (∃ out, wallRowsWithout table d.id = .ok out) ↔
      masterAlone (others table.rows d.id) = true ∨
        ((∃ r ∈ others table.rows d.id, r.width ≠ 0) ∧
          ¬GapLeft (others table.rows d.id) d.row) := by
  obtain ⟨next, hrows, hresult⟩ := wallRowsWithout_board h hd hboard
  cases halone : masterAlone (others table.rows d.id) with
  | true =>
      rw [hresult, halone, if_pos rfl]
      exact ⟨fun _ => Or.inl rfl, fun _ => ⟨_, rfl⟩⟩
  | false =>
      constructor
      · rintro ⟨out, hout⟩
        rw [hresult, halone, if_neg Bool.false_ne_true] at hout
        have hgrid := (accepted_iff.mp (judged_ok.mp hout).2).2
        rw [hrows] at hgrid
        right
        constructor
        · obtain ⟨r, hr, hwidth⟩ := hgrid.flaps
          obtain ⟨r', hr', rfl⟩ := List.mem_map.mp hr
          exact ⟨r', hr', hwidth⟩
        · rintro ⟨⟨x, hx, hxrow⟩, hvacant, y, hy, hywidth, hdeeper⟩
          -- nothing moves up, so the grid row below the gap has no cover
          have hused : (others table.rows d.id).any (·.row = d.row) = true :=
            List.any_eq_true.mpr ⟨x, hx, decide_eq_true hxrow⟩
          have hstays : ∀ row, movedUp ((others table.rows d.id).any (·.row = d.row)) d.row row =
              row := by
            intro row
            rw [hused]
            rfl
          have hcover := hgrid.closed _ (List.mem_map_of_mem hy) hywidth d.row.toNat (by
            rw [hstays]
            exact UInt8.lt_iff_toNat_lt.mp hdeeper)
          obtain ⟨o, ho, howidth, hrow⟩ := hcover
          obtain ⟨o', ho', rfl⟩ := List.mem_map.mp ho
          rw [hstays] at hrow
          exact howidth (hvacant o' ho' (UInt8.toNat_inj.mp hrow))
      · rintro (hno | ⟨hflaps, hgap⟩)
        · exact Bool.noConfusion hno
        · obtain ⟨out, hout, _⟩ := wallRowsWithout_ok h hd hboard hflaps hgap halone
          exact ⟨out, hout⟩

/-- A wall of boards without columns is not one. -/
theorem wallRowsWithout_offGrid (hnone : ∀ r ∈ others table.rows d.id, r.width = 0)
    (hmore : masterAlone (others table.rows d.id) = false) :
    wallRowsWithout table d.id = .error "No rendering members (all off-grid)" := by
  obtain ⟨next, hrows, hresult⟩ := wallRowsWithout_board h hd hboard
  have hboards : BoardsHold next.rows := hrows ▸ released_boards (accepted_iff.mp h).1 d
  have hempty : ∀ r ∈ next.rows, r.width = 0 := by
    intro r hr
    rw [hrows] at hr
    obtain ⟨r', hr', rfl⟩ := List.mem_map.mp hr
    exact hnone r' hr'
  have hlow : ∀ r ∈ next.rows, r.row.toNat < CLUSTER_MAX_MEMBERS := by
    intro r hr
    rw [hrows] at hr
    obtain ⟨r', hr', rfl⟩ := List.mem_map.mp hr
    have hbefore := (accepted_iff.mp h).2.low r' (List.mem_filter.mp hr').1
    show (movedUp _ _ r'.row).toNat < _
    rw [movedUp_toNat]
    split
    · omega
    · exact hbefore
  have hsome : next.rows ≠ [] := by
    intro hnil
    rw [hrows, closedUp, List.map_eq_nil_iff] at hnil
    rw [hnil] at hmore
    exact Bool.noConfusion hmore
  rw [hresult, hmore, if_neg Bool.false_ne_true]
  unfold judged
  rw [offGrid_refused hboards hsome hlow hempty]

end Released

/-- A board without columns shares the grid row, which is therefore not closed. -/
example : (wallRowsWithout { rows := [{ width := 5 },
    { id := ascii "row-a", host := ascii "192.168.1.50", row := 1, width := 5 },
    { id := ascii "row-b", host := ascii "192.168.1.51", row := 1 },
    { id := ascii "row-c", host := ascii "192.168.1.52", row := 2, width := 5 }] }
      (ascii "row-a")).isOk = false := by decide +kernel

/-! ## §4. A board that comes. -/

theorem below_spec (rows : List WallRowDef) :
    (∀ r ∈ rows, r.row.toNat < below rows) ∧
      (below rows = 0 ∨ ∃ r ∈ rows, below rows = r.row.toNat + 1) := by
  have hfold : ∀ (rows : List WallRowDef) (deep : Nat),
      let last := rows.foldl (fun below r => max below (r.row.toNat + 1)) deep
      deep ≤ last ∧ (∀ r ∈ rows, r.row.toNat < last) ∧
        (last = deep ∨ ∃ r ∈ rows, last = r.row.toNat + 1) := by
    intro rows
    induction rows with
    | nil => exact fun deep => ⟨Nat.le_refl _, fun r hr => (nomatch hr), Or.inl rfl⟩
    | cons r rows ih =>
        intro deep
        obtain ⟨hfrom, hall, hlast⟩ := ih (max deep (r.row.toNat + 1))
        have hleft := Nat.le_max_left deep (r.row.toNat + 1)
        have hright := Nat.le_max_right deep (r.row.toNat + 1)
        refine ⟨Nat.le_trans hleft hfrom, ?_, ?_⟩
        · intro x hx
          rcases List.mem_cons.mp hx with rfl | hx
          · exact Nat.lt_of_succ_le (Nat.le_trans hright hfrom)
          · exact hall x hx
        · rcases hlast with heq | ⟨x, hx, heq⟩
          · rcases Nat.le_total deep (r.row.toNat + 1) with hle | hle
            · right
              exact ⟨r, List.mem_cons_self, heq.trans (Nat.max_eq_right hle)⟩
            · left
              exact heq.trans (Nat.max_eq_left hle)
          · exact Or.inr ⟨x, List.mem_cons_of_mem _ hx, heq⟩
  exact (hfold rows 0).2

/-- No board without columns lies deeper than the wall. -/
def OffGridWithin (rows : List WallRowDef) : Prop :=
  ∀ r ∈ rows, r.width = 0 → ∃ o ∈ rows, o.width ≠ 0 ∧ r.row ≤ o.row

/-- A grid without gaps has no more rows than boards. -/
theorem rows_le_boards {rows : List WallRowDef} (h : GridHolds rows) {r : WallRowDef}
    (hr : r ∈ rows) (hwidth : r.width ≠ 0) : r.row.toNat + 1 ≤ rows.length := by
  have hsub : List.range (r.row.toNat + 1) ⊆ rows.map fun o => o.row.toNat := by
    intro n hn
    have hn := List.mem_range.mp hn
    by_cases hsame : n = r.row.toNat
    · exact List.mem_map.mpr ⟨r, hr, hsame.symm⟩
    · obtain ⟨o, ho, _, hrow⟩ := h.closed r hr hwidth n (by omega)
      exact List.mem_map.mpr ⟨o, ho, hrow⟩
  have hle := (List.subperm_of_subset List.nodup_range hsub).length_le
  rwa [List.length_range, List.length_map] at hle

/-- **A board below the last is on the grid** just when no board off the grid
lies deeper. -/
theorem below_holds {rows : List WallRowDef} (h : GridHolds rows) {d : WallRowDef}
    (hroom : rows.length < CLUSTER_MAX_MEMBERS) (hwidth : d.width ≠ 0)
    (hrow : d.row.toNat = below rows) : GridHolds (rows ++ [d]) ↔ OffGridWithin rows := by
  obtain ⟨hall, hlast⟩ := below_spec rows
  obtain ⟨first, hfirst, _⟩ := h.flaps
  have hpos := hall first hfirst
  have hdeepest : ∃ x ∈ rows, below rows = x.row.toNat + 1 := by
    rcases hlast with hzero | hsome
    · omega
    · exact hsome
  obtain ⟨x, hx, hbelow⟩ := hdeepest
  constructor
  · intro hgrid r hr _
    obtain ⟨o, ho, howidth, horow⟩ := hgrid.closed d (List.mem_append_right _ List.mem_cons_self)
      hwidth x.row.toNat (by omega)
    rcases List.mem_append.mp ho with ho | ho
    · refine ⟨o, ho, howidth, ?_⟩
      have hle := hall r hr
      rw [UInt8.le_iff_toNat_le]
      omega
    · rw [List.mem_singleton.mp ho] at horow
      omega
  · intro hwithin
    -- the deepest board has flaps, or lies no deeper than one that has
    have htop : ∃ o ∈ rows, o.width ≠ 0 ∧ below rows = o.row.toNat + 1 := by
      by_cases hxwidth : x.width = 0
      · obtain ⟨o, ho, howidth, hle⟩ := hwithin x hx hxwidth
        have hle := UInt8.le_iff_toNat_le.mp hle
        have hlt := hall o ho
        exact ⟨o, ho, howidth, by omega⟩
      · exact ⟨x, hx, hxwidth, hbelow⟩
    obtain ⟨o, ho, howidth, htop⟩ := htop
    have hmore : ∀ {n}, Occupied rows n → Occupied (rows ++ [d]) n := by
      rintro n ⟨r, hr, hrest⟩
      exact ⟨r, List.mem_append_left _ hr, hrest⟩
    refine ⟨?_, ?_, ?_, ?_⟩
    · intro r hr
      rcases List.mem_append.mp hr with hr | hr
      · exact h.low r hr
      · rw [List.mem_singleton.mp hr, hrow, htop]
        exact Nat.lt_of_le_of_lt (rows_le_boards h ho howidth) hroom
    · exact ⟨d, List.mem_append_right _ List.mem_cons_self, hwidth⟩
    · refine List.pairwise_append.mpr ⟨h.apart, List.pairwise_singleton _ _, ?_⟩
      intro r hr d' hd'
      rw [List.mem_singleton.mp hd']
      have hlt := hall r hr
      have hother : ¬d.row = r.row := by
        intro heq
        rw [heq] at hrow
        omega
      unfold spansOverlap
      simp [WallRowDef.span, hother]
    · intro r hr hrwidth n hn
      rcases List.mem_append.mp hr with hr | hr
      · exact hmore (h.closed r hr hrwidth n hn)
      · rw [List.mem_singleton.mp hr, hrow, htop] at hn
        by_cases hsame : n = o.row.toNat
        · exact hmore ⟨o, ho, howidth, hsame.symm⟩
        · exact hmore (h.closed o ho howidth n (by omega))

/-- A board of its own makes a wall when it hangs at the top. -/
theorem single_holds {d : WallRowDef} (hwidth : d.width ≠ 0) (hrow : d.row = 0) :
    GridHolds [d] := by
  have hzero : d.row.toNat = 0 := congrArg UInt8.toNat hrow
  refine ⟨?_, ⟨d, List.mem_cons_self, hwidth⟩, List.pairwise_singleton _ _, ?_⟩
  · intro r hr
    rw [List.mem_singleton.mp hr, hzero]
    decide
  · intro r hr _ n hn
    rw [List.mem_singleton.mp hr, hzero] at hn
    omega

theorem BoardsHold.snoc {rows : List WallRowDef} (h : BoardsHold rows) {d : WallRowDef}
    (hname : isValidDeviceName d.id = true) (hhost : (wallRowHostParse d.host).isSome = true)
    (hnew : ∀ r ∈ rows, r.id ≠ d.id) : BoardsHold (rows ++ [d]) := by
  have hboard : wallRowIsOwn d ≠ true := by
    intro hown
    have hid : d.id = [] := of_decide_eq_true hown
    rw [hid] at hname
    exact absurd hname (by decide)
  refine ⟨?_, ?_, ?_, ?_⟩
  · intro r hr hown
    rcases List.mem_append.mp hr with hr | hr
    · exact h.own r hr hown
    · rw [List.mem_singleton.mp hr] at hown
      exact absurd hown hboard
  · intro r hr hno
    rcases List.mem_append.mp hr with hr | hr
    · exact h.named r hr hno
    · rw [List.mem_singleton.mp hr]
      exact hname
  · intro r hr hno
    rcases List.mem_append.mp hr with hr | hr
    · exact h.onLan r hr hno
    · rw [List.mem_singleton.mp hr]
      exact hhost
  · refine List.pairwise_append.mpr ⟨h.distinct, List.pairwise_singleton _ _, ?_⟩
    intro r hr d' hd'
    rw [List.mem_singleton.mp hd']
    exact hnew r hr

theorem wallRowsFind_new {table : WallRowsTable} {id : CStr} (h : ∀ r ∈ table.rows, r.id ≠ id) :
    wallRowsFind table id = -1 := by
  unfold wallRowsFind
  by_cases hid : id = []
  · rw [if_pos hid]
  · rw [if_neg hid, List.findIdx?_eq_none_iff.mpr]
    intro x hx
    obtain ⟨r, hr, rfl⟩ := List.mem_map.mp hx
    exact decide_eq_false (h r hr)

section Paired

variable {table : WallRowsTable} {id host : CStr} {width : Int} {ownWidth : UInt8}
  (hid : isValidDeviceName id = true) (hhost : (wallRowHostParse host).isSome = true)
  (hnew : ∀ r ∈ table.rows, r.id ≠ id) (hwidth : 1 ≤ width ∧ width ≤ 255)

/-- The board as it is added. -/
def newBoard (id host : CStr) (row : Nat) (width : Int) : WallRowDef where
  id := id
  host := host
  row := UInt8.ofNat row
  width := UInt8.ofNat width.toNat

include hwidth in
theorem newBoard_width (row : Nat) : (newBoard id host row width).width ≠ 0 := by
  intro hzero
  have hnat : width.toNat % 256 = 0 := by
    rw [← UInt8.toNat_ofNat']
    exact congrArg UInt8.toNat hzero
  omega

include hid hhost hwidth

theorem paired_default {next : WallRowsTable} (hnext : table.withOwn ownWidth.toNat = next)
    (hnew : ∀ r ∈ next.rows, r.id ≠ id) (hroom : next.rows.length < CLUSTER_MAX_MEMBERS)
    (hdeep : below next.rows ≤ 255) :
    wallRowsWithPaired table id host width {} ownWidth.toNat =
      judged (next.add (newBoard id host (below next.rows) width) hroom) := by
  obtain ⟨_, hshort, _⟩ := labelSafe_iff.mp hid
  have hshort : id.length ≤ 24 := hshort
  obtain ⟨_, hhostShort⟩ := host_shape hhost
  unfold wallRowsWithPaired
  rw [if_neg]
  · rw [hnext]
    dsimp only
    have hdefault : ¬(-1 : Int) ≥ 0 := by decide
    rw [wallRowsFind_new hnew, if_pos (by decide), dif_pos hroom, if_neg hdefault, if_neg hdefault,
      if_neg hdefault, if_neg (by omega), if_neg]
    · rfl
    · simp only [Bool.or_eq_true, decide_eq_true_eq]
      omega
  · simp only [Bool.or_eq_true, decide_eq_true_eq, WALL_ROW_ID_MAX]
    omega

include hnew

/-- **When a new board finds its default place** on a wall that has boards. -/
theorem paired_iff (h : Accepted table) (hroom : table.rows.length < CLUSTER_MAX_MEMBERS) :
    (∃ out, wallRowsWithPaired table id host width {} ownWidth.toNat = .ok out) ↔
      OffGridWithin table.rows := by
  obtain ⟨hboards, hgrid⟩ := accepted_iff.mp h
  have hnext : table.withOwn ownWidth.toNat = table := by
    unfold WallRowsTable.withOwn
    rw [if_neg]
    rintro ⟨hnil, _⟩
    obtain ⟨r, hr, _⟩ := hgrid.flaps
    rw [hnil] at hr
    exact List.not_mem_nil hr
  have hshallow : below table.rows ≤ CLUSTER_MAX_MEMBERS := by
    rcases (below_spec table.rows).2 with hzero | ⟨r, hr, hlast⟩
    · omega
    · have hlow := hgrid.low r hr
      omega
  rw [paired_default hid hhost hwidth hnext hnew hroom (Nat.le_trans hshallow (by decide))]
  have hrow : (newBoard id host (below table.rows) width).row.toNat = below table.rows := by
    show (UInt8.ofNat _).toNat = _
    rw [UInt8.toNat_ofNat']
    exact Nat.mod_eq_of_lt (Nat.lt_of_le_of_lt hshallow (by decide))
  rw [← below_holds hgrid hroom (newBoard_width hwidth (below table.rows)) hrow]
  constructor
  · rintro ⟨out, hout⟩
    exact (accepted_iff.mp (judged_ok.mp hout).2).2
  · intro hwhole
    exact ⟨_, judged_ok.mpr ⟨rfl, accepted_iff.mpr ⟨hboards.snoc hid hhost hnew, hwhole⟩⟩⟩

/-- The first board comes below the master's own units, if it has any. -/
theorem paired_first (hempty : table.rows = []) :
    ∃ out, wallRowsWithPaired table id host width {} ownWidth.toNat = .ok out := by
  by_cases hown : ownWidth = 0
  · have hnext : table.withOwn ownWidth.toNat = table := by
      unfold WallRowsTable.withOwn
      rw [if_neg]
      rintro ⟨_, hpos⟩
      rw [hown] at hpos
      exact absurd hpos (by decide)
    have hroom : table.rows.length < CLUSTER_MAX_MEMBERS := by
      rw [hempty]
      decide
    have hbelow : below table.rows = 0 := by
      rw [hempty]
      rfl
    rw [paired_default hid hhost hwidth hnext hnew hroom (by omega)]
    refine ⟨_, judged_ok.mpr ⟨rfl, accepted_iff.mpr ⟨?_, ?_⟩⟩⟩
    · refine BoardsHold.snoc ?_ hid hhost hnew
      rw [hempty]
      exact ⟨fun r hr => (nomatch hr), fun r hr => (nomatch hr), fun r hr => (nomatch hr),
        List.Pairwise.nil⟩
    · show GridHolds (table.rows ++ _)
      rw [hbelow, hempty]
      exact single_holds (newBoard_width hwidth 0) rfl
  · obtain ⟨next, hnext⟩ : ∃ next, table.withOwn ownWidth.toNat = next := ⟨_, rfl⟩
    have hrows : next.rows = [{ width := ownWidth }] := by
      rw [← hnext]
      unfold WallRowsTable.withOwn
      rw [if_pos]
      · show [_] = _
        rw [Int.toNat_natCast, UInt8.ofNat_toNat]
      · refine ⟨hempty, ?_⟩
        have hne := mt UInt8.toNat_inj.mp hown
        have hzero : (0 : UInt8).toNat = 0 := rfl
        omega
    have hname : id ≠ [] := by
      intro hnil
      rw [hnil] at hid
      exact absurd hid (by decide)
    have hgrid : GridHolds next.rows := by
      rw [hrows]
      exact single_holds hown rfl
    have hboards : BoardsHold next.rows := by
      rw [hrows]
      refine ⟨?_, ?_, ?_, List.pairwise_singleton _ _⟩
      · intro r hr _
        rw [List.mem_singleton.mp hr]
      · intro r hr hno
        rw [List.mem_singleton.mp hr] at hno
        exact Bool.noConfusion hno
      · intro r hr hno
        rw [List.mem_singleton.mp hr] at hno
        exact Bool.noConfusion hno
    have hother : ∀ r ∈ next.rows, r.id ≠ id := by
      intro r hr
      rw [hrows] at hr
      rw [List.mem_singleton.mp hr]
      exact hname.symm
    have hroom : next.rows.length < CLUSTER_MAX_MEMBERS := by
      rw [hrows]
      exact Nat.lt_of_le_of_lt (Nat.le_refl 1) (by decide)
    have hbelow : below next.rows = 1 := by
      rw [hrows]
      rfl
    rw [paired_default hid hhost hwidth hnext hother hroom (by omega)]
    refine ⟨_, judged_ok.mpr ⟨rfl, accepted_iff.mpr ⟨hboards.snoc hid hhost hother, ?_⟩⟩⟩
    refine (below_holds hgrid hroom (newBoard_width hwidth _) ?_).mpr ?_
    · rw [hbelow]
      rfl
    · intro r hr hnone
      rw [hrows] at hr
      rw [List.mem_singleton.mp hr] at hnone
      exact absurd hnone hown

end Paired

/-! ## §5. Every edit. -/

/-- **Boards leave the wall, and new ones find a place on it**: a release is
accepted while flaps are left, and leaves the others in their order; a new board
hangs below the last.  Boards without columns are assumed to lie on no grid row
that a release empties above others, and not below the wall. -/
theorem edits_accepted (table : WallRowsTable) :
    (∀ d ∈ table.rows, Accepted table → wallRowIsOwn d = false →
      (masterAlone (others table.rows d.id) = true → wallRowsWithout table d.id = .ok {}) ∧
      (masterAlone (others table.rows d.id) = false →
        ((∃ r ∈ others table.rows d.id, r.width ≠ 0) → ¬GapLeft (others table.rows d.id) d.row →
          ∃ out, wallRowsWithout table d.id = .ok out ∧ Accepted out ∧
            SameOrder (others table.rows d.id) out.rows) ∧
        ((∀ r ∈ others table.rows d.id, r.width = 0) →
          wallRowsWithout table d.id = .error "No rendering members (all off-grid)"))) ∧
    (∀ (id host : CStr) (width : Int) (ownWidth : UInt8), Accepted table ∨ table.rows = [] →
      isValidDeviceName id = true → (wallRowHostParse host).isSome = true →
      (∀ r ∈ table.rows, r.id ≠ id) → table.rows.length < CLUSTER_MAX_MEMBERS →
      1 ≤ width ∧ width ≤ 255 → OffGridWithin table.rows →
        ∃ out, wallRowsWithPaired table id host width {} ownWidth.toNat = .ok out) := by
  constructor
  · intro d hd h hboard
    refine ⟨?_, fun hmore => ⟨?_, ?_⟩⟩
    · intro halone
      obtain ⟨next, _, hresult⟩ := wallRowsWithout_board h hd hboard
      rw [hresult, halone, if_pos rfl]
    · exact fun hflaps hgap => wallRowsWithout_ok h hd hboard hflaps hgap hmore
    · exact fun hnone => wallRowsWithout_offGrid h hd hboard hnone hmore
  · rintro id host width ownWidth (h | hempty) hid hhost hnew hroom hwidth hwithin
    · exact (paired_iff hid hhost hnew hwidth h hroom).mpr hwithin
    · exact paired_first hid hhost hnew hwidth hempty

/-- The master's own row and two boards below it. -/
def threeRows : WallRowsTable :=
  { rows := [{ width := 5 },
      { id := ascii "row-a", host := ascii "192.168.1.50", row := 1, width := 5 },
      { id := ascii "row-b", host := ascii "192.168.1.51", row := 2, width := 5 }] }

theorem edits_accepted_three :
    (∃ out, wallRowsWithout threeRows (ascii "row-a") = .ok out ∧ Accepted out ∧
      SameOrder (others threeRows.rows (ascii "row-a")) out.rows) ∧
    ∃ out, wallRowsWithPaired threeRows (ascii "row-c") (ascii "192.168.1.52") 5 {} 5 = .ok out := by
  have haccepted : Accepted threeRows := accepted_of_isOk (by decide +kernel)
  constructor
  · have hrelease := (edits_accepted threeRows).1
      { id := ascii "row-a", host := ascii "192.168.1.50", row := 1, width := 5 } (by decide +kernel)
      haccepted (by decide +kernel)
    refine (hrelease.2 (by decide +kernel)).1 (by decide +kernel) ?_
    rintro ⟨hused, _, _⟩
    exact absurd hused (by decide +kernel)
  · refine (edits_accepted threeRows).2 _ _ 5 5 (Or.inl haccepted) (by decide +kernel)
      (by decide +kernel) (by decide +kernel) (by decide +kernel) (by decide) ?_
    unfold OffGridWithin
    decide +kernel

/-- A board that hangs, and one without columns. -/
def oneHangs : WallRowsTable :=
  { rows := [{ id := ascii "row-a", host := ascii "192.168.1.50", width := 5 },
      { id := ascii "row-b", host := ascii "192.168.1.51" }] }

/-- The last board with flaps stays while one without is there. -/
theorem last_flaps_stay :
    Accepted oneHangs ∧ ascii "row-a" ∈ oneHangs.ids ∧
      ∀ out, wallRowsWithout oneHangs (ascii "row-a") ≠ .ok out := by
  refine ⟨accepted_of_isOk (by decide +kernel), by decide +kernel, ?_⟩
  intro out hout
  have hno : (wallRowsWithout oneHangs (ascii "row-a")).isOk = false := by decide +kernel
  rw [hout] at hno
  exact Bool.noConfusion hno

end SplitFlap
