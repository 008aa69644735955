/-
  SplitFlap.Wall.HostNames — the name a board carries from its place.

  `WallLinkNames.h` and `wallRowsHostName`: the grid row counted from 1, and the
  column behind it when another board hangs on that row.  The name says the
  place and nothing else, so two boards have one name exactly when they have one
  place, as mirrors do (`host_names`).
-/
import SplitFlap.Wall.Edits

namespace SplitFlap

/-! ## §1. The name of a place. -/

def WALL_HOST_NAME_PREFIX : CStr := ascii "split-flap-row"

def wallHostNameValid (name : CStr) : Bool := labelSafe WALL_HOST_NAME_MAX name

/-- Row and column from 1; empty when the place is no place or `cap` too small. -/
def wallRowHostName (row col : Nat) (shared : Bool) (cap : Nat) : CStr :=
  if row < 1 || row > 256 || col < 1 || col > 256 then []
  else
    let name :=
      WALL_HOST_NAME_PREFIX ++ decimal row ++ if shared then ascii "-c" ++ decimal col else []
    if name.length ≥ cap || name.length > WALL_HOST_NAME_MAX then [] else name

/-- Another board than the one at `i` has its grid row. -/
def rowShared (rows : List WallRowDef) (i : Nat) (row : UInt8) : Bool :=
  rows.zipIdx.any fun (r, j) => j ≠ i && r.row = row

/-- `wallRowsHostName`: empty when `i` is no row of the table. -/
def wallRowsHostName (table : WallRowsTable) (i : Int) (cap : Nat) : CStr :=
  if i < 0 || i ≥ table.rows.length then []
  else
    let d := table.rows.getD i.toNat {}
    wallRowHostName (d.row.toNat + 1) (d.col.toNat + 1) (rowShared table.rows i.toNat d.row) cap

/-! ## §2. Names and places. -/

/-- Eight grid rows are counted with one digit. -/
theorem decimal_digit {n : Nat} (h : n < 10) : (decimal n).length = 1 := by
  have hpos : (decimal n).length ≠ 0 := mt List.eq_nil_of_length_eq_zero (decimal_ne_nil n)
  have hle : (decimal n).length ≤ 1 := by
    rw [decimal, List.length_map]
    exact (Nat.length_toDigits_le_iff (by decide) (by decide)).mpr h
  omega

theorem prefix_label : ∀ c ∈ WALL_HOST_NAME_PREFIX, isLabelChar c = true := by decide +kernel

theorem digit_label {c : UInt8} (h : isDigit c = true) : isLabelChar c = true := by
  unfold isLabelChar
  rw [h, Bool.or_true, Bool.true_or]

/-- A name that ends in a number ends in a digit. -/
theorem last_decimal (text : CStr) (n : Nat) : (text ++ decimal n).getLast? ≠ some 45 := by
  rw [List.getLast?_append_of_ne_nil _ (decimal_ne_nil n)]
  intro hlast
  have hdigit := decimal_digits n 45 (List.mem_of_getLast? hlast)
  exact absurd hdigit (by decide)

section Place

variable {row col cap : Nat} (hrow : row < CLUSTER_MAX_MEMBERS) (hcol : col < 256)
  (hcap : WALL_HOST_NAME_MAX < cap) (shared : Bool)

include hrow hcol hcap

/-- A place of the wall has its whole name. -/
theorem wallRowHostName_eq :
    wallRowHostName (row + 1) (col + 1) shared cap =
      WALL_HOST_NAME_PREFIX ++ decimal (row + 1) ++
        if shared then ascii "-c" ++ decimal (col + 1) else [] := by
  have hrow : row < 8 := hrow
  have hcap : 24 < cap := hcap
  have hone := decimal_digit (n := row + 1) (by omega)
  have hthree : (decimal (col + 1)).length ≤ 3 := decimal_length (by omega)
  have hprefix : WALL_HOST_NAME_PREFIX.length = 14 := by decide +kernel
  have hdash : (ascii "-c").length = 2 := by decide +kernel
  have hlength : (WALL_HOST_NAME_PREFIX ++ decimal (row + 1) ++
      if shared then ascii "-c" ++ decimal (col + 1) else []).length ≤ 20 := by
    rw [List.length_append, List.length_append]
    cases shared with
    | true =>
        rw [if_pos rfl, List.length_append]
        omega
    | false =>
        rw [if_neg Bool.false_ne_true, List.length_nil]
        omega
  unfold wallRowHostName
  rw [if_neg]
  · dsimp only
    rw [if_neg]
    simp only [Bool.or_eq_true, decide_eq_true_eq, not_or, WALL_HOST_NAME_MAX]
    omega
  · simp only [Bool.or_eq_true, decide_eq_true_eq]
    omega

/-- It is a label. -/
theorem wallRowHostName_valid :
    wallHostNameValid (wallRowHostName (row + 1) (col + 1) shared cap) = true := by
  have hrow' : row < 8 := hrow
  have hone := decimal_digit (n := row + 1) (by omega)
  have hthree : (decimal (col + 1)).length ≤ 3 := decimal_length (by omega)
  have hprefix : WALL_HOST_NAME_PREFIX.length = 14 := by decide +kernel
  have hdash : (ascii "-c").length = 2 := by decide +kernel
  have hdashes : ∀ c ∈ ascii "-c", isLabelChar c = true := by decide +kernel
  have hhead : ∀ rest : CStr, (WALL_HOST_NAME_PREFIX ++ rest).head? ≠ some 45 := by
    intro rest
    have hne : WALL_HOST_NAME_PREFIX ≠ [] := by decide +kernel
    rw [List.head?_append_of_ne_nil _ hne]
    decide +kernel
  have hchars : ∀ c ∈ WALL_HOST_NAME_PREFIX ++ decimal (row + 1), isLabelChar c = true := by
    intro c hc
    rcases List.mem_append.mp hc with hc | hc
    · exact prefix_label c hc
    · exact digit_label (decimal_digits _ c hc)
  rw [wallRowHostName_eq hrow hcol hcap]
  unfold wallHostNameValid
  rw [labelSafe_iff]
  cases shared with
  | true =>
      rw [if_pos rfl]
      refine ⟨?_, ?_, ?_, ?_, ?_⟩
      · simp only [List.length_append]
        omega
      · simp only [List.length_append, WALL_HOST_NAME_MAX]
        omega
      · rw [List.append_assoc]
        exact hhead _
      · rw [← List.append_assoc]
        exact last_decimal _ _
      · intro c hc
        rcases List.mem_append.mp hc with hc | hc
        · exact hchars c hc
        · rcases List.mem_append.mp hc with hc | hc
          · exact hdashes c hc
          · exact digit_label (decimal_digits _ c hc)
  | false =>
      rw [if_neg Bool.false_ne_true, List.append_nil]
      refine ⟨?_, ?_, hhead _, last_decimal _ _, hchars⟩
      · simp only [List.length_append]
        omega
      · simp only [List.length_append, WALL_HOST_NAME_MAX]
        omega

/-- **The name says the row**, and the column where that is shared. -/
theorem wallRowHostName_inj {row' col' : Nat} (hrow' : row' < CLUSTER_MAX_MEMBERS)
    (hcol' : col' < 256) {shared' : Bool}
    (h : wallRowHostName (row + 1) (col + 1) shared cap =
      wallRowHostName (row' + 1) (col' + 1) shared' cap) :
    row = row' ∧ (shared = true → shared' = true → col = col') := by
  have hlow : row < 8 := hrow
  have hlow' : row' < 8 := hrow'
  rw [wallRowHostName_eq hrow hcol hcap, wallRowHostName_eq hrow' hcol' hcap, List.append_assoc,
    List.append_assoc] at h
  have hrest := List.append_cancel_left h
  have hlength : (decimal (row + 1)).length = (decimal (row' + 1)).length := by
    rw [decimal_digit (by omega), decimal_digit (by omega)]
  obtain ⟨hdigit, hbehind⟩ := List.append_inj hrest hlength
  have hsame := decimal_inj hdigit
  refine ⟨by omega, ?_⟩
  rintro rfl rfl
  rw [if_pos rfl, if_pos rfl] at hbehind
  have hcolumn := decimal_inj (List.append_cancel_left hbehind)
  omega

end Place

/-! ## §3. The names of a table. -/

theorem rowShared_of {rows : List WallRowDef} {i j : Nat} (hj : j < rows.length) (hne : j ≠ i)
    {row : UInt8} (hrow : (rows.getD j {}).row = row) : rowShared rows i row = true := by
  refine List.any_eq_true.mpr ⟨(rows.getD j {}, j), ?_, ?_⟩
  · rw [List.mem_zipIdx_iff_getElem?, List.getElem?_eq_getElem hj, List.getD_eq_getElem _ _ hj]
  · rw [Bool.and_eq_true, decide_eq_true_eq, decide_eq_true_eq]
    exact ⟨hne, hrow⟩

theorem wallRowsHostName_board {table : WallRowsTable} {i : Nat} (hi : i < table.rows.length)
    (cap : Nat) :
    wallRowsHostName table i cap =
      wallRowHostName ((table.rows.getD i {}).row.toNat + 1)
        ((table.rows.getD i {}).col.toNat + 1)
          (rowShared table.rows i (table.rows.getD i {}).row) cap := by
  unfold wallRowsHostName
  rw [if_neg]
  · rw [Int.toNat_natCast]
  · simp only [Bool.or_eq_true, decide_eq_true_eq]
    omega

/-- **Every board has a name, and its place has one**: boards of one name hang
at one place. -/
theorem host_names (table : WallRowsTable) (cap : Nat) (h : Accepted table)
    (hcap : WALL_HOST_NAME_MAX < cap) :
    (∀ i : Nat, i < table.rows.length →
      wallRowsHostName table i cap ≠ [] ∧
        wallHostNameValid (wallRowsHostName table i cap) = true) ∧
    ∀ i j : Nat, i < table.rows.length → j < table.rows.length → i ≠ j →
      (wallRowsHostName table i cap = wallRowsHostName table j cap ↔
        (table.rows.getD i {}).row = (table.rows.getD j {}).row ∧
          (table.rows.getD i {}).col = (table.rows.getD j {}).col) := by
  have hlow : ∀ i : Nat, i < table.rows.length →
      (table.rows.getD i {}).row.toNat < CLUSTER_MAX_MEMBERS := by
    intro i hi
    rw [List.getD_eq_getElem _ _ hi]
    exact (accepted_iff.mp h).2.low _ (List.getElem_mem hi)
  have hcol : ∀ i : Nat, (table.rows.getD i {}).col.toNat < 256 :=
    fun i => (table.rows.getD i {}).col.toNat_lt
  constructor
  · intro i hi
    have hvalid := wallRowHostName_valid (hlow i hi) (hcol i) hcap
      (rowShared table.rows i (table.rows.getD i {}).row)
    rw [wallRowsHostName_board hi]
    refine ⟨?_, hvalid⟩
    intro hnil
    rw [hnil] at hvalid
    exact absurd hvalid (by decide)
  · intro i j hi hj hne
    rw [wallRowsHostName_board hi, wallRowsHostName_board hj]
    constructor
    · intro heq
      obtain ⟨hrow, hplace⟩ := wallRowHostName_inj (hlow i hi) (hcol i) hcap _ (hlow j hj)
        (hcol j) heq
      have hrow := UInt8.toNat_inj.mp hrow
      refine ⟨hrow, UInt8.toNat_inj.mp (hplace ?_ ?_)⟩
      · exact rowShared_of hj hne.symm hrow.symm
      · exact rowShared_of hi hne hrow
    · rintro ⟨hrow, hcolumn⟩
      rw [hrow, hcolumn, rowShared_of hj hne.symm rfl, rowShared_of hi hne hrow]

theorem host_names_three :
    wallHostNameValid (wallRowsHostName threeRows 2 25) = true ∧
      wallRowsHostName threeRows 1 25 ≠ wallRowsHostName threeRows 2 25 := by
  have hnames := host_names threeRows 25 (accepted_of_isOk (by decide +kernel)) (by decide)
  refine ⟨(hnames.1 2 (by decide)).2, ?_⟩
  intro hsame
  have hplace := (hnames.2 1 2 (by decide) (by decide) (by decide)).mp hsame
  exact absurd hplace.1 (by decide)

/-- Two boards on one span. -/
def twins : WallRowsTable :=
  { rows := [{ id := ascii "row-a", host := ascii "192.168.1.50", width := 5 },
      { id := ascii "row-b", host := ascii "192.168.1.51", width := 5 }] }

/-- Mirrors have one place, and so one name. -/
theorem twins_share_name :
    Accepted twins ∧ wallRowsHostName twins 0 25 = wallRowsHostName twins 1 25 :=
  ⟨accepted_of_isOk (by decide +kernel), by decide +kernel⟩

end SplitFlap
