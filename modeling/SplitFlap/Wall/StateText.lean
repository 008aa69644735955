/-
  SplitFlap.Wall.StateText — the wall's text as Home Assistant gets it.

  `wallMqttStateText` writes every grid row on its own line, its boards from left
  to right.  It takes the boards as they are in the table: one without flaps, which
  the judge of the grid ignores, counts among the rows, and of several boards at
  one place the first is taken.
-/
import SplitFlap.Lib.Columns
import SplitFlap.Wall.Edits
import SplitFlap.Wall.Mirror

namespace SplitFlap.StateText

open Columns

/-! ## §1. The text. -/

/-- What `wallMqttStateText` reads of a board. -/
structure WallMqttRow where
  text : CStr := []
  row : UInt8 := 0
  col : UInt8 := 0
  width : UInt8 := 0
  deriving DecidableEq

/-- `maxRow`: -1 for no boards. -/
def maxRow (rows : List WallMqttRow) : Int :=
  rows.foldl (fun maxRow q => if maxRow < q.row.toNat then q.row.toNat else maxRow) (-1)

/-- `wallMqttStateText`, its innermost loop: the board of the line that comes after `lastCol`. -/
def nextBoard (rows : List WallMqttRow) (line : Nat) (lastCol : Int) : Option WallMqttRow :=
  rows.foldl (fun next q =>
    if q.row.toNat ≠ line ∨ q.col.toNat ≤ lastCol then next
    else
      match next with
      | none => some q
      | some best => if q.col < best.col then some q else some best) none

/-- `wallMqttStateText`, a line from behind `lastCol` on, in at most so many boards. -/
def lineFrom (rows : List WallMqttRow) (line : Nat) : Nat → Int → CStr
  | 0, _ => []
  | boards + 1, lastCol =>
      match nextBoard rows line lastCol with
      | none => []
      | some q => q.text ++ lineFrom rows line boards q.col.toNat

/-- A column is passed with every board, and there are 256 to begin at. -/
def lineText (rows : List WallMqttRow) (line : Nat) : CStr := lineFrom rows line 256 (-1)

/-- `wallMqttStateText`, before its cut. -/
def wholeText (rows : List WallMqttRow) : CStr :=
  (List.range (maxRow rows + 1).toNat).foldl
    (fun out line => (if 0 < line then out ++ [10] else out) ++ lineText rows line) []

def wallMqttStateText (rows : List WallMqttRow) : CStr := (wholeText rows).take 255

/-! ## §2. The wall as it stands. -/

/-- A table that the judge accepts, and each board's text, as long as the board is wide. -/
structure HungWall where
  table : WallRowsTable
  grid : ClusterGrid
  valid : wallRowsValidate table = .ok grid
  texts : List CStr
  fits : List.Forall₂ (fun r text => text.length = r.width.toNat) table.rows texts

/-- `mqttPublishWall`, a row of the table. -/
def mqttRow (r : WallRowDef) (text : CStr) : WallMqttRow where
  text := text
  row := r.row
  col := r.col
  width := r.width

/-- `mqttPublishWall`'s rows. -/
def HungWall.rows (w : HungWall) : List WallMqttRow := List.zipWith mqttRow w.table.rows w.texts

/-- The board has a flap in the column. -/
def WallMqttRow.covers (q : WallMqttRow) (c : Nat) : Bool :=
  q.col.toNat ≤ c && c < q.col.toNat + q.width.toNat

/-- The character in column `c` of grid row `r`, where a board has a flap there; mirrors show the
same, and the first is asked. -/
def gridCell (rows : List WallMqttRow) (r c : Nat) : Option UInt8 :=
  (rows.find? fun q => q.row.toNat = r && q.covers c).bind fun q => q.text[c - q.col.toNat]?

/-- Grid row `r`, its owned columns from left to right, each once. -/
def gridLine (rows : List WallMqttRow) (r : Nat) : CStr := readColumns (gridCell rows r) 0 COLUMNS

/-- The text is the wall's rows, one a line. -/
def ReadsAsItHangs (w : HungWall) : Prop :=
  (wholeText w.rows).splitOn 10 = (List.range w.grid.rows).map (gridLine w.rows)

/-- The first board of the table at a place. -/
def firstAt (rows : List WallMqttRow) (row col : UInt8) : Option WallMqttRow :=
  rows.find? fun q => q.row = row && q.col = col

/-- No board without flaps is below the grid, or before the boards of its place; and no flap shows
a line feed. -/
structure NothingInTheWay (w : HungWall) : Prop where
  low : ∀ q ∈ w.rows, q.width = 0 → q.row.toNat < w.grid.rows
  places : ∀ q ∈ w.rows, q.width ≠ 0 → ∀ o, firstAt w.rows q.row q.col = some o → o.width ≠ 0
  plain : ∀ r c, gridCell w.rows r c ≠ some 10

/-! ## §3. The next board. -/

variable {rows : List WallMqttRow} {line : Nat} {lastCol : Int}

/-- What one more board of the table changes. -/
theorem nextBoard_snoc (rows : List WallMqttRow) (q : WallMqttRow) (line : Nat) (lastCol : Int) :
    nextBoard (rows ++ [q]) line lastCol =
      if q.row.toNat ≠ line ∨ q.col.toNat ≤ lastCol then nextBoard rows line lastCol
      else
        match nextBoard rows line lastCol with
        | none => some q
        | some best => if q.col < best.col then some q else some best := by
  unfold nextBoard
  rw [List.foldl_append, List.foldl_cons, List.foldl_nil]

theorem nextBoard_none (h : nextBoard rows line lastCol = none) {q : WallMqttRow} (hq : q ∈ rows)
    (hline : q.row.toNat = line) : q.col.toNat ≤ lastCol := by
  induction rows using List.reverseRecOn with
  | nil => cases hq
  | append_singleton rows p ih =>
      rw [nextBoard_snoc] at h
      by_cases hskip : p.row.toNat ≠ line ∨ p.col.toNat ≤ lastCol
      · rw [if_pos hskip] at h
        obtain hq | hq := List.mem_append.mp hq
        · exact ih h hq
        · rw [List.mem_singleton.mp hq] at hline ⊢
          exact hskip.resolve_left fun hne => hne hline
      · rw [if_neg hskip] at h
        split at h
        · cases h
        · split at h <;> cases h

/-- The next board begins first among those behind, and is the first of the table at its place. -/
structure Next (rows : List WallMqttRow) (line : Nat) (lastCol : Int) (q : WallMqttRow) : Prop where
  mem : q ∈ rows
  onLine : q.row.toNat = line
  behind : lastCol < q.col.toNat
  least : ∀ o ∈ rows, o.row.toNat = line → lastCol < o.col.toNat → q.col.toNat ≤ o.col.toNat
  first : firstAt rows q.row q.col = some q

theorem nextBoard_some {q : WallMqttRow} (h : nextBoard rows line lastCol = some q) :
    Next rows line lastCol q := by
  induction rows using List.reverseRecOn generalizing q with
  | nil => cases h
  | append_singleton rows p ih =>
      rw [nextBoard_snoc] at h
      have hkeep {best : WallMqttRow} (hbest : Next rows line lastCol best)
          (hp : p.row.toNat = line → lastCol < p.col.toNat → best.col.toNat ≤ p.col.toNat) :
          Next (rows ++ [p]) line lastCol best := by
        refine ⟨List.mem_append_left _ hbest.mem, hbest.onLine, hbest.behind, ?_, ?_⟩
        · intro o ho hline hbehind
          obtain ho | ho := List.mem_append.mp ho
          · exact hbest.least o ho hline hbehind
          · rw [List.mem_singleton.mp ho] at hline hbehind ⊢
            exact hp hline hbehind
        · have hfirst := hbest.first
          unfold firstAt at hfirst ⊢
          rw [List.find?_append, hfirst, Option.some_or]
      by_cases hskip : p.row.toNat ≠ line ∨ p.col.toNat ≤ lastCol
      · rw [if_pos hskip] at h
        refine hkeep (ih h) fun hline hbehind => ?_
        obtain hne | hle := hskip
        · exact absurd hline hne
        · omega
      · rw [if_neg hskip] at h
        rw [not_or, not_ne_iff, Int.not_le] at hskip
        -- the new board is taken: none before it begins there
        have htake (hleast : ∀ o ∈ rows, o.row.toNat = line → lastCol < o.col.toNat →
            p.col.toNat < o.col.toNat) : Next (rows ++ [p]) line lastCol p := by
          refine ⟨List.mem_append_right _ (List.mem_singleton_self p), hskip.1, hskip.2, ?_, ?_⟩
          · intro o ho hline hbehind
            obtain ho | ho := List.mem_append.mp ho
            · exact Nat.le_of_lt (hleast o ho hline hbehind)
            · rw [List.mem_singleton.mp ho]
          · unfold firstAt
            rw [List.find?_append, List.find?_eq_none.mpr, Option.none_or, List.find?_singleton]
            · simp
            · intro o ho hplace
              rw [Bool.and_eq_true, decide_eq_true_eq, decide_eq_true_eq] at hplace
              have hlt := hleast o ho (hplace.1 ▸ hskip.1) (hplace.2 ▸ hskip.2)
              rw [hplace.2] at hlt
              exact Nat.lt_irrefl _ hlt
        split at h
        · rename_i hnone
          cases h
          refine htake fun o ho hline hbehind => ?_
          have hle := nextBoard_none hnone ho hline
          omega
        · rename_i best hbest
          have hbest := ih hbest
          split at h
          · rename_i hlt
            cases h
            refine htake fun o ho hline hbehind => ?_
            exact Nat.lt_of_lt_of_le hlt (hbest.least o ho hline hbehind)
          · rename_i hnlt
            cases h
            exact hkeep hbest fun _ _ => Nat.not_lt.mp hnlt

/-! ## §4. What a line shows. -/

/-- The board is the first of the table at its place, and has flaps: its line shows it. -/
def isShown (rows : List WallMqttRow) (q : WallMqttRow) : Bool :=
  q.width ≠ 0 && firstAt rows q.row q.col = some q

/-- The character of column `c`, where its line shows a board there. -/
def shownCell (rows : List WallMqttRow) (r c : Nat) : Option UInt8 :=
  (rows.find? fun q => isShown rows q && (q.row.toNat = r && q.covers c)).bind fun q =>
    q.text[c - q.col.toNat]?

theorem WallMqttRow.covers_iff (q : WallMqttRow) (c : Nat) :
    q.covers c = true ↔ q.col.toNat ≤ c ∧ c < q.col.toNat + q.width.toNat := by
  simp [WallMqttRow.covers]

theorem WallMqttRow.width_of_covers {q : WallMqttRow} {c : Nat} (h : q.covers c = true) :
    q.width ≠ 0 := by
  rintro hzero
  obtain ⟨hfrom, hto⟩ := (q.covers_iff c).mp h
  rw [hzero] at hto
  exact absurd hto (Nat.not_lt.mpr hfrom)

/-- No board reaches beyond the last column. -/
theorem WallMqttRow.reach_le (q : WallMqttRow) : q.col.toNat + q.width.toNat ≤ COLUMNS := by
  have hcol : q.col.toNat < 256 := q.col.toNat_lt
  have hwidth : q.width.toNat < 256 := q.width.toNat_lt
  show _ ≤ 510
  omega

/-- Two boards with flaps on one grid row hang apart or are mirrors; each text has the board's
width. -/
structure Hangs (rows : List WallMqttRow) : Prop where
  apart : ∀ a ∈ rows, ∀ b ∈ rows, a.width ≠ 0 → b.width ≠ 0 → a.row = b.row →
    (a.col = b.col ∧ a.width = b.width) ∨ a.col.toNat + a.width.toNat ≤ b.col.toNat ∨
      b.col.toNat + b.width.toNat ≤ a.col.toNat
  fits : ∀ q ∈ rows, q.text.length = q.width.toNat

/-- What is found first among more, and is among the fewer, is found first among these. -/
theorem find?_of_imp {p p' : WallMqttRow → Bool} {q : WallMqttRow} (h : rows.find? p = some q)
    (hq : p' q = true) (himp : ∀ o ∈ rows, p' o = true → p o = true) :
    rows.find? p' = some q := by
  obtain ⟨_, before, after, hrows, hbefore⟩ := List.find?_eq_some_iff_append.mp h
  refine List.find?_eq_some_iff_append.mpr ⟨hq, before, after, hrows, fun o ho => ?_⟩
  have hmem : o ∈ rows := hrows ▸ List.mem_append_left _ ho
  have hnot := hbefore o ho
  rw [Bool.not_eq_true'] at hnot ⊢
  exact Bool.eq_false_iff.mpr fun ho' => Bool.eq_false_iff.mp hnot (himp o hmem ho')

section Hanging

variable (h : Hangs rows) {q : WallMqttRow} (hq : q ∈ rows) {r c : Nat}
include h

/-- Two boards that have a flap in one column are at one place. -/
theorem Hangs.place {o : WallMqttRow} (hq : q ∈ rows) (ho : o ∈ rows) (hrow : q.row.toNat = r)
    (horow : o.row.toNat = r) (hcovers : q.covers c = true) (hocovers : o.covers c = true) :
    (o.row = q.row ∧ o.col = q.col) ∧ o.width = q.width := by
  have hsame : o.row = q.row := UInt8.toNat_inj.mp (horow.trans hrow.symm)
  obtain ⟨hfrom, hto⟩ := (q.covers_iff c).mp hcovers
  obtain ⟨hofrom, hoto⟩ := (o.covers_iff c).mp hocovers
  obtain hspan | hleft | hright := h.apart o ho q hq (WallMqttRow.width_of_covers hocovers)
    (WallMqttRow.width_of_covers hcovers) hsame
  · exact ⟨⟨hsame, hspan.1⟩, hspan.2⟩
  · omega
  · omega

/-- A board of the row that begins behind another begins behind its end; one that does not ends
with it at the latest. -/
theorem Hangs.follows {o : WallMqttRow} (hq : q ∈ rows) (ho : o ∈ rows)
    (hshown : isShown rows q = true) (hoshown : isShown rows o = true)
    (hrow : o.row.toNat = q.row.toNat) :
    (q.col.toNat < o.col.toNat → q.col.toNat + q.width.toNat ≤ o.col.toNat) ∧
      (o.col.toNat ≤ q.col.toNat →
        o.col.toNat + o.width.toNat ≤ q.col.toNat + q.width.toNat) := by
  have hwidth : q.width ≠ 0 := of_decide_eq_true (Bool.and_eq_true_iff.mp hshown).1
  have howidth : o.width ≠ 0 := of_decide_eq_true (Bool.and_eq_true_iff.mp hoshown).1
  have hflaps : q.width.toNat ≠ 0 := mt (fun h => UInt8.toNat_inj.mp h) hwidth
  obtain ⟨hcol, hsame⟩ | hleft | hright :=
    h.apart o ho q hq howidth hwidth (UInt8.toNat_inj.mp hrow)
  · rw [hcol, hsame]
    omega
  · omega
  · omega

include hq

/-- In the columns of a shown board both the line and the wall have its text. -/
theorem Hangs.cells_of_shown (hshown : isShown rows q = true) (hrow : q.row.toNat = r)
    (hcovers : q.covers c = true) :
    gridCell rows r c = q.text[c - q.col.toNat]? ∧
      shownCell rows r c = q.text[c - q.col.toNat]? := by
  have hfirst := of_decide_eq_true (Bool.and_eq_true_iff.mp hshown).2
  have hplace (o : WallMqttRow) (ho : o ∈ rows)
      (hthere : (decide (o.row.toNat = r) && o.covers c) = true) :
      (decide (o.row = q.row) && decide (o.col = q.col)) = true := by
    rw [Bool.and_eq_true, decide_eq_true_eq] at hthere
    obtain ⟨hplace, -⟩ := h.place hq ho hrow hthere.1 hcovers hthere.2
    rw [Bool.and_eq_true, decide_eq_true_eq, decide_eq_true_eq]
    exact hplace
  have hthere : (decide (q.row.toNat = r) && q.covers c) = true := by
    rw [Bool.and_eq_true, decide_eq_true_eq]
    exact ⟨hrow, hcovers⟩
  constructor
  · unfold gridCell
    rw [find?_of_imp hfirst hthere hplace, Option.bind_some]
  · unfold shownCell
    rw [find?_of_imp hfirst (Bool.and_eq_true_iff.mpr ⟨hshown, hthere⟩)
      fun o ho hboth => hplace o ho (Bool.and_eq_true_iff.mp hboth).2, Option.bind_some]

omit hq in
/-- A line shows nothing that is not the wall's. -/
theorem Hangs.shownCell_le (r c : Nat) :
    shownCell rows r c = none ∨ shownCell rows r c = gridCell rows r c := by
  cases hfound : rows.find? fun q => isShown rows q && (q.row.toNat = r && q.covers c) with
  | none =>
      left
      unfold shownCell
      rw [hfound]
      rfl
  | some q =>
      right
      have hthere := List.find?_some hfound
      rw [Bool.and_eq_true, Bool.and_eq_true, decide_eq_true_eq] at hthere
      obtain ⟨hshown, hrow, hcovers⟩ := hthere
      obtain ⟨hgrid, hline⟩ :=
        h.cells_of_shown (List.mem_of_find?_eq_some hfound) hshown hrow hcovers
      exact hline.trans hgrid.symm

omit h hq in
/-- A column of a grid row in which the line shows no board. -/
theorem shownCell_none (hnone : ∀ o ∈ rows, isShown rows o = true → o.row.toNat = r →
    o.covers c = false) : shownCell rows r c = none := by
  unfold shownCell
  rw [List.find?_eq_none.mpr, Option.bind_none]
  intro o ho hboth
  rw [Bool.and_eq_true, Bool.and_eq_true, decide_eq_true_eq] at hboth
  obtain ⟨hshown, hrow, hcovers⟩ := hboth
  rw [hnone o ho hshown hrow] at hcovers
  cases hcovers

omit h hq in
/-- Behind the last board of a line it shows none. -/
theorem blank_behind {lastCol : Int} {b n : Nat}
    (hbefore : ∀ o ∈ rows, isShown rows o = true → o.row.toNat = r → o.col.toNat ≤ lastCol →
      o.col.toNat + o.width.toNat ≤ b)
    (hall : ∀ o ∈ rows, o.row.toNat = r → o.col.toNat ≤ lastCol) :
    readColumns (shownCell rows r) b n = [] := by
  refine readColumns_blank fun c hfrom _ => shownCell_none fun o ho hshown hrow => ?_
  have hreach := hbefore o ho hshown hrow (hall o ho hrow)
  rw [Bool.eq_false_iff]
  intro hcovers
  have hto := ((o.covers_iff c).mp hcovers).2
  omega

omit hq in
/-- **A line is what it shows, read column by column**: from `lastCol` on, when the boards that
began by then reach no further than column `b` and the others begin there or behind. -/
theorem Hangs.lineFrom_eq {boards : Nat} {lastCol : Int} {b : Nat} (hb : b ≤ COLUMNS)
    (hboards : 255 ≤ boards + lastCol)
    (hbefore : ∀ o ∈ rows, isShown rows o = true → o.row.toNat = r → o.col.toNat ≤ lastCol →
      o.col.toNat + o.width.toNat ≤ b)
    (hbehind : ∀ o ∈ rows, isShown rows o = true → o.row.toNat = r → lastCol < o.col.toNat →
      b ≤ o.col.toNat) :
    lineFrom rows r boards lastCol = readColumns (shownCell rows r) b (COLUMNS - b) := by
  induction boards generalizing lastCol b with
  | zero =>
      refine (blank_behind hbefore fun o _ _ => ?_).symm
      have hcol : o.col.toNat < 256 := o.col.toNat_lt
      omega
  | succ boards ih =>
      unfold lineFrom
      cases hnext : nextBoard rows r lastCol with
      | none => exact (blank_behind hbefore fun o ho hrow => nextBoard_none hnext ho hrow).symm
      | some q =>
          have hq := nextBoard_some hnext
          have hmoved := hq.behind
          have hlength := h.fits q hq.mem
          dsimp only
          by_cases hwidth : q.width = 0
          · -- a board without flaps writes nothing, and the line shows none at its place
            rw [List.eq_nil_of_length_eq_zero (hlength.trans (by rw [hwidth]; rfl)),
              List.nil_append]
            refine ih hb (by omega) (fun o ho hshown hrow hle => ?_)
              fun o ho hshown hrow hlt => hbehind o ho hshown hrow (by omega)
            by_cases hold : o.col.toNat ≤ lastCol
            · exact hbefore o ho hshown hrow hold
            · have hleast := hq.least o ho hrow (Int.not_le.mp hold)
              have hplace : o.row = q.row ∧ o.col = q.col :=
                ⟨UInt8.toNat_inj.mp (hrow.trans hq.onLine.symm), UInt8.toNat_inj.mp (by omega)⟩
              obtain ⟨howidth, hfirst⟩ := Bool.and_eq_true_iff.mp hshown
              have hsame := (of_decide_eq_true hfirst).symm.trans
                ((congrArg₂ (firstAt rows) hplace.1 hplace.2).trans hq.first)
              rw [Option.some.inj hsame] at howidth
              exact absurd hwidth (of_decide_eq_true howidth)
          · have hshown : isShown rows q = true :=
              Bool.and_eq_true_iff.mpr ⟨decide_eq_true hwidth, decide_eq_true hq.first⟩
            have hstart := hbehind q hq.mem hshown hq.onLine hq.behind
            have hreach := q.reach_le
            have hgap : readColumns (shownCell rows r) b (q.col.toNat - b) = [] := by
              refine readColumns_blank fun c hfrom hto => shownCell_none fun o ho hoshown hrow => ?_
              rw [Bool.eq_false_iff]
              intro hcovers
              obtain ⟨hofrom, hoto⟩ := (o.covers_iff c).mp hcovers
              by_cases hold : o.col.toNat ≤ lastCol
              · have hoend := hbefore o ho hoshown hrow hold
                omega
              · have hleast := hq.least o ho hrow (Int.not_le.mp hold)
                omega
            have htext : readColumns (shownCell rows r) q.col.toNat q.text.length = q.text := by
              refine readColumns_text fun k hk => ?_
              have hcovers := (q.covers_iff (q.col.toNat + k)).mpr ⟨Nat.le_add_right _ _, by omega⟩
              rw [(h.cells_of_shown hq.mem hshown hq.onLine hcovers).2, Nat.add_sub_cancel_left]
            have hsplit : COLUMNS - b = (q.col.toNat - b) +
                (q.text.length + (COLUMNS - (q.col.toNat + q.width.toNat))) := by omega
            rw [hsplit, readColumns_add, hgap, List.nil_append, Nat.add_sub_cancel' hstart,
              readColumns_add, htext, hlength]
            congr 1
            refine ih hreach (by omega) (fun o ho hoshown hrow hle => ?_)
              fun o ho hoshown hrow hlt => ?_
            · exact (h.follows hq.mem ho hshown hoshown (hrow.trans hq.onLine.symm)).2 (by omega)
            · exact (h.follows hq.mem ho hshown hoshown (hrow.trans hq.onLine.symm)).1 (by omega)

end Hanging

/-- A whole line. -/
theorem Hangs.lineText_eq (h : Hangs rows) (r : Nat) :
    lineText rows r = readColumns (shownCell rows r) 0 COLUMNS := by
  refine h.lineFrom_eq (Nat.zero_le _) (by omega) (fun o _ _ _ hle => ?_) fun o _ _ _ _ =>
    Nat.zero_le _
  have hcol : (0 : Int) ≤ o.col.toNat := Int.natCast_nonneg _
  omega

/-! ## §5. The lines. -/

theorem maxRow_snoc (rows : List WallMqttRow) (q : WallMqttRow) :
    maxRow (rows ++ [q]) =
      if maxRow rows < q.row.toNat then (q.row.toNat : Int) else maxRow rows := by
  unfold maxRow
  rw [List.foldl_append, List.foldl_cons, List.foldl_nil]

/-- The last row that any board names. -/
theorem maxRow_spec (rows : List WallMqttRow) :
    (∀ q ∈ rows, (q.row.toNat : Int) ≤ maxRow rows) ∧
      (maxRow rows = -1 ∨ ∃ q ∈ rows, maxRow rows = q.row.toNat) := by
  induction rows using List.reverseRecOn with
  | nil => exact ⟨(fun q hq => nomatch hq), .inl rfl⟩
  | append_singleton rows p ih =>
      obtain ⟨hle, hlast⟩ := ih
      rw [maxRow_snoc]
      constructor
      · intro q hq
        obtain hq | hq := List.mem_append.mp hq
        · have hq := hle q hq
          split <;> omega
        · rw [List.mem_singleton.mp hq]
          split <;> omega
      · split
        · exact .inr ⟨p, List.mem_append_right _ (List.mem_singleton_self p), rfl⟩
        · obtain hnone | ⟨q, hq, hrow⟩ := hlast
          · exact .inl hnone
          · exact .inr ⟨q, List.mem_append_left _ hq, hrow⟩

/-- One more line. -/
theorem intercalate_snoc (sep line : CStr) {lines : List CStr} (h : lines ≠ []) :
    sep.intercalate (lines ++ [line]) = sep.intercalate lines ++ sep ++ line := by
  induction lines with
  | nil => exact absurd rfl h
  | cons first lines ih =>
      cases lines with
      | nil =>
          show sep.intercalate [first, line] = _
          rw [List.intercalate_cons_cons, List.intercalate_singleton, List.intercalate_singleton]
      | cons second lines =>
          have hrest : second :: lines ≠ [] := List.cons_ne_nil _ _
          rw [List.cons_append, List.intercalate_cons_of_ne_nil (List.append_ne_nil_of_left_ne_nil
            hrest _), ih hrest, List.intercalate_cons_of_ne_nil hrest]
          simp only [List.append_assoc]

/-- The text is its lines, with a line feed between any two. -/
theorem wholeText_eq (rows : List WallMqttRow) :
    wholeText rows =
      [10].intercalate ((List.range (maxRow rows + 1).toNat).map (lineText rows)) := by
  unfold wholeText
  generalize (maxRow rows + 1).toNat = lines
  induction lines with
  | zero => rfl
  | succ n ih =>
      rw [List.range_succ, List.foldl_append, ih, List.map_append, List.foldl_cons, List.foldl_nil]
      cases n with
      | zero => exact List.intercalate_singleton.symm
      | succ n =>
          rw [if_pos (Nat.zero_lt_succ n), List.map_singleton, intercalate_snoc]
          exact List.ne_nil_of_length_eq_add_one (by rw [List.length_map, List.length_range])

/-! ## §6. The wall's rows. -/

/-- The boards of the text are the table's, each with its own text. -/
theorem rows_of_table {rows : List WallRowDef} {texts : List CStr}
    (h : List.Forall₂ (fun r text => text.length = r.width.toNat) rows texts) :
    (∀ q ∈ List.zipWith mqttRow rows texts, q.text.length = q.width.toNat ∧
        ∃ r ∈ rows, r.row = q.row ∧ r.col = q.col ∧ r.width = q.width) ∧
      ∀ r ∈ rows, ∃ q ∈ List.zipWith mqttRow rows texts,
        q.row = r.row ∧ q.col = r.col ∧ q.width = r.width := by
  induction h with
  | nil => exact ⟨(fun q hq => nomatch hq), fun r hr => nomatch hr⟩
  | cons hlength _ ih =>
      obtain ⟨hback, hforth⟩ := ih
      rw [List.zipWith_cons_cons]
      constructor
      · intro q hq
        obtain rfl | hq := List.mem_cons.mp hq
        · exact ⟨hlength, _, List.mem_cons_self, rfl, rfl, rfl⟩
        · obtain ⟨hfits, r, hr, hsame⟩ := hback q hq
          exact ⟨hfits, r, List.mem_cons_of_mem _ hr, hsame⟩
      · intro r hr
        obtain rfl | hr := List.mem_cons.mp hr
        · exact ⟨_, List.mem_cons_self, rfl, rfl, rfl⟩
        · obtain ⟨q, hq, hsame⟩ := hforth r hr
          exact ⟨q, List.mem_cons_of_mem _ hq, hsame⟩

namespace HungWall

variable (w : HungWall)

/-- Each board of the text is one of the table's. -/
theorem board_of_row {q : WallMqttRow} (hq : q ∈ w.rows) :
    ∃ r ∈ w.table.rows, r.row = q.row ∧ r.col = q.col ∧ r.width = q.width :=
  ((rows_of_table w.fits).1 q hq).2

theorem hangs : Hangs w.rows where
  fits := fun q hq => ((rows_of_table w.fits).1 q hq).1
  apart := by
    intro a ha b hb hawidth hbwidth hrow
    obtain ⟨r, hr, hrrow, hrcol, hrwidth⟩ := w.board_of_row ha
    obtain ⟨s, hs, hsrow, hscol, hswidth⟩ := w.board_of_row hb
    have hspans := (validate_cases (wallRowsValidate_ok.mp w.valid).2).1
    have hapart : spansOverlap r.span s.span = false := apart_of_mem hspans
      (List.mem_map_of_mem (f := WallRowDef.span) hr) (List.mem_map_of_mem hs)
    have hcases := apart_cases hapart (fun hzero => hawidth (hrwidth.symm.trans hzero))
      (fun hzero => hbwidth (hswidth.symm.trans hzero)) (hrrow.trans (hrow.trans hsrow.symm))
    rw [← hrcol, ← hrwidth, ← hscol, ← hswidth]
    exact hcases

/-- The last row of the grid is the last with a board that has flaps. -/
theorem rows_spec : (∀ q ∈ w.rows, q.width ≠ 0 → q.row.toNat < w.grid.rows) ∧
    ∃ q ∈ w.rows, q.width ≠ 0 ∧ q.row.toNat + 1 = w.grid.rows := by
  obtain ⟨-, top, htop, hgrid⟩ := validate_cases (wallRowsValidate_ok.mp w.valid).2
  have hrows : w.grid.rows = top + 1 := by rw [hgrid]; rfl
  obtain ⟨⟨r, hr, hwidth, hrow⟩, hmost⟩ := maxRow_some htop
  constructor
  · intro q hq hflaps
    obtain ⟨s, hs, hsrow, -, hswidth⟩ := w.board_of_row hq
    have hle := hmost s hs (hswidth ▸ hflaps)
    rw [hsrow] at hle
    omega
  · obtain ⟨q, hq, hqrow, -, hqwidth⟩ := (rows_of_table w.fits).2 r hr
    refine ⟨q, hq, hqwidth ▸ hwidth, ?_⟩
    rw [hqrow, hrow, hrows]

end HungWall

/-! ## §7. What the text comes to. -/

/-- Where a board has a flap the wall has a character. -/
theorem Hangs.gridCell_some (h : Hangs rows) {q : WallMqttRow} (hq : q ∈ rows) {c : Nat}
    (hcovers : q.covers c = true) : ∃ a, gridCell rows q.row.toNat c = some a := by
  have hfound : (rows.find? fun o => o.row.toNat = q.row.toNat && o.covers c).isSome := by
    rw [List.find?_isSome]
    exact ⟨q, hq, by rw [decide_eq_true rfl, hcovers]; rfl⟩
  obtain ⟨o, ho⟩ := Option.isSome_iff_exists.mp hfound
  have hthere := List.find?_some ho
  have hocovers := (Bool.and_eq_true_iff.mp hthere).2
  obtain ⟨hfrom, hto⟩ := (o.covers_iff c).mp hocovers
  have hlength := h.fits o (List.mem_of_find?_eq_some ho)
  unfold gridCell
  rw [ho, Option.bind_some]
  exact ⟨_, List.getElem?_eq_getElem (by omega)⟩

/-- What the wall has in a column comes from a board that has a flap there. -/
theorem gridCell_board {r c : Nat} {a : UInt8} (h : gridCell rows r c = some a) :
    ∃ q ∈ rows, q.row.toNat = r ∧ q.covers c = true := by
  unfold gridCell at h
  obtain ⟨q, hq, -⟩ := Option.bind_eq_some_iff.mp h
  have hthere := List.find?_some hq
  rw [Bool.and_eq_true, decide_eq_true_eq] at hthere
  exact ⟨q, List.mem_of_find?_eq_some hq, hthere⟩

/-- A line shows all that its row has, where the first board of each place has flaps. -/
theorem Hangs.shows_all (h : Hangs rows)
    (hplaces : ∀ q ∈ rows, q.width ≠ 0 → ∀ o, firstAt rows q.row q.col = some o → o.width ≠ 0)
    (r c : Nat) : shownCell rows r c = gridCell rows r c := by
  obtain hnone | hsame := h.shownCell_le r c
  · cases hcell : gridCell rows r c with
    | none => exact hnone
    | some a =>
        obtain ⟨q, hq, hrow, hcovers⟩ := gridCell_board hcell
        have hwidth := WallMqttRow.width_of_covers hcovers
        have hfound : (rows.find? fun o => o.row = q.row && o.col = q.col).isSome := by
          rw [List.find?_isSome]
          exact ⟨q, hq, by simp⟩
        obtain ⟨o, hfirst⟩ := Option.isSome_iff_exists.mp hfound
        have hflaps := hplaces q hq hwidth o hfirst
        have ho := List.mem_of_find?_eq_some hfirst
        have hplace := List.find?_some hfirst
        rw [Bool.and_eq_true, decide_eq_true_eq, decide_eq_true_eq] at hplace
        have hshown : isShown rows o = true := by
          unfold isShown firstAt
          rw [hplace.1, hplace.2, hfirst, decide_eq_true hflaps, decide_eq_true rfl]
          rfl
        -- the first board of the place is as wide
        have hocovers : o.covers c = true := by
          obtain ⟨hfrom, hto⟩ := (q.covers_iff c).mp hcovers
          have hpos : o.width.toNat ≠ 0 := mt (fun h => UInt8.toNat_inj.mp h) hflaps
          rw [WallMqttRow.covers_iff, hplace.2]
          obtain ⟨-, hsame⟩ | hleft | hright := h.apart o ho q hq hflaps hwidth hplace.1
          · rw [hsame]
            exact ⟨hfrom, hto⟩
          · rw [hplace.2] at hleft
            omega
          · rw [hplace.2] at hright
            omega
        have hcells := h.cells_of_shown ho hshown (hplace.1 ▸ hrow) hocovers
        rw [hcells.2, ← hcells.1, hcell]
  · exact hsame

namespace HungWall

variable (w : HungWall)

/-- The wall has a character exactly where the grid has a flap. -/
theorem gridCell_isSome (r c : Nat) :
    (gridCell w.rows r c).isSome = owned (wallRowsLayout w.table) r c := by
  rw [Bool.eq_iff_iff, owned_iff]
  constructor
  · intro hsome
    obtain ⟨a, ha⟩ := Option.isSome_iff_exists.mp hsome
    obtain ⟨q, hq, hrow, hcovers⟩ := gridCell_board ha
    obtain ⟨s, hs, hsrow, hscol, hswidth⟩ := w.board_of_row hq
    have hwidth := WallMqttRow.width_of_covers hcovers
    rw [WallMqttRow.covers_iff] at hcovers
    rw [← hsrow] at hrow
    rw [← hscol, ← hswidth] at hcovers
    rw [← hswidth] at hwidth
    exact ⟨s.span, List.mem_map_of_mem hs, hwidth, hrow, hcovers⟩
  · rintro ⟨m, hm, hwidth, hrow, hfrom, hto⟩
    obtain ⟨s, hs, rfl⟩ := List.mem_map.mp hm
    obtain ⟨q, hq, hqrow, hqcol, hqwidth⟩ := (rows_of_table w.fits).2 s hs
    have hcovers : q.covers c = true := by
      rw [WallMqttRow.covers_iff, hqcol, hqwidth]
      exact ⟨hfrom, hto⟩
    obtain ⟨a, ha⟩ := w.hangs.gridCell_some hq hcovers
    rw [show q.row.toNat = r by rw [hqrow]; exact hrow] at ha
    rw [ha]
    rfl

/-- A row of the wall is as long as the grid's row is wide. -/
theorem gridLine_length (r : Nat) : (gridLine w.rows r).length = w.grid.rowWidth r := by
  obtain ⟨hspans, top, -, hgrid⟩ := validate_cases (wallRowsValidate_ok.mp w.valid).2
  have hrank : w.grid.rowWidth r = Ranks.rank (owned (wallRowsLayout w.table) r) COLUMNS := by
    rw [hgrid]
    exact rowWidth_rank hspans r
  rw [hrank]
  unfold gridLine readColumns Ranks.rank
  rw [List.length_filterMap_eq_countP, List.range_eq_range']
  exact List.countP_congr fun c _ => by rw [w.gridCell_isSome]

/-- The lines of the text. -/
theorem wholeText_lines : wholeText w.rows = [10].intercalate
    ((List.range (maxRow w.rows + 1).toNat).map fun r =>
      readColumns (shownCell w.rows r) 0 COLUMNS) := by
  rw [wholeText_eq]
  congr 1
  exact List.map_congr_left fun r _ => w.hangs.lineText_eq r

/-- There is a line for each row of the grid, at the least. -/
theorem rows_le_lines : w.grid.rows ≤ (maxRow w.rows + 1).toNat ∧ 0 < w.grid.rows := by
  obtain ⟨-, q, hq, -, hlast⟩ := w.rows_spec
  have hle := (maxRow_spec w.rows).1 q hq
  omega

/-- The text split at its line feeds is its lines, where no flap shows one. -/
theorem splitOn_lines (hplain : ∀ r c, gridCell w.rows r c ≠ some 10) :
    (wholeText w.rows).splitOn 10 = (List.range (maxRow w.rows + 1).toNat).map fun r =>
      readColumns (shownCell w.rows r) 0 COLUMNS := by
  have hlines := w.rows_le_lines
  rw [wholeText_lines, List.splitOn_intercalate]
  · intro line hline hfeed
    obtain ⟨r, -, rfl⟩ := List.mem_map.mp hline
    obtain ⟨c, -, hcell⟩ := mem_readColumns.mp hfeed
    obtain hnone | hsame := w.hangs.shownCell_le r c
    · rw [hnone] at hcell
      cases hcell
    · exact hplain r c (hsame.symm.trans hcell)
  · exact List.ne_nil_of_length_pos (by rw [List.length_map, List.length_range]; omega)

/-- **The text is the wall as it hangs, line by line, exactly where no board without flaps is below
the grid or first at the place of another, and no flap shows a line feed.** -/
theorem reads_as_it_hangs_iff : ReadsAsItHangs w ↔ NothingInTheWay w := by
  have hlines := w.rows_le_lines
  constructor
  · intro hreads
    unfold ReadsAsItHangs at hreads
    have hplain (r c : Nat) : gridCell w.rows r c ≠ some 10 := by
      intro hfeed
      obtain ⟨q, hq, hrow, hcovers⟩ := gridCell_board hfeed
      have hr := w.rows_spec.1 q hq (WallMqttRow.width_of_covers hcovers)
      have hpiece : gridLine w.rows r ∈ (wholeText w.rows).splitOn 10 := by
        rw [hreads]
        exact List.mem_map_of_mem (List.mem_range.mpr (hrow ▸ hr))
      have hto := ((q.covers_iff c).mp hcovers).2
      have hreach := q.reach_le
      exact not_mem_piece hpiece (mem_readColumns.mpr ⟨c, ⟨Nat.zero_le _, by omega⟩, hfeed⟩)
    rw [w.splitOn_lines hplain] at hreads
    have hcount : (maxRow w.rows + 1).toNat = w.grid.rows := by
      have hlength := congrArg List.length hreads
      rwa [List.length_map, List.length_map, List.length_range, List.length_range] at hlength
    rw [hcount] at hreads
    refine ⟨?_, ?_, hplain⟩
    · intro q hq _
      have hle := (maxRow_spec w.rows).1 q hq
      omega
    · intro q hq hwidth o hfirst hzero
      have hr := w.rows_spec.1 q hq hwidth
      have hline := List.map_inj_left.mp hreads q.row.toNat (List.mem_range.mpr hr)
      have hpos : q.width.toNat ≠ 0 := mt (fun h => UInt8.toNat_inj.mp h) hwidth
      have hcovers : q.covers q.col.toNat = true :=
        (q.covers_iff _).mpr ⟨Nat.le_refl _, by omega⟩
      have hreach := q.reach_le
      have hcell := readColumns_eq_of_le (w.hangs.shownCell_le q.row.toNat) hline
        (show q.col.toNat < COLUMNS by omega)
      obtain ⟨a, ha⟩ := w.hangs.gridCell_some hq hcovers
      have hnone : shownCell w.rows q.row.toNat q.col.toNat = none := by
        refine shownCell_none fun p hp hshown hrow => Bool.eq_false_iff.mpr fun hpcovers => ?_
        obtain ⟨hplace, -⟩ := w.hangs.place hq hp rfl hrow hcovers hpcovers
        obtain ⟨hflaps, hpfirst⟩ := Bool.and_eq_true_iff.mp hshown
        have hsame := (of_decide_eq_true hpfirst).symm.trans
          ((congrArg₂ (firstAt w.rows) hplace.1 hplace.2).trans hfirst)
        rw [Option.some.inj hsame, hzero] at hflaps
        exact of_decide_eq_true hflaps rfl
      rw [hnone, ha] at hcell
      cases hcell
  · intro hclear
    have hcount : (maxRow w.rows + 1).toNat = w.grid.rows := by
      obtain hnone | ⟨q, hq, hlast⟩ := (maxRow_spec w.rows).2
      · omega
      · have hq : q.row.toNat < w.grid.rows := by
          by_cases hwidth : q.width = 0
          · exact hclear.low q hq hwidth
          · exact w.rows_spec.1 q hq hwidth
        omega
    unfold ReadsAsItHangs
    rw [w.splitOn_lines hclear.plain, hcount]
    exact List.map_congr_left fun r _ =>
      readColumns_congr (w.hangs.shows_all hclear.places r) 0 COLUMNS

end HungWall

/-- A board on standby before the master's own row, at the place that both have by default. -/
def standbyFirst : WallRowsTable where
  rows := [{ id := ascii "spare", host := ascii "192.168.1.20" }, { width := 4 }]

/-- The wall's only row is left out: the board on standby is taken for its place. -/
theorem standby_hides_row : ∃ w : HungWall, w.table = standbyFirst ∧
    w.texts = [[], ascii "RAIN"] ∧ ¬ReadsAsItHangs w := by
  cases hgrid : wallRowsValidate standbyFirst with
  | error message =>
      have hok : (wallRowsValidate standbyFirst).isOk = true := by decide +kernel
      rw [hgrid] at hok
      cases hok
  | ok grid =>
      have hfits : List.Forall₂ (fun r text => text.length = r.width.toNat) standbyFirst.rows
          [[], ascii "RAIN"] := .cons rfl (.cons rfl .nil)
      refine ⟨⟨standbyFirst, grid, hgrid, _, hfits⟩, rfl, rfl, ?_⟩
      intro hreads
      have hsome := (HungWall.rows_le_lines ⟨standbyFirst, grid, hgrid, _, hfits⟩).2
      have hfirst : gridLine (List.zipWith mqttRow standbyFirst.rows [[], ascii "RAIN"]) 0 ∈
          (wholeText (List.zipWith mqttRow standbyFirst.rows [[], ascii "RAIN"])).splitOn 10 := by
        unfold ReadsAsItHangs at hreads
        exact hreads ▸ List.mem_map_of_mem (List.mem_range.mpr hsome)
      exact absurd hfirst (by decide +kernel)

end SplitFlap.StateText
