/-
  SplitFlap.Wall.Layout — which piece of a text each board of the wall shows.

  `ClusterLayout.h`: every board owns a span of one row's columns; boards with
  the same span are mirrors.  A row may have gaps, and no text lands in one: a
  row's width counts the columns that have flaps, its text is wrapped and
  aligned to that, and cut into the boards' pieces from the left.
-/
import Mathlib.Data.List.Basic
import Mathlib.Logic.Function.Basic
import SplitFlap.Wall.Boards

namespace SplitFlap

abbrev CLUSTER_MAX_MEMBERS : Nat := 8

inductive DisplayAlignment where
  | left
  | center
  | right
  deriving Repr, DecidableEq

/-- The bytes of an ASCII literal. -/
def ascii (s : String) : CStr := s.toList.map fun c => c.toNat.toUInt8

/-- `displayAlignmentFromString`. -/
def displayAlignmentFromString (v : CStr) : DisplayAlignment :=
  if v = ascii "center" then .center else if v = ascii "right" then .right else .left

/-- A board of the layout; the master's own has no address. -/
structure ClusterMemberDef where
  host : CStr := []
  row : UInt8 := 0
  col : UInt8 := 0
  width : UInt8 := 0
  deriving Repr, DecidableEq

abbrev ClusterMemberTable := List ClusterMemberDef

/-- What a valid table comes to: its rows, and for each the columns with flaps
and how far it reaches. -/
structure ClusterGrid where
  rows : Nat
  rowWidth : Nat → Nat
  rowExtent : Nat → Nat

/-! ## §1. The grid. -/

/-- `clusterSpanIsFirst`: mirrors share one span, and only the first counts. -/
def clusterSpanIsFirst (table : ClusterMemberTable) (i : Nat) (m : ClusterMemberDef) : Bool :=
  !(table.take i).any fun o => o.width ≠ 0 && o.row = m.row && o.col = m.col

/-- The sum of the widths of the spans `which` picks, each counted once. -/
def spanSum (table : ClusterMemberTable) (which : ClusterMemberDef → Bool) : Nat :=
  (table.zipIdx.map fun (m, i) =>
    if m.width ≠ 0 && which m && clusterSpanIsFirst table i m then m.width.toNat else 0).sum

/-- `clusterTextOffset`: how many columns with flaps lie left of `col`. -/
def clusterTextOffset (table : ClusterMemberTable) (row col : UInt8) : Nat :=
  spanSum table fun m => m.row = row && m.col < col

/-- The last row that has a board. -/
def maxRow (table : ClusterMemberTable) : Option Nat :=
  ((table.filter fun m => m.width ≠ 0).map (·.row.toNat)).max?

/-- Neither the same span nor apart. -/
def spansOverlap (a b : ClusterMemberDef) : Bool :=
  a.width ≠ 0 && b.width ≠ 0 && b.row = a.row && !(a.col = b.col && a.width = b.width) &&
    a.col.toNat < b.col.toNat + b.width.toNat && b.col.toNat < a.col.toNat + a.width.toNat

/-- Do two members of the table overlap? -/
def membersOverlap : ClusterMemberTable → Bool
  | [] => false
  | a :: rest => rest.any (spansOverlap a) || membersOverlap rest

def gridOf (table : ClusterMemberTable) (rows : Nat) : ClusterGrid where
  rows := rows
  rowWidth := fun r => spanSum table fun m => m.row.toNat = r
  rowExtent := fun r =>
    (table.filter fun m => m.width ≠ 0 && m.row.toNat = r).foldl
      (fun extent m => max extent (m.col.toNat + m.width.toNat)) 0

/-- `validateMemberTable`: the grid, or the message for the operator. -/
def validateMemberTable (table : ClusterMemberTable) : Except String ClusterGrid :=
  if table.isEmpty then .error "Member table is empty"
  else if CLUSTER_MAX_MEMBERS < table.length then .error "Too many members (max 8)"
  else if table.any fun m => CLUSTER_MAX_MEMBERS ≤ m.row.toNat then
    .error "Row index beyond the member cap"
  else
    match maxRow table with
    | none => .error "No rendering members (all off-grid)"
    | some top =>
        if membersOverlap table then .error "Members overlap"
        else if (List.range (top + 1)).any fun r => (gridOf table 0).rowWidth r = 0 then
          .error "Rows must be contiguous from 0"
        else .ok (gridOf table (top + 1))

/-- `wallRowsLayout`. -/
def wallRowsLayout (table : WallRowsTable) : ClusterMemberTable :=
  table.rows.map fun d =>
    { host := if wallRowIsOwn d then [] else ascii "row"
      row := d.row
      col := d.col
      width := d.width }

/-! ## §2. Rows of text. -/

/-- `clusterAlignRow`: exactly `width` characters. -/
def clusterAlignRow (rowText : CStr) (width : Nat) (align : DisplayAlignment) : CStr :=
  let len := min rowText.length width
  let lead :=
    match align with
    | .right => width - len
    | .center => (width - len) / 2
    | .left => 0
  List.replicate lead 32 ++ rowText.take len ++ List.replicate (width - len - lead) 32

/-- The composer's line break, a backslash and an `n`, as the character. -/
def replaceBreaks : CStr → CStr
  | 92 :: 110 :: rest => 10 :: replaceBreaks rest
  | c :: rest => c :: replaceBreaks rest
  | [] => []

/-- A row's text, with the blank that joins another word to it. -/
def joined (line : CStr) : CStr := if line = [] then [] else line ++ [32]

/-- `clusterWrapRows`, a word wider than its whole row: it fills what is left
there and goes on in the rows below. -/
def hardSplit (grid : ClusterGrid) (word : CStr) (row : Nat) (rows : Nat → CStr) :
    Nat × (Nat → CStr) :=
  if word = [] ∨ grid.rows ≤ row then (row, rows)
  else if rows row ≠ [] ∧ grid.rowWidth row ≤ (rows row).length + 1 then
    hardSplit grid word (row + 1) rows
  else
    let line := joined (rows row)
    let taken := grid.rowWidth row - line.length
    let rows := Function.update rows row (line ++ word.take taken)
    if word.drop taken = [] then (row, rows) else hardSplit grid (word.drop taken) (row + 1) rows
termination_by grid.rows - row

/-- Neither a blank nor a line break. -/
def inWord (c : UInt8) : Bool := c ≠ 32 && c ≠ 10

/-- `clusterWrapRows`, its loop over the words. -/
def wrapFrom (grid : ClusterGrid) (text : CStr) (row : Nat) (rows : Nat → CStr) : Nat → CStr :=
  if grid.rows ≤ row then rows
  else
    match h : text.dropWhile (· = 32) with
    | [] => rows
    | c :: rest =>
        if c = 10 then wrapFrom grid rest (row + 1) rows
        else
          let word := c :: rest.takeWhile inWord
          let after := rest.dropWhile inWord
          let width := grid.rowWidth row
          if (joined (rows row) ++ word).length ≤ width then
            wrapFrom grid after row (Function.update rows row (joined (rows row) ++ word))
          else if row + 1 < grid.rows ∧ word.length ≤ grid.rowWidth (row + 1) then
            wrapFrom grid after (row + 1) (Function.update rows (row + 1) word)
          else if word.length ≤ width then rows
          else
            let split := hardSplit grid word row rows
            wrapFrom grid after split.1 split.2
termination_by text.length
decreasing_by
  all_goals
    have hrest := (List.dropWhile_sublist (p := (· = 32)) (l := text)).length_le
    rw [h, List.length_cons] at hrest
    have hafter := (List.dropWhile_sublist (p := inWord) (l := rest)).length_le
    omega

/-- `clusterWrapRows`. -/
def clusterWrapRows (text : CStr) (grid : ClusterGrid) : Nat → CStr :=
  wrapFrom grid (replaceBreaks text) 0 fun _ => []

/-! ## §3. Pieces. -/

/-- `clusterSliceSegment`: a member's share of its row's text. -/
def clusterSliceSegment (table : ClusterMemberTable) (rows : Nat → CStr) (m : ClusterMemberDef) :
    CStr :=
  if m.width = 0 then []
  else ((rows m.row.toNat).drop (clusterTextOffset table m.row m.col)).take m.width.toNat

/-- Rows of text as the members' pieces, each row aligned to its width. -/
def sliceRows (table : ClusterMemberTable) (grid : ClusterGrid) (align : DisplayAlignment)
    (rows : Nat → CStr) : List CStr :=
  table.map (clusterSliceSegment table fun r => clusterAlignRow (rows r) (grid.rowWidth r) align)

/-- `layoutGridText`: the members' pieces, none of a table that does not hold. -/
def layoutGridText (text : CStr) (align : DisplayAlignment) (table : ClusterMemberTable) :
    Option (List CStr) :=
  match validateMemberTable table with
  | .error _ => none
  | .ok grid => some (sliceRows table grid align (clusterWrapRows text grid))

/-- `clusterClockSegments`: the time on the first row, the date on the second
when there is one. -/
def clusterClockSegments (timeText dateText : CStr) (align : DisplayAlignment)
    (table : ClusterMemberTable) : Option (List CStr) :=
  match validateMemberTable table with
  | .error _ => none
  | .ok grid =>
      some (sliceRows table grid align fun r =>
        if r = 0 then timeText else if r = 1 ∧ 2 ≤ grid.rows then dateText else [])

theorem clusterAlignRow_length (rowText : CStr) (width : Nat) (align : DisplayAlignment) :
    (clusterAlignRow rowText width align).length = width := by
  unfold clusterAlignRow
  simp only [List.length_append, List.length_replicate, List.length_take]
  cases align with
  | left => dsimp only; omega
  | center => dsimp only; omega
  | right => dsimp only; omega

theorem sliceRows_length (table : ClusterMemberTable) (grid : ClusterGrid)
    (align : DisplayAlignment) (rows : Nat → CStr) :
    (sliceRows table grid align rows).length = table.length := by
  rw [sliceRows, List.length_map]

/-- A layout has one piece for each board of the table. -/
theorem layoutGridText_length {text : CStr} {align : DisplayAlignment}
    {table : ClusterMemberTable} {pieces : List CStr}
    (h : layoutGridText text align table = some pieces) : pieces.length = table.length := by
  unfold layoutGridText at h
  split at h
  · cases h
  · injection h with h
    rw [← h, sliceRows_length]

theorem clusterClockSegments_length {timeText dateText : CStr} {align : DisplayAlignment}
    {table : ClusterMemberTable} {pieces : List CStr}
    (h : clusterClockSegments timeText dateText align table = some pieces) :
    pieces.length = table.length := by
  unfold clusterClockSegments at h
  split at h
  · cases h
  · injection h with h
    rw [← h, sliceRows_length]

end SplitFlap
