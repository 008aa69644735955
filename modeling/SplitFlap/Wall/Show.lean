/-
  SplitFlap.Wall.Show — what the wall is to show, and who has been told.

  `WallShow.cpp`: content is laid out over the rows table once, when it is
  submitted; the pieces are kept by row, each with a flag for a piece that its
  row board is still to be given.  The link task takes the flagged pieces, one
  row at a time, and gives them to the core, which keeps the latest text of
  each row.  The flag is cleared when the piece is taken, before the core has
  it; a change of the table empties both sides, one after the other.
-/
import SplitFlap.Wall.Layout
import SplitFlap.Wall.Says
import SplitFlap.Wall.StagedJobs

namespace SplitFlap

/-! ## §1. The instant of a flip. -/

/-- The lead for text that is to show now. -/
abbrev WALL_COMMIT_LEAD_MS : UInt64 := 400

/-- Each board flips this long after the one before it. -/
abbrev WALL_ROW_STAGGER_MS : UInt64 := 150

abbrev CLUSTER_COMMIT_MAX_DELAY_MS : UInt64 := 5000

/-- `wallCommitAtMs`: 0, on arrival, while the clock is not synced. -/
def wallCommitAtMs (nowEpochMs : UInt64) (synced : Bool) : UInt64 :=
  if synced then nowEpochMs + WALL_COMMIT_LEAD_MS else 0

/-- `wallRowFlipAtMs`. -/
def wallRowFlipAtMs (commitAtMs : UInt64) (tableIndex : RowIx) : UInt64 :=
  if commitAtMs = 0 ∨ tableIndex = 0 then commitAtMs
  else commitAtMs + tableIndex.val.toUInt64 * WALL_ROW_STAGGER_MS

/-- `clusterRenderDelayMs`. -/
def clusterRenderDelayMs (commitAtMs nowEpochMs : UInt64) (timeSynced : Bool) : UInt32 :=
  if timeSynced = false ∨ commitAtMs ≤ nowEpochMs then 0
  else (min (commitAtMs - nowEpochMs) CLUSTER_COMMIT_MAX_DELAY_MS).toUInt32

/-! ## §2. The pieces. -/

/-- What is submitted: a text, or the clock. -/
inductive WallContent where
  | text (text alignment : CStr) (flapSpeed : Int32)
  | clock (timeText dateText alignment : CStr) (flapSpeed : Int32) (flipAtMs : UInt64)
  deriving DecidableEq

namespace WallContent

def flapSpeed : WallContent → Int32
  | .text _ _ flapSpeed => flapSpeed
  | .clock _ _ _ flapSpeed _ => flapSpeed

/-- The instant the caller names, 0 for the short lead from now. -/
def flipAtMs : WallContent → UInt64
  | .text .. => 0
  | .clock _ _ _ _ flipAtMs => flipAtMs

/-- The content key of `wallShowText` and `wallShowClock`. -/
def key : WallContent → CStr
  | .text shown alignment flapSpeed =>
      ascii "t:" ++ alignment ++ ascii ":" ++ ascii (toString flapSpeed) ++ ascii ":" ++ shown
  | .clock timeText dateText alignment flapSpeed _ =>
      ascii "c:" ++ alignment ++ ascii ":" ++ ascii (toString flapSpeed) ++ ascii ":" ++ timeText ++
        ascii "|" ++ dateText

/-- The content's pieces under a rows table, by row index. -/
def layout (content : WallContent) (table : WallRowsTable) : Option (List CStr) :=
  match content with
  | .text shown alignment _ =>
      layoutGridText shown (displayAlignmentFromString alignment) (wallRowsLayout table)
  | .clock timeText dateText alignment _ _ =>
      clusterClockSegments timeText dateText (displayAlignmentFromString alignment)
        (wallRowsLayout table)

end WallContent

/-- The board's clock at a submit or a Stop. -/
structure ShowClock where
  nowEpochMs : UInt64 := 0
  synced : Bool := false
  nowMs : UInt32 := 0

/-- A piece that is on its way to the core. -/
structure WallRowShow where
  text : CStr
  speed : UInt16
  commitAtMs : UInt64

/-- What `showMutex` guards. -/
structure WallShow where
  table : WallRowsTable := {}
  lastContentKey : CStr := []
  segments : RowIx → CStr := fun _ => []
  rowChanged : RowIx → Bool := fun _ => false
  commitAtMs : UInt64 := 0
  speed : Int32 := 0
  ownPending : Bool := false
  ownDueMs : UInt32 := 0

namespace WallShow

/-- The row is one of the table's. -/
def inTable (s : WallShow) (i : RowIx) : Bool := i.val < s.table.rows.length

/-- The row is the master's own. -/
def isOwn (s : WallShow) (i : RowIx) : Bool := wallRowsOwn s.table = some i.val

/-- `submit`, a row whose piece it may change. -/
def stagePiece (pieces : List CStr) (clock : ShowClock) (s : WallShow) (i : RowIx) : WallShow :=
  let piece := pieces.getD i.val []
  if s.inTable i = false ∨ piece = s.segments i then s
  else
    let s := { s with segments := Function.update s.segments i piece }
    if s.isOwn i then
      { s with
        ownPending := true
        ownDueMs := clock.nowMs +
          clusterRenderDelayMs (wallRowFlipAtMs s.commitAtMs i) clock.nowEpochMs clock.synced }
    else { s with rowChanged := Function.update s.rowChanged i true }

/-- `submit`, before its loop: this content is up, and when it flips. -/
def takeContent (s : WallShow) (content : WallContent) (clock : ShowClock) : WallShow :=
  { s with
    lastContentKey := content.key
    speed := content.flapSpeed
    commitAtMs :=
      if clock.synced = false then 0
      else if content.flipAtMs ≠ 0 then content.flipAtMs
      else wallCommitAtMs clock.nowEpochMs clock.synced }

/-- `submit`, under the lock: was the content accepted? -/
def submit (s : WallShow) (content : WallContent) (clock : ShowClock) : Bool × WallShow :=
  if content.key = s.lastContentKey then (false, s)
  else
    match content.layout s.table with
    | none => (false, s)
    | some pieces =>
        (true, (List.finRange WALL_LINK_MAX_ROWS).foldl (stagePiece pieces clock)
          (s.takeContent content clock))

/-- `wallShowBlank`, a row of the loop. -/
def blankRow (s : WallShow) (i : RowIx) : WallShow :=
  if s.inTable i = false ∨ s.isOwn i = true ∨ s.segments i = [] then s
  else
    { s with
      segments := Function.update s.segments i []
      rowChanged := Function.update s.rowChanged i true }

/-- `wallShowBlank`, before its loop. -/
def flipsNow (s : WallShow) (clock : ShowClock) : WallShow :=
  { s with commitAtMs := wallCommitAtMs clock.nowEpochMs clock.synced }

/-- `wallShowBlank`, its loop over the rows. -/
def blankRows (s : WallShow) (clock : ShowClock) : WallShow :=
  (List.finRange WALL_LINK_MAX_ROWS).foldl blankRow (s.flipsNow clock)

/-- `wallShowBlank`, the own row after the loop. -/
def blankOwn (s : WallShow) : WallShow :=
  if (wallRowsOwn s.table).isSome then
    { s with
      segments := fun i => if s.isOwn i then [] else s.segments i
      ownPending := false }
  else s

/-- `wallShowBlank`, under the lock. -/
def wallShowBlank (s : WallShow) (clock : ShowClock) : WallShow := (s.blankRows clock).blankOwn

/-- `wallShowRowsChanged`. -/
def wallShowRowsChanged (s : WallShow) (next : WallRowsTable) : WallShow :=
  { s with
    table := next
    lastContentKey := []
    segments := fun _ => []
    rowChanged := fun _ => false
    ownPending := false }

/-- `wallShowTakeRow`. -/
def wallShowTakeRow (s : WallShow) (row : RowIx) : Option WallRowShow × WallShow :=
  if s.inTable row = false ∨ s.rowChanged row = false then (none, s)
  else
    (some {
      text := (s.segments row).take WALL_ROW_TEXT_MAX
      speed := s.speed.toUInt32.toUInt16
      commitAtMs := wallRowFlipAtMs s.commitAtMs row },
      { s with rowChanged := Function.update s.rowChanged row false })

/-- `wallShowServiceOwnRow`, once the display took `text`: nothing is pending
unless a newer piece was staged meanwhile. -/
def ownShown (s : WallShow) (text : CStr) : WallShow :=
  match wallRowsOwn s.table with
  | some i =>
      if h : i < WALL_LINK_MAX_ROWS then
        if s.segments ⟨i, h⟩ = text then { s with ownPending := false } else s
      else s
  | none => s

/-! ## §3. Staging, row by row. -/

/-- A piece that was changed is flagged, but for the own row's. -/
structure Stages (s s' : WallShow) : Prop where
  table : s'.table = s.table
  flagged : ∀ i, s.rowChanged i = true → s'.rowChanged i = true
  told : ∀ i, s.isOwn i = false → s'.segments i ≠ s.segments i → s'.rowChanged i = true

theorem Stages.refl (s : WallShow) : Stages s s :=
  ⟨rfl, fun _ h => h, fun _ _ hne => absurd rfl hne⟩

theorem Stages.trans {a b c : WallShow} (h : Stages a b) (h' : Stages b c) : Stages a c := by
  refine ⟨by rw [h'.table, h.table], fun i hi => h'.flagged i (h.flagged i hi), ?_⟩
  intro i hown hne
  by_cases hab : b.segments i = a.segments i
  · have hown' : b.isOwn i = false := by
      unfold isOwn
      rw [h.table]
      exact hown
    rw [← hab] at hne
    exact h'.told i hown' hne
  · exact h'.flagged i (h.told i hown hab)

/-- What a loop body that stages the row it is given makes of a row: the piece
the row is to have, if it is to have one. -/
structure StagesRow (want : RowIx → Option CStr) (s s' : WallShow) (i : RowIx) : Prop
    extends Stages s s' where
  piece : s'.segments = Function.update s.segments i ((want i).getD (s.segments i))

theorem foldl_stages {want : RowIx → Option CStr} {table : WallRowsTable}
    {f : WallShow → RowIx → WallShow} (hf : ∀ s i, s.table = table → StagesRow want s (f s i) i) :
    ∀ (rows : List RowIx) (s : WallShow), s.table = table →
      Stages s (rows.foldl f s) ∧
        ∀ i, (rows.foldl f s).segments i =
          if i ∈ rows then (want i).getD (s.segments i) else s.segments i := by
  intro rows
  induction rows with
  | nil => exact fun s _ => ⟨.refl s, fun i => (if_neg List.not_mem_nil).symm⟩
  | cons j rows ih =>
      intro s htable
      have hone := hf s j htable
      obtain ⟨hrest, hpieces⟩ := ih (f s j) (hone.table.trans htable)
      refine ⟨hone.toStages.trans hrest, ?_⟩
      intro i
      show (rows.foldl f (f s j)).segments i = _
      rw [hpieces i, hone.piece]
      by_cases hij : i = j
      · -- a row met again is given the same piece again
        subst hij
        rw [Function.update_self, if_pos List.mem_cons_self]
        cases want i <;> simp
      · rw [Function.update_of_ne hij]
        simp [hij]

variable {s : WallShow}

theorem stagePiece_stages {pieces : List CStr} {clock : ShowClock} (s : WallShow) (i : RowIx) :
    StagesRow (fun i => if i.val < s.table.rows.length then some (pieces.getD i.val []) else none)
      s (stagePiece pieces clock s i) i := by
  unfold stagePiece
  dsimp only
  split
  · next hskip =>
      refine ⟨.refl s, ?_⟩
      rw [Function.eq_update_self_iff]
      rcases hskip with hout | hsame
      · rw [if_neg (of_decide_eq_false hout)]
        rfl
      · rw [← hsame]
        split <;> rfl
  · next hdo =>
      rw [not_or, Bool.not_eq_false] at hdo
      have hwant : (if i.val < s.table.rows.length then some (pieces.getD i.val [])
          else none : Option CStr) = some (pieces.getD i.val []) := if_pos (of_decide_eq_true hdo.1)
      have hother : ∀ j, Function.update s.segments i (pieces.getD i.val []) j ≠ s.segments j →
          j = i := by
        intro j hne
        by_contra hji
        exact hne (Function.update_of_ne hji _ _)
      split
      · next hown =>
          refine ⟨⟨rfl, fun _ h => h, ?_⟩, by rw [hwant]; rfl⟩
          intro j hnotown hne
          rw [hother j hne] at hnotown
          replace hown : s.isOwn i = true := hown
          rw [hown] at hnotown
          cases hnotown
      · refine ⟨⟨rfl, ?_, ?_⟩, by rw [hwant]; rfl⟩
        · intro j hj
          show Function.update s.rowChanged i true j = true
          by_cases hji : j = i
          · rw [hji, Function.update_self]
          · rw [Function.update_of_ne hji]
            exact hj
        · intro j _ hne
          show Function.update s.rowChanged i true j = true
          rw [hother j hne, Function.update_self]

theorem blankRow_stages (s : WallShow) (i : RowIx) :
    StagesRow (fun i => if s.inTable i = true ∧ s.isOwn i = false then some [] else none)
      s (blankRow s i) i := by
  unfold blankRow
  split
  · next hskip =>
      refine ⟨.refl s, ?_⟩
      rw [Function.eq_update_self_iff]
      split
      · next hrow =>
          rcases hskip with hout | hown | hempty
          · rw [hrow.1] at hout
            cases hout
          · rw [hrow.2] at hown
            cases hown
          · rw [hempty]
            rfl
      · rfl
  · next hdo =>
      rw [not_or, not_or, Bool.not_eq_false, Bool.not_eq_true] at hdo
      have hother : ∀ j, Function.update s.segments i [] j ≠ s.segments j → j = i := by
        intro j hne
        by_contra hji
        exact hne (Function.update_of_ne hji _ _)
      refine ⟨⟨rfl, ?_, ?_⟩, ?_⟩
      · intro j hj
        show Function.update s.rowChanged i true j = true
        by_cases hji : j = i
        · rw [hji, Function.update_self]
        · rw [Function.update_of_ne hji]
          exact hj
      · intro j _ hne
        show Function.update s.rowChanged i true j = true
        rw [hother j hne, Function.update_self]
      · dsimp only
        rw [if_pos ⟨hdo.1, hdo.2.1⟩]
        rfl

/-- **An accepted submit lays its content over the table**, and flags every row
board's piece that it changed. -/
theorem submit_stages (s : WallShow) (content : WallContent) (clock : ShowClock) :
    s.submit content clock = (false, s) ∨
      ∃ pieces s', content.layout s.table = some pieces ∧
        s.submit content clock = (true, s') ∧ Stages s s' ∧
        ∀ i, s'.segments i = if s.inTable i then pieces.getD i.val [] else s.segments i := by
  unfold submit
  split
  · exact .inl rfl
  · split
    · exact .inl rfl
    · next pieces hlayout =>
        refine .inr ⟨pieces, _, hlayout, rfl, ?_⟩
        have hrow : ∀ s' i, s'.table = s.table → StagesRow (fun i =>
            if i.val < s.table.rows.length then some (pieces.getD i.val []) else none)
            s' (stagePiece pieces clock s' i) i := by
          intro s' i htable
          rw [← htable]
          exact stagePiece_stages s' i
        obtain ⟨hstages, hpieces⟩ := foldl_stages hrow (List.finRange WALL_LINK_MAX_ROWS)
          (s.takeContent content clock) rfl
        refine ⟨⟨hstages.table, hstages.flagged, hstages.told⟩, ?_⟩
        intro i
        rw [hpieces i, if_pos (List.mem_finRange i)]
        show _ = if s.inTable i then _ else s.segments i
        unfold inTable
        by_cases hi : i.val < s.table.rows.length
        · simp [hi]
        · simp only [hi, if_false, Option.getD_none, decide_false, Bool.false_eq_true]
          rfl

theorem blankRows_stages (s : WallShow) (clock : ShowClock) :
    Stages s (s.blankRows clock) ∧
      ∀ i, s.segments i = [] ∨ s.inTable i = true → s.isOwn i = false →
        (s.blankRows clock).segments i = [] := by
  have hrow : ∀ s' i, s'.table = s.table → StagesRow (fun i =>
      if s.inTable i = true ∧ s.isOwn i = false then some [] else none) s' (blankRow s' i) i := by
    intro s' i htable
    have hblank := blankRow_stages s' i
    unfold inTable isOwn at hblank ⊢
    rw [htable] at hblank
    exact hblank
  obtain ⟨hstages, hpieces⟩ := foldl_stages hrow (List.finRange WALL_LINK_MAX_ROWS)
    (s.flipsNow clock) rfl
  unfold blankRows
  refine ⟨⟨hstages.table, hstages.flagged, hstages.told⟩, ?_⟩
  intro i hi hnot
  rw [hpieces i, if_pos (List.mem_finRange i)]
  show Option.getD _ (s.segments i) = []
  rcases hi with hi | hi
  · rw [hi]
    split <;> rfl
  · rw [if_pos ⟨hi, hnot⟩]
    rfl

theorem blankOwn_stages (s : WallShow) :
    Stages s s.blankOwn ∧
      ∀ i, (s.isOwn i = false → s.segments i = []) → s.blankOwn.segments i = [] := by
  unfold blankOwn
  split
  · refine ⟨⟨rfl, fun _ h => h, ?_⟩, ?_⟩
    · intro i hnot hne
      refine absurd ?_ hne
      show (if s.isOwn i then [] else s.segments i) = _
      rw [hnot]
      rfl
    · intro i hi
      show (if s.isOwn i then [] else s.segments i) = []
      split
      · rfl
      · next hnot => exact hi (Bool.eq_false_of_not_eq_true hnot)
  · next hnone =>
      refine ⟨.refl s, fun i hi => hi ?_⟩
      rw [Option.not_isSome_iff_eq_none] at hnone
      unfold isOwn
      rw [hnone]
      rfl

/-- **A Stop empties every piece of the table**, and flags every row board's
that it changed. -/
theorem blank_stages (s : WallShow) (clock : ShowClock) :
    Stages s (s.wallShowBlank clock) ∧
      ∀ i, s.segments i = [] ∨ s.inTable i = true → (s.wallShowBlank clock).segments i = [] := by
  obtain ⟨hrows, hempty⟩ := blankRows_stages s clock
  obtain ⟨hown, hall⟩ := blankOwn_stages (s.blankRows clock)
  unfold wallShowBlank
  refine ⟨hrows.trans hown, ?_⟩
  intro i hi
  refine hall i fun hnot => hempty i hi ?_
  unfold isOwn at hnot ⊢
  rwa [hrows.table] at hnot

theorem ownShown_same (s : WallShow) (text : CStr) :
    (s.ownShown text).table = s.table ∧ (s.ownShown text).segments = s.segments ∧
      (s.ownShown text).rowChanged = s.rowChanged := by
  unfold ownShown
  split
  · split
    · split <;> exact ⟨rfl, rfl, rfl⟩
    · exact ⟨rfl, rfl, rfl⟩
  · exact ⟨rfl, rfl, rfl⟩

theorem ownShown_stages (s : WallShow) (text : CStr) : Stages s (s.ownShown text) := by
  obtain ⟨htable, hsegments, hflags⟩ := s.ownShown_same text
  refine ⟨htable, fun i hi => by rw [hflags]; exact hi, ?_⟩
  intro i _ hne
  rw [hsegments] at hne
  exact absurd rfl hne

end WallShow

end SplitFlap
