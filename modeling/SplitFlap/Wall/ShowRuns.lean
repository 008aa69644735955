/-
  SplitFlap.Wall.ShowRuns — no row board misses what the wall is to show.

  The link task takes a flagged piece and gives it to the core in two steps;
  a submit, a Stop or a new table can come between them, and the core forgets
  its texts in one step and the pieces are emptied in a later one.  What holds
  at any time is that a row's piece is flagged, in the link task's hand or with
  the core (`Told`).
-/
import SplitFlap.Wall.Show
import SplitFlap.Wall.Turns

namespace SplitFlap

open Link Machine

section Shows

variable [Nanopb]

/-! ## §1. The wall's text among the tasks. -/

/-- What the link task is at with the pieces: `wallShowRowsChanged` is still to
come for the table it read, or it is in its loop over the rows. -/
inductive ShowHand where
  | idle
  | adopting
  | looking (row : Nat)
  | giving (row : RowIx) (piece : WallRowShow)

/-- The piece in hand for a row, this text when there is none. -/
def ShowHand.over (hand : ShowHand) (r : RowIx) (text : CStr) : CStr :=
  match hand with
  | .giving r' piece => if r = r' then piece.text else text
  | _ => text

/-- The master with `WallShow.cpp`.  `accepted` is the last content that
`submit` accepted since it took its table, `stopped` a Stop since then. -/
structure ShowWall extends Wall where
  shown : WallShow := {}
  hand : ShowHand := .idle
  accepted : Option WallContent := none
  stopped : Bool := false

inductive ShowTurn where
  /-- A turn that has no part in the pieces. -/
  | turn (a : Turn)
  /-- `submit`, once the wall was seen active. -/
  | submit (content : WallContent) (clock : ShowClock)
  | blank (clock : ShowClock)
  | ownShown (text : CStr)
  | readTable
  /-- `wallShowRowsChanged`, by the pass. -/
  | adopt
  | beginShows
  | takeRow
  | giveText (H : WallLinkHooks)

/-- The turns of the link task. -/
def Turn.byLink : Turn → Bool
  | .check | .readTable | .call .. | .beginTakes | .lookStaged | .take | .start .. | .endTakes
  | .tick .. | .tell .. | .publish _ | .endPass | .effect => true
  | _ => false

namespace ShowWall

/-- The master after its start: `wallShowInit`. -/
def start (rows : WallRowsTable) : ShowWall :=
  { toWall := Wall.start rows, shown := ({} : WallShow).wallShowRowsChanged rows }

/-- May a turn be taken now?  The link task is at one thing at a time; before
`wallShowRowsChanged` it tells the core the rows' names. -/
def lets (s : ShowWall) : Turn → Bool
  | .readTable | .call _ (.setText ..) => false
  | .call _ (.setHost ..) =>
      match s.hand with
      | .idle | .adopting => true
      | _ => false
  | a =>
      match s.hand with
      | .idle => true
      | _ => !a.byLink

def step (s : ShowWall) : ShowTurn → Option ShowWall
  | .turn a =>
      if s.lets a then (s.toWall.step a).map fun w => { s with toWall := w } else none
  | .submit content clock =>
      match s.shown.submit content clock with
      | (true, shown) => some { s with shown := shown, accepted := some content, stopped := false }
      | (false, shown) => some { s with shown := shown }
  | .blank clock => some { s with shown := s.shown.wallShowBlank clock, stopped := true }
  | .ownShown text => some { s with shown := s.shown.ownShown text }
  | .readTable =>
      (s.toWall.step .readTable).map fun w => { s with toWall := w, hand := .adopting }
  | .adopt =>
      match s.hand with
      | .adopting =>
          some { s with
            shown := s.shown.wallShowRowsChanged s.link.rowsTable
            hand := .idle, accepted := none, stopped := false }
      | _ => none
  | .beginShows =>
      match s.hand, s.link.pc with
      | .idle, .reading => some { s with hand := .looking 0 }
      | _, _ => none
  | .takeRow =>
      match s.hand with
      | .looking row =>
          match s.nextRow row with
          | none => some { s with hand := .idle }
          | some r =>
              match s.shown.wallShowTakeRow r with
              | (none, shown) => some { s with shown := shown, hand := .looking (row + 1) }
              | (some piece, shown) => some { s with shown := shown, hand := .giving r piece }
      | _ => none
  | .giveText H =>
      match s.hand with
      | .giving r piece =>
          (s.toWall.step (.call H (.setText r piece.text piece.speed piece.commitAtMs))).map
            fun w => { s with toWall := w, hand := .looking (r.val + 1) }
      | _ => none

end ShowWall

/-! ## §2. What the core has of a text. -/

/-- Every row's text is as it was. -/
def SameTexts (s s' : Link) : Prop := ∀ r, (s'.rows r).text.text = (s.rows r).text.text

theorem SameTexts.setRow (s : Link) (r : RowIx) (row : WallLinkRow)
    (h : row.text.text = (s.rows r).text.text) : SameTexts s (s.setRow r row) := by
  intro i
  rw [setRow_rows]
  by_cases hi : i = r
  · subst hi
    rw [Function.update_self]
    exact h
  · rw [Function.update_of_ne hi]

theorem SameTexts.trans {a b c : Link} (h : SameTexts a b) (h' : SameTexts b c) : SameTexts a c :=
  fun r => (h' r).trans (h r)

theorem SameTexts.of_rows {s s' : Link} (h : s'.rows = s.rows) : SameTexts s s' :=
  fun r => by rw [h]

omit [Nanopb] in
theorem resend_text (t : WallRowText) : t.resend.text = t.text := by
  unfold WallRowText.resend
  split <;> rfl

omit [Nanopb] in
theorem set_text (t : WallRowText) (text : CStr) (speed : UInt16) (commitAtMs : UInt64) :
    (t.set text speed commitAtMs).text = text.take WALL_ROW_TEXT_MAX := by
  unfold WallRowText.set
  dsimp only
  split
  · next hsame => exact hsame.2.2
  · rfl

omit [Nanopb] in
theorem rowHears_text (row : WallLinkRow) (m : WlToMaster) (nowMs : UInt32) :
    (rowHears row m nowMs).1.text.text = row.text.text := by
  cases m <;> rfl

theorem chats_texts : Chats SameTexts where
  refl _ _ := rfl
  trans := .trans
  aside _ _ _ _ := rfl
  closed s conn := by
    intro r
    rw [closed_rows]
    split <;> rfl
  flagged s r _ _ _ _ := .setRow s r _ rfl
  wrote s conn r m ok nowMs _ _ i := by rw [wrote_text]

theorem listens_texts (conn : ConnIx) (m : WlToMaster) : Listens SameTexts conn m where
  toChats := chats_texts
  asked _ _ _ _ := rfl
  read _ _ _ := rfl
  seated s r _ := SameTexts.setRow s r _ rfl
  welcomed s r _ _ _ := SameTexts.setRow s r _ (resend_text _)
  heard s r nowMs := by
    have hrow := SameTexts.setRow s r _ (rowHears_text (s.rows r) m nowMs)
    unfold hear
    dsimp only
    split
    · exact hrow
    · exact hrow

theorem ticks_texts : Ticks SameTexts where
  toChats := chats_texts
  gaveUp s r nowMs := by
    unfold tickJob
    split
    · exact fun _ => rfl
    · exact SameTexts.setRow s r _ rfl
  showed s conn r ok nowMs i := by
    unfold showed
    dsimp only
    split
    · rw [setRow_rows]
      by_cases hi : i = r
      · subst hi
        rw [Function.update_self]
        rfl
      · rw [Function.update_of_ne hi, wrote_text]
    · rw [wrote_text]
  handed s conn r ok nowMs i := by
    unfold handed
    dsimp only
    split
    · rw [setRow_rows]
      by_cases hi : i = r
      · subst hi
        rw [Function.update_self]
        exact congrArg _ (wrote_text ..)
      · rw [Function.update_of_ne hi, wrote_text]
    · rw [wrote_text]

/-- A call that gives no text and is no reset leaves every text alone. -/
theorem apply_texts (H : WallLinkHooks) {c : Link.Call} (hstarts : c.starts = false)
    (hreset : c ≠ .reset) (hset : ∀ r text speed at', c ≠ .setText r text speed at')
    {s s' : Link} (h : s.apply H c = some s') : SameTexts s s' := by
  cases c with
  | setText r text speed commitAtMs => exact absurd rfl (hset r text speed commitAtMs)
  | startJob r op nowMs => cases hstarts
  | setQuiet on =>
      injection h with h; rw [← h]
      unfold setQuiet
      split <;> exact fun _ => rfl
  | setConfig next =>
      injection h with h; rw [← h]
      unfold setConfig
      split <;> exact fun _ => rfl
  | setHost r host =>
      injection h with h; rw [← h]
      unfold setHost
      split
      · exact fun _ => rfl
      · exact SameTexts.setRow s r _ rfl
  | setLogWanted r wanted =>
      injection h with h; rw [← h]
      exact SameTexts.setRow s r _ rfl
  | send r order nowMs =>
      injection h with h; rw [← h]
      rcases send_cases H s r order.toRow nowMs with h | ⟨conn, ok, _, h⟩
      · rw [h]
        exact fun _ => rfl
      · rw [h]
        exact fun i => by rw [wrote_text]
  | _ => exact apply_keeps H listens_texts ticks_texts (fun _ _ _ _ => rfl) rfl hreset h

namespace Wall

variable {s s' : Wall}

/-- No turn but the pass's check and its gift of a text touches a text. -/
theorem step_texts {a : Turn} (hsound : s.link.Sound) (h : s.step a = some s')
    (hcheck : a ≠ .check)
    (hset : ∀ H r text speed at', a ≠ .call H (.setText r text speed at')) :
    ∀ r, (s'.link.core.rows r).text.text = (s.link.core.rows r).text.text := by
  intro r
  cases step_link hsound h with
  | same hcore hlog => rw [hcore]
  | called H c l hcall hturn hcore hlog =>
      rw [hcore]
      refine apply_texts H hturn.starts ?_ ?_ hcall r
      · rintro rfl
        cases hturn with
        | check => exact hcheck rfl
        | call H' c hreads => cases hreads
        | tell H' c htells => cases htells
      · rintro r' text speed commitAtMs rfl
        cases hturn with
        | call H' c hreads => exact hset H' r' text speed commitAtMs rfl
        | tell H' c htells => cases htells
  | started row job nowMs l hturn hpc hstart hcore hlog =>
      have hl : (s.link.whole.startJob row job.op nowMs).2 = l := congrArg Prod.snd hstart
      rw [hcore, ← hl]
      have hrow := SameTexts.setRow s.link.whole row
        { s.link.whole.rows row with job := ((s.link.whole.rows row).job.start job.op nowMs).1 } rfl r
      unfold Link.startJob
      dsimp only
      split
      · exact hrow
      · exact hrow

/-- Where a turn leaves the link task: with its table, and stale exactly when it
was, but for the pass's check and its reading of the table. -/
theorem step_pass {a : Turn} (h : s.step a = some s') (hread : a ≠ .readTable)
    (hcheck : a ≠ .check) :
    s'.link.rowsTable = s.link.rowsTable ∧ (s'.link.pc = .stale ↔ s.link.pc = .stale) := by
  have hgo : ∀ {pc pc' : Pc}, s.link.pc = pc → pc ≠ .stale → pc' ≠ .stale →
      (pc' = .stale ↔ s.link.pc = .stale) := by
    intro pc pc' hpc hno hno'
    rw [hpc]
    exact ⟨fun h => absurd h hno', fun h => absurd h hno⟩
  cases a with
  | look task =>
      rw [look_cases h]
      exact ⟨rfl, Iff.rfl⟩
  | see task =>
      obtain ⟨_, _, rfl⟩ := see_cases h
      exact ⟨rfl, Iff.rfl⟩
  | jobBegin task row op name =>
      obtain ⟨_, _, _, rfl | ⟨_, _, _, ⟨_, rfl⟩ | ⟨_, rfl⟩⟩⟩ := jobBegin_cases h
      · exact ⟨rfl, Iff.rfl⟩
      · exact ⟨rfl, Iff.rfl⟩
      · exact ⟨rfl, Iff.rfl⟩
  | jobStage task =>
      obtain ⟨_, _, _, _, _, ⟨_, _, rfl⟩ | rfl⟩ := jobStage_cases h
      · exact ⟨rfl, Iff.rfl⟩
      · exact ⟨rfl, Iff.rfl⟩
  | giveUp task =>
      obtain ⟨_, _, _, _, _, rfl⟩ := giveUp_cases h
      exact ⟨rfl, Iff.rfl⟩
  | opBegin name row unit =>
      obtain ⟨_, _, _, ⟨_, rfl⟩ | ⟨_, rfl⟩⟩ := opBegin_cases h
      · exact ⟨rfl, Iff.rfl⟩
      · exact ⟨rfl, Iff.rfl⟩
  | opFinish id ok detail =>
      obtain ⟨_, rfl⟩ := opFinish_cases h
      exact ⟨rfl, Iff.rfl⟩
  | setRows table =>
      rw [setRows_cases h]
      exact ⟨rfl, Iff.rfl⟩
  | check => exact absurd rfl hcheck
  | readTable => exact absurd rfl hread
  | call H c =>
      obtain ⟨hpc, _, _, l, _, rfl⟩ := call_cases h
      exact ⟨rfl, hgo hpc Pc.noConfusion Pc.noConfusion⟩
  | beginTakes =>
      obtain ⟨hpc, _, rfl | ⟨_, rfl⟩⟩ := beginTakes_cases h
      · exact ⟨rfl, hgo hpc Pc.noConfusion Pc.noConfusion⟩
      · exact ⟨rfl, hgo hpc Pc.noConfusion Pc.noConfusion⟩
  | lookStaged =>
      obtain ⟨row, hpc, rfl | ⟨_, rfl⟩⟩ := lookStaged_cases h
      · exact ⟨rfl, hgo hpc Pc.noConfusion Pc.noConfusion⟩
      · exact ⟨rfl, hgo hpc Pc.noConfusion Pc.noConfusion⟩
  | take =>
      obtain ⟨row, hpc, rfl | ⟨_, _, rfl⟩⟩ := take_cases h
      · exact ⟨rfl, hgo hpc Pc.noConfusion Pc.noConfusion⟩
      · exact ⟨rfl, hgo hpc Pc.noConfusion Pc.noConfusion⟩
  | start updating nowMs =>
      obtain ⟨row, job, hpc, ⟨_, rfl⟩ | ⟨l, _, rfl⟩⟩ := startJob_cases h
      · exact ⟨rfl, hgo hpc Pc.noConfusion Pc.noConfusion⟩
      · exact ⟨rfl, hgo hpc Pc.noConfusion Pc.noConfusion⟩
  | endTakes =>
      obtain ⟨row, hpc, rfl⟩ := endTakes_cases h
      exact ⟨rfl, hgo hpc Pc.noConfusion Pc.noConfusion⟩
  | tick H nowMs =>
      obtain ⟨hpc, l, _, rfl⟩ := tick_cases h
      exact ⟨rfl, hgo hpc Pc.noConfusion Pc.noConfusion⟩
  | tell H c =>
      obtain ⟨hpc, _, _, l, _, rfl⟩ := tell_cases h
      exact ⟨rfl, hgo hpc Pc.noConfusion Pc.noConfusion⟩
  | publish row =>
      obtain ⟨_, _, rfl⟩ := publish_cases h
      exact ⟨rfl, Iff.rfl⟩
  | endPass =>
      obtain ⟨hpc | hpc, _, rfl⟩ := endPass_cases h
      · exact ⟨rfl, hgo hpc Pc.noConfusion Pc.noConfusion⟩
      · exact ⟨rfl, hgo hpc Pc.noConfusion Pc.noConfusion⟩
  | effect =>
      obtain ⟨e, rest, _, rfl⟩ := effect_cases h
      exact ⟨rfl, Iff.rfl⟩

/-- The other tasks leave the link task alone. -/
theorem others_link {a : Turn} (h : s.step a = some s') (hby : a.byLink = false) :
    s'.link = s.link := by
  cases a with
  | look task => rw [look_cases h]; rfl
  | see task =>
      obtain ⟨_, _, rfl⟩ := see_cases h
      rfl
  | jobBegin task row op name =>
      obtain ⟨_, _, _, rfl | ⟨_, _, _, ⟨_, rfl⟩ | ⟨_, rfl⟩⟩⟩ := jobBegin_cases h <;> rfl
  | jobStage task =>
      obtain ⟨_, _, _, _, _, ⟨_, _, rfl⟩ | rfl⟩ := jobStage_cases h <;> rfl
  | giveUp task =>
      obtain ⟨_, _, _, _, _, rfl⟩ := giveUp_cases h
      rfl
  | opBegin name row unit =>
      obtain ⟨_, _, _, ⟨_, rfl⟩ | ⟨_, rfl⟩⟩ := opBegin_cases h <;> rfl
  | opFinish id ok detail =>
      obtain ⟨_, rfl⟩ := opFinish_cases h
      rfl
  | setRows table => rw [setRows_cases h]; rfl
  | _ => cases hby

end Wall

/-! ## §3. A row's piece is flagged, in hand or with the core. -/

namespace ShowWall

/-- The core's text of a row, or the piece that is in hand for it. -/
def given (s : ShowWall) (r : RowIx) : CStr := s.hand.over r (s.link.core.rows r).text.text

/-- Every row board's piece is flagged, in hand or with the core. -/
def Flagged (s : ShowWall) : Prop :=
  ∀ r, s.shown.inTable r = true → s.shown.isOwn r = false →
    s.shown.rowChanged r = true ∨ s.given r = (s.shown.segments r).take WALL_ROW_TEXT_MAX

/-- What every turn keeps of the pieces' way to the core. -/
structure Told (s : ShowWall) : Prop where
  sound : s.link.Sound
  busy : s.hand ≠ .idle → s.link.pc = .reading
  table : s.hand ≠ .adopting → s.shown.table = s.link.rowsTable
  fresh : s.link.pc = .stale ∨ s.hand = .adopting → ∀ r, (s.link.core.rows r).text.text = []
  flagged : s.link.pc ≠ .stale → s.hand ≠ .adopting → s.Flagged

/-- What the pieces are: empty without content and after a Stop, and else the
content's layout over the table in force. -/
structure Laid (s : ShowWall) : Prop where
  outside : ∀ i, s.shown.inTable i = false → s.shown.segments i = []
  empty : s.accepted = none ∨ s.stopped = true → ∀ i, s.shown.segments i = []
  laid : ∀ content, s.accepted = some content → s.stopped = false →
    ∃ pieces, content.layout s.shown.table = some pieces ∧
      ∀ i, s.shown.inTable i = true → s.shown.segments i = pieces.getD i.val []

variable {s s' : ShowWall}

/-- The pieces are staged: what was not flagged and is not now is as it was. -/
theorem Told.stages (h : s.Told) {shown : WallShow} {accepted : Option WallContent} {stopped : Bool}
    (hstages : s.shown.Stages shown) :
    ({ s with shown := shown, accepted := accepted, stopped := stopped } : ShowWall).Told := by
  refine ⟨h.sound, h.busy, fun hand => hstages.table.trans (h.table hand), h.fresh, ?_⟩
  intro hpc hhand r hin hown
  have hin' : s.shown.inTable r = true := by
    unfold WallShow.inTable at hin ⊢
    rwa [hstages.table] at hin
  have hown' : s.shown.isOwn r = false := by
    unfold WallShow.isOwn at hown ⊢
    rwa [hstages.table] at hown
  by_cases hsame : shown.segments r = s.shown.segments r
  · show shown.rowChanged r = true ∨ s.given r = (shown.segments r).take WALL_ROW_TEXT_MAX
    rw [hsame]
    exact (h.flagged hpc hhand r hin' hown').imp_left (hstages.flagged r)
  · exact .inl (hstages.told r hown' hsame)

/-- What may be taken: anything but the two, while the link task is at nothing
with the pieces; another task's turn; and a row's name before the table is
adopted. -/
theorem lets_cases {a : Turn} (h : s.lets a = true) :
    a ≠ .readTable ∧ (∀ H r text speed at', a ≠ .call H (.setText r text speed at')) ∧
      (s.hand = .idle ∨ a.byLink = false ∨
        s.hand = .adopting ∧ ∃ H r host, a = .call H (.setHost r host)) := by
  unfold lets at h
  split at h
  · cases h
  · cases h
  · next H r host =>
      refine ⟨Turn.noConfusion, ?_, ?_⟩
      · intro _ _ _ _ _ ha
        injection ha with _ ha
        cases ha
      split at h
      · next hhand => exact .inl hhand
      · next hhand => exact .inr (.inr ⟨hhand, H, r, host, rfl⟩)
      · cases h
  · next hread hset _ =>
      refine ⟨fun ha => hread ha, fun H r text speed at' ha => hset H r text speed at' ha, ?_⟩
      split at h
      · next hhand => exact .inl hhand
      · rw [Bool.not_eq_true'] at h
        exact .inr (.inl h)

theorem Told.of_link (h : s.Told) {w : Wall} (hsound : w.link.Sound)
    (htexts : ∀ r, (w.link.core.rows r).text.text = (s.link.core.rows r).text.text)
    (htable : w.link.rowsTable = s.link.rowsTable) (hstale : w.link.pc = .stale ↔ s.link.pc = .stale)
    (hbusy : s.hand ≠ .idle → w.link.pc = .reading) :
    ({ s with toWall := w } : ShowWall).Told := by
  refine ⟨hsound, hbusy, fun hhand => (h.table hhand).trans htable.symm, ?_, ?_⟩
  · intro hfresh r
    show (w.link.core.rows r).text.text = []
    rw [htexts r]
    exact h.fresh (hfresh.imp_left hstale.mp) r
  · intro hpc hhand r hin hown
    have hgiven : ({ s with toWall := w } : ShowWall).given r = s.given r :=
      congrArg (s.hand.over r) (htexts r)
    rw [hgiven]
    exact h.flagged (fun hs => hpc (hstale.mpr hs)) hhand r hin hown

/-- The link task turns to something else, with no piece in hand before or
after. -/
theorem Told.moved (h : s.Told) {hand : ShowHand} (hbefore : s.hand ≠ .adopting)
    (hafter : hand ≠ .adopting) (hbusy : hand ≠ .idle → s.link.pc = .reading)
    (hgiven : ∀ r, hand.over r (s.link.core.rows r).text.text = s.given r) :
    ({ s with hand := hand } : ShowWall).Told := by
  refine ⟨h.sound, hbusy, fun _ => h.table hbefore, ?_, ?_⟩
  · rintro (hs | hs)
    · exact h.fresh (.inl hs)
    · exact absurd hs hafter
  · intro hpc _ r hin hown
    show s.shown.rowChanged r = true ∨ hand.over r (s.link.core.rows r).text.text = _
    rw [hgiven r]
    exact h.flagged hpc hbefore r hin hown

/-- A turn that has no part in the pieces. -/
theorem Told.turned (h : s.Told) {a : Turn} (hlets : s.lets a = true) {w : Wall}
    (hw : s.toWall.step a = some w) : ({ s with toWall := w } : ShowWall).Told := by
  have hsound := Wall.step_sound h.sound hw
  obtain ⟨hread, hset, hwho⟩ := lets_cases hlets
  by_cases hcheck : a = .check
  · subst hcheck
    have hidle : s.hand = .idle := by
      rcases hwho with hidle | hby | ⟨_, _, _, _, ha⟩
      · exact hidle
      · cases hby
      · cases ha
    obtain ⟨hpc, _, ⟨_, rfl⟩ | ⟨_, rfl⟩⟩ := Wall.check_cases hw
    · -- the core forgets its texts, and the pieces are still those of the old table
      refine ⟨hsound, fun hno => absurd hidle hno, h.table, fun _ _ => rfl, ?_⟩
      exact fun hno => absurd rfl hno
    · refine h.of_link hsound (fun _ => rfl) rfl ?_ fun hno => absurd hidle hno
      rw [hpc]
      exact ⟨fun h => (nomatch h), fun h => (nomatch h)⟩
  · have htexts := Wall.step_texts h.sound hw hcheck hset
    obtain ⟨htable, hstale⟩ := Wall.step_pass hw hread hcheck
    refine h.of_link hsound htexts htable hstale ?_
    intro hbusy
    rcases hwho with hidle | hby | ⟨_, H, r, host, rfl⟩
    · exact absurd hidle hbusy
    · rw [Wall.others_link hw hby]
      exact h.busy hbusy
    · obtain ⟨_, _, _, _, _, rfl⟩ := Wall.call_cases hw
      rfl

/-- The pass takes the table in hand for the wall's text as well. -/
theorem Told.adopt (h : s.Told) (hhand : s.hand = .adopting) :
    ({ s with
      shown := s.shown.wallShowRowsChanged s.link.rowsTable
      hand := .idle, accepted := none, stopped := false } : ShowWall).Told := by
  refine ⟨h.sound, fun hno => absurd rfl hno, fun _ => rfl, ?_, ?_⟩
  · exact fun _ => h.fresh (.inr hhand)
  · intro _ _ r _ _
    exact .inr (h.fresh (.inr hhand) r)

/-- A flag is cleared: its piece is in hand. -/
theorem Told.takeRow (h : s.Told) {row : Nat} (hhand : s.hand = .looking row) {r : RowIx}
    {piece : WallRowShow} {shown : WallShow}
    (htake : s.shown.wallShowTakeRow r = (some piece, shown)) :
    ({ s with shown := shown, hand := .giving r piece } : ShowWall).Told := by
  unfold WallShow.wallShowTakeRow at htake
  split at htake
  · cases htake
  · injection htake with hpiece hshown
    injection hpiece with hpiece
    have hpc := h.busy (by rw [hhand]; exact ShowHand.noConfusion)
    have hnot : s.hand ≠ .adopting := by rw [hhand]; exact ShowHand.noConfusion
    have hstale : s.link.pc ≠ .stale := by rw [hpc]; exact Pc.noConfusion
    rw [← hshown, ← hpiece]
    refine ⟨h.sound, fun _ => hpc, fun _ => h.table hnot, ?_, ?_⟩
    · rintro (hs | hs)
      · exact absurd hs hstale
      · cases hs
    · intro _ _ i hin hown
      by_cases hi : i = r
      · exact .inr (if_pos hi |>.trans (by rw [hi]))
      · have hflag := h.flagged hstale hnot i hin hown
        unfold given at hflag ⊢
        rw [hhand] at hflag
        dsimp only [ShowHand.over] at hflag ⊢
        rw [Function.update_of_ne hi, if_neg hi]
        exact hflag

/-- The piece in hand is given to the core. -/
theorem Told.giveText (h : s.Told) {H : WallLinkHooks} {r : RowIx} {piece : WallRowShow}
    (hhand : s.hand = .giving r piece) {w : Wall}
    (hw : s.toWall.step (.call H (.setText r piece.text piece.speed piece.commitAtMs)) = some w) :
    ({ s with toWall := w, hand := .looking (r.val + 1) } : ShowWall).Told := by
  have hsound := Wall.step_sound h.sound hw
  have hnot : s.hand ≠ .adopting := by rw [hhand]; exact ShowHand.noConfusion
  obtain ⟨hpc, _, _, l, hl, rfl⟩ := Wall.call_cases hw
  injection hl with hl
  subst hl
  refine ⟨hsound, fun _ => rfl, fun _ => h.table hnot, ?_, ?_⟩
  · rintro (hs | hs)
    · cases hs
    · cases hs
  · intro _ _ i hin hown
    have hflag := h.flagged (by rw [hpc]; exact Pc.noConfusion) hnot i hin hown
    refine hflag.imp_right ?_
    unfold given
    rw [hhand]
    show (if i = r then piece.text else (s.link.core.rows i).text.text) =
        (s.shown.segments i).take WALL_ROW_TEXT_MAX →
      ((s.link.whole.setText r piece.text piece.speed piece.commitAtMs).rows i).text.text =
        (s.shown.segments i).take WALL_ROW_TEXT_MAX
    unfold Link.setText
    rw [setRow_rows]
    by_cases hi : i = r
    · subst hi
      rw [Function.update_self, if_pos rfl]
      intro hpiece
      show ((s.link.whole.rows i).text.set _ _ _).text = _
      rw [set_text, hpiece, List.take_take, Nat.min_self]
    · rw [Function.update_of_ne hi, if_neg hi]
      exact id

theorem Told.start (rows : WallRowsTable) : (ShowWall.start rows).Told :=
  ⟨Wall.sound_start rows, fun hno => absurd rfl hno, fun _ => rfl, fun _ _ => rfl,
    fun _ _ _ _ _ => .inr rfl⟩

theorem step_told {a : ShowTurn} (h : s.Told) (hstep : s.step a = some s') : s'.Told := by
  cases a with
  | turn a =>
      unfold ShowWall.step at hstep
      dsimp only at hstep
      split at hstep
      · next hlets =>
          rw [Option.map_eq_some_iff] at hstep
          obtain ⟨w, hw, rfl⟩ := hstep
          exact h.turned hlets hw
      · cases hstep
  | submit content clock =>
      unfold ShowWall.step at hstep
      dsimp only at hstep
      rcases s.shown.submit_stages content clock with hno | ⟨pieces, shown, _, hyes, hstages, _⟩
      · rw [hno] at hstep
        injection hstep with hstep
        rw [← hstep]
        exact h
      · rw [hyes] at hstep
        injection hstep with hstep
        rw [← hstep]
        exact h.stages hstages
  | blank clock =>
      injection hstep with hstep
      rw [← hstep]
      exact h.stages (s.shown.blank_stages clock).1
  | ownShown text =>
      injection hstep with hstep
      rw [← hstep]
      exact h.stages (s.shown.ownShown_stages text)
  | readTable =>
      unfold ShowWall.step at hstep
      rw [Option.map_eq_some_iff] at hstep
      obtain ⟨w, hw, rfl⟩ := hstep
      have hsound := Wall.step_sound h.sound hw
      obtain ⟨hpc, _, rfl⟩ := Wall.readTable_cases hw
      exact ⟨hsound, fun _ => rfl, fun hno => absurd rfl hno, fun _ => h.fresh (.inl hpc),
        fun _ hno => absurd rfl hno⟩
  | adopt =>
      unfold ShowWall.step at hstep
      dsimp only at hstep
      split at hstep
      · next hhand =>
          injection hstep with hstep
          rw [← hstep]
          exact h.adopt hhand
      · cases hstep
  | beginShows =>
      unfold ShowWall.step at hstep
      dsimp only at hstep
      split at hstep
      · next hhand hpc =>
          injection hstep with hstep
          rw [← hstep]
          exact h.moved (by rw [hhand]; exact ShowHand.noConfusion) ShowHand.noConfusion
            (fun _ => hpc) fun r => by unfold given; rw [hhand]; rfl
      · cases hstep
  | takeRow =>
      unfold ShowWall.step at hstep
      dsimp only at hstep
      split at hstep
      · next row hhand =>
          have hnot : s.hand ≠ .adopting := by rw [hhand]; exact ShowHand.noConfusion
          have hgiven : ∀ r, s.given r = (s.link.core.rows r).text.text := by
            intro r
            unfold given
            rw [hhand]
            rfl
          have hpc := h.busy (by rw [hhand]; exact ShowHand.noConfusion)
          split at hstep
          · injection hstep with hstep
            rw [← hstep]
            exact h.moved hnot ShowHand.noConfusion (fun hno => absurd rfl hno) fun r =>
              (hgiven r).symm
          · next r _ =>
              split at hstep
              · next shown htake =>
                  injection hstep with hstep
                  have hsame : shown = s.shown := by
                    unfold WallShow.wallShowTakeRow at htake
                    split at htake
                    · exact (congrArg Prod.snd htake).symm
                    · cases htake
                  rw [← hstep, hsame]
                  exact h.moved hnot ShowHand.noConfusion (fun _ => hpc) fun r => (hgiven r).symm
              · next piece shown htake =>
                  injection hstep with hstep
                  rw [← hstep]
                  exact h.takeRow hhand htake
      · cases hstep
  | giveText H =>
      unfold ShowWall.step at hstep
      dsimp only at hstep
      split at hstep
      · next r piece hhand =>
          rw [Option.map_eq_some_iff] at hstep
          obtain ⟨w, hw, rfl⟩ := hstep
          exact h.giveText hhand hw
      · cases hstep

/-! ## §4. The pieces are the content's, laid over the table in force. -/

/-- The pieces, their table and their content are as they were. -/
theorem Laid.of_same (h : s.Laid) (htable : s'.shown.table = s.shown.table)
    (hsegments : s'.shown.segments = s.shown.segments) (haccepted : s'.accepted = s.accepted)
    (hstopped : s'.stopped = s.stopped) : s'.Laid := by
  refine ⟨?_, ?_, ?_⟩
  · unfold WallShow.inTable
    rw [htable, hsegments]
    exact h.outside
  · rw [haccepted, hstopped, hsegments]
    exact h.empty
  · unfold WallShow.inTable
    rw [haccepted, hstopped, hsegments, htable]
    exact h.laid

theorem Laid.submit (h : s.Laid) {content : WallContent} {pieces : List CStr} {shown : WallShow}
    (hlayout : content.layout s.shown.table = some pieces) (hstages : s.shown.Stages shown)
    (hpieces : ∀ i, shown.segments i =
      if s.shown.inTable i then pieces.getD i.val [] else s.shown.segments i) :
    ({ s with shown := shown, accepted := some content, stopped := false } : ShowWall).Laid := by
  have hin : ∀ i, shown.inTable i = s.shown.inTable i := by
    intro i
    unfold WallShow.inTable
    rw [hstages.table]
  refine ⟨?_, ?_, ?_⟩
  · intro i hi
    replace hi : shown.inTable i = false := hi
    rw [hin i] at hi
    show shown.segments i = []
    rw [hpieces i, hi]
    exact h.outside i hi
  · rintro (hno | hno)
    · cases hno
    · cases hno
  · intro content' haccepted _
    injection haccepted with haccepted
    refine ⟨pieces, ?_, ?_⟩
    · rw [← haccepted]
      show content.layout shown.table = some pieces
      rw [hstages.table]
      exact hlayout
    · intro i hi
      replace hi : shown.inTable i = true := hi
      rw [hin i] at hi
      show shown.segments i = _
      rw [hpieces i, hi]
      rfl

theorem Laid.blank (h : s.Laid) (clock : ShowClock) :
    ({ s with shown := s.shown.wallShowBlank clock, stopped := true } : ShowWall).Laid := by
  have hempty : ∀ i, (s.shown.wallShowBlank clock).segments i = [] := by
    intro i
    refine (s.shown.blank_stages clock).2 i ?_
    cases hi : s.shown.inTable i with
    | false => exact .inl (h.outside i hi)
    | true => exact .inr rfl
  generalize s.shown.wallShowBlank clock = shown at hempty
  exact ⟨fun i _ => hempty i, fun _ => hempty, fun _ _ hno => nomatch hno⟩

theorem step_laid {a : ShowTurn} (h : s.Laid) (hstep : s.step a = some s') : s'.Laid := by
  cases a with
  | turn a =>
      unfold ShowWall.step at hstep
      dsimp only at hstep
      split at hstep
      · rw [Option.map_eq_some_iff] at hstep
        obtain ⟨w, _, rfl⟩ := hstep
        exact h.of_same rfl rfl rfl rfl
      · cases hstep
  | submit content clock =>
      unfold ShowWall.step at hstep
      dsimp only at hstep
      rcases s.shown.submit_stages content clock with hno | ⟨pieces, shown, hlayout, hyes, hstages, hpieces⟩
      · rw [hno] at hstep
        injection hstep with hstep
        rw [← hstep]
        exact h
      · rw [hyes] at hstep
        injection hstep with hstep
        rw [← hstep]
        exact h.submit hlayout hstages hpieces
  | blank clock =>
      injection hstep with hstep
      rw [← hstep]
      exact h.blank clock
  | ownShown text =>
      injection hstep with hstep
      obtain ⟨htable, hsegments, _⟩ := s.shown.ownShown_same text
      rw [← hstep]
      exact h.of_same htable hsegments rfl rfl
  | readTable =>
      unfold ShowWall.step at hstep
      rw [Option.map_eq_some_iff] at hstep
      obtain ⟨w, _, rfl⟩ := hstep
      exact h.of_same rfl rfl rfl rfl
  | adopt =>
      unfold ShowWall.step at hstep
      dsimp only at hstep
      split at hstep
      · injection hstep with hstep
        rw [← hstep]
        exact ⟨fun _ _ => rfl, fun _ _ => rfl, fun _ hno => nomatch hno⟩
      · cases hstep
  | beginShows =>
      unfold ShowWall.step at hstep
      dsimp only at hstep
      split at hstep
      · injection hstep with hstep
        rw [← hstep]
        exact h.of_same rfl rfl rfl rfl
      · cases hstep
  | takeRow =>
      have htaken : ∀ r, (s.shown.wallShowTakeRow r).2.table = s.shown.table ∧
          (s.shown.wallShowTakeRow r).2.segments = s.shown.segments := by
        intro r
        unfold WallShow.wallShowTakeRow
        split <;> exact ⟨rfl, rfl⟩
      unfold ShowWall.step at hstep
      dsimp only at hstep
      split at hstep
      · split at hstep
        · injection hstep with hstep
          rw [← hstep]
          exact h.of_same rfl rfl rfl rfl
        · next r _ =>
            have hr := htaken r
            split at hstep
            · next shown htake =>
                rw [htake] at hr
                injection hstep with hstep
                rw [← hstep]
                exact h.of_same hr.1 hr.2 rfl rfl
            · next piece shown htake =>
                rw [htake] at hr
                injection hstep with hstep
                rw [← hstep]
                exact h.of_same hr.1 hr.2 rfl rfl
      · cases hstep
  | giveText H =>
      unfold ShowWall.step at hstep
      dsimp only at hstep
      split at hstep
      · rw [Option.map_eq_some_iff] at hstep
        obtain ⟨w, _, rfl⟩ := hstep
        exact h.of_same rfl rfl rfl rfl
      · cases hstep

theorem Laid.start (rows : WallRowsTable) : (ShowWall.start rows).Laid :=
  ⟨fun _ _ => rfl, fun _ _ => rfl, fun _ hno => nomatch hno⟩

/-! ## §5. Every run. -/

/-- **No row board misses what the wall is to show**: whenever the link task
has the table adopted and no piece in its hands, as at the end of every pass,
each row board's piece is flagged or is the core's text, the empty one where
none was given; and the pieces are those of the last content, laid over the
table in force. -/
theorem no_row_misses (rows : WallRowsTable) (turns : List ShowTurn) (s : ShowWall)
    (hrun : run ShowWall.step (ShowWall.start rows) turns = some s) :
    (s.link.pc = .top → s.hand = .idle ∧ s.shown.table = s.link.rowsTable) ∧
      (s.link.pc ≠ .stale → s.hand = .idle → ∀ r : RowIx,
        r.val < s.link.rowsTable.rows.length → wallRowsOwn s.link.rowsTable ≠ some r.val →
          s.shown.rowChanged r = true ∨
            (s.link.core.rows r).text.text = (s.shown.segments r).take WALL_ROW_TEXT_MAX) ∧
      s.Laid := by
  have htold : s.Told :=
    run_invariant (P := Told) (fun _ _ _ h hstep => step_told h hstep) (Told.start rows) hrun
  have hlaid : s.Laid :=
    run_invariant (P := Laid) (fun _ _ _ h hstep => step_laid h hstep) (Laid.start rows) hrun
  refine ⟨?_, ?_, hlaid⟩
  · intro hpc
    have hidle : s.hand = .idle := by
      by_contra hbusy
      rw [htold.busy hbusy] at hpc
      cases hpc
    exact ⟨hidle, htold.table (by rw [hidle]; exact ShowHand.noConfusion)⟩
  · intro hpc hidle r hin hown
    have hnot : s.hand ≠ .adopting := by rw [hidle]; exact ShowHand.noConfusion
    have htable := htold.table hnot
    have hflag := htold.flagged hpc hnot r (by unfold WallShow.inTable; rw [htable]; exact decide_eq_true hin)
      (by unfold WallShow.isOwn; rw [htable]; exact decide_eq_false hown)
    unfold given at hflag
    rw [hidle] at hflag
    exact hflag

end ShowWall

end Shows

section Runs

local instance showsCodec : Nanopb := Codec.nanopb

namespace ShowWall

/-- A row board and the master's own row under it. -/
def twoRows : WallRowsTable where
  rows := [{ id := ascii "r01", host := ascii "r", width := 5 }, { row := 1, width := 5 }]

/-- `HELLO WORLD` is submitted, and given to the core by a pass. -/
def showTurns : List ShowTurn :=
  [.submit (.text (ascii "HELLO WORLD") (ascii "left") 80) {}, .turn .check, .beginShows, .takeRow,
    .giveText (.obliging []), .takeRow, .takeRow, .turn .endPass]

theorem no_row_misses_shown :
    ∃ s : ShowWall, run ShowWall.step (ShowWall.start twoRows) showTurns = some s ∧
      (s.link.core.rows 0).text.text = ascii "HELLO" ∧
      (s.link.pc = .top → s.hand = .idle ∧ s.shown.table = s.link.rowsTable) ∧
      (s.link.pc ≠ .stale → s.hand = .idle → ∀ r : RowIx,
        r.val < s.link.rowsTable.rows.length → wallRowsOwn s.link.rowsTable ≠ some r.val →
          s.shown.rowChanged r = true ∨
            (s.link.core.rows r).text.text = (s.shown.segments r).take WALL_ROW_TEXT_MAX) ∧
      s.Laid := by
  have hends : (run ShowWall.step (ShowWall.start twoRows) showTurns).map
      (fun s => (s.link.core.rows 0).text.text) = some (ascii "HELLO") := by
    decide +kernel
  obtain ⟨s, hrun, hs⟩ := Option.map_eq_some_iff.mp hends
  exact ⟨s, hrun, hs, no_row_misses twoRows _ s hrun⟩

end ShowWall

end Runs

end SplitFlap
