/-
  SplitFlap.Wall.OwnRow — the master's own row follows the wall.

  `wallShowServiceOwnRow` takes the row's piece under `showMutex`, decides and
  puts it on the display queue outside, and takes the mutex again to settle that
  it was shown.  A submit and a Stop have a section of their own and come in
  between: what the pass holds is then what the wall showed before.
-/
import SplitFlap.Lib.Machine
import SplitFlap.Wall.Show

namespace SplitFlap.OwnRowPass

open Machine

/-! ## §1. The piece of the own row. -/

/-- `ownRow`. -/
def ownRow (s : WallShow) : Option RowIx :=
  (wallRowsOwn s.table).bind fun i =>
    if h : i < WALL_LINK_MAX_ROWS then some ⟨i, h⟩ else none

/-- `segments[ownRow]`. -/
def ownPiece (s : WallShow) : CStr :=
  match ownRow s with
  | some i => s.segments i
  | none => []

/-! ## §2. A pass. -/

abbrev OWN_ROW_CHECK_MS : UInt32 := 250

structure WallOwnRow where
  text : CStr := []
  displayText : CStr := []
  pending : Bool := false
  msUntilDue : UInt32 := 0
  reflashing : Bool := false
  notification : Bool := false
  quiet : Bool := false
  displayBusy : Bool := false

inductive WallOwnAction where
  | none | wait | show'
  deriving DecidableEq

def wallOwnRowAction (o : WallOwnRow) : WallOwnAction :=
  if o.pending then
    if 0 < o.msUntilDue ∨ o.reflashing = true then .wait else .show'
  else if o.text = [] then .none
  else if o.notification ∨ o.quiet ∨ o.displayBusy ∨ o.reflashing then .none
  else if o.text = o.displayText then .none
  else .show'

/-- What the pass holds between its sections. -/
inductive Pass where
  | idle
  | read (pending : Bool) (text : CStr) (flapSpeed : Int32)
  | queued (text : CStr)
  deriving DecidableEq

/-- What the pass finds outside the mutex, and whether the display queue has room. -/
structure Outside where
  displayText : CStr := []
  reflashing : Bool := false
  notification : Bool := false
  quiet : Bool := false
  displayBusy : Bool := false
  room : Bool := true

/-- Beside `WallShow.cpp` and the pass stand the texts that went on the display queue for the row
(newest first), whether a Stop emptied the row's piece, and what was made of the piece since the
pass took it. -/
structure OwnRow where
  shown : WallShow
  ownCheckedMs : UInt32 := 0
  pass : Pass := .idle
  queue : List (CStr × Int32) := []
  blanked : Bool := false
  since : Option CStr := none

inductive Turn where
  | submit (content : WallContent) (clock : ShowClock)
  | blank (clock : ShowClock)
  | reads (nowMs : UInt32)
  | decides (o : Outside)
  | settles

namespace OwnRow

/-- The first section: past the tests that return, what `own` and `text` are. -/
def reads (nowMs : UInt32) (r : OwnRow) : OwnRow :=
  if ownRow r.shown = none then r
  else if r.shown.ownPending = false ∧ nowMs - r.ownCheckedMs < OWN_ROW_CHECK_MS then r
  else
    let untilDue := (r.shown.ownDueMs - nowMs).toInt32
    if r.shown.ownPending = true ∧ 0 < untilDue then r
    else
      { r with
        ownCheckedMs := nowMs
        pass := .read r.shown.ownPending (ownPiece r.shown) r.shown.speed
        since := none }

/-- What is judged outside the mutex; a piece that is due has no time to go. -/
def own (pending : Bool) (text : CStr) (o : Outside) : WallOwnRow :=
  { text, pending
    displayText := o.displayText
    reflashing := o.reflashing
    notification := o.notification
    quiet := o.quiet
    displayBusy := o.displayBusy }

/-- Whether the pass puts the text on the display queue. -/
def queues (pending : Bool) (text : CStr) (o : Outside) : Bool :=
  wallOwnRowAction (own pending text o) = .show' && o.room

/-- What stands beside the wall after a submit: a new piece ends what a Stop did. -/
def submitted (shown : WallShow) (r : OwnRow) : OwnRow :=
  { r with
    shown
    blanked := r.blanked && ownPiece shown = ownPiece r.shown
    since := some (ownPiece shown) }

def stopped (shown : WallShow) (r : OwnRow) : OwnRow :=
  { r with shown, blanked := true, since := some (ownPiece shown) }

def step (r : OwnRow) : Turn → Option OwnRow
  | .submit content clock => some (r.submitted (r.shown.submit content clock).2)
  | .blank clock => some (r.stopped (r.shown.wallShowBlank clock))
  | .reads nowMs =>
      match r.pass with
      | .idle => some (r.reads nowMs)
      | _ => none
  | .decides o =>
      match r.pass with
      | .read pending text flapSpeed =>
          some (if queues pending text o then
            { r with pass := .queued text, queue := (text, flapSpeed) :: r.queue }
          else { r with pass := .idle })
      | _ => none
  | .settles =>
      match r.pass with
      | .queued text => some { r with shown := r.shown.ownShown text, pass := .idle }
      | _ => none

/-- `wallShowInit`; the row shows nothing yet. -/
def start (table : WallRowsTable) : OwnRow :=
  { shown := ({} : WallShow).wallShowRowsChanged table }

/-- The text that the row has or will have. -/
def last (r : OwnRow) : CStr :=
  match r.queue with
  | [] => []
  | (text, _) :: _ => text

end OwnRow

/-! ## §3. What is asked of a run. -/

/-- The row's piece waits for its instant, is what the periodic check compares the display with,
was emptied by a Stop, or is the last text that went on the display queue. -/
def Follows (r : OwnRow) : Prop :=
  r.shown.ownPending = true ∨ ownPiece r.shown ≠ [] ∨ r.blanked = true ∨
    r.last = ownPiece r.shown

/-- What goes on the display queue is what the last submit or Stop left the row. -/
def NothingOlder (r : OwnRow) : Turn → Prop
  | .decides o =>
      match r.pass with
      | .read pending text _ => OwnRow.queues pending text o = true → text = ownPiece r.shown
      | _ => True
  | _ => True

theorem NothingOlder.text {r : OwnRow} {o : Outside} (h : NothingOlder r (.decides o))
    {pending : Bool} {text : CStr} {flapSpeed : Int32}
    (hpass : r.pass = .read pending text flapSpeed)
    (hqueues : OwnRow.queues pending text o = true) : text = ownPiece r.shown := by
  unfold NothingOlder at h
  dsimp only at h
  rw [hpass] at h
  exact h hqueues

def FollowsTheWall (r : OwnRow) (a : Turn) : Prop :=
  NothingOlder r a ∧ ∀ r', r.step a = some r' → Follows r'

/-- The submits and Stops since the pass took its text left the row the same one. -/
def Undisturbed (r : OwnRow) : Turn → Prop
  | .decides o =>
      match r.pass with
      | .read pending text _ =>
          OwnRow.queues pending text o = true → r.since = none ∨ r.since = some text
      | _ => True
  | _ => True

/-! ## §4. The sections that change the piece. -/

/-- The own row's piece and flag are as they were, or the piece waits. -/
def Stages (s s' : WallShow) : Prop :=
  s'.table = s.table ∧
    (ownPiece s' = ownPiece s ∧ s'.ownPending = s.ownPending ∨ s'.ownPending = true)

theorem Stages.refl (s : WallShow) : Stages s s := ⟨rfl, .inl ⟨rfl, rfl⟩⟩

theorem Stages.trans {a b c : WallShow} (h : Stages a b) (h' : Stages b c) : Stages a c := by
  refine ⟨h'.1.trans h.1, ?_⟩
  obtain ⟨hpiece', hpending'⟩ | hstaged' := h'.2
  · obtain ⟨hpiece, hpending⟩ | hstaged := h.2
    · exact .inl ⟨hpiece'.trans hpiece, hpending'.trans hpending⟩
    · exact .inr (hpending'.trans hstaged)
  · exact .inr hstaged'

theorem ownRow_isOwn {s : WallShow} {i : RowIx} (h : ownRow s = some i) : s.isOwn i = true := by
  unfold ownRow at h
  rw [Option.bind_eq_some_iff] at h
  obtain ⟨j, hj, hfits⟩ := h
  split at hfits
  · cases hfits
    unfold WallShow.isOwn
    rw [decide_eq_true_iff]
    exact hj
  · cases hfits

/-- A piece is the same when the own row's is. -/
theorem ownPiece_of_segments {s s' : WallShow} (htable : s'.table = s.table)
    (h : ∀ i, ownRow s = some i → s'.segments i = s.segments i) : ownPiece s' = ownPiece s := by
  have hrow : ownRow s' = ownRow s := by
    unfold ownRow
    rw [htable]
  unfold ownPiece
  rw [hrow]
  cases hown : ownRow s with
  | none => rfl
  | some i => exact h i hown

theorem stagePiece_own (pieces : List CStr) (clock : ShowClock) (s : WallShow) (i : RowIx) :
    Stages s (WallShow.stagePiece pieces clock s i) := by
  unfold WallShow.stagePiece
  dsimp only
  split
  · exact Stages.refl s
  · split
    · exact ⟨rfl, .inr rfl⟩
    · rename_i hown
      refine ⟨rfl, .inl ⟨ownPiece_of_segments rfl fun j hj => ?_, rfl⟩⟩
      have hne : j ≠ i := by
        rintro rfl
        exact hown (ownRow_isOwn hj)
      exact Function.update_of_ne hne _ _

theorem stages_foldl {f : WallShow → RowIx → WallShow} (hf : ∀ s i, Stages s (f s i))
    (rows : List RowIx) (s : WallShow) : Stages s (rows.foldl f s) := by
  induction rows generalizing s with
  | nil => exact Stages.refl s
  | cons i rows ih => exact (hf s i).trans (ih (f s i))

/-- **A submit stages the own row's piece, or leaves it.** -/
theorem submit_own (s : WallShow) (content : WallContent) (clock : ShowClock) :
    Stages s (s.submit content clock).2 := by
  unfold WallShow.submit
  split
  · exact Stages.refl s
  · split
    · exact Stages.refl s
    · rename_i pieces _
      dsimp only
      have hrows := stages_foldl (stagePiece_own pieces clock) (List.finRange WALL_LINK_MAX_ROWS)
        (s.takeContent content clock)
      have htaken : Stages s (s.takeContent content clock) :=
        ⟨rfl, .inl ⟨ownPiece_of_segments rfl fun _ _ => rfl, rfl⟩⟩
      exact htaken.trans hrows

/-! ## §5. What holds at every moment. -/

/-- What the pass holds is the piece it took, or one that has been changed. -/
def Holds (r : OwnRow) : Pass → Prop
  | .idle => True
  | .read _ text _ =>
      (r.since = none → text = ownPiece r.shown) ∧
        (∀ piece, r.since = some piece → piece = ownPiece r.shown) ∧
        (text = ownPiece r.shown ∨ r.shown.ownPending = true ∨ r.blanked = true)
  | .queued text => r.last = text

structure Held (r : OwnRow) : Prop where
  follows : Follows r
  pass : Holds r r.pass

theorem Held.start (table : WallRowsTable) : Held (OwnRow.start table) where
  follows := by
    refine .inr (.inr (.inr ?_))
    show [] = ownPiece _
    unfold ownPiece
    split <;> rfl
  pass := trivial

theorem Held.submitted {r : OwnRow} {shown : WallShow} (h : Held r)
    (hstages : Stages r.shown shown) : Held (r.submitted shown) := by
  have hblanked (hsame : ownPiece shown = ownPiece r.shown) :
      (r.blanked && decide (ownPiece shown = ownPiece r.shown)) = r.blanked := by
    rw [decide_eq_true hsame, Bool.and_true]
  constructor
  · show shown.ownPending = true ∨ ownPiece shown ≠ [] ∨
      (r.blanked && decide (ownPiece shown = ownPiece r.shown)) = true ∨ r.last = ownPiece shown
    obtain ⟨hsame, hpending⟩ | hstaged := hstages.2
    · rw [hblanked hsame, hsame, hpending]
      exact h.follows
    · exact .inl hstaged
  · have hpass := h.pass
    show Holds (r.submitted shown) r.pass
    cases hp : r.pass with
    | idle => trivial
    | read pending text flapSpeed =>
        rw [hp] at hpass
        refine ⟨(fun hnone => nomatch hnone), fun piece hpiece => (Option.some.inj hpiece).symm, ?_⟩
        show text = ownPiece shown ∨ shown.ownPending = true ∨ _
        obtain ⟨hsame, hpending⟩ | hstaged := hstages.2
        · unfold OwnRow.submitted
          rw [hblanked hsame, hsame, hpending]
          exact hpass.2.2
        · exact .inr (.inl hstaged)
    | queued text =>
        rw [hp] at hpass
        exact hpass

theorem Held.stopped {r : OwnRow} (h : Held r) (shown : WallShow) : Held (r.stopped shown) := by
  refine ⟨.inr (.inr (.inl rfl)), ?_⟩
  have hpass := h.pass
  show Holds (r.stopped shown) r.pass
  cases hp : r.pass with
  | idle => trivial
  | read pending text flapSpeed =>
      exact ⟨(fun hnone => nomatch hnone), fun piece hpiece => (Option.some.inj hpiece).symm,
        .inr (.inr rfl)⟩
  | queued text =>
      rw [hp] at hpass
      exact hpass

theorem Held.reads {r : OwnRow} (h : Held r) (nowMs : UInt32) : Held (r.reads nowMs) := by
  unfold OwnRow.reads
  split
  · exact h
  · split
    · exact h
    · dsimp only
      split
      · exact h
      · exact ⟨h.follows, fun _ => rfl, (fun _ hsome => nomatch hsome), .inl rfl⟩

/-- What the display is given is then the last it was given. -/
theorem Held.decides {r : OwnRow} (h : Held r) {pending : Bool} {text : CStr} {flapSpeed : Int32}
    (hpass : r.pass = .read pending text flapSpeed) (o : Outside) :
    Held (if OwnRow.queues pending text o then
        { r with pass := .queued text, queue := (text, flapSpeed) :: r.queue }
      else { r with pass := .idle }) := by
  have hholds := h.pass
  rw [hpass] at hholds
  split
  · refine ⟨?_, rfl⟩
    show r.shown.ownPending = true ∨ ownPiece r.shown ≠ [] ∨ r.blanked = true ∨
      text = ownPiece r.shown
    obtain ⟨-, -, hpiece | hpending | hblanked⟩ := hholds
    · exact .inr (.inr (.inr hpiece))
    · exact .inl hpending
    · exact .inr (.inr (.inl hblanked))
  · exact ⟨h.follows, trivial⟩

/-- The flag is cleared under a text that is the row's piece. -/
theorem ownShown_own (s : WallShow) (text : CStr) :
    ownPiece (s.ownShown text) = ownPiece s ∧
      ((s.ownShown text).ownPending = s.ownPending ∨ text = ownPiece s) := by
  obtain ⟨htable, hsegments, -⟩ := s.ownShown_same text
  refine ⟨ownPiece_of_segments htable fun i _ => by rw [hsegments], ?_⟩
  unfold WallShow.ownShown
  split
  · rename_i i hown
    split
    · rename_i hfits
      split
      · rename_i htext
        right
        have hrow : ownRow s = some ⟨i, hfits⟩ := by
          unfold ownRow
          rw [hown, Option.bind_some, dif_pos hfits]
        unfold ownPiece
        rw [hrow]
        exact htext.symm
      · exact .inl rfl
    · exact .inl rfl
  · exact .inl rfl

theorem Held.settles {r : OwnRow} (h : Held r) {text : CStr} (hpass : r.pass = .queued text) :
    Held { r with shown := r.shown.ownShown text, pass := .idle } := by
  have hlast := h.pass
  rw [hpass] at hlast
  have hlast' : r.last = text := hlast
  obtain ⟨hpiece, hpending⟩ := ownShown_own r.shown text
  refine ⟨?_, trivial⟩
  show (r.shown.ownShown text).ownPending = true ∨ ownPiece (r.shown.ownShown text) ≠ [] ∨
    r.blanked = true ∨ r.last = ownPiece (r.shown.ownShown text)
  rw [hpiece]
  obtain hkept | htext := hpending
  · rw [hkept]
    exact h.follows
  · exact .inr (.inr (.inr (hlast'.trans htext)))

theorem Held.step {r r' : OwnRow} (h : Held r) {a : Turn} (hstep : r.step a = some r') :
    Held r' := by
  cases a with
  | submit content clock =>
      rw [show r.step (.submit content clock) = some (r.submitted _) from rfl,
        Option.some.injEq] at hstep
      exact hstep ▸ h.submitted (submit_own r.shown content clock)
  | blank clock =>
      rw [show r.step (.blank clock) = some (r.stopped _) from rfl, Option.some.injEq] at hstep
      exact hstep ▸ h.stopped _
  | reads nowMs =>
      unfold OwnRow.step at hstep
      dsimp only at hstep
      split at hstep
      · cases hstep
        exact h.reads nowMs
      · cases hstep
  | decides o =>
      unfold OwnRow.step at hstep
      dsimp only at hstep
      split at hstep
      · rename_i hpass
        cases hstep
        exact h.decides hpass o
      · cases hstep
  | settles =>
      unfold OwnRow.step at hstep
      dsimp only at hstep
      split at hstep
      · rename_i hpass
        cases hstep
        exact h.settles hpass
      · cases hstep

/-! ## §6. A pass that nothing disturbs. -/

/-- **A piece that is due, or that the row does not show, goes on the display queue**, where
nothing holds the display. -/
theorem pass_queues {r : OwnRow} (hidle : r.pass = .idle) (hrow : ownRow r.shown ≠ none)
    (nowMs : UInt32) (o : Outside) (hroom : o.room = true) (hreflash : o.reflashing = false)
    (hdue : r.shown.ownPending = true ∧ ¬0 < (r.shown.ownDueMs - nowMs).toInt32 ∨
      r.shown.ownPending = false ∧ ¬nowMs - r.ownCheckedMs < OWN_ROW_CHECK_MS ∧
        ownPiece r.shown ≠ [] ∧ ownPiece r.shown ≠ o.displayText ∧ o.notification = false ∧
        o.quiet = false ∧ o.displayBusy = false) :
    ∃ r', run OwnRow.step r [.reads nowMs, .decides o] = some r' ∧
      r'.queue = (ownPiece r.shown, r.shown.speed) :: r.queue := by
  have hreads : r.reads nowMs = { r with
      ownCheckedMs := nowMs
      pass := .read r.shown.ownPending (ownPiece r.shown) r.shown.speed
      since := none } := by
    unfold OwnRow.reads
    rw [if_neg hrow]
    obtain ⟨hpending, hinstant⟩ | ⟨hpending, hcheck, -⟩ := hdue
    · simp only [hpending, Bool.true_eq_false, false_and, if_false, hinstant, and_false]
    · simp only [hpending, hcheck, Bool.false_eq_true, and_false, false_and, if_false]
  have hqueues : OwnRow.queues r.shown.ownPending (ownPiece r.shown) o = true := by
    unfold OwnRow.queues OwnRow.own wallOwnRowAction
    obtain ⟨hpending, -⟩ | ⟨hpending, -, hpiece, hshows, hnotice, hquiet, hbusy⟩ := hdue
    · simp [hpending, hreflash, hroom]
    · simp [hpending, hreflash, hroom, hpiece, hshows, hnotice, hquiet, hbusy]
  have hfirst : r.step (.reads nowMs) = some (r.reads nowMs) := by
    unfold OwnRow.step
    dsimp only
    rw [hidle]
  rw [run_cons, hfirst, hreads]
  dsimp only [Option.bind_some, run_cons, run_nil, OwnRow.step]
  rw [hqueues]
  exact ⟨_, rfl, rfl⟩

/-! ## §7. In every run. -/

/-- The pass queues the piece of the wall as it stands, or one that has gone. -/
theorem Held.follows_iff {r : OwnRow} (h : Held r) (a : Turn) :
    FollowsTheWall r a ↔ Undisturbed r a := by
  have holder : NothingOlder r a ↔ Undisturbed r a := by
    cases a with
    | decides o =>
        have hholds := h.pass
        unfold NothingOlder Undisturbed
        cases hp : r.pass with
        | read pending text flapSpeed =>
            rw [hp] at hholds
            obtain ⟨htook, hchanged, -⟩ := hholds
            show (OwnRow.queues pending text o = true → text = ownPiece r.shown) ↔
              (OwnRow.queues pending text o = true → r.since = none ∨ r.since = some text)
            refine imp_congr_right fun _ => ?_
            cases hsince : r.since with
            | none => exact iff_of_true (htook hsince) (.inl rfl)
            | some piece =>
                rw [← hchanged piece hsince, Option.some.injEq]
                constructor
                · intro hsame
                  exact .inr hsame.symm
                · rintro (hnone | hsame)
                  · cases hnone
                  · exact hsame.symm
        | _ => exact Iff.rfl
    | _ => exact Iff.rfl
  exact ⟨fun hfollows => holder.mp hfollows.1,
    fun hundisturbed => ⟨holder.mpr hundisturbed, fun _ hstep => (h.step hstep).follows⟩⟩

/-- **The own row follows the wall exactly where each text that a pass queues is still what the
submits and Stops since it took it left the row.** -/
theorem follows_the_wall_iff (table : WallRowsTable) (turns : List Turn) :
    AllMeet FollowsTheWall OwnRow.step (OwnRow.start table) turns ↔
      AllMeet Undisturbed OwnRow.step (OwnRow.start table) turns :=
  (AllMeet.of_invariant (P := Held) (fun _ _ _ h hstep => h.step hstep)
    (fun _ a h => h.follows_iff a) (Held.start table) turns).iff_of

theorem twoRows_fit :
    ([{ width := 4 }, { id := ascii "below", row := 1, width := 4 }] : List WallRowDef).length ≤
      WALL_LINK_MAX_ROWS := by
  decide

/-- Two boards of four flaps, the master's above. -/
def twoRows : WallRowsTable where
  rows := [{ width := 4 }, { id := ascii "below", row := 1, width := 4 }]
  fits := twoRows_fit

/-- A Stop between a pass's first section and its queueing: the row gets the text back, and its
piece is empty, so that no later pass has a reason to touch it. -/
theorem text_back_after_stop :
    ¬AllMeet FollowsTheWall OwnRow.step (OwnRow.start twoRows)
      [.submit (.text (ascii "HELLO") (ascii "left") 80) {}, .reads 300, .blank {},
        .decides {}] := by
  intro hfollows
  have hstopped := (hfollows.2 _ rfl).2 _ rfl
  have holder : NothingOlder _ (.decides {}) := ((hstopped.2 _ rfl).1).1
  have htext := holder.text
    (show _ = Pass.read true (ascii "HELL") 80 by decide +kernel) (by decide +kernel)
  exact absurd htext (by decide +kernel)

end SplitFlap.OwnRowPass
