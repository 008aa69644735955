/-
  SplitFlap.Wall.Offers — update offers and unit jobs keep out of each other's way.

  An update ends in its row's restart, which would cut a job short: a unit
  could be left half flashed.  The updater and the core's job slots know
  nothing of each other.  `takeJobs` looks at the updater, `offerImage` at the
  slots, and a job is written only by the tick between the two; what holds in
  every state is that the row an offer is out to has an empty slot (`Exclude`).
-/
import SplitFlap.Wall.StagedJobs
import SplitFlap.Wall.Turns
import SplitFlap.Wall.UpdatePolicy

namespace SplitFlap

open Link Machine Log

section Offers

variable [Nanopb]

/-! ## §1. What a turn adds to the log. -/

/-- Neither a job that was accepted nor an image that was offered. -/
def LinkEvent.plain : LinkEvent → Bool
  | .jobAccepted .. | .write _ _ (.update _) _ => false
  | _ => true

omit [Nanopb] in
theorem own_plain (conn : ConnIx) (r : RowIx) (m : WlToRow) (ok : Bool)
    (hm : WlToRow.own m = true) : LinkEvent.plain (.write conn r m ok) = true := by
  cases m with
  | update u => cases hm
  | _ => rfl

omit [Nanopb] in
theorem aside_plain (e : LinkEvent) (he : LinkEvent.aside e = true) :
    LinkEvent.plain e = true := by
  cases e with
  | jobAccepted r op => cases he
  | write conn r m ok => cases he
  | _ => rfl

theorem chats_plain : Chats (Adds fun e => LinkEvent.plain e = true) :=
  .adds aside_plain fun conn r m ok _ hm => own_plain conn r m ok hm

theorem listens_plain (conn : ConnIx) (m : WlToMaster) :
    Listens (Adds fun e => LinkEvent.plain e = true) conn m :=
  .adds chats_plain (fun _ _ => rfl) (fun _ => rfl) (fun _ _ _ _ => rfl) fun _ => rfl

theorem ticks_plain : Ticks (Adds fun e => LinkEvent.plain e = true) :=
  .adds chats_plain own_plain fun _ _ _ => rfl

namespace Wall

variable {s s' : Wall}

/-- A turn that hands the core no job, and is no offer, says plain things. -/
theorem LinkMove.plain {a : Turn} (h : LinkMove s s' a)
    (hstart : ∀ updating nowMs, a ≠ .start updating nowMs)
    (hoffer : ∀ H r u nowMs, a ≠ .tell H (.send r (.update u) nowMs)) :
    ∃ new, s'.link.whole.log = s.link.whole.log ++ new ∧
      ∀ e ∈ new, LinkEvent.plain e = true := by
  cases h with
  | same hcore hlog => exact ⟨[], by rw [hlog, List.append_nil], fun _ he => nomatch he⟩
  | called H c l hcall hturn hcore hlog =>
      rw [hlog]
      by_cases hreset : c = .reset
      · subst hreset
        injection hcall with hcall
        obtain ⟨new, hnew, hsaid⟩ := reset_says s.link.whole
        refine ⟨new, by rw [← hcall]; exact hnew, ?_⟩
        intro e he
        rcases hsaid e he with haside | rfl
        · exact aside_plain e haside
        · rfl
      · refine apply_adds H listens_plain ticks_plain (fun _ => rfl) hturn.starts hreset ?_ hcall
        rintro r order nowMs rfl conn ok
        cases order with
        | update u =>
            cases hturn with
            | call H' c hreads => cases hreads
            | tell H' c htells => exact absurd rfl (hoffer H' r u nowMs)
        | restart => rfl
        | release => rfl
  | started row job nowMs l hturn => exact absurd hturn (hstart _ _)

/-- **An empty slot stays empty**, and nothing is written of a job on it, while
no job is accepted for its row. -/
theorem slot_stays {l l' : Link} (hbefore : l.Follows) (hafter : l'.Follows)
    {new : List LinkEvent} (hlog : l'.log = l.log ++ new) {r : RowIx}
    (hnew : ∀ op, .jobAccepted r op ∉ new) (hidle : (l.rows r).job.stage = .none) :
    (l'.rows r).job.stage = .none ∧ ∀ conn op, .write conn r (.op op) true ∉ new := by
  have hlife : lifeOf (l.rows r).job = .idle := by
    unfold lifeOf
    rw [hidle]
  have haccepted : accepts jobStep .idle (jobLog r new) = some (lifeOf (l'.rows r).job) := by
    have hall := hafter r
    rw [hlog, jobLog, List.filterMap_append, accepts_append] at hall
    rw [show accepts jobStep .idle (l.log.filterMap (jobView r)) = some .idle from
      (hbefore r).trans (congrArg some hlife)] at hall
    exact hall
  have hsame : ∀ e ∈ jobLog r new, e.isAccepted = false := by
    intro je hje
    obtain ⟨e, he, hview⟩ := List.mem_filterMap.mp hje
    cases je with
    | accepted op =>
        rw [jobView_accepted hview] at he
        exact absurd he (hnew op)
    | _ => rfl
  constructor
  · have hstays := accepts_stays hsame haccepted
    unfold lifeOf at hstays
    split at hstays
    · assumption
    · cases hstays
    · cases hstays
  · intro conn op hmem
    have hhanded : JobEvent.handed op ∈ jobLog r new :=
      List.mem_filterMap.mpr ⟨_, hmem, if_pos rfl⟩
    have hneeds := accepts_idle hsame haccepted _ hhanded
    cases hneeds

end Wall

/-! ## §2. The link task with its updater. -/

/-- The part of a row's facts that the offer rule reads. -/
structure WallRowFacts where
  rescue : Bool := false
  rev : CStr := []

/-- The stored row image, as the offer names it. -/
structure FollowerImageFacts where
  rev : CStr := []
  size : UInt32 := 0
  md5 : Bytes := []
  packed : Bool := false

/-- `sizeof(Update.rev)` without the terminator. -/
abbrev WALL_UPDATE_REV_MAX : Nat := 16

/-- The master with its link task's updater.  `outstanding` is kept beside the
code: the rows of the offers that were written and have not ended. -/
structure UpdateWall extends Wall where
  updater : WallUpdater := {}
  facts : RowIx → WallRowFacts := fun _ => {}
  image : Option FollowerImageFacts := none
  passNowMs : UInt32 := 0
  outstanding : List RowIx := []

inductive UpdateTurn where
  /-- A turn that does not touch the updater. -/
  | turn (a : Turn)
  | check (nowMs : UInt32)
  /-- The job in hand goes to the core, unless its row takes an update. -/
  | startJob
  | effect
  /-- `image`: the answer of the image store, when its generation changed. -/
  | offerImage (H : WallLinkHooks) (image : Option (Option FollowerImageFacts))
      (retries : RowIx → Bool)

/-- Turns that the updater has a part in. -/
def Turn.touchesUpdater : Turn → Bool
  | .check | .start .. | .effect => true
  | .tell _ (.send _ (.update _) _) => true
  | _ => false

namespace UpdateWall

def start (rows : WallRowsTable) : UpdateWall := { toWall := Wall.start rows }

/-- `offeredRev`: empty while there is nothing to offer, or its rev is too long
for the link's messages. -/
def offeredRev (s : UpdateWall) : CStr :=
  match s.image with
  | some image => if image.rev.length ≤ WALL_UPDATE_REV_MAX then image.rev else []
  | none => []

/-- `updateEnded`: the updater's answer about this row. -/
def updateEnded (s : UpdateWall) (r : RowIx) (answer : Option WallUpdateEnd × WallUpdater) :
    UpdateWall :=
  { s with
    updater := answer.2
    outstanding := if answer.1.isSome then s.outstanding.erase r else s.outstanding }

/-- What `rowHello` and `rowMessage` do to the updater and the facts. -/
def hooked (s : UpdateWall) : LinkEvent → UpdateWall
  | .rowHello _ r hello restarted =>
      let noted := s.updater.noteRev r (s.facts r).rev hello.rev
      let s := s.updateEnded r
        (noted.hello r hello.rev hello.rescue restarted s.offeredRev s.passNowMs)
      { s with facts := Function.update s.facts r { rescue := hello.rescue, rev := hello.rev } }
  | .rowMessage _ r (.updateState u) =>
      s.updateEnded r (s.updater.answer r u s.offeredRev s.passNowMs)
  | _ => s

/-- The row is in this pass's table, connected and welcomed. -/
def welcomed (s : UpdateWall) (r : RowIx) : Bool :=
  r.val < s.link.rowsTable.ids.length && (s.link.core.rows r).conn.isSome &&
    (s.link.core.rows r).contact.helloSeen

/-- `offerImage`'s view of a row. -/
def view (s : UpdateWall) (r : RowIx) : WallUpdateRow where
  reachable := s.welcomed r && !(s.link.core.rows r).contact.busy &&
    (s.link.core.rows r).job.stage = .none
  rescue := (s.facts r).rescue
  rev := (s.facts r).rev

/-! ### `offerImage`, part by part. -/

/-- The image may be another one. -/
def takeImage (s : UpdateWall) (image : Option (Option FollowerImageFacts)) : UpdateWall :=
  match image with
  | some image => { s with image := image, updater := s.updater.newImage s.passNowMs }
  | none => s

/-- Operators may have asked again. -/
def takeRetries (s : UpdateWall) (retries : RowIx → Bool) : UpdateWall :=
  { s with
    updater := (List.finRange WALL_LINK_MAX_ROWS).foldl
      (fun u r => if r.val < s.link.rowsTable.ids.length ∧ retries r = true then u.retry r else u)
      s.updater }

/-- An offer may have taken too long. -/
def tickOffer (s : UpdateWall) : UpdateWall :=
  match s.updater.phase, s.updater.row with
  | .idle, _ => s
  | _, some r => s.updateEnded r (s.updater.tick s.passNowMs)
  | _, none => { s with updater := (s.updater.tick s.passNowMs).2 }

def noteHealth (s : UpdateWall) : UpdateWall :=
  { s with
    updater := (List.finRange WALL_LINK_MAX_ROWS).foldl
      (fun u r => u.health r (s.welcomed r && !(s.facts r).rescue) s.passNowMs) s.updater }

/-- Up to the choice of a row. -/
def beforeOffer (s : UpdateWall) (image : Option (Option FollowerImageFacts))
    (retries : RowIx → Bool) : UpdateWall :=
  ((s.takeImage image).takeRetries retries).tickOffer.noteHealth

/-- The Update message of the stored image. -/
def offer (s : UpdateWall) : WlUpdate :=
  match s.image with
  | some image => { rev := image.rev, size := image.size, md5 := image.md5, packed := image.packed }
  | none => {}

/-- `offerImage`. -/
def offerImage (s : UpdateWall) (H : WallLinkHooks) (image : Option (Option FollowerImageFacts))
    (retries : RowIx → Bool) : UpdateWall :=
  let s := s.beforeOffer image retries
  match s.updater.nextCandidate s.view s.offeredRev s.passNowMs with
  | none => s
  | some r =>
      let sent := s.link.whole.send (H.withTable s.link.rowsTable) r (.update s.offer) s.passNowMs
      let w : Wall := { s.toWall with link := s.link.called sent.2 .telling }
      if sent.1 then
        { s with
          toWall := w
          updater := s.updater.offered r (s.view r).rescue s.passNowMs
          outstanding := r :: s.outstanding }
      else { s with toWall := w }

def step (s : UpdateWall) : UpdateTurn → Option UpdateWall
  | .turn a =>
      if a.touchesUpdater then none else (s.toWall.step a).map fun w => { s with toWall := w }
  | .check nowMs =>
      (s.toWall.step .check).map fun w =>
        if s.state.generation ≠ s.link.rowsGeneration then
          { s with
            toWall := w, updater := {}, facts := fun _ => {}, passNowMs := nowMs, outstanding := [] }
        else { s with toWall := w, passNowMs := nowMs }
  | .startJob =>
      match s.link.pc with
      | .inHand r _ =>
          (s.toWall.step (.start (s.updater.isOutTo r) s.passNowMs)).map fun w =>
            { s with toWall := w }
      | _ => none
  | .effect =>
      match s.link.todo with
      | [] => none
      | e :: _ => (s.toWall.step .effect).map fun w => ({ s with toWall := w } : UpdateWall).hooked e
  | .offerImage H image retries =>
      match s.link.pc, s.link.todo with
      | .telling, [] => some (s.offerImage H image retries)
      | _, _ => none

/-! ## §3. The row an offer is out to has no job. -/

/-- What every turn keeps. -/
structure Exclude (s : UpdateWall) : Prop where
  sound : s.link.Sound
  named : s.updater.Named
  free : ∀ r, s.updater.row = some r → (s.link.core.rows r).job.stage = .none
  outstanding : s.outstanding = s.updater.row.toList

/-- What a turn writes of jobs and offers: a job to a row without an offer, an
offer to a row without a job. -/
def Apart (s s' : UpdateWall) : Prop :=
  ∃ new, s'.link.whole.log = s.link.whole.log ++ new ∧
    ∀ conn r,
      (∀ op, .write conn r (.op op) true ∈ new →
        s.updater.isOutTo r = false ∧ s'.updater.isOutTo r = false) ∧
      ∀ m, .write conn r (.update m) true ∈ new → (s.link.core.rows r).job.stage = .none

variable {s s' : UpdateWall}

theorem Exclude.sameOffer (h : s.Exclude) {u : WallUpdater} (hsame : s.updater.SameOffer u) :
    ({ s with updater := u } : UpdateWall).Exclude := by
  refine ⟨h.sound, hsame.named h.named, ?_, ?_⟩
  · intro r hr
    replace hr : u.row = some r := hr
    rw [hsame.row] at hr
    exact h.free r hr
  · show s.outstanding = u.row.toList
    rw [hsame.row]
    exact h.outstanding

/-- With the offer over, no row has one. -/
theorem Exclude.updateEnded (h : s.Exclude) {r : RowIx}
    {answer : Option WallUpdateEnd × WallUpdater} (hends : s.updater.Ends r answer) :
    (s.updateEnded r answer).Exclude := by
  unfold UpdateWall.updateEnded
  cases hwhy : answer.1 with
  | none => exact h.sameOffer (hends.same hwhy)
  | some why =>
      obtain ⟨hrow, hidle, hnone⟩ := hends.ended (by rw [hwhy]; exact fun h => nomatch h)
      refine ⟨h.sound, ?_, ?_, ?_⟩
      · exact ⟨fun _ => hnone, fun _ => hidle⟩
      · intro r' hr'
        replace hr' : answer.2.row = some r' := hr'
        rw [hnone] at hr'
        cases hr'
      · show s.outstanding.erase r = answer.2.row.toList
        rw [h.outstanding, hrow, hnone]
        show [r].erase r = []
        rw [List.erase_cons_head]

theorem Exclude.hooked (h : s.Exclude) (e : LinkEvent) : (s.hooked e).Exclude := by
  unfold UpdateWall.hooked
  split
  · next conn r hello restarted =>
      have hnoted := h.sameOffer (s.updater.noteRev_same r (s.facts r).rev hello.rev)
      have hends := hnoted.updateEnded (WallUpdater.hello_ends
        (s.updater.noteRev r (s.facts r).rev hello.rev) r hello.rev hello.rescue restarted
        s.offeredRev s.passNowMs)
      exact ⟨hends.sound, hends.named, hends.free, hends.outstanding⟩
  · exact h.updateEnded (WallUpdater.answer_ends ..)
  · exact h

/-- The wall has taken a turn, and the slot of the row with the offer is empty
as it was. -/
theorem Exclude.turned (h : s.Exclude) {w : Wall} (hsound : w.link.Sound)
    (hfree : ∀ r, s.updater.row = some r → (w.link.core.rows r).job.stage = .none) :
    ({ s with toWall := w } : UpdateWall).Exclude :=
  ⟨hsound, h.named, hfree, h.outstanding⟩

theorem Exclude.tickOffer (h : s.Exclude) :
    s.tickOffer.Exclude ∧ s.tickOffer.toWall = s.toWall := by
  unfold UpdateWall.tickOffer
  split
  · exact ⟨h, rfl⟩
  · next hrow _ => exact ⟨h.updateEnded (WallUpdater.tick_ends hrow _), rfl⟩
  · next hrow hphase => exact (hphase (h.named.mpr hrow)).elim

theorem Exclude.beforeOffer (h : s.Exclude) (image : Option (Option FollowerImageFacts))
    (retries : RowIx → Bool) :
    (s.beforeOffer image retries).Exclude ∧
      (s.beforeOffer image retries).toWall = s.toWall := by
  have himage : (s.takeImage image).Exclude ∧ (s.takeImage image).toWall = s.toWall := by
    unfold UpdateWall.takeImage
    split
    · have hnew := h.sameOffer (s.updater.newImage_same s.passNowMs)
      exact ⟨⟨hnew.sound, hnew.named, hnew.free, hnew.outstanding⟩, rfl⟩
    · exact ⟨h, rfl⟩
  have hretries : ((s.takeImage image).takeRetries retries).Exclude := by
    refine himage.1.sameOffer (WallUpdater.foldl_same ?_ _ _)
    intro u r
    split
    · exact u.retry_same r
    · exact .rfl' u
  obtain ⟨hticked, hwall⟩ := hretries.tickOffer
  refine ⟨hticked.sameOffer (WallUpdater.foldl_same ?_ _ _), hwall.trans himage.2⟩
  exact fun u r => u.health_same r _ _

/-- A row with a job in its slot has no offer out to it. -/
theorem Exclude.busy (h : s.Exclude) {r : RowIx} (hjob : (s.link.core.rows r).job.stage ≠ .none) :
    s.updater.isOutTo r = false := by
  rw [Bool.eq_false_iff]
  intro hout
  rw [WallUpdater.isOutTo, Bool.and_eq_true] at hout
  exact hjob (h.free r (of_decide_eq_true hout.2))

/-- A turn of the wall that says plain things. -/
theorem Exclude.plain (h : s.Exclude) {w : Wall} (hsound : w.link.Sound) {new : List LinkEvent}
    (hlog : w.link.whole.log = s.link.whole.log ++ new)
    (hplain : ∀ e ∈ new, LinkEvent.plain e = true) :
    (∀ r, (s.link.core.rows r).job.stage = .none → (w.link.core.rows r).job.stage = .none) ∧
      ∀ conn r,
        (∀ op, .write conn r (.op op) true ∈ new → s.updater.isOutTo r = false) ∧
        ∀ m, .write conn r (.update m) true ∉ new := by
  have hnew : ∀ r op, .jobAccepted r op ∉ new := by
    intro r op hmem
    have hno := hplain _ hmem
    cases hno
  have hstays := fun r => Wall.slot_stays h.sound.follows hsound.follows hlog (hnew r)
  refine ⟨fun r hidle => (hstays r hidle).1, ?_⟩
  intro conn r
  constructor
  · intro op hmem
    apply h.busy
    intro hidle
    exact (hstays r hidle).2 conn op hmem
  · intro m hmem
    have hno := hplain _ hmem
    cases hno

/-- A turn of the wall in which the core is handed no job, and offered no image:
what the updater does beside it is to keep its offer or to forget it. -/
theorem Exclude.plainTurn (h : s.Exclude) {a : Turn} {w : Wall} (hstep : s.toWall.step a = some w)
    (hstart : ∀ updating nowMs, a ≠ .start updating nowMs)
    (hoffer : ∀ H r u nowMs, a ≠ .tell H (.send r (.update u) nowMs)) :
    w.link.Sound ∧
      (∀ r, (s.link.core.rows r).job.stage = .none → (w.link.core.rows r).job.stage = .none) ∧
      ∀ s' : UpdateWall, s'.toWall = w →
        (∀ r, s.updater.isOutTo r = false → s'.updater.isOutTo r = false) → Apart s s' := by
  have hsound := Wall.step_sound h.sound hstep
  obtain ⟨new, hlog, hplain⟩ := (Wall.step_link h.sound hstep).plain hstart hoffer
  obtain ⟨hfree, hwrites⟩ := h.plain hsound hlog hplain
  refine ⟨hsound, hfree, ?_⟩
  rintro s' rfl hout
  refine ⟨new, hlog, ?_⟩
  intro conn r
  constructor
  · intro op hmem
    have hno := (hwrites conn r).1 op hmem
    exact ⟨hno, hout r hno⟩
  · intro m hmem
    exact absurd hmem ((hwrites conn r).2 m)

/-- The job in hand goes to the core, or not. -/
theorem Exclude.startJob (h : s.Exclude) {r : RowIx} {job : StagedJob} {w : Wall}
    (hpc : s.link.pc = .inHand r job)
    (hstep : s.toWall.step (.start (s.updater.isOutTo r) s.passNowMs) = some w) :
    ({ s with toWall := w } : UpdateWall).Exclude ∧ Apart s { s with toWall := w } := by
  have hsound := Wall.step_sound h.sound hstep
  have hnone : ∀ (conn : ConnIx) (r : RowIx) (new : List LinkEvent),
      (∀ e ∈ new, ∀ m, e ≠ .write conn r m true) →
      (∀ op, .write conn r (.op op) true ∈ new →
        s.updater.isOutTo r = false ∧ s.updater.isOutTo r = false) ∧
      ∀ m, .write conn r (.update m) true ∈ new → (s.link.core.rows r).job.stage = .none :=
    fun conn r new hno => ⟨fun op hmem => absurd rfl (hno _ hmem _),
      fun m hmem => absurd rfl (hno _ hmem _)⟩
  rcases Wall.startJob_moves h.sound hstep with
    ⟨hcore, hlog⟩ | ⟨row, job', l, hout, hpc', hl, hcore, hlog⟩
  · refine ⟨h.turned hsound (by rw [hcore]; exact h.free), [], ?_, ?_⟩
    · rw [List.append_nil]
      exact hlog
    · exact fun conn r => hnone conn r [] fun _ hmem => nomatch hmem
  · rw [hpc'] at hpc
    injection hpc with hr hjob
    subst hr hjob
    have htodo : s.link.todo = [] := h.sound.quiet (by rw [hpc']; exact .inl trivial)
    have hsaid := LinkTask.started_log htodo hl
    refine ⟨h.turned hsound ?_, [.jobAccepted row job'.op], ?_, ?_⟩
    · -- the row with the offer is another one, and its slot is left alone
      intro r hr
      have hother : r ≠ row := by
        rintro rfl
        have hphase : s.updater.phase ≠ .idle := by
          intro hidle
          rw [h.named.mp hidle] at hr
          cases hr
        rw [WallUpdater.isOutTo, hr] at hout
        simp [hphase] at hout
      have hslot := h.free r hr
      rw [hcore, show l = (s.link.whole.startJob row job'.op s.passNowMs).2 by rw [hl]]
      unfold Link.startJob
      dsimp only
      split
      · show (Function.update s.link.core.rows row _ r).job.stage = .none
        rw [Function.update_of_ne hother]
        exact hslot
      · show (Function.update s.link.core.rows row _ r).job.stage = .none
        rw [Function.update_of_ne hother]
        exact hslot
    · show w.link.whole.log = (s.link.said ++ s.link.todo) ++ _
      rw [htodo, List.append_nil, hlog, hsaid]
    · intro conn r
      apply hnone
      intro e hmem m he
      rw [List.mem_singleton] at hmem
      rw [hmem] at he
      cases he

theorem view_reachable (s : UpdateWall) (r : RowIx) (h : (s.view r).reachable = true) :
    (s.link.core.rows r).job.stage = .none := by
  rw [UpdateWall.view, Bool.and_eq_true] at h
  exact of_decide_eq_true h.2

/-- The offer is written, or it is not, and no slot changes. -/
theorem Exclude.sent (h : s.Exclude) (htodo : s.link.todo = []) (H : WallLinkHooks) (r : RowIx)
    (u : WlUpdate) (nowMs : UInt32) :
    let sent := s.link.whole.send (H.withTable s.link.rowsTable) r (.update u) nowMs
    (s.link.called sent.2 .telling).Sound ∧
      (∀ r', (s.link.core.rows r').job.stage = .none → (sent.2.rows r').job.stage = .none) ∧
      ∃ new, (s.link.called sent.2 .telling).whole.log = s.link.whole.log ++ new ∧
        ∀ e ∈ new, ∃ conn ok, e = .write conn r (.update u) ok := by
  intro sent
  have hpath := send_path (H.withTable s.link.rowsTable) s.link.whole r (.update u) nowMs rfl
  have hsound : (s.link.called sent.2 .telling).Sound := by
    refine h.sound.called (H := H) hpath (fun hpc => nomatch hpc) ?_
    rintro (hpc | hpc) <;> cases hpc
  obtain ⟨new, hlog, hnew⟩ : ∃ new, sent.2.log = s.link.whole.log ++ new ∧
      ∀ e ∈ new, ∃ conn ok, e = .write conn r (.update u) ok :=
    send_adds _ s.link.whole r (.update u) nowMs fun conn ok => ⟨conn, ok, rfl⟩
  have hwhole : (s.link.called sent.2 .telling).whole = sent.2 := by
    have hsaid : sent.2.log = s.link.said ++ new := by
      rw [hlog]
      show s.link.said ++ s.link.todo ++ new = _
      rw [htodo, List.append_nil]
    exact LinkTask.called_whole hsaid
  refine ⟨hsound, ?_, new, by rw [hwhole]; exact hlog, hnew⟩
  intro r' hidle
  have hfollows := hsound.follows
  rw [hwhole] at hfollows
  refine (Wall.slot_stays h.sound.follows hfollows hlog ?_ hidle).1
  intro op hmem
  obtain ⟨conn, ok, he⟩ := hnew _ hmem
  cases he

/-- An offer goes to a row without a job. -/
theorem Exclude.offerImage (h : s.Exclude) (htodo : s.link.todo = []) (H : WallLinkHooks)
    (image : Option (Option FollowerImageFacts)) (retries : RowIx → Bool) :
    (s.offerImage H image retries).Exclude ∧ Apart s (s.offerImage H image retries) := by
  obtain ⟨hbefore, hwall⟩ := h.beforeOffer image retries
  unfold UpdateWall.offerImage
  generalize s.beforeOffer image retries = m at hbefore hwall
  have hmtodo : m.link.todo = [] := by
    rw [hwall]
    exact htodo
  dsimp only
  split
  · refine ⟨hbefore, [], ?_, ?_⟩
    · rw [List.append_nil, hwall]
    · exact fun conn r => ⟨fun op hmem => (nomatch hmem), fun m hmem => (nomatch hmem)⟩
  · next r hcandidate =>
      obtain ⟨hidle, hreachable⟩ := WallUpdater.nextCandidate_some hcandidate
      have hslot := m.view_reachable r hreachable
      obtain ⟨hsound, hfree, new, hlog, hnew⟩ := hbefore.sent hmtodo H r m.offer m.passNowMs
      have hapart : ∀ s' : UpdateWall, s'.link = m.link.called
          (m.link.whole.send (H.withTable m.link.rowsTable) r (.update m.offer) m.passNowMs).2
          .telling → Apart s s' := by
        intro s' hs'
        refine ⟨new, ?_, ?_⟩
        · rw [hs', hlog, hwall]
        · intro conn r'
          constructor
          · intro op hmem
            obtain ⟨_, _, he⟩ := hnew _ hmem
            cases he
          · intro u hmem
            obtain ⟨_, _, he⟩ := hnew _ hmem
            injection he with _ hr
            rw [hr, ← hwall]
            exact hslot
      split
      · obtain ⟨hphase, hrow⟩ := m.updater.offered_out r (m.view r).rescue m.passNowMs
        refine ⟨⟨hsound, ?_, ?_, ?_⟩, hapart _ rfl⟩
        · exact ⟨fun hno => absurd hno hphase, fun hno => by rw [hrow] at hno; cases hno⟩
        · intro r' hr'
          replace hr' : (m.updater.offered r (m.view r).rescue m.passNowMs).row = some r' := hr'
          rw [hrow, Option.some.injEq] at hr'
          exact hfree r' (hr' ▸ hslot)
        · show r :: m.outstanding = (m.updater.offered r (m.view r).rescue m.passNowMs).row.toList
          rw [hrow, hbefore.outstanding, hbefore.named.mp hidle]
          rfl
      · have hkeeps := hbefore.turned (w := { m.toWall with
          link := m.link.called
            (m.link.whole.send (H.withTable m.link.rowsTable) r (.update m.offer) m.passNowMs).2
            .telling }) hsound fun r' hr' => hfree r' (hbefore.free r' hr')
        exact ⟨hkeeps, hapart _ rfl⟩

theorem hooked_toWall (s : UpdateWall) (e : LinkEvent) : (s.hooked e).toWall = s.toWall := by
  unfold UpdateWall.hooked
  split <;> rfl

theorem step_apart {a : UpdateTurn} (h : s.Exclude) (hstep : s.step a = some s') :
    s'.Exclude ∧ Apart s s' := by
  cases a with
  | turn a =>
      replace hstep : (if a.touchesUpdater then none
        else (s.toWall.step a).map fun w => ({ s with toWall := w } : UpdateWall)) = some s' := hstep
      split at hstep
      · cases hstep
      · next htouches =>
          rw [Option.map_eq_some_iff] at hstep
          obtain ⟨w, hw, rfl⟩ := hstep
          obtain ⟨hsound, hfree, hapart⟩ := h.plainTurn hw
            (by rintro updating nowMs rfl; exact htouches rfl)
            (by rintro H r u nowMs rfl; exact htouches rfl)
          exact ⟨h.turned hsound fun r hr => hfree r (h.free r hr), hapart _ rfl fun _ hno => hno⟩
  | check nowMs =>
      replace hstep : (s.toWall.step .check).map _ = some s' := hstep
      rw [Option.map_eq_some_iff] at hstep
      obtain ⟨w, hw, rfl⟩ := hstep
      obtain ⟨hsound, hfree, hapart⟩ := h.plainTurn hw (fun _ _ ha => nomatch ha)
        fun _ _ _ _ ha => nomatch ha
      split
      · exact ⟨⟨hsound, ⟨fun _ => rfl, fun _ => rfl⟩, fun r hr => (nomatch hr), rfl⟩,
          hapart _ rfl fun _ _ => rfl⟩
      · have hturned := h.turned hsound fun r hr => hfree r (h.free r hr)
        exact ⟨⟨hsound, hturned.named, hturned.free, hturned.outstanding⟩,
          hapart _ rfl fun _ hno => hno⟩
  | startJob =>
      unfold UpdateWall.step at hstep
      dsimp only at hstep
      split at hstep
      · next r job hpc =>
          rw [Option.map_eq_some_iff] at hstep
          obtain ⟨w, hw, rfl⟩ := hstep
          exact h.startJob hpc hw
      · cases hstep
  | effect =>
      unfold UpdateWall.step at hstep
      dsimp only at hstep
      split at hstep
      · cases hstep
      · next e rest htodo =>
          rw [Option.map_eq_some_iff] at hstep
          obtain ⟨w, hw, rfl⟩ := hstep
          have hsound := Wall.step_sound h.sound hw
          obtain ⟨e', rest', htodo', rfl⟩ := Wall.effect_cases hw
          refine ⟨(h.turned hsound h.free).hooked e, [], ?_, ?_⟩
          · rw [hooked_toWall, List.append_nil]
            show (s.link.said ++ [e']) ++ rest' = s.link.said ++ s.link.todo
            rw [htodo', List.append_assoc]
            rfl
          · exact fun conn r => ⟨fun op hmem => (nomatch hmem), fun m hmem => (nomatch hmem)⟩
  | offerImage H image retries =>
      unfold UpdateWall.step at hstep
      dsimp only at hstep
      split at hstep
      · next hpc htodo =>
          injection hstep with hstep
          rw [← hstep]
          exact h.offerImage htodo H image retries
      · cases hstep

theorem exclude_start (rows : WallRowsTable) : (UpdateWall.start rows).Exclude :=
  ⟨Wall.sound_start rows, ⟨fun _ => rfl, fun _ => rfl⟩, fun _ hr => (nomatch hr), rfl⟩

/-! ## §4. Every run. -/

/-- **Update offers and unit jobs exclude each other**: in every run, no job is
written to a row that an offer is out to, no offer to a row with a job, and one
offer at most is outstanding on the whole wall. -/
theorem offers_and_jobs_exclude (rows : WallRowsTable) (turns : List UpdateTurn) (s : UpdateWall)
    (hrun : run UpdateWall.step (UpdateWall.start rows) turns = some s) :
    (∀ a s', s.step a = some s' → Apart s s') ∧
      (∀ r, s.updater.isOutTo r = true → (s.link.core.rows r).job.stage = .none) ∧
      (∀ r, r ∈ s.outstanding ↔ s.updater.isOutTo r = true) ∧ s.outstanding.length ≤ 1 := by
  have hexclude : s.Exclude :=
    run_invariant (P := Exclude) (fun _ _ _ h hstep => (step_apart h hstep).1) (exclude_start rows)
      hrun
  have hrow : ∀ r, s.updater.isOutTo r = true ↔ s.updater.row = some r := by
    intro r
    rw [WallUpdater.isOutTo, Bool.and_eq_true, decide_eq_true_eq]
    constructor
    · exact fun h => of_decide_eq_true h.2
    · intro hr
      refine ⟨?_, decide_eq_true hr⟩
      intro hidle
      rw [hexclude.named.mp hidle] at hr
      cases hr
  refine ⟨fun a s' hstep => (step_apart hexclude hstep).2, ?_, ?_, ?_⟩
  · exact fun r hout => hexclude.free r ((hrow r).mp hout)
  · intro r
    rw [hrow, hexclude.outstanding]
    cases s.updater.row with
    | none => simp
    | some r' => simp [eq_comm]
  · rw [hexclude.outstanding]
    cases s.updater.row with
    | none => exact Nat.zero_le _
    | some r' => exact Nat.le_refl _

end UpdateWall

end Offers

section Runs

local instance offersCodec : Nanopb := Codec.nanopb

namespace UpdateWall

open Wall

/-- `r01` connects with rev `1`, and is offered rev `2`. -/
def offerTurns : List UpdateTurn :=
  [.check 0, .turn (.call (.obliging []) (.accept 0)), .effect,
    .turn (.call (.obliging [])
      (.bytes 0 [14, 10, 12, 8, 1, 18, 3, 114, 48, 49, 26, 1, 49, 32, 7] 1)),
    .effect, .effect, .effect, .effect, .effect] ++ idleTurns.map .turn ++
    [.offerImage (.obliging []) (some (some { rev := [50] })) fun r => r = 0]

/-- Meanwhile a job is asked for on that row. -/
def refusedTurns : List UpdateTurn :=
  [.effect, .turn (.publish 0), .turn .endPass, .turn (.look 0), .turn (.see 0),
    .turn (.jobBegin 0 0 homeOp "home"), .turn (.jobStage 0), .check 3, .turn .beginTakes,
    .turn .lookStaged, .turn .take, .startJob]

theorem offers_and_jobs_exclude_refused :
    ∃ s : UpdateWall, run UpdateWall.step (UpdateWall.start oneBoard)
        (offerTurns ++ refusedTurns) = some s ∧
      s.outstanding = [0] ∧ (s.state.ops.ops 0).phase = .failed ∧
      (∀ a s', s.step a = some s' → Apart s s') ∧
      (∀ r, s.updater.isOutTo r = true → (s.link.core.rows r).job.stage = .none) ∧
      (∀ r, r ∈ s.outstanding ↔ s.updater.isOutTo r = true) ∧ s.outstanding.length ≤ 1 := by
  have hends : (run UpdateWall.step (UpdateWall.start oneBoard) (offerTurns ++ refusedTurns)).map
      (fun s => (s.outstanding, (s.state.ops.ops 0).phase)) = some ([0], .failed) := by
    decide +kernel
  obtain ⟨s, hrun, hs⟩ := Option.map_eq_some_iff.mp hends
  injection hs with hout hphase
  exact ⟨s, hrun, hout, hphase, offers_and_jobs_exclude oneBoard _ s hrun⟩

end UpdateWall

end Runs

end SplitFlap
