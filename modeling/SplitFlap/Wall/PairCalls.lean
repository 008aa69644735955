/-
  SplitFlap.Wall.PairCalls — what a call of the core does to one row.

  A Hello gives no place but the one its id names and renders the row's text at
  most once; a tick writes nothing but the row's current text and its waiting
  job, to the row's own connection; a message of the row is taken down as it is
  (`CallOf`, `KeepsJob`).  Between the boards that makes sure of who is behind
  a connection (`Wired`).
-/
import SplitFlap.Wall.Pair

namespace SplitFlap

open Machine

section Calls

variable [Nanopb]

namespace Link

/-! ## §1. Calls that render nothing. -/

/-- The message carries this text, under its number. -/
structure Carries (w : WlShow) (t : WallRowText) : Prop where
  renderId : w.renderId = t.renderId
  text : w.text = t.text
  speed : w.speed = t.speed.toUInt32

/-- The same text under the same number, whatever has been written of it. -/
structure SameRender (t t' : WallRowText) : Prop where
  renderId : t'.renderId = t.renderId
  shownId : t'.shownId = t.shownId
  text : t'.text = t.text
  speed : t'.speed = t.speed

omit [Nanopb] in
theorem SameRender.rfl' (t : WallRowText) : SameRender t t := ⟨rfl, rfl, rfl, rfl⟩

omit [Nanopb] in
theorem SameRender.trans {a b c : WallRowText} (h : SameRender a b) (h' : SameRender b c) :
    SameRender a c :=
  ⟨h'.renderId.trans h.renderId, h'.shownId.trans h.shownId, h'.text.trans h.text,
    h'.speed.trans h.speed⟩

/-- What may become of a job when none is started: it is as it was, it is
written, if it `may` be, or it is gone. -/
structure KeepsJob (may : Prop) (j j' : WallRowJob) : Prop where
  waits : j'.stage = .waiting → j' = j
  sends : j'.stage = .sent → j'.op = j.op ∧ (j.stage = .sent ∨ may ∧ j.stage = .waiting)

variable {may : Prop}

omit [Nanopb] in
theorem KeepsJob.rfl' (j : WallRowJob) : KeepsJob may j j :=
  ⟨fun _ => rfl, fun hsent => ⟨rfl, .inl hsent⟩⟩

omit [Nanopb] in
theorem KeepsJob.gone (j : WallRowJob) : KeepsJob may j {} :=
  ⟨fun h => (nomatch h), fun h => (nomatch h)⟩

omit [Nanopb] in
theorem KeepsJob.mono {may' : Prop} {j j' : WallRowJob} (h : KeepsJob may j j')
    (himp : may → may') : KeepsJob may' j j' := by
  refine ⟨h.waits, fun hsent => ?_⟩
  obtain ⟨hop, hstage⟩ := h.sends hsent
  exact ⟨hop, hstage.imp_right fun hwaits => ⟨himp hwaits.1, hwaits.2⟩⟩

omit [Nanopb] in
theorem KeepsJob.trans {a b c : WallRowJob} (h : KeepsJob may a b) (h' : KeepsJob may b c) :
    KeepsJob may a c := by
  refine ⟨?_, ?_⟩
  · intro hc
    have hb := h'.waits hc
    rw [hb] at hc ⊢
    exact h.waits hc
  · intro hc
    obtain ⟨hop, hsent | ⟨hmay, hwaits⟩⟩ := h'.sends hc
    · obtain ⟨hop', hstage⟩ := h.sends hsent
      exact ⟨hop.trans hop', hstage⟩
    · have hsame := h.waits hwaits
      rw [hsame] at hop hwaits
      exact ⟨hop, .inr ⟨hmay, hwaits⟩⟩

omit [Nanopb] in
/-- A job that was none is none. -/
theorem KeepsJob.none {j j' : WallRowJob} (h : KeepsJob may j j') (hnone : j.stage = .none) :
    j'.stage = .none := by
  cases hstage : j'.stage with
  | none => rfl
  | waiting =>
      rw [h.waits hstage, hnone] at hstage
      cases hstage
  | sent =>
      obtain ⟨_, hsent | ⟨_, hwaits⟩⟩ := h.sends hstage
      · rw [hnone] at hsent
        cases hsent
      · rw [hnone] at hwaits
        cases hwaits

/-- A text or a job that is written is the row's own, and goes to its own
connection. -/
def WritesOwn (r : RowIx) (s : Link) : LinkEvent → Prop
  | .write c q (.show w) _ => (s.conns c).row = some q ∧ (q = r → Carries w (s.rows r).text)
  | .write c q (.op o) _ => (s.conns c).row = some q ∧
      (q = r → (s.rows r).job.stage = .waiting ∧ o = (s.rows r).job.op)
  | _ => True

/-- Is this a text, a job or an answer about one? -/
def LinkEvent.matters : LinkEvent → Bool
  | .write _ _ (.show _) _ | .write _ _ (.op _) _ | .rowMessage _ _ (.opState _) => true
  | _ => false

/-- What a call that renders nothing on row `r` does: no connection gets another
row's place; a silent one writes neither texts nor jobs, a loud one only to rows
that are connected. -/
structure Quietly (r : RowIx) (loud : Bool) (s s' : Link) : Prop where
  placed : s'.Placed
  stays : ∀ c q, (s'.conns c).row = some q → (s.conns c).row = some q
  render : SameRender (s.rows r).text (s'.rows r).text
  job : ∀ q, KeepsJob (loud = true ∧ (s.rows q).conn ≠ none) (s.rows q).job (s'.rows q).job
  said : ∃ new, s'.log = s.log ++ new ∧ ∀ e ∈ new, LinkEvent.matters e = false ∨
    loud = true ∧ WritesOwn r s e ∧ ∀ c q state, e ≠ .rowMessage c q (.opState state)

/-- The same, of a core whose rows and connections name each other. -/
def Quiet (r : RowIx) (loud : Bool) (s s' : Link) : Prop := s.Placed → Quietly r loud s s'

variable {r : RowIx} {loud : Bool} {s s' : Link}

/-- What is said of no text and no job, and keeps every place. -/
theorem Quietly.of_same {new : List LinkEvent} (hplaced : s.Placed) (hplaces : SamePlaces s s')
    (htext : SameRender (s.rows r).text (s'.rows r).text)
    (hjob : ∀ q, KeepsJob False (s.rows q).job (s'.rows q).job) (hlog : s'.log = s.log ++ new)
    (hnew : ∀ e ∈ new, LinkEvent.matters e = false) : Quietly r loud s s' := by
  refine ⟨hplaced.of_same hplaces, ?_, htext, fun q => (hjob q).mono False.elim, new, hlog,
    fun e he => .inl (hnew e he)⟩
  intro c q hq
  rwa [hplaces.row] at hq

/-- One event, of a core that is otherwise as it was for the row. -/
theorem Quietly.one {e : LinkEvent} (hplaced : s.Placed) (hplaces : SamePlaces s s')
    (htext : (s'.rows r).text = (s.rows r).text) (hjob : ∀ q, (s'.rows q).job = (s.rows q).job)
    (hlog : s'.log = s.log ++ [e]) (he : LinkEvent.matters e = false) : Quietly r loud s s' := by
  refine .of_same hplaced hplaces (by rw [htext]; exact .rfl' _) ?_ hlog ?_
  · intro q
    rw [hjob]
    exact .rfl' _
  · intro e' he'
    rw [List.mem_singleton.mp he']
    exact he

theorem Quietly.silent (hplaced : s.Placed) (hplaces : SamePlaces s s')
    (htext : (s'.rows r).text = (s.rows r).text) (hjob : ∀ q, (s'.rows q).job = (s.rows q).job)
    (hlog : s'.log = s.log) : Quietly r loud s s' := by
  refine .of_same hplaced hplaces (by rw [htext]; exact .rfl' _) ?_
    (hlog.trans (List.append_nil _).symm) fun _ he => (nomatch he)
  intro q
  rw [hjob]
  exact .rfl' _

theorem Quietly.rfl' (hplaced : s.Placed) : Quietly r loud s s :=
  .silent hplaced (.rfl' s) rfl (fun _ => rfl) rfl

/-- A write that is the row's own is so from where the call began. -/
theorem WritesOwn.before {a b : Link} {e : LinkEvent} (h : Quietly r loud a b)
    (he : WritesOwn r b e) : WritesOwn r a e := by
  unfold WritesOwn at he ⊢
  split at he
  · obtain ⟨hrow, hown⟩ := he
    refine ⟨h.stays _ _ hrow, ?_⟩
    intro hq
    have hcarry := hown hq
    exact ⟨hcarry.renderId.trans h.render.renderId, hcarry.text.trans h.render.text,
      hcarry.speed.trans (by rw [h.render.speed])⟩
  · obtain ⟨hrow, hown⟩ := he
    refine ⟨h.stays _ _ hrow, ?_⟩
    intro hq
    obtain ⟨hstage, hop⟩ := hown hq
    have hsame := (h.job r).waits hstage
    rw [hsame] at hstage hop
    exact ⟨hstage, hop⟩
  · exact trivial

/-- A row that is connected during a call was so before it. -/
theorem Quietly.conn_before {a b : Link} (hplaced : a.Placed) (h : Quietly r loud a b) {q : RowIx}
    (hconn : (b.rows q).conn ≠ none) : (a.rows q).conn ≠ none := by
  intro hnone
  obtain ⟨conn, hconn⟩ := Option.ne_none_iff_exists'.mp hconn
  have hrow := h.stays conn q (h.placed.row_conn q conn hconn).2
  have hsome := (hplaced.conn_row conn q hrow).2
  rw [hnone] at hsome
  cases hsome

theorem Quietly.trans {a b c : Link} (hplaced : a.Placed) (h : Quietly r loud a b)
    (h' : Quietly r loud b c) : Quietly r loud a c := by
  obtain ⟨new, hlog, hnew⟩ := h.said
  obtain ⟨more, hlog', hmore⟩ := h'.said
  refine ⟨h'.placed, fun i q hq => h.stays i q (h'.stays i q hq), h.render.trans h'.render,
    fun q => (h.job q).trans ((h'.job q).mono fun hmay => ⟨hmay.1, h.conn_before hplaced hmay.2⟩),
    new ++ more,
    by rw [hlog', hlog, List.append_assoc], ?_⟩
  intro e he
  rcases List.mem_append.mp he with he | he
  · exact hnew e he
  · rcases hmore e he with hno | ⟨hloud, hown, hnot⟩
    · exact .inl hno
    · exact .inr ⟨hloud, hown.before h, hnot⟩

/-! ## §2. The parts of a call. -/

theorem setRow_text {i : RowIx} {row : WallLinkRow} (h : row.text = (s.rows i).text) (r : RowIx) :
    ((s.setRow i row).rows r).text = (s.rows r).text := by
  rw [setRow_rows, Function.update_apply]
  split
  · next hi =>
      rw [hi]
      exact h
  · rfl

theorem closed_text (s : Link) (conn : ConnIx) (r : RowIx) :
    ((s.closed conn).rows r).text = (s.rows r).text := by
  rw [closed_rows]
  split <;> rfl

/-- A row that keeps its connection, its text and its job. -/
theorem Quietly.row (hplaced : s.Placed) (i : RowIx) {row : WallLinkRow}
    (hconn : row.conn = (s.rows i).conn)
    (hconnected : row.contact.connected = (s.rows i).contact.connected)
    (htext : row.text = (s.rows i).text) (hjob : row.job = (s.rows i).job) :
    Quietly r loud s (s.setRow i row) :=
  .silent hplaced (.setRow s i row hconn hconnected) (setRow_text htext r) (setRow_job hjob) rfl

theorem chats_quiet (r : RowIx) (loud : Bool) : Chats (Quiet r loud) where
  refl s hplaced := .rfl' hplaced
  trans h h' hplaced := (h hplaced).trans hplaced (h' (h hplaced).placed)
  aside s e he hplaced := by
    refine .one hplaced (.emit s e) rfl (fun _ => rfl) rfl ?_
    cases e <;> first | rfl | cases he
  closed s conn hplaced := by
    refine ⟨hplaced.closed conn, ?_, by rw [closed_text]; exact .rfl' _, ?_, [],
      by rw [closed_log, List.append_nil], fun _ he => (nomatch he)⟩
    · intro c q hq
      rw [closed_conns] at hq
      split at hq
      · cases hq
      · exact hq
    · intro q
      rw [closed_job]
      exact .rfl' _
  flagged s i quietSent configSent hostSent logTold hplaced := .row hplaced i rfl rfl rfl rfl
  wrote s conn i m ok nowMs hchores _ hplaced := by
    refine .one hplaced (.wrote s conn i m ok nowMs) (wrote_text ..) (fun _ => wrote_job ..)
      (wrote_log ..) ?_
    cases m <;> first | rfl | cases hchores

theorem asked_quiet (r : RowIx) (loud : Bool) (s : Link) (id : CStr) (answer : Int) :
    Quiet r loud s (s.emit (.rowForId id answer)) :=
  fun hplaced => .one hplaced (.emit s _) rfl (fun _ => rfl) rfl rfl

theorem showed_places (s : Link) (conn : ConnIx) (i : RowIx) (ok : Bool) (nowMs : UInt32) :
    SamePlaces s (s.showed conn i ok nowMs) := by
  unfold showed
  cases ok with
  | false => exact .wrote s conn i _ false nowMs
  | true => exact (SamePlaces.wrote s conn i _ true nowMs).trans (.setRow _ i _ rfl rfl)

theorem showed_render (s : Link) (conn : ConnIx) (i : RowIx) (ok : Bool) (nowMs : UInt32)
    (r : RowIx) : SameRender (s.rows r).text ((s.showed conn i ok nowMs).rows r).text := by
  unfold showed
  cases ok with
  | false =>
      dsimp only
      rw [if_neg Bool.false_ne_true, wrote_text]
      exact .rfl' _
  | true =>
      dsimp only
      rw [if_pos rfl, setRow_rows, Function.update_apply]
      split
      · next hi =>
          rw [hi]
          exact ⟨rfl, rfl, rfl, rfl⟩
      · rw [wrote_text]
        exact .rfl' _

theorem handed_text (s : Link) (conn : ConnIx) (i : RowIx) (ok : Bool) (nowMs : UInt32)
    (r : RowIx) : ((s.handed conn i ok nowMs).rows r).text = (s.rows r).text := by
  unfold handed
  cases ok with
  | false =>
      dsimp only
      rw [if_neg Bool.false_ne_true, wrote_text]
  | true =>
      dsimp only
      rw [if_pos rfl, ← wrote_text s conn i r (.op (s.rows i).job.op) true nowMs]
      apply setRow_text
      rfl

theorem handed_places (s : Link) (conn : ConnIx) (i : RowIx) (ok : Bool) (nowMs : UInt32) :
    SamePlaces s (s.handed conn i ok nowMs) := by
  unfold handed
  cases ok with
  | false => exact .wrote s conn i _ false nowMs
  | true => exact (SamePlaces.wrote s conn i _ true nowMs).trans (.setRow _ i _ rfl rfl)

theorem handed_job (s : Link) (conn : ConnIx) (i : RowIx) (ok : Bool) (nowMs : UInt32)
    (hwaits : (s.rows i).job.stage = .waiting) (q : RowIx) :
    KeepsJob (q = i) (s.rows q).job ((s.handed conn i ok nowMs).rows q).job := by
  unfold handed
  cases ok with
  | false =>
      dsimp only
      rw [if_neg Bool.false_ne_true, wrote_job]
      exact .rfl' _
  | true =>
      dsimp only
      rw [if_pos rfl, setRow_rows, Function.update_apply]
      split
      · next hq =>
          rw [hq]
          exact ⟨fun h => (nomatch h), fun _ => ⟨rfl, .inr ⟨rfl, hwaits⟩⟩⟩
      · rw [wrote_job]
        exact .rfl' _

/-- A job that is given up is gone. -/
theorem gaveUp_quiet (s : Link) (i : RowIx) (nowMs : UInt32) :
    Quiet r loud s (s.tickJob i nowMs) := by
  intro hplaced
  have hplaces := SamePlaces.tickJob s i nowMs
  unfold tickJob at hplaces ⊢
  split
  · exact .rfl' hplaced
  · next why hwhy =>
      rw [hwhy] at hplaces
      have htext : ∀ q, ((s.setRow i { s.rows i with job := {} }).rows q).text =
          (s.rows q).text := by
        intro q
        apply setRow_text
        rfl
      have hlog : ((s.setRow i { s.rows i with job := {} }).emit
          (.jobEnded i (s.rows i).job.op.opId why)).log =
            s.log ++ [.jobEnded i (s.rows i).job.op.opId why] := rfl
      refine .of_same hplaced hplaces ?_ ?_ hlog ?_
      · rw [emit_rows, htext]
        exact .rfl' _
      · intro q
        rw [emit_rows, setRow_rows, Function.update_apply]
        split
        · exact .gone _
        · exact .rfl' _
      · intro e he
        rw [List.mem_singleton.mp he]
        rfl

/-- A tick writes no text but the current one and no job but the waiting one,
each to its row's own connection. -/
theorem works_quiet (r : RowIx) : Works (Quiet r true) where
  toChats := chats_quiet r true
  gaveUp s i nowMs := gaveUp_quiet s i nowMs
  showed s conn i ok nowMs hconn _ hplaced := by
    have hplaces := showed_places s conn i ok nowMs
    refine ⟨hplaced.of_same hplaces, ?_, showed_render .., ?_, [_], showed_log .., ?_⟩
    · intro c q hq
      rwa [hplaces.row] at hq
    · intro q
      rw [showed_job]
      exact .rfl' _
    · intro e he
      rw [List.mem_singleton.mp he]
      refine .inr ⟨rfl, ⟨(hplaced.row_conn i conn hconn).2, ?_⟩, fun _ _ _ h => (by cases h)⟩
      intro hi
      rw [hi]
      exact ⟨rfl, rfl, rfl⟩
  handed s conn i ok nowMs hconn hdue hplaced := by
    have hplaces := handed_places s conn i ok nowMs
    have hwaits : (s.rows i).job.stage = .waiting := by
      simp only [WallRowJob.due, Bool.and_eq_true, decide_eq_true_eq] at hdue
      exact hdue.1.1.1
    refine ⟨hplaced.of_same hplaces, ?_, by rw [handed_text]; exact .rfl' _,
      ?_, [_], handed_log .., ?_⟩
    · intro c q hq
      rwa [hplaces.row] at hq
    · intro q
      refine (handed_job s conn i ok nowMs hwaits q).mono fun hq => ⟨rfl, ?_⟩
      rw [hq, hconn]
      exact Option.some_ne_none conn
    · intro e he
      rw [List.mem_singleton.mp he]
      refine .inr ⟨rfl, ⟨(hplaced.row_conn i conn hconn).2, ?_⟩, fun _ _ _ h => (by cases h)⟩
      intro hi
      rw [← hi]
      exact ⟨hwaits, rfl⟩

theorem occupy_quiet {conn : ConnIx} (nowMs : UInt32) (hclosed : (s.conns conn).isOpen = false) :
    Quiet r loud s (s.occupy conn nowMs) := by
  intro hplaced
  refine ⟨hplaced.occupied conn nowMs hclosed, ?_, .rfl' _, fun _ => .rfl' _, [.accepted conn], rfl,
    ?_⟩
  · intro c q hq
    have hconns : (s.occupy conn nowMs).conns =
        Function.update s.conns conn { isOpen := true, openedAtMs := nowMs } := rfl
    rw [hconns, Function.update_apply] at hq
    split at hq
    · cases hq
    · exact hq
  · intro e he
    rw [List.mem_singleton.mp he]
    exact .inl rfl

theorem accept_quiet (hplaced : s.Placed) (nowMs : UInt32) :
    Quietly r loud s (s.accept nowMs).2 ∧
      ∀ slot, (s.accept nowMs).1 = some slot → ((s.accept nowMs).2.conns slot).row = none := by
  have hnobody : ∀ (s : Link) slot, ((s.occupy slot nowMs).conns slot).row = none := by
    intro s slot
    simp [occupy]
  unfold accept
  split
  · next slot hslot =>
      refine ⟨occupy_quiet nowMs (freeSlot_closed hslot) hplaced, ?_⟩
      intro slot' hslot'
      injection hslot' with hslot'
      rw [← hslot']
      exact hnobody s slot
  · split
    · exact ⟨.rfl' hplaced, fun _ h => (by cases h)⟩
    · next slot _ =>
        refine ⟨(chats_quiet r loud).trans ((chats_quiet r loud).drop s slot _)
          (occupy_quiet nowMs (drop_closed s slot _)) hplaced, ?_⟩
        intro slot' hslot'
        injection hslot' with hslot'
        rw [← hslot']
        exact hnobody _ slot

/-- What the link task tells the core, but for a text and a job. -/
theorem call_quiet (H : WallLinkHooks) {c : Call} (hstarts : c.starts = false)
    (htells : c.tellsCore = true) (hset : ∀ i text speed at', c ≠ .setText i text speed at')
    (h : s.apply H c = some s') : Quiet r loud s s' := by
  intro hplaced
  cases c with
  | setText i text speed commitAtMs => exact absurd rfl (hset i text speed commitAtMs)
  | startJob i op nowMs => cases hstarts
  | setQuiet on =>
      injection h with h
      rw [← h]
      unfold setQuiet
      split
      · exact .rfl' hplaced
      · exact .silent hplaced ⟨fun _ => rfl, fun _ => rfl, fun _ => rfl, fun _ => rfl⟩ rfl
          (fun _ => rfl) rfl
  | setConfig next =>
      injection h with h
      rw [← h]
      unfold setConfig
      split
      · exact .rfl' hplaced
      · exact .silent hplaced ⟨fun _ => rfl, fun _ => rfl, fun _ => rfl, fun _ => rfl⟩ rfl
          (fun _ => rfl) rfl
  | setHost i host =>
      injection h with h
      rw [← h]
      unfold setHost
      split
      · exact .rfl' hplaced
      · exact .row hplaced i rfl rfl rfl rfl
  | setLogWanted i wanted =>
      injection h with h
      rw [← h]
      exact .row hplaced i rfl rfl rfl rfl
  | send i order nowMs =>
      injection h with h
      rw [← h]
      rcases send_cases H s i order.toRow nowMs with h | ⟨conn, ok, _, h⟩
      · rw [h]
        exact .rfl' hplaced
      · rw [h]
        refine .one hplaced (.wrote s conn i _ ok nowMs) (wrote_text ..) (fun _ => wrote_job ..)
          (wrote_log ..) ?_
        cases order <;> rfl
  | _ => cases htells

/-! ## §3. Any call. -/

/-- The text is the same, or rendered once more. -/
def Renders (t t' : WallRowText) : Prop :=
  (t'.renderId = t.renderId ∧ t'.text = t.text ∧ t'.speed = t.speed) ∨
    t'.renderId = t.renderId + 1

/-- What a call of the core may do that is given, if any, this message of a
connection.  Only a loud one writes a job. -/
structure CallOf (P : PairedRow) (loud : Bool) (heard : Option (ConnIx × WlToMaster))
    (s s' : Link) : Prop where
  placed : s'.Placed
  stays : ∀ c q, (s'.conns c).row = some q → (s.conns c).row = some q ∨
    ∃ h, heard = some (c, .hello h) ∧ knownRow (wallRowsFind P.table h.id) = some q
  render : Renders (s.rows P.row).text (s'.rows P.row).text
  shown : (s'.rows P.row).text.shownId = (s.rows P.row).text.shownId ∨
    ∃ c lateMs, heard = some (c, .shown (s'.rows P.row).text.shownId lateMs) ∧
      (s.conns c).row = some P.row
  others : ∀ q, q ≠ P.row → (s.rows q).job.stage = .none → (s'.rows q).job.stage = .none
  said : ∃ new, s'.log = s.log ++ new ∧ ∀ e ∈ new, WritesOwn P.row s e ∧
    (∀ c q o ok, e = .write c q (.op o) ok → loud = true) ∧
    ∀ c q state, e = .rowMessage c q (.opState state) →
      heard = some (c, .opState state) ∧ (s.conns c).row = some q ∧
        (s.rows q).job.stage = .sent ∧ state.opId = (s.rows q).job.op.opId

variable {P : PairedRow} {heard : Option (ConnIx × WlToMaster)}

theorem writesOwn_of_matters {e : LinkEvent} (h : LinkEvent.matters e = false) :
    WritesOwn r s e := by
  unfold WritesOwn
  split
  · cases h
  · cases h
  · exact trivial

/-- A silent call writes no job. -/
theorem Quietly.jobs (h : Quietly r false s s') (q : RowIx) :
    KeepsJob False (s.rows q).job (s'.rows q).job :=
  (h.job q).mono fun hmay => Bool.false_ne_true hmay.1

theorem Quietly.callOf (h : Quietly P.row loud s s') : CallOf P loud heard s s' := by
  obtain ⟨new, hlog, hnew⟩ := h.said
  refine ⟨h.placed, fun c q hq => .inl (h.stays c q hq),
    .inl ⟨h.render.renderId, h.render.text, h.render.speed⟩, .inl h.render.shownId,
    fun q _ hnone => (h.job q).none hnone, new, hlog, ?_⟩
  intro e he
  rcases hnew e he with hno | ⟨hloud, hown, hnot⟩
  · refine ⟨writesOwn_of_matters hno, ?_, ?_⟩
    · rintro c q o ok rfl
      cases hno
    · rintro c q state rfl
      cases hno
  · exact ⟨hown, fun _ _ _ _ _ => hloud, fun c q state hstate => absurd hstate (hnot c q state)⟩

/-! ### A message of a welcomed row. -/

omit [Nanopb] in
/-- A Shown is taken down as it is. -/
theorem rowHears_shown {row : WallLinkRow} {m : WlToMaster} {nowMs : UInt32} :
    Renders row.text (rowHears row m nowMs).1.text ∧
      ((rowHears row m nowMs).1.text.shownId = row.text.shownId ∨
        ∃ lateMs, m = .shown (rowHears row m nowMs).1.text.shownId lateMs) := by
  cases m with
  | shown renderId lateMs => exact ⟨.inl ⟨rfl, rfl, rfl⟩, .inr ⟨lateMs, rfl⟩⟩
  | _ => exact ⟨.inl ⟨rfl, rfl, rfl⟩, .inl rfl⟩

omit [Nanopb] in
/-- An OpState is about the job that is written and has its id, or is nothing to
the core. -/
theorem rowHears_job {row : WallLinkRow} {m : WlToMaster} {nowMs : UInt32} :
    KeepsJob False row.job (rowHears row m nowMs).1.job ∧
      ∀ state, m = .opState state → (rowHears row m nowMs).2 = true →
        row.job.stage = .sent ∧ state.opId = row.job.op.opId := by
  cases m with
  | opState state =>
      unfold rowHears WallRowJob.answer
      dsimp only
      split
      · exact ⟨.rfl' _, fun _ _ htold => absurd htold Bool.false_ne_true⟩
      · next hours =>
          rw [not_or, not_not, not_not] at hours
          refine ⟨?_, ?_⟩
          · split
            · exact .gone _
            · exact .rfl' _
          · intro state' hstate _
            injection hstate with hstate
            rw [← hstate]
            exact hours
  | _ => exact ⟨.rfl' _, fun _ h => (nomatch h)⟩

theorem hear_callOf (hplaced : s.Placed) {conn : ConnIx} {q : RowIx}
    (hrow : (s.conns conn).row = some q) (m : WlToMaster) (nowMs : UInt32) :
    CallOf P loud (some (conn, m)) s (s.hear conn q m nowMs) ∧
      ∀ i, KeepsJob False (s.rows i).job ((s.hear conn q m nowMs).rows i).job := by
  have hplaces := SamePlaces.hear s conn q m nowMs
  have hrows : (s.hear conn q m nowMs).rows =
      Function.update s.rows q (rowHears (s.rows q) m nowMs).1 := by
    unfold hear
    dsimp only
    split <;> rfl
  have hjobs : ∀ i, KeepsJob False (s.rows i).job ((s.hear conn q m nowMs).rows i).job := by
    intro i
    rw [hrows, Function.update_apply]
    split
    · next hi =>
        rw [hi]
        exact rowHears_job.1
    · exact .rfl' _
  refine ⟨⟨hplaced.of_same hplaces, ?_, ?_, ?_, fun i _ hnone => (hjobs i).none hnone, ?_⟩, hjobs⟩
  · intro c i hi
    rw [hplaces.row] at hi
    exact .inl hi
  · rw [hrows, Function.update_apply]
    split
    · next hi =>
        rw [hi]
        exact rowHears_shown.1
    · exact .inl ⟨rfl, rfl, rfl⟩
  · rw [hrows, Function.update_apply]
    split
    · next hi =>
        rw [hi]
        rcases rowHears_shown.2 with hsame | ⟨lateMs, hm⟩
        · exact .inl hsame
        · exact .inr ⟨conn, lateMs, by rw [← hm], hrow⟩
    · exact .inl rfl
  · by_cases htold : (rowHears (s.rows q) m nowMs).2 = true
    · refine ⟨[.rowMessage conn q m], by simp [hear, htold], ?_⟩
      intro e he
      rw [List.mem_singleton.mp he]
      refine ⟨trivial, fun _ _ _ _ h => (by cases h), ?_⟩
      intro c i state hstate
      injection hstate with hc hi hm
      obtain ⟨hstage, hid⟩ := rowHears_job.2 state hm htold
      rw [← hc, ← hi, hm]
      exact ⟨rfl, hrow, hstage, hid⟩
    · exact ⟨[], by simp [hear, htold], fun _ he => (by cases he)⟩

/-! ### A Hello. -/

theorem welcomed_places (s : Link) (conn : ConnIx) (q : RowIx) (h : WlHello) (nowMs : UInt32) :
    SamePlaces s (s.welcomed conn q h nowMs) := by
  unfold welcomed
  refine SamePlaces.trans ?_ (.emit _ _)
  exact .setRow s q _ rfl rfl

theorem welcomed_render (s : Link) (conn : ConnIx) (q : RowIx) (h : WlHello) (nowMs : UInt32)
    (r : RowIx) : Renders (s.rows r).text ((s.welcomed conn q h nowMs).rows r).text ∧
      ((s.welcomed conn q h nowMs).rows r).text.shownId = (s.rows r).text.shownId := by
  unfold welcomed
  dsimp only
  rw [emit_rows, setRow_rows, Function.update_apply]
  split
  · next hq =>
      rw [hq]
      dsimp only
      unfold WallRowText.resend
      split
      · exact ⟨.inl ⟨rfl, rfl, rfl⟩, rfl⟩
      · exact ⟨.inr rfl, rfl⟩
  · exact ⟨.inl ⟨rfl, rfl, rfl⟩, rfl⟩

theorem welcomed_job (s : Link) (conn : ConnIx) (q : RowIx) (h : WlHello) (nowMs : UInt32)
    (i : RowIx) : KeepsJob False (s.rows i).job ((s.welcomed conn q h nowMs).rows i).job := by
  unfold welcomed
  dsimp only
  rw [emit_rows, setRow_rows, Function.update_apply]
  split
  · next hq =>
      rw [hq]
      dsimp only
      split
      · exact .gone _
      · exact .rfl' _
  · exact .rfl' _

/-- A silent part of a call before or after the one step that is not quiet. -/
theorem CallOf.then (h : CallOf P loud heard s s') {s'' : Link} (h' : Quiet P.row false s' s'') :
    CallOf P loud heard s s'' := by
  have hq := h' h.placed
  obtain ⟨new, hlog, hnew⟩ := h.said
  obtain ⟨more, hlog', hmore⟩ := hq.said
  refine ⟨hq.placed, fun c q hc => h.stays c q (hq.stays c q hc), ?_, ?_,
    fun q hne hnone => (hq.job q).none (h.others q hne hnone), new ++ more,
    by rw [hlog', hlog, List.append_assoc], ?_⟩
  · rcases h.render with ⟨hid, htext, hspeed⟩ | hnext
    · exact .inl ⟨hq.render.renderId.trans hid, hq.render.text.trans htext,
        hq.render.speed.trans hspeed⟩
    · exact .inr (hq.render.renderId.trans hnext)
  · rw [hq.render.shownId]
    exact h.shown
  · intro e he
    rcases List.mem_append.mp he with he | he
    · exact hnew e he
    · rcases hmore e he with hno | ⟨hloud, _, _⟩
      · refine ⟨writesOwn_of_matters hno, ?_, ?_⟩
        · rintro c q o ok rfl
          cases hno
        · rintro c q state rfl
          cases hno
      · cases hloud

theorem hello_callOf (H : WallLinkHooks) (hplaced : s.Placed) {conn : ConnIx} (h : WlHello)
    (nowMs : UInt32) (hopen : (s.conns conn).isOpen = true) (hnobody : (s.conns conn).row = none) :
    CallOf P false (some (conn, .hello h)) s (s.hello (H.withTable P.table) conn h nowMs) ∧
      ∀ i, KeepsJob False (s.rows i).job ((s.hello (H.withTable P.table) conn h nowMs).rows i).job := by
  rcases (chats_quiet P.row false).hello_parts (H.withTable P.table) (asked_quiet P.row false) hplaced
    h nowMs hopen hnobody with hquiet | ⟨s₁, q, hfirst, hknown, hopen₁, hnobody₁, hfree, hrest⟩
  · exact ⟨(hquiet hplaced).callOf, (hquiet hplaced).jobs⟩
  · have hone := hfirst hplaced
    obtain ⟨new, hlog, hnew⟩ := hone.said
    have hsame : ∀ i, ((s₁.seat conn q nowMs).rows i).text = (s₁.rows i).text ∧
        ((s₁.seat conn q nowMs).rows i).job = (s₁.rows i).job := by
      intro i
      refine ⟨?_, ?_⟩
      · apply setRow_text
        rfl
      · apply setRow_job
        rfl
    have hseat : CallOf P false (some (conn, .hello h)) s (s₁.seat conn q nowMs) := by
      refine ⟨hone.placed.seated conn q nowMs hopen₁ hnobody₁ hfree, ?_, ?_, ?_, ?_, ?_⟩
      · intro c i hi
        by_cases hc : c = conn
        · have hrow : ((s₁.seat conn q nowMs).conns conn).row = some q := by simp [seat]
          rw [hc, hrow] at hi
          rw [hc, ← hi]
          exact .inr ⟨h, rfl, hknown⟩
        · have hrow : ((s₁.seat conn q nowMs).conns c).row = (s₁.conns c).row := by simp [seat, hc]
          rw [hrow] at hi
          exact .inl (hone.stays c i hi)
      · rw [(hsame _).1]
        exact .inl ⟨hone.render.renderId, hone.render.text, hone.render.speed⟩
      · rw [(hsame _).1]
        exact .inl hone.render.shownId
      · intro i _ hnone
        rw [(hsame i).2]
        exact (hone.job i).none hnone
      · refine ⟨new ++ [.admitted conn q], ?_, ?_⟩
        · show s₁.log ++ _ = _
          rw [hlog, List.append_assoc]
        · intro e he
          rcases List.mem_append.mp he with he | he
          · rcases hnew e he with hno | ⟨hloud, _, _⟩
            · refine ⟨writesOwn_of_matters hno, ?_, ?_⟩
              · rintro c i o ok rfl
                cases hno
              · rintro c i state rfl
                cases hno
            · cases hloud
          · rw [List.mem_singleton.mp he]
            exact ⟨trivial, fun _ _ _ _ h => (by cases h), fun _ _ _ h => (by cases h)⟩
    have hjob : ∀ i, KeepsJob False (s.rows i).job ((s₁.seat conn q nowMs).rows i).job := by
      intro i
      rw [(hsame i).2]
      exact hone.jobs i
    rcases hrest with hquiet | ⟨s₂, hmid, hlast⟩
    · exact ⟨hseat.then hquiet, fun i => (hjob i).trans ((hquiet hseat.placed).jobs i)⟩
    · have hquiet := hmid hseat.placed
      have htwo := hseat.then hmid
      have hplaces := welcomed_places s₂ conn q h nowMs
      obtain ⟨hrender, hshown⟩ := welcomed_render s₂ conn q h nowMs P.row
      obtain ⟨more, hlog', hmore⟩ := htwo.said
      have hwelcomed : CallOf P false (some (conn, .hello h)) s (s₂.welcomed conn q h nowMs) := by
        refine ⟨hquiet.placed.of_same hplaces, ?_, ?_, ?_,
          fun i hne hnone => (welcomed_job s₂ conn q h nowMs i).none (htwo.others i hne hnone),
          more ++ [.rowHello conn q h
            (((s₂.rows q).contact.onHeard nowMs).noteBoot h.bootId).2], ?_, ?_⟩
        · intro c i hi
          rw [hplaces.row] at hi
          exact htwo.stays c i hi
        · -- nothing has rendered the text before the Welcome does
          have hbefore : SameRender (s.rows P.row).text (s₂.rows P.row).text := by
            refine hone.render.trans ?_
            rw [← (hsame P.row).1]
            exact hquiet.render
          rcases hrender with ⟨hid, htext, hspeed⟩ | hnext
          · exact .inl ⟨hid.trans hbefore.renderId, htext.trans hbefore.text,
              hspeed.trans hbefore.speed⟩
          · exact .inr (by rw [hnext, hbefore.renderId])
        · rw [hshown]
          exact htwo.shown
        · show s₂.log ++ _ = _
          rw [hlog', List.append_assoc]
        · intro e he
          rcases List.mem_append.mp he with he | he
          · exact hmore e he
          · rw [List.mem_singleton.mp he]
            exact ⟨trivial, fun _ _ _ _ h => (by cases h), fun _ _ _ h => (by cases h)⟩
      exact ⟨hwelcomed.then hlast, fun i => (((hjob i).trans (hquiet.jobs i)).trans
        (welcomed_job s₂ conn q h nowMs i)).trans ((hlast hwelcomed.placed).jobs i)⟩

/-- **A message of a connection.** -/
theorem message_callOf (H : WallLinkHooks) (hplaced : s.Placed) {conn : ConnIx} (m : WlToMaster)
    (nowMs : UInt32) (hopen : (s.conns conn).isOpen = true) :
    CallOf P false (some (conn, m)) s (s.message (H.withTable P.table) conn m nowMs) ∧
      ∀ i, KeepsJob False (s.rows i).job ((s.message (H.withTable P.table) conn m nowMs).rows i).job := by
  rcases message_cases (H.withTable P.table) s conn m nowMs with
    ⟨h, rfl, hnobody, heq⟩ | ⟨why, heq⟩ | ⟨q, hrow, _, heq⟩
  · rw [heq]
    exact hello_callOf H hplaced h nowMs hopen hnobody
  · rw [heq]
    have hquiet := (chats_quiet P.row false).drop s conn why hplaced
    exact ⟨hquiet.callOf, hquiet.jobs⟩
  · rw [heq]
    exact hear_callOf hplaced hrow m nowMs

/-- A text is given. -/
theorem setText_callOf (hplaced : s.Placed) (i : RowIx) (text : CStr) (speed : UInt16)
    (commitAtMs : UInt64) : CallOf P loud heard s (s.setText i text speed commitAtMs) ∧
      ∀ q, KeepsJob False (s.rows q).job ((s.setText i text speed commitAtMs).rows q).job := by
  have hplaces : SamePlaces s (s.setText i text speed commitAtMs) := .setRow s i _ rfl rfl
  have hjob : ∀ q, ((s.setText i text speed commitAtMs).rows q).job = (s.rows q).job :=
    setRow_job rfl
  have htext : ((s.setText i text speed commitAtMs).rows P.row).text =
      if P.row = i then (s.rows i).text.set text speed commitAtMs else (s.rows P.row).text := by
    unfold setText
    rw [setRow_rows, Function.update_apply]
    split
    · rfl
    · rfl
  have hset : ∀ t : WallRowText, Renders t (t.set text speed commitAtMs) ∧
      (t.set text speed commitAtMs).shownId = t.shownId := by
    intro t
    unfold WallRowText.set
    dsimp only
    split
    · exact ⟨.inl ⟨rfl, rfl, rfl⟩, rfl⟩
    · exact ⟨.inr rfl, rfl⟩
  refine ⟨⟨hplaced.of_same hplaces, ?_, ?_, ?_, ?_, [], (List.append_nil _).symm,
    fun _ he => (nomatch he)⟩, ?_⟩
  · intro c q hq
    rw [hplaces.row] at hq
    exact .inl hq
  · rw [htext]
    split
    · next hi =>
        rw [hi]
        exact (hset _).1
    · exact .inl ⟨rfl, rfl, rfl⟩
  · rw [htext]
    split
    · next hi =>
        rw [hi]
        exact .inl (hset _).2
    · exact .inl rfl
  · intro q _ hnone
    rw [hjob]
    exact hnone
  · intro q
    rw [hjob]
    exact .rfl' _

/-- A job is started on the paired row. -/
theorem startJob_callOf (hplaced : s.Placed) (op : WlOp) (nowMs : UInt32) :
    CallOf P loud heard s (s.startJob P.row op nowMs).2 := by
  have hplaces := SamePlaces.setRow s P.row
    { s.rows P.row with job := ((s.rows P.row).job.start op nowMs).1 } rfl rfl
  have hrows : (s.startJob P.row op nowMs).2.rows = Function.update s.rows P.row
      { s.rows P.row with job := ((s.rows P.row).job.start op nowMs).1 } := by
    unfold startJob
    dsimp only
    split <;> rfl
  have htext : ((s.startJob P.row op nowMs).2.rows P.row).text = (s.rows P.row).text := by
    rw [hrows, Function.update_self]
  have hboth : SamePlaces s (s.startJob P.row op nowMs).2 := by
    unfold startJob
    dsimp only
    split
    · exact hplaces.trans (.emit _ _)
    · exact hplaces
  refine ⟨hplaced.of_same hboth, ?_, by rw [htext]; exact .inl ⟨rfl, rfl, rfl⟩,
    .inl (by rw [htext]), ?_, ?_⟩
  · intro c q hq
    rw [hboth.row] at hq
    exact .inl hq
  · intro q hne hnone
    rw [hrows, Function.update_of_ne hne]
    exact hnone
  · by_cases hstart : ((s.rows P.row).job.start op nowMs).2 = true
    · refine ⟨[.jobAccepted P.row op], by simp [startJob, hstart], ?_⟩
      intro e he
      rw [List.mem_singleton.mp he]
      exact ⟨trivial, fun _ _ _ _ h => (by cases h), fun _ _ _ h => (by cases h)⟩
    · exact ⟨[], by simp [startJob, hstart], fun _ he => (by cases he)⟩

end Link

namespace Pair

open Link

/-! ## §4. Who is behind a connection. -/

/-- The paired row's place is the row board's, and only the row board says the
paired row's id. -/
structure Wired (P : PairedRow) (s : Pair) : Prop where
  placed : s.link.Placed
  dialled : ∀ c k, s.clients c = some k → k < s.dials
  sock : ∀ k, s.row.sock = some k → k < s.dials ∧ (s.socks k).own = true
  seated : ∀ c k q, s.clients c = some k → (s.link.conns c).row = some q →
    ((s.socks k).own = true ↔ q = P.row)
  mine : ∀ k, (s.socks k).own = true → ∀ m ∈ (s.socks k).up, ∀ h, m.message = .hello h → h.id = P.id
  theirs : ∀ k, (s.socks k).own = false → ∀ m ∈ (s.socks k).up, claimsRow P m.message = false

/-- Connections of which only less is left to read. -/
structure Fewer (socks socks' : Nat → Sock) : Prop where
  own : ∀ k, (socks' k).own = (socks k).own
  accepted : ∀ k, (socks' k).accepted = (socks k).accepted
  down : ∀ k, (socks' k).down = (socks k).down
  up : ∀ k, ∀ m ∈ (socks' k).up, m ∈ (socks k).up

/-- Connections of which some have been accepted. -/
structure Marked (socks socks' : Nat → Sock) : Prop where
  own : ∀ k, (socks' k).own = (socks k).own
  accepted : ∀ k, (socks' k).accepted = false → (socks k).accepted = false
  down : ∀ k, (socks' k).down = (socks k).down
  up : ∀ k, (socks' k).up = (socks k).up

omit [Nanopb] in
theorem Fewer.rfl' (socks : Nat → Sock) : Fewer socks socks :=
  ⟨fun _ => rfl, fun _ => rfl, fun _ => rfl, fun _ _ h => h⟩

omit [Nanopb] in
theorem Marked.rfl' (socks : Nat → Sock) : Marked socks socks :=
  ⟨fun _ => rfl, fun _ h => h, fun _ => rfl, fun _ => rfl⟩

variable {P : PairedRow} {s : Pair}

/-- Whoever the core is hearing holds the slot, and has said so. -/
def Heard (s : Pair) (heard : Option (ConnIx × WlToMaster)) (job : Nat) : Prop :=
  ∀ c m, heard = some (c, m) → ∃ k, s.clients c = some k ∧
    { message := m, job := job } ∈ (s.socks k).up

theorem Wired.fewer (h : Wired P s) {before : Nat → Sock} (hfewer : Fewer s.socks before) :
    Wired P { s with socks := before } := by
  refine ⟨h.placed, h.dialled, fun k hk => ?_, fun c k q hc hq => ?_, fun k hown m hm => ?_,
    fun k hown m hm => ?_⟩
  · show _ ∧ (before k).own = true
    rw [hfewer.own]
    exact h.sock k hk
  · show (before k).own = true ↔ _
    rw [hfewer.own]
    exact h.seated c k q hc hq
  · rw [hfewer.own] at hown
    exact h.mine k hown m (hfewer.up k m hm)
  · rw [hfewer.own] at hown
    exact h.theirs k hown m (hfewer.up k m hm)

/-- **A call of the core leaves everyone where they are**, or gives a place to
whom it belongs.  `s₀` is the pair before the message was taken. -/
theorem Wired.called {s₀ : Pair} (h₀ : Wired P s₀) (h : Wired P s)
    (hown : ∀ k, (s.socks k).own = (s₀.socks k).own) (hclients : s.clients = s₀.clients)
    {heard : Option (ConnIx × WlToMaster)} {job : Nat} {link : Link}
    (hcall : CallOf P loud heard s.link link) (hheard : s₀.Heard heard job) :
    Wired P (s.called P job link) := by
  obtain ⟨new, hlog, _⟩ := hcall.said
  obtain ⟨s', hk, heq⟩ := called_hooked P s job hlog
  rw [heq]
  refine ⟨hcall.placed, ?_, ?_, ?_, ?_, ?_⟩
  · intro c k hc
    rw [hk.dials]
    exact h.dialled c k (hk.clients c k hc)
  · intro k hsock
    rw [hk.row] at hsock
    rw [hk.dials, hk.own]
    exact h.sock k hsock
  · intro c k q hc hrow
    have hclient := hk.clients c k hc
    rw [hk.own]
    rcases hcall.stays c q hrow with hold | ⟨hello, hhello, hknown⟩
    · exact h.seated c k q hclient hold
    · -- the place is the one the Hello's id names
      obtain ⟨k', hk', hin⟩ := hheard c (.hello hello) hhello
      rw [hclients, hk'] at hclient
      injection hclient with hclient
      rw [← hclient, hown]
      constructor
      · intro htrue
        rw [h₀.mine k' htrue _ hin hello rfl, P.known] at hknown
        exact (Option.some.inj hknown).symm
      · intro hq
        by_contra hfalse
        have hother := h₀.theirs k' (Bool.eq_false_of_not_eq_true hfalse) _ hin
        rw [claimsRow, hknown, hq] at hother
        simp at hother
  · intro k htrue
    rw [hk.own] at htrue
    rw [hk.up]
    exact h.mine k htrue
  · intro k hfalse
    rw [hk.own] at hfalse
    rw [hk.up]
    exact h.theirs k hfalse

theorem heard_none (s : Pair) (job : Nat) : s.Heard none job := fun _ _ h => (nomatch h)

theorem Wired.calls (h : Wired P s) {job : Nat} {link : Link} (hcall : CallOf P loud none s.link link) :
    Wired P (s.called P job link) :=
  h.called h (fun _ => rfl) rfl hcall (heard_none s job)

/-- Nobody's place has changed. -/
theorem Wired.congr (h : Wired P s) {s' : Pair} (hlink : s'.link = s.link)
    (hclients : ∀ c k, s'.clients c = some k → s.clients c = some k) (hdials : s'.dials = s.dials)
    (hsocks : ∀ k, (s'.socks k).own = (s.socks k).own ∧ (s'.socks k).up = (s.socks k).up)
    (hrow : s.row.Keeps s'.row) : Wired P s' := by
  refine ⟨by rw [hlink]; exact h.placed, ?_, ?_, ?_, ?_, ?_⟩
  · intro c k hc
    rw [hdials]
    exact h.dialled c k (hclients c k hc)
  · intro k hk
    rw [hdials, (hsocks k).1]
    rcases hrow with hnone | hsame
    · rw [hnone] at hk
      cases hk
    · rw [hsame] at hk
      exact h.sock k hk
  · intro c k q hc hq
    rw [hlink] at hq
    rw [(hsocks k).1]
    exact h.seated c k q (hclients c k hc) hq
  · intro k hown
    rw [(hsocks k).1] at hown
    rw [(hsocks k).2]
    exact h.mine k hown
  · intro k hown
    rw [(hsocks k).1] at hown
    rw [(hsocks k).2]
    exact h.theirs k hown

/-- What was said on a connection is its end's to say. -/
theorem Wired.speaks (h : Wired P s) {k job : Nat} {messages : List WlToMaster}
    (hmessages : ∀ m ∈ messages,
      ((s.socks k).own = true → ∀ h, m = .hello h → h.id = P.id) ∧
      ((s.socks k).own = false → claimsRow P m = false)) : Wired P (s.speaks k job messages) := by
  have hown : ∀ i, ((s.speaks k job messages).socks i).own = (s.socks i).own := by
    intro i
    unfold Pair.speaks
    rw [setSock_socks]
    split
    · next hi => rw [hi]
    · rfl
  have hup : ∀ i, ∀ m ∈ ((s.speaks k job messages).socks i).up,
      m ∈ (s.socks i).up ∨ i = k ∧ m.message ∈ messages := by
    intro i m hm
    unfold Pair.speaks at hm
    rw [setSock_socks] at hm
    split at hm
    · next hi =>
        rcases List.mem_append.mp hm with hm | hm
        · exact .inl (by rw [hi]; exact hm)
        · obtain ⟨m', hm', heq⟩ := List.mem_map.mp hm
          rw [← heq]
          exact .inr ⟨hi, hm'⟩
    · exact .inl hm
  refine ⟨h.placed, h.dialled, ?_, ?_, ?_, ?_⟩
  · intro i hi
    rw [hown]
    exact h.sock i hi
  · intro c i q hc hq
    rw [hown]
    exact h.seated c i q hc hq
  · intro i hi m hm
    rw [hown] at hi
    rcases hup i m hm with hold | ⟨hik, hnew⟩
    · exact h.mine i hi m hold
    · rw [hik] at hi
      exact (hmessages m.message hnew).1 hi
  · intro i hi m hm
    rw [hown] at hi
    rcases hup i m hm with hold | ⟨hik, hnew⟩
    · exact h.theirs i hi m hold
    · rw [hik] at hi
      exact (hmessages m.message hnew).2 hi

/-- The row speaks on its connection, and not of who it is. -/
theorem Wired.writes (h : Wired P s) {k job : Nat} (hsock : k < s.dials ∧ (s.socks k).own = true)
    {messages : List WlToMaster} (hno : ∀ m ∈ messages, ∀ h, m ≠ .hello h) :
    Wired P (s.speaks k job messages) := by
  refine h.speaks fun m hm => ⟨fun _ hello heq => absurd heq (hno m hm hello), fun hfalse => ?_⟩
  exact absurd (hsock.2.symm.trans hfalse) Bool.noConfusion

/-- A connection is dialled, by the row board or by another. -/
theorem Wired.dials (h : Wired P s) (own : Bool) (row : RowBoard)
    (hrow : s.row.Keeps row ∨ row.sock = some s.dials ∧ own = true) :
    Wired P ({ s.setSock s.dials { own := own } with dials := s.dials + 1, row := row } : Pair) := by
  have hold : ∀ i, i < s.dials → (s.setSock s.dials { own := own }).socks i = s.socks i := by
    intro i hi
    rw [setSock_socks, if_neg (Nat.ne_of_lt hi)]
  have hsocks : ∀ i, ((s.setSock s.dials { own := own }).socks i).up = [] ∨
      (s.setSock s.dials { own := own }).socks i = s.socks i := by
    intro i
    rw [setSock_socks]
    split
    · exact .inl rfl
    · exact .inr rfl
  refine ⟨h.placed, fun c k hc => Nat.lt_succ_of_lt (h.dialled c k hc), ?_, ?_, ?_, ?_⟩
  · intro k hk
    rcases hrow with (hnone | hsame) | ⟨hdials, hown⟩
    · rw [hnone] at hk
      cases hk
    · rw [hsame] at hk
      obtain ⟨hlt, htrue⟩ := h.sock k hk
      exact ⟨Nat.lt_succ_of_lt hlt, by rw [hold k hlt]; exact htrue⟩
    · rw [hdials] at hk
      injection hk with hk
      refine ⟨by rw [← hk]; exact Nat.lt_succ_self _, ?_⟩
      rw [setSock_socks, if_pos hk.symm]
      exact hown
  · intro c k q hc hq
    rw [hold k (h.dialled c k hc)]
    exact h.seated c k q hc hq
  · intro k hown m hm
    rcases hsocks k with hnone | hsame
    · rw [hnone] at hm
      cases hm
    · rw [hsame] at hown hm
      exact h.mine k hown m hm
  · intro k hown m hm
    rcases hsocks k with hnone | hsame
    · rw [hnone] at hm
      cases hm
    · rw [hsame] at hown hm
      exact h.theirs k hown m hm

/-- Slots are let go of, or given to connections that are nobody's yet. -/
theorem Wired.reseats (h : Wired P s) {clients : ConnIx → Option Nat} {after : Nat → Sock}
    (hclients : ∀ c k, clients c = some k →
      s.clients c = some k ∨ k < s.dials ∧ (s.link.conns c).row = none)
    (hafter : Marked s.socks after) : Wired P { s with clients := clients, socks := after } := by
  refine ⟨h.placed, fun c k hc => ?_, fun k hk => ?_, fun c k q hc hq => ?_, fun k hown => ?_,
    fun k hown => ?_⟩
  · rcases hclients c k hc with hold | ⟨hlt, _⟩
    · exact h.dialled c k hold
    · exact hlt
  · show _ ∧ (after k).own = true
    rw [hafter.own]
    exact h.sock k hk
  · show (after k).own = true ↔ _
    rw [hafter.own]
    rcases hclients c k hc with hold | ⟨_, hnobody⟩
    · exact h.seated c k q hold hq
    · exact absurd (hnobody.symm.trans hq) (fun h => nomatch h)
  · rw [hafter.own] at hown
    show ∀ m ∈ (after k).up, _
    rw [hafter.up]
    exact h.mine k hown
  · rw [hafter.own] at hown
    show ∀ m ∈ (after k).up, _
    rw [hafter.up]
    exact h.theirs k hown

/-! ## §5. What a turn can do. -/

/-- **Everything a turn can be.** -/
inductive Stepped (P : PairedRow) (s : Pair) (a : PairTurn) : Pair → Prop where
  | row (row : RowBoard) (hkeeps : s.row.Keeps row)
      (hop : row.linkOp = s.row.linkOp ∨ row.linkOp.active = false) :
      Stepped P s a { s with row := row }
  | dialled (row : RowBoard) (messages : List WlToMaster)
      (hrow : s.row.Keeps row ∨ row.sock = some s.dials) (hop : row.linkOp = s.row.linkOp)
      (hhello : ∀ m ∈ messages, ∃ h, m = .hello h ∧ h.id = P.id) :
      Stepped P s a (({ s.setSock s.dials { own := true } with
        dials := s.dials + 1, row := row } : Pair).speaks s.dials 0 messages)
  | otherDialled : Stepped P s a { s.setSock s.dials {} with dials := s.dials + 1 }
  | otherSpoke (k : Nat) (m : WlToMaster) (hown : (s.socks k).own = false)
      (hno : claimsRow P m = false) : Stepped P s a (s.speaks k 0 [m])
  | took (k : Nat) (m : Sent WlToRow) (rest : List (Sent WlToRow)) (b : RowAnswers)
      (row : RowBoard) (messages : List WlToMaster) (hsock : s.row.sock = some k)
      (hdown : (s.socks k).down = m :: rest)
      (hhandled : RowBoard.Handled s.row b m.message row messages) :
      Stepped P s a (({ s.setSock k { s.socks k with down := rest } with
        row := row
        applied := s.applied ++ (s.row.applies b m.message).toList.map fun w => (k, w)
        rowJob :=
          if s.row.linkOp.active = false ∧ row.linkOp.active = true then m.job
          else s.rowJob } : Pair).speaks k m.job messages)
  | spoke (k : Nat) (row : RowBoard) (job : Nat) (messages : List WlToMaster)
      (hsock : s.row.sock = some k) (hkeeps : s.row.Keeps row)
      (hop : row.linkOp = s.row.linkOp ∨ row.linkOp.active = false)
      (hspoken : ∀ m ∈ messages, m.plain = true ∨ s.row.linkOp.active = true ∧ job = s.rowJob ∧
        ∃ state, m = .opState state ∧ state.opId = s.row.linkOp.opId) :
      Stepped P s a (({ s with row := row } : Pair).speaks k job messages)
  | called (before : Nat → Sock) (heard : Option (ConnIx × WlToMaster)) (job : Nat) (link : Link)
      (clients : ConnIx → Option Nat) (after : Nat → Sock)
      (hbefore : Fewer s.socks before) (hheard : s.Heard heard job)
      (hcall : CallOf P a.ticks heard s.link link)
      (hjob : ∀ i, KeepsJob (a.ticks = true ∧ (s.link.rows i).conn ≠ none) (s.link.rows i).job (link.rows i).job)
      (hclients : ∀ c k, clients c = some k →
        (({ s with socks := before } : Pair).called P job link).clients c = some k ∨
          k < s.dials ∧ (link.conns c).row = none ∧ (s.socks k).accepted = false)
      (hafter : Marked (({ s with socks := before } : Pair).called P job link).socks after) :
      Stepped P s a { ({ s with socks := before } : Pair).called P job link with
        clients := clients, socks := after }
  | begins (name : String) (row : Int) (unit : UInt8) (begun : List AskedJob) (others : List UInt32)
      (ha : a.begins = true) (hid : (s.state.wallOpBegin name row unit).1 ≠ 0)
      (hbegun : ∀ b ∈ begun, b ∈ s.begun ∨
        b.op.opId = (s.state.wallOpBegin name row unit).1 ∧ b.job = s.asked + 1) :
      Stepped P s a { s.begunAt (s.state.wallOpBegin name row unit).1
        (s.state.wallOpBegin name row unit).2 with begun := begun, others := others }
  | ended (state : WallState) (begun : List AskedJob) (hops : s.state.ops.SameJobs state.ops)
      (hstaged : ∀ j, state.staged P.row = some j → s.state.staged P.row = some j)
      (hbegun : ∀ b ∈ begun, b ∈ s.begun) :
      Stepped P s a { s with state := state, begun := begun }
  | staged (asked : AskedJob) (state : WallState) (begun : List AskedJob)
      (hasked : asked ∈ s.begun) (hops : state.ops = s.state.ops)
      (hstaged : ∀ j, state.staged P.row = some j → j.op = asked.op)
      (hbegun : ∀ b ∈ begun, b ∈ s.begun) :
      Stepped P s a { s with state := state, begun := begun, stagedJob := asked.job }
  | started (state : WallState) (job : StagedJob) (nowMs : UInt32)
      (hjob : s.state.staged P.row = some job) (hops : state.ops = s.state.ops)
      (hstaged : state.staged P.row = none)
      (hstart : (s.link.startJob P.row job.op nowMs).1 = true) :
      Stepped P s a { ({ s with state := state } : Pair).called P 0
        (s.link.startJob P.row job.op nowMs).2 with slotJob := s.stagedJob }
  | restarted (ha : a.stays = false) : Stepped P s a { s with
      state := { rows := P.table }
      link := {}
      begun := []
      others := []
      clients := fun _ => none
      socks := fun k => { s.socks k with accepted := true } }

/-- A call of the core, and nothing besides. -/
theorem Stepped.plain {a : PairTurn} {link : Link}
    (h : CallOf P a.ticks none s.link link ∧ ∀ i, KeepsJob (a.ticks = true ∧ (s.link.rows i).conn ≠ none) (s.link.rows i).job (link.rows i).job) :
    Stepped P s a (s.called P 0 link) :=
  .called s.socks none 0 link _ _ (.rfl' _) (heard_none s 0) h.1 h.2 (fun _ _ hc => .inl hc)
    (.rfl' _)

theorem dial_stepped {a : RowAnswers} {s' : Pair} (hstep : s.dial P a = some s') :
    Stepped P s (.dial a) s' := by
  unfold dial at hstep
  split at hstep
  · rcases hrow : s.row.dial s.dials P.id a with ⟨row, messages⟩
    rw [hrow] at hstep
    injection hstep with hstep
    rw [← hstep]
    obtain ⟨hboard, hmessages⟩ := RowBoard.sends_cases
      { s.row with
        sock := some s.dials, dialledId := s.row.leaderName, dialledHost := s.row.leaderHost } a
      [.hello (s.row.hello P.id a)]
    have hop := RowBoard.sends_linkOp (b := { s.row with
        sock := some s.dials, dialledId := s.row.leaderName, dialledHost := s.row.leaderHost })
      (a := a) [.hello (s.row.hello P.id a)]
    unfold RowBoard.dial at hrow
    rw [hrow] at hboard hmessages hop
    dsimp only at hboard hmessages hop
    refine .dialled row messages ?_ hop ?_
    · rcases hboard with hsame | hdrop
      · exact .inr (by rw [hsame])
      · exact .inl (.inl (by rw [hdrop]; rfl))
    · intro m hm
      exact ⟨_, List.mem_singleton.mp (hmessages m hm), rfl⟩
  · cases hstep

theorem read_stepped {a : RowAnswers} {s' : Pair} (hstep : s.read a = some s') :
    Stepped P s (.read a) s' := by
  unfold read at hstep
  split at hstep
  · cases hstep
  · next k hsock =>
      split at hstep
      · cases hstep
      · next m rest hdown =>
          split at hstep
          · rcases hrow : s.row.handle a m.message with ⟨row, messages⟩
            rw [hrow] at hstep
            injection hstep with hstep
            rw [← hstep]
            have hhandled := RowBoard.handle_handled (b := s.row) (a := a) m.message
            rw [hrow] at hhandled
            exact .took k m rest a row messages hsock hdown hhandled
          · cases hstep

theorem opTick_stepped {a : RowAnswers} {s' : Pair} (hstep : s.opTick a = some s') :
    Stepped P s (.opTick a) s' := by
  unfold opTick at hstep
  split at hstep
  · cases hstep
  · next k hsock =>
      split at hstep
      · rcases hrow : s.row.opTick a with ⟨row, messages⟩
        rw [hrow] at hstep
        injection hstep with hstep
        rw [← hstep]
        obtain ⟨hkeeps, hop, hmessages⟩ := RowBoard.opTick_handled s.row a
        rw [hrow] at hkeeps hop hmessages
        refine .spoke k row s.rowJob messages hsock hkeeps hop ?_
        intro m hm
        obtain ⟨hactive, hstate⟩ := hmessages m hm
        exact .inr ⟨hactive, rfl, hstate⟩
      · cases hstep

theorem tells_stepped {m : WlToMaster} {a : RowAnswers} {s' : Pair}
    (hstep : s.tells m a = some s') : Stepped P s (.tells m a) s' := by
  unfold tells at hstep
  split at hstep
  · cases hstep
  · next k hsock =>
      split at hstep
      · next hplain =>
          rcases hrow : s.row.sendWhenRoom a m with ⟨row, messages⟩
          rw [hrow] at hstep
          injection hstep with hstep
          rw [← hstep]
          obtain ⟨hkeeps, hop, hmessages⟩ := RowBoard.sendWhenRoom_cases s.row a m
          rw [hrow] at hkeeps hop hmessages
          refine .spoke k row 0 messages hsock hkeeps (.inl hop) ?_
          intro m' hm'
          rw [hmessages m' hm']
          exact .inl hplain.2
      · cases hstep

theorem accept_stepped (hplaced : s.link.Placed) {k : Nat} {nowMs : UInt32} {s' : Pair}
    (hstep : s.accept P k nowMs = some s') : Stepped P s (.accept k nowMs) s' := by
  unfold accept at hstep
  split at hstep
  · next hdialled =>
      have haccepted : Quietly P.row false s.link (s.link.accept nowMs).2 ∧
          ∀ conn, (s.link.accept nowMs).1 = some conn →
            ((s.link.accept nowMs).2.conns conn).row = none := accept_quiet hplaced nowMs
      obtain ⟨hquiet, hnobody⟩ := haccepted
      rcases haccept : s.link.accept nowMs with ⟨slot, link⟩
      rw [haccept] at hstep hquiet hnobody
      dsimp only at hstep hquiet hnobody
      have hmarked : Marked (s.called P 0 link).socks ((s.called P 0 link).setSock k
          { (s.called P 0 link).socks k with accepted := true }).socks := by
        refine ⟨fun i => ?_, fun i hi => ?_, fun i => ?_, fun i => ?_⟩
        · rw [setSock_socks]
          split
          · next hi => rw [hi]
          · rfl
        · rw [setSock_socks] at hi
          split at hi
          · cases hi
          · exact hi
        · rw [setSock_socks]
          split
          · next hi => rw [hi]
          · rfl
        · rw [setSock_socks]
          split
          · next hi => rw [hi]
          · rfl
      cases slot with
      | none =>
          injection hstep with hstep
          rw [← hstep]
          exact .called s.socks none 0 link _ _ (.rfl' _) (heard_none s 0) hquiet.callOf hquiet.job
            (fun _ _ hc => .inl hc) hmarked
      | some conn =>
          injection hstep with hstep
          rw [← hstep]
          refine .called s.socks none 0 link _ _ (.rfl' _) (heard_none s 0) hquiet.callOf hquiet.job
            ?_ hmarked
          intro c i hc
          rw [Function.update_apply] at hc
          split at hc
          · next hconn =>
              injection hc with hc
              rw [← hc, hconn]
              exact .inr ⟨hdialled.1, hnobody conn rfl, hdialled.2⟩
          · exact .inl hc
  · cases hstep

theorem hears_stepped (hplaced : s.link.Placed) {conn : ConnIx} {H : WallLinkHooks}
    {nowMs : UInt32} {s' : Pair} (hstep : s.hears P conn H nowMs = some s') :
    Stepped P s (.hears conn H nowMs) s' := by
  unfold hears at hstep
  split at hstep
  · cases hstep
  · next k hclient =>
      split at hstep
      · cases hstep
      · next m rest hup =>
          split at hstep
          · next hopen =>
              injection hstep with hstep
              rw [← hstep]
              obtain ⟨hcall, hjob⟩ := message_callOf (P := P) H hplaced m.message nowMs hopen
              refine .called _ (some (conn, m.message)) m.job _ _ _ ?_ ?_ hcall
                (fun i => (hjob i).mono False.elim)
                (fun _ _ hc => .inl hc) (.rfl' _)
              · refine ⟨fun i => ?_, fun i => ?_, fun i => ?_, fun i m' hm' => ?_⟩
                · rw [Function.update_apply]
                  split
                  · next hi => rw [hi]
                  · rfl
                · rw [Function.update_apply]
                  split
                  · next hi => rw [hi]
                  · rfl
                · rw [Function.update_apply]
                  split
                  · next hi => rw [hi]
                  · rfl
                · rw [Function.update_apply] at hm'
                  split at hm'
                  · next hi =>
                      rw [hi, hup]
                      exact List.mem_cons_of_mem m hm'
                  · exact hm'
              · intro c m' hheard
                injection hheard with hheard
                injection hheard with hc hm'
                refine ⟨k, by rw [← hc]; exact hclient, ?_⟩
                rw [hup, ← hm']
                exact List.mem_cons_self
          · cases hstep

/-- A job of the table ends. -/
theorem Stepped.finished {a : PairTurn} (id : UInt32) (ok : Bool) (detail : String) :
    Stepped P s a { s with state := (s.state.wallOpFinish id ok detail).2 } :=
  .ended _ s.begun (WallOps.finish_same s.state.ops id ok detail) (fun _ h => h) fun _ h => h

/-- Nothing happens. -/
theorem Stepped.idle {a : PairTurn} : Stepped P s a s :=
  .ended s.state s.begun (.rfl' _) (fun _ h => h) fun _ h => h

theorem askJob_stepped {name : String} {op : WlOp} {s' : Pair}
    (hstep : s.askJob P name op = some s') : Stepped P s (.askJob name op) s' := by
  unfold askJob at hstep
  split at hstep
  next id state hbegin =>
    unfold WallState.wallJobBegin at hbegin
    split at hbegin
    · -- another job runs on the row
      injection hbegin with hid _
      rw [if_pos hid.symm] at hstep
      injection hstep with hstep
      rw [← hstep]
      exact .idle
    · split at hstep
      · injection hstep with hstep
        rw [← hstep]
        exact .idle
      · next hid =>
          injection hstep with hstep
          have hnew := Stepped.begins (P := P) (s := s) (a := .askJob name op) name P.row.val
            op.address.toUInt8
            (s.begun ++ [{ op := { op with opId := id }, job := s.asked + 1 }]) s.others rfl
          rw [hbegin] at hnew
          rw [← hstep]
          refine hnew hid fun b hb => ?_
          rcases List.mem_append.mp hb with hb | hb
          · exact .inl hb
          · rw [List.mem_singleton.mp hb]
            exact .inr ⟨rfl, rfl⟩

theorem opBegin_stepped {name : String} {row : Int} {unit : UInt8} {s' : Pair}
    (hstep : s.opBegin name row unit = some s') : Stepped P s (.opBegin name row unit) s' := by
  unfold opBegin at hstep
  split at hstep
  next id state hbegin =>
    split at hstep
    · injection hstep with hstep
      rw [← hstep]
      exact .idle
    · next hid =>
        injection hstep with hstep
        have hnew := Stepped.begins (P := P) (s := s) (a := .opBegin name row unit) name row unit
          s.begun (id :: s.others) rfl
        rw [hbegin] at hnew
        rw [← hstep]
        exact hnew hid fun b hb => .inl hb

theorem stageJob_stepped {n : Nat} {s' : Pair} (hstep : s.stageJob P n = some s') :
    Stepped P s (.stageJob n) s' := by
  unfold stageJob at hstep
  split at hstep
  · cases hstep
  · next asked hasked =>
      have hbegun : ∀ b ∈ s.begun.eraseIdx n, b ∈ s.begun := fun _ hb => List.mem_of_mem_eraseIdx hb
      split at hstep
      · next state hstage =>
          injection hstep with hstep
          rw [← hstep]
          unfold WallState.wallJobStage at hstage
          split at hstage
          · cases hstage
          · injection hstage with _ hstate
            refine .staged asked state _ (List.mem_of_getElem? hasked) ?_ ?_ hbegun
            · rw [← hstate]
            · intro j hj
              rw [← hstate] at hj
              replace hj : Function.update s.state.staged P.row _ P.row = some j := hj
              rw [Function.update_self] at hj
              injection hj with hj
              rw [← hj]
      · injection hstep with hstep
        rw [← hstep]
        exact .ended _ _ (WallOps.finish_same ..) (fun _ h => h) hbegun

theorem takeJob_stepped {updating : Bool} {nowMs : UInt32} {s' : Pair}
    (hstep : s.takeJob P updating nowMs = some s') :
    Stepped P s (.takeJob updating nowMs) s' := by
  unfold takeJob at hstep
  split at hstep
  · cases hstep
  · next job state htake =>
      unfold WallState.wallJobTake at htake
      split at htake
      · cases htake
      · next job' hjob =>
          injection htake with hsome hstate
          injection hsome with hsome
          rw [hsome] at hjob
          have hops : state.ops = s.state.ops := by
            rw [← hstate]
          have hstaged : state.staged P.row = none := by
            rw [← hstate]
            exact Function.update_self ..
          have hends : ∀ detail, Stepped P s (.takeJob updating nowMs) { s with
              state := (state.wallOpFinish job.op.opId false detail).2 } := by
            intro detail
            refine .ended _ s.begun ?_ ?_ fun _ hb => hb
            · rw [← hops]
              exact WallOps.finish_same ..
            · intro j hj
              exact absurd (hstaged.symm.trans hj) (fun h => nomatch h)
          split at hstep
          · injection hstep with hstep
            rw [← hstep]
            exact hends _
          · split at hstep
            · next link hstart =>
                injection hstep with hstep
                have hnew := Stepped.started (P := P) (s := s) (a := .takeJob updating nowMs) state
                  job nowMs hjob hops hstaged
                rw [hstart] at hnew
                rw [← hstep]
                exact hnew rfl
            · injection hstep with hstep
              rw [← hstep]
              exact hends _

/-- **Every turn is one of them.** -/
theorem step_stepped (hplaced : s.link.Placed) {a : PairTurn} {s' : Pair}
    (hstep : s.step P a = some s') : Stepped P s a s' := by
  cases a with
  | dial a => exact dial_stepped hstep
  | read a => exact read_stepped hstep
  | opTick a => exact opTick_stepped hstep
  | tells m a => exact tells_stepped hstep
  | hangUp =>
      injection hstep with hstep
      rw [← hstep]
      exact .row _ (.inl rfl) (.inl rfl)
  | phaseTick nowMs =>
      injection hstep with hstep
      rw [← hstep]
      exact .row _ (.inr rfl) (.inl rfl)
  | pair masterId masterHost nowMs =>
      injection hstep with hstep
      rw [← hstep]
      exact .row _ (.inr rfl) (.inl rfl)
  | rowRestart bootId membership nowMs =>
      injection hstep with hstep
      rw [← hstep]
      exact .row _ (.inl rfl) (.inr rfl)
  | otherDials =>
      injection hstep with hstep
      rw [← hstep]
      exact .otherDialled
  | otherTells k m =>
      change s.otherTells P k m = some s' at hstep
      unfold otherTells at hstep
      split at hstep
      · next hother =>
          injection hstep with hstep
          rw [← hstep]
          exact .otherSpoke k m hother.1 hother.2
      · cases hstep
  | accept k nowMs => exact accept_stepped hplaced hstep
  | hears conn H nowMs => exact hears_stepped hplaced hstep
  | lost conn =>
      injection hstep with hstep
      rw [← hstep]
      have hquiet := (chats_quiet P.row false).closed s.link conn hplaced
      refine .called s.socks none 0 _ _ _ (.rfl' _) (heard_none s 0) hquiet.callOf hquiet.job ?_
        (.rfl' _)
      intro c k hc
      rw [Function.update_apply] at hc
      split at hc
      · cases hc
      · exact .inl hc
  | garbled conn =>
      change s.garbled P conn = some s' at hstep
      unfold garbled at hstep
      split at hstep
      · injection hstep with hstep
        rw [← hstep]
        have hquiet := (chats_quiet P.row false).drop s.link conn "not a link message" hplaced
        exact .plain ⟨hquiet.callOf, hquiet.job⟩
      · cases hstep
  | tick H nowMs =>
      injection hstep with hstep
      rw [← hstep]
      have hquiet := (works_quiet P.row).tick (H.withTable P.table) nowMs s.link hplaced
      exact .plain ⟨hquiet.callOf, hquiet.job⟩
  | call H c =>
      change s.call P H c = some s' at hstep
      unfold call at hstep
      split at hstep
      · next hcall =>
          obtain ⟨link, hlink, heq⟩ := Option.map_eq_some_iff.mp hstep
          rw [← heq]
          by_cases hset : ∃ i text speed commitAtMs, c = .setText i text speed commitAtMs
          · obtain ⟨i, text, speed, commitAtMs, rfl⟩ := hset
            injection hlink with hlink
            rw [← hlink]
            obtain ⟨hset, hjob⟩ := setText_callOf (P := P) hplaced i text speed commitAtMs
            exact .plain ⟨hset, fun q => (hjob q).mono False.elim⟩
          · have hother : ∀ i text speed commitAtMs, c ≠ .setText i text speed commitAtMs :=
              fun i text speed commitAtMs hc => hset ⟨i, text, speed, commitAtMs, hc⟩
            have hquiet : Quietly P.row false s.link link :=
              call_quiet _ hcall.2 hcall.1 hother hlink hplaced
            exact .plain ⟨hquiet.callOf, hquiet.job⟩
      · cases hstep
  | askJob name op => exact askJob_stepped hstep
  | stageJob n => exact stageJob_stepped hstep
  | takeJob updating nowMs => exact takeJob_stepped hstep
  | opBegin name row unit => exact opBegin_stepped hstep
  | opFinish id ok detail =>
      change s.opFinish id ok detail = some s' at hstep
      unfold opFinish at hstep
      split at hstep
      · injection hstep with hstep
        rw [← hstep]
        exact .finished id ok detail
      · cases hstep
  | masterRestart =>
      injection hstep with hstep
      rw [← hstep]
      exact .restarted rfl

/-! ### Everyone stays who they are. -/

theorem start_wired (P : PairedRow) : Wired P (start P) where
  placed := placed_start
  dialled _ _ hc := nomatch hc
  sock _ hk := nomatch hk
  seated _ _ _ hc := nomatch hc
  mine _ hown := nomatch hown
  theirs _ _ _ hm := nomatch hm

theorem Stepped.wired (h : Wired P s) {a : PairTurn} {s' : Pair} (hstep : Stepped P s a s') :
    Wired P s' := by
  cases hstep with
  | row row hkeeps _ => exact h.congr rfl (fun _ _ hc => hc) rfl (fun _ => ⟨rfl, rfl⟩) hkeeps
  | dialled row messages hrow _ hhello =>
      have hdialled := h.dials true row (hrow.imp_right fun hsock => ⟨hsock, rfl⟩)
      refine hdialled.speaks fun m hm => ⟨?_, ?_⟩
      · rintro _ hello rfl
        obtain ⟨hello', heq, hid⟩ := hhello _ hm
        injection heq with heq
        rw [heq]
        exact hid
      · intro hfalse
        replace hfalse : ((s.setSock s.dials { own := true }).socks s.dials).own = false := hfalse
        rw [setSock_socks, if_pos rfl] at hfalse
        cases hfalse
  | otherDialled => exact h.dials false s.row (.inl (.inr rfl))
  | otherSpoke k m hown hno =>
      refine h.speaks fun m' hm' => ⟨fun htrue => ?_, fun _ => ?_⟩
      · exact absurd (htrue.symm.trans hown) Bool.noConfusion
      · rw [List.mem_singleton.mp hm']
        exact hno
  | took k m rest b row messages hsock hdown hhandled =>
      have htaken : Wired P { s.setSock k { s.socks k with down := rest } with
          row := row
          applied := s.applied ++ (s.row.applies b m.message).toList.map fun w => (k, w)
          rowJob :=
            if s.row.linkOp.active = false ∧ row.linkOp.active = true then m.job
            else s.rowJob } := by
        refine h.congr rfl (fun _ _ hc => hc) rfl (fun i => ?_) hhandled.keeps
        show ((s.setSock k _).socks i).own = _ ∧ ((s.setSock k _).socks i).up = _
        rw [setSock_socks]
        split
        · next hi =>
            rw [hi]
            exact ⟨rfl, rfl⟩
        · exact ⟨rfl, rfl⟩
      refine htaken.writes ?_ ?_
      · show _ ∧ ((s.setSock k _).socks k).own = true
        rw [setSock_socks, if_pos rfl]
        exact h.sock k hsock
      · rintro m' hm' hello rfl
        rcases hhandled.writes _ hm' with ⟨_, _, _, heq, _⟩ | ⟨_, _, heq⟩ | heq | ⟨_, heq⟩ <;> cases heq
  | spoke k row job messages hsock hkeeps _ hspoken =>
      have hkept : Wired P { s with row := row } :=
        h.congr rfl (fun _ _ hc => hc) rfl (fun _ => ⟨rfl, rfl⟩) hkeeps
      refine hkept.writes (h.sock k hsock) ?_
      rintro m hm hello rfl
      rcases hspoken _ hm with hplain | ⟨_, _, _, heq, _⟩
      · cases hplain
      · cases heq
  | called before heard job link clients after hbefore hheard hcall _ hclients hafter =>
      have hcalled : Wired P (({ s with socks := before } : Pair).called P job link) :=
        h.called (h.fewer hbefore) hbefore.own rfl hcall hheard
      obtain ⟨new, hlog, _⟩ := hcall.said
      obtain ⟨s', hk, heq⟩ := called_hooked P { s with socks := before } job hlog
      refine hcalled.reseats ?_ hafter
      intro c k hc
      rcases hclients c k hc with hold | ⟨hlt, hnobody, _⟩
      · exact .inl hold
      · refine .inr ?_
        rw [heq]
        exact ⟨by rw [hk.dials]; exact hlt, hnobody⟩
  | begins | ended | staged =>
      exact h.congr rfl (fun _ _ hc => hc) rfl (fun _ => ⟨rfl, rfl⟩) (.inr rfl)
  | started state job nowMs =>
      have hstate : Wired P { s with state := state } :=
        h.congr rfl (fun _ _ hc => hc) rfl (fun _ => ⟨rfl, rfl⟩) (.inr rfl)
      have hcall : CallOf P false none s.link (s.link.startJob P.row job.op nowMs).2 :=
        startJob_callOf h.placed job.op nowMs
      exact (hstate.called hstate (fun _ => rfl) rfl hcall (heard_none _ 0)).congr rfl
        (fun _ _ hc => hc) rfl (fun _ => ⟨rfl, rfl⟩) (.inr rfl)
  | restarted => exact {
      placed := placed_start
      dialled := fun _ _ hc => (nomatch hc)
      sock := h.sock
      seated := fun _ _ _ hc => (nomatch hc)
      mine := h.mine
      theirs := h.theirs }

theorem run_wired {turns : List PairTurn} (hrun : run P turns = some s) : Wired P s :=
  Machine.run_invariant (fun _ _ _ h hstep => (step_stepped h.placed hstep).wired h)
    (start_wired P) hrun

end Pair

end Calls

end SplitFlap
