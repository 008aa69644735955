/-
  SplitFlap.Wall.Moves — the core as a sequence of small moves.

  Every call of the core is a path of the moves below (`apply_path`), and each
  move says at most one thing to the hooks.  So what every move keeps, every
  run keeps (`runCalls_keeps`), and an invariant about the core's own state is
  a case for each move.

  The first such invariant is the one the code itself leans on: `Placed`, the
  rows and their connections name each other.
-/
import SplitFlap.Wall.Core

namespace SplitFlap

namespace Link

open Machine

/-! ## §1. The moves. -/

def lastAskedStep (last : Option (CStr × Int)) : LinkEvent → Option (CStr × Int)
  | .rowForId id answer => some (id, answer)
  | .reset => none
  | _ => last

/-- The id that was asked for last, and its answer, since the rows table was
last forgotten. -/
def lastAsked (log : List LinkEvent) : Option (CStr × Int) := log.foldl lastAskedStep none

theorem lastAsked_snoc (log : List LinkEvent) (e : LinkEvent) :
    lastAsked (log ++ [e]) = lastAskedStep (lastAsked log) e := by
  unfold lastAsked
  rw [List.foldl_append]
  rfl

variable [Nanopb]

/-- Events that only ask about a connection or remark. -/
def LinkEvent.aside : LinkEvent → Bool
  | .fromPairedAddress .. | .samePeer .. | .close .. | .note .. => true
  | _ => false

/-- Messages that carry neither a text nor a job. -/
def WlToRow.chores : WlToRow → Bool
  | .show _ | .op _ => false
  | _ => true

/-- What a write comes to, apart from the message's own mark on the row. -/
def wrote (conn : ConnIx) (r : RowIx) (m : WlToRow) (ok : Bool) (nowMs : UInt32) (s : Link) :
    Link :=
  let s := s.emit (.write conn r m ok)
  if ok then s.setRow r { s.rows r with contact := (s.rows r).contact.onSent nowMs } else s

/-- The row's text is written, and marked as sent when it was taken. -/
def showed (conn : ConnIx) (r : RowIx) (ok : Bool) (nowMs : UInt32) (s : Link) : Link :=
  let s' := s.wrote conn r (.show (showOf (s.rows r).text)) ok nowMs
  if ok then s'.setRow r { s'.rows r with text := (s.rows r).text.sent } else s'

/-- The row's job is written, and marked as sent when it was taken. -/
def handed (conn : ConnIx) (r : RowIx) (ok : Bool) (nowMs : UInt32) (s : Link) : Link :=
  let s' := s.wrote conn r (.op (s.rows r).job.op) ok nowMs
  if ok then s'.setRow r { s'.rows r with job := (s.rows r).job.sent nowMs } else s'

variable (H : WallLinkHooks)

/-- One small move of the core. -/
inductive Move : Link → Link → Prop where
  | asked (s : Link) (id : CStr) : Move s (s.emit (.rowForId id (H.rowForId s.log id)))
  | said (s : Link) (e : LinkEvent) (h : LinkEvent.aside e = true) : Move s (s.emit e)
  | closed (s : Link) (conn : ConnIx) : Move s (s.closed conn)
  | occupied (s : Link) (conn : ConnIx) (nowMs : UInt32) (h : (s.conns conn).isOpen = false) :
      Move s (s.occupy conn nowMs)
  | read (s : Link) (conn : ConnIx) (reader : WlReader Nanopb.toMasterSize) :
      Move s (s.setReader conn reader)
  | seated (s : Link) (conn : ConnIx) (r : RowIx) (nowMs : UInt32) (id : CStr) (answer : Int)
      (hopen : (s.conns conn).isOpen = true) (hnobody : (s.conns conn).row = none)
      (hfree : (s.rows r).conn = none) (hasked : lastAsked s.log = some (id, answer))
      (hknown : knownRow answer = some r) : Move s (s.seat conn r nowMs)
  | welcomed (s : Link) (conn : ConnIx) (r : RowIx) (h : WlHello) (nowMs : UInt32)
      (hconn : (s.rows r).conn = some conn) (hrow : (s.conns conn).row = some r) :
      Move s (s.welcomed conn r h nowMs)
  | heard (s : Link) (conn : ConnIx) (r : RowIx) (m : WlToMaster) (nowMs : UInt32)
      (hrow : (s.conns conn).row = some r) : Move s (s.hear conn r m nowMs)
  | wrote (s : Link) (conn : ConnIx) (r : RowIx) (m : WlToRow) (ok : Bool) (nowMs : UInt32)
      (hconn : (s.rows r).conn = some conn) (hm : WlToRow.chores m = true) :
      Move s (s.wrote conn r m ok nowMs)
  | showed (s : Link) (conn : ConnIx) (r : RowIx) (ok : Bool) (nowMs : UInt32)
      (hconn : (s.rows r).conn = some conn)
      (hdue : (s.rows r).text.due (s.rows r).contact = true) :
      Move s (s.showed conn r ok nowMs)
  | handed (s : Link) (conn : ConnIx) (r : RowIx) (ok : Bool) (nowMs : UInt32)
      (hconn : (s.rows r).conn = some conn)
      (hdue : (s.rows r).job.due (s.rows r).contact = true) :
      Move s (s.handed conn r ok nowMs)
  | flagged (s : Link) (r : RowIx) (quietSent configSent hostSent logTold : Bool) :
      Move s (s.setRow r { s.rows r with
        quietSent := quietSent, configSent := configSent
        hostSent := hostSent, logTold := logTold })
  | gaveUp (s : Link) (r : RowIx) (nowMs : UInt32) : Move s (s.tickJob r nowMs)
  | textSet (s : Link) (r : RowIx) (text : CStr) (speed : UInt16) (commitAtMs : UInt64) :
      Move s (s.setText r text speed commitAtMs)
  | quietSet (s : Link) (on : Bool) : Move s (s.setQuiet on)
  | configSet (s : Link) (next : WlConfig) : Move s (s.setConfig next)
  | hostSet (s : Link) (r : RowIx) (host : CStr) : Move s (s.setHost r host)
  | logSet (s : Link) (r : RowIx) (wanted : Bool) : Move s (s.setLogWanted r wanted)
  | forgot (s : Link) (h : ∀ conn, (s.conns conn).isOpen = false) : Move s s.forget

theorem wrote_log (s : Link) (conn : ConnIx) (r : RowIx) (m : WlToRow) (ok : Bool)
    (nowMs : UInt32) : (s.wrote conn r m ok nowMs).log = s.log ++ [.write conn r m ok] := by
  unfold wrote
  cases ok <;> rfl

theorem wrote_conns (s : Link) (conn : ConnIx) (r : RowIx) (m : WlToRow) (ok : Bool)
    (nowMs : UInt32) : (s.wrote conn r m ok nowMs).conns = s.conns := by
  unfold wrote
  cases ok <;> rfl

@[simp] theorem wrote_text (s : Link) (conn : ConnIx) (r i : RowIx) (m : WlToRow) (ok : Bool)
    (nowMs : UInt32) : ((s.wrote conn r m ok nowMs).rows i).text = (s.rows i).text := by
  unfold wrote
  cases ok with
  | false => rfl
  | true =>
      by_cases hi : i = r
      · subst hi; simp
      · simp [hi]

@[simp] theorem wrote_job (s : Link) (conn : ConnIx) (r i : RowIx) (m : WlToRow) (ok : Bool)
    (nowMs : UInt32) : ((s.wrote conn r m ok nowMs).rows i).job = (s.rows i).job := by
  unfold wrote
  cases ok with
  | false => rfl
  | true =>
      by_cases hi : i = r
      · subst hi; simp
      · simp [hi]

theorem showed_log (s : Link) (conn : ConnIx) (r : RowIx) (ok : Bool) (nowMs : UInt32) :
    (s.showed conn r ok nowMs).log =
      s.log ++ [.write conn r (.show (showOf (s.rows r).text)) ok] := by
  unfold showed
  cases ok <;> rfl

theorem showed_conns (s : Link) (conn : ConnIx) (r : RowIx) (ok : Bool) (nowMs : UInt32) :
    (s.showed conn r ok nowMs).conns = s.conns := by
  unfold showed
  cases ok <;> rfl

theorem handed_log (s : Link) (conn : ConnIx) (r : RowIx) (ok : Bool) (nowMs : UInt32) :
    (s.handed conn r ok nowMs).log = s.log ++ [.write conn r (.op (s.rows r).job.op) ok] := by
  unfold handed
  cases ok <;> rfl

theorem handed_conns (s : Link) (conn : ConnIx) (r : RowIx) (ok : Bool) (nowMs : UInt32) :
    (s.handed conn r ok nowMs).conns = s.conns := by
  unfold handed
  cases ok <;> rfl

/-! ## §2. Rows and connections name each other. -/

/-- A row's connection is open and the row's, a connection's row is connected
through it, and a row counts as connected exactly when it has a connection. -/
structure Placed (s : Link) : Prop where
  row_conn : ∀ r conn, (s.rows r).conn = some conn →
    (s.conns conn).isOpen = true ∧ (s.conns conn).row = some r
  conn_row : ∀ conn r, (s.conns conn).row = some r →
    (s.conns conn).isOpen = true ∧ (s.rows r).conn = some conn
  connected : ∀ r, (s.rows r).contact.connected = (s.rows r).conn.isSome

/-- Nothing `Placed` reads has changed. -/
structure SamePlaces (s s' : Link) : Prop where
  conn : ∀ r, (s'.rows r).conn = (s.rows r).conn
  connected : ∀ r, (s'.rows r).contact.connected = (s.rows r).contact.connected
  isOpen : ∀ conn, (s'.conns conn).isOpen = (s.conns conn).isOpen
  row : ∀ conn, (s'.conns conn).row = (s.conns conn).row

theorem Placed.of_same {s s' : Link} (h : s.Placed) (hsame : SamePlaces s s') : s'.Placed := by
  refine ⟨?_, ?_, ?_⟩
  · intro r conn hconn
    rw [hsame.conn] at hconn
    rw [hsame.isOpen, hsame.row]
    exact h.row_conn r conn hconn
  · intro conn r hrow
    rw [hsame.row] at hrow
    rw [hsame.isOpen, hsame.conn]
    exact h.conn_row conn r hrow
  · intro r
    rw [hsame.connected, hsame.conn]
    exact h.connected r

/-- A new value of a row that keeps its connection. -/
theorem SamePlaces.setRow (s : Link) (r : RowIx) (row : WallLinkRow)
    (hconn : row.conn = (s.rows r).conn)
    (hconnected : row.contact.connected = (s.rows r).contact.connected) :
    SamePlaces s (s.setRow r row) := by
  refine ⟨?_, ?_, fun _ => rfl, fun _ => rfl⟩
  · intro r'
    by_cases hr : r' = r
    · subst hr; simp [hconn]
    · simp [hr]
  · intro r'
    by_cases hr : r' = r
    · subst hr; simp [hconnected]
    · simp [hr]

theorem SamePlaces.emit (s : Link) (e : LinkEvent) : SamePlaces s (s.emit e) :=
  ⟨fun _ => rfl, fun _ => rfl, fun _ => rfl, fun _ => rfl⟩

theorem SamePlaces.trans {a b c : Link} (h : SamePlaces a b) (h' : SamePlaces b c) :
    SamePlaces a c :=
  ⟨fun r => (h'.conn r).trans (h.conn r), fun r => (h'.connected r).trans (h.connected r),
    fun i => (h'.isOpen i).trans (h.isOpen i), fun i => (h'.row i).trans (h.row i)⟩

theorem SamePlaces.rfl' (s : Link) : SamePlaces s s :=
  ⟨fun _ => rfl, fun _ => rfl, fun _ => rfl, fun _ => rfl⟩

theorem SamePlaces.wrote (s : Link) (conn : ConnIx) (r : RowIx) (m : WlToRow) (ok : Bool)
    (nowMs : UInt32) : SamePlaces s (s.wrote conn r m ok nowMs) := by
  unfold Link.wrote
  cases ok with
  | false => exact SamePlaces.emit s _
  | true => exact (SamePlaces.emit s _).trans (SamePlaces.setRow _ r _ rfl rfl)

theorem SamePlaces.hear (s : Link) (conn : ConnIx) (r : RowIx) (m : WlToMaster) (nowMs : UInt32) :
    SamePlaces s (s.hear conn r m nowMs) := by
  have hrow : SamePlaces s (s.setRow r (rowHears (s.rows r) m nowMs).1) := by
    apply SamePlaces.setRow
    · cases m <;> rfl
    · cases m <;> rfl
  unfold Link.hear
  by_cases htold : (rowHears (s.rows r) m nowMs).2 = true
  · simp only [htold, if_true]
    exact hrow.trans (SamePlaces.emit _ _)
  · simp only [htold]
    exact hrow

theorem SamePlaces.tickJob (s : Link) (r : RowIx) (nowMs : UInt32) :
    SamePlaces s (s.tickJob r nowMs) := by
  unfold Link.tickJob
  cases (s.rows r).job.overdue nowMs with
  | none => exact SamePlaces.rfl' s
  | some why =>
      refine SamePlaces.trans ?_ (SamePlaces.emit _ _)
      exact SamePlaces.setRow s r _ rfl rfl

/-! ## §3. What lets go of a connection. -/

/-- `closed`, field by field. -/
theorem closed_conns (s : Link) (conn i : ConnIx) :
    ((s.closed conn).conns i) =
      if i = conn ∧ (s.conns conn).isOpen = true then
        { s.conns conn with isOpen := false, row := none }
      else s.conns i := by
  unfold closed
  by_cases hopen : (s.conns conn).isOpen = true
  · simp only [hopen, if_true, and_true, setConn_conns]
    by_cases hi : i = conn
    · subst hi
      simp
    · simp only [Function.update_of_ne hi, if_neg hi]
      cases (s.conns conn).row with
      | none => rfl
      | some r =>
          by_cases hr : (s.rows r).conn = some conn
          · simp [hr]
          · simp [hr]
  · simp [hopen]

theorem closed_rows (s : Link) (conn : ConnIx) (r : RowIx) :
    (s.closed conn).rows r =
      if (s.conns conn).isOpen = true ∧ (s.conns conn).row = some r ∧ (s.rows r).conn = some conn
      then { s.rows r with conn := none, contact := (s.rows r).contact.onDropped }
      else s.rows r := by
  unfold closed
  by_cases hopen : (s.conns conn).isOpen = true
  · simp only [hopen, if_true, true_and, setConn_rows]
    cases hrow : (s.conns conn).row with
    | none => simp
    | some r' =>
        by_cases hr : r = r'
        · subst hr
          by_cases hconn : (s.rows r).conn = some conn
          · simp [hconn]
          · simp [hconn]
        · have hne : r' ≠ r := fun h => hr h.symm
          by_cases hconn : (s.rows r').conn = some conn
          · simp [hconn, hr, hne]
          · simp [hconn, hne]
  · simp [hopen]

theorem closed_log (s : Link) (conn : ConnIx) : (s.closed conn).log = s.log := by
  unfold closed
  by_cases hopen : (s.conns conn).isOpen = true
  · simp only [hopen, if_true, setConn_log]
    cases (s.conns conn).row with
    | none => rfl
    | some r =>
        by_cases hr : (s.rows r).conn = some conn
        · simp [hr]
        · simp [hr]
  · simp [hopen]

theorem Placed.closed {s : Link} (h : s.Placed) (conn : ConnIx) : (s.closed conn).Placed := by
  refine ⟨?_, ?_, ?_⟩
  · intro r i hr
    rw [closed_rows] at hr
    split at hr
    · cases hr
    · next hkept =>
        obtain ⟨hopen, hrow⟩ := h.row_conn r i hr
        have hi : i ≠ conn := by
          intro hic
          subst hic
          exact hkept ⟨hopen, hrow, hr⟩
        rw [closed_conns, if_neg (fun hc => hi hc.1)]
        exact ⟨hopen, hrow⟩
  · intro i r hrow
    rw [closed_conns] at hrow
    split at hrow
    · cases hrow
    · next hkept =>
        obtain ⟨hopen, hconn⟩ := h.conn_row i r hrow
        have hi : i ≠ conn := by
          intro hic
          subst hic
          exact hkept ⟨rfl, hopen⟩
        rw [closed_conns, if_neg hkept, closed_rows, if_neg]
        · exact ⟨hopen, hconn⟩
        · intro hc
          rw [hconn, Option.some.injEq] at hc
          exact hi hc.2.2
  · intro r
    rw [closed_rows]
    split
    · rfl
    · exact h.connected r

/-! ## §4. Every move keeps the places. -/

theorem Placed.occupied {s : Link} (h : s.Placed) (conn : ConnIx) (nowMs : UInt32)
    (hclosed : (s.conns conn).isOpen = false) : (s.occupy conn nowMs).Placed := by
  have hnot : ∀ r, (s.rows r).conn ≠ some conn := by
    intro r hr
    rw [(h.row_conn r conn hr).1] at hclosed
    cases hclosed
  refine ⟨?_, ?_, h.connected⟩
  · intro r i hr
    have hi : i ≠ conn := by
      intro hic
      subst hic
      exact hnot r hr
    show (Function.update s.conns conn _ i).isOpen = true ∧ _
    rw [occupy, emit_conns, setConn_conns, Function.update_of_ne hi]
    exact h.row_conn r i hr
  · intro i r hrow
    rw [occupy, emit_conns, setConn_conns] at hrow ⊢
    by_cases hi : i = conn
    · subst hi
      simp at hrow
    · rw [Function.update_of_ne hi] at hrow ⊢
      exact h.conn_row i r hrow

theorem Placed.seated {s : Link} (h : s.Placed) (conn : ConnIx) (r : RowIx) (nowMs : UInt32)
    (hopen : (s.conns conn).isOpen = true) (hnobody : (s.conns conn).row = none)
    (hfree : (s.rows r).conn = none) : (s.seat conn r nowMs).Placed := by
  have hnot : ∀ r', (s.rows r').conn ≠ some conn := by
    intro r' hr'
    rw [(h.row_conn r' conn hr').2] at hnobody
    cases hnobody
  have hnone : ∀ i, (s.conns i).row ≠ some r := by
    intro i hi
    rw [(h.conn_row i r hi).2] at hfree
    cases hfree
  unfold seat
  refine ⟨?_, ?_, ?_⟩
  · intro r' i hr'
    simp only [emit_rows, setConn_rows, setRow_rows, emit_conns, setConn_conns, setRow_conns] at *
    by_cases hr : r' = r
    · subst hr
      simp only [Function.update_self, Option.some.injEq] at hr'
      subst hr'
      simp [hopen]
    · rw [Function.update_of_ne hr] at hr'
      have hi : i ≠ conn := by
        intro hic
        subst hic
        exact hnot r' hr'
      rw [Function.update_of_ne hi]
      exact h.row_conn r' i hr'
  · intro i r' hrow
    simp only [emit_rows, setConn_rows, setRow_rows, emit_conns, setConn_conns, setRow_conns] at *
    by_cases hi : i = conn
    · subst hi
      simp only [Function.update_self, Option.some.injEq] at hrow
      subst hrow
      simp [hopen]
    · rw [Function.update_of_ne hi] at hrow ⊢
      have hr : r' ≠ r := by
        intro hrr
        subst hrr
        exact hnone i hrow
      rw [Function.update_of_ne hr]
      exact h.conn_row i r' hrow
  · intro r'
    simp only [emit_rows, setConn_rows, setRow_rows]
    by_cases hr : r' = r
    · subst hr
      simp [WallRowContact.onConnected]
    · rw [Function.update_of_ne hr]
      exact h.connected r'

theorem Placed.forgot {s : Link} (h : s.Placed) (hgone : ∀ conn, (s.conns conn).isOpen = false) :
    s.forget.Placed := by
  refine ⟨?_, ?_, fun _ => rfl⟩
  · intro r conn hr
    cases hr
  · intro conn r hrow
    have hopen := (h.conn_row conn r hrow).1
    rw [hgone conn] at hopen
    cases hopen

theorem Placed.read {s : Link} (h : s.Placed) (conn : ConnIx)
    (reader : WlReader Nanopb.toMasterSize) : (s.setReader conn reader).Placed := by
  refine h.of_same ⟨fun _ => rfl, fun _ => rfl, ?_, ?_⟩
  · intro i
    by_cases hi : i = conn
    · subst hi; simp [setReader]
    · simp [setReader, hi]
  · intro i
    by_cases hi : i = conn
    · subst hi; simp [setReader]
    · simp [setReader, hi]

theorem Placed.dropped {s : Link} (h : s.Placed) (conn : ConnIx) (why : String) :
    (s.drop conn why).Placed :=
  ((h.of_same (SamePlaces.emit s _)).closed conn).of_same (SamePlaces.emit _ _)

/-- **Every move keeps rows and connections naming each other.** -/
theorem move_placed (s s' : Link) (h : s.Placed) (hmove : Move H s s') : s'.Placed := by
  cases hmove with
  | asked id => exact h.of_same (SamePlaces.emit s _)
  | said e _ => exact h.of_same (SamePlaces.emit s e)
  | closed conn => exact h.closed conn
  | occupied conn nowMs hclosed => exact h.occupied conn nowMs hclosed
  | read conn reader => exact h.read conn reader
  | seated conn r nowMs _ _ hopen hnobody hfree _ _ => exact h.seated conn r nowMs hopen hnobody hfree
  | welcomed conn r hl nowMs hconn hrow =>
      refine h.of_same (SamePlaces.trans ?_ (SamePlaces.emit _ _))
      exact SamePlaces.setRow s r _ rfl rfl
  | heard conn r m nowMs hrow => exact h.of_same (SamePlaces.hear s conn r m nowMs)
  | wrote conn r m ok nowMs hconn hm => exact h.of_same (SamePlaces.wrote s conn r m ok nowMs)
  | showed conn r ok nowMs hconn hdue =>
      refine h.of_same ?_
      unfold Link.showed
      dsimp only
      split
      · exact (SamePlaces.wrote s conn r _ ok nowMs).trans (SamePlaces.setRow _ r _ rfl rfl)
      · exact SamePlaces.wrote s conn r _ ok nowMs
  | handed conn r ok nowMs hconn hdue =>
      refine h.of_same ?_
      unfold Link.handed
      dsimp only
      split
      · exact (SamePlaces.wrote s conn r _ ok nowMs).trans (SamePlaces.setRow _ r _ rfl rfl)
      · exact SamePlaces.wrote s conn r _ ok nowMs
  | flagged r _ _ _ _ => exact h.of_same (SamePlaces.setRow s r _ rfl rfl)
  | gaveUp r nowMs => exact h.of_same (SamePlaces.tickJob s r nowMs)
  | textSet r text speed commitAtMs => exact h.of_same (SamePlaces.setRow s r _ rfl rfl)
  | quietSet on =>
      refine h.of_same ?_
      unfold setQuiet
      split
      · exact SamePlaces.rfl' s
      · exact ⟨fun _ => rfl, fun _ => rfl, fun _ => rfl, fun _ => rfl⟩
  | configSet next =>
      refine h.of_same ?_
      unfold setConfig
      split
      · exact SamePlaces.rfl' s
      · exact ⟨fun _ => rfl, fun _ => rfl, fun _ => rfl, fun _ => rfl⟩
  | hostSet r host =>
      refine h.of_same ?_
      unfold setHost
      split
      · exact SamePlaces.rfl' s
      · exact SamePlaces.setRow s r _ rfl rfl
  | logSet r wanted => exact h.of_same (SamePlaces.setRow s r _ rfl rfl)
  | forgot hgone => exact h.forgot hgone

theorem Placed.jobStarted {s : Link} (h : s.Placed) (r : RowIx) (op : WlOp) (nowMs : UInt32) :
    (s.startJob r op nowMs).2.Placed := by
  refine h.of_same ?_
  unfold startJob
  dsimp only
  split
  · refine SamePlaces.trans ?_ (SamePlaces.emit _ _)
    exact SamePlaces.setRow s r _ rfl rfl
  · exact SamePlaces.setRow s r _ rfl rfl

theorem placed_start : ({} : Link).Placed :=
  ⟨fun _ _ h => (nomatch h), fun _ _ h => (nomatch h), fun _ => rfl⟩

/-! ## §5. Every call is a path of moves. -/

theorem path_one {a b : Link} (h : Move H a b) : Path (Move H) a b := Relation.ReflTransGen.single h

theorem path_placed {a b : Link} (hpath : Path (Move H) a b) (h : a.Placed) : b.Placed :=
  hpath.keeps (move_placed H) h

theorem drop_path (s : Link) (conn : ConnIx) (why : String) : Path (Move H) s (s.drop conn why) :=
  ((path_one H (.said s _ rfl)).tail (.closed _ conn)).tail (.said _ _ rfl)

/-- `send`: nothing, or one write that took the message or did not. -/
theorem send_cases (s : Link) (r : RowIx) (m : WlToRow) (nowMs : UInt32) :
    s.send H r m nowMs = (false, s) ∨
      ∃ conn ok, (s.rows r).conn = some conn ∧
        s.send H r m nowMs = (ok, s.wrote conn r m ok nowMs) := by
  unfold send
  cases hconn : (s.rows r).conn with
  | none => exact .inl rfl
  | some conn =>
      dsimp only
      by_cases hframe : Nanopb.encodeToRow m = []
      · exact .inl (if_pos hframe)
      · rw [if_neg hframe]
        refine .inr ⟨conn, H.write s.log conn (Nanopb.encodeToRow m), rfl, ?_⟩
        unfold wrote
        cases H.write s.log conn (Nanopb.encodeToRow m) with
        | false => rfl
        | true => rfl

theorem send_path (s : Link) (r : RowIx) (m : WlToRow) (nowMs : UInt32)
    (hm : WlToRow.chores m = true) : Path (Move H) s (s.send H r m nowMs).2 := by
  rcases send_cases H s r m nowMs with h | ⟨conn, ok, hconn, h⟩
  · rw [h]
  · rw [h]
    exact path_one H (.wrote s conn r m ok nowMs hconn hm)

/-- A message that is sent and, once taken, marked on the row's flags. -/
theorem send_flag_path (s : Link) (r : RowIx) (m : WlToRow) (nowMs : UInt32)
    (hm : WlToRow.chores m = true) {mark : Link → Link}
    (hmark : ∀ s', Path (Move H) s' (mark s')) :
    Path (Move H) s
      (match s.send H r m nowMs with
        | (false, s) => (false, s)
        | (true, s) => (true, mark s) : Bool × Link).2 := by
  have hsend := send_path H s r m nowMs hm
  rcases hcases : s.send H r m nowMs with ⟨ok, s'⟩
  rw [hcases] at hsend
  cases ok with
  | false => exact hsend
  | true => exact hsend.trans (hmark s')

theorem tellConfig_path (s : Link) (r : RowIx) (nowMs : UInt32) :
    Path (Move H) s (s.tellConfig H r nowMs).2 := by
  unfold tellConfig
  split
  · refine send_flag_path H s r _ nowMs rfl fun s' => path_one H ?_
    exact .flagged s' r _ true _ _
  · rfl

theorem tellHost_path (s : Link) (r : RowIx) (nowMs : UInt32) :
    Path (Move H) s (s.tellHost H r nowMs).2 := by
  unfold tellHost
  split
  · refine send_flag_path H s r _ nowMs rfl fun s' => path_one H ?_
    exact .flagged s' r _ _ true _
  · rfl

theorem tellQuiet_path (s : Link) (r : RowIx) (nowMs : UInt32) :
    Path (Move H) s (s.tellQuiet H r nowMs).2 := by
  unfold tellQuiet
  split
  · refine send_flag_path H s r _ nowMs rfl fun s' => path_one H ?_
    exact .flagged s' r true _ _ _
  · rfl

theorem tellSettings_path (s : Link) (r : RowIx) (nowMs : UInt32) :
    Path (Move H) s (s.tellSettings H r nowMs).2 := by
  unfold tellSettings
  dsimp only
  split
  · rfl
  · split
    · rfl
    · have hconfig := tellConfig_path H s r nowMs
      rcases hcases : s.tellConfig H r nowMs with ⟨ok, s₁⟩
      rw [hcases] at hconfig
      cases ok with
      | false => exact hconfig
      | true =>
          have hhost := tellHost_path H s₁ r nowMs
          dsimp only
          rcases hcases' : s₁.tellHost H r nowMs with ⟨ok, s₂⟩
          rw [hcases'] at hhost
          cases ok with
          | false => exact hconfig.trans hhost
          | true => exact (hconfig.trans hhost).trans (tellQuiet_path H s₂ r nowMs)

/-- The place, the Welcome and the settings, for a connection that is nobody
and a row without one. -/
theorem welcome_path (s : Link) (conn : ConnIx) (r : RowIx) (h : WlHello) (nowMs : UInt32)
    (hopen : (s.conns conn).isOpen = true) (hnobody : (s.conns conn).row = none)
    (hfree : (s.rows r).conn = none) {answer : Int} (hasked : lastAsked s.log = some (h.id, answer))
    (hknown : knownRow answer = some r) :
    Path (Move H) s (s.welcome H conn r h nowMs) := by
  have hseat : Move H s (s.seat conn r nowMs) :=
    .seated s conn r nowMs h.id answer hopen hnobody hfree hasked hknown
  have hconn : ((s.seat conn r nowMs).rows r).conn = some conn := by simp [seat]
  have hrow : ((s.seat conn r nowMs).conns conn).row = some r := by simp [seat]
  unfold welcome
  dsimp only
  rcases send_cases H (s.seat conn r nowMs) r (.welcome ((s.seat conn r nowMs).welcomeOf H)) nowMs
    with hs | ⟨c, ok, hc, hs⟩
  · rw [hs]
    exact (path_one H hseat).trans (drop_path H _ _ _)
  · rw [hs]
    have hwrote := Move.wrote (H := H) _ c r (.welcome ((s.seat conn r nowMs).welcomeOf H)) ok nowMs hc rfl
    cases ok with
    | false => exact ((path_one H hseat).tail hwrote).trans (drop_path H _ _ _)
    | true =>
        have hsame := SamePlaces.wrote (s.seat conn r nowMs) c r
          (.welcome ((s.seat conn r nowMs).welcomeOf H)) true nowMs
        have hwelcomed := Move.welcomed (H := H) _ conn r h nowMs
          ((hsame.conn r).trans hconn) ((hsame.row conn).trans hrow)
        exact (((path_one H hseat).tail hwrote).tail hwelcomed).trans (tellSettings_path H _ r nowMs)

theorem mayReplace_path (s : Link) (conn old : ConnIx) (r : RowIx) :
    Path (Move H) s (s.mayReplace H conn old r).2 := by
  unfold mayReplace
  dsimp only
  split
  · exact path_one H (.said s _ rfl)
  · exact (path_one H (.said s _ rfl)).tail (.said _ _ rfl)

theorem mayReplace_core (s : Link) (conn old : ConnIx) (r : RowIx) :
    (s.mayReplace H conn old r).2.toWallLinkCore = s.toWallLinkCore := by
  unfold mayReplace
  dsimp only
  split <;> rfl

theorem mayReplace_lastAsked (s : Link) (conn old : ConnIx) (r : RowIx) :
    lastAsked (s.mayReplace H conn old r).2.log = lastAsked s.log := by
  unfold mayReplace
  dsimp only
  split
  · exact lastAsked_snoc _ _
  · exact (lastAsked_snoc _ _).trans (lastAsked_snoc _ _)

theorem drop_lastAsked (s : Link) (conn : ConnIx) (why : String) :
    lastAsked (s.drop conn why).log = lastAsked s.log := by
  unfold drop
  rw [emit_log, lastAsked_snoc, closed_log, emit_log, lastAsked_snoc]
  rfl

/-- Once the older connection is dropped, the row is free and the newer one
still nobody. -/
theorem dropped_free {s : Link} (hplaced : s.Placed) {conn old : ConnIx} {r : RowIx}
    (hopen : (s.conns conn).isOpen = true) (hnobody : (s.conns conn).row = none)
    (hold : (s.rows r).conn = some old) (why : String) :
    ((s.drop old why).conns conn).isOpen = true ∧ ((s.drop old why).conns conn).row = none ∧
      ((s.drop old why).rows r).conn = none := by
  obtain ⟨holdopen, holdrow⟩ := hplaced.row_conn r old hold
  have hne : conn ≠ old := by
    intro hco
    rw [hco, holdrow] at hnobody
    cases hnobody
  refine ⟨?_, ?_, ?_⟩
  · show ((Link.closed old _).conns conn).isOpen = true
    rw [closed_conns, if_neg (fun hc => hne hc.1)]
    exact hopen
  · show ((Link.closed old _).conns conn).row = none
    rw [closed_conns, if_neg (fun hc => hne hc.1)]
    exact hnobody
  · show ((Link.closed old _).rows r).conn = none
    rw [closed_rows, if_pos ⟨holdopen, holdrow, hold⟩]

theorem hello_path {s : Link} (hplaced : s.Placed) (conn : ConnIx) (h : WlHello) (nowMs : UInt32)
    (hopen : (s.conns conn).isOpen = true) (hnobody : (s.conns conn).row = none) :
    Path (Move H) s (s.hello H conn h nowMs) := by
  have hasked : Path (Move H) s (s.emit (.rowForId h.id (H.rowForId s.log h.id))) :=
    path_one H (.asked s h.id)
  have hlast : lastAsked (s.emit (.rowForId h.id (H.rowForId s.log h.id))).log =
      some (h.id, H.rowForId s.log h.id) := lastAsked_snoc _ _
  unfold hello
  dsimp only
  split
  · exact hasked.trans (drop_path H _ _ _)
  · exact hasked.trans (drop_path H _ _ _)
  · exact hasked.trans (drop_path H _ _ _)
  · exact hasked
  · next r _ hknown =>
      split
      · next hfree =>
          exact hasked.trans (welcome_path H _ conn r h nowMs hopen hnobody hfree hlast hknown)
      · next old hold =>
          have hmay := mayReplace_path H (s.emit (.rowForId h.id (H.rowForId s.log h.id))) conn old r
          have hcore := mayReplace_core H (s.emit (.rowForId h.id (H.rowForId s.log h.id)))
            conn old r
          rcases hanswer : (s.emit (.rowForId h.id (H.rowForId s.log h.id))).mayReplace H conn old r
            with ⟨ok, s'⟩
          rw [hanswer] at hmay hcore
          have hpath := hasked.trans hmay
          have hrows : s'.rows = s.rows := congrArg WallLinkCore.rows hcore
          have hconns : s'.conns = s.conns := congrArg WallLinkCore.conns hcore
          cases ok with
          | false => exact hpath.trans (drop_path H _ _ _)
          | true =>
              have hfreed := dropped_free (path_placed H hpath hplaced)
                (by rw [hconns]; exact hopen) (by rw [hconns]; exact hnobody)
                (by rw [hrows]; exact hold) "replaced by a newer connection"
              have hdrop := hpath.trans (drop_path H s' old "replaced by a newer connection")
              have hstill : lastAsked (s'.drop old "replaced by a newer connection").log =
                  some (h.id, H.rowForId s.log h.id) := by
                rw [drop_lastAsked, ← hlast]
                have hquiet := mayReplace_lastAsked H
                  (s.emit (.rowForId h.id (H.rowForId s.log h.id))) conn old r
                rw [hanswer] at hquiet
                exact hquiet
              exact hdrop.trans (welcome_path H _ conn r h nowMs
                hfreed.1 hfreed.2.1 hfreed.2.2 hstill hknown)

/-- `message`: a Hello of nobody, a message of a welcomed row, or a reason to
let go of the connection. -/
theorem message_cases (s : Link) (conn : ConnIx) (m : WlToMaster) (nowMs : UInt32) :
    (∃ h, m = .hello h ∧ (s.conns conn).row = none ∧
      s.message H conn m nowMs = s.hello H conn h nowMs) ∨
    (∃ why, s.message H conn m nowMs = s.drop conn why) ∨
    (∃ r, (s.conns conn).row = some r ∧ (∀ h, m ≠ .hello h) ∧
      s.message H conn m nowMs = s.hear conn r m nowMs) := by
  unfold message
  cases hrow : (s.conns conn).row with
  | none =>
      cases m with
      | hello h => exact .inl ⟨h, rfl, rfl, rfl⟩
      | _ => exact .inr (.inl ⟨_, rfl⟩)
  | some r =>
      cases m with
      | hello h => exact .inr (.inl ⟨_, rfl⟩)
      | _ => exact .inr (.inr ⟨r, rfl, fun _ h => (nomatch h), rfl⟩)

theorem message_path {s : Link} (hplaced : s.Placed) (conn : ConnIx) (m : WlToMaster)
    (nowMs : UInt32) (hopen : (s.conns conn).isOpen = true) :
    Path (Move H) s (s.message H conn m nowMs) := by
  rcases message_cases H s conn m nowMs with ⟨h, _, hrow, heq⟩ | ⟨why, heq⟩ | ⟨r, hrow, _, heq⟩
  · rw [heq]
    exact hello_path H hplaced conn h nowMs hopen hrow
  · rw [heq]
    exact drop_path H s conn why
  · rw [heq]
    exact path_one H (.heard s conn r m nowMs hrow)

theorem drain_path (nowMs : UInt32) :
    ∀ (fuel : Nat) (conn : ConnIx) {s s' : Link}, s.Placed →
      s.drain H nowMs fuel conn = some s' → Path (Move H) s s'
  | 0, _, _, _, _, h => by cases h
  | fuel + 1, conn, s, s', hplaced, h => by
      unfold drain at h
      dsimp only at h
      split at h
      · next hmessage =>
          have hread := path_one H (.read s conn (s.conns conn).reader.pop)
          have hopen : ((s.setReader conn (s.conns conn).reader.pop).conns conn).isOpen = true := by
            simp [setReader, hmessage.1]
          have hplaced' := path_placed H hread hplaced
          split at h
          · next m _ =>
              have hmsg := hread.trans (message_path H hplaced' conn m nowMs hopen)
              exact hmsg.trans (drain_path nowMs fuel conn (path_placed H hmsg hplaced) h)
          · split at h
            · injection h with h
              rw [← h]
              exact hread.trans (drop_path H _ _ _)
            · exact hread.trans (drain_path nowMs fuel conn hplaced' h)
      · injection h with h
        rw [h]

theorem bytesLoop_path (nowMs : UInt32) :
    ∀ (fuel : Nat) (conn : ConnIx) (data : Bytes) {s s' : Link}, s.Placed →
      s.bytesLoop H nowMs fuel conn data = some s' → Path (Move H) s s'
  | 0, _, _, _, _, _, h => by cases h
  | fuel + 1, conn, data, s, s', hplaced, h => by
      unfold bytesLoop at h
      dsimp only at h
      split at h
      · have hfed := path_one H (.read s conn ((s.conns conn).reader.feed data).1)
        rw [Option.bind_eq_some_iff] at h
        obtain ⟨m, hdrain, hrest⟩ := h
        have hm := hfed.trans (drain_path H nowMs _ conn (path_placed H hfed hplaced) hdrain)
        split at hrest
        · split at hrest
          · injection hrest with hrest
            rw [← hrest]
            exact hm.trans (drop_path H _ _ _)
          · split at hrest
            · injection hrest with hrest
              rw [← hrest]
              exact hm
            · exact hm.trans (bytesLoop_path nowMs fuel conn _ (path_placed H hm hplaced) hrest)
        · injection hrest with hrest
          rw [← hrest]
          exact hm
      · injection h with h
        rw [h]

theorem tickConn_path (nowMs : UInt32) (s : Link) (i : ConnIx) :
    Path (Move H) s (s.tickConn nowMs i) := by
  unfold tickConn
  dsimp only
  split
  · exact drop_path H _ _ _
  · rfl

theorem tickLog_path (s : Link) (r : RowIx) (nowMs : UInt32) :
    Path (Move H) s (s.tickLog H r nowMs) := by
  unfold tickLog
  dsimp only
  split
  · have hsend := send_path H s r (.logCtl (s.rows r).logWanted) nowMs rfl
    rcases hcases : s.send H r (.logCtl (s.rows r).logWanted) nowMs with ⟨ok, s'⟩
    rw [hcases] at hsend
    cases ok with
    | false => exact hsend
    | true => exact hsend.tail (.flagged s' r _ _ _ _)
  · rfl

theorem tickWork_path (s : Link) (r : RowIx) (nowMs : UInt32) :
    Path (Move H) s (s.tickWork H r nowMs) := by
  unfold tickWork
  dsimp only
  split
  · next hdue =>
      rcases send_cases H s r (.show (showOf (s.rows r).text)) nowMs with h | ⟨conn, ok, hconn, h⟩
      · rw [h]
      · have hmove : Move H s _ := .showed s conn r ok nowMs hconn hdue
        rw [h]
        cases ok with
        | false => exact path_one H hmove
        | true =>
            dsimp only
            rw [wrote_text]
            exact path_one H hmove
  · split
    · next hdue =>
        rcases send_cases H s r (.op (s.rows r).job.op) nowMs with h | ⟨conn, ok, hconn, h⟩
        · rw [h]
        · have hmove : Move H s _ := .handed s conn r ok nowMs hconn hdue
          rw [h]
          cases ok with
          | false => exact path_one H hmove
          | true =>
              dsimp only
              rw [wrote_job]
              exact path_one H hmove
    · split
      · exact send_path H s r .ping nowMs rfl
      · rfl

theorem tickRow_path (nowMs : UInt32) (s : Link) (r : RowIx) :
    Path (Move H) s (s.tickRow H nowMs r) := by
  have hjob := path_one H (.gaveUp s r nowMs)
  unfold tickRow
  dsimp only
  split
  · exact hjob
  · split
    · exact hjob.trans (drop_path H _ _ _)
    · have htold := hjob.trans (tellSettings_path H (s.tickJob r nowMs) r nowMs)
      rcases hcases : (s.tickJob r nowMs).tellSettings H r nowMs with ⟨ok, s'⟩
      rw [hcases] at htold
      cases ok with
      | false => exact htold
      | true => exact (htold.trans (tickLog_path H s' r nowMs)).trans (tickWork_path H _ r nowMs)

theorem tick_path (nowMs : UInt32) (s : Link) : Path (Move H) s (s.tick H nowMs) :=
  (Path.foldl (tickConn_path H nowMs) _ s).trans (Path.foldl (tickRow_path H nowMs) _ _)

/-! ## §6. `accept` and `reset`. -/

theorem freeSlot_closed {s : Link} {slot : ConnIx} (h : s.freeSlot = some slot) :
    (s.conns slot).isOpen = false := by
  have hfound := List.find?_some h
  simpa using hfound

theorem drop_closed (s : Link) (conn : ConnIx) (why : String) :
    ((s.drop conn why).conns conn).isOpen = false := by
  show ((Link.closed conn _).conns conn).isOpen = false
  rw [closed_conns]
  split
  · rfl
  · next hopen =>
      simp only [true_and, Bool.not_eq_true] at hopen
      exact hopen

theorem accept_path (nowMs : UInt32) (s : Link) : Path (Move H) s (s.accept nowMs).2 := by
  unfold accept
  split
  · next slot hslot => exact path_one H (.occupied s slot nowMs (freeSlot_closed hslot))
  · split
    · rfl
    · next slot _ =>
        exact (drop_path H _ _ _).tail (.occupied _ slot nowMs (drop_closed _ _ _))

theorem resetConn_path (s : Link) (i : ConnIx) : Path (Move H) s (s.resetConn i) := by
  unfold resetConn
  split
  · exact drop_path H _ _ _
  · rfl

/-- A closed connection stays closed while others are let go. -/
theorem resetConn_closed (s : Link) (i j : ConnIx)
    (h : (s.conns j).isOpen = false ∨ i = j) : ((s.resetConn i).conns j).isOpen = false := by
  unfold resetConn
  by_cases hij : i = j
  · subst hij
    split
    · exact drop_closed _ _ _
    · next hopen => simpa using hopen
  · have hclosed := h.resolve_right hij
    split
    · show ((Link.closed i _).conns j).isOpen = false
      rw [closed_conns, if_neg (fun hc => hij hc.1.symm)]
      exact hclosed
    · exact hclosed

theorem foldl_resetConn_closed (is : List ConnIx) :
    ∀ (s : Link) (j : ConnIx), (s.conns j).isOpen = false ∨ j ∈ is →
      ((is.foldl resetConn s).conns j).isOpen = false := by
  induction is with
  | nil =>
      intro s j h
      exact h.resolve_right (List.not_mem_nil)
  | cons i is ih =>
      intro s j h
      apply ih
      rcases h with hclosed | hmem
      · exact .inl (resetConn_closed s i j (.inl hclosed))
      · rcases List.mem_cons.mp hmem with hij | hmem
        · exact .inl (resetConn_closed s i j (.inr hij.symm))
        · exact .inr hmem

theorem reset_path (s : Link) : Path (Move H) s s.reset := by
  refine (Path.foldl (resetConn_path H) _ s).tail (.forgot _ ?_)
  intro conn
  exact foldl_resetConn_closed _ s conn (.inr (List.mem_finRange conn))

/-- After a reset every connection is gone and nothing is known of any row. -/
theorem reset_forgotten {s : Link} (hplaced : s.Placed) :
    (∀ conn, (s.reset.conns conn).row = none) ∧ (∀ r, (s.reset.rows r).job.stage = .none) ∧
      lastAsked s.reset.log = none := by
  refine ⟨?_, fun _ => rfl, ?_⟩
  · intro conn
    have hclosed : (s.reset.conns conn).isOpen = false :=
      foldl_resetConn_closed _ s conn (.inr (List.mem_finRange conn))
    have hnamed := path_placed _ (reset_path (.obliging []) s) hplaced
    cases hrow : (s.reset.conns conn).row with
    | none => rfl
    | some r =>
        rw [(hnamed.conn_row conn r hrow).1] at hclosed
        cases hclosed
  · show lastAsked (_ ++ [.reset]) = none
    rw [lastAsked_snoc]
    rfl

/-- A reset says nothing but remarks, and `reset`. -/
theorem reset_says (s : Link) :
    ∃ said, s.reset.log = s.log ++ said ∧ ∀ e ∈ said, LinkEvent.aside e = true ∨ e = .reset := by
  have hloop : ∀ (is : List ConnIx) (s : Link), ∃ said,
      (is.foldl resetConn s).log = s.log ++ said ∧ ∀ e ∈ said, LinkEvent.aside e = true := by
    intro is
    induction is with
    | nil => exact fun s => ⟨[], (List.append_nil _).symm, fun _ h => (nomatch h)⟩
    | cons i is ih =>
        intro s
        obtain ⟨said, hlog, hsaid⟩ := ih (s.resetConn i)
        by_cases hopen : (s.conns i).isOpen = true
        · refine ⟨.note i (s.conns i).row "rows table changed" :: .close i :: said, ?_, ?_⟩
          · rw [List.foldl_cons, hlog, resetConn, if_pos hopen, drop, emit_log, closed_log, emit_log]
            simp
          · intro e he
            rcases List.mem_cons.mp he with rfl | he
            · rfl
            · rcases List.mem_cons.mp he with rfl | he
              · rfl
              · exact hsaid e he
        · refine ⟨said, ?_, hsaid⟩
          rw [List.foldl_cons, hlog, resetConn, if_neg hopen]
  obtain ⟨said, hlog, hsaid⟩ := hloop (List.finRange WALL_LINK_MAX_CONNS) s
  refine ⟨said ++ [.reset], ?_, ?_⟩
  · show (List.foldl resetConn s _).log ++ [.reset] = _
    rw [hlog, List.append_assoc]
  · intro e he
    rcases List.mem_append.mp he with he | he
    · exact .inl (hsaid e he)
    · exact .inr (List.mem_singleton.mp he)

omit [Nanopb] in
theorem order_chores (order : Order) : WlToRow.chores order.toRow = true := by
  cases order <;> rfl

/-- Does the call hand the core a job? -/
def Call.starts : Call → Bool
  | .startJob .. => true
  | _ => false

/-- **Every call is a path of moves**, apart from the one that hands the core a
job. -/
theorem apply_path {s s' : Link} (hplaced : s.Placed) (call : Call) (hcall : call.starts = false)
    (h : s.apply H call = some s') : Path (Move H) s s' := by
  cases call with
  | bytes conn data nowMs => exact bytesLoop_path H nowMs _ conn data hplaced h
  | accept nowMs => injection h with h; rw [← h]; exact accept_path H nowMs s
  | closed conn => injection h with h; rw [← h]; exact path_one H (.closed s conn)
  | tick nowMs => injection h with h; rw [← h]; exact tick_path H nowMs s
  | setText r text speed commitAtMs =>
      injection h with h; rw [← h]; exact path_one H (.textSet s r text speed commitAtMs)
  | startJob r op nowMs => cases hcall
  | setQuiet on => injection h with h; rw [← h]; exact path_one H (.quietSet s on)
  | setConfig next => injection h with h; rw [← h]; exact path_one H (.configSet s next)
  | setHost r host => injection h with h; rw [← h]; exact path_one H (.hostSet s r host)
  | setLogWanted r wanted => injection h with h; rw [← h]; exact path_one H (.logSet s r wanted)
  | send r order nowMs =>
      injection h with h; rw [← h]; exact send_path H s r _ nowMs (order_chores order)
  | reset => injection h with h; rw [← h]; exact reset_path H s

/-- **What every move keeps, every run of the core keeps**, if a new job keeps
it too. -/
theorem runCalls_keeps {P : Link → Prop}
    (hmove : ∀ s s', s.Placed → P s → Move H s s' → P s')
    (hstart : ∀ (s : Link) r op nowMs, P s → P (s.startJob r op nowMs).2)
    {s s' : Link} {calls : List Call} (hplaced : s.Placed) (hs : P s)
    (hrun : s.runCalls H calls = some s') : s'.Placed ∧ P s' := by
  have hboth : ∀ a b : Link, a.Placed ∧ P a → Move H a b → b.Placed ∧ P b :=
    fun a b hab hm => ⟨move_placed H a b hab.1 hm, hmove a b hab.1 hab.2 hm⟩
  refine run_invariant (P := fun s => s.Placed ∧ P s) ?_ ⟨hplaced, hs⟩ hrun
  intro a call b hab hcall
  by_cases hstarts : call.starts = false
  · exact (apply_path H hab.1 call hstarts hcall).keeps hboth hab
  · cases call with
    | startJob r op nowMs =>
        injection hcall with hcall
        rw [← hcall]
        exact ⟨hab.1.jobStarted r op nowMs, hstart a r op nowMs hab.2⟩
    | _ => exact absurd rfl hstarts

end Link

end SplitFlap
