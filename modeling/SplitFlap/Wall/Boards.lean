/-
  SplitFlap.Wall.Boards — which board is behind a connection.

  The rows of the wall are named by their index in the rows table.  A
  connection gets a row's place by the id of its Hello, so while the table
  stands the connection of a row is that of the board at the row's index
  (`Named`), and a job is written to that board (`Homed`).
-/
import SplitFlap.Lib.Trace
import SplitFlap.Wall.Place

namespace SplitFlap

/-! ## §1. The rows table. -/

/-- A board of the wall and its place in the grid; the master's own row has no
id and no address. -/
structure WallRowDef where
  id : CStr := []
  host : CStr := []
  row : UInt8 := 0
  col : UInt8 := 0
  width : UInt8 := 0
  deriving Repr, DecidableEq

theorem no_boards_fit : ([] : List WallRowDef).length ≤ WALL_LINK_MAX_ROWS := Nat.zero_le _

/-- The boards of the wall by row index. -/
structure WallRowsTable where
  rows : List WallRowDef := []
  fits : rows.length ≤ WALL_LINK_MAX_ROWS := by first | exact no_boards_fit | decide

/-- The boards' ids, by row index. -/
def WallRowsTable.ids (table : WallRowsTable) : List CStr := table.rows.map (·.id)

/-- `wallRowIsOwn`. -/
def wallRowIsOwn (d : WallRowDef) : Bool := d.id = []

/-- `wallRowsOwn`: the index of the master's own row. -/
def wallRowsOwn (table : WallRowsTable) : Option Nat := table.rows.findIdx? wallRowIsOwn

/-- `wallRowsFind`. -/
def wallRowsFind (table : WallRowsTable) (id : CStr) : Int :=
  if id = [] then -1
  else
    match table.ids.findIdx? (· = id) with
    | some i => i
    | none => -1

/-- The board at a row's index. -/
def boardAt (table : WallRowsTable) (row : RowIx) : Option CStr := table.ids[row.val]?

theorem knownRow_val {answer : Int} {row : RowIx} (h : Link.knownRow answer = some row) :
    answer = row.val := by
  unfold Link.knownRow at h
  split at h
  · next hbounds =>
      injection h with h
      rw [← h]
      show answer = (answer.toNat : Int)
      omega
  · cases h

/-- A known row is the one that holds the id. -/
theorem boardAt_of_find {table : WallRowsTable} {id : CStr} {row : RowIx}
    (h : Link.knownRow (wallRowsFind table id) = some row) : boardAt table row = some id := by
  have hval := knownRow_val h
  unfold wallRowsFind at hval
  split at hval
  · omega
  · cases hfind : table.ids.findIdx? (· = id) with
    | none =>
        rw [hfind] at hval
        dsimp only at hval
        omega
    | some i =>
        rw [hfind] at hval
        dsimp only at hval
        have hrow : row.val = i := by omega
        obtain ⟨hi, hid, _⟩ := List.findIdx?_eq_some_iff_getElem.mp hfind
        unfold boardAt
        rw [hrow, List.getElem?_eq_getElem hi]
        exact congrArg some (of_decide_eq_true hid)

/-- `Hooks`: ids are looked up in the pass's own table. -/
def WallLinkHooks.withTable (H : WallLinkHooks) (table : WallRowsTable) : WallLinkHooks :=
  { H with rowForId := fun _ id => wallRowsFind table id }

/-! ## §2. The board behind a connection. -/

namespace Link

open Machine Trace

/-- What an event makes of the last id asked for and of the board behind
`conn`. -/
def behindStep (conn : ConnIx) (known : Option (CStr × Int) × Option CStr) (e : LinkEvent) :
    Option (CStr × Int) × Option CStr :=
  (lastAskedStep known.1 e,
    match e with
    | .accepted c => if c = conn then none else known.2
    | .admitted c _ => if c = conn then known.1.map Prod.fst else known.2
    | _ => known.2)

/-- The id of the Hello that gave the connection its place. -/
def boardOf (conn : ConnIx) (log : List LinkEvent) : Option CStr :=
  (log.foldl (behindStep conn) (none, none)).2

theorem behind_fst (conn : ConnIx) (log : List LinkEvent) :
    ∀ known, (log.foldl (behindStep conn) known).1 = log.foldl lastAskedStep known.1 := by
  induction log with
  | nil => exact fun _ => rfl
  | cons e log ih => exact fun known => ih (behindStep conn known e)

theorem boardOf_snoc (conn : ConnIx) (log : List LinkEvent) (e : LinkEvent) :
    boardOf conn (log ++ [e]) =
      (behindStep conn (lastAsked log, boardOf conn log) e).2 := by
  have hfst := behind_fst conn log (none, none)
  unfold boardOf lastAsked
  rw [List.foldl_append, ← hfst]
  rfl

theorem boardOf_placeless {e : LinkEvent} (he : LinkEvent.placeless e = true) (conn : ConnIx)
    (log : List LinkEvent) : boardOf conn (log ++ [e]) = boardOf conn log := by
  rw [boardOf_snoc]
  cases e with
  | accepted c => cases he
  | admitted c r => cases he
  | _ => rfl

/-- In a call of the core a job is written only to the board at its row's
index, and none is taken on. -/
def Homed (table : WallRowsTable) (log : List LinkEvent) : LinkEvent → Prop
  | .write conn row (.op _) true => ∃ id, boardOf conn log = some id ∧ boardAt table row = some id
  | .jobAccepted .. => False
  | _ => True

section Boards

variable [Nanopb]

/-- The connections of the rows are those of the table's boards, and what was
said since `base` is in order. -/
structure Named (table : WallRowsTable) (base : List LinkEvent) (s : Link) : Prop where
  asked : ∀ id answer, lastAsked s.log = some (id, answer) → answer = wallRowsFind table id
  seated : ∀ conn r, (s.conns conn).row = some r →
    ∃ id, boardOf conn s.log = some id ∧ boardAt table r = some id
  said : ∃ said, s.log = base ++ said ∧ Says (Homed table) base said

variable {table : WallRowsTable} {base : List LinkEvent}

/-- A move that says nothing and gives no connection a row. -/
theorem Named.silent {s s' : Link} (h : s.Named table base) (hlog : s'.log = s.log)
    (hrow : ∀ conn r, (s'.conns conn).row = some r → (s.conns conn).row = some r) :
    s'.Named table base := by
  refine ⟨?_, ?_, ?_⟩
  · rw [hlog]
    exact h.asked
  · intro conn r hr
    rw [hlog]
    exact h.seated conn r (hrow conn r hr)
  · rw [hlog]
    exact h.said

theorem Named.more {s s' : Link} (h : s.Named table base) {e : LinkEvent}
    (hlog : s'.log = s.log ++ [e]) (he : Homed table s.log e) :
    ∃ said, s'.log = base ++ said ∧ Says (Homed table) base said := by
  obtain ⟨said, hbase, hspeech⟩ := h.said
  refine ⟨said ++ [e], ?_, hspeech.append (says_one ?_)⟩
  · rw [hlog, hbase, List.append_assoc]
  · rw [← hbase]
    exact he

/-- A move that says `e` and changes no connection's row. -/
theorem Named.says {s s' : Link} (h : s.Named table base) (e : LinkEvent)
    (hlog : s'.log = s.log ++ [e]) (hconns : s'.conns = s.conns)
    (hplaceless : LinkEvent.placeless e = true)
    (hasked : ∀ id answer, lastAskedStep (lastAsked s.log) e = some (id, answer) →
      answer = wallRowsFind table id)
    (he : Homed table s.log e) : s'.Named table base := by
  refine ⟨?_, ?_, h.more hlog he⟩
  · rw [hlog, lastAsked_snoc]
    exact hasked
  · intro conn r hr
    rw [hconns] at hr
    rw [hlog, boardOf_placeless hplaceless]
    exact h.seated conn r hr

theorem Named.occupied {s : Link} (h : s.Named table base) (conn : ConnIx) (nowMs : UInt32) :
    (s.occupy conn nowMs).Named table base := by
  refine ⟨?_, ?_, h.more rfl trivial⟩
  · show ∀ id answer, lastAsked (s.log ++ [.accepted conn]) = some (id, answer) → _
    rw [lastAsked_snoc]
    exact h.asked
  · intro i r hr
    show ∃ id, boardOf i (s.log ++ [.accepted conn]) = some id ∧ _
    rw [boardOf_snoc]
    rw [occupy, emit_conns, setConn_conns] at hr
    by_cases hi : i = conn
    · subst hi
      simp at hr
    · rw [Function.update_of_ne hi] at hr
      have hne : conn ≠ i := fun hc => hi hc.symm
      simp only [behindStep, if_neg hne]
      exact h.seated i r hr

/-- A connection that is given its place is that of the board that was asked
for. -/
theorem Named.seated' {s : Link} (h : s.Named table base) (conn : ConnIx) (r : RowIx)
    (nowMs : UInt32) {id : CStr} {answer : Int} (hasked : lastAsked s.log = some (id, answer))
    (hknown : knownRow answer = some r) : (s.seat conn r nowMs).Named table base := by
  have hboard : boardAt table r = some id := by
    apply boardAt_of_find
    rw [← h.asked id answer hasked]
    exact hknown
  refine ⟨?_, ?_, h.more rfl trivial⟩
  · show ∀ id answer, lastAsked (s.log ++ [.admitted conn r]) = some (id, answer) → _
    rw [lastAsked_snoc]
    exact h.asked
  · intro i r' hr
    show ∃ id, boardOf i (s.log ++ [.admitted conn r]) = some id ∧ _
    rw [boardOf_snoc]
    rw [seat, emit_conns, setConn_conns, setRow_conns] at hr
    by_cases hi : i = conn
    · subst hi
      simp only [Function.update_self, Option.some.injEq] at hr
      subst hr
      refine ⟨id, ?_, hboard⟩
      simp [behindStep, hasked]
    · rw [Function.update_of_ne hi] at hr
      have hne : conn ≠ i := fun hc => hi hc.symm
      simp only [behindStep, if_neg hne]
      exact h.seated i r' hr

/-- **While the table stands, a row's connection is its board's.** -/
theorem move_named (H : WallLinkHooks) (s s' : Link) (hplaced : s.Placed)
    (h : s.Named table base) (hmove : Move (H.withTable table) s s') : s'.Named table base := by
  have hboard : ∀ r conn, (s.rows r).conn = some conn →
      ∃ id, boardOf conn s.log = some id ∧ boardAt table r = some id :=
    fun r conn hconn => h.seated conn r (hplaced.row_conn r conn hconn).2
  cases hmove with
  | asked id =>
      refine h.says _ rfl rfl rfl ?_ trivial
      intro id' answer hanswer
      simp only [lastAskedStep, Option.some.injEq, Prod.mk.injEq] at hanswer
      rw [← hanswer.1, ← hanswer.2]
      rfl
  | said e he =>
      refine h.says e rfl rfl ?_ ?_ ?_
      · cases e <;> first | rfl | cases he
      · cases e <;> first | exact h.asked | cases he
      · cases e <;> trivial
  | closed conn =>
      refine h.silent (closed_log s conn) ?_
      intro i r hr
      rw [closed_conns] at hr
      split at hr
      · cases hr
      · exact hr
  | occupied conn nowMs _ => exact h.occupied conn nowMs
  | read conn reader =>
      refine h.silent rfl ?_
      intro i r hr
      by_cases hi : i = conn
      · subst hi
        simpa [setReader] using hr
      · simpa [setReader, hi] using hr
  | seated conn r nowMs _ _ _ _ _ hasked hknown => exact h.seated' conn r nowMs hasked hknown
  | welcomed conn r hl nowMs _ _ => exact h.says _ rfl rfl rfl h.asked trivial
  | heard conn r m nowMs _ =>
      by_cases htold : (rowHears (s.rows r) m nowMs).2 = true
      · exact h.says (.rowMessage conn r m) (by simp [hear, htold]) (by simp [hear, htold]) rfl
          h.asked trivial
      · exact h.silent (by simp [hear, htold]) (by simp [hear, htold])
  | wrote conn r m ok nowMs _ hm =>
      refine h.says _ (wrote_log ..) (wrote_conns ..) rfl h.asked ?_
      cases m <;> trivial
  | showed conn r ok nowMs _ _ =>
      exact h.says _ (showed_log ..) (showed_conns ..) rfl h.asked trivial
  | handed conn r ok nowMs hconn _ =>
      refine h.says _ (handed_log ..) (handed_conns ..) rfl h.asked ?_
      cases ok with
      | false => trivial
      | true => exact hboard r conn hconn
  | flagged r _ _ _ _ => exact h.silent rfl fun _ _ hr => hr
  | gaveUp r nowMs =>
      cases hdue : (s.rows r).job.overdue nowMs with
      | none => exact h.silent (by simp [tickJob, hdue]) (by simp [tickJob, hdue])
      | some why =>
          exact h.says (.jobEnded r (s.rows r).job.op.opId why) (by simp [tickJob, hdue])
            (by simp [tickJob, hdue]) rfl h.asked trivial
  | textSet r text speed commitAtMs => exact h.silent rfl fun _ _ hr => hr
  | quietSet on =>
      by_cases hon : on = s.quiet
      · exact h.silent (by simp [setQuiet, hon]) (by simp [setQuiet, hon])
      · exact h.silent (by simp [setQuiet, hon]) (by simp [setQuiet, hon])
  | configSet next =>
      by_cases hnext : s.haveConfig = true ∧ next = s.config
      · exact h.silent (by rw [setConfig, if_pos hnext]) (by rw [setConfig, if_pos hnext]; simp)
      · exact h.silent (by rw [setConfig, if_neg hnext]) (by rw [setConfig, if_neg hnext]; simp)
  | hostSet r host =>
      by_cases hsame : (s.rows r).hostKnown = true ∧ (s.rows r).host = host
      · exact h.silent (by rw [setHost, if_pos hsame]) (by rw [setHost, if_pos hsame]; simp)
      · exact h.silent (by rw [setHost, if_neg hsame]; rfl) (by rw [setHost, if_neg hsame]; simp)
  | logSet r wanted => exact h.silent rfl fun _ _ hr => hr
  | forgot _ =>
      refine h.says .reset rfl rfl rfl ?_ trivial
      intro id answer hanswer
      cases hanswer

end Boards

end Link

end SplitFlap
