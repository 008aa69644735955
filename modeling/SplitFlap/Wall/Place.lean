/-
  SplitFlap.Wall.Place — who speaks for a row.

  In every state the core can reach, rows and connections name each other
  (`Placed`, kept by every move).  The log tells the same story: `speaker` is
  the row a connection was last admitted to, and every Hello, message and
  write of a row goes over the connection that speaks for it.
-/
import SplitFlap.Lib.Log
import SplitFlap.Link.Codec
import SplitFlap.Wall.Reading

namespace SplitFlap

namespace Link

open Log

/-! ## §1. The log's own account. -/

def speakerStep (conn : ConnIx) (row : Option RowIx) : LinkEvent → Option RowIx
  | .accepted c => if c = conn then none else row
  | .admitted c r => if c = conn then some r else row
  | _ => row

/-- The row a connection speaks for, by the log alone: the one it was admitted
to since its socket was accepted. -/
def speaker (conn : ConnIx) (log : List LinkEvent) : Option RowIx :=
  log.foldl (speakerStep conn) none

theorem speaker_snoc (conn : ConnIx) (log : List LinkEvent) (e : LinkEvent) :
    speaker conn (log ++ [e]) = speakerStep conn (speaker conn log) e := by
  unfold speaker
  rw [List.foldl_append]
  rfl

/-- What is said of a row is said over the connection that speaks for it. -/
def Spoken (log : List LinkEvent) : LinkEvent → Prop
  | .rowHello conn r _ _ => speaker conn log = some r
  | .rowMessage conn r _ => speaker conn log = some r
  | .write conn r _ _ => speaker conn log = some r
  | _ => True

/-- Events that change no connection's row. -/
def LinkEvent.placeless : LinkEvent → Bool
  | .accepted _ | .admitted .. => false
  | _ => true

theorem speakerStep_placeless {e : LinkEvent} (h : LinkEvent.placeless e = true) (conn : ConnIx)
    (row : Option RowIx) : speakerStep conn row e = row := by
  cases e with
  | accepted c => cases h
  | admitted c r => cases h
  | _ => rfl

section Places

variable [Nanopb]

/-! ## §2. It agrees with the core. -/

/-- The log names every connection's row, and nothing in it is said over
another connection. -/
structure Attributed (s : Link) : Prop where
  rows : ∀ conn r, (s.conns conn).row = some r → speaker conn s.log = some r
  log : Each Spoken s.log

/-- A move that says nothing and gives no connection a row. -/
theorem Attributed.silent {s s' : Link} (h : s.Attributed) (hlog : s'.log = s.log)
    (hrow : ∀ conn r, (s'.conns conn).row = some r → (s.conns conn).row = some r) :
    s'.Attributed := by
  refine ⟨?_, hlog ▸ h.log⟩
  intro conn r hr
  rw [hlog]
  exact h.rows conn r (hrow conn r hr)

/-- A move that says `e` and changes no connection's row. -/
theorem Attributed.says {s s' : Link} (h : s.Attributed) (e : LinkEvent)
    (hlog : s'.log = s.log ++ [e]) (hconns : s'.conns = s.conns)
    (he : LinkEvent.placeless e = true) (hspoken : Spoken s.log e) : s'.Attributed := by
  refine ⟨?_, ?_⟩
  · intro conn r hr
    rw [hconns] at hr
    rw [hlog, speaker_snoc, speakerStep_placeless he]
    exact h.rows conn r hr
  · rw [hlog]
    exact each_snoc.mpr ⟨h.log, hspoken⟩

theorem Attributed.occupied {s : Link} (h : s.Attributed) (conn : ConnIx) (nowMs : UInt32) :
    (s.occupy conn nowMs).Attributed := by
  refine ⟨?_, each_snoc.mpr ⟨h.log, trivial⟩⟩
  intro i r hr
  show speaker i (s.log ++ [.accepted conn]) = some r
  rw [speaker_snoc]
  rw [occupy, emit_conns, setConn_conns] at hr
  by_cases hi : i = conn
  · subst hi
    simp at hr
  · rw [Function.update_of_ne hi] at hr
    have hne : conn ≠ i := fun hc => hi hc.symm
    simp only [speakerStep, if_neg hne]
    exact h.rows i r hr

theorem Attributed.seated {s : Link} (h : s.Attributed) (conn : ConnIx) (r : RowIx)
    (nowMs : UInt32) : (s.seat conn r nowMs).Attributed := by
  refine ⟨?_, each_snoc.mpr ⟨h.log, trivial⟩⟩
  intro i r' hr
  show speaker i (s.log ++ [.admitted conn r]) = some r'
  rw [speaker_snoc]
  rw [seat, emit_conns, setConn_conns, setRow_conns] at hr
  by_cases hi : i = conn
  · subst hi
    rw [Function.update_self] at hr
    simpa [speakerStep] using hr
  · rw [Function.update_of_ne hi] at hr
    have hne : conn ≠ i := fun hc => hi hc.symm
    simp only [speakerStep, if_neg hne]
    exact h.rows i r' hr

/-- Every move is said over the connection that speaks for the row. -/
theorem move_attributed (H : WallLinkHooks) (s s' : Link) (hplaced : s.Placed) (h : s.Attributed)
    (hmove : Move H s s') : s'.Attributed := by
  have hspeaks : ∀ r conn, (s.rows r).conn = some conn → speaker conn s.log = some r :=
    fun r conn hconn => h.rows conn r (hplaced.row_conn r conn hconn).2
  cases hmove with
  | asked id => exact h.says _ rfl rfl rfl trivial
  | said e he =>
      refine h.says e rfl rfl ?_ ?_
      · cases e <;> first | rfl | cases he
      · cases e <;> trivial
  | closed conn =>
      refine h.silent (closed_log s conn) ?_
      intro i r hr
      rw [closed_conns] at hr
      split at hr
      · cases hr
      · exact hr
  | occupied conn nowMs _ => exact h.occupied conn nowMs
  | read conn reader =>
      refine h.silent rfl ?_
      intro i r hr
      by_cases hi : i = conn
      · subst hi
        simpa [setReader] using hr
      · simpa [setReader, hi] using hr
  | seated conn r nowMs _ _ _ _ _ _ _ => exact h.seated conn r nowMs
  | welcomed conn r hl nowMs hconn hrow => exact h.says _ rfl rfl rfl (h.rows conn r hrow)
  | heard conn r m nowMs hrow =>
      by_cases htold : (rowHears (s.rows r) m nowMs).2 = true
      · exact h.says (.rowMessage conn r m) (by simp [hear, htold]) (by simp [hear, htold]) rfl
          (h.rows conn r hrow)
      · exact h.silent (by simp [hear, htold]) (by simp [hear, htold])
  | wrote conn r m ok nowMs hconn _ =>
      exact h.says _ (wrote_log ..) (wrote_conns ..) rfl (hspeaks r conn hconn)
  | showed conn r ok nowMs hconn _ =>
      exact h.says _ (showed_log ..) (showed_conns ..) rfl (hspeaks r conn hconn)
  | handed conn r ok nowMs hconn _ =>
      exact h.says _ (handed_log ..) (handed_conns ..) rfl (hspeaks r conn hconn)
  | flagged r _ _ _ _ => exact h.silent rfl fun _ _ hr => hr
  | gaveUp r nowMs =>
      cases hdue : (s.rows r).job.overdue nowMs with
      | none => exact h.silent (by simp [tickJob, hdue]) (by simp [tickJob, hdue])
      | some why =>
          exact h.says (.jobEnded r (s.rows r).job.op.opId why) (by simp [tickJob, hdue])
            (by simp [tickJob, hdue]) rfl trivial
  | textSet r text speed commitAtMs => exact h.silent rfl fun _ _ hr => hr
  | quietSet on =>
      by_cases hon : on = s.quiet
      · exact h.silent (by simp [setQuiet, hon]) (by simp [setQuiet, hon])
      · exact h.silent (by simp [setQuiet, hon]) (by simp [setQuiet, hon])
  | configSet next =>
      by_cases hnext : s.haveConfig = true ∧ next = s.config
      · exact h.silent (by rw [setConfig, if_pos hnext]) (by rw [setConfig, if_pos hnext]; simp)
      · exact h.silent (by rw [setConfig, if_neg hnext]) (by rw [setConfig, if_neg hnext]; simp)
  | hostSet r host =>
      by_cases hsame : (s.rows r).hostKnown = true ∧ (s.rows r).host = host
      · exact h.silent (by rw [setHost, if_pos hsame]) (by rw [setHost, if_pos hsame]; simp)
      · exact h.silent (by rw [setHost, if_neg hsame]; rfl) (by rw [setHost, if_neg hsame]; simp)
  | logSet r wanted => exact h.silent rfl fun _ _ hr => hr
  | forgot _ => exact h.says .reset rfl rfl rfl trivial

theorem Attributed.jobStarted {s : Link} (h : s.Attributed) (r : RowIx) (op : WlOp)
    (nowMs : UInt32) : (s.startJob r op nowMs).2.Attributed := by
  by_cases hstarted : ((s.rows r).job.start op nowMs).2 = true
  · exact h.says (.jobAccepted r op) (by simp [startJob, hstarted])
      (by simp [startJob, hstarted]) rfl trivial
  · exact h.silent (by simp [startJob, hstarted]) (by simp [startJob, hstarted])

theorem attributed_start : ({} : Link).Attributed :=
  ⟨fun _ _ h => (nomatch h), each_nil _⟩

/-! ## §3. The places of every reachable state. -/

variable (H : WallLinkHooks)

/-- **Rows and connections name each other in every reachable state**, so no
two connections speak for one row, and whatever the core hears from or writes
to a row went over the connection that was admitted to it. -/
theorem places_agree (calls : List Call) : ∃ s : Link, ({} : Link).runCalls H calls = some s ∧
    (∀ r conn, (s.rows r).conn = some conn →
      (s.conns conn).isOpen = true ∧ (s.conns conn).row = some r ∧
        (s.rows r).contact.connected = true) ∧
    (∀ conn r, (s.conns conn).isOpen = true → (s.conns conn).row = some r →
      (s.rows r).conn = some conn) ∧
    (∀ conn, (s.conns conn).isOpen = false → (s.conns conn).row = none) ∧
    (∀ r, (s.rows r).conn = none → (s.rows r).contact.connected = false) ∧
    (∀ conn conn' r, (s.conns conn).row = some r → (s.conns conn').row = some r → conn = conn') ∧
    (∀ pre e post, s.log = pre ++ e :: post → Spoken pre e) := by
  obtain ⟨s, hrun⟩ := Option.isSome_iff_exists.mp (runCalls_isSome H calls {})
  obtain ⟨hplaced, hattr⟩ := runCalls_keeps H (move_attributed H)
    (fun _ r op nowMs h => h.jobStarted r op nowMs) placed_start attributed_start hrun
  refine ⟨s, hrun, ?_, fun conn r _ hrow => (hplaced.conn_row conn r hrow).2, ?_, ?_, ?_, hattr.log⟩
  · intro r conn hconn
    obtain ⟨hopen, hrow⟩ := hplaced.row_conn r conn hconn
    refine ⟨hopen, hrow, ?_⟩
    rw [hplaced.connected, hconn]
    rfl
  · intro conn hclosed
    cases hrow : (s.conns conn).row with
    | none => rfl
    | some r =>
        have hopen := (hplaced.conn_row conn r hrow).1
        rw [hclosed] at hopen
        cases hopen
  · intro r hconn
    rw [hplaced.connected, hconn]
    rfl
  · intro conn conn' r hrow hrow'
    have hconn := (hplaced.conn_row conn r hrow).2
    rw [(hplaced.conn_row conn' r hrow').2, Option.some.injEq] at hconn
    exact hconn.symm

end Places

/-! ## §4. One row says Hello. -/

local instance placesCodec : Nanopb := Codec.nanopb

/-- The Hello of row `r`, cut after its first byte. -/
def helloCalls : List Call :=
  [.accept 0, .bytes 0 [11] 1, .bytes 0 [10, 9, 8, 1, 18, 3, 114, 48, 49, 32, 7] 2, .tick 3]

theorem places_agree_hello :
    ∃ s : Link, ({} : Link).runCalls (.obliging [[114, 48, 49]]) helloCalls = some s ∧
      (s.rows 0).conn = some 0 ∧ (s.conns 0).row = some 0 ∧
      (s.rows 0).contact.connected = true := by
  obtain ⟨s, hs, hrows, _⟩ := places_agree (.obliging [[114, 48, 49]]) helloCalls
  have hconn : (({} : Link).runCalls (.obliging [[114, 48, 49]]) helloCalls).map
      (fun s => (s.rows 0).conn) = some (some 0) := by decide +kernel
  rw [hs, Option.map_some, Option.some.injEq] at hconn
  obtain ⟨_, hrow, hconnected⟩ := hrows 0 0 hconn
  exact ⟨s, hs, hconn, hrow, hconnected⟩

end Link

end SplitFlap
