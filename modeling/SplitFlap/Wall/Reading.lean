/-
  SplitFlap.Wall.Reading — `WallLinkCore::bytes` ends.

  No message touches a connection's reader, so each turn of the inner loop
  shortens it, and a reader that waits for more has room: every turn of the
  outer loop but the first takes a byte.  With `apply_isSome` a run of the
  core is `none` for no sequence of calls.
-/
import SplitFlap.Link.Chunking
import SplitFlap.Wall.Moves

namespace SplitFlap

namespace Link

variable [Nanopb] (H : WallLinkHooks)

/-! ## §1. Messages leave the readers alone. -/

/-- Writes of a row's settings. -/
def LinkEvent.isSetting : LinkEvent → Bool
  | .write _ _ (.config _) _ | .write _ _ (.name _) _ | .write _ _ (.quiet _) _ => true
  | _ => false

/-- Every connection's reader is as it was. -/
def SameReaders (s s' : Link) : Prop := ∀ i, (s'.conns i).reader = (s.conns i).reader

theorem SameReaders.trans {a b c : Link} (h : SameReaders a b) (h' : SameReaders b c) :
    SameReaders a c := fun i => (h' i).trans (h i)

theorem SameReaders.of_conns {s s' : Link} (h : s'.conns = s.conns) : SameReaders s s' := by
  intro i
  rw [h]

theorem drop_readers (s : Link) (conn : ConnIx) (why : String) :
    SameReaders s (s.drop conn why) := by
  intro i
  show ((Link.closed conn _).conns i).reader = _
  rw [closed_conns]
  split
  · next hi => rw [hi.1]; rfl
  · rfl

theorem send_conns (s : Link) (r : RowIx) (m : WlToRow) (nowMs : UInt32) :
    (s.send H r m nowMs).2.conns = s.conns := by
  rcases send_cases H s r m nowMs with h | ⟨conn, ok, _, h⟩
  · rw [h]
  · rw [h]
    cases ok <;> rfl

/-- What the settings of row `r` come to: writes to the row, none of them a
Welcome, a text or a job, and nothing but marks on the row itself. -/
structure Tells (r : RowIx) (s s' : Link) : Prop where
  conns : s'.conns = s.conns
  rows : ∀ i, i ≠ r → s'.rows i = s.rows i
  log : ∃ said, s'.log = s.log ++ said ∧ ∀ e ∈ said, LinkEvent.isSetting e = true

theorem Tells.rfl' (r : RowIx) (s : Link) : Tells r s s :=
  ⟨rfl, fun _ _ => rfl, [], (List.append_nil _).symm, fun _ h => (nomatch h)⟩

theorem Tells.trans {r : RowIx} {a b c : Link} (h : Tells r a b) (h' : Tells r b c) :
    Tells r a c := by
  obtain ⟨said, hlog, hsaid⟩ := h.log
  obtain ⟨said', hlog', hsaid'⟩ := h'.log
  refine ⟨h'.conns.trans h.conns, fun i hi => (h'.rows i hi).trans (h.rows i hi),
    said ++ said', by rw [hlog', hlog, List.append_assoc], ?_⟩
  intro e he
  rcases List.mem_append.mp he with he | he
  · exact hsaid e he
  · exact hsaid' e he

theorem Tells.mark (r : RowIx) (s : Link) (row : WallLinkRow) : Tells r s (s.setRow r row) :=
  ⟨rfl, fun i hi => by simp [hi], [], (List.append_nil _).symm, fun _ h => (nomatch h)⟩

theorem Tells.wrote (s : Link) (conn : ConnIx) (r : RowIx) {m : WlToRow}
    (hm : ∀ ok, LinkEvent.isSetting (.write conn r m ok) = true) (ok : Bool) (nowMs : UInt32) :
    Tells r s (s.wrote conn r m ok nowMs) := by
  refine ⟨wrote_conns .., ?_, [.write conn r m ok], wrote_log .., ?_⟩
  · intro i hi
    unfold Link.wrote
    cases ok <;> simp [hi]
  · intro e he
    rw [List.mem_singleton.mp he]
    exact hm ok

/-- A setting that is sent and, once taken, marked on the row. -/
theorem send_mark_tells (s : Link) (r : RowIx) {m : WlToRow} (nowMs : UInt32)
    (hm : ∀ conn ok, LinkEvent.isSetting (.write conn r m ok) = true) {mark : Link → Link}
    (hmark : ∀ s', Tells r s' (mark s')) :
    Tells r s
      (match s.send H r m nowMs with
        | (false, s) => (false, s)
        | (true, s) => (true, mark s) : Bool × Link).2 := by
  rcases send_cases H s r m nowMs with h | ⟨conn, ok, _, h⟩
  · rw [h]
    exact Tells.rfl' r s
  · have hwrote := Tells.wrote s conn r (hm conn) ok nowMs
    rw [h]
    cases ok with
    | false => exact hwrote
    | true => exact hwrote.trans (hmark _)

theorem tellConfig_tells (s : Link) (r : RowIx) (nowMs : UInt32) :
    Tells r s (s.tellConfig H r nowMs).2 := by
  unfold tellConfig
  split
  · exact send_mark_tells H s r nowMs (fun _ _ => rfl) fun s' => Tells.mark r s' _
  · exact Tells.rfl' r s

theorem tellHost_tells (s : Link) (r : RowIx) (nowMs : UInt32) :
    Tells r s (s.tellHost H r nowMs).2 := by
  unfold tellHost
  split
  · exact send_mark_tells H s r nowMs (fun _ _ => rfl) fun s' => Tells.mark r s' _
  · exact Tells.rfl' r s

theorem tellQuiet_tells (s : Link) (r : RowIx) (nowMs : UInt32) :
    Tells r s (s.tellQuiet H r nowMs).2 := by
  unfold tellQuiet
  split
  · exact send_mark_tells H s r nowMs (fun _ _ => rfl) fun s' => Tells.mark r s' _
  · exact Tells.rfl' r s

theorem tellSettings_tells (s : Link) (r : RowIx) (nowMs : UInt32) :
    Tells r s (s.tellSettings H r nowMs).2 := by
  unfold tellSettings
  dsimp only
  split
  · exact Tells.rfl' r s
  · split
    · exact Tells.rfl' r s
    · have hconfig := tellConfig_tells H s r nowMs
      rcases hcases : s.tellConfig H r nowMs with ⟨ok, s₁⟩
      rw [hcases] at hconfig
      cases ok with
      | false => exact hconfig
      | true =>
          have hhost := tellHost_tells H s₁ r nowMs
          dsimp only
          rcases hcases' : s₁.tellHost H r nowMs with ⟨ok, s₂⟩
          rw [hcases'] at hhost
          cases ok with
          | false => exact hconfig.trans hhost
          | true => exact (hconfig.trans hhost).trans (tellQuiet_tells H s₂ r nowMs)

theorem seat_readers (s : Link) (conn : ConnIx) (r : RowIx) (nowMs : UInt32) :
    SameReaders s (s.seat conn r nowMs) := by
  intro i
  by_cases hi : i = conn
  · subst hi
    simp [seat]
  · simp [seat, hi]

theorem welcome_readers (s : Link) (conn : ConnIx) (r : RowIx) (h : WlHello) (nowMs : UInt32) :
    SameReaders s (s.welcome H conn r h nowMs) := by
  have hseat := seat_readers s conn r nowMs
  have hsend := send_conns H (s.seat conn r nowMs) r
    (.welcome ((s.seat conn r nowMs).welcomeOf H)) nowMs
  unfold welcome
  dsimp only
  rcases hcases : (s.seat conn r nowMs).send H r
    (.welcome ((s.seat conn r nowMs).welcomeOf H)) nowMs with ⟨ok, s'⟩
  rw [hcases] at hsend
  have hsent := hseat.trans (SameReaders.of_conns hsend)
  cases ok with
  | false => exact hsent.trans (drop_readers _ _ _)
  | true => exact hsent.trans (SameReaders.of_conns (tellSettings_tells H _ r nowMs).conns)

theorem hello_readers (s : Link) (conn : ConnIx) (h : WlHello) (nowMs : UInt32) :
    SameReaders s (s.hello H conn h nowMs) := by
  unfold hello
  dsimp only
  split
  · exact drop_readers _ _ _
  · exact drop_readers _ _ _
  · exact drop_readers _ _ _
  · exact SameReaders.of_conns rfl
  · next r _ _ =>
      split
      · exact welcome_readers H _ conn r h nowMs
      · next old _ =>
          have hcore := mayReplace_core H (s.emit (.rowForId h.id (H.rowForId s.log h.id)))
            conn old r
          rcases hanswer : (s.emit (.rowForId h.id (H.rowForId s.log h.id))).mayReplace H conn old r
            with ⟨ok, s'⟩
          rw [hanswer] at hcore
          have hasked : SameReaders s s' :=
            SameReaders.of_conns (congrArg WallLinkCore.conns hcore)
          cases ok with
          | false => exact hasked.trans (drop_readers _ _ _)
          | true =>
              exact (hasked.trans (drop_readers _ _ _)).trans
                (welcome_readers H _ conn r h nowMs)

theorem message_readers (s : Link) (conn : ConnIx) (m : WlToMaster) (nowMs : UInt32) :
    SameReaders s (s.message H conn m nowMs) := by
  rcases message_cases H s conn m nowMs with ⟨h, _, _, heq⟩ | ⟨why, heq⟩ | ⟨r, _, _, heq⟩
  · rw [heq]
    exact hello_readers H s conn h nowMs
  · rw [heq]
    exact drop_readers s conn why
  · rw [heq]
    apply SameReaders.of_conns
    unfold hear
    dsimp only
    split <;> rfl

/-! ## §2. The loops. -/

omit [Nanopb] in
/-- Popping a message shortens the reader. -/
theorem pop_shorter {maxBody : Nat} {r : WlReader maxBody} (h : r.peek = .message) :
    r.pop.buf.length < r.buf.length := by
  obtain ⟨n, v, hlook⟩ := WlReader.peek_eq_message_iff.mp h
  have hpos := (WlReader.frame maxBody).item_pos hlook
  have hle := (WlReader.frame maxBody).item_le hlook
  rw [(WlReader.pop_buf hlook).2.1, List.length_drop]
  omega

/-- The inner loop ends, on a reader with no message in front. -/
theorem drain_ends (nowMs : UInt32) :
    ∀ (fuel : Nat) (conn : ConnIx) (s : Link), (s.conns conn).reader.buf.length < fuel →
      ∃ s', s.drain H nowMs fuel conn = some s' ∧
        ((s'.conns conn).isOpen = true → (s'.conns conn).reader.peek ≠ .message)
  | 0, _, _, h => by omega
  | fuel + 1, conn, s, h => by
      unfold drain
      dsimp only
      split
      · next hmessage =>
          have hshort := pop_shorter hmessage.2
          have hpopped : ((s.setReader conn (s.conns conn).reader.pop).conns conn).reader =
              (s.conns conn).reader.pop := by simp [setReader]
          split
          · next m _ =>
              apply drain_ends nowMs fuel conn
              rw [message_readers H _ conn m nowMs conn, hpopped]
              omega
          · split
            · refine ⟨_, rfl, ?_⟩
              intro hopen
              rw [drop_closed] at hopen
              cases hopen
            · apply drain_ends nowMs fuel conn
              rw [hpopped]
              omega
      · next hmessage =>
          refine ⟨s, rfl, ?_⟩
          intro hopen hpeek
          exact hmessage ⟨hopen, hpeek⟩

/-- A connection whose reader waits for more, if it is open. -/
def Waits (s : Link) (conn : ConnIx) : Prop :=
  (s.conns conn).isOpen = true → (s.conns conn).reader.peek = .needMore

/-- A turn of the outer loop: it ends, or goes on with a reader that waits and
what is left of the data. -/
theorem bytesLoop_turn (nowMs : UInt32) (fuel : Nat) (conn : ConnIx) (data : Bytes) (s : Link) :
    (∃ s', s.bytesLoop H nowMs (fuel + 1) conn data = some s') ∨
      ∃ m : Link, m.Waits conn ∧ (s.conns conn).isOpen = true ∧
        s.bytesLoop H nowMs (fuel + 1) conn data =
          m.bytesLoop H nowMs fuel conn (data.drop ((s.conns conn).reader.feed data).2) ∧
        data.drop ((s.conns conn).reader.feed data).2 ≠ [] := by
  by_cases hopen : (s.conns conn).isOpen = true
  · have hfed : ((s.setReader conn ((s.conns conn).reader.feed data).1).conns conn).reader =
        ((s.conns conn).reader.feed data).1 := by simp [setReader]
    obtain ⟨m, hdrain, hpeek⟩ := drain_ends H nowMs
      (((s.conns conn).reader.feed data).1.buf.length + 1) conn
      (s.setReader conn ((s.conns conn).reader.feed data).1) (by rw [hfed]; omega)
    by_cases hmopen : (m.conns conn).isOpen = true
    · by_cases hbad : (m.conns conn).reader.peek = .bad
      · exact .inl ⟨_, by simp [bytesLoop, hopen, hdrain, hmopen, hbad]; rfl⟩
      · by_cases hrest : data.drop ((s.conns conn).reader.feed data).2 = []
        · exact .inl ⟨m, by simp [bytesLoop, hopen, hdrain, hmopen, hbad, hrest]⟩
        · refine .inr ⟨m, ?_, hopen, by simp [bytesLoop, hopen, hdrain, hmopen, hbad, hrest], hrest⟩
          intro _
          cases hp : (m.conns conn).reader.peek with
          | needMore => rfl
          | message => exact absurd hp (hpeek hmopen)
          | bad => exact absurd hp hbad
    · exact .inl ⟨m, by simp [bytesLoop, hopen, hdrain, hmopen]⟩
  · exact .inl ⟨s, by simp [bytesLoop, hopen]⟩

theorem bytesLoop_ends (nowMs : UInt32) :
    ∀ (fuel : Nat) (conn : ConnIx) (data : Bytes) (s : Link), s.Waits conn →
      data.length < fuel → ∃ s', s.bytesLoop H nowMs fuel conn data = some s'
  | 0, _, _, _, _, h => by omega
  | fuel + 1, conn, data, s, hwaits, h => by
      rcases bytesLoop_turn H nowMs fuel conn data s with hends | ⟨m, hm, hopen, hgoes, hrest⟩
      · exact hends
      · rw [hgoes]
        have hneed := hwaits hopen
        have hlook : (WlReader.frame Nanopb.toMasterSize).look (s.conns conn).reader.buf = .more := by
          cases hcases : (WlReader.frame Nanopb.toMasterSize).look (s.conns conn).reader.buf with
          | more => rfl
          | bad =>
              rw [WlReader.peek_eq_bad_iff.mpr hcases] at hneed
              cases hneed
          | item n v =>
              rw [WlReader.peek_eq_message_iff.mpr ⟨n, v, hcases⟩] at hneed
              cases hneed
        have hne : data ≠ [] := by
          intro hnil
          rw [hnil, List.drop_nil] at hrest
          exact hrest rfl
        have hless := (WlReader.feed_spec (s.conns conn).reader data).2 hne
          (WlReader.room_of_waiting hlook)
        exact bytesLoop_ends nowMs fuel conn _ m hm (by omega)

/-- **`bytes` ends**, on any connection and any data. -/
theorem bytes_isSome (conn : ConnIx) (data : Bytes) (nowMs : UInt32) (s : Link) :
    (s.bytes H conn data nowMs).isSome = true := by
  rw [Option.isSome_iff_exists]
  unfold bytes
  rcases bytesLoop_turn H nowMs (data.length + 1) conn data s with hends | ⟨m, hm, _, hgoes, _⟩
  · exact hends
  · rw [hgoes]
    refine bytesLoop_ends H nowMs _ conn _ m hm ?_
    rw [List.length_drop]
    omega

theorem apply_isSome (s : Link) (call : Call) : (s.apply H call).isSome = true := by
  cases call with
  | bytes conn data nowMs => exact bytes_isSome H conn data nowMs s
  | _ => rfl

/-- Every sequence of calls is a run. -/
theorem runCalls_isSome (calls : List Call) (s : Link) : (s.runCalls H calls).isSome = true := by
  unfold runCalls
  induction calls generalizing s with
  | nil => rfl
  | cons call calls ih =>
      obtain ⟨s', hs'⟩ := Option.isSome_iff_exists.mp (apply_isSome H s call)
      rw [Machine.run_cons, hs', Option.bind_some]
      exact ih s'

end Link

end SplitFlap
