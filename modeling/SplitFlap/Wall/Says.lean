/-
  SplitFlap.Wall.Says — what each call of the core keeps or adds.

  A call is made of a few primitives: events, writes, a connection that comes
  or goes, a row's marks.  A relation that every primitive keeps, every call
  keeps; what a connection, a tick or a new socket can make of the core is one
  structure each (`Listens`, `Ticks`).

  The first such relation is `Adds A`: the log has grown by events of `A`.
-/
import SplitFlap.Wall.Moves

namespace SplitFlap

namespace Link

open Machine

variable [Nanopb]

/-- Messages the core writes on its own account, not as the link task's order. -/
def WlToRow.own : WlToRow → Bool
  | .update _ | .restart | .release => false
  | _ => true

/-! ## §1. Primitives. -/

/-- What remarks, closings and the core's messages that carry neither a text
nor a job keep. -/
structure Chats (R : Link → Link → Prop) : Prop where
  refl : ∀ s, R s s
  trans : ∀ {a b c}, R a b → R b c → R a c
  aside : ∀ s e, LinkEvent.aside e = true → R s (s.emit e)
  closed : ∀ s conn, R s (s.closed conn)
  flagged : ∀ (s : Link) r quietSent configSent hostSent logTold,
    R s (s.setRow r { s.rows r with
      quietSent := quietSent, configSent := configSent
      hostSent := hostSent, logTold := logTold })
  wrote : ∀ s conn r m ok nowMs, WlToRow.chores m = true → WlToRow.own m = true →
    R s (s.wrote conn r m ok nowMs)

/-- The same for a message of a connection. -/
structure Listens (R : Link → Link → Prop) (conn : ConnIx) (m : WlToMaster) : Prop
    extends Chats R where
  asked : ∀ s id answer, R s (s.emit (.rowForId id answer))
  read : ∀ s reader, R s (s.setReader conn reader)
  seated : ∀ s r nowMs, R s (s.seat conn r nowMs)
  welcomed : ∀ s r h nowMs, m = .hello h → R s (s.welcomed conn r h nowMs)
  heard : ∀ s r nowMs, R s (s.hear conn r m nowMs)

/-- The same for a tick. -/
structure Ticks (R : Link → Link → Prop) : Prop extends Chats R where
  gaveUp : ∀ s r nowMs, R s (s.tickJob r nowMs)
  showed : ∀ s conn r ok nowMs, R s (s.showed conn r ok nowMs)
  handed : ∀ s conn r ok nowMs, R s (s.handed conn r ok nowMs)

/-- The same for a tick that writes a text or a job only where one is due. -/
structure Works (R : Link → Link → Prop) : Prop extends Chats R where
  gaveUp : ∀ s r nowMs, R s (s.tickJob r nowMs)
  showed : ∀ (s : Link) conn r ok nowMs, (s.rows r).conn = some conn →
    (s.rows r).text.due (s.rows r).contact = true → R s (s.showed conn r ok nowMs)
  handed : ∀ (s : Link) conn r ok nowMs, (s.rows r).conn = some conn →
    (s.rows r).job.due (s.rows r).contact = true → R s (s.handed conn r ok nowMs)

variable {R : Link → Link → Prop}

theorem Ticks.works (hR : Ticks R) : Works R where
  toChats := hR.toChats
  gaveUp := hR.gaveUp
  showed s conn r ok nowMs _ _ := hR.showed s conn r ok nowMs
  handed s conn r ok nowMs _ _ := hR.handed s conn r ok nowMs

theorem Chats.foldl {α : Type} (hR : Chats R) {f : Link → α → Link} (hf : ∀ s a, R s (f s a))
    (as : List α) (s : Link) : R s (as.foldl f s) := by
  induction as generalizing s with
  | nil => exact hR.refl s
  | cons a as ih => exact hR.trans (hf s a) (ih (f s a))

/-! ## §2. The calls. -/

theorem Chats.drop (hR : Chats R) (s : Link) (conn : ConnIx) (why : String) :
    R s (s.drop conn why) :=
  hR.trans (hR.trans (hR.aside s _ rfl) (hR.closed _ conn)) (hR.aside _ _ rfl)

variable (H : WallLinkHooks)

theorem Chats.send (hR : Chats R) (s : Link) (r : RowIx) (m : WlToRow) (nowMs : UInt32)
    (hchores : WlToRow.chores m = true) (hown : WlToRow.own m = true) :
    R s (s.send H r m nowMs).2 := by
  rcases send_cases H s r m nowMs with h | ⟨conn, ok, _, h⟩
  · rw [h]
    exact hR.refl s
  · rw [h]
    exact hR.wrote s conn r m ok nowMs hchores hown

/-- A message that is sent and, once taken, marked on the row's flags. -/
theorem Chats.send_flag (hR : Chats R) (s : Link) (r : RowIx) (m : WlToRow) (nowMs : UInt32)
    (hchores : WlToRow.chores m = true) (hown : WlToRow.own m = true) {mark : Link → Link}
    (hmark : ∀ s', R s' (mark s')) :
    R s
      (match s.send H r m nowMs with
        | (false, s) => (false, s)
        | (true, s) => (true, mark s) : Bool × Link).2 := by
  have hsend := hR.send H s r m nowMs hchores hown
  rcases hcases : s.send H r m nowMs with ⟨ok, s'⟩
  rw [hcases] at hsend
  cases ok with
  | false => exact hsend
  | true => exact hR.trans hsend (hmark s')

theorem Chats.tellSettings (hR : Chats R) (s : Link) (r : RowIx) (nowMs : UInt32) :
    R s (s.tellSettings H r nowMs).2 := by
  have hconfig : ∀ s : Link, R s (s.tellConfig H r nowMs).2 := by
    intro s
    unfold tellConfig
    split
    · exact hR.send_flag H s r _ nowMs rfl rfl fun s' => hR.flagged s' r _ true _ _
    · exact hR.refl s
  have hhost : ∀ s : Link, R s (s.tellHost H r nowMs).2 := by
    intro s
    unfold tellHost
    split
    · exact hR.send_flag H s r _ nowMs rfl rfl fun s' => hR.flagged s' r _ _ true _
    · exact hR.refl s
  have hquiet : ∀ s : Link, R s (s.tellQuiet H r nowMs).2 := by
    intro s
    unfold tellQuiet
    split
    · exact hR.send_flag H s r _ nowMs rfl rfl fun s' => hR.flagged s' r true _ _ _
    · exact hR.refl s
  unfold Link.tellSettings
  dsimp only
  split
  · exact hR.refl s
  · split
    · exact hR.refl s
    · have hone := hconfig s
      rcases hcases : s.tellConfig H r nowMs with ⟨ok, s₁⟩
      rw [hcases] at hone
      cases ok with
      | false => exact hone
      | true =>
          have htwo := hhost s₁
          dsimp only
          rcases hcases' : s₁.tellHost H r nowMs with ⟨ok, s₂⟩
          rw [hcases'] at htwo
          cases ok with
          | false => exact hR.trans hone htwo
          | true => exact hR.trans (hR.trans hone htwo) (hquiet s₂)

theorem Listens.hello {conn : ConnIx} {h : WlHello} (hR : Listens R conn (.hello h)) (s : Link)
    (nowMs : UInt32) : R s (s.hello H conn h nowMs) := by
  have hwelcome : ∀ (s : Link) (r : RowIx), R s (s.welcome H conn r h nowMs) := by
    intro s r
    have hsend := hR.send H (s.seat conn r nowMs) r
      (.welcome ((s.seat conn r nowMs).welcomeOf H)) nowMs rfl rfl
    unfold welcome
    dsimp only
    rcases hcases : (s.seat conn r nowMs).send H r (.welcome ((s.seat conn r nowMs).welcomeOf H))
      nowMs with ⟨ok, s'⟩
    rw [hcases] at hsend
    have hplaced := hR.trans (hR.seated s r nowMs) hsend
    cases ok with
    | false => exact hR.trans hplaced (hR.drop _ _ _)
    | true =>
        exact hR.trans (hR.trans hplaced (hR.welcomed s' r h nowMs rfl))
          (hR.tellSettings H _ r nowMs)
  have hquestion := hR.asked s h.id (H.rowForId s.log h.id)
  unfold Link.hello
  dsimp only
  split
  · exact hR.trans hquestion (hR.drop _ _ _)
  · exact hR.trans hquestion (hR.drop _ _ _)
  · exact hR.trans hquestion (hR.drop _ _ _)
  · exact hquestion
  · next r _ _ =>
      split
      · exact hR.trans hquestion (hwelcome _ r)
      · next old _ =>
          have hmay : ∀ s : Link, R s (s.mayReplace H conn old r).2 := by
            intro s
            have hpaired := hR.aside s
              (.fromPairedAddress conn r (H.fromPairedAddress s.log conn r)) rfl
            unfold mayReplace
            dsimp only
            split
            · exact hpaired
            · exact hR.trans hpaired (hR.aside _ _ rfl)
          have hboth := hR.trans hquestion
            (hmay (s.emit (.rowForId h.id (H.rowForId s.log h.id))))
          rcases hcases : (s.emit (.rowForId h.id (H.rowForId s.log h.id))).mayReplace H conn old r
            with ⟨ok, s'⟩
          rw [hcases] at hboth
          cases ok with
          | false => exact hR.trans hboth (hR.drop _ _ _)
          | true => exact hR.trans (hR.trans hboth (hR.drop _ _ _)) (hwelcome _ r)

/-- A Welcome, in parts: the place is given, and the row is marked welcome unless
the Welcome is not written. -/
theorem Chats.welcome_parts (hR : Chats R) (s : Link) (conn : ConnIx) (r : RowIx) (h : WlHello)
    (nowMs : UInt32) :
    R (s.seat conn r nowMs) (s.welcome H conn r h nowMs) ∨
      ∃ s', R (s.seat conn r nowMs) s' ∧
        R (s'.welcomed conn r h nowMs) (s.welcome H conn r h nowMs) := by
  have hsend := hR.send H (s.seat conn r nowMs) r
    (.welcome ((s.seat conn r nowMs).welcomeOf H)) nowMs rfl rfl
  unfold welcome
  dsimp only
  rcases hcases : (s.seat conn r nowMs).send H r (.welcome ((s.seat conn r nowMs).welcomeOf H))
    nowMs with ⟨ok, s'⟩
  rw [hcases] at hsend
  cases ok with
  | false => exact .inl (hR.trans hsend (hR.drop _ _ _))
  | true => exact .inr ⟨s', hsend, hR.tellSettings H _ r nowMs⟩

/-- A Hello, in parts: it comes to nothing, or the connection is given the place
of the row that the Hello's id names, and that row may be marked welcome. -/
theorem Chats.hello_parts (hR : Chats R) (hasked : ∀ s id answer, R s (s.emit (.rowForId id answer)))
    {s : Link} (hplaced : s.Placed) {conn : ConnIx} (h : WlHello) (nowMs : UInt32)
    (hopen : (s.conns conn).isOpen = true) (hnobody : (s.conns conn).row = none) :
    R s (s.hello H conn h nowMs) ∨
      ∃ s₁ r, R s s₁ ∧ knownRow (H.rowForId s.log h.id) = some r ∧
        (s₁.conns conn).isOpen = true ∧ (s₁.conns conn).row = none ∧ (s₁.rows r).conn = none ∧
        (R (s₁.seat conn r nowMs) (s.hello H conn h nowMs) ∨
          ∃ s₂, R (s₁.seat conn r nowMs) s₂ ∧
            R (s₂.welcomed conn r h nowMs) (s.hello H conn h nowMs)) := by
  have hquestion := hasked s h.id (H.rowForId s.log h.id)
  have hask : Path (Move H) s (s.emit (.rowForId h.id (H.rowForId s.log h.id))) :=
    path_one H (.asked s h.id)
  unfold Link.hello
  dsimp only
  split
  · exact .inl (hR.trans hquestion (hR.drop _ _ _))
  · exact .inl (hR.trans hquestion (hR.drop _ _ _))
  · exact .inl (hR.trans hquestion (hR.drop _ _ _))
  · exact .inl hquestion
  · next r _ hknown =>
      split
      · next hfree =>
          exact .inr ⟨_, r, hquestion, hknown, hopen, hnobody, hfree,
            hR.welcome_parts H _ conn r h nowMs⟩
      · next old hold =>
          have hmay : R (s.emit (.rowForId h.id (H.rowForId s.log h.id)))
              ((s.emit (.rowForId h.id (H.rowForId s.log h.id))).mayReplace H conn old r).2 := by
            have hpaired := hR.aside (s.emit (.rowForId h.id (H.rowForId s.log h.id)))
              (.fromPairedAddress conn r (H.fromPairedAddress
                (s.emit (.rowForId h.id (H.rowForId s.log h.id))).log conn r)) rfl
            unfold mayReplace
            dsimp only
            split
            · exact hpaired
            · exact hR.trans hpaired (hR.aside _ _ rfl)
          have hpath := mayReplace_path H (s.emit (.rowForId h.id (H.rowForId s.log h.id))) conn old r
          have hcore := mayReplace_core H (s.emit (.rowForId h.id (H.rowForId s.log h.id))) conn old r
          rcases hanswer : (s.emit (.rowForId h.id (H.rowForId s.log h.id))).mayReplace H conn old r
            with ⟨ok, s'⟩
          rw [hanswer] at hmay hpath hcore
          have hboth := hR.trans hquestion hmay
          cases ok with
          | false => exact .inl (hR.trans hboth (hR.drop _ _ _))
          | true =>
              have hrows : s'.rows = s.rows := congrArg WallLinkCore.rows hcore
              have hconns : s'.conns = s.conns := congrArg WallLinkCore.conns hcore
              obtain ⟨hopen', hnobody', hfree'⟩ := dropped_free
                (path_placed H (hask.trans hpath) hplaced)
                (by rw [hconns]; exact hopen) (by rw [hconns]; exact hnobody)
                (by rw [hrows]; exact hold) "replaced by a newer connection"
              exact .inr ⟨_, r, hR.trans hboth (hR.drop s' old _), hknown, hopen', hnobody', hfree',
                hR.welcome_parts H _ conn r h nowMs⟩

theorem Listens.message {conn : ConnIx} {m : WlToMaster} (hR : Listens R conn m) (s : Link)
    (nowMs : UInt32) : R s (s.message H conn m nowMs) := by
  rcases message_cases H s conn m nowMs with ⟨h, rfl, _, heq⟩ | ⟨why, heq⟩ | ⟨r, _, _, heq⟩
  · rw [heq]
    exact hR.hello H s nowMs
  · rw [heq]
    exact hR.drop s conn why
  · rw [heq]
    exact hR.heard s r nowMs

theorem drain_keeps (hR : ∀ conn m, Listens R conn m) (nowMs : UInt32) :
    ∀ (fuel : Nat) (conn : ConnIx) {s s' : Link}, s.drain H nowMs fuel conn = some s' → R s s'
  | 0, _, _, _, h => by cases h
  | fuel + 1, conn, s, s', h => by
      have hpong := hR conn .pong
      unfold drain at h
      dsimp only at h
      split at h
      · have hread := hpong.read s (s.conns conn).reader.pop
        split at h
        · next m _ =>
            exact hpong.trans (hpong.trans hread ((hR conn m).message H _ nowMs))
              (drain_keeps hR nowMs fuel conn h)
        · split at h
          · injection h with h
            rw [← h]
            exact hpong.trans hread (hpong.drop _ _ _)
          · exact hpong.trans hread (drain_keeps hR nowMs fuel conn h)
      · injection h with h
        rw [h]
        exact hpong.refl s'

theorem bytesLoop_keeps (hR : ∀ conn m, Listens R conn m) (nowMs : UInt32) :
    ∀ (fuel : Nat) (conn : ConnIx) (data : Bytes) {s s' : Link},
      s.bytesLoop H nowMs fuel conn data = some s' → R s s'
  | 0, _, _, _, _, h => by cases h
  | fuel + 1, conn, data, s, s', h => by
      have hpong := hR conn .pong
      unfold bytesLoop at h
      dsimp only at h
      split at h
      · have hfed := hpong.read s ((s.conns conn).reader.feed data).1
        rw [Option.bind_eq_some_iff] at h
        obtain ⟨m, hdrain, hrest⟩ := h
        have hm := hpong.trans hfed (drain_keeps H hR nowMs _ conn hdrain)
        split at hrest
        · split at hrest
          · injection hrest with hrest
            rw [← hrest]
            exact hpong.trans hm (hpong.drop _ _ _)
          · split at hrest
            · injection hrest with hrest
              rw [← hrest]
              exact hm
            · exact hpong.trans hm (bytesLoop_keeps hR nowMs fuel conn _ hrest)
        · injection hrest with hrest
          rw [← hrest]
          exact hm
      · injection h with h
        rw [h]
        exact hpong.refl s'

theorem Works.tickLog (hR : Works R) (s : Link) (r : RowIx) (nowMs : UInt32) :
    R s (s.tickLog H r nowMs) := by
  unfold Link.tickLog
  dsimp only
  split
  · have hsend := hR.send H s r (.logCtl (s.rows r).logWanted) nowMs rfl rfl
    rcases hcases : s.send H r (.logCtl (s.rows r).logWanted) nowMs with ⟨ok, s'⟩
    rw [hcases] at hsend
    cases ok with
    | false => exact hsend
    | true => exact hR.trans hsend (hR.flagged s' r _ _ _ _)
  · exact hR.refl s

theorem Works.tickWork (hR : Works R) (s : Link) (r : RowIx) (nowMs : UInt32) :
    R s (s.tickWork H r nowMs) := by
  unfold Link.tickWork
  dsimp only
  split
  · next hdue =>
    rcases send_cases H s r (.show (showOf (s.rows r).text)) nowMs with h | ⟨conn, ok, hconn, h⟩
    · rw [h]
      exact hR.refl s
    · have hshowed := hR.showed s conn r ok nowMs hconn hdue
      rw [h]
      cases ok with
      | false => exact hshowed
      | true =>
          dsimp only
          rw [wrote_text]
          exact hshowed
  · split
    · next hdue =>
      rcases send_cases H s r (.op (s.rows r).job.op) nowMs with h | ⟨conn, ok, hconn, h⟩
      · rw [h]
        exact hR.refl s
      · have hhanded := hR.handed s conn r ok nowMs hconn hdue
        rw [h]
        cases ok with
        | false => exact hhanded
        | true =>
            dsimp only
            rw [wrote_job]
            exact hhanded
    · split
      · exact hR.send H s r .ping nowMs rfl rfl
      · exact hR.refl s

theorem Works.tick (hR : Works R) (nowMs : UInt32) (s : Link) : R s (s.tick H nowMs) := by
  have hconn : ∀ (s : Link) i, R s (s.tickConn nowMs i) := by
    intro s i
    unfold tickConn
    dsimp only
    split
    · exact hR.drop _ _ _
    · exact hR.refl s
  have hrow : ∀ (s : Link) r, R s (s.tickRow H nowMs r) := by
    intro s r
    have hgone := hR.gaveUp s r nowMs
    unfold tickRow
    dsimp only
    split
    · exact hgone
    · split
      · exact hR.trans hgone (hR.drop _ _ _)
      · have htold := hR.trans hgone (hR.tellSettings H (s.tickJob r nowMs) r nowMs)
        rcases hcases : (s.tickJob r nowMs).tellSettings H r nowMs with ⟨ok, s'⟩
        rw [hcases] at htold
        cases ok with
        | false => exact htold
        | true => exact hR.trans (hR.trans htold (hR.tickLog H s' r nowMs)) (hR.tickWork H _ r nowMs)
  exact hR.trans (hR.foldl hconn _ s) (hR.foldl hrow _ _)

theorem Ticks.tick (hR : Ticks R) (nowMs : UInt32) (s : Link) : R s (s.tick H nowMs) :=
  hR.works.tick H nowMs s

theorem Chats.accept (hR : Chats R) (hoccupied : ∀ s conn nowMs, R s (s.occupy conn nowMs))
    (nowMs : UInt32) (s : Link) : R s (s.accept nowMs).2 := by
  unfold Link.accept
  split
  · exact hoccupied s _ nowMs
  · split
    · exact hR.refl s
    · exact hR.trans (hR.drop _ _ _) (hoccupied _ _ nowMs)

/-- What the link task tells the core: what rows are to show and how they are
to behave, its orders, and a job. -/
def Call.tellsCore : Call → Bool
  | .setText .. | .setQuiet .. | .setConfig .. | .setHost .. | .setLogWanted .. | .send ..
  | .startJob .. => true
  | _ => false

/-- **What every primitive keeps, every call keeps** that tells the core
nothing, and is no reset. -/
theorem apply_keeps (hR : ∀ conn m, Listens R conn m) (hticks : Ticks R)
    (hoccupied : ∀ s conn nowMs, R s (s.occupy conn nowMs)) {c : Call}
    (htells : c.tellsCore = false) (hreset : c ≠ .reset) {s s' : Link}
    (h : s.apply H c = some s') : R s s' := by
  cases c with
  | bytes conn data nowMs => exact bytesLoop_keeps H hR nowMs _ conn data h
  | accept nowMs => injection h with h; rw [← h]; exact hticks.accept hoccupied nowMs s
  | closed conn => injection h with h; rw [← h]; exact hticks.closed s conn
  | tick nowMs => injection h with h; rw [← h]; exact hticks.tick H nowMs s
  | reset => exact absurd rfl hreset
  | _ => cases htells

/-! ## §3. What is added to a log. -/

/-- The log has grown by events of `A`. -/
def Adds (A : LinkEvent → Prop) (s s' : Link) : Prop :=
  ∃ said, s'.log = s.log ++ said ∧ ∀ e ∈ said, A e

variable {A : LinkEvent → Prop} {s s' s'' : Link}

theorem Adds.of_log (h : s'.log = s.log) : Adds A s s' :=
  ⟨[], by rw [h, List.append_nil], fun _ he => (nomatch he)⟩

theorem Adds.one {e : LinkEvent} (h : s'.log = s.log ++ [e]) (he : A e) : Adds A s s' := by
  refine ⟨[e], h, ?_⟩
  intro e' he'
  rw [List.mem_singleton.mp he']
  exact he

theorem Adds.trans (h : Adds A s s') (h' : Adds A s' s'') : Adds A s s'' := by
  obtain ⟨said, hlog, hsaid⟩ := h
  obtain ⟨more, hlog', hmore⟩ := h'
  refine ⟨said ++ more, by rw [hlog', hlog, List.append_assoc], ?_⟩
  intro e he
  rcases List.mem_append.mp he with he | he
  · exact hsaid e he
  · exact hmore e he

theorem send_adds (s : Link) (r : RowIx) (m : WlToRow) (nowMs : UInt32)
    (hwrite : ∀ conn ok, A (.write conn r m ok)) : Adds A s (s.send H r m nowMs).2 := by
  rcases send_cases H s r m nowMs with h | ⟨conn, ok, _, h⟩
  · rw [h]
    exact .of_log rfl
  · rw [h]
    exact .one (wrote_log ..) (hwrite conn ok)

/-- The events of a set that holds every remark and every message of the core's
own that carries neither a text nor a job. -/
theorem Chats.adds (haside : ∀ e, LinkEvent.aside e = true → A e)
    (hchore : ∀ conn r m ok, WlToRow.chores m = true → WlToRow.own m = true →
      A (.write conn r m ok)) : Chats (Adds A) where
  refl _ := .of_log rfl
  trans := .trans
  aside _ e he := .one rfl (haside e he)
  closed s conn := .of_log (closed_log s conn)
  flagged _ _ _ _ _ _ := .of_log rfl
  wrote _ conn r m ok _ hchores hown := .one (wrote_log ..) (hchore conn r m ok hchores hown)

theorem Listens.adds (hchats : Chats (Adds A)) (hasked : ∀ id answer, A (.rowForId id answer))
    {conn : ConnIx} {m : WlToMaster} (hadmitted : ∀ r, A (.admitted conn r))
    (hwelcomed : ∀ h r restarted, m = .hello h → A (.rowHello conn r h restarted))
    (hheard : ∀ r, A (.rowMessage conn r m)) : Listens (Adds A) conn m where
  toChats := hchats
  asked _ id answer := .one rfl (hasked id answer)
  read _ _ := .of_log rfl
  seated _ r _ := .one rfl (hadmitted r)
  welcomed _ r h _ hm := .one rfl (hwelcomed h r _ hm)
  heard s r nowMs := by
    unfold hear
    dsimp only
    split
    · exact .one rfl (hheard r)
    · exact .of_log rfl

theorem Ticks.adds (hchats : Chats (Adds A))
    (hwrite : ∀ conn r m ok, WlToRow.own m = true → A (.write conn r m ok))
    (hended : ∀ r opId why, A (.jobEnded r opId why)) : Ticks (Adds A) where
  toChats := hchats
  gaveUp s r nowMs := by
    unfold tickJob
    split
    · exact .of_log rfl
    · exact .one rfl (hended _ _ _)
  showed s conn r ok nowMs := .one (showed_log ..) (hwrite conn r _ ok rfl)
  handed s conn r ok nowMs := .one (handed_log ..) (hwrite conn r _ ok rfl)

/-- Every call but a reset, and but a new job, says what a connection, a tick,
an order or a new socket makes it say. -/
theorem apply_adds (hA : ∀ conn m, Listens (Adds A) conn m) (hticks : Ticks (Adds A))
    (haccepted : ∀ conn, A (.accepted conn)) {c : Call} (hstarts : c.starts = false)
    (hreset : c ≠ .reset)
    (hsent : ∀ r order nowMs, c = .send r order nowMs → ∀ conn ok, A (.write conn r order.toRow ok))
    (h : s.apply H c = some s') : Adds A s s' := by
  cases c with
  | setText r text speed commitAtMs => injection h with h; rw [← h]; exact .of_log rfl
  | startJob r op nowMs => cases hstarts
  | setQuiet on =>
      injection h with h; rw [← h]
      unfold setQuiet
      split <;> exact .of_log rfl
  | setConfig next =>
      injection h with h; rw [← h]
      unfold setConfig
      split <;> exact .of_log rfl
  | setHost r host =>
      injection h with h; rw [← h]
      unfold setHost
      split <;> exact .of_log rfl
  | setLogWanted r wanted => injection h with h; rw [← h]; exact .of_log rfl
  | send r order nowMs =>
      injection h with h; rw [← h]
      exact send_adds H s r _ nowMs fun conn ok => hsent r order nowMs rfl conn ok
  | _ => exact apply_keeps H hA hticks (fun _ conn _ => .one rfl (haccepted conn)) rfl hreset h

end Link

end SplitFlap
