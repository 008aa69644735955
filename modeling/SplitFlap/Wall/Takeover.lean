/-
  SplitFlap.Wall.Takeover — whose Hello takes a row's place.

  `Visit` is everything the bytes of a connection that is nobody can come to:
  nothing, a refusal that leaves every row as it was, or the admission to one
  row.  An admission needs a free place, the row's paired address or the older
  connection's own; and one whose Welcome cannot be written costs the row its
  connection and nothing else.  `bytes_visit` carries that over every prefix
  of arbitrary bytes.
-/
import SplitFlap.Link.Codec
import SplitFlap.Wall.Reading

namespace SplitFlap

namespace Link

/-- What only a Hello brings about. -/
def LinkEvent.ofHello : LinkEvent → Bool
  | .rowForId .. | .fromPairedAddress .. | .samePeer .. | .admitted .. => true
  | _ => false

section Visits

variable [Nanopb]

/-! ## §1. What a visit can come to. -/

/-- May `conn` have row `r`'s place?  It was free, or one of the two questions
about the older connection was answered yes. -/
def MayTake (rows : RowIx → WallLinkRow) (conn : ConnIx) (r : RowIx) (said : List LinkEvent) :
    Prop :=
  (rows r).conn = none ∨
    ∃ old, (rows r).conn = some old ∧
      (.fromPairedAddress conn r true ∈ said ∨ .samePeer old conn true ∈ said)

/-- What a row loses to a connection that was admitted and not welcomed: its
connection, and with it the times and flags of that connection. -/
def unseated (row : WallLinkRow) (nowMs : UInt32) : WallLinkRow :=
  { row with conn := none, contact := (row.contact.onConnected nowMs).onDropped }

/-- The connection was admitted to row `r`, and no other row was touched. -/
structure Admitted (rows : RowIx → WallLinkRow) (conn : ConnIx) (r : RowIx)
    (said : List LinkEvent) (s : Link) : Prop where
  only : ∀ i, .admitted conn i ∈ said ↔ i = r
  named : ∀ id answer, .rowForId id answer ∈ said → knownRow answer = some r
  may : MayTake rows conn r said
  others : ∀ i, i ≠ r → s.rows i = rows i

/-- A visit of a connection that was nobody, from the rows as they were. -/
inductive Visit (rows : RowIx → WallLinkRow) (conn : ConnIx) (nowMs : UInt32) :
    List LinkEvent → Link → Prop where
  | nothing {s : Link} (hrows : s.rows = rows) (hrow : (s.conns conn).row = none) :
      Visit rows conn nowMs [] s
  | refused {said : List LinkEvent} {s : Link} (hrows : s.rows = rows)
      (hclosed : (s.conns conn).isOpen = false) (hnot : ∀ r, .admitted conn r ∉ said) :
      Visit rows conn nowMs said s
  | unwelcomed {said : List LinkEvent} {s : Link} (r : RowIx) (h : Admitted rows conn r said s)
      (hclosed : (s.conns conn).isOpen = false)
      (hnot : ∀ w, .write conn r (.welcome w) true ∉ said)
      (hrow : s.rows r = unseated (rows r) nowMs) : Visit rows conn nowMs said s
  | welcomed {said : List LinkEvent} {s : Link} (r : RowIx) (h : Admitted rows conn r said s)
      (hwelcome : ∃ w, .write conn r (.welcome w) true ∈ said)
      (hrow : (s.conns conn).isOpen = true → (s.conns conn).row = some r) :
      Visit rows conn nowMs said s

/-- An admission stays one through anything no Hello brings about. -/
theorem Admitted.more {rows : RowIx → WallLinkRow} {conn : ConnIx} {r : RowIx}
    {said more : List LinkEvent} {s s' : Link} (h : Admitted rows conn r said s)
    (hmore : ∀ e ∈ more, LinkEvent.ofHello e = false) (hothers : ∀ i, i ≠ r → s'.rows i = s.rows i) :
    Admitted rows conn r (said ++ more) s' := by
  refine ⟨?_, ?_, ?_, fun i hi => (hothers i hi).trans (h.others i hi)⟩
  · intro i
    rw [List.mem_append, ← h.only i]
    constructor
    · rintro (hsaid | hmem)
      · exact hsaid
      · cases hmore _ hmem
    · exact .inl
  · intro id answer hmem
    rcases List.mem_append.mp hmem with hsaid | hmem
    · exact h.named id answer hsaid
    · cases hmore _ hmem
  · rcases h.may with hfree | ⟨old, hold, hanswer⟩
    · exact .inl hfree
    · refine .inr ⟨old, hold, ?_⟩
      rcases hanswer with hpaired | hsame
      · exact .inl (List.mem_append_left more hpaired)
      · exact .inr (List.mem_append_left more hsame)

/-- Who is admitted over an older connection was answered yes. -/
theorem Admitted.unrefused {rows : RowIx → WallLinkRow} {conn old : ConnIx} {r i : RowIx}
    {said : List LinkEvent} {s : Link} (h : Admitted rows conn r said s) {id : CStr} {answer : Int}
    (hid : .rowForId id answer ∈ said) (hanswer : knownRow answer = some i)
    (hold : (rows i).conn = some old) (hpaired : .fromPairedAddress conn i true ∉ said) :
    .samePeer old conn true ∈ said := by
  rw [h.named id answer hid, Option.some.injEq] at hanswer
  subst hanswer
  rcases h.may with hfree | ⟨old', hold', hyes⟩
  · rw [hold] at hfree
    cases hfree
  · rw [hold, Option.some.injEq] at hold'
    subst hold'
    exact hyes.resolve_left hpaired

/-! ## §2. The pieces of `hello`. -/

theorem drop_log (s : Link) (conn : ConnIx) (why : String) :
    (s.drop conn why).log = s.log ++ [.note conn (s.conns conn).row why, .close conn] := by
  show (Link.closed conn _).log ++ [.close conn] = _
  rw [closed_log, emit_log, List.append_assoc]
  rfl

/-- Letting go of nobody leaves every row as it was. -/
theorem drop_rows_nobody {s : Link} {conn : ConnIx} (h : (s.conns conn).row = none)
    (why : String) : (s.drop conn why).rows = s.rows := by
  funext r
  show (Link.closed conn _).rows r = s.rows r
  rw [closed_rows, if_neg]
  · rfl
  · rintro ⟨_, hrow, _⟩
    rw [emit_conns, h] at hrow
    cases hrow

/-- Letting go of row `r`'s connection leaves the other rows as they were. -/
theorem drop_rows_other {s : Link} {conn : ConnIx} {r : RowIx}
    (h : (s.conns conn).isOpen = true → (s.conns conn).row = some r) (why : String) (i : RowIx)
    (hi : i ≠ r) : (s.drop conn why).rows i = s.rows i := by
  show (Link.closed conn _).rows i = s.rows i
  rw [closed_rows, if_neg]
  · rfl
  · rintro ⟨hopen, hrow, _⟩
    have hr := h hopen
    rw [emit_conns, hr, Option.some.injEq] at hrow
    exact hi hrow.symm

theorem drop_rows_self {s : Link} {conn : ConnIx} {r : RowIx} (hopen : (s.conns conn).isOpen = true)
    (hrow : (s.conns conn).row = some r) (hconn : (s.rows r).conn = some conn) (why : String) :
    (s.drop conn why).rows r =
      { s.rows r with conn := none, contact := (s.rows r).contact.onDropped } := by
  show (Link.closed conn _).rows r = _
  rw [closed_rows, if_pos ⟨hopen, hrow, hconn⟩]
  rfl

variable (H : WallLinkHooks)

theorem wrote_rows_other (s : Link) (conn : ConnIx) (r : RowIx) (m : WlToRow) (ok : Bool)
    (nowMs : UInt32) (i : RowIx) (hi : i ≠ r) : (s.wrote conn r m ok nowMs).rows i = s.rows i := by
  unfold wrote
  cases ok <;> simp [hi]

theorem seat_row (s : Link) (conn : ConnIx) (r : RowIx) (nowMs : UInt32) :
    (s.seat conn r nowMs).rows r =
      { s.rows r with
        conn := some conn
        contact := { (s.rows r).contact.onConnected nowMs with helloSeen := true } } := by
  simp [seat]

theorem seat_others (s : Link) (conn : ConnIx) (r : RowIx) (nowMs : UInt32) (i : RowIx)
    (hi : i ≠ r) : (s.seat conn r nowMs).rows i = s.rows i := by
  simp [seat, hi]

/-- An admission ends with the connection let go of. -/
theorem Admitted.letGo {rows : RowIx → WallLinkRow} {conn : ConnIx} {r : RowIx}
    {said : List LinkEvent} {s : Link} (h : Admitted rows conn r said s)
    (hrow : (s.conns conn).isOpen = true → (s.conns conn).row = some r) (why : String) :
    Admitted rows conn r (said ++ [.note conn (s.conns conn).row why, .close conn])
      (s.drop conn why) :=
  h.more (by simp [LinkEvent.ofHello]) (drop_rows_other hrow why)

/-- A Welcome that is not written: the connection is let go of, and the row
has lost the one it had. -/
theorem Admitted.unwelcomed {rows : RowIx → WallLinkRow} {conn : ConnIx} {r : RowIx}
    {said : List LinkEvent} {s : Link} {nowMs : UInt32} (h : Admitted rows conn r said s)
    (hopen : (s.conns conn).isOpen = true) (hrow : (s.conns conn).row = some r)
    (hconn : (s.rows r).conn = some conn) (hnot : ∀ w, .write conn r (.welcome w) true ∉ said)
    (hlost : { s.rows r with conn := none, contact := (s.rows r).contact.onDropped } =
      unseated (rows r) nowMs) (why : String) :
    ∃ more, (s.drop conn why).log = s.log ++ more ∧
      Visit rows conn nowMs (said ++ more) (s.drop conn why) := by
  refine ⟨_, drop_log s conn why, .unwelcomed r (h.letGo (fun _ => hrow) why)
    (drop_closed s conn why) ?_ ?_⟩
  · intro w
    simp [hnot w]
  · rw [drop_rows_self hopen hrow hconn why]
    exact hlost

/-- A Welcome that was written: the row's Hello is told and its settings go
out. -/
theorem Admitted.welcomed {rows : RowIx → WallLinkRow} {conn : ConnIx} {r : RowIx}
    {said : List LinkEvent} {s : Link} (h : Admitted rows conn r said s)
    (hrow : (s.conns conn).row = some r) (hwelcome : ∃ w, .write conn r (.welcome w) true ∈ said)
    (hl : WlHello) (nowMs : UInt32) :
    ∃ more, ((s.welcomed conn r hl nowMs).tellSettings H r nowMs).2.log = s.log ++ more ∧
      Visit rows conn nowMs (said ++ more) ((s.welcomed conn r hl nowMs).tellSettings H r nowMs).2 := by
  have htells := tellSettings_tells H (s.welcomed conn r hl nowMs) r nowMs
  obtain ⟨told, hlog, htold⟩ := htells.log
  obtain ⟨w, hw⟩ := hwelcome
  refine ⟨.rowHello conn r hl (((s.rows r).contact.onHeard nowMs).noteBoot hl.bootId).2 :: told,
    ?_, .welcomed r (h.more ?_ ?_) ⟨w, List.mem_append_left _ hw⟩ ?_⟩
  · rw [hlog]
    show (s.log ++ [_]) ++ told = _
    rw [List.append_assoc]
    rfl
  · intro e he
    rcases List.mem_cons.mp he with rfl | he
    · rfl
    · have hsetting := htold e he
      cases e <;> first | rfl | cases hsetting
  · intro i hi
    rw [htells.rows i hi]
    show (s.setRow r _).rows i = s.rows i
    simp [hi]
  · intro _
    rw [htells.conns]
    exact hrow

/-- A connection that gets a free place: `asked` is what was said before, and
the row is what it was but for a connection it may have lost. -/
theorem welcome_visit {s : Link} (rows : RowIx → WallLinkRow) {conn : ConnIx} {r : RowIx}
    (asked : List LinkEvent) (h : WlHello) (nowMs : UInt32)
    (hopen : (s.conns conn).isOpen = true) (hmay : MayTake rows conn r asked)
    (hnot : ∀ i, .admitted conn i ∉ asked)
    (hnamed : ∀ id answer, .rowForId id answer ∈ asked → knownRow answer = some r)
    (hunwelcomed : ∀ w, .write conn r (.welcome w) true ∉ asked)
    (hothers : ∀ i, i ≠ r → s.rows i = rows i)
    (hrow : unseated (s.rows r) nowMs = unseated (rows r) nowMs) :
    ∃ said, (s.welcome H conn r h nowMs).log = s.log ++ said ∧
      Visit rows conn nowMs (asked ++ said) (s.welcome H conn r h nowMs) := by
  have hseat : Admitted rows conn r (asked ++ [.admitted conn r]) (s.seat conn r nowMs) := by
    refine ⟨?_, ?_, ?_, ?_⟩
    · intro i
      simp [hnot i]
    · intro id answer hmem
      exact hnamed id answer (by simpa using hmem)
    · rcases hmay with hfree | ⟨old, hold, hanswer⟩
      · exact .inl hfree
      · refine .inr ⟨old, hold, ?_⟩
        rcases hanswer with hpaired | hsame
        · exact .inl (List.mem_append_left _ hpaired)
        · exact .inr (List.mem_append_left _ hsame)
    · intro i hi
      rw [seat_others s conn r nowMs i hi]
      exact hothers i hi
  have hseatopen : ((s.seat conn r nowMs).conns conn).isOpen = true := by simp [seat, hopen]
  have hseatrow : ((s.seat conn r nowMs).conns conn).row = some r := by simp [seat]
  have hseatconn : ((s.seat conn r nowMs).rows r).conn = some conn := by rw [seat_row]
  have hseatlog : (s.seat conn r nowMs).log = s.log ++ [.admitted conn r] := rfl
  have hlost : { (s.seat conn r nowMs).rows r with
      conn := none
      contact := ((s.seat conn r nowMs).rows r).contact.onDropped } = unseated (rows r) nowMs := by
    rw [← hrow, seat_row]
    rfl
  have hseatnot : ∀ w, .write conn r (.welcome w) true ∉ asked ++ [.admitted conn r] := by
    intro w
    simp [hunwelcomed w]
  unfold welcome
  dsimp only
  generalize hm : (s.seat conn r nowMs).welcomeOf H = w
  rcases send_cases H (s.seat conn r nowMs) r (.welcome w) nowMs with hs | ⟨c, ok, hc, hs⟩
  · -- the Welcome was not even tried
    obtain ⟨more, hlog, hvisit⟩ := hseat.unwelcomed hseatopen hseatrow hseatconn hseatnot hlost
      "Welcome not written"
    rw [hs]
    refine ⟨.admitted conn r :: more, ?_, by simpa using hvisit⟩
    rw [hlog, hseatlog, List.append_assoc]
    rfl
  · rw [hseatconn, Option.some.injEq] at hc
    subst hc
    have hwrote : Admitted rows conn r
        (asked ++ [.admitted conn r] ++ [.write conn r (.welcome w) ok])
        ((s.seat conn r nowMs).wrote conn r (.welcome w) ok nowMs) :=
      hseat.more (by simp [LinkEvent.ofHello]) (wrote_rows_other _ conn r _ ok nowMs)
    have hwlog := wrote_log (s.seat conn r nowMs) conn r (.welcome w) ok nowMs
    have hwrow : ((((s.seat conn r nowMs).wrote conn r (.welcome w) ok nowMs)).conns conn).row =
        some r := by
      rw [wrote_conns]
      exact hseatrow
    rw [hs]
    cases ok with
    | false =>
        obtain ⟨more, hlog, hvisit⟩ := hwrote.unwelcomed hseatopen hwrow hseatconn
          (by intro w'; simp [hunwelcomed w']) hlost "Welcome not written"
        refine ⟨.admitted conn r :: .write conn r (.welcome w) false :: more, ?_, by
          simpa using hvisit⟩
        dsimp only
        rw [hlog, hwlog, hseatlog]
        simp
    | true =>
        obtain ⟨more, hlog, hvisit⟩ := hwrote.welcomed H hwrow ⟨w, by simp⟩ h nowMs
        refine ⟨.admitted conn r :: .write conn r (.welcome w) true :: more, ?_, by
          simpa using hvisit⟩
        dsimp only
        rw [hlog, hwlog, hseatlog]
        simp

/-- Nobody is let go of: every row stays as it was. -/
theorem Visit.dropped {rows : RowIx → WallLinkRow} {conn : ConnIx} {nowMs : UInt32} {s : Link}
    (asked : List LinkEvent) (hrows : s.rows = rows) (hnobody : (s.conns conn).row = none)
    (hnot : ∀ r, .admitted conn r ∉ asked) (why : String) :
    Visit rows conn nowMs (asked ++ [.note conn (s.conns conn).row why, .close conn])
      (s.drop conn why) := by
  refine .refused ((drop_rows_nobody hnobody why).trans hrows) (drop_closed s conn why) ?_
  intro r
  simp [hnot r]

omit [Nanopb] in
theorem judge_known {protocol : UInt32} {id : CStr} {known : Bool}
    (h : wallLinkJudgeHello protocol id known = .accept) : known = true := by
  unfold wallLinkJudgeHello at h
  split at h
  · cases h
  · split at h
    · cases h
    · split at h
      · assumption
      · cases h

/-- The place of an older connection that must give way. -/
theorem replace_visit {s s' : Link} (hplaced : s.Placed) {conn old : ConnIx} {r : RowIx}
    (asked : List LinkEvent) (h : WlHello) (nowMs : UInt32)
    (hopen : (s.conns conn).isOpen = true) (hnobody : (s.conns conn).row = none)
    (hold : (s.rows r).conn = some old) (hcore : s'.toWallLinkCore = s.toWallLinkCore)
    (hlog : s'.log = s.log ++ asked) (hasked : ∀ i, .admitted conn i ∉ asked)
    (hunwelcomed : ∀ w, .write conn r (.welcome w) true ∉ asked)
    (hnamed : ∀ id answer, .rowForId id answer ∈ asked → knownRow answer = some r)
    (hyes : .fromPairedAddress conn r true ∈ asked ∨ .samePeer old conn true ∈ asked)
    (why : String) :
    ∃ said, ((s'.drop old why).welcome H conn r h nowMs).log = s.log ++ said ∧
      Visit s.rows conn nowMs said ((s'.drop old why).welcome H conn r h nowMs) := by
  have hrows : s'.rows = s.rows := congrArg WallLinkCore.rows hcore
  have hconns : s'.conns = s.conns := congrArg WallLinkCore.conns hcore
  have hplaced' : s'.Placed := by
    refine hplaced.of_same ⟨?_, ?_, ?_, ?_⟩
    · intro i; rw [hrows]
    · intro i; rw [hrows]
    · intro i; rw [hconns]
    · intro i; rw [hconns]
  obtain ⟨holdopen, holdrow⟩ := hplaced'.row_conn r old (by rw [hrows]; exact hold)
  obtain ⟨hopen', hnobody', hfree⟩ := dropped_free hplaced' (by rw [hconns]; exact hopen)
    (by rw [hconns]; exact hnobody) (by rw [hrows]; exact hold) why
  obtain ⟨said, hsaid, hvisit⟩ := welcome_visit H (s := s'.drop old why) s.rows
    (asked ++ [.note old (s'.conns old).row why, .close old]) h nowMs hopen'
    (.inr ⟨old, hold, hyes.imp (List.mem_append_left _) (List.mem_append_left _)⟩)
    (by intro i; simp [hasked i]) (by intro id answer; simpa using hnamed id answer)
    (by intro w; simp [hunwelcomed w])
    (by
      intro i hi
      rw [drop_rows_other (fun _ => holdrow) why i hi, hrows])
    (by
      rw [drop_rows_self holdopen holdrow (by rw [hrows]; exact hold) why, hrows]
      rfl)
  refine ⟨asked ++ [.note old (s'.conns old).row why, .close old] ++ said, ?_, hvisit⟩
  rw [hsaid, drop_log, hlog]
  simp

/-- What is asked about an older connection, and what a yes rests on. -/
theorem mayReplace_asks (s : Link) (conn old : ConnIx) (r : RowIx) :
    ∃ asked, (s.mayReplace H conn old r).2.log = s.log ++ asked ∧
      (∀ i, .admitted conn i ∉ asked) ∧ (∀ id answer, .rowForId id answer ∉ asked) ∧
      (∀ w, .write conn r (.welcome w) true ∉ asked) ∧
      ((s.mayReplace H conn old r).1 = true →
        .fromPairedAddress conn r true ∈ asked ∨ .samePeer old conn true ∈ asked) := by
  unfold mayReplace
  dsimp only
  cases hpaired : H.fromPairedAddress s.log conn r with
  | true => exact ⟨[.fromPairedAddress conn r true], rfl, by simp, by simp, by simp, by simp⟩
  | false =>
      rw [if_neg Bool.false_ne_true]
      refine ⟨[.fromPairedAddress conn r false, .samePeer old conn
        (H.samePeer (s.emit (.fromPairedAddress conn r false)).log old conn)], by simp, by simp,
        by simp, by simp, ?_⟩
      intro hsame
      dsimp only at hsame
      rw [hsame]
      simp

/-- **What one Hello of nobody can come to.** -/
theorem hello_visit {s : Link} (hplaced : s.Placed) {conn : ConnIx} (h : WlHello) (nowMs : UInt32)
    (hopen : (s.conns conn).isOpen = true) (hnobody : (s.conns conn).row = none) :
    ∃ said, (s.hello H conn h nowMs).log = s.log ++ said ∧
      Visit s.rows conn nowMs said (s.hello H conn h nowMs) := by
  unfold hello
  dsimp only
  generalize hanswer : H.rowForId s.log h.id = answer
  have hdrop : ∀ why : String, ∃ said,
      ((s.emit (.rowForId h.id answer)).drop conn why).log = s.log ++ said ∧
        Visit s.rows conn nowMs said ((s.emit (.rowForId h.id answer)).drop conn why) := by
    intro why
    refine ⟨[.rowForId h.id answer] ++ [.note conn (s.conns conn).row why, .close conn], ?_, ?_⟩
    · rw [drop_log]
      simp
    · exact Visit.dropped (s := s.emit (.rowForId h.id answer)) [_] rfl hnobody (by simp) why
  split
  · exact hdrop _
  · exact hdrop _
  · exact hdrop _
  · next hjudge hrow =>
      rw [hrow] at hjudge
      cases judge_known hjudge
  · next r _ hr =>
      split
      · next hfree =>
          obtain ⟨said, hsaid, hvisit⟩ := welcome_visit H
            (s := s.emit (.rowForId h.id answer)) s.rows [.rowForId h.id answer] h nowMs
            hopen (.inl hfree) (by simp) (by simp [hr]) (by simp) (fun _ _ => rfl) rfl
          refine ⟨_, ?_, hvisit⟩
          rw [hsaid, emit_log, List.append_assoc]
      · next old hold =>
          have hcore := mayReplace_core H (s.emit (.rowForId h.id answer)) conn old r
          obtain ⟨asked, hlog, hnot, hquiet, hunwelcomed, hyes⟩ :=
            mayReplace_asks H (s.emit (.rowForId h.id answer)) conn old r
          rcases hmay : (s.emit (.rowForId h.id answer)).mayReplace H conn old r with ⟨ok, s'⟩
          rw [hmay] at hcore hlog hyes
          rw [emit_log, List.append_assoc] at hlog
          have hrows : s'.rows = s.rows := congrArg WallLinkCore.rows hcore
          have hconns : s'.conns = s.conns := congrArg WallLinkCore.conns hcore
          cases ok with
          | false =>
              refine ⟨_, ?_, Visit.dropped (.rowForId h.id answer :: asked) hrows
                (by rw [hconns]; exact hnobody) (by simpa using hnot) _⟩
              dsimp only
              rw [drop_log, hlog, List.append_assoc]
              rfl
          | true =>
              exact replace_visit H hplaced (.rowForId h.id answer :: asked) h nowMs
                hopen hnobody hold hcore hlog (by simpa using hnot) (by simpa using hunwelcomed)
                (by simp [hquiet, hr]) (by simpa using hyes rfl) _

/-! ## §3. The loops of `bytes`. -/

/-- Where the visit that began in `s₀` has come to. -/
def Visiting (s₀ : Link) (conn : ConnIx) (nowMs : UInt32) (s : Link) : Prop :=
  s.Placed ∧ ∃ said, s.log = s₀.log ++ said ∧ Visit s₀.rows conn nowMs said s

theorem Visiting.read {s₀ s : Link} {conn : ConnIx} {nowMs : UInt32}
    (h : Visiting s₀ conn nowMs s) (reader : WlReader Nanopb.toMasterSize) :
    Visiting s₀ conn nowMs (s.setReader conn reader) := by
  obtain ⟨hplaced, said, hlog, hvisit⟩ := h
  refine ⟨hplaced.read conn reader, said, hlog, ?_⟩
  cases hvisit with
  | nothing hrows hrow => exact .nothing hrows (by simpa [setReader] using hrow)
  | refused hrows hclosed hnot => exact .refused hrows (by simpa [setReader] using hclosed) hnot
  | unwelcomed r hadm hclosed hnot hrow =>
      exact .unwelcomed r ⟨hadm.only, hadm.named, hadm.may, hadm.others⟩
        (by simpa [setReader] using hclosed) hnot hrow
  | welcomed r hadm hwelcome hrow =>
      exact .welcomed r ⟨hadm.only, hadm.named, hadm.may, hadm.others⟩ hwelcome
        (by simpa [setReader] using hrow)

theorem Visiting.drop {s₀ s : Link} {conn : ConnIx} {nowMs : UInt32}
    (h : Visiting s₀ conn nowMs s) (hopen : (s.conns conn).isOpen = true) (why : String) :
    Visiting s₀ conn nowMs (s.drop conn why) := by
  obtain ⟨hplaced, said, hlog, hvisit⟩ := h
  refine ⟨hplaced.dropped conn why,
    said ++ [.note conn (s.conns conn).row why, .close conn], ?_, ?_⟩
  · rw [drop_log, hlog, List.append_assoc]
  · cases hvisit with
    | nothing hrows hrow => exact Visit.dropped [] hrows hrow (by simp) why
    | refused hrows hclosed hnot =>
        rw [hclosed] at hopen
        cases hopen
    | unwelcomed r hadm hclosed hnot hrow =>
        rw [hclosed] at hopen
        cases hopen
    | welcomed r hadm hwelcome hrow =>
        obtain ⟨w, hw⟩ := hwelcome
        refine .welcomed r (hadm.letGo hrow why) ⟨w, List.mem_append_left _ hw⟩ ?_
        intro hopen'
        rw [drop_closed] at hopen'
        cases hopen'

theorem hear_others (s : Link) (conn : ConnIx) (r : RowIx) (m : WlToMaster) (nowMs : UInt32)
    (i : RowIx) (hi : i ≠ r) : (s.hear conn r m nowMs).rows i = s.rows i := by
  unfold hear
  dsimp only
  split <;> simp [hi]

theorem hear_conns (s : Link) (conn : ConnIx) (r : RowIx) (m : WlToMaster) (nowMs : UInt32) :
    (s.hear conn r m nowMs).conns = s.conns := by
  unfold hear
  dsimp only
  split <;> rfl

/-- A later message of the row that was just welcomed. -/
theorem Visit.heard {rows : RowIx → WallLinkRow} {conn : ConnIx} {r : RowIx} (nowMs : UInt32)
    {said : List LinkEvent} {s : Link} (h : Admitted rows conn r said s)
    (hwelcome : ∃ w, .write conn r (.welcome w) true ∈ said)
    (hrow : (s.conns conn).isOpen = true → (s.conns conn).row = some r) (m : WlToMaster) :
    ∃ more, (s.hear conn r m nowMs).log = s.log ++ more ∧
      Visit rows conn nowMs (said ++ more) (s.hear conn r m nowMs) := by
  obtain ⟨w, hw⟩ := hwelcome
  have hstill : ((s.hear conn r m nowMs).conns conn).isOpen = true →
      ((s.hear conn r m nowMs).conns conn).row = some r := by
    rw [hear_conns]
    exact hrow
  by_cases htold : (rowHears (s.rows r) m nowMs).2 = true
  · refine ⟨[.rowMessage conn r m], by simp [hear, htold], .welcomed r
      (h.more (by simp [LinkEvent.ofHello]) (hear_others s conn r m nowMs))
      ⟨w, List.mem_append_left _ hw⟩ hstill⟩
  · refine ⟨[], by simp [hear, htold], .welcomed r
      (h.more (by simp) (hear_others s conn r m nowMs)) ⟨w, List.mem_append_left _ hw⟩ hstill⟩

/-- One message: of nobody, or of the row that was just welcomed. -/
theorem Visiting.message {s₀ s : Link} {conn : ConnIx} {nowMs : UInt32}
    (h : Visiting s₀ conn nowMs s) (hopen : (s.conns conn).isOpen = true) (m : WlToMaster) :
    Visiting s₀ conn nowMs (s.message H conn m nowMs) := by
  have hplaced' := path_placed H (message_path H h.1 conn m nowMs hopen) h.1
  rcases message_cases H s conn m nowMs with ⟨hl, _, hnobody, heq⟩ | ⟨why, heq⟩ | ⟨r, hrow, _, heq⟩
  · obtain ⟨hplaced, said, hlog, hvisit⟩ := h
    rw [heq] at hplaced' ⊢
    cases hvisit with
    | nothing hrows hrow =>
        obtain ⟨more, hmore, hnext⟩ := hello_visit H hplaced hl nowMs hopen hrow
        rw [List.append_nil] at hlog
        rw [hlog] at hmore
        rw [hrows] at hnext
        exact ⟨hplaced', more, hmore, hnext⟩
    | refused hrows hclosed hnot => rw [hclosed] at hopen; cases hopen
    | unwelcomed r hadm hclosed hnot hrow => rw [hclosed] at hopen; cases hopen
    | welcomed r hadm hwelcome hrow => rw [hrow hopen] at hnobody; cases hnobody
  · rw [heq]
    exact h.drop hopen why
  · obtain ⟨hplaced, said, hlog, hvisit⟩ := h
    rw [heq] at hplaced' ⊢
    cases hvisit with
    | nothing hrows hnobody => rw [hnobody] at hrow; cases hrow
    | refused hrows hclosed hnot => rw [hclosed] at hopen; cases hopen
    | unwelcomed i hadm hclosed hnot _ => rw [hclosed] at hopen; cases hopen
    | welcomed i hadm hwelcome hseated =>
        have hir := hseated hopen
        rw [hrow, Option.some.injEq] at hir
        subst hir
        obtain ⟨more, hmore, hnext⟩ := Visit.heard nowMs hadm hwelcome hseated m
        refine ⟨hplaced', said ++ more, ?_, hnext⟩
        rw [hmore, hlog, List.append_assoc]

theorem drain_visit {s₀ : Link} {conn : ConnIx} (nowMs : UInt32) :
    ∀ (fuel : Nat) {s s' : Link}, Visiting s₀ conn nowMs s →
      s.drain H nowMs fuel conn = some s' → Visiting s₀ conn nowMs s'
  | 0, _, _, _, h => by cases h
  | fuel + 1, s, s', hvisit, h => by
      unfold drain at h
      dsimp only at h
      split at h
      · next hmessage =>
          have hread := hvisit.read (s.conns conn).reader.pop
          have hopen : ((s.setReader conn (s.conns conn).reader.pop).conns conn).isOpen = true := by
            simp [setReader, hmessage.1]
          split at h
          · next m _ => exact drain_visit nowMs fuel (hread.message H hopen m) h
          · split at h
            · injection h with h
              rw [← h]
              exact hread.drop hopen _
            · exact drain_visit nowMs fuel hread h
      · injection h with h
        rw [← h]
        exact hvisit

theorem bytesLoop_visit {s₀ : Link} {conn : ConnIx} (nowMs : UInt32) :
    ∀ (fuel : Nat) (data : Bytes) {s s' : Link}, Visiting s₀ conn nowMs s →
      s.bytesLoop H nowMs fuel conn data = some s' → Visiting s₀ conn nowMs s'
  | 0, _, _, _, _, h => by cases h
  | fuel + 1, data, s, s', hvisit, h => by
      unfold bytesLoop at h
      dsimp only at h
      split at h
      · have hfed := hvisit.read ((s.conns conn).reader.feed data).1
        rw [Option.bind_eq_some_iff] at h
        obtain ⟨m, hdrain, hrest⟩ := h
        have hm := drain_visit H nowMs _ hfed hdrain
        split at hrest
        · next hopen =>
            split at hrest
            · injection hrest with hrest
              rw [← hrest]
              exact hm.drop hopen _
            · split at hrest
              · injection hrest with hrest
                rw [← hrest]
                exact hm
              · exact bytesLoop_visit nowMs fuel _ hm hrest
        · injection hrest with hrest
          rw [← hrest]
          exact hm
      · injection h with h
        rw [← h]
        exact hvisit

/-- **Whatever nobody sends, it comes to a visit.** -/
theorem bytes_visit {s s' : Link} (hplaced : s.Placed) {conn : ConnIx} {data : Bytes}
    {nowMs : UInt32} (hnobody : (s.conns conn).row = none)
    (h : s.bytes H conn data nowMs = some s') :
    ∃ said, s'.log = s.log ++ said ∧ Visit s.rows conn nowMs said s' :=
  (bytesLoop_visit H nowMs _ data
    ⟨hplaced, [], (List.append_nil _).symm, .nothing rfl hnobody⟩ h).2

/-! ## §4. A row's place. -/

/-- The slot that makes way is nobody's. -/
theorem oldestNobody_nobody {nowMs : UInt32} {s : Link} {slot : ConnIx}
    (h : s.oldestNobody nowMs = some slot) : (s.conns slot).row = none := by
  unfold oldestNobody at h
  refine List.foldlRecOn (motive := fun best => ∀ j, best = some j → (s.conns j).row = none)
    _ _ ?_ ?_ slot h
  · intro j hj
    cases hj
  · intro best hbest i _ j hj
    by_cases hi : (s.conns i).row.isSome = true
    · rw [if_pos hi] at hj
      exact hbest j hj
    · have hnone : (s.conns i).row = none := by simpa using hi
      rw [if_neg hi] at hj
      cases best with
      | none =>
          injection hj with hj
          exact hj ▸ hnone
      | some k =>
          dsimp only at hj
          split at hj
          · injection hj with hj
            exact hj ▸ hnone
          · exact hbest j hj

theorem accept_rows (nowMs : UInt32) (s : Link) : (s.accept nowMs).2.rows = s.rows := by
  unfold accept
  split
  · rfl
  · split
    · rfl
    · next slot hslot => exact drop_rows_nobody (oldestNobody_nobody hslot) _

/-- `accept` lets go of no connection that is a row's. -/
theorem accept_conns {s : Link} (hplaced : s.Placed) (nowMs : UInt32) {conn : ConnIx} {r : RowIx}
    (hrow : (s.conns conn).row = some r) : (s.accept nowMs).2.conns conn = s.conns conn := by
  have hoccupy : ∀ (t : Link) (slot : ConnIx), conn ≠ slot →
      (t.occupy slot nowMs).conns conn = t.conns conn := by
    intro t slot hne
    show Function.update t.conns slot _ conn = _
    rw [Function.update_of_ne hne]
  unfold accept
  split
  · next slot hslot =>
      apply hoccupy
      intro hcs
      have hclosed := freeSlot_closed hslot
      rw [← hcs, (hplaced.conn_row conn r hrow).1] at hclosed
      cases hclosed
  · split
    · rfl
    · next slot hslot =>
        have hne : conn ≠ slot := by
          intro hcs
          have hnobody := oldestNobody_nobody hslot
          rw [← hcs, hrow] at hnobody
          cases hnobody
        refine (hoccupy _ slot hne).trans ?_
        show (Link.closed slot _).conns conn = _
        rw [closed_conns, if_neg (fun hc => hne hc.1)]
        rfl

/-- **A row's place is not stolen.**  In every reachable state, whatever bytes
come from a connection that is nobody: without an admission every row stays as
it was; a Hello that names a row with an older connection is refused, and the
newer connection closed, unless it comes from the paired address or from the
older one's own; an admission touches one row, and one without a Welcome
written costs that row the connection and nothing else.  Closing a connection
that is nobody costs no row anything, and `accept` lets go of no row's. -/
theorem place_is_kept (calls : List Call) : ∃ s : Link, ({} : Link).runCalls H calls = some s ∧
    (∀ conn data nowMs s', (s.conns conn).row = none → s.bytes H conn data nowMs = some s' →
      ∃ said, s'.log = s.log ++ said ∧
        ((∀ r, .admitted conn r ∉ said) → s'.rows = s.rows) ∧
        (∀ id answer r old, .rowForId id answer ∈ said → knownRow answer = some r →
          (s.rows r).conn = some old → .fromPairedAddress conn r true ∉ said →
          .samePeer old conn true ∉ said →
          s'.rows = s.rows ∧ (s'.conns conn).isOpen = false) ∧
        (∀ r, .admitted conn r ∈ said →
          MayTake s.rows conn r said ∧ (∀ i, i ≠ r → s'.rows i = s.rows i) ∧
          ((∀ w, .write conn r (.welcome w) true ∉ said) →
            s'.rows r = unseated (s.rows r) nowMs ∧ (s'.conns conn).isOpen = false))) ∧
    (∀ nowMs, (s.accept nowMs).2.rows = s.rows ∧
      ∀ conn r, (s.conns conn).row = some r → (s.accept nowMs).2.conns conn = s.conns conn) ∧
    (∀ conn, (s.conns conn).row = none → (s.closed conn).rows = s.rows) ∧
    (∀ nowMs conn, (s.tickConn nowMs conn).rows = s.rows) := by
  obtain ⟨s, hrun⟩ := Option.isSome_iff_exists.mp (runCalls_isSome H calls {})
  have hplaced : s.Placed :=
    (runCalls_keeps H (P := fun _ => True) (fun _ _ _ _ _ => trivial) (fun _ _ _ _ _ => trivial)
      placed_start trivial hrun).1
  refine ⟨s, hrun, ?_, ?_, ?_, ?_⟩
  · intro conn data nowMs s' hnobody hbytes
    obtain ⟨said, hlog, hvisit⟩ := bytes_visit H hplaced hnobody hbytes
    refine ⟨said, hlog, ?_⟩
    cases hvisit with
    | nothing hrows hrow => exact ⟨fun _ => hrows, by simp, by simp⟩
    | refused hrows hclosed hnot =>
        exact ⟨fun _ => hrows, fun _ _ _ _ _ _ _ _ _ => ⟨hrows, hclosed⟩,
          fun r hr => absurd hr (hnot r)⟩
    | unwelcomed r hadm hclosed hnot hrow =>
        refine ⟨fun h => absurd ((hadm.only r).mpr rfl) (h r), ?_, ?_⟩
        · intro id answer i old hid hanswer hold hpaired hsame
          exact absurd (hadm.unrefused hid hanswer hold hpaired) hsame
        · intro i hi
          rw [(hadm.only i).mp hi]
          exact ⟨hadm.may, hadm.others, fun _ => ⟨hrow, hclosed⟩⟩
    | welcomed r hadm hwelcome hrow =>
        refine ⟨fun h => absurd ((hadm.only r).mpr rfl) (h r), ?_, ?_⟩
        · intro id answer i old hid hanswer hold hpaired hsame
          exact absurd (hadm.unrefused hid hanswer hold hpaired) hsame
        · intro i hi
          rw [(hadm.only i).mp hi]
          obtain ⟨w, hw⟩ := hwelcome
          exact ⟨hadm.may, hadm.others, fun hnot => absurd hw (hnot w)⟩
  · exact fun nowMs => ⟨accept_rows nowMs s, fun conn r hrow => accept_conns hplaced nowMs hrow⟩
  · intro conn hnobody
    funext r
    rw [closed_rows, if_neg]
    rintro ⟨_, hrow, _⟩
    rw [hnobody] at hrow
    cases hrow
  · intro nowMs conn
    unfold tickConn
    dsimp only
    split
    · next hnobody => exact drop_rows_nobody hnobody.2.1 _
    · rfl

end Visits

/-! ## §5. A Hello from the paired address whose Welcome cannot be written. -/

local instance takeoverCodec : Nanopb := Codec.nanopb

/-- The link task of one row whose second connection takes no bytes. -/
def deafHooks : WallLinkHooks :=
  { WallLinkHooks.obliging [[114, 48, 49]] with write := fun _ conn _ => conn = 0 }

/-- The row's Hello, as it stands on the wire. -/
def helloBytes : Bytes := [11, 10, 9, 8, 1, 18, 3, 114, 48, 49, 32, 7]

/-- The row is welcomed on connection 0, and dials again. -/
def redialCalls : List Call := [.accept 0, .bytes 0 helloBytes 1, .accept 2]

def welcomesSecond : LinkEvent → Bool
  | .write 1 0 (.welcome _) true => true
  | _ => false

/-- The second connection is never welcomed, and the row has lost the first. -/
theorem unwelcomed_costs_connection :
    ∃ s s' : Link, ({} : Link).runCalls deafHooks redialCalls = some s ∧
      (s.conns 1).row = none ∧ (s.rows 0).conn = some 0 ∧
      s.bytes deafHooks 1 helloBytes 3 = some s' ∧
      (∀ w, .write 1 0 (.welcome w) true ∉ s'.log) ∧ (s'.rows 0).conn = none ∧
      s'.rows 0 ≠ s.rows 0 := by
  have hfacts : ((({} : Link).runCalls deafHooks redialCalls).bind fun s =>
      (s.bytes deafHooks 1 helloBytes 3).map fun s' =>
        ((s.conns 1).row, (s.rows 0).conn, s'.log.any welcomesSecond, (s'.rows 0).conn)) =
      some (none, some 0, false, none) := by decide +kernel
  rw [Option.bind_eq_some_iff] at hfacts
  obtain ⟨s, hs, hfacts⟩ := hfacts
  rw [Option.map_eq_some_iff] at hfacts
  obtain ⟨s', hs', hfacts⟩ := hfacts
  simp only [Prod.mk.injEq] at hfacts
  obtain ⟨hnobody, hheld, hdeaf, hlost⟩ := hfacts
  refine ⟨s, s', hs, hnobody, hheld, hs', ?_, hlost, ?_⟩
  · intro w hw
    have hany : s'.log.any welcomesSecond = true := List.any_eq_true.mpr ⟨_, hw, rfl⟩
    rw [hdeaf] at hany
    cases hany
  · intro hsame
    rw [hsame, hheld] at hlost
    cases hlost

/-- Over the same run, what the row is left with. -/
theorem place_is_kept_redial :
    ∃ s s' : Link, ({} : Link).runCalls deafHooks redialCalls = some s ∧
      s.bytes deafHooks 1 helloBytes 3 = some s' ∧
      ∃ said, s'.log = s.log ++ said ∧ (.admitted 1 0 ∈ said → MayTake s.rows 1 0 said) := by
  obtain ⟨s, hs, hbytes, _⟩ := place_is_kept deafHooks redialCalls
  have hrow : (({} : Link).runCalls deafHooks redialCalls).map (fun s => (s.conns 1).row) =
      some none := by decide +kernel
  rw [hs, Option.map_some, Option.some.injEq] at hrow
  obtain ⟨s', hs'⟩ := Option.isSome_iff_exists.mp (bytes_isSome deafHooks 1 helloBytes 3 s)
  obtain ⟨said, hlog, _, _, hadm⟩ := hbytes 1 helloBytes 3 s' hrow hs'
  exact ⟨s, s', hs, hs', said, hlog, fun h => (hadm 0 h).1⟩

end Link

end SplitFlap
