/-
  SplitFlap.Wall.JobAgreement — whose answer ends an operator's job.

  An answer of the row names its job by the master's number alone, and the
  numbers start again with the master, while the row keeps the job it holds and
  says its end again on the next connection.  So the end of a job that was
  asked for before a restart ends the one that has its number now
  (`stale_turns`).  It does so only when the row still owes an answer under the
  number of a job that is being handed over: where it owes none, every end is
  the job's own (`job_agreement`).
-/
import SplitFlap.Link.Codec
import SplitFlap.Wall.PairCalls

namespace SplitFlap

open Machine

section JobAgreement

variable [Nanopb]

namespace Pair

open Link

/-! ## §1. Answers that are still owed. -/

/-- The jobs of the Ops on their way under this id. -/
def opsFor (id : UInt32) (down : List (Sent WlToRow)) : List Nat :=
  down.filterMap fun m =>
    match m.message with
    | .op o => if o.opId = id then some m.job else none
    | _ => none

/-- The jobs of the answers on their way under this id. -/
def answersFor (id : UInt32) (up : List (Sent WlToMaster)) : List Nat :=
  up.filterMap fun m =>
    match m.message with
    | .opState state => if state.opId = id then some m.job else none
    | _ => none

/-- The master may still read what this connection says. -/
def live (s : Pair) (k : Nat) : Bool :=
  !(s.socks k).accepted || (List.finRange WALL_LINK_MAX_CONNS).any fun c => s.clients c = some k

/-- The jobs whose answer under this id may still reach the master: of the Ops
the row is still to read, of the job it holds, of the answers on their way. -/
def owed (s : Pair) (id : UInt32) : List Nat :=
  (match s.row.sock with
    | none => []
    | some k => opsFor id (s.socks k).down) ++
  (if s.row.linkOp.active = true ∧ s.row.linkOp.opId = id then [s.rowJob] else []) ++
  (List.range s.dials).flatMap fun k =>
    if (s.socks k).own && s.live k then answersFor id (s.socks k).up else []

/-- The job the core holds for the row. -/
abbrev slot (P : PairedRow) (s : Pair) : WallRowJob := (s.link.rows P.row).job

/-- A pass over the core that may hand the row its job does so only when the row
owes no answer under the job's number; and a job begins only while the numbers
have not come round. -/
def clean (P : PairedRow) (s : Pair) (a : PairTurn) : Bool :=
  (!(a.ticks && decide ((s.slot P).stage = .waiting) && (s.link.rows P.row).conn.isSome) ||
    (s.owed (s.slot P).op.opId).isEmpty) &&
  (!a.begins || decide (s.state.ops.nextId.toNat + 1 < 4294967296))

variable {P : PairedRow} {s : Pair}

theorem live_of {k : Nat} (h : (s.socks k).accepted = false ∨ ∃ c, s.clients c = some k) :
    s.live k = true := by
  unfold live
  rw [Bool.or_eq_true]
  rcases h with hnew | ⟨c, hc⟩
  · rw [hnew]
    exact .inl rfl
  · exact .inr (List.any_eq_true.mpr ⟨c, List.mem_finRange c, decide_eq_true hc⟩)

theorem live_iff {k : Nat} :
    s.live k = true ↔ (s.socks k).accepted = false ∨ ∃ c, s.clients c = some k := by
  refine ⟨?_, live_of⟩
  intro h
  unfold live at h
  rw [Bool.or_eq_true] at h
  rcases h with hnew | hheld
  · exact .inl (by simpa using hnew)
  · obtain ⟨c, _, hc⟩ := List.any_eq_true.mp hheld
    exact .inr ⟨c, of_decide_eq_true hc⟩

/-- The row may still answer for this job under this id. -/
inductive Owes (s : Pair) (id : UInt32) : Nat → Prop
  | unread {k : Nat} {m : Sent WlToRow} {o : WlOp} (hsock : s.row.sock = some k)
      (hin : m ∈ (s.socks k).down) (hop : m.message = .op o) (hid : o.opId = id) :
      Owes s id m.job
  | held (hactive : s.row.linkOp.active = true) (hid : s.row.linkOp.opId = id) :
      Owes s id s.rowJob
  | answered {k : Nat} {m : Sent WlToMaster} {state : WlOpState} (hlt : k < s.dials)
      (hown : (s.socks k).own = true) (hlive : s.live k = true) (hin : m ∈ (s.socks k).up)
      (hstate : m.message = .opState state) (hid : state.opId = id) : Owes s id m.job

theorem Owes.mem {id : UInt32} {j : Nat} (h : s.Owes id j) : j ∈ s.owed id := by
  unfold owed
  cases h with
  | @unread k m o hsock hin hop hid =>
      refine List.mem_append_left _ (List.mem_append_left _ ?_)
      rw [hsock]
      refine List.mem_filterMap.mpr ⟨m, hin, ?_⟩
      rw [hop]
      exact if_pos hid
  | held hactive hid =>
      refine List.mem_append_left _ (List.mem_append_right _ ?_)
      rw [if_pos ⟨hactive, hid⟩]
      exact List.mem_singleton.mpr rfl
  | @answered k m state hlt hown hlive hin hstate hid =>
      refine List.mem_append_right _ (List.mem_flatMap.mpr ⟨k, List.mem_range.mpr hlt, ?_⟩)
      rw [if_pos (by rw [hown, hlive]; rfl)]
      refine List.mem_filterMap.mpr ⟨m, hin, ?_⟩
      rw [hstate]
      exact if_pos hid

/-! ## §2. What holds of the jobs. -/

/-- The number names this job: whatever place of the table has it holds the
job. -/
structure Named (s : Pair) (id : UInt32) (job : Nat) : Prop where
  older : id.toNat < s.state.ops.nextId.toNat
  holds : ∀ i, (s.state.ops.ops i).id = id → s.begunAs i = job

/-- **The master's books are the row's**, up to what is on its way. -/
structure Honest (P : PairedRow) (s : Pair) : Prop where
  counted : s.state.ops.Counted
  begun : ∀ b ∈ s.begun, s.Named b.op.opId b.job
  staged : ∀ j, s.state.staged P.row = some j → s.Named j.op.opId s.stagedJob
  slot : (s.slot P).stage ≠ .none → s.Named (s.slot P).op.opId s.slotJob
  others : ∀ q, q ≠ P.row → (s.link.rows q).job.stage = .none
  answers : (s.slot P).stage = .sent → ∀ j, s.Owes (s.slot P).op.opId j → j = s.slotJob
  done : ∀ p ∈ s.done, p.1 = p.2

theorem Named.same {s' : Pair} {id : UInt32} {job : Nat} (h : s.Named id job)
    (hops : s.state.ops.SameJobs s'.state.ops) (hbegun : s'.begunAs = s.begunAs) :
    s'.Named id job := by
  refine ⟨?_, ?_⟩
  · rw [hops.nextId]
    exact h.older
  · intro i hi
    rw [hops.id] at hi
    rw [hbegun]
    exact h.holds i hi

/-! ### A job is begun. -/

/-- **A new job** takes a number no other has. -/
theorem Named.begins (hcounted : s.state.ops.Counted) (name : String) (row : Int) (unit : UInt8)
    (hroom : s.state.ops.nextId.toNat + 1 < 4294967296)
    (hid : (s.state.wallOpBegin name row unit).1 ≠ 0) :
    (∀ id job, s.Named id job → (s.begunAt (s.state.wallOpBegin name row unit).1
        (s.state.wallOpBegin name row unit).2).Named id job) ∧
      (s.begunAt (s.state.wallOpBegin name row unit).1
        (s.state.wallOpBegin name row unit).2).Named (s.state.wallOpBegin name row unit).1
          (s.asked + 1) := by
  unfold WallState.wallOpBegin at hid ⊢
  rcases WallOps.start_cases s.state.ops name row unit with hno | ⟨place, hyes⟩
  · rw [hno] at hid
    exact absurd rfl hid
  · rw [hyes] at hid ⊢
    dsimp only at hid ⊢
    have hcount := WallOps.count_next hroom
    have hids : ∀ i, (Function.update s.state.ops.ops place
        { id := s.state.ops.nextId, row := row, unit := unit, name := name } i).id =
          if i = place then s.state.ops.nextId else (s.state.ops.ops i).id := by
      intro i
      rw [Function.update_apply]
      split <;> rfl
    have hunused : ∀ i, (s.state.ops.ops i).id ≠ s.state.ops.nextId := by
      intro i heq
      have hless := hcounted i
      rw [heq] at hless
      exact Nat.lt_irrefl _ hless
    have hplace : WallOps.placeOf
        { ops := Function.update s.state.ops.ops place
            { id := s.state.ops.nextId, row := row, unit := unit, name := name }
          nextId := s.state.ops.nextId + 1 } s.state.ops.nextId = some place := by
      refine WallOps.placeOf_unique hid ?_ ?_
      · rw [hids, if_pos rfl]
      · intro i hi
        rw [hids] at hi
        split at hi
        · assumption
        · exact absurd hi (hunused i)
    unfold begunAt
    rw [hplace]
    refine ⟨?_, ?_, ?_⟩
    · intro id job hnamed
      refine ⟨?_, ?_⟩
      · show id.toNat < (s.state.ops.nextId + 1).toNat
        rw [hcount]
        exact Nat.lt_succ_of_lt hnamed.older
      · intro i hi
        rw [hids] at hi
        show Function.update s.begunAs place (s.asked + 1) i = job
        split at hi
        · -- an older number is not the new one
          have hless := hnamed.older
          rw [← hi] at hless
          exact absurd hless (Nat.lt_irrefl _)
        · next hne =>
            rw [Function.update_of_ne hne]
            exact hnamed.holds i hi
    · show s.state.ops.nextId.toNat < (s.state.ops.nextId + 1).toNat
      rw [hcount]
      exact Nat.lt_succ_self _
    · intro i hi
      rw [hids] at hi
      show Function.update s.begunAs place (s.asked + 1) i = s.asked + 1
      split at hi
      · next heq =>
          rw [heq, Function.update_self]
      · exact absurd hi (hunused i)

/-! ## §3. The core is called. -/

/-- A call of the core adds nothing that is owed but the job it hands over. -/
theorem Owes.hooked {job : Nat} {new : List LinkEvent} {s₁ : Pair} (hk : Hooked job new s s₁)
    {id : UInt32} {j : Nat} (h : s₁.Owes id j) : s.Owes id j ∨ j = s.slotJob := by
  cases h with
  | @unread k m o hsock hin hop hid =>
      rw [hk.row] at hsock
      obtain ⟨more, hdown, hmore⟩ := hk.down k
      rw [hdown] at hin
      rcases List.mem_append.mp hin with hold | hnew
      · exact .inl (.unread hsock hold hop hid)
      · -- what is written is the job of the slot
        refine .inr ?_
        rw [(hmore m hnew).1, hop]
        rfl
  | held hactive hid =>
      rw [hk.row] at hactive hid
      rw [hk.rowJob]
      exact .inl (.held hactive hid)
  | @answered k m state hlt hown hlive hin hstate hid =>
      rw [hk.dials] at hlt
      rw [hk.own] at hown
      rw [hk.up] at hin
      refine .inl (.answered hlt hown (live_of ?_) hin hstate hid)
      rcases live_iff.mp hlive with hnew | ⟨c, hc⟩
      · rw [hk.accepted] at hnew
        exact .inl hnew
      · exact .inr ⟨c, hk.clients c k hc⟩

theorem Honest.call (h : Honest P s) {job : Nat} {new : List LinkEvent} {s₁ : Pair}
    (hk : Hooked job new s s₁) {link : Link} {renders slotJob : Nat}
    (hothers : ∀ q, q ≠ P.row → (link.rows q).job.stage = .none)
    (hslot : (link.rows P.row).job.stage ≠ .none →
      s.Named (link.rows P.row).job.op.opId slotJob)
    (hanswers : (link.rows P.row).job.stage = .sent →
      ∀ j, s.Owes (link.rows P.row).job.op.opId j ∨ j = s.slotJob → j = slotJob)
    (hdone : ∀ c q state, LinkEvent.rowMessage c q (.opState state) ∈ new →
      ∀ i, (s.state.ops.ops i).id = state.opId → s.begunAs i = job) :
    Honest P { s₁ with link := link, renders := renders, slotJob := slotJob } := by
  have hnamed : ∀ id job', s.Named id job' →
      ({ s₁ with link := link, renders := renders, slotJob := slotJob } : Pair).Named id job' :=
    fun _ _ hnamed => hnamed.same hk.ops hk.begunAs
  have howes : ∀ id j,
      ({ s₁ with link := link, renders := renders, slotJob := slotJob } : Pair).Owes id j →
        s₁.Owes id j := by
    intro id j howes
    cases howes with
    | unread hsock hin hop hid => exact .unread hsock hin hop hid
    | held hactive hid => exact .held hactive hid
    | answered hlt hown hlive hin hstate hid => exact .answered hlt hown hlive hin hstate hid
  constructor
  · exact hk.ops.counted h.counted
  · intro b hb
    replace hb : b ∈ s₁.begun := hb
    rw [hk.begun] at hb
    exact hnamed _ _ (h.begun b hb)
  · intro j hj
    replace hj : s₁.state.staged P.row = some j := hj
    rw [hk.staged] at hj
    have hstaged := hnamed _ _ (h.staged j hj)
    rw [← hk.stagedJob] at hstaged
    exact hstaged
  · exact fun hstage => hnamed _ _ (hslot hstage)
  · exact hothers
  · exact fun hsent j hj => hanswers hsent j ((howes _ j hj).hooked hk)
  · intro p hp
    rcases hk.done p hp with hold | ⟨c, q, state, i, he, hid, heq⟩
    · exact h.done p hold
    · rw [heq]
      exact hdone c q state he i hid

/-- **A call of the core keeps the books**, when the message it is given, if it
ends the job of the slot, answers it, and when a job is handed over to a row
that owes no answer under its number. -/
theorem Honest.called (h : Honest P s) {loud : Bool} {heard : Option (ConnIx × WlToMaster)}
    {link : Link} {job : Nat} (hcall : CallOf P loud heard s.link link)
    (hjob : ∀ i, KeepsJob (loud = true ∧ (s.link.rows i).conn ≠ none) (s.link.rows i).job
      (link.rows i).job)
    (hanswer : ∀ c state, heard = some (c, .opState state) → (s.link.conns c).row = some P.row →
      (s.slot P).stage = .sent → state.opId = (s.slot P).op.opId → job = s.slotJob)
    (hclean : loud = true → (s.slot P).stage = .waiting → (s.link.rows P.row).conn ≠ none →
      ∀ j, ¬ s.Owes (s.slot P).op.opId j) :
    Honest P (s.called P job link) := by
  obtain ⟨new, hlog, hnew⟩ := hcall.said
  obtain ⟨s₁, hk, heq⟩ := called_hooked P s job hlog
  rw [heq]
  have hslotJob : s₁.slotJob = s.slotJob := hk.slotJob
  refine h.call hk (fun q hq => hcall.others q hq (h.others q hq)) ?_ ?_ ?_
  · intro hstage
    rw [hslotJob]
    cases hstage' : (link.rows P.row).job.stage with
    | none => exact absurd hstage' hstage
    | waiting =>
        have hsame := (hjob P.row).waits hstage'
        rw [hsame] at hstage' ⊢
        refine h.slot ?_
        rw [hstage']
        exact WallJobStage.noConfusion
    | sent =>
        obtain ⟨hop, hsent | ⟨_, hwaits⟩⟩ := (hjob P.row).sends hstage'
        · rw [hop]
          refine h.slot ?_
          rw [hsent]
          exact WallJobStage.noConfusion
        · rw [hop]
          refine h.slot ?_
          rw [hwaits]
          exact WallJobStage.noConfusion
  · intro hsent j hj
    rw [hslotJob]
    rcases hj with howes | hsame
    · obtain ⟨hop, hsent | ⟨hmay, hwaits⟩⟩ := (hjob P.row).sends hsent
      · rw [hop] at howes
        exact h.answers hsent j howes
      · rw [hop] at howes
        exact absurd howes (hclean hmay.1 hwaits hmay.2 j)
    · exact hsame
  · -- the row that was heard is the paired one: no other has a job
    intro c q state he i hid
    obtain ⟨hheard, hrow, hsent, hopId⟩ := (hnew _ he).2.2 c q state rfl
    have hq : q = P.row := by
      by_contra hne
      rw [h.others q hne] at hsent
      cases hsent
    rw [hq] at hrow hsent hopId
    have hnamed := h.slot (by rw [hsent]; exact WallJobStage.noConfusion)
    rw [hanswer c state hheard hrow hsent hopId]
    exact hnamed.holds i (hid.trans hopId)

/-! ## §4. Everything else. -/

/-- What changes no job and owes no more. -/
theorem Honest.kept (h : Honest P s) {s' : Pair} (hlink : s'.link = s.link)
    (hstate : s'.state = s.state) (hbegun : s'.begun = s.begun) (hbegunAs : s'.begunAs = s.begunAs)
    (hstagedJob : s'.stagedJob = s.stagedJob) (hslotJob : s'.slotJob = s.slotJob)
    (hdone : s'.done = s.done) (howes : ∀ id j, s'.Owes id j → s.Owes id j) : Honest P s' := by
  have hnamed : ∀ id job, s.Named id job → s'.Named id job := fun _ _ hnamed =>
    hnamed.same (by rw [hstate]; exact .rfl' _) hbegunAs
  have hslot : s'.slot P = s.slot P := by
    show (s'.link.rows P.row).job = (s.link.rows P.row).job
    rw [hlink]
  constructor
  · rw [hstate]
    exact h.counted
  · intro b hb
    rw [hbegun] at hb
    exact hnamed _ _ (h.begun b hb)
  · intro j hj
    rw [hstate] at hj
    rw [hstagedJob]
    exact hnamed _ _ (h.staged j hj)
  · rw [hslot, hslotJob]
    exact fun hstage => hnamed _ _ (h.slot hstage)
  · rw [hlink]
    exact h.others
  · rw [hslot, hslotJob]
    exact fun hsent j hj => h.answers hsent j (howes _ j hj)
  · rw [hdone]
    exact h.done

/-- What a board says adds the job it says it of. -/
theorem Owes.speaks {k job : Nat} {messages : List WlToMaster} {id : UInt32} {j : Nat}
    (h : (s.speaks k job messages).Owes id j) : s.Owes id j ∨
      j = job ∧ (s.socks k).own = true ∧ ∃ state, .opState state ∈ messages ∧ state.opId = id := by
  have hsocks : ∀ i, (s.speaks k job messages).socks i =
      if i = k then { s.socks k with
        up := (s.socks k).up ++ messages.map fun m => { message := m, job := job } }
      else s.socks i := fun i => setSock_socks ..
  cases h with
  | @unread i m o hsock hin hop hid =>
      rw [hsocks] at hin
      split at hin
      · next hi =>
          rw [← hi] at hin
          exact .inl (.unread hsock hin hop hid)
      · exact .inl (.unread hsock hin hop hid)
  | held hactive hid => exact .inl (.held hactive hid)
  | @answered i m state hlt hown hlive hin hstate hid =>
      have hlive' : s.live i = true := by
        refine live_of ?_
        rcases live_iff.mp hlive with hnew | hheld
        · rw [hsocks] at hnew
          split at hnew
          · next hi => exact .inl (by rw [hi]; exact hnew)
          · exact .inl hnew
        · exact .inr hheld
      rw [hsocks] at hin hown
      split at hin
      · next hi =>
          rw [if_pos hi] at hown
          rcases List.mem_append.mp hin with hold | hnew
          · rw [← hi] at hold hown
            exact .inl (.answered hlt hown hlive' hold hstate hid)
          · obtain ⟨m', hm', heq⟩ := List.mem_map.mp hnew
            rw [← heq] at hstate ⊢
            rw [show m' = .opState state from hstate] at hm'
            exact .inr ⟨rfl, hown, state, hm', hid⟩
      · next hi =>
          rw [if_neg hi] at hown
          exact .inl (.answered hlt hown hlive' hin hstate hid)

/-- A new connection owes nothing. -/
theorem Owes.dials {own : Bool} {row : RowBoard}
    (hrow : s.row.Keeps row ∨ row.sock = some s.dials) (hop : row.linkOp = s.row.linkOp)
    {id : UInt32} {j : Nat}
    (h : ({ s.setSock s.dials { own := own } with
      dials := s.dials + 1, row := row } : Pair).Owes id j) : s.Owes id j := by
  cases h with
  | @unread i m o hsock hin hmessage hid =>
      replace hin : m ∈ ((s.setSock s.dials { own := own }).socks i).down := hin
      rw [setSock_socks] at hin
      split at hin
      · cases hin
      · next hne =>
          replace hsock : row.sock = some i := hsock
          rcases hrow with (hnone | hsame) | hdials
          · exact absurd (hnone.symm.trans hsock) (fun h => nomatch h)
          · exact .unread (hsame.symm.trans hsock) hin hmessage hid
          · exact absurd (Option.some.inj (hsock.symm.trans hdials)) hne
  | held hactive hid =>
      replace hactive : row.linkOp.active = true := hactive
      replace hid : row.linkOp.opId = id := hid
      rw [hop] at hactive hid
      exact .held hactive hid
  | @answered i m state hlt hown hlive hin hstate hid =>
      replace hin : m ∈ ((s.setSock s.dials { own := own }).socks i).up := hin
      replace hown : ((s.setSock s.dials { own := own }).socks i).own = true := hown
      rw [setSock_socks] at hin hown
      split at hin
      · cases hin
      · next hne =>
          rw [if_neg hne] at hown
          refine .answered (Nat.lt_of_le_of_ne (Nat.le_of_lt_succ hlt) hne) hown (live_of ?_) hin
            hstate hid
          rcases live_iff.mp hlive with hnew | hheld
          · replace hnew : ((s.setSock s.dials { own := own }).socks i).accepted = false := hnew
            rw [setSock_socks, if_neg hne] at hnew
            exact .inl hnew
          · exact .inr hheld

/-- The board keeps or loses its connection and its job. -/
theorem Owes.rowBoard {row : RowBoard} (hkeeps : s.row.Keeps row)
    (hop : row.linkOp = s.row.linkOp ∨ row.linkOp.active = false) {id : UInt32} {j : Nat}
    (h : ({ s with row := row } : Pair).Owes id j) : s.Owes id j := by
  cases h with
  | unread hsock hin hmessage hid =>
      replace hsock : row.sock = some _ := hsock
      rcases hkeeps with hnone | hsame
      · exact absurd (hnone.symm.trans hsock) (fun h => nomatch h)
      · exact .unread (hsame.symm.trans hsock) hin hmessage hid
  | held hactive hid =>
      replace hactive : row.linkOp.active = true := hactive
      replace hid : row.linkOp.opId = id := hid
      rcases hop with hsame | hover
      · rw [hsame] at hactive hid
        exact .held hactive hid
      · exact absurd (hover.symm.trans hactive) Bool.noConfusion
  | answered hlt hown hlive hin hstate hid => exact .answered hlt hown hlive hin hstate hid

/-- The row takes an Op it was still to read, or lets it be. -/
theorem Owes.took {k : Nat} {m : Sent WlToRow} {rest : List (Sent WlToRow)}
    (hsock : s.row.sock = some k) (hdown : (s.socks k).down = m :: rest) {row : RowBoard}
    {b : RowAnswers} {messages : List WlToMaster}
    (hhandled : RowBoard.Handled s.row b m.message row messages) (applied : List (Nat × WlShow))
    {id : UInt32} {j : Nat}
    (h : ({ s.setSock k { s.socks k with down := rest } with
      row := row, applied := applied
      rowJob := if s.row.linkOp.active = false ∧ row.linkOp.active = true then m.job
        else s.rowJob } : Pair).Owes id j) : s.Owes id j := by
  have hhead : m ∈ (s.socks k).down := by
    rw [hdown]
    exact List.mem_cons_self
  have hsocks : ∀ i, ((s.setSock k { s.socks k with down := rest }).socks i).own =
      (s.socks i).own ∧ ((s.setSock k { s.socks k with down := rest }).socks i).accepted =
      (s.socks i).accepted ∧ ((s.setSock k { s.socks k with down := rest }).socks i).up =
      (s.socks i).up := by
    intro i
    rw [setSock_socks]
    split
    · next hi =>
        rw [hi]
        exact ⟨rfl, rfl, rfl⟩
    · exact ⟨rfl, rfl, rfl⟩
  cases h with
  | @unread i m' o hsock' hin hmessage hid =>
      replace hsock' : row.sock = some i := hsock'
      rcases hhandled.keeps with hnone | hsame
      · exact absurd (hnone.symm.trans hsock') (fun h => nomatch h)
      · refine .unread (hsame.symm.trans hsock') ?_ hmessage hid
        replace hin : m' ∈ ((s.setSock k { s.socks k with down := rest }).socks i).down := hin
        rw [setSock_socks] at hin
        split at hin
        · next hi =>
            rw [hi, hdown]
            exact List.mem_cons_of_mem m hin
        · exact hin
  | held hactive hid =>
      replace hactive : row.linkOp.active = true := hactive
      replace hid : row.linkOp.opId = id := hid
      show s.Owes id (if s.row.linkOp.active = false ∧ row.linkOp.active = true then m.job
        else s.rowJob)
      rcases hhandled.linkOp with hsame | ⟨o, hmessage, hfree, _, hopId⟩
      · rw [hsame] at hactive hid
        rw [if_neg (fun hnew => absurd (hnew.1.symm.trans hactive) Bool.noConfusion)]
        exact .held hactive hid
      · rw [if_pos ⟨hfree, hactive⟩]
        exact .unread hsock hhead hmessage (hopId.symm.trans hid)
  | @answered i m' state hlt hown hlive hin hstate hid =>
      replace hin : m' ∈ ((s.setSock k { s.socks k with down := rest }).socks i).up := hin
      replace hown : ((s.setSock k { s.socks k with down := rest }).socks i).own = true := hown
      rw [(hsocks i).2.2] at hin
      rw [(hsocks i).1] at hown
      refine .answered hlt hown (live_of ?_) hin hstate hid
      rcases live_iff.mp hlive with hnew | hheld
      · replace hnew : ((s.setSock k { s.socks k with down := rest }).socks i).accepted = false :=
          hnew
        rw [(hsocks i).2.1] at hnew
        exact .inl hnew
      · exact .inr hheld

/-- Less is left to read. -/
theorem Owes.fewer {before : Nat → Sock} (hfewer : Fewer s.socks before) {id : UInt32} {j : Nat}
    (h : ({ s with socks := before } : Pair).Owes id j) : s.Owes id j := by
  cases h with
  | @unread k m o hsock hin hmessage hid =>
      replace hin : m ∈ (before k).down := hin
      rw [hfewer.down] at hin
      exact .unread hsock hin hmessage hid
  | held hactive hid => exact .held hactive hid
  | @answered k m state hlt hown hlive hin hstate hid =>
      replace hown : (before k).own = true := hown
      rw [hfewer.own] at hown
      refine .answered hlt hown (live_of ?_) (hfewer.up k m hin) hstate hid
      rcases live_iff.mp hlive with hnew | hheld
      · replace hnew : (before k).accepted = false := hnew
        rw [hfewer.accepted] at hnew
        exact .inl hnew
      · exact .inr hheld

/-- Slots are let go of, or given to connections nobody had accepted. -/
theorem Owes.marked {clients : ConnIx → Option Nat} {after : Nat → Sock}
    (hafter : Marked s.socks after)
    (hclients : ∀ c k, clients c = some k → s.clients c = some k ∨ (s.socks k).accepted = false)
    {id : UInt32} {j : Nat} (h : ({ s with clients := clients, socks := after } : Pair).Owes id j) :
    s.Owes id j := by
  cases h with
  | @unread k m o hsock hin hmessage hid =>
      replace hin : m ∈ (after k).down := hin
      rw [hafter.down] at hin
      exact .unread hsock hin hmessage hid
  | held hactive hid => exact .held hactive hid
  | @answered k m state hlt hown hlive hin hstate hid =>
      replace hown : (after k).own = true := hown
      replace hin : m ∈ (after k).up := hin
      rw [hafter.own] at hown
      rw [hafter.up] at hin
      refine .answered hlt hown (live_of ?_) hin hstate hid
      rcases live_iff.mp hlive with hnew | ⟨c, hc⟩
      · exact .inl (hafter.accepted k hnew)
      · rcases hclients c k hc with hold | hnew
        · exact .inr ⟨c, hold⟩
        · exact .inl hnew

/-- The table of jobs is no part of what is owed. -/
theorem Owes.books {s' : Pair} {id : UInt32} {j : Nat} (h : s'.Owes id j)
    (hrow : s'.row = s.row := by rfl) (hsocks : s'.socks = s.socks := by rfl)
    (hclients : s'.clients = s.clients := by rfl) (hdials : s'.dials = s.dials := by rfl)
    (hrowJob : s'.rowJob = s.rowJob := by rfl) : s.Owes id j := by
  cases h with
  | unread hsock hin hmessage hid =>
      rw [hrow] at hsock
      rw [hsocks] at hin
      exact .unread hsock hin hmessage hid
  | held hactive hid =>
      rw [hrow] at hactive hid
      rw [hrowJob]
      exact .held hactive hid
  | answered hlt hown hlive hin hstate hid =>
      rw [hdials] at hlt
      rw [hsocks] at hown hin
      refine .answered hlt hown (live_of ?_) hin hstate hid
      rw [← hsocks, ← hclients]
      exact live_iff.mp hlive

/-! ## §5. Runs. -/

theorem clean_owed {a : PairTurn} (h : s.clean P a = true) (hticks : a.ticks = true)
    (hwaits : (s.slot P).stage = .waiting) (hconn : (s.link.rows P.row).conn ≠ none) :
    s.owed (s.slot P).op.opId = [] := by
  unfold clean at h
  rw [Bool.and_eq_true] at h
  obtain ⟨howed, _⟩ := h
  rw [Bool.or_eq_true] at howed
  rcases howed with hno | hnone
  · rw [hticks, decide_eq_true hwaits, Option.isSome_iff_ne_none.mpr hconn] at hno
    cases hno
  · exact List.isEmpty_iff.mp hnone

theorem clean_room {a : PairTurn} (h : s.clean P a = true) (hbegins : a.begins = true) :
    s.state.ops.nextId.toNat + 1 < 4294967296 := by
  unfold clean at h
  rw [Bool.and_eq_true] at h
  obtain ⟨_, hcount⟩ := h
  rw [Bool.or_eq_true] at hcount
  rcases hcount with hno | hroom
  · rw [hbegins] at hno
    cases hno
  · exact of_decide_eq_true hroom

/-- A job that was started waits, where none was. -/
theorem startJob_slot {link : Link} {r : RowIx} {op : WlOp} {nowMs : UInt32}
    (h : (link.startJob r op nowMs).1 = true) : (link.rows r).job.stage = .none ∧
      ((link.startJob r op nowMs).2.rows r).job =
        { (link.rows r).job with stage := .waiting, sinceMs := nowMs, op := op } := by
  unfold startJob WallRowJob.start at h ⊢
  dsimp only at h ⊢
  split at h
  · cases h
  · next hstage =>
      refine ⟨not_not.mp hstage, ?_⟩
      rw [if_neg hstage]
      dsimp only
      rw [if_pos rfl]
      show (Function.update link.rows r _ r).job = _
      rw [Function.update_self]

/-- **Every clean step keeps the books.** -/
theorem Stepped.honest (hwired : Wired P s) (h : Honest P s) {a : PairTurn}
    (hclean : s.clean P a = true) {s' : Pair} (hstep : Stepped P s a s') : Honest P s' := by
  cases hstep with
  | row row hkeeps hop =>
      exact h.kept rfl rfl rfl rfl rfl rfl rfl fun _ _ howes => howes.rowBoard hkeeps hop
  | dialled row messages hrow hop hhello =>
      refine h.kept rfl rfl rfl rfl rfl rfl rfl fun _ _ howes => ?_
      rcases howes.speaks with hold | ⟨_, _, state, hin, _⟩
      · exact hold.dials hrow hop
      · obtain ⟨_, heq, _⟩ := hhello _ hin
        cases heq
  | otherDialled =>
      have hkeeps : s.row.Keeps s.row := .inr rfl
      exact h.kept rfl rfl rfl rfl rfl rfl rfl fun _ _ howes => howes.dials (.inl hkeeps) rfl
  | otherSpoke k m hown _ =>
      refine h.kept rfl rfl rfl rfl rfl rfl rfl fun _ _ howes => ?_
      rcases howes.speaks with hold | ⟨_, htrue, _⟩
      · exact hold
      · exact absurd (htrue.symm.trans hown) Bool.noConfusion
  | took k m rest b row messages hsock hdown hhandled =>
      refine h.kept rfl rfl rfl rfl rfl rfl rfl fun id j howes => ?_
      rcases howes.speaks with hold | ⟨hjob, _, state, hin, hid⟩
      · exact hold.took hsock hdown hhandled _
      · -- the row answers the Op it has just read
        rcases hhandled.writes _ hin with ⟨o, state', hop, heq, hopId, _⟩ | ⟨_, _, heq⟩ | heq |
          ⟨_, heq⟩
        · injection heq with heq
          rw [hjob]
          refine .unread hsock (by rw [hdown]; exact List.mem_cons_self) hop ?_
          rw [← hopId, ← heq, hid]
        · cases heq
        · cases heq
        · cases heq
  | spoke k row job messages hsock hkeeps hop hspoken =>
      refine h.kept rfl rfl rfl rfl rfl rfl rfl fun id j howes => ?_
      rcases howes.speaks with hold | ⟨hjob, _, state, hin, hid⟩
      · exact hold.rowBoard hkeeps hop
      · rcases hspoken _ hin with hplain | ⟨hactive, hrowJob, state', heq, hopId⟩
        · cases hplain
        · injection heq with heq
          rw [hjob, hrowJob]
          refine .held hactive ?_
          rw [← hopId, ← heq, hid]
  | called before heard job link clients after hbefore hheard hcall hjob hclients hafter =>
      have hfewer : Honest P { s with socks := before } := by
        refine h.kept rfl rfl rfl rfl rfl rfl rfl fun id j howes => ?_
        exact howes.fewer hbefore
      have hcalled : Honest P (({ s with socks := before } : Pair).called P job link) := by
        refine hfewer.called hcall hjob ?_ ?_
        · -- the answer that is heard was still owed
          intro c state heq hrow hsent hid
          obtain ⟨k, hclient, hin⟩ := hheard c _ heq
          have hown := (hwired.seated c k P.row hclient hrow).mpr rfl
          refine h.answers hsent job ?_
          exact .answered (hwired.dialled c k hclient) hown (live_of (.inr ⟨c, hclient⟩)) hin rfl hid
        · intro hticks hwaits hconn j howes
          have hnone := clean_owed hclean hticks hwaits hconn
          have hin := (howes.fewer hbefore).mem
          rw [hnone] at hin
          cases hin
      refine hcalled.kept rfl rfl rfl rfl rfl rfl rfl fun id j howes => ?_
      obtain ⟨new, hlog, _⟩ := hcall.said
      obtain ⟨s₁, hk, heq⟩ := called_hooked P { s with socks := before } job hlog
      refine howes.marked hafter fun c k hc => ?_
      rcases hclients c k hc with hold | ⟨_, _, hnew⟩
      · exact .inl hold
      · refine .inr ?_
        rw [heq]
        show (s₁.socks k).accepted = false
        rw [hk.accepted]
        exact (hbefore.accepted k).trans hnew
  | begins name row unit begun others ha hid hbegun =>
      have hroom := clean_room hclean ha
      obtain ⟨hold, hnew⟩ := Named.begins h.counted name row unit hroom hid
      exact {
        counted := h.counted.start hroom name row unit
        begun := fun b hb => by
          rcases hbegun b hb with hb | ⟨hop, hjob⟩
          · exact ⟨(hold _ _ (h.begun b hb)).older, (hold _ _ (h.begun b hb)).holds⟩
          · rw [hop, hjob]
            exact ⟨hnew.older, hnew.holds⟩
        staged := fun j hj =>
          ⟨(hold _ _ (h.staged j hj)).older, (hold _ _ (h.staged j hj)).holds⟩
        slot := fun hstage => ⟨(hold _ _ (h.slot hstage)).older, (hold _ _ (h.slot hstage)).holds⟩
        others := h.others
        answers := fun hsent j hj => h.answers hsent j hj.books
        done := h.done }
  | ended state begun hops hstaged hbegun =>
      exact {
        counted := hops.counted h.counted
        begun := fun b hb => (h.begun b (hbegun b hb)).same hops rfl
        staged := fun j hj => (h.staged j (hstaged j hj)).same hops rfl
        slot := fun hstage => (h.slot hstage).same hops rfl
        others := h.others
        answers := fun hsent j hj => h.answers hsent j hj.books
        done := h.done }
  | staged asked state begun hasked hops hstaged hbegun =>
      have hsame : s.state.ops.SameJobs state.ops := by
        rw [hops]
        exact .rfl' _
      exact {
        counted := hsame.counted h.counted
        begun := fun b hb => (h.begun b (hbegun b hb)).same hsame rfl
        staged := fun j hj => by
          rw [hstaged j hj]
          exact (h.begun asked hasked).same hsame rfl
        slot := fun hstage => (h.slot hstage).same hsame rfl
        others := h.others
        answers := fun hsent j hj => h.answers hsent j hj.books
        done := h.done }
  | started state job nowMs hjob hops hstaged hstart =>
      have hcall : CallOf P false none s.link (s.link.startJob P.row job.op nowMs).2 :=
        startJob_callOf hwired.placed job.op nowMs
      obtain ⟨new, hlog, hnew⟩ := hcall.said
      obtain ⟨s₁, hk, heq⟩ := called_hooked P { s with state := state } 0 hlog
      have hsame : s.state.ops.SameJobs state.ops := by
        rw [hops]
        exact .rfl' _
      obtain ⟨hfree, hslot⟩ := startJob_slot hstart
      have hstated : Honest P { s with state := state } := {
        counted := hsame.counted h.counted
        begun := fun b hb => (h.begun b hb).same hsame rfl
        staged := fun j hj => absurd (hstaged.symm.trans hj) (fun h => nomatch h)
        slot := fun hstage => (h.slot hstage).same hsame rfl
        others := h.others
        answers := fun hsent j hj => h.answers hsent j hj.books
        done := h.done }
      rw [heq]
      refine hstated.call hk (fun q hq => hcall.others q hq (h.others q hq)) ?_ ?_ ?_
      · intro _
        rw [hslot]
        exact (h.staged job hjob).same hsame rfl
      · intro hsent
        rw [hslot] at hsent
        cases hsent
      · intro c q state' he
        obtain ⟨hheard, _⟩ := (hnew _ he).2.2 c q state' rfl
        cases hheard
  | restarted _ =>
      exact {
        counted := fun _ => Nat.zero_lt_one
        begun := fun _ hb => (nomatch hb)
        staged := fun _ hj => (nomatch hj)
        slot := fun hstage => absurd rfl hstage
        others := fun _ _ => rfl
        answers := fun hsent => (nomatch hsent)
        done := h.done }

theorem start_honest (P : PairedRow) : Honest P (start P) where
  counted _ := Nat.zero_lt_one
  begun _ hb := nomatch hb
  staged _ hj := nomatch hj
  slot hstage := absurd rfl hstage
  others _ _ := rfl
  answers hsent := nomatch hsent
  done _ hp := nomatch hp

/-- **An operator's job is done only by its own answer**, in every run in which
the row owes no answer under the number of a job that is handed over to it. -/
theorem job_agreement (P : PairedRow) (turns : List PairTurn)
    (hclean : AllMeet (fun s a => s.clean P a = true) (step P) (start P) turns) {s : Pair}
    (hrun : run P turns = some s) : ∀ p ∈ s.done, p.1 = p.2 := by
  have hstep : ∀ s a s', Wired P s ∧ Honest P s → s.clean P a = true → s.step P a = some s' →
      Wired P s' ∧ Honest P s' := by
    intro s a s' h hmeets hstep
    have hstepped := step_stepped h.1.placed hstep
    exact ⟨hstepped.wired h.1, hstepped.honest h.1 h.2 hmeets⟩
  have hboth : Wired P s ∧ Honest P s :=
    run_invariant_of_meets hstep ⟨start_wired P, start_honest P⟩ hclean hrun
  exact hboth.2.done

end Pair

end JobAgreement

/-! ## §6. A job that ends by another's answer. -/

local instance jobAgreementCodec : Nanopb := Codec.nanopb

/-- A job is asked for, staged, taken and handed over. -/
def handTurns (op : WlOp) : List PairTurn :=
  [.askJob "job" op, .stageJob 0, .takeJob false 3, .tick (.obliging []) 4]

/-- The row takes its job, the master restarts, and the next job has the same
number: the end of the first is the second's. -/
def staleTurns : List PairTurn :=
  [.rowRestart 7 (some ([109], [104])) 0] ++ joinTurns 0 ++ [.hears 0 (.obliging []) 3] ++
    handTurns { opcode := .home, address := 1 } ++
    [.read {}, .read { units := Vector.replicate Bus.UNITS_AMOUNT { state := 1 }, staged := .yes 1 },
      .hangUp, .masterRestart] ++
    joinTurns 1 ++ [.hears 0 (.obliging []) 3] ++ handTurns { opcode := .identify, address := 2 } ++
    [.opTick { result := { seq := 1, outcome := 1 } }, .hears 0 (.obliging []) 5]

/-- The same without the restart: the job ends by its own answer. -/
def endedTurns : List PairTurn :=
  [.rowRestart 7 (some ([109], [104])) 0] ++ joinTurns 0 ++ [.hears 0 (.obliging []) 3] ++
    handTurns { opcode := .home, address := 1 } ++
    [.read {}, .read { units := Vector.replicate Bus.UNITS_AMOUNT { state := 1 }, staged := .yes 1 },
      .hears 0 (.obliging []) 4, .opTick { result := { seq := 1, outcome := 1 } },
      .hears 0 (.obliging []) 5]

theorem job_agreement_ended : ∃ s, Pair.run lonelyRow endedTurns = some s ∧ s.done ≠ [] ∧
    ∀ p ∈ s.done, p.1 = p.2 := by
  have hran : (Pair.run lonelyRow endedTurns).map (fun s => decide (s.done ≠ [])) = some true := by
    decide +kernel
  obtain ⟨s, hrun, hends⟩ := Option.map_eq_some_iff.mp hran
  exact ⟨s, hrun, of_decide_eq_true hends,
    Pair.job_agreement lonelyRow endedTurns (AllMeet.of_allMeet (by decide +kernel)) hrun⟩

theorem stale_turns : ¬ ∀ (P : PairedRow) (turns : List PairTurn) (s : Pair),
    Pair.run P turns = some s → ∀ p ∈ s.done, p.1 = p.2 := by
  intro hall
  have hran : (Pair.run lonelyRow staleTurns).map (fun s => s.done) = some [(2, 1)] := by
    decide +kernel
  obtain ⟨s, hrun, hdone⟩ := Option.map_eq_some_iff.mp hran
  have hin : (2, 1) ∈ s.done := by
    rw [hdone]
    exact List.mem_singleton.mpr rfl
  have hsame := hall lonelyRow staleTurns s hrun (2, 1) hin
  exact absurd hsame (by decide)

end SplitFlap
