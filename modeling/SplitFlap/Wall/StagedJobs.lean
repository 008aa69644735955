/-
  SplitFlap.Wall.StagedJobs — a staged job reaches the board it was asked for.

  `takeJobs` compares the table's number once and takes row by row after that,
  so the comparison alone does not keep a job of a newer table out of the
  pass.  What does is the starters of jobs: they stage for a row that the link
  task has published as connected since they read the number, and while a pass
  takes jobs nothing is published.
-/
import SplitFlap.Wall.Tasks

namespace SplitFlap

namespace Wall

open Link Machine Trace Log

section Staged

variable [Nanopb]

/-! ## §1. The tables that are in use. -/

/-- No task can stage a job against the table that is now the wall's: nothing
was published since it came. -/
structure Unseen (s : Wall) : Prop where
  link : ∀ r, s.state.link r = {}
  seen : ∀ i t, s.tasks i = some t → t.generation = s.state.generation → ∀ r, t.seen r = false
  staged : ∀ r, s.state.staged r = none

/-- The table's number as the link task and the others hold it, and the table
of the staged jobs. -/
structure Numbered (s : Wall) : Prop where
  pass : s.link.rowsGeneration.toNat ≤ s.state.generation.toNat
  table : s.link.rowsGeneration = s.state.generation → s.link.rowsTable = s.state.rows
  tasks : ∀ i t, s.tasks i = some t → t.generation.toNat ≤ s.state.generation.toNat
  staged : ∀ r job, s.state.staged r = some job → job.row = r ∧ job.table = s.state.rows
  window : s.link.pc.takes → s.link.rowsGeneration = s.state.generation ∨ s.Unseen

/-- A job's row is one board's in the table it was staged against and in the
pass's. -/
def Agrees (job : StagedJob) (row : RowIx) (table : WallRowsTable) : Prop :=
  job.row = row ∧ boardAt job.table row = boardAt table row

/-- Where the link task holds a staged job, and where it wrote one. -/
structure Routed (t : LinkTask) (written : List Written) : Prop where
  hand : ∀ r job, t.pc = .inHand r job → Agrees job r t.rowsTable
  slot : ∀ r op, accepts jobStep .idle (jobLog r t.said) = some (.waiting op) →
    ∃ job, t.asked r = some job ∧ job.op = op ∧ Agrees job r t.rowsTable
  written : ∀ w ∈ written, ∃ job id, w.job = some job ∧ job.op = w.op ∧ job.row = w.row ∧
    w.behind = some id ∧ boardAt job.table job.row = some id

/-- How the starters of jobs stage one, and a table's number that does not
come round. -/
def seenRow (s : Wall) : Turn → Bool
  | .jobStage task =>
      match s.tasks task with
      | some { seen, job := some { row, .. }, .. } => seen row
      | _ => true
  | .setRows _ => s.state.generation.toNat + 1 < 4294967296
  | _ => true

/-! ## §2. The numbers hold. -/

variable {s s' : Wall}

theorem Numbered.of_same (h : s.Numbered) (hrows : s'.state.rows = s.state.rows)
    (hnumber : s'.state.generation = s.state.generation) (hlink : s'.state.link = s.state.link)
    (hstaged : s'.state.staged = s.state.staged) (htasks : s'.tasks = s.tasks)
    (htable : s'.link.rowsTable = s.link.rowsTable)
    (hpass : s'.link.rowsGeneration = s.link.rowsGeneration)
    (hpc : s'.link.pc.takes → s.link.pc.takes ∨ s.link.rowsGeneration = s.state.generation) :
    s'.Numbered := by
  refine ⟨?_, ?_, ?_, ?_, ?_⟩
  · rw [hpass, hnumber]
    exact h.pass
  · rw [hpass, hnumber, htable, hrows]
    exact h.table
  · rw [htasks, hnumber]
    exact h.tasks
  · rw [hstaged, hrows]
    exact h.staged
  · intro htakes
    rw [hpass, hnumber]
    have hwindow : s.link.rowsGeneration = s.state.generation ∨ s.Unseen := by
      rcases hpc htakes with htakes' | hsame
      · exact h.window htakes'
      · exact .inl hsame
    rcases hwindow with hsame | hunseen
    · exact .inl hsame
    · refine .inr ⟨?_, ?_, ?_⟩
      · rw [hlink]
        exact hunseen.link
      · rw [htasks, hnumber]
        exact hunseen.seen
      · rw [hstaged]
        exact hunseen.staged

/-- A task's own values change. -/
theorem Numbered.setTask (h : s.Numbered) {i : Nat} {t' : Task}
    (hnumber : t'.generation.toNat ≤ s.state.generation.toNat)
    (hseen : s.Unseen → t'.generation = s.state.generation → ∀ r, t'.seen r = false) :
    (s.setTask i t').Numbered := by
  refine ⟨h.pass, h.table, ?_, h.staged, ?_⟩
  · intro j t ht
    replace ht : Function.update s.tasks i (some t') j = some t := ht
    by_cases hj : j = i
    · subst hj
      rw [Function.update_self, Option.some.injEq] at ht
      rw [← ht]
      exact hnumber
    · rw [Function.update_of_ne hj] at ht
      exact h.tasks j t ht
  · intro hpc
    rcases h.window hpc with hsame | hunseen
    · exact .inl hsame
    · refine .inr ⟨hunseen.link, ?_, hunseen.staged⟩
      intro j t ht hgen
      replace ht : Function.update s.tasks i (some t') j = some t := ht
      by_cases hj : j = i
      · subst hj
        rw [Function.update_self, Option.some.injEq] at ht
        subst ht
        exact hseen hunseen hgen
      · rw [Function.update_of_ne hj] at ht
        exact hunseen.seen j t ht hgen

/-- A task goes on with the number it read and the rows it saw. -/
theorem Numbered.setJob (h : s.Numbered) {i : Nat} {t : Task} (ht : s.tasks i = some t)
    (job : Option BegunJob) : (s.setTask i { t with job := job }).Numbered :=
  h.setTask (h.tasks i t ht) fun hunseen => hunseen.seen i t ht

/-- A job is staged by a starter that has seen its row: no pass that takes jobs
runs on an older table. -/
theorem Numbered.stage (h : s.Numbered) {i : Nat} {t : Task} {job : BegunJob}
    (ht : s.tasks i = some t) (hsame : t.generation = s.state.generation)
    (hseen : t.seen job.row = true) (n : Int) :
    ({ s with state := { s.state with
      staged := Function.update s.state.staged job.row
        (some { row := job.row, op := job.op, table := s.state.rows })
      jobsStaged := n } } : Wall).Numbered := by
  refine ⟨h.pass, h.table, h.tasks, ?_, ?_⟩
  · intro r staged hstaged
    replace hstaged : Function.update s.state.staged job.row _ r = some staged := hstaged
    by_cases hr : r = job.row
    · subst hr
      rw [Function.update_self, Option.some.injEq] at hstaged
      rw [← hstaged]
      exact ⟨rfl, rfl⟩
    · rw [Function.update_of_ne hr] at hstaged
      exact h.staged r staged hstaged
  · intro hpc
    rcases h.window hpc with hpass | hunseen
    · exact .inl hpass
    · rw [hunseen.seen i t ht hsame] at hseen
      cases hseen

theorem seen_of_meets {i : Nat} {t : Task} {job : BegunJob} (h : s.seenRow (.jobStage i) = true)
    (ht : s.tasks i = some t) (hjob : t.job = some job) : t.seen job.row = true := by
  obtain ⟨generation, seen, _⟩ := t
  cases hjob
  unfold seenRow at h
  dsimp only at h
  rw [ht] at h
  exact h

/-- A new table: every number in use is older, and nothing is published. -/
theorem Numbered.setRows (h : s.Numbered) (hroom : s.state.generation.toNat + 1 < 4294967296)
    (table : WallRowsTable) : (s.after (s.state.wallStateSetRows table)).Numbered := by
  have hnext : (s.after (s.state.wallStateSetRows table)).state.generation.toNat =
      s.state.generation.toNat + 1 := WallOps.count_next hroom
  have hpass := h.pass
  refine ⟨?_, ?_, ?_, fun _ _ hstaged => (nomatch hstaged), ?_⟩
  · rw [hnext]
    show s.link.rowsGeneration.toNat ≤ _
    omega
  · intro hsame
    have hnat : s.link.rowsGeneration.toNat = s.state.generation.toNat + 1 := by
      rw [← hnext, ← hsame]
      rfl
    omega
  · intro i t ht
    have htask := h.tasks i t ht
    rw [hnext]
    omega
  · intro _
    refine .inr ⟨fun _ => rfl, ?_, fun _ => rfl⟩
    intro i t ht hsame
    have htask := h.tasks i t ht
    rw [hsame, hnext] at htask
    omega

theorem Numbered.take (h : s.Numbered) {row : RowIx} {job : StagedJob}
    (hpc : s.link.pc = .locking row) (n : Int) :
    (({ s with state := { s.state with
      staged := Function.update s.state.staged row none
      jobsStaged := n } } : Wall).goto (.inHand row job)).Numbered := by
  have hnone : ∀ r job', Function.update s.state.staged row none r = some job' →
      s.state.staged r = some job' := by
    intro r job' hstaged
    by_cases hr : r = row
    · subst hr
      rw [Function.update_self] at hstaged
      cases hstaged
    · rwa [Function.update_of_ne hr] at hstaged
  refine ⟨h.pass, h.table, h.tasks, fun r job' hstaged => h.staged r job' (hnone r job' hstaged), ?_⟩
  intro _
  have htakes : s.link.pc.takes := by
    rw [hpc]
    trivial
  rcases h.window htakes with hsame | hunseen
  · exact .inl hsame
  · refine .inr ⟨hunseen.link, hunseen.seen, ?_⟩
    intro r
    show Function.update s.state.staged row none r = none
    by_cases hr : r = row
    · subst hr
      exact Function.update_self ..
    · rw [Function.update_of_ne hr]
      exact hunseen.staged r

theorem Numbered.step {a : Turn} (h : s.Numbered) (hmeets : s.seenRow a = true)
    (hstep : s.step a = some s') : s'.Numbered := by
  cases a with
  | look task =>
      rw [look_cases hstep]
      exact h.setTask (Nat.le_refl _) fun _ _ _ => rfl
  | see task =>
      obtain ⟨t, ht, rfl⟩ := see_cases hstep
      refine h.setTask (h.tasks task t ht) ?_
      intro hunseen _ r
      show ((s.state.link r).contact.connected && (s.state.link r).contact.helloSeen) = false
      rw [hunseen.link r]
      rfl
  | jobBegin task row op name =>
      obtain ⟨t, ht, _, rfl | ⟨id, ops, _, ⟨_, rfl⟩ | ⟨_, rfl⟩⟩⟩ := jobBegin_cases hstep
      · exact h
      · exact h.of_same rfl rfl rfl rfl rfl rfl rfl .inl
      · have hops : ({ s with state := { s.state with ops := ops } } : Wall).Numbered :=
          h.of_same rfl rfl rfl rfl rfl rfl rfl .inl
        exact hops.setJob ht _
  | jobStage task =>
      obtain ⟨t, job, ht, hjob, _, ⟨_, hsame, rfl⟩ | rfl⟩ := jobStage_cases hstep
      · exact (h.stage ht hsame (seen_of_meets hmeets ht hjob) _).setJob ht _
      · exact h.setJob ht _
  | giveUp task =>
      obtain ⟨t, job, ht, _, _, rfl⟩ := giveUp_cases hstep
      have hended : (s.after (s.state.wallOpFinish job.op.opId false
          "the row could not be handed the job")).Numbered :=
        h.of_same rfl rfl rfl rfl rfl rfl rfl .inl
      exact hended.setJob ht _
  | opBegin name row unit =>
      obtain ⟨id, ops, _, ⟨_, rfl⟩ | ⟨_, rfl⟩⟩ := opBegin_cases hstep
      · exact h.of_same rfl rfl rfl rfl rfl rfl rfl .inl
      · exact h.of_same rfl rfl rfl rfl rfl rfl rfl .inl
  | opFinish id ok detail =>
      obtain ⟨_, rfl⟩ := opFinish_cases hstep
      exact h.of_same rfl rfl rfl rfl rfl rfl rfl .inl
  | setRows table =>
      rw [setRows_cases hstep]
      exact h.setRows (of_decide_eq_true hmeets) table
  | check =>
      obtain ⟨_, _, ⟨_, rfl⟩ | ⟨_, rfl⟩⟩ := check_cases hstep
      · exact h.of_same rfl rfl rfl rfl rfl rfl rfl fun hpc => hpc.elim
      · exact h.of_same rfl rfl rfl rfl rfl rfl rfl fun hpc => hpc.elim
  | readTable =>
      obtain ⟨_, _, rfl⟩ := readTable_cases hstep
      exact ⟨Nat.le_refl _, fun _ => rfl, h.tasks, h.staged, fun hpc => hpc.elim⟩
  | call H c =>
      obtain ⟨_, _, _, l, _, rfl⟩ := call_cases hstep
      exact h.of_same rfl rfl rfl rfl rfl rfl rfl fun hpc => hpc.elim
  | beginTakes =>
      obtain ⟨_, _, rfl | ⟨hsame, rfl⟩⟩ := beginTakes_cases hstep
      · exact h.of_same rfl rfl rfl rfl rfl rfl rfl fun hpc => hpc.elim
      · exact h.of_same rfl rfl rfl rfl rfl rfl rfl fun _ => .inr hsame.symm
  | lookStaged =>
      obtain ⟨row, hpc, hgoes⟩ := lookStaged_cases hstep
      have htakes : s.link.pc.takes := by
        rw [hpc]
        trivial
      rcases hgoes with rfl | ⟨r, rfl⟩
      · exact h.of_same rfl rfl rfl rfl rfl rfl rfl fun _ => .inl htakes
      · exact h.of_same rfl rfl rfl rfl rfl rfl rfl fun _ => .inl htakes
  | take =>
      obtain ⟨row, hpc, rfl | ⟨job, _, rfl⟩⟩ := take_cases hstep
      · refine h.of_same rfl rfl rfl rfl rfl rfl rfl fun _ => .inl ?_
        rw [hpc]
        trivial
      · exact h.take hpc _
  | start updating nowMs =>
      obtain ⟨row, job, hpc, hends⟩ := startJob_cases hstep
      have htakes : s.link.pc.takes := by
        rw [hpc]
        trivial
      rcases hends with ⟨detail, rfl⟩ | ⟨l, _, rfl⟩
      · exact h.of_same rfl rfl rfl rfl rfl rfl rfl fun _ => .inl htakes
      · exact h.of_same rfl rfl rfl rfl rfl rfl rfl fun _ => .inl htakes
  | endTakes =>
      obtain ⟨row, _, rfl⟩ := endTakes_cases hstep
      exact h.of_same rfl rfl rfl rfl rfl rfl rfl fun hpc => hpc.elim
  | tick H nowMs =>
      obtain ⟨_, l, _, rfl⟩ := tick_cases hstep
      exact h.of_same rfl rfl rfl rfl rfl rfl rfl fun hpc => hpc.elim
  | tell H c =>
      obtain ⟨_, _, _, l, _, rfl⟩ := tell_cases hstep
      exact h.of_same rfl rfl rfl rfl rfl rfl rfl fun hpc => hpc.elim
  | publish row =>
      obtain ⟨hpc, _, rfl⟩ := publish_cases hstep
      refine ⟨h.pass, h.table, h.tasks, h.staged, ?_⟩
      intro htakes
      replace htakes : s.link.pc.takes := htakes
      rw [hpc] at htakes
      exact htakes.elim
  | endPass =>
      obtain ⟨_, _, rfl⟩ := endPass_cases hstep
      exact h.of_same rfl rfl rfl rfl rfl rfl rfl fun hpc => hpc.elim
  | effect =>
      obtain ⟨e, rest, _, rfl⟩ := effect_cases hstep
      obtain ⟨hrows, hnumber, hlink, hstaged⟩ := hookEffect_same s.state e
      exact h.of_same hrows hnumber hlink hstaged rfl rfl rfl .inl

/-! ## §3. The link task's jobs are on their way to their boards. -/

variable {t : LinkTask} {written : List Written}

theorem Routed.goto (h : Routed t written) {pc : Pc}
    (hhand : ∀ r job, pc = .inHand r job → Agrees job r t.rowsTable) :
    Routed { t with pc := pc } written :=
  ⟨hhand, h.slot, h.written⟩

theorem Routed.called (h : Routed t written) (l : Link) {pc : Pc} (hpc : ¬pc.takes) :
    Routed (t.called l pc) written := by
  refine ⟨?_, h.slot, h.written⟩
  intro r job hhand
  replace hhand : pc = .inHand r job := hhand
  subst hhand
  exact absurd trivial hpc

/-- A fresh table, after a reset: no job is open. -/
theorem Routed.tabled (h : Routed t written) (hsound : t.Sound) (hpc : t.pc = .stale) (htodo : t.todo = [])
    (table : WallRowsTable) (number : UInt32) :
    Routed { t with rowsTable := table, rowsGeneration := number, pc := .reading } written := by
  refine ⟨fun _ _ hpc => (nomatch hpc), ?_, h.written⟩
  intro r op hwaits
  have hstage := (hsound.slot_waiting htodo hwaits).1
  rw [(hsound.forgotten hpc).2.1 r] at hstage
  cases hstage

/-- A job in hand goes to its row's slot. -/
theorem Routed.started (h : Routed t written) (hsound : t.Sound) {row : RowIx} {job : StagedJob}
    (hpc : t.pc = .inHand row job) {nowMs : UInt32} {l : Link}
    (hstart : t.whole.startJob row job.op nowMs = (true, l)) {n : Nat} :
    Routed { t with
      core := l.toWallLinkCore
      said := l.log
      asked := Function.update t.asked row (some job)
      pc := .taking n } written := by
  have htodo : t.todo = [] := by
    apply hsound.quiet
    rw [hpc]
    exact .inl trivial
  have hlog := LinkTask.started_log htodo hstart
  refine ⟨fun _ _ hpc => (nomatch hpc), ?_, h.written⟩
  intro r op hwaits
  replace hwaits : accepts jobStep .idle (jobLog r l.log) = some (.waiting op) := hwaits
  rw [hlog, jobLog_snoc] at hwaits
  show ∃ job', Function.update t.asked row (some job) r = some job' ∧ _
  by_cases hr : r = row
  · subst hr
    refine ⟨job, Function.update_self .., ?_, h.hand r job hpc⟩
    have hview : jobView r (.jobAccepted r job.op) = some (.accepted job.op) := if_pos rfl
    rw [hview, Option.toList_some, accepts_append, Option.bind_eq_some_iff] at hwaits
    obtain ⟨q, _, hwaits⟩ := hwaits
    rw [accepts_cons, Option.bind_eq_some_iff] at hwaits
    obtain ⟨q', hq', hwaits⟩ := hwaits
    injection hwaits with hwaits
    subst hwaits
    have haccepted := jobStep_waiting hq'
    injection haccepted
  · have hview : jobView r (.jobAccepted row job.op) = none := if_neg fun hrow => hr hrow.symm
    rw [hview, Option.toList_none, List.append_nil] at hwaits
    rw [Function.update_of_ne hr]
    exact h.slot r op hwaits

/-- A hook has its effect; if it wrote a job, it was to the job's board. -/
theorem Routed.popped (h : Routed t written) (hsound : t.Sound) {e : LinkEvent} {rest : List LinkEvent}
    (htodo : t.todo = e :: rest) :
    Routed { t with said := t.said ++ [e], todo := rest } (written ++ writtenOf t e) := by
  refine ⟨h.hand, fun r op hwaits => h.slot r op (hsound.waited htodo hwaits), ?_⟩
  intro w hw
  rcases List.mem_append.mp hw with hold | hnew
  · exact h.written w hold
  · unfold writtenOf at hnew
    split at hnew
    · next conn row op =>
        rw [List.mem_singleton] at hnew
        subst hnew
        obtain ⟨job, hasked, hop, hrow, hboard⟩ := h.slot row op (hsound.wrote_waiting htodo)
        obtain ⟨id, hbehind, hat⟩ := hsound.says [] _ rest htodo
        rw [List.append_nil] at hbehind
        refine ⟨job, id, hasked, hop, hrow, hbehind, ?_⟩
        rw [hrow, hboard]
        exact hat
    · cases hnew

theorem Routed.step {a : Turn} (hnumbered : s.Numbered) (hsound : s.link.Sound)
    (h : Routed s.link s.written) (hstep : s.step a = some s') : Routed s'.link s'.written := by
  cases a with
  | look task =>
      rw [look_cases hstep]
      exact h
  | see task =>
      obtain ⟨t, _, rfl⟩ := see_cases hstep
      exact h
  | jobBegin task row op name =>
      obtain ⟨t, _, _, rfl | ⟨id, ops, _, ⟨_, rfl⟩ | ⟨_, rfl⟩⟩⟩ := jobBegin_cases hstep
      · exact h
      · exact h
      · exact h
  | jobStage task =>
      obtain ⟨t, job, _, _, _, ⟨_, _, rfl⟩ | rfl⟩ := jobStage_cases hstep
      · exact h
      · exact h
  | giveUp task =>
      obtain ⟨t, job, _, _, _, rfl⟩ := giveUp_cases hstep
      exact h
  | opBegin name row unit =>
      obtain ⟨id, ops, _, ⟨_, rfl⟩ | ⟨_, rfl⟩⟩ := opBegin_cases hstep
      · exact h
      · exact h
  | opFinish id ok detail =>
      obtain ⟨_, rfl⟩ := opFinish_cases hstep
      exact h
  | setRows table =>
      rw [setRows_cases hstep]
      exact h
  | check =>
      obtain ⟨_, _, ⟨_, rfl⟩ | ⟨_, rfl⟩⟩ := check_cases hstep
      · exact h.called _ id
      · exact h.goto fun _ _ hpc => nomatch hpc
  | readTable =>
      obtain ⟨hpc, htodo, rfl⟩ := readTable_cases hstep
      exact h.tabled hsound hpc htodo _ _
  | call H c =>
      obtain ⟨_, _, _, l, _, rfl⟩ := call_cases hstep
      exact h.called l id
  | beginTakes =>
      obtain ⟨_, _, rfl | ⟨_, rfl⟩⟩ := beginTakes_cases hstep
      · exact h.goto fun _ _ hpc => nomatch hpc
      · exact h.goto fun _ _ hpc => nomatch hpc
  | lookStaged =>
      obtain ⟨row, _, rfl | ⟨r, rfl⟩⟩ := lookStaged_cases hstep
      · exact h.goto fun _ _ hpc => nomatch hpc
      · exact h.goto fun _ _ hpc => nomatch hpc
  | take =>
      obtain ⟨row, hpc, rfl | ⟨job, hstaged, rfl⟩⟩ := take_cases hstep
      · exact h.goto fun _ _ hpc => nomatch hpc
      · refine h.goto ?_
        intro r job' hhand
        injection hhand with hr hjob
        subst hr hjob
        obtain ⟨hrow, htable⟩ := hnumbered.staged row job hstaged
        refine ⟨hrow, ?_⟩
        -- a job is staged, so the pass that takes it runs on the wall's own table
        rcases hnumbered.window (by rw [hpc]; trivial) with hsame | hunseen
        · rw [htable, hnumbered.table hsame]
        · rw [hunseen.staged row] at hstaged
          cases hstaged
  | start updating nowMs =>
      obtain ⟨row, job, hpc, ⟨detail, rfl⟩ | ⟨l, hl, rfl⟩⟩ := startJob_cases hstep
      · exact h.goto fun _ _ hpc => nomatch hpc
      · exact h.started hsound hpc hl
  | endTakes =>
      obtain ⟨row, _, rfl⟩ := endTakes_cases hstep
      exact h.goto fun _ _ hpc => nomatch hpc
  | tick H nowMs =>
      obtain ⟨_, l, _, rfl⟩ := tick_cases hstep
      exact h.called l id
  | tell H c =>
      obtain ⟨_, _, _, l, _, rfl⟩ := tell_cases hstep
      exact h.called l id
  | publish row =>
      obtain ⟨_, _, rfl⟩ := publish_cases hstep
      exact h
  | endPass =>
      obtain ⟨_, _, rfl⟩ := endPass_cases hstep
      exact h.goto fun _ _ hpc => nomatch hpc
  | effect =>
      obtain ⟨e, rest, htodo, rfl⟩ := effect_cases hstep
      exact h.popped hsound htodo

/-! ## §4. A number that comes round. -/

/-- The wall after its table was changed to the same one again and again,
until its number is what it was. -/
def turned (s : Wall) (table : WallRowsTable) : Wall :=
  { s with
    state := { s.state with
      rows := table
      link := fun _ => {}
      staged := fun _ => none
      jobsStaged := 0 } }

omit [Nanopb] in
/-- With no job anywhere, a change of the table ends none. -/
theorem setRows_idle {w : WallState} (hidle : ∀ i, WallOps.running (w.ops.ops i) = false)
    (hstaged : ∀ r, w.staged r = none) (hcount : w.jobsStaged = 0) (table : WallRowsTable) :
    w.wallStateSetRows table =
      ([], { w with
        rows := table
        generation := w.generation + 1
        link := fun _ => {}
        staged := fun _ => none
        jobsStaged := 0 }) := by
  have hnone : ((List.finRange WALL_LINK_MAX_ROWS).countP fun i => (w.staged i).isSome) = 0 := by
    rw [List.countP_eq_zero]
    intro r _
    rw [hstaged r]
    exact Bool.false_ne_true
  unfold WallState.wallStateSetRows
  rw [WallOps.failJobs_idle hidle, hnone, hcount]
  rfl

theorem run_setRows (table : WallRowsTable) (n : Nat) :
    ∀ s : Wall, (∀ i, WallOps.running (s.state.ops.ops i) = false) →
      (∀ r, s.state.staged r = none) → s.state.jobsStaged = 0 →
      run Wall.step s (List.replicate (n + 1) (.setRows table)) =
        some { s.turned table with
          state := { (s.turned table).state with
            generation := s.state.generation + UInt32.ofNat (n + 1) } } := by
  have hone : ∀ s : Wall, (∀ i, WallOps.running (s.state.ops.ops i) = false) →
      (∀ r, s.state.staged r = none) → s.state.jobsStaged = 0 →
      s.step (.setRows table) =
        some { s.turned table with
          state := { (s.turned table).state with generation := s.state.generation + 1 } } := by
    intro s hidle hstaged hcount
    show some (s.after (s.state.wallStateSetRows table)) = _
    rw [setRows_idle hidle hstaged hcount]
    simp [after, turned]
  induction n with
  | zero =>
      intro s hidle hstaged hcount
      rw [List.replicate_one, run_cons, hone s hidle hstaged hcount]
      rfl
  | succ n ih =>
      intro s hidle hstaged hcount
      rw [List.replicate_succ, run_cons, hone s hidle hstaged hcount, Option.bind_some]
      rw [ih { s.turned table with
        state := { (s.turned table).state with generation := s.state.generation + 1 } }
        hidle (fun _ => rfl) rfl]
      have hnumber : s.state.generation + 1 + UInt32.ofNat (n + 1) =
          s.state.generation + UInt32.ofNat (n + 1 + 1) := by
        rw [UInt32.add_assoc, UInt32.add_comm 1, ← UInt32.ofNat_one, ← UInt32.ofNat_add]
      simp only [turned, hnumber]

/-- After 2^32 changes the number is the old one again. -/
theorem run_round (table : WallRowsTable) {s : Wall}
    (hidle : ∀ i, WallOps.running (s.state.ops.ops i) = false)
    (hstaged : ∀ r, s.state.staged r = none) (hcount : s.state.jobsStaged = 0) :
    run Wall.step s (List.replicate (4294967295 + 1) (.setRows table)) = some (s.turned table) := by
  rw [run_setRows table 4294967295 s hidle hstaged hcount]
  have hround : s.state.generation + UInt32.ofNat (4294967295 + 1) = s.state.generation := by
    rw [show UInt32.ofNat (4294967295 + 1) = 0 from by decide, UInt32.add_zero]
  rw [hround]
  rfl

/-! ## §5. Every run. -/

theorem numbered_start (rows : WallRowsTable) : (Wall.start rows).Numbered :=
  ⟨Nat.le_refl _, fun _ => rfl, fun _ _ h => (nomatch h), fun _ _ h => (nomatch h), fun h => h.elim⟩

theorem routed_start (rows : WallRowsTable) :
    Routed (Wall.start rows).link (Wall.start rows).written := by
  refine ⟨fun _ _ h => (nomatch h), ?_, fun _ h => (nomatch h)⟩
  intro r op h
  cases h

/-- **A staged job is written to no other board than the one it was asked
for**: in every run where jobs are staged for rows their starters saw connected
since they read the table's number, a job goes to the connection of the board
at its row's index in the table it was staged against. -/
theorem staged_jobs_go_home (rows : WallRowsTable) (turns : List Turn) (s : Wall)
    (hmeets : AllMeet (fun s a => s.seenRow a = true) Wall.step (Wall.start rows) turns)
    (hrun : run Wall.step (Wall.start rows) turns = some s) :
    ∀ w ∈ s.written, ∃ job id, w.job = some job ∧ job.op = w.op ∧ job.row = w.row ∧
      w.behind = some id ∧ boardAt job.table job.row = some id := by
  have hkeeps : s.Numbered ∧ s.link.Sound ∧ Routed s.link s.written := by
    refine run_invariant_of_meets
      (P := fun s => s.Numbered ∧ s.link.Sound ∧ Routed s.link s.written) ?_
      ⟨numbered_start rows, sound_start rows, routed_start rows⟩ hmeets hrun
    rintro a turn b ⟨hnumbered, hsound, hrouted⟩ hok hstep
    exact ⟨hnumbered.step hok hstep, step_sound hsound hstep,
      hrouted.step hnumbered hsound hstep⟩
  exact hkeeps.2.2.written

end Staged

/-! ## §6. Jobs of a new table that the old one's board is handed. -/

section Runs

local instance stagedCodec : Nanopb := Codec.nanopb

/-- The wall of row `r01`, and of row `r02`. -/
def oneBoard : WallRowsTable := { rows := [{ id := [114, 48, 49] }] }
def otherBoard : WallRowsTable := { rows := [{ id := [114, 48, 50] }] }

/-- `r01` connects. -/
def joinTurns : List Turn :=
  [.check, .call (.obliging []) (.accept 0), .effect,
    .call (.obliging []) (.bytes 0 [11, 10, 9, 8, 1, 18, 3, 114, 48, 49, 32, 7] 1),
    .effect, .effect, .effect, .effect, .effect]

/-- The rest of a pass without a job. -/
def idleTurns : List Turn :=
  [.beginTakes, .lookStaged, .endTakes, .tick (.obliging []) 2]

/-- The takes of a pass with one, and its write. -/
def handTurns : List Turn :=
  [.lookStaged, .take, .start false 4, .endTakes, .tick (.obliging []) 5, .effect]

def homeOp : WlOp := { opcode := .home, address := 1 }

/-- A starter that works with the table's number of now, and has seen which
rows are connected. -/
def startTurns : List Turn := [.look 0, .see 0, .jobBegin 0 0 homeOp "home"]

theorem staged_jobs_go_home_seen :
    ∃ s : Wall, run Wall.step (Wall.start oneBoard)
        (joinTurns ++ idleTurns ++ [.publish 0, .endPass] ++ startTurns ++
          [.jobStage 0, .check, .beginTakes] ++ handTurns) = some s ∧
      s.written.length = 1 ∧
      ∀ w ∈ s.written, ∃ job id, w.job = some job ∧ job.op = w.op ∧ job.row = w.row ∧
        w.behind = some id ∧ boardAt job.table job.row = some id := by
  have hmeets : AllMeet (fun s a => s.seenRow a = true) Wall.step (Wall.start oneBoard)
      (joinTurns ++ idleTurns ++ [.publish 0, .endPass] ++ startTurns ++
        [.jobStage 0, .check, .beginTakes] ++ handTurns) :=
    AllMeet.of_allMeet (by decide +kernel)
  have hwritten : (run Wall.step (Wall.start oneBoard)
      (joinTurns ++ idleTurns ++ [.publish 0, .endPass] ++ startTurns ++
        [.jobStage 0, .check, .beginTakes] ++ handTurns)).map (·.written.length) = some 1 := by
    decide +kernel
  rw [Option.map_eq_some_iff] at hwritten
  obtain ⟨s, hrun, hlength⟩ := hwritten
  exact ⟨s, hrun, hlength, staged_jobs_go_home oneBoard _ s hmeets hrun⟩

/-- Has a job been written to another board than it was asked for? -/
def strayed (s : Wall) : Bool := s.written.any fun w => w.askedFor ≠ w.behind

theorem strayed_iff {s : Wall} : s.strayed = true ↔ ∃ w ∈ s.written, w.askedFor ≠ w.behind := by
  simp [strayed]

/-- No job anywhere, computed. -/
def jobless (s : Wall) : Bool :=
  ((List.finRange WALL_OPS_KEPT).all fun i => !WallOps.running (s.state.ops.ops i)) &&
    ((List.finRange WALL_LINK_MAX_ROWS).all fun r => (s.state.staged r).isNone) &&
    s.state.jobsStaged = 0

/-- The task has seen row 0 under the number that is the wall's. -/
def hasSeen (s : Wall) (task : Nat) : Bool :=
  match s.tasks task with
  | some t => t.seen 0 && t.generation = s.state.generation
  | none => false

/-- **A job that is staged for no row its starter saw, or under a number that
came round, is written to another board.**  The first: the table is changed,
and a job staged against the new one, between the comparison of a pass and its
take.  The second: 2^32 changes, the link task publishes the row as connected,
a starter reads the number, sees the row and stages. -/
theorem staged_jobs_stray :
    (∃ s : Wall, run Wall.step (Wall.start oneBoard)
        (joinTurns ++ [.beginTakes, .setRows otherBoard] ++ startTurns ++ [.jobStage 0] ++
          handTurns) = some s ∧
      ∃ w ∈ s.written, w.askedFor ≠ w.behind) ∧
    ∃ m s : Wall,
      run Wall.step (Wall.start oneBoard)
        (joinTurns ++ idleTurns ++ List.replicate (4294967295 + 1) (.setRows otherBoard) ++
          [.publish 0, .endPass] ++ startTurns) = some m ∧
      m.hasSeen 0 = true ∧
      run Wall.step m ([.jobStage 0, .check, .beginTakes] ++ handTurns) = some s ∧
      ∃ w ∈ s.written, w.askedFor ≠ w.behind := by
  constructor
  · have hstrayed : (run Wall.step (Wall.start oneBoard)
        (joinTurns ++ [.beginTakes, .setRows otherBoard] ++ startTurns ++ [.jobStage 0] ++
          handTurns)).map strayed = some true := by decide +kernel
    obtain ⟨s, hrun, hs⟩ := Option.map_eq_some_iff.mp hstrayed
    exact ⟨s, hrun, strayed_iff.mp hs⟩
  · have hjobless : (run Wall.step (Wall.start oneBoard) (joinTurns ++ idleTurns)).map jobless =
        some true := by decide +kernel
    obtain ⟨s₀, hrun₀, hs₀⟩ := Option.map_eq_some_iff.mp hjobless
    simp only [jobless, Bool.and_eq_true, List.all_eq_true, Bool.not_eq_true',
      Option.isNone_iff_eq_none, decide_eq_true_eq] at hs₀
    have hround := run_round otherBoard (fun i => hs₀.1.1 i (List.mem_finRange i))
      (fun r => hs₀.1.2 r (List.mem_finRange r)) hs₀.2
    -- from here on the run is a short one again, with the number it began with
    have hseen : ((run Wall.step (Wall.start oneBoard) (joinTurns ++ idleTurns)).bind fun s =>
        run Wall.step (s.turned otherBoard) ([.publish 0, .endPass] ++ startTurns)).map
          (·.hasSeen 0) = some true := by decide +kernel
    have hstrayed : (((run Wall.step (Wall.start oneBoard) (joinTurns ++ idleTurns)).bind fun s =>
        run Wall.step (s.turned otherBoard) ([.publish 0, .endPass] ++ startTurns)).bind fun m =>
          run Wall.step m ([.jobStage 0, .check, .beginTakes] ++ handTurns)).map strayed =
        some true := by decide +kernel
    rw [hrun₀, Option.bind_some] at hseen hstrayed
    obtain ⟨m, hm, hmseen⟩ := Option.map_eq_some_iff.mp hseen
    rw [hm, Option.bind_some] at hstrayed
    obtain ⟨s, hs, hsstrayed⟩ := Option.map_eq_some_iff.mp hstrayed
    refine ⟨m, s, ?_, hmseen, hs, strayed_iff.mp hsstrayed⟩
    rw [List.append_assoc, run_append, run_append, hrun₀, Option.bind_some, hround,
      Option.bind_some]
    exact hm

end Runs

end Wall

end SplitFlap
