/-
  SplitFlap.Wall.EndedJobs — a job that has ended is not handed over any more.

  A job is with one holder at a time: the task that began it, the staged slot
  of its row, the link task's hand, the core's slot (`Holds`).  What may still
  be written from there must not have ended (`Live`); each end of a job finds
  it with a holder that then lets go of it.

  Two ends do not: the restart of a row fails a job that is staged for it, or
  about to be, and leaves it there; a changed table fails the jobs that the
  pass has taken and is about to write.  `endsAlone` says when they do no harm.
-/
import SplitFlap.Wall.StagedJobs

namespace SplitFlap

namespace Wall

open Link Machine Trace Log

section Ended

variable [Nanopb]

/-! ## §1. Who has a job. -/

inductive Holder where
  | begun (task : Nat)
  | staged (row : RowIx)
  | hand
  | slot (row : RowIx)
  | other
  deriving DecidableEq

/-- Who has a job of a row board, and on which row. -/
def HoldsOn (s : Wall) (id : UInt32) (row : RowIx) : Holder → Prop
  | .begun i => ∃ t job, s.tasks i = some t ∧ t.job = some job ∧ job.op.opId = id ∧ job.row = row
  | .staged r => ∃ job, s.state.staged r = some job ∧ job.op.opId = id ∧ r = row
  | .hand => ∃ job, s.link.pc = .inHand row job ∧ job.op.opId = id
  | .slot r => ∃ q op, accepts jobStep .idle (jobLog r s.link.said) = some q ∧ q.holds op ∧
      op.opId = id ∧ r = row
  | .other => False

def Holds (s : Wall) (id : UInt32) (h : Holder) : Prop :=
  h = .other ∧ id ∈ s.others ∨ ∃ row, s.HoldsOn id row h

/-- The link task may still write row `r`'s waiting job in this pass, or has
and the write is to come, or its table is the wall's. -/
def MayWrite (s : Wall) (r : RowIx) : Prop :=
  s.link.pc.window ∧ (s.link.core.rows r).job.stage = .waiting ∨
    (∃ e ∈ s.link.todo, e.hands = true) ∨
    s.link.rowsGeneration = s.state.generation

/-- A job that may still be written, and whoever has it. -/
def Live (s : Wall) (id : UInt32) (row : RowIx) : Holder → Prop
  | .begun i => ∃ t job, s.tasks i = some t ∧ t.job = some job ∧ job.op.opId = id ∧
      job.row = row ∧ t.generation = s.state.generation ∧ job.refused = false
  | .slot r => ∃ op, accepts jobStep .idle (jobLog r s.link.said) = some (.waiting op) ∧
      op.opId = id ∧ r = row ∧ s.MayWrite r
  | h => s.HoldsOn id row h

theorem Live.holds {s : Wall} {id : UInt32} {row : RowIx} {h : Holder} (hlive : s.Live id row h) :
    s.HoldsOn id row h := by
  cases h with
  | begun i =>
      obtain ⟨t, job, ht, hjob, hid, hrow, _⟩ := hlive
      exact ⟨t, job, ht, hjob, hid, hrow⟩
  | slot r =>
      obtain ⟨op, hlife, hid, hrow, _⟩ := hlive
      exact ⟨_, op, hlife, .inl rfl, hid, hrow⟩
  | staged r => exact hlive
  | hand => exact hlive
  | other => exact hlive

/-- Each job is with one holder, on the row it is listed on, and what may still
be written has not ended. -/
structure Tracked (s : Wall) : Prop where
  alone : ∀ id h h', s.Holds id h → s.Holds id h' → h = h'
  onRow : ∀ id row h, s.HoldsOn id row h → s.state.ops.OnRow id row.val
  known : ∀ id h, s.Holds id h → id.toNat < s.state.ops.nextId.toNat
  counted : s.state.ops.Counted
  inEnded : s.state.ops.OverIn s.ended
  endedKnown : ∀ id ∈ s.ended, id.toNat < s.state.ops.nextId.toNat
  live : ∀ id row h, s.Live id row h → id ∉ s.ended
  pass : s.link.rowsGeneration.toNat ≤ s.state.generation.toNat
  tasks : ∀ i t, s.tasks i = some t → t.generation.toNat ≤ s.state.generation.toNat

/-- When the two ends that leave a job where it is end none that may still be
written, and no count comes round. -/
def EndsAlone (s : Wall) : Turn → Prop
  | .jobBegin .. | .opBegin .. => s.state.ops.nextId.toNat + 1 < 4294967296
  | .setRows _ =>
      s.state.generation.toNat + 1 < 4294967296 ∧
        (∀ r job, s.link.pc ≠ .inHand r job) ∧
        (s.link.pc.window → ∀ r, (s.link.core.rows r).job.stage ≠ .waiting) ∧
        ∀ e ∈ s.link.todo, e.hands = false
  | .effect => ∀ conn r hello rest, s.link.todo = .rowHello conn r hello true :: rest →
      s.state.staged r = none ∧
        ∀ i t job, s.tasks i = some t → t.job = some job → job.row = r →
          t.generation = s.state.generation → job.refused = true
  | _ => True

/-! ## §2. Steps that end nothing. -/

variable {s s' : Wall}

/-- A step that begins and ends no job: each holder has what one holder had
before, and what may be written could be written there. -/
theorem Tracked.of_back (h : s.Tracked) (f : Holder → Holder)
    (hback : ∀ id row a, s'.HoldsOn id row a → s.HoldsOn id row (f a))
    (hlive : ∀ id row a, s'.Live id row a → s.Live id row (f a))
    (hinj : ∀ id row row' a b, s'.HoldsOn id row a → s'.HoldsOn id row' b → f a = f b → a = b)
    (hother : s'.others = s.others) (hops : s'.state.ops = s.state.ops)
    (hended : s'.ended = s.ended)
    (hpass : s'.link.rowsGeneration.toNat ≤ s'.state.generation.toNat)
    (htasks : ∀ i t, s'.tasks i = some t → t.generation.toNat ≤ s'.state.generation.toNat) :
    s'.Tracked := by
  have hno : ∀ id row a, s.HoldsOn id row a → s.Holds id a := fun id row a ha => .inr ⟨row, ha⟩
  refine ⟨?_, ?_, ?_, ?_, ?_, ?_, ?_, hpass, htasks⟩
  · rintro id a b (⟨rfl, ha⟩ | ⟨row, ha⟩) (⟨rfl, hb⟩ | ⟨row', hb⟩)
    · rfl
    · rw [hother] at ha
      have hsame := h.alone id _ _ (.inl ⟨rfl, ha⟩) (hno id row' _ (hback id row' b hb))
      have hfalse := hback id row' b hb
      rw [← hsame] at hfalse
      exact hfalse.elim
    · rw [hother] at hb
      have hsame := h.alone id _ _ (hno id row _ (hback id row a ha)) (.inl ⟨rfl, hb⟩)
      have hfalse := hback id row a ha
      rw [hsame] at hfalse
      exact hfalse.elim
    · exact hinj id row row' a b ha hb
        (h.alone id _ _ (hno id row _ (hback id row a ha)) (hno id row' _ (hback id row' b hb)))
  · intro id row a ha
    rw [hops]
    exact h.onRow id row _ (hback id row a ha)
  · rintro id a (⟨rfl, ha⟩ | ⟨row, ha⟩)
    · rw [hops]
      rw [hother] at ha
      exact h.known id _ (.inl ⟨rfl, ha⟩)
    · rw [hops]
      exact h.known id _ (hno id row _ (hback id row a ha))
  · rw [hops]
    exact h.counted
  · rw [hops, hended]
    exact h.inEnded
  · rw [hops, hended]
    exact h.endedKnown
  · intro id row a ha
    rw [hended]
    exact h.live id row _ (hlive id row a ha)

/-- The link task goes on, with the same job in hand or none. -/
theorem Tracked.moved (h : s.Tracked) {link : LinkTask} {written : List Written}
    (hsaid : link.said = s.link.said) (hnumber : link.rowsGeneration = s.link.rowsGeneration)
    (hhand : ∀ r job, link.pc = .inHand r job → s.link.pc = .inHand r job)
    (hmay : ∀ r op, accepts jobStep .idle (jobLog r s.link.said) = some (.waiting op) →
      ({ s with link := link, written := written } : Wall).MayWrite r → s.MayWrite r) :
    ({ s with link := link, written := written } : Wall).Tracked := by
  have hback : ∀ id row a, ({ s with link := link, written := written } : Wall).HoldsOn id row a →
      s.HoldsOn id row a := by
    intro id row a ha
    cases a with
    | begun i => exact ha
    | staged r => exact ha
    | hand =>
        obtain ⟨job, hpc, hid⟩ := ha
        exact ⟨job, hhand row job hpc, hid⟩
    | slot r =>
        obtain ⟨q, op, hlife, hrest⟩ := ha
        refine ⟨q, op, ?_, hrest⟩
        rw [← hsaid]
        exact hlife
    | other => exact ha
  refine h.of_back id hback ?_ (fun _ _ _ _ _ _ _ hab => hab) rfl rfl rfl ?_ h.tasks
  · intro id row a ha
    cases a with
    | begun i => exact ha
    | staged r => exact ha
    | hand => exact hback id row .hand ha
    | slot r =>
        obtain ⟨op, hlife, hid, hrow, hmay'⟩ := ha
        have hlife' : accepts jobStep .idle (jobLog r s.link.said) = some (.waiting op) := by
          rw [← hsaid]
          exact hlife
        exact ⟨op, hlife', hid, hrow, hmay r op hlife' hmay'⟩
    | other => exact ha
  · show link.rowsGeneration.toNat ≤ _
    rw [hnumber]
    exact h.pass

/-- The link task turns to another point of its pass. -/
theorem Tracked.goto (h : s.Tracked) (hsound : s.link.Sound) (htodo : s.link.todo = []) {pc : Pc}
    (hhand : ∀ r job, pc ≠ .inHand r job)
    (hwindow : pc.window → s.link.pc.window ∨ s.link.rowsGeneration = s.state.generation) :
    (s.goto pc).Tracked := by
  refine h.moved rfl rfl (fun r job hpc => absurd hpc (hhand r job)) ?_
  intro r op hwaits hmay
  rcases hmay with ⟨hw, _⟩ | ⟨e, he, _⟩ | hsame
  · rcases hwindow hw with hw | hsame
    · exact .inl ⟨hw, (hsound.slot_waiting htodo hwaits).1⟩
    · exact .inr (.inr hsame)
  · replace he : e ∈ s.link.todo := he
    rw [htodo] at he
    cases he
  · exact .inr (.inr hsame)

/-- A call of the core in a pass that is still to write what waits, or one
that writes no job. -/
theorem Tracked.called (h : s.Tracked) (hsound : s.link.Sound) (htodo : s.link.todo = [])
    {l : Link} {pc : Pc} (hhand : ∀ r job, pc ≠ .inHand r job)
    (hwindow : s.link.pc.window ∨ ¬pc.window ∧
      ∃ said, l.log = s.link.whole.log ++ said ∧ ∀ e ∈ said, e.hands = false) :
    ({ s with link := s.link.called l pc } : Wall).Tracked := by
  have hmoved := @Tracked.moved _ s h (s.link.called l pc) s.written
  refine hmoved rfl rfl (fun r job hpc => absurd hpc (hhand r job)) ?_
  intro r op hwaits hmay
  rcases hwindow with hw | ⟨hw, said, hlog, hsaid⟩
  · exact .inl ⟨hw, (hsound.slot_waiting htodo hwaits).1⟩
  · rcases hmay with ⟨hpc, _⟩ | ⟨e, he, hhands⟩ | hsame
    · exact absurd hpc hw
    · replace he : e ∈ l.log.drop s.link.said.length := he
      have hwhole : s.link.whole.log = s.link.said := by
        show s.link.said ++ s.link.todo = _
        rw [htodo, List.append_nil]
      rw [hlog, hwhole, List.drop_left] at he
      rw [hsaid e he] at hhands
      cases hhands
    · exact .inr (.inr hsame)

/-- A fresh table, after a reset. -/
theorem Tracked.tabled (h : s.Tracked) (hsound : s.link.Sound) (hpc : s.link.pc = .stale)
    (htodo : s.link.todo = []) (table : WallRowsTable) :
    ({ s with link := { s.link with
      rowsTable := table, rowsGeneration := s.state.generation, pc := .reading } } :
        Wall).Tracked := by
  refine h.of_back id ?_ ?_ (fun _ _ _ _ _ _ _ hab => hab) rfl rfl rfl (Nat.le_refl _) h.tasks
  · intro id row a ha
    cases a with
    | hand =>
        obtain ⟨job, hjob, _⟩ := ha
        cases hjob
    | _ => exact ha
  · intro id row a ha
    cases a with
    | hand =>
        obtain ⟨job, hjob, _⟩ := ha
        cases hjob
    | slot r =>
        obtain ⟨op, hlife, _⟩ := ha
        have hstage := (hsound.slot_waiting htodo hlife).1
        rw [(hsound.forgotten hpc).2.1 r] at hstage
        cases hstage
    | begun i => exact ha
    | staged r => exact ha
    | other => exact ha

/-- A task's values change, and it gets no job. -/
theorem Tracked.setTask (h : s.Tracked) {i : Nat} {t' : Task}
    (hjob : ∀ job', t'.job = some job' → ∃ t job, s.tasks i = some t ∧ t.job = some job ∧
      job'.op = job.op ∧ job'.row = job.row ∧
      (job'.refused = false → job.refused = false ∧ t'.generation = t.generation))
    (hnumber : t'.generation.toNat ≤ s.state.generation.toNat) : (s.setTask i t').Tracked := by
  have hold : ∀ j t, Function.update s.tasks i (some t') j = some t →
      (j = i ∧ t = t') ∨ (j ≠ i ∧ s.tasks j = some t) := by
    intro j t ht
    by_cases hj : j = i
    · subst hj
      rw [Function.update_self, Option.some.injEq] at ht
      exact .inl ⟨rfl, ht.symm⟩
    · rw [Function.update_of_ne hj] at ht
      exact .inr ⟨hj, ht⟩
  refine h.of_back id ?_ ?_ (fun _ _ _ _ _ _ _ hab => hab) rfl rfl rfl h.pass ?_
  · intro id row a ha
    cases a with
    | begun j =>
        obtain ⟨t, job, ht, htjob, hid, hrow⟩ := ha
        rcases hold j t ht with ⟨rfl, rfl⟩ | ⟨_, ht⟩
        · obtain ⟨t₀, job₀, ht₀, hjob₀, hop, hrow₀, _⟩ := hjob job htjob
          exact ⟨t₀, job₀, ht₀, hjob₀, by rw [← hop]; exact hid, hrow₀.symm.trans hrow⟩
        · exact ⟨t, job, ht, htjob, hid, hrow⟩
    | _ => exact ha
  · intro id row a ha
    cases a with
    | begun j =>
        obtain ⟨t, job, ht, htjob, hid, hrow, hsame, hrefused⟩ := ha
        rcases hold j t ht with ⟨rfl, rfl⟩ | ⟨_, ht⟩
        · obtain ⟨t₀, job₀, ht₀, hjob₀, hop, hrow₀, hkeeps⟩ := hjob job htjob
          obtain ⟨hrefused₀, hsame₀⟩ := hkeeps hrefused
          exact ⟨t₀, job₀, ht₀, hjob₀, by rw [← hop]; exact hid, hrow₀.symm.trans hrow,
            hsame₀.symm.trans hsame, hrefused₀⟩
        · exact ⟨t, job, ht, htjob, hid, hrow, hsame, hrefused⟩
    | staged r => exact ha
    | hand => exact ha
    | slot r => exact ha
    | other => exact ha
  · intro j t ht
    rcases hold j t ht with ⟨_, rfl⟩ | ⟨_, ht⟩
    · exact hnumber
    · exact h.tasks j t ht

/-! ## §3. A job goes from one holder to the next. -/

/-- What `new` has in the end `old` had before, and has no more. -/
theorem Tracked.passed (h : s.Tracked) (old new : Holder)
    (hgone : ∀ id row, ¬s'.HoldsOn id row old)
    (hnew : ∀ id row, s'.HoldsOn id row new → s.Live id row old)
    (hrest : ∀ id row a, a ≠ old → a ≠ new → s'.HoldsOn id row a → s.HoldsOn id row a)
    (hlive : ∀ id row a, a ≠ old → a ≠ new → s'.Live id row a → s.Live id row a)
    (hother : s'.others = s.others) (hops : s'.state.ops = s.state.ops)
    (hended : s'.ended = s.ended)
    (hpass : s'.link.rowsGeneration.toNat ≤ s'.state.generation.toNat)
    (htasks : ∀ i t, s'.tasks i = some t → t.generation.toNat ≤ s'.state.generation.toNat) :
    s'.Tracked := by
  have hnotold : ∀ id row a, s'.HoldsOn id row a → a ≠ old := by
    rintro id row a ha rfl
    exact hgone id row ha
  refine h.of_back (fun a => if a = new then old else a) ?_ ?_ ?_ hother hops hended hpass htasks
  · intro id row a ha
    by_cases hanew : a = new
    · subst hanew
      rw [if_pos rfl]
      exact (hnew id row ha).holds
    · rw [if_neg hanew]
      exact hrest id row a (hnotold id row a ha) hanew ha
  · intro id row a ha
    by_cases hanew : a = new
    · subst hanew
      rw [if_pos rfl]
      exact hnew id row ha.holds
    · rw [if_neg hanew]
      exact hlive id row a (hnotold id row a ha.holds) hanew ha
  · intro id row row' a b ha hb hab
    by_cases hanew : a = new
    · by_cases hbnew : b = new
      · rw [hanew, hbnew]
      · rw [if_pos hanew, if_neg hbnew] at hab
        exact absurd hab.symm (hnotold id row' b hb)
    · by_cases hbnew : b = new
      · rw [if_neg hanew, if_pos hbnew] at hab
        exact absurd hab (hnotold id row a ha)
      · rw [if_neg hanew, if_neg hbnew] at hab
        exact hab

/-- From the task that began it to the staged slot. -/
theorem Tracked.stage (h : s.Tracked) {i : Nat} {t : Task} {job : BegunJob}
    (ht : s.tasks i = some t) (hjob : t.job = some job) (hrefused : job.refused = false)
    (hsame : t.generation = s.state.generation) (table : WallRowsTable) (n : Int) :
    (({ s with state := { s.state with
      staged := Function.update s.state.staged job.row
        (some { row := job.row, op := job.op, table := table })
      jobsStaged := n } } : Wall).setTask i { t with job := none }).Tracked := by
  have htask : ∀ j t', Function.update s.tasks i (some { t with job := none }) j = some t' →
      (j = i ∧ t' = { t with job := none }) ∨ (j ≠ i ∧ s.tasks j = some t') := by
    intro j t' ht'
    by_cases hj : j = i
    · subst hj
      rw [Function.update_self, Option.some.injEq] at ht'
      exact .inl ⟨rfl, ht'.symm⟩
    · rw [Function.update_of_ne hj] at ht'
      exact .inr ⟨hj, ht'⟩
  have hbegun : ∀ j t' job', Function.update s.tasks i (some { t with job := none }) j = some t' →
      t'.job = some job' → s.tasks j = some t' := by
    intro j t' job' ht' hjob'
    rcases htask j t' ht' with ⟨_, rfl⟩ | ⟨_, ht'⟩
    · cases hjob'
    · exact ht'
  have hstaged : ∀ r, r ≠ job.row → Function.update s.state.staged job.row
      (some { row := job.row, op := job.op, table := table }) r = s.state.staged r :=
    fun r hr => Function.update_of_ne hr ..
  refine h.passed (.begun i) (.staged job.row) ?_ ?_ ?_ ?_ rfl rfl rfl h.pass ?_
  · rintro id row ⟨t', job', ht', hjob', _⟩
    rcases htask i t' ht' with ⟨_, rfl⟩ | ⟨hne, _⟩
    · cases hjob'
    · exact hne rfl
  · rintro id row ⟨job', hjob', hid, hrow⟩
    replace hjob' : Function.update s.state.staged job.row _ job.row = some job' := hjob'
    rw [Function.update_self, Option.some.injEq] at hjob'
    subst hjob'
    exact ⟨t, job, ht, hjob, hid, hrow, hsame, hrefused⟩
  · intro id row a _ hanew ha
    cases a with
    | begun j =>
        obtain ⟨t', job', ht', hjob', hrest⟩ := ha
        exact ⟨t', job', hbegun j t' job' ht' hjob', hjob', hrest⟩
    | staged r =>
        obtain ⟨job', hjob', hrest⟩ := ha
        replace hjob' : Function.update s.state.staged job.row _ r = some job' := hjob'
        rw [hstaged r fun hr => hanew (by rw [hr])] at hjob'
        exact ⟨job', hjob', hrest⟩
    | hand => exact ha
    | slot r => exact ha
    | other => exact ha
  · intro id row a _ hanew ha
    cases a with
    | begun j =>
        obtain ⟨t', job', ht', hjob', hrest⟩ := ha
        exact ⟨t', job', hbegun j t' job' ht' hjob', hjob', hrest⟩
    | staged r =>
        obtain ⟨job', hjob', hrest⟩ := ha
        replace hjob' : Function.update s.state.staged job.row _ r = some job' := hjob'
        rw [hstaged r fun hr => hanew (by rw [hr])] at hjob'
        exact ⟨job', hjob', hrest⟩
    | hand => exact ha
    | slot r => exact ha
    | other => exact ha
  · intro j t' ht'
    rcases htask j t' ht' with ⟨rfl, rfl⟩ | ⟨_, ht'⟩
    · exact h.tasks j t ht
    · exact h.tasks j t' ht'

/-- From the staged slot to the link task's hand. -/
theorem Tracked.take (h : s.Tracked) (hsound : s.link.Sound) {row : RowIx} {job : StagedJob}
    (hpc : s.link.pc = .locking row) (hstaged : s.state.staged row = some job) (n : Int) :
    (({ s with state := { s.state with
      staged := Function.update s.state.staged row none
      jobsStaged := n } } : Wall).goto (.inHand row job)).Tracked := by
  have htodo : s.link.todo = [] := hsound.quiet (by rw [hpc]; exact .inl trivial)
  have hslot : ∀ r job', Function.update s.state.staged row none r = some job' →
      s.state.staged r = some job' := by
    intro r job' hjob'
    by_cases hr : r = row
    · subst hr
      rw [Function.update_self] at hjob'
      cases hjob'
    · rwa [Function.update_of_ne hr] at hjob'
  refine h.passed (.staged row) .hand ?_ ?_ ?_ ?_ rfl rfl rfl h.pass h.tasks
  · rintro id r ⟨job', hjob', _⟩
    replace hjob' : Function.update s.state.staged row none row = some job' := hjob'
    rw [Function.update_self] at hjob'
    cases hjob'
  · rintro id r ⟨job', hhand, hid⟩
    injection hhand with hr hjob
    subst hr hjob
    exact ⟨job, hstaged, hid, rfl⟩
  · intro id r a _ hanew ha
    cases a with
    | staged r' =>
        obtain ⟨job', hjob', hrest⟩ := ha
        exact ⟨job', hslot r' job' hjob', hrest⟩
    | hand => exact absurd rfl hanew
    | begun j => exact ha
    | slot r' => exact ha
    | other => exact ha
  · intro id r a _ hanew ha
    cases a with
    | staged r' =>
        obtain ⟨job', hjob', hrest⟩ := ha
        exact ⟨job', hslot r' job' hjob', hrest⟩
    | hand => exact absurd rfl hanew
    | begun j => exact ha
    | slot r' =>
        obtain ⟨op, hlife, hid, hr, _⟩ := ha
        refine ⟨op, hlife, hid, hr, .inl ⟨?_, (hsound.slot_waiting htodo hlife).1⟩⟩
        rw [hpc]
        trivial
    | other => exact ha

/-- From the link task's hand to the core's slot. -/
theorem Tracked.start (h : s.Tracked) (hsound : s.link.Sound) {row : RowIx} {job : StagedJob}
    (hpc : s.link.pc = .inHand row job) {nowMs : UInt32} {l : Link}
    (hstart : s.link.whole.startJob row job.op nowMs = (true, l))
    {asked : RowIx → Option StagedJob} {n : Nat} :
    ({ s with link := { s.link with
      core := l.toWallLinkCore, said := l.log, asked := asked, pc := .taking n } } :
        Wall).Tracked := by
  have htodo : s.link.todo = [] := hsound.quiet (by rw [hpc]; exact .inl trivial)
  have hlog := LinkTask.started_log htodo hstart
  have hwindow : s.link.pc.window := by
    rw [hpc]
    trivial
  have hother : ∀ r, r ≠ row → jobLog r l.log = jobLog r s.link.said := by
    intro r hr
    have hview : jobView r (.jobAccepted row job.op) = none := if_neg fun hrow => hr hrow.symm
    rw [hlog, jobLog_snoc, hview, Option.toList_none, List.append_nil]
  refine h.passed .hand (.slot row) ?_ ?_ ?_ ?_ rfl rfl rfl h.pass h.tasks
  · rintro id r ⟨job', hhand, _⟩
    cases hhand
  · rintro id r ⟨q, op, hlife, hop, hid, hr⟩
    subst hr
    refine ⟨job, hpc, ?_⟩
    replace hlife : accepts jobStep .idle (jobLog row l.log) = some q := hlife
    have hview : jobView row (.jobAccepted row job.op) = some (.accepted job.op) := if_pos rfl
    rw [hlog, jobLog_snoc, hview, Option.toList_some, accepts_append,
      Option.bind_eq_some_iff] at hlife
    obtain ⟨a, _, hlife⟩ := hlife
    rw [accepts_cons, Option.bind_eq_some_iff] at hlife
    obtain ⟨b, hb, hlife⟩ := hlife
    injection hlife with hlife
    subst hlife
    rcases jobStep_cases hb with ⟨op', _, he, rfl⟩ | ⟨_, _, he, _⟩ | ⟨_, _, he, _⟩ | ⟨_, _, he, _⟩ |
      ⟨_, _, _, he, _⟩ | ⟨he, _⟩
    · injection he with he
      rcases hop with hop | hop
      · injection hop with hop
        rw [← hid, ← hop, ← he]
      · cases hop
    · cases he
    · cases he
    · cases he
    · cases he
    · rcases he with he | he <;> cases he
  · intro id r a _ hanew ha
    cases a with
    | slot r' =>
        obtain ⟨q, op, hlife, hrest⟩ := ha
        refine ⟨q, op, ?_, hrest⟩
        rw [← hother r' fun hr => hanew (by rw [hr])]
        exact hlife
    | hand =>
        obtain ⟨job', hhand, _⟩ := ha
        cases hhand
    | begun j => exact ha
    | staged r' => exact ha
    | other => exact ha
  · intro id r a _ hanew ha
    cases a with
    | slot r' =>
        obtain ⟨op, hlife, hid, hr, _⟩ := ha
        have hlife' : accepts jobStep .idle (jobLog r' s.link.said) = some (.waiting op) := by
          rw [← hother r' fun hr => hanew (by rw [hr])]
          exact hlife
        exact ⟨op, hlife', hid, hr, .inl ⟨hwindow, (hsound.slot_waiting htodo hlife').1⟩⟩
    | hand =>
        obtain ⟨job', hhand, _⟩ := ha
        cases hhand
    | begun j => exact ha
    | staged r' => exact ha
    | other => exact ha

/-! ## §4. A new job. -/

/-- The table has a new job, of which nobody knows yet. -/
theorem Tracked.startOp (h : s.Tracked) (hroom : s.state.ops.nextId.toNat + 1 < 4294967296)
    {name : String} {row : Int} {unit : UInt8} {id : UInt32} {ops : WallOps}
    (hstart : s.state.ops.start name row unit = (id, ops)) :
    ({ s with state := { s.state with ops := ops } } : Wall).Tracked ∧
      (id ≠ 0 → (∀ a, ¬s.Holds id a) ∧ id ∉ s.ended ∧ ops.OnRow id row ∧
        id.toNat < ops.nextId.toNat) := by
  have hunknown : ∀ row', s.state.ops.OnRow s.state.ops.nextId row' := by
    intro row' i hi
    have hless := h.counted i
    rw [hi] at hless
    exact absurd hless (Nat.lt_irrefl _)
  have honRow := fun {id row'} (hid : s.state.ops.OnRow id row') (hsame : id = s.state.ops.nextId →
      row' = row) => WallOps.start_onRow s.state.ops name row unit hid hsame
  have hcounted := h.counted.start hroom name row unit
  have hover := h.inEnded.start name row unit
  have hgrows : s.state.ops.nextId.toNat ≤ ops.nextId.toNat := by
    rcases WallOps.start_fresh hroom name row unit with hno | ⟨_, hnext⟩
    · rw [hno] at hstart
      injection hstart with _ hops
      rw [← hops]
    · rw [hstart] at hnext
      replace hnext : ops.nextId.toNat = s.state.ops.nextId.toNat + 1 := hnext
      omega
  rw [hstart] at hcounted hover
  constructor
  · refine ⟨h.alone, ?_, fun id a ha => Nat.lt_of_lt_of_le (h.known id a ha) hgrows, hcounted,
      hover, fun id hid => Nat.lt_of_lt_of_le (h.endedKnown id hid) hgrows, h.live, h.pass,
      h.tasks⟩
    intro id' row' a ha
    have hkept := honRow (h.onRow id' row' a ha) fun hid => by
      have hless := h.known id' a (.inr ⟨row', ha⟩)
      rw [hid] at hless
      exact absurd hless (Nat.lt_irrefl _)
    rw [hstart] at hkept
    exact hkept
  · intro hid
    rcases WallOps.start_fresh hroom name row unit with hno | ⟨hnew, hnext⟩
    · rw [hno] at hstart
      injection hstart with hzero _
      exact absurd hzero.symm hid
    · have hon := honRow (hunknown row) fun _ => rfl
      rw [hstart] at hnew hnext hon
      replace hnew : id = s.state.ops.nextId := hnew
      refine ⟨?_, ?_, by rw [hnew]; exact hon, by rw [hnew, hnext]; exact Nat.lt_succ_self _⟩
      · intro a ha
        have hless := h.known id a ha
        rw [hnew] at hless
        exact absurd hless (Nat.lt_irrefl _)
      · intro hmem
        have hless := h.endedKnown id hmem
        rw [hnew] at hless
        exact absurd hless (Nat.lt_irrefl _)

/-- A task has begun a job of its row. -/
theorem Tracked.begun (h : s.Tracked) {i : Nat} {t : Task} (ht : s.tasks i = some t)
    {row : RowIx} {op : WlOp} (hfree : ∀ a, ¬s.Holds op.opId a) (hnot : op.opId ∉ s.ended)
    (honRow : s.state.ops.OnRow op.opId row.val)
    (hknown : op.opId.toNat < s.state.ops.nextId.toNat) :
    (s.setTask i { t with job := some { row := row, op := op } }).Tracked := by
  -- who has a job now had it before, or it is the new one
  have hback : ∀ id r a, (s.setTask i { t with job := some { row := row, op := op } }).HoldsOn id r a →
      (a = .begun i ∧ id = op.opId ∧ r = row) ∨ s.HoldsOn id r a := by
    intro id r a ha
    cases a with
    | begun j =>
        obtain ⟨t', job', ht', hjob', hid, hr⟩ := ha
        replace ht' : Function.update s.tasks i _ j = some t' := ht'
        by_cases hj : j = i
        · subst hj
          rw [Function.update_self, Option.some.injEq] at ht'
          subst ht'
          injection hjob' with hjob'
          subst hjob'
          exact .inl ⟨rfl, hid.symm, hr.symm⟩
        · rw [Function.update_of_ne hj] at ht'
          exact .inr ⟨t', job', ht', hjob', hid, hr⟩
    | staged r' => exact .inr ha
    | hand => exact .inr ha
    | slot r' => exact .inr ha
    | other => exact .inr ha
  have hholds : ∀ id a, (s.setTask i { t with job := some { row := row, op := op } }).Holds id a →
      (a = .begun i ∧ id = op.opId) ∨ s.Holds id a := by
    rintro id a (⟨rfl, ha⟩ | ⟨r, ha⟩)
    · exact .inr (.inl ⟨rfl, ha⟩)
    · rcases hback id r a ha with ⟨ha, hid, _⟩ | ha
      · exact .inl ⟨ha, hid⟩
      · exact .inr (.inr ⟨r, ha⟩)
  refine ⟨?_, ?_, ?_, h.counted, h.inEnded, h.endedKnown, ?_, h.pass, ?_⟩
  · intro id a b ha hb
    rcases hholds id a ha with ⟨rfl, rfl⟩ | ha
    · rcases hholds _ b hb with ⟨rfl, _⟩ | hb
      · rfl
      · exact absurd hb (hfree b)
    · rcases hholds id b hb with ⟨rfl, rfl⟩ | hb
      · exact absurd ha (hfree a)
      · exact h.alone id a b ha hb
  · intro id r a ha
    rcases hback id r a ha with ⟨_, rfl, rfl⟩ | ha
    · exact honRow
    · exact h.onRow id r a ha
  · intro id a ha
    rcases hholds id a ha with ⟨_, rfl⟩ | ha
    · exact hknown
    · exact h.known id a ha
  · intro id r a ha
    rcases hback id r a ha.holds with ⟨_, rfl, _⟩ | hold
    · exact hnot
    · have hne : id ≠ op.opId := by
        rintro rfl
        exact hfree a (.inr ⟨r, hold⟩)
      refine h.live id r a ?_
      cases a with
      | begun j =>
          obtain ⟨t', job', ht', hjob', hid, hrest⟩ := ha
          replace ht' : Function.update s.tasks i _ j = some t' := ht'
          by_cases hj : j = i
          · subst hj
            rw [Function.update_self, Option.some.injEq] at ht'
            subst ht'
            injection hjob' with hjob'
            subst hjob'
            exact absurd hid.symm hne
          · rw [Function.update_of_ne hj] at ht'
            exact ⟨t', job', ht', hjob', hid, hrest⟩
      | staged r' => exact ha
      | hand => exact ha
      | slot r' => exact ha
      | other => exact ha
  · intro j t' ht'
    replace ht' : Function.update s.tasks i _ j = some t' := ht'
    by_cases hj : j = i
    · subst hj
      rw [Function.update_self, Option.some.injEq] at ht'
      rw [← ht']
      exact h.tasks j t ht
    · rw [Function.update_of_ne hj] at ht'
      exact h.tasks j t' ht'

/-- Someone else has begun a job. -/
theorem Tracked.opBegun (h : s.Tracked) {id : UInt32} (hfree : ∀ a, ¬s.Holds id a)
    (hknown : id.toNat < s.state.ops.nextId.toNat) :
    ({ s with others := id :: s.others } : Wall).Tracked := by
  have hholds : ∀ id' a, ({ s with others := id :: s.others } : Wall).Holds id' a →
      (a = .other ∧ id' = id) ∨ s.Holds id' a := by
    rintro id' a (⟨rfl, ha⟩ | ha)
    · rcases List.mem_cons.mp ha with rfl | ha
      · exact .inl ⟨rfl, rfl⟩
      · exact .inr (.inl ⟨rfl, ha⟩)
    · exact .inr (.inr ha)
  refine ⟨?_, h.onRow, ?_, h.counted, h.inEnded, h.endedKnown, h.live, h.pass, h.tasks⟩
  · intro id' a b ha hb
    rcases hholds id' a ha with ⟨rfl, rfl⟩ | ha'
    · rcases hholds _ b hb with ⟨rfl, _⟩ | hb'
      · rfl
      · exact absurd hb' (hfree b)
    · rcases hholds id' b hb with ⟨rfl, rfl⟩ | hb'
      · exact absurd ha' (hfree a)
      · exact h.alone id' a b ha' hb'
  · intro id' a ha
    rcases hholds id' a ha with ⟨_, rfl⟩ | ha
    · exact hknown
    · exact h.known id' a ha

/-! ## §5. Jobs end. -/

/-- Jobs end that nobody may write any more. -/
theorem Tracked.ended (h : s.Tracked) {ends : List WallOp} {ops : WallOps}
    (hsame : WallOps.SameJobs s.state.ops ops) (hover : ops.OverIn (s.ended ++ ends.map (·.id)))
    (hknown : ∀ op ∈ ends, ∃ i, (s.state.ops.ops i).id = op.id)
    (hfree : ∀ op ∈ ends, ∀ row a, ¬s.Live op.id row a) :
    (s.after (ends, { s.state with ops := ops })).Tracked := by
  have hnext : ops.nextId = s.state.ops.nextId := hsame.nextId
  refine ⟨h.alone, fun id row a ha => hsame.onRow (h.onRow id row a ha), ?_,
    hsame.counted h.counted, hover, ?_, ?_, h.pass, h.tasks⟩
  · intro id a ha
    show id.toNat < ops.nextId.toNat
    rw [hnext]
    exact h.known id a ha
  · intro id hid
    show id.toNat < ops.nextId.toNat
    rw [hnext]
    rcases List.mem_append.mp hid with hid | hid
    · exact h.endedKnown id hid
    · obtain ⟨op, hop, rfl⟩ := List.mem_map.mp hid
      obtain ⟨i, hi⟩ := hknown op hop
      rw [← hi]
      exact h.counted i
  · intro id row a ha hid
    rcases List.mem_append.mp hid with hid | hid
    · exact h.live id row a ha hid
    · obtain ⟨op, hop, rfl⟩ := List.mem_map.mp hid
      exact hfree op hop row a ha

/-- `wallOpFinish` of a job that nobody may write any more. -/
theorem Tracked.finished (h : s.Tracked) (id : UInt32) (hfree : ∀ row a, ¬s.Live id row a)
    (ok : Bool) (detail : String) : (s.after (s.state.wallOpFinish id ok detail)).Tracked := by
  have hends : ∀ op ∈ (s.state.ops.finish id ok detail).1.toList, op.id = id ∧
      ∃ i, (s.state.ops.ops i).id = op.id := by
    intro op hop
    rcases WallOps.finish_cases s.state.ops id ok detail with hno | ⟨i, op', hi, hid, _, hyes⟩
    · rw [hno] at hop
      cases hop
    · rw [hyes] at hop
      rw [Option.toList_some, List.mem_singleton] at hop
      subst hop
      exact ⟨hid, i, hi.trans hid.symm⟩
  refine h.ended (WallOps.finish_same s.state.ops id ok detail) ?_ (fun op hop => (hends op hop).2) ?_
  · have hover := h.inEnded.finish id ok detail
    rwa [Option.toList_map] at hover
  · intro op hop row a ha
    rw [(hends op hop).1] at ha
    exact hfree row a ha

/-- `failJobs`, where it picks no job that may still be written. -/
theorem Tracked.failed (h : s.Tracked) {which : WallOp → Bool} (reason : String)
    (hfree : ∀ id row a, s.Live id row a → ∀ op : WallOp, op.id = id → op.row = row.val →
      which op = false) :
    (s.after ((s.state.ops.failJobs which reason).1,
      { s.state with ops := (s.state.ops.failJobs which reason).2 })).Tracked := by
  obtain ⟨hsame, hends⟩ := WallOps.failJobs_spec s.state.ops which reason
  refine h.ended hsame (h.inEnded.failJobs which reason) ?_ ?_
  · intro op hop
    obtain ⟨i, _, hi, _⟩ := hends op hop
    exact ⟨i, hi⟩
  · intro op hop row a ha
    obtain ⟨i, op', hi, hid, hrow, hwhich⟩ := hends op hop
    have honRow := h.onRow op.id row a ha.holds i hi
    have hnot := hfree op.id row a ha op' hid (hrow.trans honRow)
    rw [hwhich] at hnot
    cases hnot

/-- The wall with another table, before the jobs of the old one have failed. -/
def bare (s : Wall) (table : WallRowsTable) : Wall :=
  { s with
    state := { s.state with
      rows := table
      generation := s.state.generation + 1
      link := fun _ => {}
      staged := fun _ => none
      jobsStaged := s.state.jobsStaged - (List.finRange WALL_LINK_MAX_ROWS).countP fun i =>
        (s.state.staged i).isSome } }

/-- A changed table: nothing is staged or can be, and the pass is past its
writes. -/
theorem Tracked.setRows (h : s.Tracked) {table : WallRowsTable}
    (halone : s.EndsAlone (.setRows table)) : (s.after (s.state.wallStateSetRows table)).Tracked := by
  obtain ⟨hroom, hhand, hslots, htodo⟩ := halone
  have hnext : (s.state.generation + 1).toNat = s.state.generation.toNat + 1 :=
    WallOps.count_next hroom
  have hpass := h.pass
  have hdead : ∀ id row a, ¬(s.bare table).Live id row a := by
    intro id row a ha
    cases a with
    | begun i =>
        obtain ⟨t, job, ht, _, _, _, hsame, _⟩ := ha
        have htask := h.tasks i t ht
        replace hsame : t.generation = s.state.generation + 1 := hsame
        rw [hsame, hnext] at htask
        omega
    | staged r =>
        obtain ⟨job, hjob, _⟩ := ha
        cases hjob
    | hand =>
        obtain ⟨job, hjob, _⟩ := ha
        exact hhand row job hjob
    | slot r =>
        obtain ⟨op, hlife, _, _, hmay⟩ := ha
        rcases hmay with ⟨hwindow, hwaits⟩ | ⟨e, he, hhands⟩ | hsame
        · exact hslots hwindow r hwaits
        · rw [htodo e he] at hhands
          cases hhands
        · replace hsame : s.link.rowsGeneration = s.state.generation + 1 := hsame
          rw [hsame, hnext] at hpass
          omega
    | other => exact ha
  have hbare : (s.bare table).Tracked := by
    refine h.of_back id ?_ (fun id row a ha => absurd ha (hdead id row a))
      (fun _ _ _ _ _ _ _ hab => hab) rfl rfl rfl ?_ ?_
    · intro id row a ha
      cases a with
      | staged r =>
          obtain ⟨job, hjob, _⟩ := ha
          cases hjob
      | _ => exact ha
    · show s.link.rowsGeneration.toNat ≤ (s.state.generation + 1).toNat
      omega
    · intro i t ht
      have htask := h.tasks i t ht
      show t.generation.toNat ≤ (s.state.generation + 1).toNat
      omega
  exact hbare.failed _ fun id row a ha => absurd ha (hdead id row a)

/-- An event of the core is done, apart from what its hook does. -/
theorem Tracked.popped (h : s.Tracked) (hsound : s.link.Sound) {e : LinkEvent}
    {rest : List LinkEvent} (htodo : s.link.todo = e :: rest) (written : List Written) :
    ({ s with
      link := { s.link with said := s.link.said ++ [e], todo := rest }
      written := written } : Wall).Tracked := by
  refine h.of_back id ?_ ?_ (fun _ _ _ _ _ _ _ hab => hab) rfl rfl rfl h.pass h.tasks
  · intro id row a ha
    cases a with
    | slot r =>
        obtain ⟨b, op, hlife, hop, hrest⟩ := ha
        obtain ⟨a, ha, hheld⟩ := hsound.held htodo hop hlife
        exact ⟨a, op, ha, hheld, hrest⟩
    | _ => exact ha
  · intro id row a ha
    cases a with
    | slot r =>
        obtain ⟨op, hlife, hid, hrow, hmay⟩ := ha
        refine ⟨op, hsound.waited htodo hlife, hid, hrow, ?_⟩
        rcases hmay with hwindow | ⟨e', he', hhands⟩ | hsame
        · exact .inl hwindow
        · refine .inr (.inl ⟨e', ?_, hhands⟩)
          rw [htodo]
          exact List.mem_cons_of_mem _ he'
        · exact .inr (.inr hsame)
    | begun i => exact ha
    | staged r => exact ha
    | hand => exact ha
    | other => exact ha

/-- A job that its one holder has let go of. -/
theorem Tracked.unheld (h : s.Tracked) {s₁ : Wall} {id : UInt32} (old : Holder)
    (hheld : s.Holds id old) (hback : ∀ row a, s₁.Live id row a → s.HoldsOn id row a)
    (hgone : ∀ row, ¬s₁.Live id row old) : ∀ row a, ¬s₁.Live id row a := by
  intro row a ha
  have hsame := h.alone id _ _ hheld (.inr ⟨row, hback row a ha⟩)
  subst hsame
  exact hgone row ha

/-- Nothing ends. -/
theorem Tracked.unended (h : s.Tracked) : (s.after ([], s.state)).Tracked := by
  refine h.ended (WallOps.SameJobs.rfl' _) ?_ (fun _ hop => nomatch hop) (fun _ hop => nomatch hop)
  rw [List.map_nil, List.append_nil]
  exact h.inEnded

/-- A job whose end the core has told is nobody's any more. -/
theorem Tracked.told (h : s.Tracked) (hsound : s.link.Sound) {e : LinkEvent}
    {rest : List LinkEvent} (htodo : s.link.todo = e :: rest) (written : List Written) (r : RowIx)
    (je : JobEvent) {id : UInt32} (hview : jobView r e = some je)
    (hje : (∃ why, je = .ended id why) ∨ ∃ state, je = .answered state ∧ state.opId = id ∧
      state.phase ≠ .running) :
    ∀ row a, ¬({ s with
      link := { s.link with said := s.link.said ++ [e], todo := rest }
      written := written } : Wall).Live id row a := by
  have hend : je.isEnd = true := by
    rcases hje with ⟨why, rfl⟩ | ⟨state, rfl, _, hphase⟩
    · rfl
    · exact decide_eq_true hphase
  obtain ⟨q, hlife, hstep, hidle⟩ := hsound.closed htodo hview hend
  -- the slot held the job until now, so nobody else has it
  have hheld : ∃ op, q.holds op ∧ op.opId = id := by
    rcases jobStep_cases hstep with ⟨_, _, rfl, _⟩ | ⟨_, _, rfl, _⟩ | ⟨op, rfl, rfl, _⟩ |
      ⟨op, rfl, rfl, _⟩ | ⟨op, state, rfl, rfl, hid, _⟩ | ⟨he, _⟩
    · cases hend
    · cases hend
    · rcases hje with ⟨why, he⟩ | ⟨state, he, _⟩
      · injection he with he
        exact ⟨op, .inl rfl, he⟩
      · cases he
    · rcases hje with ⟨why, he⟩ | ⟨state, he, _⟩
      · injection he with he
        exact ⟨op, .inr rfl, he⟩
      · cases he
    · rcases hje with ⟨why, he⟩ | ⟨state', he, hid', _⟩
      · cases he
      · injection he with he
        subst he
        exact ⟨op, .inr rfl, hid.symm.trans hid'⟩
    · rcases hje with ⟨why, he'⟩ | ⟨state, he', _⟩ <;> rcases he with he | he <;> rw [he] at he' <;>
        cases he'
  obtain ⟨op, hop, hid⟩ := hheld
  refine h.unheld (.slot r) (.inr ⟨r, q, op, hlife, hop, hid, rfl⟩) ?_ ?_
  · intro row a ha
    cases a with
    | slot r' =>
        obtain ⟨op', hlife', hid', hrow, _⟩ := ha
        exact ⟨_, op', hsound.waited htodo hlife', .inl rfl, hid', hrow⟩
    | begun i =>
        have hlive : s.Live id row (.begun i) := ha
        exact hlive.holds
    | staged r' => exact ha
    | hand => exact ha
    | other => exact ha
  · rintro row ⟨op', hlife', _⟩
    replace hlife' : accepts jobStep .idle (jobLog r (s.link.said ++ [e])) = some (.waiting op') :=
      hlife'
    rw [hidle] at hlife'
    cases hlife'

/-- A hook has its effect. -/
theorem Tracked.effect (h : s.Tracked) (hsound : s.link.Sound) {e : LinkEvent}
    {rest : List LinkEvent} (htodo : s.link.todo = e :: rest) (halone : s.EndsAlone .effect)
    {written : List Written} :
    (({ s with
      link := { s.link with said := s.link.said ++ [e], todo := rest }
      written := written } : Wall).after (hookEffect s.state e)).Tracked := by
  have hpopped := h.popped hsound htodo written
  unfold hookEffect
  split
  · next conn row hello =>
      refine hpopped.failed _ ?_
      intro id r a ha op _ hop
      have hne : r ≠ row := by
        rintro rfl
        obtain ⟨hstaged, hbegun⟩ := halone conn r hello rest htodo
        cases a with
        | begun i =>
            obtain ⟨t, job, ht, hjob, _, hrow, hsame, hrefused⟩ := ha
            rw [hbegun i t job ht hjob hrow hsame] at hrefused
            cases hrefused
        | staged r' =>
            obtain ⟨job, hjob, _, rfl⟩ := ha
            replace hjob : s.state.staged r' = some job := hjob
            rw [hstaged] at hjob
            cases hjob
        | hand =>
            obtain ⟨job, hpc, _⟩ := ha
            replace hpc : s.link.pc = .inHand r job := hpc
            have hquiet := hsound.quiet (by rw [hpc]; exact .inl trivial)
            rw [htodo] at hquiet
            cases hquiet
        | slot r' =>
            obtain ⟨op', hlife, _, rfl, _⟩ := ha
            have hview : jobView r' (.rowHello conn r' hello true) = some .restarted := if_pos rfl
            obtain ⟨_, _, _, hidle⟩ := hsound.closed htodo hview rfl
            replace hlife : accepts jobStep .idle
              (jobLog r' (s.link.said ++ [.rowHello conn r' hello true])) =
                some (.waiting op') := hlife
            rw [hidle] at hlife
            cases hlife
        | other => exact ha
      rw [decide_eq_false_iff_not, hop]
      intro hsame
      exact hne (Fin.ext (Int.ofNat.inj hsame))
  · next conn row state =>
      unfold takeOpState
      split
      · exact hpopped.unended
      · next hphase =>
          refine hpopped.finished _ (h.told hsound htodo written row (.answered state) (if_pos rfl)
            (.inr ⟨state, rfl, rfl, ?_⟩)) _ _
          rw [hphase]
          exact fun hp => nomatch hp
      · next hphase =>
          refine hpopped.finished _ (h.told hsound htodo written row (.answered state) (if_pos rfl)
            (.inr ⟨state, rfl, rfl, ?_⟩)) _ _
          rw [hphase]
          exact fun hp => nomatch hp
      · next hrunning _ _ =>
          exact hpopped.finished _ (h.told hsound htodo written row (.answered state) (if_pos rfl)
            (.inr ⟨state, rfl, rfl, hrunning⟩)) _ _
  · next row opId =>
      exact hpopped.finished opId (h.told hsound htodo written row (.ended opId .notHandedOver) (if_pos rfl)
        (.inl ⟨_, rfl⟩)) _ _
  · next row opId =>
      exact hpopped.finished opId (h.told hsound htodo written row (.ended opId .noResult) (if_pos rfl)
        (.inl ⟨_, rfl⟩)) _ _
  · exact hpopped.unended

/-! ## §6. Every turn. -/

/-- The link task turns to another point of its pass and lets go of the job in
hand, which ends. -/
theorem Tracked.handEnded (h : s.Tracked) (hsound : s.link.Sound) {row : RowIx} {job : StagedJob}
    (hpc : s.link.pc = .inHand row job) (detail : String) (n : Nat) :
    ((s.after (s.state.wallOpFinish job.op.opId false detail)).goto (.taking n)).Tracked := by
  have htodo : s.link.todo = [] := hsound.quiet (by rw [hpc]; exact .inl trivial)
  have hgone : (s.goto (.taking n)).Tracked :=
    h.goto hsound htodo (fun _ _ hpc' => nomatch hpc') fun _ => .inl (by rw [hpc]; trivial)
  refine hgone.finished job.op.opId (h.unheld .hand (.inr ⟨row, job, hpc, rfl⟩) ?_ ?_)
    false detail
  · intro r a ha
    cases a with
    | hand =>
        obtain ⟨job', hjob', _⟩ := ha
        cases hjob'
    | slot r' =>
        obtain ⟨op, hlife, hid, hrow, _⟩ := ha
        exact ⟨_, op, hlife, .inl rfl, hid, hrow⟩
    | begun i =>
        have hlive : s.Live job.op.opId r (.begun i) := ha
        exact hlive.holds
    | staged r' => exact ha
    | other => exact ha
  · rintro r ⟨job', hjob', _⟩
    cases hjob'

/-- A task lets go of a job that was not staged. -/
theorem Tracked.gaveUp (h : s.Tracked) {i : Nat} {t : Task} {job : BegunJob}
    (ht : s.tasks i = some t) (hjob : t.job = some job) (detail : String) :
    ((s.after (s.state.wallOpFinish job.op.opId false detail)).setTask i
      { t with job := none }).Tracked := by
  have hgone : (s.setTask i { t with job := none }).Tracked :=
    h.setTask (fun _ hjob' => nomatch hjob') (h.tasks i t ht)
  have hnone : ∀ t', Function.update s.tasks i (some { t with job := none }) i = some t' →
      t'.job = none := by
    intro t' ht'
    rw [Function.update_self, Option.some.injEq] at ht'
    rw [← ht']
  refine hgone.finished job.op.opId
    (h.unheld (.begun i) (.inr ⟨job.row, t, job, ht, hjob, rfl, rfl⟩) ?_ ?_) false detail
  · intro r a ha
    cases a with
    | begun j =>
        obtain ⟨t', job', ht', hjob', hid, hrow, _⟩ := ha
        by_cases hj : j = i
        · subst hj
          rw [hnone t' ht'] at hjob'
          cases hjob'
        · replace ht' : Function.update s.tasks i _ j = some t' := ht'
          rw [Function.update_of_ne hj] at ht'
          exact ⟨t', job', ht', hjob', hid, hrow⟩
    | slot r' =>
        obtain ⟨op, hlife, hid, hrow, _⟩ := ha
        exact ⟨_, op, hlife, .inl rfl, hid, hrow⟩
    | staged r' => exact ha
    | hand => exact ha
    | other => exact ha
  · rintro r ⟨t', job', ht', hjob', _⟩
    rw [hnone t' ht'] at hjob'
    cases hjob'

theorem Tracked.step {a : Turn} (h : s.Tracked) (hsound : s.link.Sound) (halone : s.EndsAlone a)
    (hstep : s.step a = some s') : s'.Tracked := by
  cases a with
  | look task =>
      rw [look_cases hstep]
      exact h.setTask (fun _ hjob => nomatch hjob) (Nat.le_refl _)
  | see task =>
      obtain ⟨t, ht, rfl⟩ := see_cases hstep
      refine h.setTask ?_ (h.tasks task t ht)
      exact fun job hjob => ⟨t, job, ht, hjob, rfl, rfl, fun hrefused => ⟨hrefused, rfl⟩⟩
  | jobBegin task row op name =>
      obtain ⟨t, ht, _, rfl | ⟨id, ops, hstart, hcases⟩⟩ := jobBegin_cases hstep
      · exact h
      · obtain ⟨hstarted, hnew⟩ := h.startOp halone hstart
        rcases hcases with ⟨_, rfl⟩ | ⟨hid, rfl⟩
        · exact hstarted
        · obtain ⟨hfree, hnot, honRow, hknown⟩ := hnew hid
          exact hstarted.begun ht hfree hnot honRow hknown
  | jobStage task =>
      obtain ⟨t, job, ht, hjob, hrefused, ⟨_, hsame, rfl⟩ | rfl⟩ := jobStage_cases hstep
      · exact h.stage ht hjob hrefused hsame _ _
      · refine h.setTask ?_ (h.tasks task t ht)
        intro job' hjob'
        injection hjob' with hjob'
        subst hjob'
        exact ⟨t, job, ht, hjob, rfl, rfl, fun hrefused' => nomatch hrefused'⟩
  | giveUp task =>
      obtain ⟨t, job, ht, hjob, _, rfl⟩ := giveUp_cases hstep
      exact h.gaveUp ht hjob _
  | opBegin name row unit =>
      obtain ⟨id, ops, hstart, hcases⟩ := opBegin_cases hstep
      obtain ⟨hstarted, hnew⟩ := h.startOp halone hstart
      rcases hcases with ⟨_, rfl⟩ | ⟨hid, rfl⟩
      · exact hstarted
      · obtain ⟨hfree, _, _, hknown⟩ := hnew hid
        exact hstarted.opBegun hfree hknown
  | opFinish id ok detail =>
      obtain ⟨hid, rfl⟩ := opFinish_cases hstep
      refine h.finished id ?_ ok detail
      intro row a ha
      have hother := h.alone id .other a (.inl ⟨rfl, hid⟩) (.inr ⟨row, ha.holds⟩)
      rw [← hother] at ha
      exact ha
  | setRows table =>
      rw [setRows_cases hstep]
      exact h.setRows halone
  | check =>
      obtain ⟨hpc, htodo, ⟨hother, rfl⟩ | ⟨hsame, rfl⟩⟩ := check_cases hstep
      · refine h.called hsound htodo (fun _ _ hpc' => nomatch hpc') (.inr ⟨id, ?_⟩)
        obtain ⟨said, hlog, hsaid⟩ := reset_says s.link.whole
        refine ⟨said, hlog, ?_⟩
        intro e he
        rcases hsaid e he with haside | rfl
        · cases e <;> first | rfl | cases haside
        · rfl
      · exact h.goto hsound htodo (fun _ _ hpc' => nomatch hpc') fun _ => .inr hsame.symm
  | readTable =>
      obtain ⟨hpc, htodo, rfl⟩ := readTable_cases hstep
      exact h.tabled hsound hpc htodo _
  | call H c =>
      obtain ⟨hpc, htodo, _, l, _, rfl⟩ := call_cases hstep
      exact h.called hsound htodo (fun _ _ hpc' => nomatch hpc') (.inl (by rw [hpc]; trivial))
  | beginTakes =>
      obtain ⟨hpc, htodo, hgoes⟩ := beginTakes_cases hstep
      have hwindow : s.link.pc.window := by
        rw [hpc]
        trivial
      rcases hgoes with rfl | ⟨_, rfl⟩
      · exact h.goto hsound htodo (fun _ _ hpc' => nomatch hpc') fun _ => .inl hwindow
      · exact h.goto hsound htodo (fun _ _ hpc' => nomatch hpc') fun _ => .inl hwindow
  | lookStaged =>
      obtain ⟨row, hpc, hgoes⟩ := lookStaged_cases hstep
      have hwindow : s.link.pc.window := by
        rw [hpc]
        trivial
      have htodo : s.link.todo = [] := hsound.quiet (by rw [hpc]; exact .inl trivial)
      rcases hgoes with rfl | ⟨r, rfl⟩
      · exact h.goto hsound htodo (fun _ _ hpc' => nomatch hpc') fun _ => .inl hwindow
      · exact h.goto hsound htodo (fun _ _ hpc' => nomatch hpc') fun _ => .inl hwindow
  | take =>
      obtain ⟨row, hpc, rfl | ⟨job, hstaged, rfl⟩⟩ := take_cases hstep
      · have htodo : s.link.todo = [] := hsound.quiet (by rw [hpc]; exact .inl trivial)
        exact h.goto hsound htodo (fun _ _ hpc' => nomatch hpc') fun _ => .inl (by rw [hpc]; trivial)
      · exact h.take hsound hpc hstaged _
  | start updating nowMs =>
      obtain ⟨row, job, hpc, ⟨detail, rfl⟩ | ⟨l, hl, rfl⟩⟩ := startJob_cases hstep
      · exact h.handEnded hsound hpc detail _
      · exact h.start hsound hpc hl
  | endTakes =>
      obtain ⟨row, hpc, rfl⟩ := endTakes_cases hstep
      have htodo : s.link.todo = [] := hsound.quiet (by rw [hpc]; exact .inl trivial)
      exact h.goto hsound htodo (fun _ _ hpc' => nomatch hpc') fun _ => .inl (by rw [hpc]; trivial)
  | tick H nowMs =>
      obtain ⟨hpc, l, _, rfl⟩ := tick_cases hstep
      have htodo : s.link.todo = [] := hsound.quiet (.inr hpc)
      exact h.called hsound htodo (fun _ _ hpc' => nomatch hpc') (.inl (by rw [hpc]; trivial))
  | tell H c =>
      obtain ⟨_, htodo, htells, l, hl, rfl⟩ := tell_cases hstep
      exact h.called hsound htodo (fun _ _ hpc' => nomatch hpc')
        (.inr ⟨id, LinkTask.tells_says htells hl⟩)
  | publish row =>
      obtain ⟨_, _, rfl⟩ := publish_cases hstep
      refine h.of_back id ?_ ?_ (fun _ _ _ _ _ _ _ hab => hab) rfl rfl rfl h.pass h.tasks
      · intro id row a ha
        cases a <;> exact ha
      · intro id row a ha
        cases a <;> exact ha
  | endPass =>
      obtain ⟨_, htodo, rfl⟩ := endPass_cases hstep
      exact h.goto hsound htodo (fun _ _ hpc' => nomatch hpc') fun hw => hw.elim
  | effect =>
      obtain ⟨e, rest, htodo, rfl⟩ := effect_cases hstep
      exact h.effect hsound htodo halone

/-! ## §7. Every run. -/

theorem tracked_start (rows : WallRowsTable) : (Wall.start rows).Tracked := by
  have hnobody : ∀ id row a, ¬(Wall.start rows).HoldsOn id row a := by
    intro id row a ha
    cases a with
    | begun i =>
        obtain ⟨t, job, ht, _⟩ := ha
        cases ht
    | staged r =>
        obtain ⟨job, hjob, _⟩ := ha
        cases hjob
    | hand =>
        obtain ⟨job, hjob, _⟩ := ha
        cases hjob
    | slot r =>
        obtain ⟨q, op, hlife, hop, _⟩ := ha
        injection hlife with hlife
        subst hlife
        rcases hop with hop | hop <;> cases hop
    | other => exact ha
  have hfree : ∀ id a, ¬(Wall.start rows).Holds id a := by
    rintro id a (⟨_, ha⟩ | ⟨row, ha⟩)
    · cases ha
    · exact hnobody id row a ha
  refine ⟨fun id a _ ha => absurd ha (hfree id a), fun id row a ha => absurd ha (hnobody id row a),
    fun id a ha => absurd ha (hfree id a), fun _ => Nat.zero_lt_one, ?_, fun _ h => (nomatch h),
    fun id row a ha => absurd ha.holds (hnobody id row a), Nat.le_refl _, fun _ _ h => (nomatch h)⟩
  intro i hphase
  exact absurd rfl hphase

/-- What has ended stays so, and what a turn writes had not. -/
theorem step_said {a : Turn} (h : s.Tracked) (hsound : s.link.Sound) (hstep : s.step a = some s') :
    (∀ id ∈ s.ended, id ∈ s'.ended) ∧
      ∃ said, s'.link.said = s.link.said ++ said ∧
        ∀ conn row op, .write conn row (.op op) true ∈ said → op.opId ∉ s.ended := by
  have hsilent : s'.link.said = s.link.said → ∃ said, s'.link.said = s.link.said ++ said ∧
      ∀ conn row op, .write conn row (.op op) true ∈ said → op.opId ∉ s.ended := by
    intro hsame
    exact ⟨[], by rw [hsame, List.append_nil], fun _ _ _ hmem => nomatch hmem⟩
  have hkeeps : ∀ id ∈ s.ended, id ∈ s.ended := fun _ hid => hid
  have hmore : ∀ ends : List WallOp × WallState, ∀ id ∈ s.ended, id ∈ (s.after ends).ended :=
    fun _ _ hid => List.mem_append_left _ hid
  cases a with
  | look task =>
      rw [look_cases hstep]
      exact ⟨hkeeps, ⟨[], (List.append_nil _).symm, fun _ _ _ hmem => nomatch hmem⟩⟩
  | see task =>
      obtain ⟨t, _, rfl⟩ := see_cases hstep
      exact ⟨hkeeps, hsilent rfl⟩
  | jobBegin task row op name =>
      obtain ⟨t, _, _, rfl | ⟨id, ops, _, ⟨_, rfl⟩ | ⟨_, rfl⟩⟩⟩ := jobBegin_cases hstep
      · exact ⟨hkeeps, hsilent rfl⟩
      · exact ⟨hkeeps, hsilent rfl⟩
      · exact ⟨hkeeps, hsilent rfl⟩
  | jobStage task =>
      obtain ⟨t, job, _, _, _, ⟨_, _, rfl⟩ | rfl⟩ := jobStage_cases hstep
      · exact ⟨hkeeps, hsilent rfl⟩
      · exact ⟨hkeeps, hsilent rfl⟩
  | giveUp task =>
      obtain ⟨t, job, _, _, _, rfl⟩ := giveUp_cases hstep
      exact ⟨hmore _, hsilent rfl⟩
  | opBegin name row unit =>
      obtain ⟨id, ops, _, ⟨_, rfl⟩ | ⟨_, rfl⟩⟩ := opBegin_cases hstep
      · exact ⟨hkeeps, hsilent rfl⟩
      · exact ⟨hkeeps, hsilent rfl⟩
  | opFinish id ok detail =>
      obtain ⟨_, rfl⟩ := opFinish_cases hstep
      exact ⟨hmore _, hsilent rfl⟩
  | setRows table =>
      rw [setRows_cases hstep] at hsilent ⊢
      exact ⟨hmore _, hsilent rfl⟩
  | check =>
      obtain ⟨_, _, ⟨_, rfl⟩ | ⟨_, rfl⟩⟩ := check_cases hstep
      · exact ⟨hkeeps, hsilent rfl⟩
      · exact ⟨hkeeps, hsilent rfl⟩
  | readTable =>
      obtain ⟨_, _, rfl⟩ := readTable_cases hstep
      exact ⟨hkeeps, hsilent rfl⟩
  | call H c =>
      obtain ⟨_, _, _, l, _, rfl⟩ := call_cases hstep
      exact ⟨hkeeps, hsilent rfl⟩
  | beginTakes =>
      obtain ⟨_, _, rfl | ⟨_, rfl⟩⟩ := beginTakes_cases hstep
      · exact ⟨hkeeps, hsilent rfl⟩
      · exact ⟨hkeeps, hsilent rfl⟩
  | lookStaged =>
      obtain ⟨row, _, rfl | ⟨r, rfl⟩⟩ := lookStaged_cases hstep
      · exact ⟨hkeeps, hsilent rfl⟩
      · exact ⟨hkeeps, hsilent rfl⟩
  | take =>
      obtain ⟨row, _, rfl | ⟨job, _, rfl⟩⟩ := take_cases hstep
      · exact ⟨hkeeps, hsilent rfl⟩
      · exact ⟨hkeeps, hsilent rfl⟩
  | start updating nowMs =>
      obtain ⟨row, job, hpc, ⟨detail, rfl⟩ | ⟨l, hl, rfl⟩⟩ := startJob_cases hstep
      · exact ⟨hmore _, hsilent rfl⟩
      · have htodo : s.link.todo = [] := hsound.quiet (by rw [hpc]; exact .inl trivial)
        refine ⟨hkeeps, [.jobAccepted row job.op], LinkTask.started_log htodo hl, ?_⟩
        intro conn r op hmem
        rw [List.mem_singleton] at hmem
        cases hmem
  | endTakes =>
      obtain ⟨row, _, rfl⟩ := endTakes_cases hstep
      exact ⟨hkeeps, hsilent rfl⟩
  | tick H nowMs =>
      obtain ⟨_, l, _, rfl⟩ := tick_cases hstep
      exact ⟨hkeeps, hsilent rfl⟩
  | tell H c =>
      obtain ⟨_, _, _, l, _, rfl⟩ := tell_cases hstep
      exact ⟨hkeeps, hsilent rfl⟩
  | publish row =>
      obtain ⟨_, _, rfl⟩ := publish_cases hstep
      exact ⟨hkeeps, hsilent rfl⟩
  | endPass =>
      obtain ⟨_, _, rfl⟩ := endPass_cases hstep
      exact ⟨hkeeps, hsilent rfl⟩
  | effect =>
      obtain ⟨e, rest, htodo, rfl⟩ := effect_cases hstep
      refine ⟨hmore _, [e], rfl, ?_⟩
      intro conn row op hmem
      rw [List.mem_singleton] at hmem
      subst hmem
      -- the job that is written waits in the core's slot, so it may still be written
      refine h.live op.opId row (.slot row) ⟨op, hsound.wrote_waiting htodo, rfl, rfl, ?_⟩
      refine .inr (.inl ⟨.write conn row (.op op) true, ?_, rfl⟩)
      rw [htodo]
      exact List.mem_cons_self

/-- **A job that the master has reported ended is not handed over afterwards**,
in every run in which the restarts of rows and the changes of the table find
none that may still be written: whatever job is done or failed in a state of
the run, no later write carries it. -/
theorem ended_jobs_stay_ended (rows : WallRowsTable) (before after : List Turn) (s s' : Wall)
    (hmeets : AllMeet EndsAlone Wall.step (Wall.start rows) (before ++ after))
    (hbefore : run Wall.step (Wall.start rows) before = some s)
    (hafter : run Wall.step s after = some s') (i : Fin WALL_OPS_KEPT)
    (hended : (s.state.ops.ops i).phase ≠ .running) :
    ∃ later, s'.link.said = s.link.said ++ later ∧
      ∀ conn row op, .write conn row (.op op) true ∈ later → op.opId ≠ (s.state.ops.ops i).id := by
  obtain ⟨hmeets₁, hmeets₂⟩ := hmeets.split hbefore
  have hkeeps : s.Tracked ∧ s.link.Sound := by
    refine run_invariant_of_meets (P := fun s => s.Tracked ∧ s.link.Sound) ?_
      ⟨tracked_start rows, sound_start rows⟩ hmeets₁ hbefore
    rintro a turn b ⟨htracked, hsound⟩ hok hstep
    exact ⟨htracked.step hsound hok hstep, step_sound hsound hstep⟩
  have hover : (s.state.ops.ops i).id ∈ s.ended := hkeeps.1.inEnded i hended
  have hrun : (s'.Tracked ∧ s'.link.Sound) ∧ (s.state.ops.ops i).id ∈ s'.ended ∧
      ∃ later, s'.link.said = s.link.said ++ later ∧
        ∀ conn row op, .write conn row (.op op) true ∈ later →
          op.opId ≠ (s.state.ops.ops i).id := by
    refine run_invariant_of_meets
      (P := fun m => (m.Tracked ∧ m.link.Sound) ∧ (s.state.ops.ops i).id ∈ m.ended ∧
        ∃ later, m.link.said = s.link.said ++ later ∧
          ∀ conn row op, .write conn row (.op op) true ∈ later →
            op.opId ≠ (s.state.ops.ops i).id) ?_
      ⟨hkeeps, hover, [], (List.append_nil _).symm, fun _ _ _ hmem => nomatch hmem⟩ hmeets₂ hafter
    rintro a turn b ⟨⟨htracked, hsound⟩, hin, later, hsaid, hlater⟩ hok hstep
    obtain ⟨hgrows, said, hmore, hwrites⟩ := step_said htracked hsound hstep
    refine ⟨⟨htracked.step hsound hok hstep, step_sound hsound hstep⟩, hgrows _ hin,
      later ++ said, by rw [hmore, hsaid, List.append_assoc], ?_⟩
    intro conn row op hmem
    rcases List.mem_append.mp hmem with hmem | hmem
    · exact hlater conn row op hmem
    · intro hsame
      apply hwrites conn row op hmem
      rw [hsame]
      exact hin
  exact hrun.2.2

end Ended

/-! ## §8. A staged job that a restart fails, and one the pass has taken. -/

section Runs

local instance endedCodec : Nanopb := Codec.nanopb

/-- `r01` is connected, and a job staged for it. -/
def stagedTurns : List Turn :=
  joinTurns ++ idleTurns ++ [.publish 0, .endPass] ++ startTurns ++ [.jobStage 0, .check]

/-- `r01` dials again after a restart. -/
def rejoinTurns : List Turn :=
  [.call (.obliging []) (.accept 1), .effect,
    .call (.obliging []) (.bytes 1 [11, 10, 9, 8, 1, 18, 3, 114, 48, 49, 32, 9] 3)] ++
    List.replicate 7 .effect

/-- `r01` ends its job well. -/
def answerTurns : List Turn :=
  [.endPass, .check, .call (.obliging []) (.bytes 0 [6, 34, 4, 8, 1, 16, 1] 6), .effect]

/-- A pass without a job, and a change of the table. -/
def changeTurns : List Turn :=
  [.beginTakes, .lookStaged, .endTakes, .tick (.obliging []) 7, .endPass,
    .setRows otherBoard, .check, .effect]

/-- A condition of `EndsAlone` that can be computed: no row restarts. -/
def endsAlone (s : Wall) : Turn → Bool
  | .jobBegin .. | .opBegin .. => s.state.ops.nextId.toNat + 1 < 4294967296
  | .setRows _ =>
      s.state.generation.toNat + 1 < 4294967296 &&
        match s.link.pc, s.link.todo with
        | .top, [] => true
        | _, _ => false
  | .effect =>
      match s.link.todo with
      | .rowHello _ _ _ true :: _ => false
      | _ => true
  | _ => true

theorem endsAlone_of {s : Wall} {a : Turn} (h : s.endsAlone a = true) : s.EndsAlone a := by
  cases a with
  | jobBegin task row op name =>
      show s.state.ops.nextId.toNat + 1 < 4294967296
      exact of_decide_eq_true h
  | opBegin name row unit =>
      show s.state.ops.nextId.toNat + 1 < 4294967296
      exact of_decide_eq_true h
  | setRows table =>
      obtain ⟨hcount, hidle⟩ := Bool.and_eq_true_iff.mp h
      have hpc : s.link.pc = .top ∧ s.link.todo = [] := by
        split at hidle
        · next hpc htodo => exact ⟨hpc, htodo⟩
        · cases hidle
      refine ⟨of_decide_eq_true hcount, ?_, ?_, ?_⟩
      · rw [hpc.1]
        exact fun _ _ hhand => nomatch hhand
      · rw [hpc.1]
        exact fun hwindow => hwindow.elim
      · rw [hpc.2]
        exact fun _ he => nomatch he
  | effect =>
      intro conn r hello rest htodo
      have hno : (match s.link.todo with
        | .rowHello _ _ _ true :: _ => false
        | _ => true) = true := h
      rw [htodo] at hno
      cases hno
  | _ => exact trivial

/-- The first place of the jobs' table, and the jobs that were written. -/
def firstEnd (s : Wall) : WallOpPhase × UInt32 × List (ConnIx × UInt32) :=
  ((s.state.ops.ops 0).phase, (s.state.ops.ops 0).id, s.written.map fun w => (w.conn, w.op.opId))

/-- The job ended well before the table changed, and is not written again. -/
theorem ended_jobs_stay_ended_changed :
    ∃ s s' : Wall,
      run Wall.step (Wall.start oneBoard)
        (stagedTurns ++ [.beginTakes] ++ handTurns ++ answerTurns) = some s ∧
      run Wall.step s changeTurns = some s' ∧ s.firstEnd = (.done, 1, [(0, 1)]) ∧
      ∃ later, s'.link.said = s.link.said ++ later ∧
        ∀ conn row op, .write conn row (.op op) true ∈ later →
          op.opId ≠ (s.state.ops.ops 0).id := by
  have hmeets : AllMeet EndsAlone Wall.step (Wall.start oneBoard)
      (stagedTurns ++ [.beginTakes] ++ handTurns ++ answerTurns ++ changeTurns) := by
    have hcomputed : allMeet endsAlone Wall.step (Wall.start oneBoard)
        (stagedTurns ++ [.beginTakes] ++ handTurns ++ answerTurns ++ changeTurns) = true := by
      decide +kernel
    exact (AllMeet.of_allMeet hcomputed).mono fun _ _ => endsAlone_of
  have hbefore : (run Wall.step (Wall.start oneBoard)
      (stagedTurns ++ [.beginTakes] ++ handTurns ++ answerTurns)).map firstEnd =
        some (.done, 1, [(0, 1)]) := by decide +kernel
  have hafter : ((run Wall.step (Wall.start oneBoard)
      (stagedTurns ++ [.beginTakes] ++ handTurns ++ answerTurns)).bind
        fun s => run Wall.step s changeTurns).isSome = true := by decide +kernel
  obtain ⟨s, hs, hend⟩ := Option.map_eq_some_iff.mp hbefore
  rw [hs, Option.bind_some] at hafter
  obtain ⟨s', hs'⟩ := Option.isSome_iff_exists.mp hafter
  have hphase : (s.state.ops.ops 0).phase ≠ .running := by
    rw [show (s.state.ops.ops 0).phase = .done from congrArg Prod.fst hend]
    exact fun h => nomatch h
  exact ⟨s, s', hs, hs', hend,
    ended_jobs_stay_ended oneBoard _ changeTurns s s' hmeets hs hs' 0 hphase⟩

/-- **A job that the restart of its row failed is still written, and so is one
that a change of the table failed after the pass had taken it.** -/
theorem failed_jobs_are_written :
    (∃ s s' : Wall,
      run Wall.step (Wall.start oneBoard) (stagedTurns ++ rejoinTurns) = some s ∧
      run Wall.step s ([.effect, .beginTakes] ++ handTurns) = some s' ∧
      s.firstEnd = (.failed, 1, []) ∧ s'.firstEnd = (.failed, 1, [(1, 1)])) ∧
    ∃ s s' : Wall,
      run Wall.step (Wall.start oneBoard)
        (stagedTurns ++ [.beginTakes, .lookStaged, .take, .start false 4, .setRows otherBoard]) =
          some s ∧
      run Wall.step s [.endTakes, .tick (.obliging []) 5, .effect] = some s' ∧
      s.firstEnd = (.failed, 1, []) ∧ s'.firstEnd = (.failed, 1, [(0, 1)]) := by
  have hruns : ∀ as bs e e',
      (run Wall.step (Wall.start oneBoard) as).map firstEnd = some e →
      ((run Wall.step (Wall.start oneBoard) as).bind fun s => run Wall.step s bs).map firstEnd =
        some e' →
      ∃ s s' : Wall, run Wall.step (Wall.start oneBoard) as = some s ∧
        run Wall.step s bs = some s' ∧ s.firstEnd = e ∧ s'.firstEnd = e' := by
    intro as bs e e' has hbs
    obtain ⟨s, hs, he⟩ := Option.map_eq_some_iff.mp has
    rw [hs, Option.bind_some] at hbs
    obtain ⟨s', hs', he'⟩ := Option.map_eq_some_iff.mp hbs
    exact ⟨s, s', hs, hs', he, he'⟩
  constructor
  · exact hruns _ _ _ _ (by decide +kernel) (by decide +kernel)
  · exact hruns _ _ _ _ (by decide +kernel) (by decide +kernel)

end Runs

end Wall

end SplitFlap
