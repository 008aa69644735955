/-
  SplitFlap.Wall.OwnedJobs — a running unit job is with somebody who will end it.

  A row with a running job takes no other (`runningOn`), so a job that nobody
  has blocks its row until the master restarts.  Whoever has a job is told by
  `HoldsOn`; `Homes` says that each running one is with a holder, and that the
  link task has none of them while its table is not the wall's, for then the
  next thing it does to its slots is to forget them.

  Only a take that comes after a change of the table, in the pass that still
  works with the old one, breaks that (`TakesCurrent`).  The starters of jobs
  keep it out: they stage for rows they have seen under the table's number.
-/
import SplitFlap.Wall.Says
import SplitFlap.Wall.StagedJobs
import SplitFlap.Wall.EndedJobs

namespace SplitFlap

open Link Machine Log WallOps

section Owned

variable [Nanopb]

/-! ## §1. The unit jobs of every row. -/

/-- The master with the jobs of its own row, which `wallJobBegin` begins too. -/
structure JobWall extends Wall where
  own : List UInt32 := []

inductive JobTurn where
  | ownBegin (name : String) (unit : UInt8)
  | turn (a : Turn)

namespace JobWall

def start (rows : WallRowsTable) : JobWall := { toWall := Wall.start rows }

/-- `startOwnJob`, as far as it begins a job. -/
def ownBegin (s : JobWall) (name : String) (unit : UInt8) : JobWall :=
  let begun := s.state.wallJobBegin name WALL_OP_OWN_ROW unit
  if begun.1 = 0 then { s with state := begun.2 }
  else { s with state := begun.2, others := begun.1 :: s.others, own := begun.1 :: s.own }

def step (s : JobWall) : JobTurn → Option JobWall
  | .ownBegin name unit => some (s.ownBegin name unit)
  | .turn a => (s.toWall.step a).map fun w => { s with toWall := w }

/-- Jobs on units: those of row boards, and those of the own row. -/
def unitJob (s : JobWall) (id : UInt32) : Prop := id ∉ s.others ∨ id ∈ s.own

end JobWall

/-- The event ends job `id` of row `r`. -/
def LinkEvent.endsJob (r : RowIx) (id : UInt32) : LinkEvent → Prop
  | .rowMessage _ r' (.opState state) => r' = r ∧ state.opId = id ∧ state.phase ≠ .running
  | .jobEnded r' id' _ => r' = r ∧ id' = id
  | .rowHello _ r' _ true => r' = r
  | _ => False

omit [Nanopb] in
/-- An event that ends the open job of a row is a reset, or ends it by name. -/
theorem Link.jobView_end {r : RowIx} {e : LinkEvent} {je : JobEvent} {q q' : JobLife} {op : WlOp}
    (hview : jobView r e = some je) (hstep : jobStep q je = some q') (hend : je.isEnd = true)
    (hop : q.holds op) : e = .reset ∨ e.endsJob r op.opId := by
  have hsame : ∀ op', q.holds op' → op' = op := by
    intro op' hop'
    rcases hop with rfl | rfl
    · rcases hop' with hop' | hop'
      · injection hop' with hop'
        exact hop'.symm
      · cases hop'
    · rcases hop' with hop' | hop'
      · cases hop'
      · injection hop' with hop'
        exact hop'.symm
  unfold jobView at hview
  split at hview
  · split at hview <;> cases hview
    cases hend
  · split at hview <;> cases hview
    cases hend
  · next r' state =>
      split at hview
      · next hr =>
          injection hview with hview
          subst hview
          right
          rcases jobStep_cases hstep with ⟨_, _, he, _⟩ | ⟨_, _, he, _⟩ | ⟨_, _, he, _⟩ |
            ⟨_, _, he, _⟩ | ⟨op', state', hq, he, hid, _⟩ | ⟨he, _⟩
          · cases he
          · cases he
          · cases he
          · cases he
          · injection he with he
            subst he
            refine ⟨hr, ?_, of_decide_eq_true hend⟩
            rw [← hsame op' (.inr hq)]
            exact hid
          · rcases he with he | he <;> cases he
      · cases hview
  · next r' opId why =>
      split at hview
      · next hr =>
          injection hview with hview
          subst hview
          right
          rcases jobStep_cases hstep with ⟨_, _, he, _⟩ | ⟨_, _, he, _⟩ | ⟨op', hq, he, _⟩ |
            ⟨op', hq, he, _⟩ | ⟨_, _, _, he, _⟩ | ⟨he, _⟩
          · cases he
          · cases he
          · injection he with he _
            exact ⟨hr, by rw [← hsame op' (.inl hq)]; exact he⟩
          · injection he with he _
            exact ⟨hr, by rw [← hsame op' (.inr hq)]; exact he⟩
          · cases he
          · rcases he with he | he <;> cases he
      · cases hview
  · next conn r' hello =>
      split at hview
      · next hr => exact .inr hr
      · cases hview
  · exact .inl rfl
  · cases hview

namespace Wall

/-- Who has job `id` of row `r`: the request that began it, the staged slot,
the core.  Within a call of the link task it is in the task's hand, or the
core has let go of it and the hook that ends it is still to run. -/
inductive HasJob (s : Wall) (r : RowIx) (id : UInt32) : Prop where
  | begun (i : Nat) (t : Task) (job : BegunJob) (ht : s.tasks i = some t) (hjob : t.job = some job)
      (hid : job.op.opId = id) (hrow : job.row = r)
  | staged (job : StagedJob) (hjob : s.state.staged r = some job) (hid : job.op.opId = id)
  | slot (hstage : (s.link.core.rows r).job.stage ≠ .none)
      (hid : (s.link.core.rows r).job.op.opId = id)
  | hand (job : StagedJob) (hpc : s.link.pc = .inHand r job) (hid : job.op.opId = id)
  | ending (e : LinkEvent) (he : e ∈ s.link.todo) (hends : e.endsJob r id)

/-- `takeJobs` takes a job only while the table it works with is the wall's, and
no id comes round. -/
def TakesCurrent (s : Wall) : Turn → Prop
  | .jobBegin .. | .opBegin .. => s.state.ops.nextId.toNat + 1 < 4294967296
  | .take => ∀ row, s.link.pc = .locking row → (s.state.staged row).isSome →
      s.link.rowsGeneration = s.state.generation
  | _ => True

end Wall

def JobWall.TakesCurrent (s : JobWall) : JobTurn → Prop
  | .ownBegin .. => s.state.ops.nextId.toNat + 1 < 4294967296
  | .turn a => s.toWall.TakesCurrent a

/-- Jobs are staged for rows their starters saw connected since they read the
table's number, and neither that number nor the jobs' ids come round. -/
def JobWall.stagesSeen (s : JobWall) : JobTurn → Bool
  | .ownBegin .. | .turn (.jobBegin ..) | .turn (.opBegin ..) =>
      s.state.ops.nextId.toNat + 1 < 4294967296
  | .turn a => s.seenRow a

/-- A turn that begins a job. -/
def JobTurn.begins : JobTurn → Bool
  | .ownBegin .. | .turn (.jobBegin ..) | .turn (.opBegin ..) => true
  | _ => false

/-- What holds of the jobs in every state. -/
structure JobWall.Owned (s : JobWall) : Prop where
  distinct : ∀ i j, (s.state.ops.ops i).id ≠ 0 →
    (s.state.ops.ops i).id = (s.state.ops.ops j).id → i = j
  alone : ∀ i j, running (s.state.ops.ops i) = true → running (s.state.ops.ops j) = true →
    s.unitJob (s.state.ops.ops i).id → s.unitJob (s.state.ops.ops j).id →
    (s.state.ops.ops i).row = (s.state.ops.ops j).row → i = j
  held : ∀ i, running (s.state.ops.ops i) = true → s.unitJob (s.state.ops.ops i).id →
    0 ≤ (s.state.ops.ops i).row →
    ∃ r : RowIx, (s.state.ops.ops i).row = r.val ∧ s.toWall.HasJob r (s.state.ops.ops i).id
  endsOnce : s.ended.Nodup

namespace Wall

variable {s s' : Wall}

/-! ## §2. What a turn does to the table of jobs. -/

inductive JobsMove (s s' : Wall) : Prop where
  | same (hops : s'.state.ops = s.state.ops) (hended : s'.ended = s.ended)
      (hothers : s'.others = s.others)
  | begun (name : String) (row : RowIx) (unit : UInt8)
      (hidle : s.state.ops.runningOn row.val = false)
      (hroom : s.state.ops.nextId.toNat + 1 < 4294967296)
      (hops : s'.state.ops = (s.state.ops.start name row.val unit).2) (hended : s'.ended = s.ended)
      (hothers : s'.others = s.others)
  | other (name : String) (row : Int) (unit : UInt8)
      (hroom : s.state.ops.nextId.toNat + 1 < 4294967296)
      (hops : s'.state.ops = (s.state.ops.start name row unit).2) (hended : s'.ended = s.ended)
      (hothers : s'.others =
        if (s.state.ops.start name row unit).1 = 0 then s.others
        else (s.state.ops.start name row unit).1 :: s.others)
  | finished (id : UInt32) (ok : Bool) (detail : String)
      (hops : s'.state.ops = (s.state.ops.finish id ok detail).2)
      (hended : s'.ended = s.ended ++ (s.state.ops.finish id ok detail).1.toList.map (·.id))
      (hothers : s'.others = s.others)
  | failed (which : WallOp → Bool) (reason : String)
      (hops : s'.state.ops = (s.state.ops.failJobs which reason).2)
      (hended : s'.ended = s.ended ++ (s.state.ops.failJobs which reason).1.map (·.id))
      (hothers : s'.others = s.others)

/-- `wallJobBegin` begins a job on a row where none runs. -/
theorem jobBegin_idle {task : Nat} {row : RowIx} {op : WlOp} {name : String}
    (h : s.jobBegin task row op name = some s') :
    s' = s ∨ s.state.ops.runningOn row.val = false := by
  unfold jobBegin at h
  split at h
  · unfold WallState.wallJobBegin at h
    by_cases hruns : s.state.ops.runningOn row.val = true
    · rw [if_pos hruns] at h
      injection h with h
      exact .inl h.symm
    · exact .inr (by simpa using hruns)
  · cases h

/-- A request looks at the table's number when it has no job. -/
theorem look_jobless {task : Nat} (h : s.look task = some s') :
    ∀ t, s.tasks task = some t → t.job = none := by
  intro t ht
  unfold look at h
  rw [ht] at h
  rcases t with ⟨generation, seen, job⟩
  cases job with
  | none => rfl
  | some job => cases h

theorem step_jobs {a : Turn} (htakes : s.TakesCurrent a) (h : s.step a = some s') :
    JobsMove s s' := by
  cases a with
  | look task =>
      rw [look_cases h]
      exact .same rfl rfl rfl
  | see task =>
      obtain ⟨t, _, rfl⟩ := see_cases h
      exact .same rfl rfl rfl
  | jobBegin task row op name =>
      rcases jobBegin_idle h with hsame | hidle
      · rw [hsame]
        exact .same rfl rfl rfl
      · obtain ⟨t, _, _, rfl | ⟨id, ops, hstart, ⟨_, rfl⟩ | ⟨_, rfl⟩⟩⟩ := jobBegin_cases h
        · exact .same rfl rfl rfl
        · exact .begun name row _ hidle htakes (congrArg Prod.snd hstart).symm rfl rfl
        · exact .begun name row _ hidle htakes (congrArg Prod.snd hstart).symm rfl rfl
  | jobStage task =>
      obtain ⟨t, job, _, _, _, ⟨_, _, rfl⟩ | rfl⟩ := jobStage_cases h
      · exact .same rfl rfl rfl
      · exact .same rfl rfl rfl
  | giveUp task =>
      obtain ⟨t, job, _, _, _, rfl⟩ := giveUp_cases h
      exact .finished _ _ _ rfl rfl rfl
  | opBegin name row unit =>
      obtain ⟨id, ops, hstart, ⟨hid, rfl⟩ | ⟨hid, rfl⟩⟩ := opBegin_cases h
      · refine .other name row unit htakes (congrArg Prod.snd hstart).symm rfl ?_
        rw [hstart, if_pos hid]
      · refine .other name row unit htakes (congrArg Prod.snd hstart).symm rfl ?_
        rw [hstart, if_neg hid]
  | opFinish id ok detail =>
      obtain ⟨_, rfl⟩ := opFinish_cases h
      exact .finished _ _ _ rfl rfl rfl
  | setRows table =>
      rw [setRows_cases h]
      refine .failed (fun op => 0 ≤ op.row) "the boards of the wall changed" ?_ ?_ rfl
      · show (s.state.wallStateSetRows table).2.ops = _
        simp only [WallState.wallStateSetRows]
      · show s.ended ++ (s.state.wallStateSetRows table).1.map (·.id) = _
        simp only [WallState.wallStateSetRows]
  | check =>
      obtain ⟨_, _, ⟨_, rfl⟩ | ⟨_, rfl⟩⟩ := check_cases h
      · exact .same rfl rfl rfl
      · exact .same rfl rfl rfl
  | readTable =>
      obtain ⟨_, _, rfl⟩ := readTable_cases h
      exact .same rfl rfl rfl
  | call H c =>
      obtain ⟨_, _, _, l, _, rfl⟩ := call_cases h
      exact .same rfl rfl rfl
  | beginTakes =>
      obtain ⟨_, _, rfl | ⟨_, rfl⟩⟩ := beginTakes_cases h
      · exact .same rfl rfl rfl
      · exact .same rfl rfl rfl
  | lookStaged =>
      obtain ⟨row, _, rfl | ⟨r, rfl⟩⟩ := lookStaged_cases h
      · exact .same rfl rfl rfl
      · exact .same rfl rfl rfl
  | take =>
      obtain ⟨row, _, rfl | ⟨job, _, rfl⟩⟩ := take_cases h
      · exact .same rfl rfl rfl
      · exact .same rfl rfl rfl
  | start updating nowMs =>
      obtain ⟨row, job, _, ⟨detail, rfl⟩ | ⟨l, _, rfl⟩⟩ := startJob_cases h
      · exact .finished _ _ _ rfl rfl rfl
      · exact .same rfl rfl rfl
  | endTakes =>
      obtain ⟨row, _, rfl⟩ := endTakes_cases h
      exact .same rfl rfl rfl
  | tick H nowMs =>
      obtain ⟨_, l, _, rfl⟩ := tick_cases h
      exact .same rfl rfl rfl
  | tell H c =>
      obtain ⟨_, _, _, l, _, rfl⟩ := tell_cases h
      exact .same rfl rfl rfl
  | publish row =>
      obtain ⟨_, _, rfl⟩ := publish_cases h
      exact .same rfl rfl rfl
  | endPass =>
      obtain ⟨_, _, rfl⟩ := endPass_cases h
      exact .same rfl rfl rfl
  | effect =>
      obtain ⟨e, rest, _, rfl⟩ := effect_cases h
      rcases hookEffect_jobs s.state e with hno | ⟨id, ok, detail, hone⟩ | ⟨row, reason, hrow⟩
      · refine .same ?_ ?_ rfl
        · show (hookEffect s.state e).2.ops = _
          rw [hno]
        · show s.ended ++ (hookEffect s.state e).1.map (·.id) = _
          rw [hno]
          exact List.append_nil _
      · refine .finished id ok detail ?_ ?_ rfl
        · show (hookEffect s.state e).2.ops = _
          rw [hone]
          rfl
        · show s.ended ++ (hookEffect s.state e).1.map (·.id) = _
          rw [hone]
          rfl
      · refine .failed (fun op => op.row = row.val) reason ?_ ?_ rfl
        · show (hookEffect s.state e).2.ops = _
          rw [hrow]
          simp only [WallState.wallOpsFailRow]
        · show s.ended ++ (hookEffect s.state e).1.map (·.id) = _
          rw [hrow]
          simp only [WallState.wallOpsFailRow]

/-- Jobs have different ids and end once. -/
theorem JobsMove.once (h : JobsMove s s') (honce : s.state.ops.Once s.ended) :
    s'.state.ops.Once s'.ended := by
  cases h with
  | same hops hended _ =>
      rw [hops, hended]
      exact honce
  | begun name row unit _ hroom hops hended _ =>
      rw [hops, hended]
      exact honce.start hroom name row.val unit
  | other name row unit hroom hops hended _ =>
      rw [hops, hended]
      exact honce.start hroom name row unit
  | finished id ok detail hops hended _ =>
      rw [hops, hended]
      exact (honce.finish id ok detail).1
  | failed which reason hops hended _ =>
      rw [hops, hended]
      exact (honce.failJobs which reason).1

/-! ## §3. Every running job has a holder. -/

/-- The link task has it: in its hand, or in a slot of the core. -/
def Holder.inPass : Holder → Prop
  | .hand | .slot _ => True
  | _ => False

structure Homes (s : Wall) : Prop where
  known : ∀ id r a, s.HoldsOn id r a → id.toNat < s.state.ops.nextId.toNat
  others : ∀ id ∈ s.others, id.toNat < s.state.ops.nextId.toNat
  home : ∀ i, running (s.state.ops.ops i) = true → (s.state.ops.ops i).id ∉ s.others →
    ∃ (r : RowIx) (a : Holder), (s.state.ops.ops i).row = r.val ∧
      s.HoldsOn (s.state.ops.ops i).id r a
  current : ∀ i r a, running (s.state.ops.ops i) = true → (s.state.ops.ops i).id ∉ s.others →
    s.HoldsOn (s.state.ops.ops i).id r a → a.inPass →
    s.link.rowsGeneration = s.state.generation ∧ s.link.pc ≠ .stale
  resets : .reset ∈ s.link.todo → s.link.pc = .stale

/-- A step that begins no job: what still runs keeps a holder. -/
theorem Homes.of_forth (h : s.Homes) (hothers : s'.others = s.others)
    (hnext : s'.state.ops.nextId = s.state.ops.nextId)
    (hruns : ∀ i, running (s'.state.ops.ops i) = true → s'.state.ops.ops i = s.state.ops.ops i)
    (hback : ∀ id r a, s'.HoldsOn id r a → ∃ b, s.HoldsOn id r b)
    (hforth : ∀ i (r : RowIx) a, running (s'.state.ops.ops i) = true →
      (s.state.ops.ops i).row = r.val → (s.state.ops.ops i).id ∉ s.others →
      s.HoldsOn (s.state.ops.ops i).id r a → ∃ b, s'.HoldsOn (s.state.ops.ops i).id r b)
    (hcurrent : ∀ i r a, running (s'.state.ops.ops i) = true →
      running (s.state.ops.ops i) = true → (s.state.ops.ops i).id ∉ s.others →
      s'.HoldsOn (s.state.ops.ops i).id r a → a.inPass →
      s'.link.rowsGeneration = s'.state.generation ∧ s'.link.pc ≠ .stale)
    (hresets : .reset ∈ s'.link.todo → s'.link.pc = .stale) : s'.Homes := by
  have hran : ∀ i, running (s'.state.ops.ops i) = true → running (s.state.ops.ops i) = true := by
    intro i hi
    rw [← hruns i hi]
    exact hi
  refine ⟨?_, ?_, ?_, ?_, hresets⟩
  · intro id r a ha
    obtain ⟨b, hb⟩ := hback id r a ha
    rw [hnext]
    exact h.known id r b hb
  · intro id hid
    rw [hothers] at hid
    rw [hnext]
    exact h.others id hid
  · intro i hi hunit
    rw [hruns i hi, hothers] at hunit
    obtain ⟨r, a, hrow, ha⟩ := h.home i (hran i hi) hunit
    obtain ⟨b, hb⟩ := hforth i r a hi hrow hunit ha
    rw [hruns i hi]
    exact ⟨r, b, hrow, hb⟩
  · intro i r a hi hunit ha hpass
    rw [hruns i hi, hothers] at hunit
    rw [hruns i hi] at ha
    exact hcurrent i r a hi (hran i hi) hunit ha hpass

/-- Holders read the tasks, the staged slots, the log and the job in hand. -/
theorem HoldsOn.of_same {id : UInt32} {r : RowIx} {a : Holder} (h : s.HoldsOn id r a)
    (htasks : s'.tasks = s.tasks) (hstaged : s'.state.staged = s.state.staged)
    (hsaid : s'.link.said = s.link.said)
    (hhand : ∀ r job, s.link.pc = .inHand r job → s'.link.pc = .inHand r job) :
    s'.HoldsOn id r a := by
  cases a with
  | begun i =>
      obtain ⟨t, job, ht, hrest⟩ := h
      exact ⟨t, job, by rw [htasks]; exact ht, hrest⟩
  | staged r' =>
      obtain ⟨job, hjob, hrest⟩ := h
      exact ⟨job, by rw [hstaged]; exact hjob, hrest⟩
  | hand =>
      obtain ⟨job, hpc, hid⟩ := h
      exact ⟨job, hhand r job hpc, hid⟩
  | slot r' =>
      obtain ⟨q, op, hlife, hrest⟩ := h
      exact ⟨q, op, by rw [hsaid]; exact hlife, hrest⟩
  | other => exact h

/-- The holders are the same, the jobs at most fewer. -/
theorem Homes.of_same (h : s.Homes) (hothers : s'.others = s.others)
    (hnext : s'.state.ops.nextId = s.state.ops.nextId)
    (hruns : ∀ i, running (s'.state.ops.ops i) = true → s'.state.ops.ops i = s.state.ops.ops i)
    (htasks : s'.tasks = s.tasks) (hstaged : s'.state.staged = s.state.staged)
    (hsaid : s'.link.said = s.link.said)
    (hhand : ∀ r job, s.link.pc = .inHand r job ↔ s'.link.pc = .inHand r job)
    (hcurrent : ∀ i r a, running (s.state.ops.ops i) = true → (s.state.ops.ops i).id ∉ s.others →
      s.HoldsOn (s.state.ops.ops i).id r a → a.inPass →
      s'.link.rowsGeneration = s'.state.generation ∧ s'.link.pc ≠ .stale)
    (hresets : .reset ∈ s'.link.todo → s'.link.pc = .stale) : s'.Homes := by
  have hback : ∀ id r a, s'.HoldsOn id r a → s.HoldsOn id r a := fun id r a ha =>
    ha.of_same htasks.symm hstaged.symm hsaid.symm fun r job => (hhand r job).mpr
  refine h.of_forth hothers hnext hruns (fun id r a ha => ⟨a, hback id r a ha⟩) ?_ ?_ hresets
  · exact fun i r a _ _ _ ha => ⟨a, ha.of_same htasks hstaged hsaid fun r job => (hhand r job).mp⟩
  · exact fun i r a _ hi hunit ha hpass => hcurrent i r a hi hunit (hback _ r a ha) hpass

/-- The link task goes on with nothing in its hand. -/
theorem Homes.goto (h : s.Homes) {pc : Pc} (hpc : ∀ r job, s.link.pc ≠ .inHand r job)
    (hpc' : ∀ r job, pc ≠ .inHand r job) (htodo : s.link.todo = []) (hstale : pc ≠ .stale) :
    (s.goto pc).Homes := by
  refine h.of_same rfl rfl (fun _ _ => rfl) rfl rfl rfl
    (fun r job => ⟨fun hp => absurd hp (hpc r job), fun hp => absurd hp (hpc' r job)⟩) ?_ ?_
  · exact fun i r a hi hunit ha hpass => ⟨(h.current i r a hi hunit ha hpass).1, hstale⟩
  · intro hmem
    replace hmem : .reset ∈ s.link.todo := hmem
    rw [htodo] at hmem
    cases hmem

/-- A call of the core that is no reset. -/
theorem Homes.called (h : s.Homes) {l : Link} {pc : Pc} (hpc : ∀ r job, s.link.pc ≠ .inHand r job)
    (hpc' : ∀ r job, pc ≠ .inHand r job) (hstale : pc ≠ .stale)
    (hsaid : Adds (· ≠ .reset) s.link.whole l) (htodo : s.link.todo = []) :
    ({ s with link := s.link.called l pc } : Wall).Homes := by
  refine h.of_same rfl rfl (fun _ _ => rfl) rfl rfl rfl
    (fun r job => ⟨fun hp => absurd hp (hpc r job), fun hp => absurd hp (hpc' r job)⟩) ?_ ?_
  · exact fun i r a hi hunit ha hpass => ⟨(h.current i r a hi hunit ha hpass).1, hstale⟩
  · intro hmem
    obtain ⟨said, hlog, hsaid⟩ := hsaid
    replace hmem : .reset ∈ l.log.drop s.link.said.length := hmem
    have hwhole : s.link.whole.log = s.link.said := by
      show s.link.said ++ s.link.todo = _
      rw [htodo, List.append_nil]
    rw [hlog, hwhole, List.drop_left] at hmem
    exact absurd rfl (hsaid _ hmem)

theorem chats_noReset : Chats (Adds (· ≠ .reset)) := by
  refine .adds ?_ fun _ _ _ _ _ _ h => nomatch h
  rintro e he rfl
  cases he

theorem apply_noReset {H : WallLinkHooks} {s l : Link} {c : Link.Call} (hstarts : c.starts = false)
    (hreset : c ≠ .reset) (h : s.apply H c = some l) : Adds (· ≠ .reset) s l := by
  refine apply_adds H (fun _ _ => .adds chats_noReset ?_ ?_ ?_ ?_) (.adds chats_noReset ?_ ?_) ?_
    hstarts hreset ?_ h
  · exact fun _ _ h => nomatch h
  · exact fun _ h => nomatch h
  · exact fun _ _ _ _ h => nomatch h
  · exact fun _ h => nomatch h
  · exact fun _ _ _ _ _ h => nomatch h
  · exact fun _ _ _ h => nomatch h
  · exact fun _ h => nomatch h
  · exact fun _ _ _ _ _ _ h => nomatch h

/-! ### The requests. -/

/-- A task's values change, and its job stays. -/
theorem Homes.setTask (h : s.Homes) {i : Nat} {t' : Task}
    (hback : ∀ job', t'.job = some job' → ∃ t job, s.tasks i = some t ∧ t.job = some job ∧
      job'.op = job.op ∧ job'.row = job.row)
    (hforth : ∀ t job, s.tasks i = some t → t.job = some job → ∃ job', t'.job = some job' ∧
      job'.op = job.op ∧ job'.row = job.row) : (s.setTask i t').Homes := by
  have hold : ∀ j, j ≠ i → Function.update s.tasks i (some t') j = s.tasks j :=
    fun j hj => Function.update_of_ne hj ..
  have hback' : ∀ id r a, (s.setTask i t').HoldsOn id r a → s.HoldsOn id r a := by
    intro id r a ha
    cases a with
    | begun j =>
        obtain ⟨t, job, ht, hjob, hid, hrow⟩ := ha
        by_cases hj : j = i
        · subst hj
          replace ht : Function.update s.tasks j (some t') j = some t := ht
          rw [Function.update_self, Option.some.injEq] at ht
          subst ht
          obtain ⟨t, job₀, ht, hjob₀, hop, hrow₀⟩ := hback job hjob
          exact ⟨t, job₀, ht, hjob₀, by rw [← hop]; exact hid, hrow₀.symm.trans hrow⟩
        · exact ⟨t, job, (hold j hj).symm.trans ht, hjob, hid, hrow⟩
    | staged r' => exact ha
    | hand => exact ha
    | slot r' => exact ha
    | other => exact ha
  refine h.of_forth rfl rfl (fun _ _ => rfl) (fun id r a ha => ⟨a, hback' id r a ha⟩) ?_ ?_ h.resets
  · intro k r a _ _ _ ha
    cases a with
    | begun j =>
        obtain ⟨t, job, ht, hjob, hid, hrow⟩ := ha
        by_cases hj : j = i
        · subst hj
          obtain ⟨job', hjob', hop, hrow'⟩ := hforth t job ht hjob
          refine ⟨.begun j, t', job', ?_, hjob', by rw [hop]; exact hid, hrow'.trans hrow⟩
          exact Function.update_self ..
        · exact ⟨.begun j, t, job, (hold j hj).trans ht, hjob, hid, hrow⟩
    | staged r' => exact ⟨.staged r', ha⟩
    | hand => exact ⟨.hand, ha⟩
    | slot r' => exact ⟨.slot r', ha⟩
    | other => exact ha.elim
  · exact fun k r a _ hk hunit ha hpass => h.current k r a hk hunit (hback' _ r a ha) hpass

/-- A request lets go of a job that has ended. -/
theorem Homes.gaveUp (h : s.Homes) (honce : s.state.ops.Once s.ended) {i : Nat} {t : Task}
    {job : BegunJob} (ht : s.tasks i = some t) (hjob : t.job = some job) (detail : String) :
    ((s.after (s.state.wallOpFinish job.op.opId false detail)).setTask i
      { t with job := none }).Homes := by
  have hruns := (honce.finish job.op.opId false detail).2
  have hold : ∀ j, j ≠ i → Function.update s.tasks i (some { t with job := none }) j = s.tasks j :=
    fun j hj => Function.update_of_ne hj ..
  have hback : ∀ id r a, ((s.after (s.state.wallOpFinish job.op.opId false detail)).setTask i
      { t with job := none }).HoldsOn id r a → s.HoldsOn id r a := by
    intro id r a ha
    cases a with
    | begun j =>
        obtain ⟨t', job', ht', hjob', hrest⟩ := ha
        by_cases hj : j = i
        · subst hj
          replace ht' : Function.update s.tasks j (some { t with job := none }) j = some t' := ht'
          rw [Function.update_self, Option.some.injEq] at ht'
          subst ht'
          cases hjob'
        · exact ⟨t', job', (hold j hj).symm.trans ht', hjob', hrest⟩
    | staged r' => exact ha
    | hand => exact ha
    | slot r' => exact ha
    | other => exact ha
  refine h.of_forth rfl (finish_nextId ..) (fun k hk => (hruns k hk).1)
    (fun id r a ha => ⟨a, hback id r a ha⟩) ?_ ?_ h.resets
  · intro k r a hk _ _ ha
    cases a with
    | begun j =>
        obtain ⟨t', job', ht', hjob', hid, hrow⟩ := ha
        have hj : j ≠ i := by
          rintro rfl
          rw [ht, Option.some.injEq] at ht'
          subst ht'
          rw [hjob, Option.some.injEq] at hjob'
          subst hjob'
          exact (hruns k hk).2 hid.symm
        exact ⟨.begun j, t', job', (hold j hj).trans ht', hjob', hid, hrow⟩
    | staged r' => exact ⟨.staged r', ha⟩
    | hand => exact ⟨.hand, ha⟩
    | slot r' => exact ⟨.slot r', ha⟩
    | other => exact ha.elim
  · exact fun k r a _ hk hunit ha hpass => h.current k r a hk hunit (hback _ r a ha) hpass

/-- A job goes from its request to the staged slot. -/
theorem Homes.stage (h : s.Homes) {i : Nat} {t : Task} {job : BegunJob} (ht : s.tasks i = some t)
    (hjob : t.job = some job) (hempty : s.state.staged job.row = none) (table : WallRowsTable)
    (n : Int) :
    (({ s with state := { s.state with
      staged := Function.update s.state.staged job.row
        (some { row := job.row, op := job.op, table := table })
      jobsStaged := n } } : Wall).setTask i { t with job := none }).Homes := by
  have hold : ∀ j, j ≠ i → Function.update s.tasks i (some { t with job := none }) j = s.tasks j :=
    fun j hj => Function.update_of_ne hj ..
  have hslots : ∀ r, r ≠ job.row → Function.update s.state.staged job.row
      (some { row := job.row, op := job.op, table := table }) r = s.state.staged r :=
    fun r hr => Function.update_of_ne hr ..
  have hback : ∀ id r a, (({ s with state := { s.state with
      staged := Function.update s.state.staged job.row
        (some { row := job.row, op := job.op, table := table })
      jobsStaged := n } } : Wall).setTask i { t with job := none }).HoldsOn id r a →
      s.HoldsOn id r a ∨ s.HoldsOn id r (.begun i) ∧ a = .staged job.row := by
    intro id r a ha
    cases a with
    | begun j =>
        obtain ⟨t', job', ht', hjob', hrest⟩ := ha
        by_cases hj : j = i
        · subst hj
          replace ht' : Function.update s.tasks j (some { t with job := none }) j = some t' := ht'
          rw [Function.update_self, Option.some.injEq] at ht'
          subst ht'
          cases hjob'
        · exact .inl ⟨t', job', (hold j hj).symm.trans ht', hjob', hrest⟩
    | staged r' =>
        obtain ⟨job', hjob', hid, hrow⟩ := ha
        by_cases hr : r' = job.row
        · subst hr
          replace hjob' : Function.update s.state.staged job.row _ job.row = some job' := hjob'
          rw [Function.update_self, Option.some.injEq] at hjob'
          subst hjob'
          exact .inr ⟨⟨t, job, ht, hjob, hid, hrow⟩, rfl⟩
        · exact .inl ⟨job', (hslots r' hr).symm.trans hjob', hid, hrow⟩
    | hand => exact .inl ha
    | slot r' => exact .inl ha
    | other => exact ha.elim
  refine h.of_forth rfl rfl (fun _ _ => rfl) ?_ ?_ ?_ h.resets
  · intro id r a ha
    rcases hback id r a ha with ha | ⟨ha, _⟩
    · exact ⟨a, ha⟩
    · exact ⟨.begun i, ha⟩
  · intro k r a _ _ _ ha
    cases a with
    | begun j =>
        by_cases hj : j = i
        · subst hj
          obtain ⟨t', job', ht', hjob', hid, hrow⟩ := ha
          rw [ht, Option.some.injEq] at ht'
          subst ht'
          rw [hjob, Option.some.injEq] at hjob'
          subst hjob'
          exact ⟨.staged job.row, _, Function.update_self .., hid, hrow⟩
        · obtain ⟨t', job', ht', hjob', hrest⟩ := ha
          exact ⟨.begun j, t', job', (hold j hj).trans ht', hjob', hrest⟩
    | staged r' =>
        obtain ⟨job', hjob', hrest⟩ := ha
        have hr : r' ≠ job.row := by
          rintro rfl
          rw [hempty] at hjob'
          cases hjob'
        exact ⟨.staged r', job', (hslots r' hr).trans hjob', hrest⟩
    | hand => exact ⟨.hand, ha⟩
    | slot r' => exact ⟨.slot r', ha⟩
    | other => exact ha.elim
  · intro k r a _ hk hunit ha hpass
    rcases hback _ r a ha with ha | ⟨_, rfl⟩
    · exact h.current k r a hk hunit ha hpass
    · exact hpass.elim

/-! ### The link task. -/

/-- The link task takes a job under the number its table has. -/
theorem Homes.take (h : s.Homes) {row : RowIx} {job : StagedJob} (hpc : s.link.pc = .locking row)
    (hstaged : s.state.staged row = some job)
    (hsame : s.link.rowsGeneration = s.state.generation) (htodo : s.link.todo = []) (n : Int) :
    (({ s with state := { s.state with
      staged := Function.update s.state.staged row none
      jobsStaged := n } } : Wall).goto (.inHand row job)).Homes := by
  have hslots : ∀ r, r ≠ row → Function.update s.state.staged row none r = s.state.staged r :=
    fun r hr => Function.update_of_ne hr ..
  refine h.of_forth rfl rfl (fun _ _ => rfl) ?_ ?_ ?_ ?_
  · intro id r a ha
    cases a with
    | begun j => exact ⟨.begun j, ha⟩
    | staged r' =>
        obtain ⟨job', hjob', hrest⟩ := ha
        by_cases hr : r' = row
        · subst hr
          replace hjob' : Function.update s.state.staged r' none r' = some job' := hjob'
          rw [Function.update_self] at hjob'
          cases hjob'
        · exact ⟨.staged r', job', (hslots r' hr).symm.trans hjob', hrest⟩
    | hand =>
        obtain ⟨job', hhand, hid⟩ := ha
        injection hhand with hr hjob
        subst hr hjob
        exact ⟨.staged row, job, hstaged, hid, rfl⟩
    | slot r' => exact ⟨.slot r', ha⟩
    | other => exact ha.elim
  · intro k r a _ _ _ ha
    cases a with
    | begun j => exact ⟨.begun j, ha⟩
    | staged r' =>
        obtain ⟨job', hjob', hid, hrow⟩ := ha
        by_cases hr : r' = row
        · subst hr
          rw [hstaged, Option.some.injEq] at hjob'
          subst hjob' hrow
          exact ⟨.hand, job, rfl, hid⟩
        · exact ⟨.staged r', job', (hslots r' hr).trans hjob', hid, hrow⟩
    | hand =>
        obtain ⟨job', hhand, _⟩ := ha
        rw [hpc] at hhand
        cases hhand
    | slot r' => exact ⟨.slot r', ha⟩
    | other => exact ha.elim
  · exact fun k r a _ _ _ _ _ => ⟨hsame, fun hstale => nomatch hstale⟩
  · intro hmem
    replace hmem : .reset ∈ s.link.todo := hmem
    rw [htodo] at hmem
    cases hmem

/-- The core takes the job in hand on. -/
theorem Homes.start (h : s.Homes) (hsound : s.link.Sound) {row : RowIx} {job : StagedJob}
    (hpc : s.link.pc = .inHand row job) {nowMs : UInt32} {l : Link}
    (hstart : s.link.whole.startJob row job.op nowMs = (true, l))
    {asked : RowIx → Option StagedJob} {n : Nat} :
    ({ s with link := { s.link with
      core := l.toWallLinkCore, said := l.log, asked := asked, pc := .taking n } } :
        Wall).Homes := by
  have htodo : s.link.todo = [] := hsound.quiet (by rw [hpc]; exact .inl trivial)
  have hlog := LinkTask.started_log htodo hstart
  have hother : ∀ r, r ≠ row → jobLog r l.log = jobLog r s.link.said := by
    intro r hr
    have hview : jobView r (.jobAccepted row job.op) = none := if_neg fun hrow => hr hrow.symm
    rw [hlog, jobLog_snoc, hview, Option.toList_none, List.append_nil]
  -- the slot was empty, and has this job now
  have hidle : accepts jobStep .idle (jobLog row s.link.said) = some .idle := by
    have hstage : (s.link.core.rows row).job.stage = .none := by
      have hfst : (s.link.whole.startJob row job.op nowMs).1 = true := by rw [hstart]
      replace hfst : ((s.link.core.rows row).job.start job.op nowMs).2 = true := hfst
      unfold WallRowJob.start at hfst
      split at hfst
      · cases hfst
      · next hstage => exact not_not.mp hstage
    rw [hsound.slot htodo row]
    simp [lifeOf, hstage]
  have hwaits : accepts jobStep .idle (jobLog row l.log) = some (.waiting job.op) := by
    have hview : jobView row (.jobAccepted row job.op) = some (.accepted job.op) := if_pos rfl
    rw [hlog, jobLog_snoc, hview]
    exact accepts_snoc hidle rfl
  have hslot : ∀ id r, (∃ q op, accepts jobStep .idle (jobLog row l.log) = some q ∧ q.holds op ∧
      op.opId = id ∧ row = r) → s.HoldsOn id r .hand := by
    rintro id r ⟨q, op, hlife, hop, hid, rfl⟩
    rw [hwaits, Option.some.injEq] at hlife
    subst hlife
    rcases hop with hop | hop
    · injection hop with hop
      exact ⟨job, hpc, by rw [hop]; exact hid⟩
    · cases hop
  have hback : ∀ id r a, ({ s with link := { s.link with
      core := l.toWallLinkCore, said := l.log, asked := asked, pc := .taking n } } :
        Wall).HoldsOn id r a → ∃ b, s.HoldsOn id r b ∧ (a.inPass → b.inPass) := by
    intro id r a ha
    cases a with
    | begun j => exact ⟨.begun j, ha, fun hpass => hpass⟩
    | staged r' => exact ⟨.staged r', ha, fun hpass => hpass⟩
    | hand =>
        obtain ⟨job', hhand, _⟩ := ha
        cases hhand
    | slot r' =>
        by_cases hr : r' = row
        · subst hr
          exact ⟨.hand, hslot id r ha, fun _ => trivial⟩
        · obtain ⟨q, op, hlife, hrest⟩ := ha
          exact ⟨.slot r', ⟨q, op, by rw [← hother r' hr]; exact hlife, hrest⟩, fun _ => trivial⟩
    | other => exact ha.elim
  refine h.of_forth rfl rfl (fun _ _ => rfl) ?_ ?_ ?_ ?_
  · intro id r a ha
    obtain ⟨b, hb, _⟩ := hback id r a ha
    exact ⟨b, hb⟩
  · intro k r a _ _ _ ha
    cases a with
    | begun j => exact ⟨.begun j, ha⟩
    | staged r' => exact ⟨.staged r', ha⟩
    | hand =>
        obtain ⟨job', hhand, hid⟩ := ha
        rw [hpc] at hhand
        injection hhand with hr hjob
        subst hr hjob
        exact ⟨.slot row, _, job.op, hwaits, .inl rfl, hid, rfl⟩
    | slot r' =>
        obtain ⟨q, op, hlife, hop, hrest⟩ := ha
        have hr : r' ≠ row := by
          rintro rfl
          rw [hidle, Option.some.injEq] at hlife
          subst hlife
          rcases hop with hop | hop <;> cases hop
        exact ⟨.slot r', q, op, by rw [← hother r' hr] at hlife; exact hlife, hop, hrest⟩
    | other => exact ha.elim
  · intro k r a _ hk hunit ha hpass
    obtain ⟨b, hb, hbpass⟩ := hback _ r a ha
    exact ⟨(h.current k r b hk hunit hb (hbpass hpass)).1, fun hstale => (by cases hstale)⟩
  · intro hmem
    replace hmem : .reset ∈ s.link.todo := hmem
    rw [htodo] at hmem
    cases hmem

/-- The job in hand ends there. -/
theorem Homes.handEnded (h : s.Homes) (hsound : s.link.Sound) (honce : s.state.ops.Once s.ended)
    {row : RowIx} {job : StagedJob} (hpc : s.link.pc = .inHand row job) (detail : String) (n : Nat) :
    ((s.after (s.state.wallOpFinish job.op.opId false detail)).goto (.taking n)).Homes := by
  have htodo : s.link.todo = [] := hsound.quiet (by rw [hpc]; exact .inl trivial)
  have hruns := (honce.finish job.op.opId false detail).2
  have hback : ∀ id r a, ((s.after (s.state.wallOpFinish job.op.opId false detail)).goto
      (.taking n)).HoldsOn id r a → s.HoldsOn id r a := by
    intro id r a ha
    cases a with
    | hand =>
        obtain ⟨job', hhand, _⟩ := ha
        cases hhand
    | begun j => exact ha
    | staged r' => exact ha
    | slot r' => exact ha
    | other => exact ha
  refine h.of_forth rfl (finish_nextId ..) (fun k hk => (hruns k hk).1)
    (fun id r a ha => ⟨a, hback id r a ha⟩) ?_ ?_ ?_
  · intro k r a hk _ _ ha
    cases a with
    | hand =>
        obtain ⟨job', hhand, hid⟩ := ha
        rw [hpc] at hhand
        injection hhand with _ hjob
        subst hjob
        exact absurd hid.symm (hruns k hk).2
    | begun j => exact ⟨.begun j, ha⟩
    | staged r' => exact ⟨.staged r', ha⟩
    | slot r' => exact ⟨.slot r', ha⟩
    | other => exact ha.elim
  · exact fun k r a _ hk hunit ha hpass =>
      ⟨(h.current k r a hk hunit (hback _ r a ha) hpass).1, fun hstale => nomatch hstale⟩
  · intro hmem
    replace hmem : .reset ∈ s.link.todo := hmem
    rw [htodo] at hmem
    cases hmem

omit [Nanopb] in
/-- What a hook leaves running ran before, and is not what it ends. -/
theorem hookEffect_ends (w : WallState) {ended : List UInt32} (honce : w.ops.Once ended)
    (e : LinkEvent) :
    (hookEffect w e).2.ops.nextId = w.ops.nextId ∧
      ∀ i, running ((hookEffect w e).2.ops.ops i) = true →
        (hookEffect w e).2.ops.ops i = w.ops.ops i ∧
          ∀ r : RowIx, (w.ops.ops i).row = r.val → ¬e.endsJob r (w.ops.ops i).id := by
  have hfinish : ∀ id ok detail, (w.wallOpFinish id ok detail).2.ops.nextId =
      w.ops.nextId ∧ ∀ i,
        running ((w.wallOpFinish id ok detail).2.ops.ops i) = true →
          (w.wallOpFinish id ok detail).2.ops.ops i = w.ops.ops i ∧
            (w.ops.ops i).id ≠ id :=
    fun id ok detail => ⟨finish_nextId .., (honce.finish id ok detail).2⟩
  unfold hookEffect
  split
  · next conn row hello =>
      have hfail := (honce.failJobs (fun op => op.row = row.val) "the row restarted").2
      simp only [WallState.wallOpsFailRow]
      refine ⟨(failJobs_spec ..).1.nextId, ?_⟩
      intro i hi
      refine ⟨(hfail i hi).1, ?_⟩
      intro r hrow hends
      replace hends : row = r := hends
      subst hends
      exact of_decide_eq_false (hfail i hi).2 hrow
  · next conn row state =>
      unfold takeOpState
      have hanswered : ∀ ok detail, state.phase ≠ .running →
          (w.wallOpFinish state.opId ok detail).2.ops.nextId = w.ops.nextId ∧
            ∀ i, running ((w.wallOpFinish state.opId ok detail).2.ops.ops i) = true →
              (w.wallOpFinish state.opId ok detail).2.ops.ops i = w.ops.ops i ∧
                ∀ r : RowIx, (w.ops.ops i).row = r.val →
                  ¬LinkEvent.endsJob r (w.ops.ops i).id
                    (.rowMessage conn row (.opState state)) := by
        intro ok detail _
        obtain ⟨hnext, hends⟩ := hfinish state.opId ok detail
        refine ⟨hnext, fun i hi => ⟨(hends i hi).1, ?_⟩⟩
        rintro r _ ⟨_, hid, _⟩
        exact (hends i hi).2 hid.symm
      split
      · next hphase =>
          refine ⟨rfl, fun i _ => ⟨rfl, ?_⟩⟩
          rintro r _ ⟨_, _, hruns⟩
          exact hruns hphase
      · next hphase => exact hanswered _ _ (by rw [hphase]; exact fun hp => (by cases hp))
      · next hphase => exact hanswered _ _ (by rw [hphase]; exact fun hp => (by cases hp))
      · next hphase _ _ => exact hanswered _ _ hphase
  · next row opId =>
      obtain ⟨hnext, hends⟩ := hfinish opId false "the row did not take the job in time"
      refine ⟨hnext, fun i hi => ⟨(hends i hi).1, ?_⟩⟩
      rintro r _ ⟨_, hid⟩
      exact (hends i hi).2 hid.symm
  · next row opId =>
      obtain ⟨hnext, hends⟩ := hfinish opId false "no result from the row in time"
      refine ⟨hnext, fun i hi => ⟨(hends i hi).1, ?_⟩⟩
      rintro r _ ⟨_, hid⟩
      exact (hends i hi).2 hid.symm
  · next h1 h2 h3 h4 =>
      refine ⟨rfl, fun i _ => ⟨rfl, ?_⟩⟩
      intro r _ hends
      unfold LinkEvent.endsJob at hends
      split at hends
      · exact h2 _ _ _ rfl
      · next r' id' why =>
          cases why with
          | notHandedOver => exact h3 _ _ rfl
          | noResult => exact h4 _ _ rfl
      · exact h1 _ _ _ rfl
      · exact hends

/-- A hook has its effect: the job that leaves a slot has ended. -/
theorem Homes.effect (h : s.Homes) (hsound : s.link.Sound) (honce : s.state.ops.Once s.ended)
    {e : LinkEvent} {rest : List LinkEvent} (htodo : s.link.todo = e :: rest)
    {written : List Written} :
    (({ s with
      link := { s.link with said := s.link.said ++ [e], todo := rest }
      written := written } : Wall).after (hookEffect s.state e)).Homes := by
  obtain ⟨hrows, hgeneration, _, hstaged⟩ := hookEffect_same s.state e
  have hjobs := hookEffect_ends s.state honce e
  have hback : ∀ id r a, (({ s with
      link := { s.link with said := s.link.said ++ [e], todo := rest }
      written := written } : Wall).after (hookEffect s.state e)).HoldsOn id r a →
        s.HoldsOn id r a := by
    intro id r a ha
    cases a with
    | begun j => exact ha
    | staged r' =>
        obtain ⟨job, hjob, hrest⟩ := ha
        exact ⟨job, by rw [← hstaged]; exact hjob, hrest⟩
    | hand => exact ha
    | slot r' =>
        obtain ⟨b, op, hlife, hop, hrest⟩ := ha
        obtain ⟨a, ha, hheld⟩ := hsound.held htodo hop hlife
        exact ⟨a, op, ha, hheld, hrest⟩
    | other => exact ha
  refine h.of_forth rfl hjobs.1 (fun i hi => (hjobs.2 i hi).1)
    (fun id r a ha => ⟨a, hback id r a ha⟩) ?_ ?_ ?_
  · intro i r a hi hrow hunit ha
    cases a with
    | begun j => exact ⟨.begun j, ha⟩
    | staged r' =>
        obtain ⟨job, hjob, hrest⟩ := ha
        refine ⟨.staged r', job, ?_, hrest⟩
        show (hookEffect s.state e).2.staged r' = some job
        rw [hstaged]
        exact hjob
    | hand => exact ⟨.hand, ha⟩
    | slot r' =>
        have hcurrent := h.current i r (.slot r') (by rw [← (hjobs.2 i hi).1]; exact hi) hunit ha
          trivial
        obtain ⟨q, op, hlife, hop, hid, rfl⟩ := ha
        have hlog : accepts jobStep .idle (jobLog r' (s.link.said ++ s.link.todo)) = _ :=
          hsound.follows r'
        rw [htodo] at hlog
        obtain ⟨a, b, ha, hb, hview⟩ := life_step hlog
        rw [ha, Option.some.injEq] at hlife
        subst hlife
        rcases hview with ⟨_, rfl⟩ | ⟨je, hview, hstep⟩
        · exact ⟨.slot r', _, op, hb, hop, hid, rfl⟩
        · by_cases hend : je.isEnd = true
          · -- an end of this job, or a reset, and neither is left running
            exfalso
            have hno := (hjobs.2 i hi).2 r' hrow
            rcases jobView_end hview hstep hend hop with rfl | hends
            · exact hcurrent.2 (h.resets (by rw [htodo]; exact List.mem_cons_self))
            · rw [hid] at hends
              exact hno hends
          · exact ⟨.slot r', b, op, hb, jobStep_holds hop (by simpa using hend) hstep, hid, rfl⟩
    | other => exact ha.elim
  · intro i r a _ hi hunit ha hpass
    obtain ⟨hsame, hstale⟩ := h.current i r a hi hunit (hback _ r a ha) hpass
    refine ⟨?_, hstale⟩
    show s.link.rowsGeneration = (hookEffect s.state e).2.generation
    rw [hgeneration]
    exact hsame
  · intro hmem
    exact h.resets (by rw [htodo]; exact List.mem_cons_of_mem _ hmem)

/-- The wall gets a new table: no job of a row board runs on. -/
theorem Homes.setRows (h : s.Homes) (honce : s.state.ops.Once s.ended) (table : WallRowsTable) :
    (s.after (s.state.wallStateSetRows table)).Homes := by
  have hfail := (honce.failJobs (fun op => 0 ≤ op.row) "the boards of the wall changed").2
  have hruns : ∀ i, running ((s.state.wallStateSetRows table).2.ops.ops i) = true →
      (s.state.wallStateSetRows table).2.ops.ops i = s.state.ops.ops i ∧
        ¬0 ≤ (s.state.ops.ops i).row := by
    simp only [WallState.wallStateSetRows]
    intro i hi
    refine ⟨(hfail i hi).1, ?_⟩
    exact of_decide_eq_false (hfail i hi).2
  have hnext : (s.state.wallStateSetRows table).2.ops.nextId = s.state.ops.nextId := by
    simp only [WallState.wallStateSetRows]
    exact (failJobs_spec ..).1.nextId
  have hempty : ∀ r, (s.state.wallStateSetRows table).2.staged r = none := by
    simp only [WallState.wallStateSetRows]
    exact fun _ => trivial
  generalize s.state.wallStateSetRows table = ends at hruns hnext hempty ⊢
  refine h.of_forth rfl hnext (fun i hi => (hruns i hi).1) ?_ ?_ ?_ h.resets
  · intro id r a ha
    cases a with
    | staged r' =>
        obtain ⟨job, hjob, _⟩ := ha
        exact absurd (hjob.symm.trans (hempty r')) (fun hn => nomatch hn)
    | begun j => exact ⟨.begun j, ha⟩
    | hand => exact ⟨.hand, ha⟩
    | slot r' => exact ⟨.slot r', ha⟩
    | other => exact ha.elim
  · intro i r a hi hrow _ _
    exact absurd (by rw [hrow]; exact Int.natCast_nonneg r.val) (hruns i hi).2
  · intro i r a hi hi' hunit _ _
    obtain ⟨r', _, hrow, _⟩ := h.home i hi' hunit
    exact absurd (by rw [hrow]; exact Int.natCast_nonneg r'.val) (hruns i hi).2

omit [Nanopb] in
/-- `begin` answers 0 only when it begins nothing. -/
theorem start_zero {ops ops' : WallOps} (hcounted : ops.Counted) {name : String} {row : Int}
    {unit : UInt8} (h : ops.start name row unit = (0, ops')) : ops' = ops := by
  rcases start_cases ops name row unit with hno | ⟨i, hyes⟩
  · rw [hno] at h
    injection h with _ h
    exact h.symm
  · rw [hyes] at h
    injection h with hzero _
    have hless := hcounted 0
    rw [hzero] at hless
    exact absurd hless (Nat.not_lt_zero _)

/-- A request begins a job of a row. -/
theorem Homes.begun (h : s.Homes) (hroom : s.state.ops.nextId.toNat + 1 < 4294967296)
    {i : Nat} {t : Task} (ht : s.tasks i = some t) (hjob : t.job = none) {name : String}
    {row : RowIx} {unit : UInt8} {id : UInt32} {ops : WallOps}
    (hstart : s.state.ops.start name row.val unit = (id, ops)) (hid : id ≠ 0) (op : WlOp) :
    (({ s with state := { s.state with ops := ops } } : Wall).setTask i
      { t with job := some { row := row, op := { op with opId := id } } }).Homes := by
  have hold : ∀ j, j ≠ i → Function.update s.tasks i
      (some { t with job := some { row := row, op := { op with opId := id } } }) j = s.tasks j :=
    fun j hj => Function.update_of_ne hj ..
  obtain ⟨hfirst, hnext⟩ : id = s.state.ops.nextId ∧
      ops.nextId.toNat = s.state.ops.nextId.toNat + 1 := by
    rcases start_fresh hroom name row.val unit with hno | hyes
    · rw [hstart] at hno
      injection hno with hzero _
      exact absurd hzero hid
    · rw [hstart] at hyes
      exact hyes
  have hruns : ∀ k, ops.ops k = s.state.ops.ops k ∨
      (ops.ops k).id = id ∧ (ops.ops k).row = row.val := by
    intro k
    have hk := start_runs s.state.ops name row.val unit k
    rw [hstart] at hk
    rcases hk with hk | ⟨_, hk, hrow⟩
    · exact .inl hk
    · exact .inr ⟨by rw [hfirst]; exact hk, hrow⟩
  have hback : ∀ id' r a, (({ s with state := { s.state with ops := ops } } : Wall).setTask i
      { t with job := some { row := row, op := { op with opId := id } } }).HoldsOn id' r a →
      s.HoldsOn id' r a ∨ id' = id ∧ a = .begun i := by
    intro id' r a ha
    cases a with
    | begun j =>
        obtain ⟨t', job', ht', hjob', hid', hrow⟩ := ha
        by_cases hj : j = i
        · subst hj
          replace ht' : Function.update s.tasks j _ j = some t' := ht'
          rw [Function.update_self, Option.some.injEq] at ht'
          subst ht'
          injection hjob' with hjob'
          subst hjob'
          exact .inr ⟨hid'.symm, rfl⟩
        · exact .inl ⟨t', job', (hold j hj).symm.trans ht', hjob', hid', hrow⟩
    | staged r' => exact .inl ha
    | hand => exact .inl ha
    | slot r' => exact .inl ha
    | other => exact ha.elim
  have hforth : ∀ id' r a, s.HoldsOn id' r a →
      (({ s with state := { s.state with ops := ops } } : Wall).setTask i
        { t with job := some { row := row, op := { op with opId := id } } }).HoldsOn id' r a := by
    intro id' r a ha
    cases a with
    | begun j =>
        obtain ⟨t', job', ht', hjob', hrest⟩ := ha
        have hj : j ≠ i := by
          rintro rfl
          rw [ht, Option.some.injEq] at ht'
          subst ht'
          rw [hjob] at hjob'
          cases hjob'
        exact ⟨t', job', (hold j hj).trans ht', hjob', hrest⟩
    | staged r' => exact ha
    | hand => exact ha
    | slot r' => exact ha
    | other => exact ha
  have hnew : ∀ r a, ¬s.HoldsOn id r a := by
    intro r a ha
    have hless := h.known id r a ha
    rw [hfirst] at hless
    exact absurd hless (Nat.lt_irrefl _)
  refine ⟨?_, ?_, ?_, ?_, h.resets⟩
  · intro id' r a ha
    show id'.toNat < ops.nextId.toNat
    rcases hback id' r a ha with ha | ⟨rfl, _⟩
    · rw [hnext]
      exact Nat.lt_succ_of_lt (h.known id' r a ha)
    · rw [hnext, hfirst]
      exact Nat.lt_succ_self _
  · intro id' hid'
    show id'.toNat < ops.nextId.toNat
    rw [hnext]
    exact Nat.lt_succ_of_lt (h.others id' hid')
  · intro k hk hunit
    replace hk : running (ops.ops k) = true := hk
    replace hunit : (ops.ops k).id ∉ s.others := hunit
    show ∃ (r : RowIx) (a : Holder), (ops.ops k).row = r.val ∧ _
    rcases hruns k with hsame | ⟨hid', hrow⟩
    · rw [hsame] at hk hunit ⊢
      obtain ⟨r, a, hrow, ha⟩ := h.home k hk hunit
      rw [← hsame] at ha
      exact ⟨r, a, hrow, hforth _ r a ha⟩
    · refine ⟨row, .begun i, hrow, ?_⟩
      exact ⟨_, _, Function.update_self .., rfl, hid'.symm, rfl⟩
  · intro k r a hk hunit ha hpass
    replace hk : running (ops.ops k) = true := hk
    replace hunit : (ops.ops k).id ∉ s.others := hunit
    rcases hback _ r a ha with ha | ⟨_, rfl⟩
    · replace ha : s.HoldsOn (ops.ops k).id r a := ha
      rcases hruns k with hsame | ⟨hid', _⟩
      · rw [hsame] at hk hunit ha
        exact h.current k r a hk hunit ha hpass
      · rw [hid'] at ha
        exact absurd ha (hnew r a)
    · exact hpass.elim

/-- A job begins that is not of a row board. -/
theorem Homes.otherBegun (h : s.Homes) (hroom : s.state.ops.nextId.toNat + 1 < 4294967296)
    {name : String} {row : Int} {unit : UInt8} {id : UInt32} {ops : WallOps}
    (hstart : s.state.ops.start name row unit = (id, ops)) (hid : id ≠ 0) :
    ({ s with state := { s.state with ops := ops }, others := id :: s.others } : Wall).Homes := by
  obtain ⟨hfirst, hnext⟩ : id = s.state.ops.nextId ∧
      ops.nextId.toNat = s.state.ops.nextId.toNat + 1 := by
    rcases start_fresh hroom name row unit with hno | hyes
    · rw [hstart] at hno
      injection hno with hzero _
      exact absurd hzero hid
    · rw [hstart] at hyes
      exact hyes
  have hsame : ∀ k, (ops.ops k).id ∉ id :: s.others → ops.ops k = s.state.ops.ops k := by
    intro k hk
    have hruns := start_runs s.state.ops name row unit k
    rw [hstart] at hruns
    rcases hruns with hruns | ⟨_, hruns, _⟩
    · exact hruns
    · rw [hfirst] at hk
      exact absurd (by rw [← hruns]; exact List.mem_cons_self) hk
  have hholds : ∀ id' r a, ({ s with state := { s.state with ops := ops }, others := id :: s.others } :
      Wall).HoldsOn id' r a ↔ s.HoldsOn id' r a := by
    intro id' r a
    cases a <;> exact Iff.rfl
  refine ⟨?_, ?_, ?_, ?_, h.resets⟩
  · intro id' r a ha
    show id'.toNat < ops.nextId.toNat
    rw [hnext]
    exact Nat.lt_succ_of_lt (h.known id' r a ((hholds id' r a).mp ha))
  · intro id' hid'
    show id'.toNat < ops.nextId.toNat
    rcases List.mem_cons.mp hid' with rfl | hid'
    · rw [hnext, hfirst]
      exact Nat.lt_succ_self _
    · rw [hnext]
      exact Nat.lt_succ_of_lt (h.others id' hid')
  · intro k hk hunit
    replace hk : running (ops.ops k) = true := hk
    replace hunit : (ops.ops k).id ∉ id :: s.others := hunit
    show ∃ (r : RowIx) (a : Holder), (ops.ops k).row = r.val ∧ _
    have hkeeps := hsame k hunit
    rw [hkeeps] at hk hunit ⊢
    obtain ⟨r, a, hrow, ha⟩ := h.home k hk fun hmem => hunit (List.mem_cons_of_mem _ hmem)
    exact ⟨r, a, hrow, (hholds _ r a).mpr ha⟩
  · intro k r a hk hunit ha hpass
    replace hk : running (ops.ops k) = true := hk
    replace hunit : (ops.ops k).id ∉ id :: s.others := hunit
    replace ha : s.HoldsOn (ops.ops k).id r a := (hholds _ r a).mp ha
    have hkeeps := hsame k hunit
    rw [hkeeps] at hk hunit ha
    exact h.current k r a hk (fun hmem => hunit (List.mem_cons_of_mem _ hmem)) ha hpass

theorem Homes.step {a : Turn} (h : s.Homes) (hsound : s.link.Sound)
    (honce : s.state.ops.Once s.ended) (htakes : s.TakesCurrent a) (hstep : s.step a = some s') :
    s'.Homes := by
  have hnowhere : ∀ {pc : Pc}, s.link.pc = pc → (∀ r job, pc ≠ .inHand r job) →
      ∀ r job, s.link.pc ≠ .inHand r job := by
    intro pc hpc hno
    rw [hpc]
    exact hno
  cases a with
  | look task =>
      have hjobless := look_jobless hstep
      rw [look_cases hstep]
      refine h.setTask (fun _ hjob => nomatch hjob) ?_
      intro t job ht hjob
      rw [hjobless t ht] at hjob
      cases hjob
  | see task =>
      obtain ⟨t, ht, rfl⟩ := see_cases hstep
      refine h.setTask (fun job hjob => ⟨t, job, ht, hjob, rfl, rfl⟩) ?_
      intro t' job ht' hjob
      rw [ht, Option.some.injEq] at ht'
      subst ht'
      exact ⟨job, hjob, rfl, rfl⟩
  | jobBegin task row op name =>
      obtain ⟨t, ht, hjob, rfl | ⟨id, ops, hstart, ⟨hid, rfl⟩ | ⟨hid, rfl⟩⟩⟩ := jobBegin_cases hstep
      · exact h
      · subst hid
        rw [start_zero honce.counted hstart]
        exact h
      · exact h.begun htakes ht hjob hstart hid op
  | jobStage task =>
      obtain ⟨t, job, ht, hjob, _, ⟨hempty, _, rfl⟩ | rfl⟩ := jobStage_cases hstep
      · exact h.stage ht hjob hempty _ _
      · refine h.setTask ?_ ?_
        · intro job' hjob'
          injection hjob' with hjob'
          subst hjob'
          exact ⟨t, job, ht, hjob, rfl, rfl⟩
        · intro t' job' ht' hjob'
          rw [ht, Option.some.injEq] at ht'
          subst ht'
          rw [hjob, Option.some.injEq] at hjob'
          subst hjob'
          exact ⟨_, rfl, rfl, rfl⟩
  | giveUp task =>
      obtain ⟨t, job, ht, hjob, _, rfl⟩ := giveUp_cases hstep
      exact h.gaveUp honce ht hjob _
  | opBegin name row unit =>
      obtain ⟨id, ops, hstart, ⟨hid, rfl⟩ | ⟨hid, rfl⟩⟩ := opBegin_cases hstep
      · subst hid
        rw [start_zero honce.counted hstart]
        exact h
      · exact h.otherBegun htakes hstart hid
  | opFinish id ok detail =>
      obtain ⟨_, rfl⟩ := opFinish_cases hstep
      exact h.of_same rfl (finish_nextId ..) (fun i hi => ((honce.finish id ok detail).2 i hi).1)
        rfl rfl rfl (fun _ _ => Iff.rfl) h.current h.resets
  | setRows table =>
      rw [setRows_cases hstep]
      exact h.setRows honce table
  | check =>
      obtain ⟨hpc, htodo, ⟨hother, rfl⟩ | ⟨_, rfl⟩⟩ := check_cases hstep
      · -- what the reset forgets had ended: the link task had nothing that runs
        refine h.of_same rfl rfl (fun _ _ => rfl) rfl rfl rfl ?_ ?_ (fun _ => rfl)
        · intro r job
          rw [hpc]
          exact ⟨fun hp => (nomatch hp), fun hp => (nomatch hp)⟩
        · intro i r a hi hunit ha hpass
          exact absurd (h.current i r a hi hunit ha hpass).1.symm hother
      · exact h.goto (hnowhere hpc fun _ _ hp => nomatch hp) (fun _ _ hp => nomatch hp) htodo
          fun hp => nomatch hp
  | readTable =>
      obtain ⟨hpc, htodo, rfl⟩ := readTable_cases hstep
      refine h.of_same rfl rfl (fun _ _ => rfl) rfl rfl rfl ?_ ?_ ?_
      · intro r job
        rw [hpc]
        exact ⟨fun hp => (nomatch hp), fun hp => (nomatch hp)⟩
      · intro i r a hi hunit ha hpass
        exact absurd hpc (h.current i r a hi hunit ha hpass).2
      · intro hmem
        replace hmem : .reset ∈ s.link.todo := hmem
        rw [htodo] at hmem
        cases hmem
  | call H c =>
      obtain ⟨hpc, htodo, hreads, l, hl, rfl⟩ := call_cases hstep
      refine h.called (hnowhere hpc fun _ _ hp => nomatch hp) (fun _ _ hp => nomatch hp)
        (fun hp => nomatch hp) (apply_noReset (reads_starts hreads) ?_ hl) htodo
      rintro rfl
      cases hreads
  | beginTakes =>
      obtain ⟨hpc, htodo, rfl | ⟨_, rfl⟩⟩ := beginTakes_cases hstep
      · exact h.goto (hnowhere hpc fun _ _ hp => nomatch hp) (fun _ _ hp => nomatch hp) htodo
          fun hp => nomatch hp
      · exact h.goto (hnowhere hpc fun _ _ hp => nomatch hp) (fun _ _ hp => nomatch hp) htodo
          fun hp => nomatch hp
  | lookStaged =>
      obtain ⟨row, hpc, hgoes⟩ := lookStaged_cases hstep
      have htodo : s.link.todo = [] := hsound.quiet (by rw [hpc]; exact .inl trivial)
      rcases hgoes with rfl | ⟨r, rfl⟩
      · exact h.goto (hnowhere hpc fun _ _ hp => nomatch hp) (fun _ _ hp => nomatch hp) htodo
          fun hp => nomatch hp
      · exact h.goto (hnowhere hpc fun _ _ hp => nomatch hp) (fun _ _ hp => nomatch hp) htodo
          fun hp => nomatch hp
  | take =>
      obtain ⟨row, hpc, hgoes⟩ := take_cases hstep
      have htodo : s.link.todo = [] := hsound.quiet (by rw [hpc]; exact .inl trivial)
      rcases hgoes with rfl | ⟨job, hstaged, rfl⟩
      · exact h.goto (hnowhere hpc fun _ _ hp => nomatch hp) (fun _ _ hp => nomatch hp) htodo
          fun hp => nomatch hp
      · exact h.take hpc hstaged (htakes row hpc (by rw [hstaged]; rfl)) htodo _
  | start updating nowMs =>
      obtain ⟨row, job, hpc, ⟨detail, rfl⟩ | ⟨l, hl, rfl⟩⟩ := startJob_cases hstep
      · exact h.handEnded hsound honce hpc detail _
      · exact h.start hsound hpc hl
  | endTakes =>
      obtain ⟨row, hpc, rfl⟩ := endTakes_cases hstep
      have htodo : s.link.todo = [] := hsound.quiet (by rw [hpc]; exact .inl trivial)
      exact h.goto (hnowhere hpc fun _ _ hp => nomatch hp) (fun _ _ hp => nomatch hp) htodo
        fun hp => nomatch hp
  | tick H nowMs =>
      obtain ⟨hpc, l, hl, rfl⟩ := tick_cases hstep
      exact h.called (hnowhere hpc fun _ _ hp => nomatch hp) (fun _ _ hp => nomatch hp)
        (fun hp => nomatch hp) (apply_noReset rfl (by rintro ⟨⟩) hl) (hsound.quiet (.inr hpc))
  | tell H c =>
      obtain ⟨hpc, htodo, htells, l, hl, rfl⟩ := tell_cases hstep
      refine h.called (hnowhere hpc fun _ _ hp => nomatch hp) (fun _ _ hp => nomatch hp)
        (fun hp => nomatch hp) (apply_noReset (tells_starts htells) ?_ hl) htodo
      rintro rfl
      cases htells
  | publish row =>
      obtain ⟨_, _, rfl⟩ := publish_cases hstep
      exact h.of_same rfl rfl (fun _ _ => rfl) rfl rfl rfl (fun _ _ => Iff.rfl) h.current h.resets
  | endPass =>
      obtain ⟨hpc, htodo, rfl⟩ := endPass_cases hstep
      refine h.goto ?_ (fun _ _ hp => nomatch hp) htodo fun hp => nomatch hp
      rcases hpc with hpc | hpc
      · exact hnowhere hpc fun _ _ hp => nomatch hp
      · exact hnowhere hpc fun _ _ hp => nomatch hp
  | effect =>
      obtain ⟨e, rest, htodo, rfl⟩ := effect_cases hstep
      exact h.effect hsound honce htodo

theorem homes_start (rows : WallRowsTable) : (Wall.start rows).Homes := by
  refine ⟨?_, fun _ h => (nomatch h), fun _ h => (nomatch h), fun _ _ _ h => (nomatch h),
    fun h => (nomatch h)⟩
  intro id r a ha
  cases a with
  | begun i =>
      obtain ⟨t, job, ht, _⟩ := ha
      cases ht
  | staged r' =>
      obtain ⟨job, hjob, _⟩ := ha
      cases hjob
  | hand =>
      obtain ⟨job, hjob, _⟩ := ha
      cases hjob
  | slot r' =>
      obtain ⟨q, op, hlife, hop, _⟩ := ha
      injection hlife with hlife
      subst hlife
      rcases hop with hop | hop <;> cases hop
  | other => exact ha.elim

/-- A job in a slot, as the hooks have it, is in the core's slot or has left it
through an event that is still to be told. -/
theorem slot_or_ending (hsound : s.link.Sound) (hresets : .reset ∈ s.link.todo → s.link.pc = .stale)
    (hstale : s.link.pc ≠ .stale) {r : RowIx} {id : UInt32} {q : JobLife} {op : WlOp}
    (hlife : accepts jobStep .idle (jobLog r s.link.said) = some q) (hop : q.holds op)
    (hid : op.opId = id) : s.HasJob r id := by
  have hlog : accepts jobStep .idle (jobLog r (s.link.said ++ s.link.todo)) =
      some (lifeOf (s.link.core.rows r).job) := hsound.follows r
  rw [jobLog, List.filterMap_append, accepts_append, ← jobLog, hlife, Option.bind_some] at hlog
  have hends : ∀ (todo : List LinkEvent) (q q' : JobLife), q.holds op →
      accepts jobStep q (todo.filterMap (jobView r)) = some q' →
      q'.holds op ∨ ∃ e ∈ todo, e = .reset ∨ e.endsJob r op.opId := by
    intro todo
    induction todo with
    | nil =>
        intro q q' hq hlog
        injection hlog with hlog
        exact .inl (hlog ▸ hq)
    | cons e todo ih =>
        intro q q' hq hlog
        rw [List.filterMap_cons] at hlog
        cases hview : jobView r e with
        | none =>
            rw [hview] at hlog
            rcases ih q q' hq hlog with hq' | ⟨e', he', hends⟩
            · exact .inl hq'
            · exact .inr ⟨e', List.mem_cons_of_mem _ he', hends⟩
        | some je =>
            rw [hview] at hlog
            dsimp only at hlog
            rw [accepts_cons, Option.bind_eq_some_iff] at hlog
            obtain ⟨m, hm, hlog⟩ := hlog
            by_cases hend : je.isEnd = true
            · exact .inr ⟨e, List.mem_cons_self, jobView_end hview hm hend hq⟩
            · rcases ih m q' (jobStep_holds hq (by simpa using hend) hm) hlog with
                hq' | ⟨e', he', hends⟩
              · exact .inl hq'
              · exact .inr ⟨e', List.mem_cons_of_mem _ he', hends⟩
  rcases hends s.link.todo q _ hop hlog with hslot | ⟨e, he, rfl | hends⟩
  · unfold lifeOf at hslot
    split at hslot
    · rcases hslot with hslot | hslot <;> cases hslot
    · next hstage =>
        rcases hslot with hslot | hslot
        · injection hslot with hslot
          exact .slot (by rw [hstage]; exact fun hn => (by cases hn)) (by rw [hslot]; exact hid)
        · cases hslot
    · next hstage =>
        rcases hslot with hslot | hslot
        · cases hslot
        · injection hslot with hslot
          exact .slot (by rw [hstage]; exact fun hn => (by cases hn)) (by rw [hslot]; exact hid)
  · exact absurd (hresets he) hstale
  · exact .ending e he (hid ▸ hends)

/-- Whoever holds a running job has it. -/
theorem Homes.has (h : s.Homes) (hsound : s.link.Sound) {i : Fin WALL_OPS_KEPT}
    (hi : running (s.state.ops.ops i) = true) (hunit : (s.state.ops.ops i).id ∉ s.others) :
    ∃ r : RowIx, (s.state.ops.ops i).row = r.val ∧ s.HasJob r (s.state.ops.ops i).id := by
  obtain ⟨r, a, hrow, ha⟩ := h.home i hi hunit
  refine ⟨r, hrow, ?_⟩
  cases a with
  | begun j =>
      obtain ⟨t, job, ht, hjob, hid, hjobrow⟩ := ha
      exact .begun j t job ht hjob hid hjobrow
  | staged r' =>
      obtain ⟨job, hjob, hid, rfl⟩ := ha
      exact .staged job hjob hid
  | hand =>
      obtain ⟨job, hpc, hid⟩ := ha
      exact .hand job hpc hid
  | slot r' =>
      have hstale := (h.current i r (.slot r') hi hunit ha trivial).2
      obtain ⟨q, op, hlife, hop, hid, rfl⟩ := ha
      exact slot_or_ending hsound h.resets hstale hlife hop hid
  | other => exact ha.elim

end Wall

/-! ## §4. One unit job a row. -/

namespace JobWall

variable {s s' : JobWall}

omit [Nanopb] in
theorem runningOn_not {ops : WallOps} {row : Int} (h : ops.runningOn row = false)
    {i : Fin WALL_OPS_KEPT} (hi : running (ops.ops i) = true) : (ops.ops i).row ≠ row := by
  intro hrow
  unfold runningOn at h
  rw [List.any_eq_false] at h
  exact h i (List.mem_finRange i) (by simp [hi, hrow])

structure Alone (s : JobWall) : Prop where
  alone : ∀ i j, running (s.state.ops.ops i) = true → running (s.state.ops.ops j) = true →
    s.unitJob (s.state.ops.ops i).id → s.unitJob (s.state.ops.ops j).id →
    (s.state.ops.ops i).row = (s.state.ops.ops j).row → i = j
  ownRow : ∀ i, running (s.state.ops.ops i) = true → (s.state.ops.ops i).id ∈ s.own →
    (s.state.ops.ops i).row = WALL_OP_OWN_ROW
  ownOther : ∀ id ∈ s.own, id ∈ s.others

/-- Nothing has begun: what runs on ran before. -/
theorem Alone.of_fewer (h : s.Alone) (hothers : s'.others = s.others) (hown : s'.own = s.own)
    (hruns : ∀ i, running (s'.state.ops.ops i) = true → s'.state.ops.ops i = s.state.ops.ops i) :
    s'.Alone := by
  have hran : ∀ i, running (s'.state.ops.ops i) = true → running (s.state.ops.ops i) = true := by
    intro i hi
    rw [← hruns i hi]
    exact hi
  have hunit : ∀ id, s'.unitJob id → s.unitJob id := by
    intro id hid
    unfold unitJob at hid
    rw [hothers, hown] at hid
    exact hid
  refine ⟨?_, ?_, ?_⟩
  · intro i j hi hj hui huj hrow
    rw [hruns i hi] at hui hrow
    rw [hruns j hj] at huj hrow
    exact h.alone i j (hran i hi) (hran j hj) (hunit _ hui) (hunit _ huj) hrow
  · intro i hi hmem
    rw [hruns i hi, hown] at hmem
    rw [hruns i hi]
    exact h.ownRow i (hran i hi) hmem
  · intro id hid
    rw [hown] at hid
    rw [hothers]
    exact h.ownOther id hid

/-- A job begins: no unit job, or the only one of its row. -/
theorem Alone.begun (h : s.Alone) {name : String} {row : Int} {unit : UInt8}
    (hops : s'.state.ops = (s.state.ops.start name row unit).2)
    (honce : s'.state.ops.Once s'.ended)
    (hunit : ∀ id, id ≠ s.state.ops.nextId → s'.unitJob id → s.unitJob id)
    (hown : ∀ id ∈ s'.own, id ≠ s.state.ops.nextId → id ∈ s.own)
    (hownOther : ∀ id ∈ s'.own, id ∈ s'.others)
    (hknown : ∀ i, (s.state.ops.ops i).id ≠ s.state.ops.nextId)
    (hnew : s'.unitJob s.state.ops.nextId → s.state.ops.runningOn row = false)
    (hnewRow : s.state.ops.nextId ∈ s'.own → row = WALL_OP_OWN_ROW) : s'.Alone := by
  have hruns : ∀ i, s'.state.ops.ops i = s.state.ops.ops i ∨
      (s'.state.ops.ops i).id = s.state.ops.nextId ∧ (s'.state.ops.ops i).row = row := by
    intro i
    rw [hops]
    rcases start_runs s.state.ops name row unit i with hsame | ⟨_, hid, hrow⟩
    · exact .inl hsame
    · exact .inr ⟨hid, hrow⟩
  have hclash : ∀ i j, running (s'.state.ops.ops i) = true → s'.unitJob (s'.state.ops.ops j).id →
      s'.state.ops.ops i = s.state.ops.ops i → (s'.state.ops.ops j).id = s.state.ops.nextId →
      (s'.state.ops.ops j).row = row → (s'.state.ops.ops i).row ≠ (s'.state.ops.ops j).row := by
    intro i j hi huj hsame hid hrow
    rw [hid] at huj
    rw [hsame] at hi ⊢
    rw [hrow]
    exact runningOn_not (hnew huj) hi
  refine ⟨?_, ?_, hownOther⟩
  · intro i j hi hj hui huj hrow
    rcases hruns i with hsame | ⟨hid, hirow⟩
    · rcases hruns j with hsame' | ⟨hid', hjrow⟩
      · rw [hsame] at hi hui hrow
        rw [hsame'] at hj huj hrow
        exact h.alone i j hi hj (hunit _ (hknown i) hui) (hunit _ (hknown j) huj) hrow
      · exact absurd hrow (hclash i j hi huj hsame hid' hjrow)
    · rcases hruns j with hsame' | ⟨hid', hjrow⟩
      · exact absurd hrow.symm (hclash j i hj hui hsame' hid hirow)
      · refine honce.distinct i j ?_ (hid.trans hid'.symm)
        rintro hzero
        simp [running, hzero] at hi
  · intro i hi hmem
    rcases hruns i with hsame | ⟨hid, hrow⟩
    · rw [hsame] at hi hmem ⊢
      exact h.ownRow i hi (hown _ hmem (hknown i))
    · rw [hid] at hmem
      rw [hrow]
      exact hnewRow hmem

/-- What every state of a run is. -/
structure Sound (s : JobWall) : Prop where
  link : s.link.Sound
  once : s.state.ops.Once s.ended
  homes : s.toWall.Homes
  alone : s.Alone

theorem Sound.fresh (h : s.Sound) (i : Fin WALL_OPS_KEPT) :
    (s.state.ops.ops i).id ≠ s.state.ops.nextId := by
  intro hi
  have hless := h.once.counted i
  rw [hi] at hless
  exact Nat.lt_irrefl _ hless

theorem Sound.noOther (h : s.Sound) : s.state.ops.nextId ∉ s.others :=
  fun hmem => Nat.lt_irrefl _ (h.homes.others _ hmem)

/-- A job begins that is neither a row board's nor the own row's. -/
theorem Sound.otherAlone (h : s.Sound) {w : Wall} {name : String} {row : Int} {unit : UInt8}
    (honce : w.state.ops.Once w.ended) (hops : w.state.ops = (s.state.ops.start name row unit).2)
    (hothers : w.others =
      if (s.state.ops.start name row unit).1 = 0 then s.others
      else (s.state.ops.start name row unit).1 :: s.others) :
    ({ s with toWall := w } : JobWall).Alone := by
  rcases start_cases s.state.ops name row unit with hno | ⟨i, hyes⟩
  · rw [hno, if_pos rfl] at hothers
    rw [hno] at hops
    refine h.alone.of_fewer hothers rfl ?_
    intro i _
    show w.state.ops.ops i = _
    rw [hops]
  · have hzero : s.state.ops.nextId ≠ 0 := by
      intro hzero
      have hless := h.once.counted 0
      rw [hzero] at hless
      exact Nat.not_lt_zero _ hless
    rw [hyes, if_neg hzero] at hothers
    have hgrows : ∀ id ∈ s.others, id ∈ w.others := by
      intro id hid
      rw [hothers]
      exact List.mem_cons_of_mem _ hid
    refine h.alone.begun hops honce ?_ (fun _ hid _ => hid)
      (fun id hid => hgrows id (h.alone.ownOther id hid)) h.fresh ?_ ?_
    · rintro id _ (hid | hid)
      · exact .inl fun hmem => hid (hgrows id hmem)
      · exact .inr hid
    · rintro (hid | hid)
      · replace hid : s.state.ops.nextId ∉ w.others := hid
        rw [hothers] at hid
        exact absurd List.mem_cons_self hid
      · exact absurd (h.alone.ownOther _ hid) h.noOther
    · exact fun hmem => absurd (h.alone.ownOther _ hmem) h.noOther

theorem Sound.turn (h : s.Sound) {a : Turn} {w : Wall} (htakes : s.toWall.TakesCurrent a)
    (hstep : s.toWall.step a = some w) : ({ s with toWall := w } : JobWall).Sound := by
  have hmove := Wall.step_jobs htakes hstep
  have honce : w.state.ops.Once w.ended := hmove.once h.once
  refine ⟨Wall.step_sound h.link hstep, honce, h.homes.step h.link h.once htakes hstep, ?_⟩
  cases hmove with
  | same hops _ hothers =>
      refine h.alone.of_fewer hothers rfl ?_
      intro i _
      show w.state.ops.ops i = _
      rw [hops]
  | begun name row unit hidle _ hops _ hothers =>
      have hgrows : ∀ id ∈ s.others, id ∈ w.others := by
        intro id hid
        rw [hothers]
        exact hid
      refine h.alone.begun hops honce ?_ (fun _ hid _ => hid)
        (fun id hid => hgrows id (h.alone.ownOther id hid)) h.fresh (fun _ => hidle) ?_
      · rintro id _ (hid | hid)
        · exact .inl fun hmem => hid (hgrows id hmem)
        · exact .inr hid
      · exact fun hmem => absurd (h.alone.ownOther _ hmem) h.noOther
  | other name row unit _ hops _ hothers => exact h.otherAlone honce hops hothers
  | finished id ok detail hops _ hothers =>
      refine h.alone.of_fewer hothers rfl ?_
      intro i hi
      have hfinish := (h.once.finish id ok detail).2 i
      rw [← hops] at hfinish
      exact (hfinish hi).1
  | failed which reason hops _ hothers =>
      refine h.alone.of_fewer hothers rfl ?_
      intro i hi
      have hfail := (h.once.failJobs which reason).2 i
      rw [← hops] at hfail
      exact (hfail hi).1

/-- The own row's jobs begin as the others do, one at a time. -/
theorem Sound.ownBegin (h : s.Sound) (hroom : s.state.ops.nextId.toNat + 1 < 4294967296)
    (name : String) (unit : UInt8) : (s.ownBegin name unit).Sound := by
  unfold JobWall.ownBegin WallState.wallJobBegin
  by_cases hruns : s.state.ops.runningOn WALL_OP_OWN_ROW = true
  · rw [if_pos hruns]
    exact h
  · rw [if_neg hruns]
    rw [Bool.not_eq_true] at hruns
    rcases hstart : s.state.ops.start name WALL_OP_OWN_ROW unit with ⟨id, ops⟩
    have honce : ops.Once s.ended := by
      have hstarted := h.once.start hroom name WALL_OP_OWN_ROW unit
      rw [hstart] at hstarted
      exact hstarted
    unfold WallState.wallOpBegin
    rw [hstart]
    dsimp only
    split
    · next hzero =>
        subst hzero
        rw [Wall.start_zero h.once.counted hstart]
        exact h
    · next hid =>
        refine ⟨h.link, honce, h.homes.otherBegun hroom hstart hid, ?_⟩
        have hnext : id = s.state.ops.nextId := by
          rcases start_cases s.state.ops name WALL_OP_OWN_ROW unit with hno | ⟨i, hyes⟩
          · rw [hno] at hstart
            injection hstart with hzero _
            exact absurd hzero.symm hid
          · rw [hyes] at hstart
            injection hstart with hnext _
            exact hnext.symm
        subst hnext
        refine h.alone.begun (congrArg Prod.snd hstart).symm honce ?_ ?_ ?_ h.fresh
          (fun _ => hruns) fun _ => rfl
        · rintro id hne (hmem | hmem)
          · exact .inl fun hold => hmem (List.mem_cons_of_mem _ hold)
          · rcases List.mem_cons.mp hmem with hmem | hmem
            · exact absurd hmem hne
            · exact .inr hmem
        · intro id hmem hne
          rcases List.mem_cons.mp hmem with hmem | hmem
          · exact absurd hmem hne
          · exact hmem
        · intro id hmem
          rcases List.mem_cons.mp hmem with hmem | hmem
          · rw [hmem]
            exact List.mem_cons_self
          · exact List.mem_cons_of_mem _ (h.alone.ownOther id hmem)

theorem Sound.step (h : s.Sound) {a : JobTurn} (htakes : s.TakesCurrent a)
    (hstep : s.step a = some s') : s'.Sound := by
  cases a with
  | ownBegin name unit =>
      injection hstep with hstep
      subst hstep
      exact h.ownBegin htakes name unit
  | turn a =>
      replace hstep : (s.toWall.step a).map (fun w => ({ s with toWall := w } : JobWall)) =
        some s' := hstep
      rw [Option.map_eq_some_iff] at hstep
      obtain ⟨w, hw, rfl⟩ := hstep
      exact h.turn htakes hw

theorem sound_start (rows : WallRowsTable) : (JobWall.start rows).Sound := by
  refine ⟨Wall.sound_start rows, once_start, Wall.homes_start rows, ⟨?_, ?_, ?_⟩⟩
  · exact fun _ _ hi => nomatch hi
  · exact fun _ hi => nomatch hi
  · exact fun _ hi => nomatch hi

theorem Sound.owned (h : s.Sound) : s.Owned := by
  refine ⟨h.once.distinct, h.alone.alone, ?_, h.once.nodup⟩
  intro i hi hunit hrow
  refine h.homes.has h.link hi ?_
  rcases hunit with hunit | hown
  · exact hunit
  · rw [h.alone.ownRow i hi hown] at hrow
    exact absurd hrow (by decide)

/-! ## §5. Every run. -/

theorem stages_takes {a : JobTurn} (hnumbered : s.toWall.Numbered)
    (h : s.stagesSeen a = true) : s.TakesCurrent a ∧ ∀ b, a = .turn b → s.seenRow b = true := by
  cases a with
  | ownBegin name unit =>
      have hroom : s.state.ops.nextId.toNat + 1 < 4294967296 := of_decide_eq_true h
      exact ⟨hroom, fun _ hb => nomatch hb⟩
  | turn a =>
      cases a with
      | jobBegin task row op name =>
          have hroom : s.state.ops.nextId.toNat + 1 < 4294967296 := of_decide_eq_true h
          refine ⟨hroom, ?_⟩
          rintro b ⟨⟩
          rfl
      | opBegin name row unit =>
          have hroom : s.state.ops.nextId.toNat + 1 < 4294967296 := of_decide_eq_true h
          refine ⟨hroom, ?_⟩
          rintro b ⟨⟩
          rfl
      | take =>
          refine ⟨?_, fun b hb => by cases hb; rfl⟩
          -- while a pass takes jobs, one is staged only under the pass's own number
          intro row hpc hstaged
          rcases hnumbered.window (by rw [hpc]; trivial) with hsame | hunseen
          · exact hsame
          · rw [hunseen.staged row] at hstaged
            cases hstaged
      | _ => exact ⟨trivial, fun b hb => by cases hb; exact h⟩

/-- A job that begins leaves every running one where it is. -/
theorem begins_keeps {a : JobTurn} (hbegins : a.begins = true) (hstep : s.step a = some s')
    {i : Fin WALL_OPS_KEPT} (hi : running (s.state.ops.ops i) = true) :
    s'.state.ops.ops i = s.state.ops.ops i := by
  have hstart := fun name row unit => start_running s.state.ops name row unit hi
  cases a with
  | ownBegin name unit =>
      injection hstep with hstep
      rw [← hstep]
      unfold JobWall.ownBegin WallState.wallJobBegin
      by_cases hruns : s.state.ops.runningOn WALL_OP_OWN_ROW = true
      · rw [if_pos hruns]
        rfl
      · rw [if_neg hruns]
        dsimp only
        split
        · exact hstart _ _ _
        · exact hstart _ _ _
  | turn a =>
      replace hstep : (s.toWall.step a).map (fun w => ({ s with toWall := w } : JobWall)) =
        some s' := hstep
      rw [Option.map_eq_some_iff] at hstep
      obtain ⟨w, hw, rfl⟩ := hstep
      show w.state.ops.ops i = _
      cases a with
      | jobBegin task row op name =>
          have hkeeps := hstart name row.val op.address.toUInt8
          obtain ⟨t, _, _, rfl | ⟨id, ops, hops, ⟨_, rfl⟩ | ⟨_, rfl⟩⟩⟩ := Wall.jobBegin_cases hw
          · rfl
          · rw [hops] at hkeeps
            exact hkeeps
          · rw [hops] at hkeeps
            exact hkeeps
      | opBegin name row unit =>
          have hkeeps := hstart name row unit
          obtain ⟨id, ops, hops, ⟨_, rfl⟩ | ⟨_, rfl⟩⟩ := Wall.opBegin_cases hw
          · rw [hops] at hkeeps
            exact hkeeps
          · rw [hops] at hkeeps
            exact hkeeps
      | _ => cases hbegins

/-- **Every running unit job is with somebody who will end it**, in every run in
which jobs are staged for rows their starters saw connected: ids are unique, a
row has one unit job, each job ends once, and one that begins pushes no
running one out. -/
theorem running_jobs_are_owned (rows : WallRowsTable) (turns : List JobTurn) (s : JobWall)
    (hmeets : AllMeet (fun s a => s.stagesSeen a = true) JobWall.step (JobWall.start rows) turns)
    (hrun : run JobWall.step (JobWall.start rows) turns = some s) :
    s.Owned ∧ ∀ a s', a.begins = true → s.step a = some s' →
      ∀ i, running (s.state.ops.ops i) = true → s'.state.ops.ops i = s.state.ops.ops i := by
  have hkeeps : s.Sound ∧ s.toWall.Numbered := by
    refine run_invariant_of_meets (P := fun s => s.Sound ∧ s.toWall.Numbered) ?_
      ⟨sound_start rows, Wall.numbered_start rows⟩ hmeets hrun
    rintro a turn b ⟨hsound, hnumbered⟩ hok hstep
    obtain ⟨htakes, hseen⟩ := stages_takes hnumbered hok
    refine ⟨hsound.step htakes hstep, ?_⟩
    cases turn with
    | ownBegin name unit =>
        injection hstep with hstep
        rw [← hstep]
        unfold JobWall.ownBegin WallState.wallJobBegin
        by_cases hruns : a.state.ops.runningOn WALL_OP_OWN_ROW = true
        · rw [if_pos hruns]
          exact hnumbered
        · rw [if_neg hruns]
          dsimp only
          split
          · exact hnumbered.of_same rfl rfl rfl rfl rfl rfl rfl .inl
          · exact hnumbered.of_same rfl rfl rfl rfl rfl rfl rfl .inl
    | turn t =>
        replace hstep : (a.toWall.step t).map (fun w => ({ a with toWall := w } : JobWall)) =
          some b := hstep
        rw [Option.map_eq_some_iff] at hstep
        obtain ⟨w, hw, rfl⟩ := hstep
        exact hnumbered.step (hseen t rfl) hw
  exact ⟨hkeeps.1.owned, fun a s' hbegins hstep i hi => begins_keeps hbegins hstep hi⟩

end JobWall

/-! ## §6. Jobs nobody has. -/

/-- The task whose own step this is. -/
def Turn.task : Turn → Option Nat
  | .look task | .see task | .jobBegin task .. | .jobStage task | .giveUp task => some task
  | _ => none

/-- A task's values change in its own steps only. -/
theorem Wall.step_tasks {s s' : Wall} {a : Turn} (h : s.step a = some s') {i : Nat}
    (hi : a.task ≠ some i) : s'.tasks i = s.tasks i := by
  have hset : ∀ (w : Wall) (task : Nat) (t : Task), some task ≠ some i →
      (w.setTask task t).tasks i = w.tasks i :=
    fun w task t hne => Function.update_of_ne (fun heq => hne (congrArg some heq.symm)) ..
  cases a with
  | look task =>
      rw [Wall.look_cases h]
      exact hset _ _ _ hi
  | see task =>
      obtain ⟨t, _, rfl⟩ := Wall.see_cases h
      exact hset _ _ _ hi
  | jobBegin task row op name =>
      obtain ⟨t, _, _, rfl | ⟨id, ops, _, ⟨_, rfl⟩ | ⟨_, rfl⟩⟩⟩ := Wall.jobBegin_cases h
      · rfl
      · rfl
      · exact hset _ _ _ hi
  | jobStage task =>
      obtain ⟨t, job, _, _, _, ⟨_, _, rfl⟩ | rfl⟩ := Wall.jobStage_cases h
      · exact hset _ _ _ hi
      · exact hset _ _ _ hi
  | giveUp task =>
      obtain ⟨t, job, _, _, _, rfl⟩ := Wall.giveUp_cases h
      exact hset _ _ _ hi
  | opBegin name row unit =>
      obtain ⟨id, ops, _, ⟨_, rfl⟩ | ⟨_, rfl⟩⟩ := Wall.opBegin_cases h
      · rfl
      · rfl
  | opFinish id ok detail =>
      obtain ⟨_, rfl⟩ := Wall.opFinish_cases h
      rfl
  | setRows table =>
      rw [Wall.setRows_cases h]
      rfl
  | check =>
      obtain ⟨_, _, ⟨_, rfl⟩ | ⟨_, rfl⟩⟩ := Wall.check_cases h
      · rfl
      · rfl
  | readTable =>
      obtain ⟨_, _, rfl⟩ := Wall.readTable_cases h
      rfl
  | call H c =>
      obtain ⟨_, _, _, _, _, rfl⟩ := Wall.call_cases h
      rfl
  | beginTakes =>
      obtain ⟨_, _, rfl | ⟨_, rfl⟩⟩ := Wall.beginTakes_cases h
      · rfl
      · rfl
  | lookStaged =>
      obtain ⟨_, _, rfl | ⟨_, rfl⟩⟩ := Wall.lookStaged_cases h
      · rfl
      · rfl
  | take =>
      obtain ⟨_, _, rfl | ⟨_, _, rfl⟩⟩ := Wall.take_cases h
      · rfl
      · rfl
  | start updating nowMs =>
      obtain ⟨_, _, _, ⟨_, rfl⟩ | ⟨_, _, rfl⟩⟩ := Wall.startJob_cases h
      · rfl
      · rfl
  | endTakes =>
      obtain ⟨_, _, rfl⟩ := Wall.endTakes_cases h
      rfl
  | tick H nowMs =>
      obtain ⟨_, _, _, rfl⟩ := Wall.tick_cases h
      rfl
  | tell H c =>
      obtain ⟨_, _, _, _, _, rfl⟩ := Wall.tell_cases h
      rfl
  | publish row =>
      obtain ⟨_, _, rfl⟩ := Wall.publish_cases h
      rfl
  | endPass =>
      obtain ⟨_, _, rfl⟩ := Wall.endPass_cases h
      rfl
  | effect =>
      obtain ⟨_, _, _, rfl⟩ := Wall.effect_cases h
      rfl

/-- Every task but the first has nothing, and the first has no job. -/
def Wall.jobsGone (s : Wall) : Bool :=
  match s.tasks 0 with
  | some { job := some _, .. } => false
  | _ => true

/-- The first job runs on row 0, and nobody has it. -/
def Wall.orphaned (s : Wall) : Bool :=
  WallOps.running (s.state.ops.ops 0) && (s.state.ops.ops 0).row = 0 && s.others.isEmpty &&
    s.jobsGone && (s.state.staged 0).isNone && (s.link.core.rows 0).job.stage = .none &&
    (match s.link.pc with | .reading => true | _ => false) && s.link.todo.isEmpty

namespace JobWall

theorem run_turns (as : List Turn) : ∀ s : JobWall,
    run JobWall.step s (as.map .turn) =
      (run Wall.step s.toWall as).map fun w => { s with toWall := w } := by
  induction as with
  | nil => exact fun s => rfl
  | cons a as ih =>
      intro s
      rw [List.map_cons, run_cons, run_cons]
      show ((s.toWall.step a).map fun w => ({ s with toWall := w } : JobWall)).bind _ = _
      cases s.toWall.step a with
      | none => rfl
      | some w => exact ih { s with toWall := w }

/-- A state with a job that nobody has. -/
theorem orphaned_not_owned {s : JobWall} (h : s.toWall.orphaned = true)
    (htasks : ∀ i, i ≠ 0 → s.tasks i = none) : ¬ s.Owned := by
  simp only [Wall.orphaned, Bool.and_eq_true, decide_eq_true_eq, List.isEmpty_iff,
    Option.isNone_iff_eq_none] at h
  obtain ⟨⟨⟨⟨⟨⟨⟨hruns, hrow⟩, hothers⟩, hjobs⟩, hstaged⟩, hslot⟩, hpc⟩, htodo⟩ := h
  intro howned
  have hunit : s.unitJob (s.state.ops.ops 0).id := by
    left
    rw [hothers]
    exact List.not_mem_nil
  obtain ⟨r, hr, hhas⟩ := howned.held 0 hruns hunit (by omega)
  obtain rfl : r = 0 := by
    have hzero : ((r : Nat) : Int) = 0 := hr.symm.trans hrow
    exact Fin.ext (by simpa using hzero)
  cases hhas with
  | begun i t job ht hjob =>
      by_cases hi : i = 0
      · subst hi
        unfold Wall.jobsGone at hjobs
        rw [ht] at hjobs
        obtain ⟨generation, seen, job'⟩ := t
        subst hjob
        cases hjobs
      · rw [htasks i hi] at ht
        cases ht
  | staged job hjob =>
      rw [hstaged] at hjob
      cases hjob
  | slot hstage => exact hstage hslot
  | hand job hjob =>
      rw [hjob] at hpc
      cases hpc
  | ending e he =>
      rw [htodo] at he
      cases he

/-! ### Ids that come round. -/

/-- The first job runs, `k` more have begun since, and all of those have
ended. -/
structure Began (k : Nat) (s : WallOps) : Prop where
  first : running (s.ops 0) = true ∧ (s.ops 0).id = 1
  rest : ∀ i, i ≠ 0 → running (s.ops i) = false
  ids : ∀ i, (s.ops i).id.toNat < k + 2
  next : s.nextId = UInt32.ofNat (k + 2)

omit [Nanopb] in
theorem Began.start {k : Nat} {s : WallOps} (h : Began k s) :
    ∃ i, i ≠ 0 ∧ s.start "" (-1) 0 = (UInt32.ofNat (k + 2),
      { ops := Function.update s.ops i { id := UInt32.ofNat (k + 2), row := -1 }
        nextId := UInt32.ofNat (k + 3) }) := by
  obtain ⟨i, hi⟩ := freePlace_some (h.rest 1 (by decide))
  refine ⟨i, ?_, ?_⟩
  · rintro rfl
    have hidle := freePlace_idle hi
    rw [h.first.1] at hidle
    cases hidle
  · unfold WallOps.start
    rw [hi]
    dsimp only
    rw [h.next, ← UInt32.ofNat_one, ← UInt32.ofNat_add]

omit [Nanopb] in
/-- One more job begins and ends. -/
theorem Began.next_job {k : Nat} {s : WallOps} (h : Began k s) (hk : k + 2 < 4294967296) :
    Began (k + 1) ((s.start "" (-1) 0).2.finish (UInt32.ofNat (k + 2)) true "").2 := by
  obtain ⟨i, hi, hstart⟩ := h.start
  have hid : (UInt32.ofNat (k + 2)).toNat = k + 2 := UInt32.toNat_ofNat_of_lt hk
  have hzero : UInt32.ofNat (k + 2) ≠ 0 := by
    intro hz
    rw [hz] at hid
    simp at hid
  rw [hstart]
  dsimp only
  have hplaces : ∀ j, j ≠ i →
      Function.update s.ops i { id := UInt32.ofNat (k + 2), row := -1 } j = s.ops j :=
    fun j hj => Function.update_of_ne hj ..
  -- the new job is the only one under its id
  have honly : ∀ j, (Function.update s.ops i
      ({ id := UInt32.ofNat (k + 2), row := -1 } : WallOp) j).id = UInt32.ofNat (k + 2) → j = i := by
    intro j hj
    by_contra hne
    rw [hplaces j hne] at hj
    have hless := h.ids j
    rw [hj, hid] at hless
    exact Nat.lt_irrefl _ hless
  rcases finish_stop
      { ops := Function.update s.ops i { id := UInt32.ofNat (k + 2), row := -1 }
        nextId := UInt32.ofNat (k + 3) } (UInt32.ofNat (k + 2)) true "" with
    ⟨_, hstopped⟩ | ⟨j, op, hj, _, hop, hstop, hyes⟩
  · obtain ⟨j, hj, hidle⟩ := hstopped hzero ⟨i, by
      show (Function.update s.ops i _ i).id = _
      rw [Function.update_self]⟩
    obtain rfl := honly j hj
    replace hidle : running (Function.update s.ops j
      ({ id := UInt32.ofNat (k + 2), row := -1 } : WallOp) j) = false := hidle
    have hruns : running ({ id := UInt32.ofNat (k + 2), row := -1 } : WallOp) = true :=
      Bool.and_eq_true_iff.mpr ⟨decide_eq_true hzero, rfl⟩
    rw [Function.update_self, hruns] at hidle
    cases hidle
  · obtain rfl := honly j hj
    rw [hyes]
    refine ⟨?_, ?_, ?_, rfl⟩
    · show running (Function.update (Function.update s.ops j _) j op 0) = true ∧
        (Function.update (Function.update s.ops j _) j op 0).id = 1
      rw [Function.update_of_ne (Ne.symm hi), hplaces 0 (Ne.symm hi)]
      exact h.first
    · intro m hm
      show running (Function.update (Function.update s.ops j _) j op m) = false
      by_cases hmj : m = j
      · rw [hmj, Function.update_self]
        exact hstop
      · rw [Function.update_of_ne hmj, hplaces m hmj]
        exact h.rest m hm
    · intro m
      show (Function.update (Function.update s.ops j _) j op m).id.toNat < _
      by_cases hmj : m = j
      · rw [hmj, Function.update_self, hop, hid]
        exact Nat.lt_succ_self _
      · rw [Function.update_of_ne hmj, hplaces m hmj]
        exact Nat.lt_succ_of_lt (h.ids m)

/-- `n` jobs begin and end, one after another. -/
def roundTurns : Nat → Nat → List JobTurn
  | _, 0 => []
  | k, n + 1 =>
      .turn (.opBegin "" (-1) 0) :: .turn (.opFinish (UInt32.ofNat (k + 2)) true "") ::
        roundTurns (k + 1) n

theorem run_round (n : Nat) : ∀ {k : Nat} {s : JobWall}, Began k s.state.ops →
    k + n + 2 ≤ 4294967296 →
    ∃ s', run JobWall.step s (roundTurns k n) = some s' ∧ Began (k + n) s'.state.ops := by
  induction n with
  | zero => exact fun h _ => ⟨_, rfl, h⟩
  | succ n ih =>
      intro k s h hroom
      have hk : k + 2 < 4294967296 := by omega
      have hzero : UInt32.ofNat (k + 2) ≠ 0 := by
        intro hz
        have hid : (UInt32.ofNat (k + 2)).toNat = k + 2 := UInt32.toNat_ofNat_of_lt hk
        rw [hz] at hid
        simp at hid
      obtain ⟨i, hi, hstart⟩ := h.start
      have hnext := h.next_job hk
      rw [hstart] at hnext
      have hbegin : JobWall.step s (.turn (.opBegin "" (-1) 0)) =
          some { s with
            state := { s.state with ops := (s.state.ops.start "" (-1) 0).2 }
            others := UInt32.ofNat (k + 2) :: s.others } := by
        show (s.toWall.opBegin "" (-1) 0).map _ = _
        unfold Wall.opBegin WallState.wallOpBegin
        rw [hstart]
        dsimp only
        rw [if_neg hzero]
        rfl
      rw [roundTurns, run_cons, hbegin, Option.bind_some, run_cons]
      show ∃ s', Option.bind (Option.map _ (Wall.opFinish _ _ true "")) _ = some s' ∧ _
      rw [Wall.opFinish, if_pos List.mem_cons_self, Option.map_some, Option.bind_some]
      obtain ⟨s', hrun, hbegan⟩ := ih (k := k + 1) (s := { s with
        toWall := Wall.after { s.toWall with
          state := { s.state with ops := (s.state.ops.start "" (-1) 0).2 }
          others := UInt32.ofNat (k + 2) :: s.others }
          (WallState.wallOpFinish { s.state with ops := (s.state.ops.start "" (-1) 0).2 }
            (UInt32.ofNat (k + 2)) true "") }) (by rw [hstart]; exact hnext) (by omega)
      exact ⟨s', hrun, by rw [show k + (n + 1) = k + 1 + n from by omega]; exact hbegan⟩

end JobWall

end Owned

/-! ## §7. The runs. -/

section Runs

local instance ownedCodec : Nanopb := Codec.nanopb

namespace JobWall

open Wall

/-- A job staged between the comparison of a pass and its take, for a row its
starter did not see. -/
def unseenTurns : List Turn :=
  joinTurns ++ [.beginTakes, .setRows otherBoard] ++ startTurns ++ [.jobStage 0] ++ handTurns ++
    [.endPass, .check, .effect, .effect, .effect, .readTable]

/-- A starter has seen its row, the table changes, and a pass has compared its
number. -/
def oldNumberTurns : List Turn :=
  [.setRows oneBoard, .check, .effect, .readTable] ++ joinTurns.tail ++ idleTurns ++
    [.publish 0, .endPass, .look 0, .see 0, .setRows otherBoard, .check, .effect, .effect, .effect,
      .readTable, .beginTakes]

/-- The number has come round: the job is staged and taken in the same pass. -/
def newNumberTurns : List Turn :=
  [.jobBegin 0 0 homeOp "home", .jobStage 0, .lookStaged, .take, .start false 4, .endTakes,
    .tick (.obliging []) 5, .endPass, .check, .effect, .readTable]

/-- The wall whose table was changed `n` times to the same one. -/
def renumbered (n : Nat) (s : Wall) : Wall :=
  { s.turned otherBoard with
    state := { (s.turned otherBoard).state with
      generation := s.state.generation + UInt32.ofNat n } }

/-- Only the first task takes steps. -/
def firstOnly (a : Turn) : Bool :=
  match a.task with
  | some (_ + 1) => false
  | _ => true

theorem run_firstOnly (as : List Turn) (hfirst : as.all firstOnly = true) {s s' : Wall}
    (hs : ∀ i, i ≠ 0 → s.tasks i = none) (hrun : run Wall.step s as = some s') :
    ∀ i, i ≠ 0 → s'.tasks i = none := by
  induction as generalizing s with
  | nil =>
      rw [run_nil, Option.some.injEq] at hrun
      exact hrun ▸ hs
  | cons a as ih =>
      rw [List.all_cons, Bool.and_eq_true] at hfirst
      rw [run_cons, Option.bind_eq_some_iff] at hrun
      obtain ⟨m, hm, hrest⟩ := hrun
      refine ih hfirst.2 ?_ hrest
      intro i hi
      rw [step_tasks hm]
      · exact hs i hi
      · intro htask
        have hno := hfirst.1
        rw [firstOnly, htask] at hno
        obtain ⟨j, rfl⟩ := Nat.exists_eq_succ_of_ne_zero hi
        cases hno

/-- A job is staged for a row its starter saw, and taken. -/
def takenTurns : List Turn := stagedTurns ++ [.beginTakes] ++ handTurns

theorem running_jobs_are_owned_taken :
    ∃ s : JobWall, run JobWall.step (JobWall.start oneBoard) (takenTurns.map .turn) = some s ∧
      s.state.ops.runningOn 0 = true ∧ s.Owned := by
  have hmeets : AllMeet (fun s a => s.stagesSeen a = true) JobWall.step (JobWall.start oneBoard)
      (takenTurns.map .turn) := AllMeet.of_allMeet (by decide +kernel)
  have hruns : (run JobWall.step (JobWall.start oneBoard) (takenTurns.map .turn)).map
      (fun s => s.state.ops.runningOn 0) = some true := by decide +kernel
  obtain ⟨s, hrun, hs⟩ := Option.map_eq_some_iff.mp hruns
  exact ⟨s, hrun, hs, (running_jobs_are_owned oneBoard _ s hmeets hrun).1⟩

/-- Two jobs more: the first is given no id, the second the first one's. -/
def againTurns : List JobTurn := [.turn (.opBegin "" (-1) 0), .turn (.opBegin "" (-1) 0)]

theorem Began.again {s : JobWall} (h : Began 4294967294 s.state.ops) :
    ∃ s', run JobWall.step s againTurns = some s' ∧ ¬ s'.Owned := by
  obtain ⟨i, hi, hstart⟩ := h.start
  rw [show UInt32.ofNat (4294967294 + 2) = 0 from by decide,
    show UInt32.ofNat (4294967294 + 3) = 1 from by decide] at hstart
  have hfirst : Function.update s.state.ops.ops i ({ id := 0, row := -1 } : WallOp) 0 =
      s.state.ops.ops 0 := Function.update_of_ne (Ne.symm hi) ..
  -- a place whose job has id 0 is an empty one
  let ops : WallOps :=
    { ops := Function.update s.state.ops.ops i { id := 0, row := -1 }, nextId := 1 }
  obtain ⟨j, hj⟩ : ∃ j, ops.freePlace = some j := by
    apply freePlace_some (i := i)
    show running (Function.update s.state.ops.ops i _ i) = false
    rw [Function.update_self]
    rfl
  have hne : j ≠ 0 := by
    rintro rfl
    have hidle : running (Function.update s.state.ops.ops i _ 0) = false := freePlace_idle hj
    rw [hfirst, h.first.1] at hidle
    cases hidle
  let again : WallOps :=
    { ops := Function.update ops.ops j { id := 1, row := -1 }, nextId := 2 }
  have hagain : ops.start "" (-1) 0 = (1, again) := by
    unfold WallOps.start
    rw [hj]
    rfl
  have hone : JobWall.step s (.turn (.opBegin "" (-1) 0)) =
      some { s with state := { s.state with ops := ops } } := by
    show (s.toWall.opBegin "" (-1) 0).map _ = _
    unfold Wall.opBegin WallState.wallOpBegin
    rw [hstart]
    rfl
  have htwo : JobWall.step { s with state := { s.state with ops := ops } }
      (.turn (.opBegin "" (-1) 0)) =
        some { s with state := { s.state with ops := again }, others := 1 :: s.others } := by
    show (Wall.opBegin { s.toWall with state := { s.state with ops := ops } } "" (-1) 0).map _ = _
    unfold Wall.opBegin WallState.wallOpBegin
    rw [hagain]
    rfl
  refine ⟨_, by rw [againTurns, run_cons, hone, Option.bind_some, run_cons, htwo]; rfl, ?_⟩
  intro howned
  have hid0 : (again.ops 0).id = 1 := by
    show (Function.update ops.ops j _ 0).id = 1
    rw [Function.update_of_ne (Ne.symm hne)]
    show (Function.update s.state.ops.ops i _ 0).id = 1
    rw [hfirst]
    exact h.first.2
  have hidj : (again.ops j).id = 1 := by
    show (Function.update ops.ops j _ j).id = 1
    rw [Function.update_self]
  exact hne (howned.distinct 0 j (by rw [hid0]; decide) (hid0.trans hidj.symm)).symm

/-- Only the first job has begun, computed. -/
def firstBegan (s : JobWall) : Bool :=
  (running (s.state.ops.ops 0) && (s.state.ops.ops 0).id = 1) &&
    ((List.finRange WALL_OPS_KEPT).all fun i => i = 0 || !running (s.state.ops.ops i)) &&
    ((List.finRange WALL_OPS_KEPT).all fun i => (s.state.ops.ops i).id.toNat < 2) &&
    s.state.ops.nextId = 2

theorem firstBegan_iff {s : JobWall} : s.firstBegan = true ↔ Began 0 s.state.ops := by
  simp only [firstBegan, Bool.and_eq_true, List.all_eq_true, Bool.or_eq_true, decide_eq_true_eq,
    Bool.not_eq_true']
  constructor
  · rintro ⟨⟨⟨hfirst, hrest⟩, hids⟩, hnext⟩
    refine ⟨hfirst, ?_, fun i => hids i (List.mem_finRange i), hnext⟩
    exact fun i hi => (hrest i (List.mem_finRange i)).resolve_left hi
  · rintro ⟨hfirst, hrest, hids, hnext⟩
    refine ⟨⟨⟨hfirst, fun i _ => ?_⟩, fun i _ => hids i⟩, hnext⟩
    exact or_iff_not_imp_left.mpr (hrest i)

/-- **A job of a row can be with nobody, and two jobs can have one id.**  The
first: one is staged for a row its starter did not see, between the comparison
of a pass and its take.  The second: its starter saw the row, and the table's
number came round before it was staged.  The third: ids come round, with the
first job still running. -/
theorem running_jobs_are_lost :
    (∃ s : JobWall, run JobWall.step (JobWall.start oneBoard) (unseenTurns.map .turn) = some s ∧
      ¬ s.Owned) ∧
    (∃ m s : JobWall,
      run JobWall.step (JobWall.start oneBoard) ((oldNumberTurns ++
        List.replicate (4294967294 + 1) (Turn.setRows otherBoard)).map .turn) = some m ∧
      m.toWall.hasSeen 0 = true ∧
      run JobWall.step m (newNumberTurns.map .turn) = some s ∧ ¬ s.Owned) ∧
    ∃ s : JobWall,
      run JobWall.step (JobWall.start oneBoard)
        (.turn (.opBegin "" (-1) 0) :: roundTurns 0 4294967294 ++ againTurns) = some s ∧
      ¬ s.Owned := by
  refine ⟨?_, ?_, ?_⟩
  · have horphaned : (run Wall.step (Wall.start oneBoard) unseenTurns).map orphaned = some true := by
      decide +kernel
    obtain ⟨s, hrun, hs⟩ := Option.map_eq_some_iff.mp horphaned
    have htasks := run_firstOnly unseenTurns (by decide +kernel) (fun _ _ => rfl) hrun
    refine ⟨{ toWall := s }, ?_, orphaned_not_owned hs htasks⟩
    rw [run_turns]
    show (run Wall.step (Wall.start oneBoard) unseenTurns).map _ = _
    rw [hrun]
    rfl
  · have hjobless : (run Wall.step (Wall.start oneBoard) oldNumberTurns).map jobless =
        some true := by decide +kernel
    obtain ⟨s₀, hrun₀, hs₀⟩ := Option.map_eq_some_iff.mp hjobless
    simp only [jobless, Bool.and_eq_true, List.all_eq_true, Bool.not_eq_true',
      Option.isNone_iff_eq_none, decide_eq_true_eq] at hs₀
    have hround := run_setRows otherBoard 4294967294 s₀
      (fun i => hs₀.1.1 i (List.mem_finRange i)) (fun r => hs₀.1.2 r (List.mem_finRange r)) hs₀.2
    -- from here on the run is a short one again, with the number its starter read
    have hseen : ((run Wall.step (Wall.start oneBoard) oldNumberTurns).map
        (renumbered 4294967295)).map (fun m => m.hasSeen 0) = some true := by decide +kernel
    have horphaned : (((run Wall.step (Wall.start oneBoard) oldNumberTurns).map
        (renumbered 4294967295)).bind fun m => run Wall.step m newNumberTurns).map orphaned =
          some true := by decide +kernel
    rw [hrun₀, Option.map_some] at hseen horphaned
    injection hseen with hseen
    rw [Option.bind_some] at horphaned
    obtain ⟨s, hrun, hs⟩ := Option.map_eq_some_iff.mp horphaned
    have hbefore : run Wall.step (Wall.start oneBoard) (oldNumberTurns ++
        List.replicate (4294967294 + 1) (Turn.setRows otherBoard)) =
          some (renumbered 4294967295 s₀) := by
      rw [run_append, hrun₀, Option.bind_some]
      exact hround
    have htasks₀ : ∀ i, i ≠ 0 → s₀.tasks i = none :=
      run_firstOnly oldNumberTurns (by decide +kernel) (fun _ _ => rfl) hrun₀
    have htasks : ∀ i, i ≠ 0 → s.tasks i = none :=
      run_firstOnly newNumberTurns (by decide +kernel) (s := renumbered 4294967295 s₀) htasks₀ hrun
    refine ⟨{ toWall := renumbered 4294967295 s₀ }, { toWall := s }, ?_, hseen, ?_,
      orphaned_not_owned hs htasks⟩
    · rw [run_turns]
      show (run Wall.step (Wall.start oneBoard) _).map _ = _
      rw [hbefore]
      rfl
    · rw [run_turns, hrun]
      rfl
  · have hfirst : (run JobWall.step (JobWall.start oneBoard)
        [.turn (.opBegin "" (-1) 0)]).map firstBegan = some true := by decide +kernel
    obtain ⟨s₀, hrun₀, hs₀⟩ := Option.map_eq_some_iff.mp hfirst
    obtain ⟨s₁, hrun₁, hs₁⟩ := run_round 4294967294 (firstBegan_iff.mp hs₀) (by omega)
    obtain ⟨s₂, hrun₂, hs₂⟩ := Began.again hs₁
    refine ⟨s₂, ?_, hs₂⟩
    rw [run_append, ← List.singleton_append, run_append, hrun₀, Option.bind_some, hrun₁,
      Option.bind_some]
    exact hrun₂

end JobWall

end Runs

end SplitFlap
