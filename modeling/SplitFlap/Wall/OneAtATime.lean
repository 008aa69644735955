/-
  SplitFlap.Wall.OneAtATime — the worker's restart of every unit among the jobs.

  `RestartUnits.cpp` runs the plan through the job table: a job is begun, handed to
  the display or to the link task, and looked for in the table until it has ended.
  Other tasks begin and end jobs of their own meanwhile; a row's job goes through
  the link's slot, the own row's through the display.  Each clock is the master's,
  and the link's pass goes by one it read at its start.
-/
import SplitFlap.Lib.Machine
import SplitFlap.Wall.Tasks
import SplitFlap.Wall.RestartUnits
import SplitFlap.Wall.UnitJobs

namespace SplitFlap.RestartUnits

open Machine

/-! ## §1. The worker and what is around it. -/

/-- `WallOwnJob`. -/
structure WallOwnJob where
  opId : UInt32
  startedMs : UInt32
  op : WlOp

/-- What the display's result slots say of the own row's job. -/
inductive OwnResult where
  | pending
  | expired
  | ended (ok : Bool) (text : String)

/-- A unit's job that was begun. -/
structure BegunJob where
  unit : Int × UInt8
  opId : UInt32
  deriving DecidableEq

/-- A job's end in the table. -/
structure JobEnd where
  id : UInt32
  ok : Bool
  moment : Nat

/-- Between two ticks, or inside `startCurrent` with its job begun. -/
inductive WorkerPc where
  | loop
  | begun (nowMs : UInt32) (row : Int) (op : WlOp)
  | refused (nowMs : UInt32) (row : Int) (op : WlOp)

/-- `others` are the jobs other tasks have begun.  `listed`, `begun` and `ended` are the
    campaign's boards, the jobs it has begun, and every job's end; no function
    reads them. -/
structure Campaign where
  now : Nat := 0
  wall : WallState := {}
  linkGeneration : UInt32 := 0
  slots : RowIx → WallRowJob := fun _ => {}
  own : Option WallOwnJob := none
  plan : RestartUnitsPlan := {}
  generation : UInt32 := 0
  pc : WorkerPc := .loop
  others : List UInt32 := []
  listed : List RestartUnitsBoard := []
  begun : List BegunJob := []
  ended : List JobEnd := []

inductive Act where
  | wait (ms : Nat)
  /-- Another task begins, stages, hands to the display or ends a job of its own. -/
  | opBegin (name : String) (row : Int) (unit : UInt8)
  | opStage (row : RowIx) (op : WlOp) (generation : UInt32)
  | ownSet (job : WallOwnJob)
  | opFinish (id : UInt32) (ok : Bool) (detail : String)
  | setRows (table : WallRowsTable)
  /-- The link task's pass, by a clock it read `late` ms ago. -/
  | reset
  | take (row : RowIx) (updating : Bool) (late : Nat)
  | linkTick (row : RowIx) (contact : WallRowContact) (late : Nat)
  | answer (row : RowIx) (state : WlOpState)
  | rowRestarted (row : RowIx)
  | ownTick (result : OwnResult)
  /-- `restartUnitsStart`, of boards read under this number of the rows table. -/
  | campaign (boards : List RestartUnitsBoard) (generation : UInt32)
  | tick (gatesClosed : Bool)
  /-- `startCurrent` goes on: has the display's queue room? -/
  | hand (room : Bool)
  | giveUp

namespace Campaign

def millis (s : Campaign) : UInt32 := UInt32.ofNat s.now

/-- After a step that ended these jobs. -/
def after (s : Campaign) (ends : List WallOp × WallState) : Campaign :=
  { s with
    wall := ends.2
    ended := s.ended ++ ends.1.map fun op => ⟨op.id, op.phase = .done, s.now⟩ }

def setSlot (s : Campaign) (row : RowIx) (slot : WallRowJob) : Campaign :=
  { s with slots := Function.update s.slots row slot }

/-! ### Other tasks. -/

def opBegin (s : Campaign) (name : String) (row : Int) (unit : UInt8) : Campaign :=
  let begun := s.wall.wallOpBegin name row unit
  { s with wall := begun.2, others := if begun.1 = 0 then s.others else begun.1 :: s.others }

def opStage (s : Campaign) (row : RowIx) (op : WlOp) (generation : UInt32) : Option Campaign :=
  if op.opId ∈ s.others then some { s with wall := (s.wall.wallJobStage row op generation).2 }
  else none

def ownSet (s : Campaign) (job : WallOwnJob) : Option Campaign :=
  if job.opId ∈ s.others then some { s with own := some job } else none

def opFinish (s : Campaign) (id : UInt32) (ok : Bool) (detail : String) : Option Campaign :=
  if id ∈ s.others then some (s.after (s.wall.wallOpFinish id ok detail)) else none

/-! ### The link task. -/

/-- A pass under a new rows table: the core starts over. -/
def reset (s : Campaign) : Option Campaign :=
  if s.linkGeneration = s.wall.generation then none
  else some { s with linkGeneration := s.wall.generation, slots := fun _ => {} }

/-- `takeJobs`, of one row. -/
def take (s : Campaign) (row : RowIx) (updating : Bool) (late : Nat) : Option Campaign :=
  if s.linkGeneration ≠ s.wall.generation then none
  else
    match s.wall.wallJobTake row with
    | (none, _) => some s
    | (some job, wall) =>
        let s := { s with wall := wall }
        if updating then
          some (s.after (s.wall.wallOpFinish job.op.opId false
            "the row is taking a firmware update"))
        else
          match (s.slots row).start job.op (UInt32.ofNat (s.now - late)) with
          | (slot, true) => some (s.setSlot row slot)
          | (_, false) =>
              some (s.after (s.wall.wallOpFinish job.op.opId false
                "another unit job holds the row"))

/-- `WallLinkCore::tick`, of one row's job. -/
def linkTick (s : Campaign) (row : RowIx) (contact : WallRowContact) (late : Nat) : Campaign :=
  let nowMs := UInt32.ofNat (s.now - late)
  match (s.slots row).overdue nowMs with
  | some why =>
      (s.setSlot row {}).after (hookEffect s.wall (.jobEnded row (s.slots row).op.opId why))
  | none => if (s.slots row).due contact then s.setSlot row ((s.slots row).sent nowMs) else s

/-- The row's OpState about its open job. -/
def answer (s : Campaign) (row : RowIx) (state : WlOpState) : Campaign :=
  match (s.slots row).answer state with
  | (slot, true) => (s.setSlot row slot).after (takeOpState s.wall state)
  | (_, false) => s

def rowRestarted (s : Campaign) (row : RowIx) : Campaign :=
  (s.setSlot row {}).after (s.wall.wallOpsFailRow row "the row restarted")

/-! ### The worker. -/

/-- `wallOwnJobTick`. -/
def ownTick (s : Campaign) (result : OwnResult) : Campaign :=
  match s.own with
  | none => s
  | some job =>
      match result with
      | .pending =>
          if wallLinkElapsed s.millis job.startedMs (wallJobRunMs job.op + WALL_JOB_HAND_OVER_MS) then
            { s with own := none }.after
              (s.wall.wallOpFinish job.opId false "no result from the display in time")
          else s
      | .expired =>
          { s with own := none }.after
            (s.wall.wallOpFinish job.opId false "the result was overwritten by a later job")
      | .ended ok text => { s with own := none }.after (s.wall.wallOpFinish job.opId ok text)

/-- `restartUnitsStart`: one campaign at a time. -/
def campaign (s : Campaign) (boards : List RestartUnitsBoard) (generation : UInt32) :
    Campaign :=
  if s.plan.step ≠ .idle then s
  else
    let begun := s.wall.wallOpBegin "restart-units" (-1) 0
    let s := { s with wall := begun.2 }
    if begun.1 = 0 then s
    else
      { s with
        generation := generation
        plan := .starting begun.1 boards s.millis
        listed := boards
        begun := [] }

def restartKind : WallJobKind := { name := "restart-unit", opcode := .restartUnit, unit := .one }

/-- `startCurrent`, up to its `wallJobBegin`. -/
def startCurrent (s : Campaign) (nowMs : UInt32) : Campaign :=
  match s.plan.current with
  | none => s
  | some (row, address) =>
      match wallJobBuild restartKind (some address.toNat) none with
      | .error _ => { s with plan := s.plan.startRefused nowMs }
      | .ok op =>
          let begun := s.wall.wallJobBegin restartKind.name row address
          if begun.1 = 0 then
            if s.wall.ops.runningOn row then { s with plan := s.plan.startBusy nowMs }
            else { s with plan := s.plan.startRefused nowMs }
          else
            { s with
              wall := begun.2
              begun := s.begun ++ [⟨(row, address), begun.1⟩]
              pc := .begun nowMs row { op with opId := begun.1 } }

/-- `wallOpGet`. -/
def wallOpGet (s : Campaign) (id : UInt32) : Option WallOp :=
  (s.wall.ops.placeOf id).map s.wall.ops.ops

/-- `restartUnitsSummary`. -/
def summary (plan : RestartUnitsPlan) : String :=
  if plan.stopped then s!"stopped for a firmware update after {plan.done} units"
  else if plan.done = 0 ∧ plan.failed = 0 then "no units to restart"
  else if plan.failed = 0 then s!"{plan.done} units restarted"
  else s!"{plan.done} units restarted, {plan.failed} failed"

/-- `restartUnitsTick`; a job it begins is handed over after it. -/
def tick (s : Campaign) (gatesClosed : Bool) : Campaign :=
  match s.plan.step with
  | .idle => s
  | .start =>
      if gatesClosed then { s with plan := s.plan.stop } else s.startCurrent s.millis
  | .wait =>
      match s.wallOpGet s.plan.unitOp with
      | none => { s with plan := s.plan.jobEnded false s.millis }
      | some unitOp =>
          if unitOp.phase ≠ .running then
            { s with plan := s.plan.jobEnded (unitOp.phase = .done) s.millis }
          else { s with plan := s.plan.tick s.millis }
  | .settle => { s with plan := s.plan.tick s.millis }
  | .done =>
      { s with plan := {} }.after
        (s.wall.wallOpFinish s.plan.opId (s.plan.failed = 0) (summary s.plan))

/-- The row a job can be staged for. -/
def rowIx (row : Int) : Option RowIx :=
  if h : 0 ≤ row ∧ row.toNat < WALL_LINK_MAX_ROWS then some ⟨row.toNat, h.2⟩ else none

/-- Where the job that was begun goes, and whether it is taken there. -/
def handed (s : Campaign) (room : Bool) (nowMs : UInt32) (row : Int) (op : WlOp) :
    Option Campaign :=
  if row = RESTART_UNITS_OWN_ROW then
    if room then some { s with own := some ⟨op.opId, nowMs, op⟩ } else none
  else
    match rowIx row with
    | none => none
    | some r =>
        match s.wall.wallJobStage r op s.generation with
        | (true, wall) => some { s with wall := wall }
        | (false, _) => none

/-- `startCurrent` hands its job over. -/
def hand (s : Campaign) (room : Bool) : Option Campaign :=
  match s.pc with
  | .begun nowMs row op =>
      match s.handed room nowMs row op with
      | some s' => some { s' with plan := s.plan.started op.opId nowMs, pc := .loop }
      | none => some { s with pc := .refused nowMs row op }
  | _ => none

/-- Its job was not taken. -/
def giveUp (s : Campaign) : Option Campaign :=
  match s.pc with
  | .refused nowMs row op =>
      let detail :=
        if row = RESTART_UNITS_OWN_ROW then "the display queue was full"
        else "the row could not be handed the job"
      some { s.after (s.wall.wallOpFinish op.opId false detail) with
        plan := s.plan.startRefused nowMs
        pc := .loop }
  | _ => none

/-- The plan's mutex is free: no `startCurrent` is under way. -/
def unlocked (s : Campaign) (next : Campaign) : Option Campaign :=
  match s.pc with
  | .loop => some next
  | _ => none

def step (s : Campaign) : Act → Option Campaign
  | .wait ms => some { s with now := s.now + ms }
  | .opBegin name row unit => some (s.opBegin name row unit)
  | .opStage row op generation => s.opStage row op generation
  | .ownSet job => s.ownSet job
  | .opFinish id ok detail => s.opFinish id ok detail
  | .setRows table => some (s.after (s.wall.wallStateSetRows table))
  | .reset => s.reset
  | .take row updating late => s.take row updating late
  | .linkTick row contact late => some (s.linkTick row contact late)
  | .answer row state => some (s.answer row state)
  | .rowRestarted row => some (s.rowRestarted row)
  | .ownTick result => s.unlocked (s.ownTick result)
  | .campaign boards generation =>
      if boards.length ≤ RESTART_UNITS_BOARDS_MAX then s.unlocked (s.campaign boards generation)
      else none
  | .tick gatesClosed => s.unlocked (s.tick gatesClosed)
  | .hand room => s.hand room
  | .giveUp => s.giveUp

/-- The master after its start. -/
def boot (rows : WallRowsTable) : Campaign := { wall := { rows := rows } }

end Campaign

/-! ## §2. What becomes of the table of jobs. -/

/-- Jobs that ran have ended: these, as they ended. -/
structure Ends (s s' : WallOps) (ends : List WallOp) : Prop where
  same : s.SameJobs s'
  each : ∀ i, s'.ops i = s.ops i ∨ WallOps.running (s.ops i) = true ∧ s'.ops i ∈ ends
  back : ∀ op ∈ ends, op.phase ≠ .running ∧
    ∃ i, WallOps.running (s.ops i) = true ∧ s'.ops i = op

theorem Ends.none (s : WallOps) : Ends s s [] :=
  ⟨.rfl' s, fun _ => .inl rfl, fun _ h => nomatch h⟩

theorem running_iff {op : WallOp} : WallOps.running op = true ↔ op.id ≠ 0 ∧ op.phase = .running := by
  simp [WallOps.running]

theorem Ends.trans {s s' s'' : WallOps} {ends ends' : List WallOp} (h : Ends s s' ends)
    (h' : Ends s' s'' ends') : Ends s s'' (ends ++ ends') := by
  refine ⟨h.same.trans h'.same, ?_, ?_⟩
  · intro i
    rcases h'.each i with hsame | ⟨hruns, hmem⟩
    · rw [hsame]
      exact (h.each i).imp_right fun hended => ⟨hended.1, List.mem_append_left _ hended.2⟩
    · rcases h.each i with hsame | ⟨hran, hended⟩
      · rw [hsame] at hruns
        exact .inr ⟨hruns, List.mem_append_right _ hmem⟩
      · exact absurd (running_iff.mp hruns).2 (h.back _ hended).1
  · intro op hop
    rcases List.mem_append.mp hop with hfirst | hsecond
    · obtain ⟨hphase, i, hruns, hi⟩ := h.back op hfirst
      refine ⟨hphase, i, hruns, ?_⟩
      rcases h'.each i with hsame | ⟨hran, _⟩
      · rw [hsame, hi]
      · rw [hi] at hran
        exact absurd (running_iff.mp hran).2 hphase
    · obtain ⟨hphase, i, hruns, hi⟩ := h'.back op hsecond
      refine ⟨hphase, i, ?_, hi⟩
      rcases h.each i with hsame | ⟨hran, _⟩
      · rw [← hsame]
        exact hruns
      · exact hran

theorem finish_ends (s : WallOps) (id : UInt32) (ok : Bool) (detail : String) :
    Ends s (s.finish id ok detail).2 (s.finish id ok detail).1.toList := by
  have hsame := WallOps.finish_same s id ok detail
  rcases WallOps.finish_stop s id ok detail with ⟨hno, _⟩ | ⟨i, op, hi, hruns, hid, hstop, hyes⟩
  · rw [hno]
    exact .none s
  · rw [hyes] at hsame ⊢
    have hphase : op.phase ≠ .running := by
      intro hrun
      have hzero : op.id ≠ 0 := by
        rw [hid, ← hi]
        exact (running_iff.mp hruns).1
      rw [running_iff.mpr ⟨hzero, hrun⟩] at hstop
      exact absurd hstop (by decide)
    refine ⟨hsame, ?_, ?_⟩
    · intro j
      show Function.update s.ops i op j = _ ∨ _ ∧ Function.update s.ops i op j ∈ _
      by_cases hj : j = i
      · subst hj
        rw [Function.update_self]
        exact .inr ⟨hruns, List.mem_singleton_self op⟩
      · rw [Function.update_of_ne hj]
        exact .inl rfl
    · intro op' hop'
      obtain rfl := List.mem_singleton.mp hop'
      exact ⟨hphase, i, hruns, Function.update_self ..⟩

theorem failJobs_ends (s : WallOps) (which : WallOp → Bool) (reason : String) :
    Ends s (s.failJobs which reason).2 (s.failJobs which reason).1 := by
  have hfold : ∀ (is : List (Fin WALL_OPS_KEPT)) (acc : List WallOp × WallOps),
      Ends s acc.2 acc.1 → Ends s (is.foldl (WallOps.failStep which reason) acc).2
        (is.foldl (WallOps.failStep which reason) acc).1 := by
    intro is
    induction is with
    | nil => exact fun acc hacc => hacc
    | cons i is ih =>
        intro acc hacc
        rw [List.foldl_cons]
        apply ih
        unfold WallOps.failStep
        split
        · have hfinish := finish_ends acc.2 (acc.2.ops i).id false reason
          rcases hcases : acc.2.finish (acc.2.ops i).id false reason with ⟨answer, s'⟩
          rw [hcases] at hfinish
          have hboth := hacc.trans hfinish
          cases answer with
          | none => simpa using hboth
          | some op => exact hboth
        · exact hacc
  exact hfold _ ([], s) (.none s)

/-- `finish` answers with the phase it was asked for. -/
theorem finish_phase {s : WallOps} {id : UInt32} {ok : Bool} {detail : String} {op : WallOp}
    (h : op ∈ (s.finish id ok detail).1.toList) : op.id = id ∧ (op.phase = .done ↔ ok = true) := by
  have hsome : (s.finish id ok detail).1 = some op := by simpa using h
  refine ⟨WallOps.finish_ended hsome, ?_⟩
  unfold WallOps.finish at hsome
  split at hsome
  · exact (nomatch hsome)
  · split at hsome
    · exact (nomatch hsome)
    · obtain rfl := Option.some.inj hsome
      cases ok <;> simp

/-- `failJobs` ends none well. -/
theorem failJobs_phase {s : WallOps} {which : WallOp → Bool} {reason : String} :
    ∀ op ∈ (s.failJobs which reason).1, op.phase ≠ .done := by
  have hfold : ∀ (is : List (Fin WALL_OPS_KEPT)) (acc : List WallOp × WallOps),
      (∀ op ∈ acc.1, op.phase ≠ .done) →
      ∀ op ∈ (is.foldl (WallOps.failStep which reason) acc).1, op.phase ≠ .done := by
    intro is
    induction is with
    | nil => exact fun acc hacc => hacc
    | cons i is ih =>
        intro acc hacc
        rw [List.foldl_cons]
        apply ih
        unfold WallOps.failStep
        split
        · rcases hcases : acc.2.finish (acc.2.ops i).id false reason with ⟨answer, s'⟩
          cases answer with
          | none => exact hacc
          | some op =>
              intro op' hop'
              rcases List.mem_append.mp hop' with hold | hnew
              · exact hacc op' hold
              · have hmem : op' ∈ (acc.2.finish (acc.2.ops i).id false reason).1.toList := by
                  rw [hcases]
                  simpa using hnew
                exact fun hdone => absurd ((finish_phase hmem).2.mp hdone) (by decide)
        · exact hacc
  exact hfold _ ([], s) (fun _ h => nomatch h)

/-- No job of this id runs. -/
def Over (s : WallOps) (id : UInt32) : Prop := ∀ i, (s.ops i).id = id → (s.ops i).phase ≠ .running

/-- The table against every job's end so far. -/
structure Noted (s : WallOps) (ended : List JobEnd) : Prop where
  counted : s.Counted
  distinct : ∀ i j, (s.ops i).id ≠ 0 → (s.ops i).id = (s.ops j).id → i = j
  known : ∀ e ∈ ended, e.id.toNat < s.nextId.toNat
  unended : ∀ i, WallOps.running (s.ops i) = true → ∀ e ∈ ended, e.id ≠ (s.ops i).id
  told : ∀ i, (s.ops i).phase ≠ .running → ∀ e ∈ ended, e.id = (s.ops i).id →
    (e.ok = true ↔ (s.ops i).phase = .done)

def noted (ends : List WallOp) (now : Nat) : List JobEnd :=
  ends.map fun op => ⟨op.id, op.phase = .done, now⟩

section Table

variable {s s' : WallOps} {ends : List WallOp} {ended : List JobEnd}

theorem noted_none : Noted {} [] :=
  ⟨fun _ => Nat.zero_lt_one, fun _ _ h => absurd rfl h, fun _ h => (nomatch h),
    fun _ _ _ h => (nomatch h), fun _ _ _ h => (nomatch h)⟩

theorem Ends.over {id : UInt32} (h : Ends s s' ends) (hover : Over s id) : Over s' id := by
  intro i hi
  rcases h.each i with hsame | ⟨hruns, _⟩
  · rw [hsame] at hi ⊢
    exact hover i hi
  · rw [h.same.id] at hi
    exact absurd (running_iff.mp hruns).2 (hover i hi)

/-- A job that does not run does not end. -/
theorem Ends.others {id : UInt32} (h : Ends s s' ends) (hover : Over s id) :
    ∀ op ∈ ends, op.id ≠ id := by
  intro op hop hid
  obtain ⟨_, i, hruns, hi⟩ := h.back op hop
  have hsame := h.same.id i
  rw [hi, hid] at hsame
  exact hover i hsame.symm (running_iff.mp hruns).2

theorem Noted.closed (h : Noted s ended) (hends : Ends s s' ends) (now : Nat) :
    Noted s' (ended ++ noted ends now) := by
  have hid := hends.same.id
  have hnew : ∀ e ∈ noted ends now, ∃ i, WallOps.running (s.ops i) = true ∧
      e.id = (s.ops i).id ∧ (s'.ops i).phase ≠ .running ∧
      (e.ok = true ↔ (s'.ops i).phase = .done) := by
    intro e he
    obtain ⟨op, hop, rfl⟩ := List.mem_map.mp he
    obtain ⟨hphase, i, hruns, hi⟩ := hends.back op hop
    refine ⟨i, hruns, ?_, hi ▸ hphase, ?_⟩
    · rw [← hid i, hi]
    · rw [hi]
      simp
  have hsame : ∀ {i j}, WallOps.running (s.ops j) = true → (s.ops j).id = (s'.ops i).id →
      j = i := by
    intro i j hruns heq
    rw [hid] at heq
    exact h.distinct j i (running_iff.mp hruns).1 heq
  refine ⟨hends.same.counted h.counted, ?_, ?_, ?_, ?_⟩
  · intro i j hi hij
    rw [hid] at hi hij
    rw [hid] at hij
    exact h.distinct i j hi hij
  · intro e he
    rw [hends.same.nextId]
    rcases List.mem_append.mp he with hold | hend
    · exact h.known e hold
    · obtain ⟨i, _, hei, _⟩ := hnew e hend
      rw [hei]
      exact h.counted i
  · intro i hi e he heq
    rcases hends.each i with hkept | ⟨_, hended⟩
    · rw [hkept] at hi heq
      rcases List.mem_append.mp he with hold | hend
      · exact h.unended i hi e hold heq
      · obtain ⟨j, hruns, hej, hstop, _⟩ := hnew e hend
        have hji : j = i := hsame hruns (hej.symm.trans (heq.trans (hid i ▸ hkept ▸ rfl)))
        subst hji
        rw [hkept] at hstop
        exact hstop (running_iff.mp hi).2
    · exact (hends.back _ hended).1 (running_iff.mp hi).2
  · intro i hi e he heq
    rcases List.mem_append.mp he with hold | hend
    · rcases hends.each i with hkept | ⟨hruns, _⟩
      · rw [hkept] at hi heq ⊢
        exact h.told i hi e hold heq
      · rw [hid] at heq
        exact absurd heq (h.unended i hruns e hold)
    · obtain ⟨j, hruns, hej, _, hok⟩ := hnew e hend
      have hji : j = i := hsame hruns (hej.symm.trans heq)
      subst hji
      exact hok

theorem start_over {id : UInt32} (hover : Over s id) (hne : id ≠ s.nextId) (name : String)
    (row : Int) (unit : UInt8) : Over (s.start name row unit).2 id := by
  intro i hi
  rcases WallOps.start_runs s name row unit i with hsame | ⟨_, hid, _⟩
  · rw [hsame] at hi ⊢
    exact hover i hi
  · exact absurd (hi.symm.trans hid) hne

theorem Noted.start (h : Noted s ended) (hroom : s.nextId.toNat + 1 < 4294967296) (name : String)
    (row : Int) (unit : UInt8) : Noted (s.start name row unit).2 ended := by
  have honce : s.Once [] := ⟨h.counted, h.distinct, List.nodup_nil, fun _ hno => (nomatch hno),
    fun _ hno => (nomatch hno)⟩
  have hstarted := honce.start hroom name row unit
  have hmore : s.nextId.toNat ≤ (s.start name row unit).2.nextId.toNat := by
    rcases WallOps.start_fresh hroom name row unit with hno | ⟨_, hnext⟩
    · rw [hno]
    · omega
  refine ⟨hstarted.counted, hstarted.distinct, ?_, ?_, ?_⟩
  · intro e he
    exact Nat.lt_of_lt_of_le (h.known e he) hmore
  · intro i hi e he
    rcases WallOps.start_runs s name row unit i with hsame | ⟨_, hid, _⟩
    · rw [hsame] at hi ⊢
      exact h.unended i hi e he
    · rw [hid]
      intro heq
      have hknown := h.known e he
      rw [heq] at hknown
      exact Nat.lt_irrefl _ hknown
  · intro i hi e he heq
    rcases WallOps.start_runs s name row unit i with hsame | ⟨_, hid, _⟩
    · rw [hsame] at hi heq ⊢
      exact h.told i hi e he heq
    · rw [hid] at heq
      have hknown := h.known e he
      rw [heq] at hknown
      exact absurd hknown (Nat.lt_irrefl _)

theorem Noted.once (h : Noted s ended) : s.Once [] :=
  ⟨h.counted, h.distinct, List.nodup_nil, fun _ hno => (nomatch hno), fun _ hno => (nomatch hno)⟩

/-- A job that was finished does not run. -/
theorem finish_over (h : Noted s ended) {id : UInt32} (hid : id ≠ 0) (ok : Bool)
    (detail : String) : Over (s.finish id ok detail).2 id := by
  intro i hi hphase
  have hruns : WallOps.running ((s.finish id ok detail).2.ops i) = true :=
    running_iff.mpr ⟨fun hzero => hid (hi.symm.trans hzero), hphase⟩
  obtain ⟨hsame, hne⟩ := (h.once.finish id ok detail).2 i hruns
  exact hne (hsame ▸ hi)

theorem placeOf_over {id : UInt32} (hid : id ≠ 0) (h : s.placeOf id = none) : Over s id := by
  intro i hi
  rw [WallOps.placeOf, if_neg hid, List.find?_eq_none] at h
  exact absurd (decide_eq_true hi) (h i (List.mem_finRange i))

theorem stopped_over (h : Noted s ended) {id : UInt32} (hid : id ≠ 0) {i : Fin WALL_OPS_KEPT}
    (hplace : s.placeOf id = some i) (hphase : (s.ops i).phase ≠ .running) : Over s id := by
  intro j hj
  have hi := WallOps.placeOf_id hplace
  have hij : j = i := h.distinct j i (hj ▸ hid) (hj.trans hi.symm)
  rw [hij]
  exact hphase

end Table

/-! ## §3. What other tasks can do. -/

namespace Campaign

/-- Someone but `startCurrent` holds the job of this id, and may end it. -/
def Held (s : Campaign) (id : UInt32) : Prop :=
  id ∈ s.others ∨ (∃ r job, s.wall.staged r = some job ∧ job.op.opId = id) ∨
    (∃ r, (s.slots r).stage ≠ .none ∧ (s.slots r).op.opId = id) ∨
    ∃ job, s.own = some job ∧ job.opId = id

/-- Jobs have ended, those that ended well by who held them, or one has begun. -/
inductive Tabled (s s' : Campaign) : Prop
  | closed (ends : List WallOp) (table : Ends s.wall.ops s'.wall.ops ends)
      (ended : s'.ended = s.ended ++ noted ends s.now)
      (well : ∀ op ∈ ends, op.phase = .done → s.Held op.id)
      (held : ∀ id, s'.Held id → s.Held id)
  | opened (name : String) (row : Int) (unit : UInt8)
      (table : s'.wall.ops = (s.wall.ops.start name row unit).2) (ended : s'.ended = s.ended)
      (held : ∀ id, s'.Held id → s.Held id ∨
        id = s.wall.ops.nextId ∧ (s.wall.ops.start name row unit).1 = id ∧ id ≠ 0)

/-- A step that is not the plan's. -/
structure Aside (s s' : Campaign) : Prop where
  plan : s'.plan = s.plan
  pc : s'.pc = s.pc
  generation : s'.generation = s.generation
  listed : s'.listed = s.listed
  begun : s'.begun = s.begun
  now : s.now ≤ s'.now
  tabled : Tabled s s'

variable {s s' : Campaign}

theorem Aside.rfl' (s : Campaign) : Aside s s :=
  ⟨rfl, rfl, rfl, rfl, rfl, Nat.le_refl _,
    .closed [] (.none _) (List.append_nil _).symm (fun _ h => nomatch h) (fun _ h => h)⟩

/-- Nothing ends and nobody holds more. -/
theorem Aside.of_held (hplan : s'.plan = s.plan) (hpc : s'.pc = s.pc)
    (hgeneration : s'.generation = s.generation) (hlisted : s'.listed = s.listed)
    (hbegun : s'.begun = s.begun) (hnow : s.now ≤ s'.now) (hops : s'.wall.ops = s.wall.ops)
    (hended : s'.ended = s.ended) (hheld : ∀ id, s'.Held id → s.Held id) : Aside s s' := by
  refine ⟨hplan, hpc, hgeneration, hlisted, hbegun, hnow, .closed [] ?_ ?_ (fun _ h => nomatch h)
    hheld⟩
  · rw [hops]
    exact .none _
  · rw [hended]
    exact (List.append_nil _).symm

/-- Jobs end, in a state in which nobody holds more. -/
theorem Aside.ended (h : Aside s s')
    (hended : s'.ended = s.ended) (hnow : s'.now = s.now) (hheld : ∀ id, s'.Held id → s.Held id)
    {ends : List WallOp × WallState} (htable : Ends s.wall.ops ends.2.ops ends.1)
    (hwell : ∀ op ∈ ends.1, op.phase = .done → s.Held op.id)
    (hstaged : ∀ r job, ends.2.staged r = some job → s'.wall.staged r = some job) :
    Aside s (s'.after ends) := by
  refine ⟨h.plan, h.pc, h.generation, h.listed, h.begun, h.now,
    .closed ends.1 htable ?_ hwell ?_⟩
  · show s'.ended ++ noted ends.1 s'.now = _
    rw [hended, hnow]
  · intro id hid
    apply hheld
    rcases hid with hother | ⟨r, job, hjob, hop⟩ | hslot | hown
    · exact .inl hother
    · exact .inr (.inl ⟨r, job, hstaged r job hjob, hop⟩)
    · exact .inr (.inr (.inl hslot))
    · exact .inr (.inr (.inr hown))

theorem held_setSlot_cases {row : RowIx} {slot : WallRowJob} {id : UInt32}
    (h : (s.setSlot row slot).Held id) : s.Held id ∨ slot.stage ≠ .none ∧ slot.op.opId = id := by
  rcases h with hother | hstaged | ⟨r, hstage, hop⟩ | hown
  · exact .inl (.inl hother)
  · exact .inl (.inr (.inl hstaged))
  · replace hstage : (Function.update s.slots row slot r).stage ≠ .none := hstage
    replace hop : (Function.update s.slots row slot r).op.opId = id := hop
    by_cases hr : r = row
    · subst hr
      rw [Function.update_self] at hstage hop
      exact .inr ⟨hstage, hop⟩
    · rw [Function.update_of_ne hr] at hstage hop
      exact .inl (.inr (.inr (.inl ⟨r, hstage, hop⟩)))
  · exact .inl (.inr (.inr (.inr hown)))

/-- A slot that opens no job but one that was held. -/
theorem held_setSlot {row : RowIx} {slot : WallRowJob} {id : UInt32}
    (h : (s.setSlot row slot).Held id) (hslot : slot.stage ≠ .none → s.Held slot.op.opId) :
    s.Held id := by
  rcases held_setSlot_cases h with hold | ⟨hstage, hop⟩
  · exact hold
  · exact hop ▸ hslot hstage

theorem setSlot_aside {row : RowIx} {slot : WallRowJob}
    (hslot : slot.stage ≠ .none → s.Held slot.op.opId) : Aside s (s.setSlot row slot) :=
  .of_held rfl rfl rfl rfl rfl (Nat.le_refl _) rfl rfl fun _ hid => held_setSlot hid hslot

theorem finish_well {id : UInt32} {ok : Bool} {detail : String} (hok : ok = true → s.Held id) :
    ∀ op ∈ (s.wall.wallOpFinish id ok detail).1, op.phase = .done → s.Held op.id := by
  intro op hop hdone
  have hphase := finish_phase hop
  rw [hphase.1]
  exact hok (hphase.2.mp hdone)

/-- A job is finished; if well, by one who holds it. -/
theorem finish_aside (s : Campaign) (id : UInt32) (ok : Bool) (detail : String)
    (hok : ok = true → s.Held id) : Aside s (s.after (s.wall.wallOpFinish id ok detail)) :=
  (Aside.rfl' s).ended rfl rfl (fun _ h => h) (finish_ends ..) (finish_well hok)
    (fun _ _ h => h)

theorem setSlot_finish_aside {row : RowIx} {slot : WallRowJob} {id : UInt32} {ok : Bool}
    {detail : String} (hslot : slot.stage ≠ .none → s.Held slot.op.opId)
    (hok : ok = true → s.Held id) :
    Aside s ((s.setSlot row slot).after (s.wall.wallOpFinish id ok detail)) :=
  (setSlot_aside hslot).ended rfl rfl (fun _ h => held_setSlot h hslot) (finish_ends ..)
    (finish_well hok) (fun _ _ h => h)

theorem own_finish_aside {id : UInt32} {ok : Bool} {detail : String}
    (hok : ok = true → s.Held id) :
    Aside s ({ s with own := none }.after (s.wall.wallOpFinish id ok detail)) := by
  have hheld : ∀ id, ({ s with own := none } : Campaign).Held id → s.Held id := by
    intro id hid
    rcases hid with hother | hstaged | hslot | ⟨_, hno, _⟩
    · exact .inl hother
    · exact .inr (.inl hstaged)
    · exact .inr (.inr (.inl hslot))
    · exact (nomatch hno)
  have hcleared : Aside s { s with own := none } :=
    .of_held rfl rfl rfl rfl rfl (Nat.le_refl _) rfl rfl hheld
  exact hcleared.ended rfl rfl hheld (finish_ends ..) (finish_well hok) (fun _ _ h => h)

theorem opBegin_aside (s : Campaign) (name : String) (row : Int) (unit : UInt8) :
    Aside s (s.opBegin name row unit) := by
  refine ⟨rfl, rfl, rfl, rfl, rfl, Nat.le_refl _, .opened name row unit rfl rfl ?_⟩
  intro id hid
  rcases hid with hother | hstaged | hslot | hown
  · replace hother : id ∈ (if (s.wall.ops.start name row unit).1 = 0 then s.others
        else (s.wall.ops.start name row unit).1 :: s.others) := hother
    split at hother
    · exact .inl (.inl hother)
    · next hsome =>
        rcases List.mem_cons.mp hother with rfl | hold
        · refine .inr ⟨?_, rfl, hsome⟩
          rcases WallOps.start_cases s.wall.ops name row unit with hno | ⟨i, hyes⟩
          · rw [hno] at hsome
            exact absurd rfl hsome
          · rw [hyes]
        · exact .inl (.inl hold)
  · exact .inl (.inr (.inl hstaged))
  · exact .inl (.inr (.inr (.inl hslot)))
  · exact .inl (.inr (.inr (.inr hown)))

/-- A staged job is one more held; nothing else of the table changes. -/
theorem staged_held {row : RowIx} {op : WlOp} {generation : UInt32} {r : RowIx} {job : StagedJob}
    (h : (s.wall.wallJobStage row op generation).2.staged r = some job) :
    s.wall.staged r = some job ∨ job.op = op := by
  unfold WallState.wallJobStage at h
  split at h
  · exact .inl h
  · replace h : Function.update s.wall.staged row _ r = some job := h
    by_cases hr : r = row
    · subst hr
      rw [Function.update_self] at h
      obtain rfl := Option.some.inj h
      exact .inr rfl
    · rw [Function.update_of_ne hr] at h
      exact .inl h

theorem staged_ops (w : WallState) (row : RowIx) (op : WlOp) (generation : UInt32) :
    (w.wallJobStage row op generation).2.ops = w.ops := by
  unfold WallState.wallJobStage
  split <;> rfl

theorem opStage_aside {row : RowIx} {op : WlOp} {generation : UInt32}
    (h : s.opStage row op generation = some s') : Aside s s' := by
  unfold opStage at h
  split at h
  · next hother =>
      obtain rfl := Option.some.inj h
      refine .of_held rfl rfl rfl rfl rfl (Nat.le_refl _) (staged_ops ..) rfl ?_
      intro id hid
      rcases hid with hid | ⟨r, job, hjob, hop⟩ | hslot | hown
      · exact .inl hid
      · rcases staged_held hjob with hold | hnew
        · exact .inr (.inl ⟨r, job, hold, hop⟩)
        · rw [hnew] at hop
          exact .inl (hop ▸ hother)
      · exact .inr (.inr (.inl hslot))
      · exact .inr (.inr (.inr hown))
  · exact (nomatch h)

theorem ownSet_aside {job : WallOwnJob} (h : s.ownSet job = some s') : Aside s s' := by
  unfold ownSet at h
  split at h
  · next hother =>
      obtain rfl := Option.some.inj h
      refine .of_held rfl rfl rfl rfl rfl (Nat.le_refl _) rfl rfl ?_
      intro id hid
      rcases hid with hid | hstaged | hslot | ⟨job', hjob, hop⟩
      · exact .inl hid
      · exact .inr (.inl hstaged)
      · exact .inr (.inr (.inl hslot))
      · obtain rfl := Option.some.inj hjob
        exact .inl (hop ▸ hother)
  · exact (nomatch h)

theorem opFinish_aside {id : UInt32} {ok : Bool} {detail : String}
    (h : s.opFinish id ok detail = some s') : Aside s s' := by
  unfold opFinish at h
  split at h
  · next hother =>
      obtain rfl := Option.some.inj h
      exact finish_aside s id ok detail fun _ => .inl hother
  · exact (nomatch h)

/-- Jobs of row boards fail. -/
theorem failed_aside (h : Aside s s') (hended : s'.ended = s.ended) (hnow : s'.now = s.now)
    (hheld : ∀ id, s'.Held id → s.Held id) {ends : List WallOp} {wall : WallState}
    (htable : Ends s.wall.ops wall.ops ends) (hnone : ∀ op ∈ ends, op.phase ≠ .done)
    (hstaged : ∀ r job, wall.staged r = some job → s'.wall.staged r = some job) :
    Aside s (s'.after (ends, wall)) :=
  h.ended hended hnow hheld htable (fun op hop hdone => absurd hdone (hnone op hop)) hstaged

theorem setRows_aside (s : Campaign) (table : WallRowsTable) :
    Aside s (s.after (s.wall.wallStateSetRows table)) := by
  have htable := failJobs_ends s.wall.ops (fun op => 0 ≤ op.row) "the boards of the wall changed"
  have hnone := @failJobs_phase s.wall.ops (fun op => 0 ≤ op.row) "the boards of the wall changed"
  unfold WallState.wallStateSetRows
  generalize s.wall.ops.failJobs _ _ = failed at htable hnone ⊢
  exact failed_aside (.rfl' s) rfl rfl (fun _ h => h) htable hnone (fun _ _ h => nomatch h)

theorem reset_aside (h : s.reset = some s') : Aside s s' := by
  unfold reset at h
  split at h
  · exact (nomatch h)
  · obtain rfl := Option.some.inj h
    refine .of_held rfl rfl rfl rfl rfl (Nat.le_refl _) rfl rfl ?_
    intro id hid
    rcases hid with hid | hstaged | ⟨r, hstage, _⟩ | hown
    · exact .inl hid
    · exact .inr (.inl hstaged)
    · exact absurd rfl hstage
    · exact .inr (.inr (.inr hown))

theorem rowRestarted_aside (s : Campaign) (row : RowIx) : Aside s (s.rowRestarted row) := by
  have hslot : ({} : WallRowJob).stage ≠ .none → s.Held ({} : WallRowJob).op.opId :=
    fun hno => absurd rfl hno
  have htable := failJobs_ends s.wall.ops (fun op => op.row = row.val) "the row restarted"
  have hnone := @failJobs_phase s.wall.ops (fun op => op.row = row.val) "the row restarted"
  unfold rowRestarted WallState.wallOpsFailRow
  generalize s.wall.ops.failJobs _ _ = failed at htable hnone ⊢
  exact failed_aside (setSlot_aside hslot) rfl rfl (fun _ h => held_setSlot h hslot) htable hnone
    (fun _ _ h => h)

/-- A job that was staged is in hand. -/
theorem taken_aside {row : RowIx} {job : StagedJob} {wall : WallState}
    (h : s.wall.wallJobTake row = (some job, wall)) :
    Aside s { s with wall := wall } ∧ wall.ops = s.wall.ops ∧ s.Held job.op.opId ∧
      ∀ id, ({ s with wall := wall } : Campaign).Held id → s.Held id := by
  unfold WallState.wallJobTake at h
  split at h
  · exact (nomatch h)
  · next job' hjob =>
      obtain ⟨hsame, rfl⟩ := Prod.mk.inj h
      obtain rfl := Option.some.inj hsame
      have hheld : ∀ id, ({ s with wall := { s.wall with
          staged := Function.update s.wall.staged row none
          jobsStaged := s.wall.jobsStaged - 1 } } : Campaign).Held id → s.Held id := by
        intro id hid
        rcases hid with hid | ⟨r, staged, hstaged, hop⟩ | hslot | hown
        · exact .inl hid
        · replace hstaged : Function.update s.wall.staged row none r = some staged := hstaged
          by_cases hr : r = row
          · rw [hr, Function.update_self] at hstaged
            exact (nomatch hstaged)
          · rw [Function.update_of_ne hr] at hstaged
            exact .inr (.inl ⟨r, staged, hstaged, hop⟩)
        · exact .inr (.inr (.inl hslot))
        · exact .inr (.inr (.inr hown))
      exact ⟨.of_held rfl rfl rfl rfl rfl (Nat.le_refl _) rfl rfl hheld, rfl,
        .inr (.inl ⟨row, job', hjob, rfl⟩), hheld⟩

theorem take_aside {row : RowIx} {updating : Bool} {late : Nat}
    (h : s.take row updating late = some s') : Aside s s' := by
  unfold take at h
  split at h
  · exact (nomatch h)
  · split at h
    · obtain rfl := Option.some.inj h
      exact .rfl' s
    · next job wall hjob =>
        obtain ⟨hmoved, hops, hheldJob, hheld⟩ := taken_aside hjob
        have hfinish : ∀ detail, Aside s
            (({ s with wall := wall } : Campaign).after
              (wall.wallOpFinish job.op.opId false detail)) := by
          intro detail
          have htable := finish_ends wall.ops job.op.opId false detail
          rw [hops] at htable
          refine hmoved.ended rfl rfl hheld ?_ ?_ (fun _ _ hkept => hkept)
          · unfold WallState.wallOpFinish
            rw [hops]
            exact htable
          · intro op hop hdone
            exact absurd ((finish_phase hop).2.mp hdone) (by decide)
        dsimp only at h
        split at h
        · obtain rfl := Option.some.inj h
          exact hfinish _
        · split at h
          · next slot hstart =>
              obtain rfl := Option.some.inj h
              have hop : slot.op = job.op := by
                unfold WallRowJob.start at hstart
                split at hstart
                · exact (nomatch hstart)
                · rw [← (Prod.mk.inj hstart).1]
              refine .of_held rfl rfl rfl rfl rfl (Nat.le_refl _) hops rfl ?_
              intro id hid
              rcases held_setSlot_cases hid with hold | ⟨_, hopId⟩
              · exact hheld id hold
              · rw [hop] at hopId
                exact hopId ▸ hheldJob
          · obtain rfl := Option.some.inj h
            exact hfinish _

theorem linkTick_aside (s : Campaign) (row : RowIx) (contact : WallRowContact) (late : Nat) :
    Aside s (s.linkTick row contact late) := by
  unfold linkTick
  dsimp only
  split
  · next why hover =>
      have hend : ∃ detail, hookEffect s.wall (.jobEnded row (s.slots row).op.opId why) =
          s.wall.wallOpFinish (s.slots row).op.opId false detail := by
        cases why with
        | notHandedOver => exact ⟨_, rfl⟩
        | noResult => exact ⟨_, rfl⟩
      obtain ⟨detail, hdetail⟩ := hend
      rw [hdetail]
      exact setSlot_finish_aside (fun hno => absurd rfl hno) (fun hno => nomatch hno)
  · split
    · next hdue =>
        apply setSlot_aside
        intro _
        -- What is handed over was waiting.
        have hwaiting : (s.slots row).stage = .waiting := by
          unfold WallRowJob.due at hdue
          simp only [Bool.and_eq_true, decide_eq_true_eq] at hdue
          exact hdue.1.1.1
        refine .inr (.inr (.inl ⟨row, ?_, rfl⟩))
        rw [hwaiting]
        exact fun hno => nomatch hno
    · exact .rfl' s

theorem answer_aside (s : Campaign) (row : RowIx) (state : WlOpState) :
    Aside s (s.answer row state) := by
  unfold answer
  split
  · next slot hanswer =>
      unfold WallRowJob.answer at hanswer
      split at hanswer
      · exact (nomatch hanswer)
      · next hopen =>
          rw [not_or, not_not, not_not] at hopen
          have hsent : (s.slots row).stage ≠ .none := by
            rw [hopen.1]
            exact fun hno => nomatch hno
          have hheld : s.Held state.opId := .inr (.inr (.inl ⟨row, hsent, hopen.2.symm⟩))
          have hslot : slot.stage ≠ .none → s.Held slot.op.opId := by
            intro hstage
            split at hanswer
            · rw [← (Prod.mk.inj hanswer).1] at hstage
              exact absurd rfl hstage
            · rw [← (Prod.mk.inj hanswer).1]
              exact .inr (.inr (.inl ⟨row, hsent, rfl⟩))
          unfold takeOpState
          split
          · exact (setSlot_aside hslot).ended rfl rfl (fun _ h => held_setSlot h hslot) (.none _)
              (fun _ h => nomatch h) (fun _ _ h => h)
          · exact setSlot_finish_aside hslot fun _ => hheld
          · exact setSlot_finish_aside hslot fun _ => hheld
          · exact setSlot_finish_aside hslot fun _ => hheld
  · exact .rfl' s

theorem ownTick_aside (s : Campaign) (result : OwnResult) : Aside s (s.ownTick result) := by
  unfold ownTick
  split
  · exact .rfl' s
  · next job hjob =>
      have hheld : s.Held job.opId := .inr (.inr (.inr ⟨job, hjob, rfl⟩))
      split
      · split
        · exact own_finish_aside fun _ => hheld
        · exact .rfl' s
      · exact own_finish_aside fun _ => hheld
      · exact own_finish_aside fun _ => hheld

theorem wait_aside (s : Campaign) (ms : Nat) : Aside s { s with now := s.now + ms } :=
  .of_held rfl rfl rfl rfl rfl (Nat.le_add_right _ _) rfl rfl fun _ h => h

theorem unlocked_some {next : Campaign} (h : s.unlocked next = some s') :
    s.pc = .loop ∧ s' = next := by
  unfold unlocked at h
  split at h
  · next hloop => exact ⟨hloop, (Option.some.inj h).symm⟩
  · exact (nomatch h)

/-- Whatever is not the plan's own step leaves it alone. -/
theorem step_aside {a : Act} (h : s.step a = some s') :
    Aside s s' ∨ (∃ boards generation, a = .campaign boards generation ∧ s.pc = .loop ∧
        boards.length ≤ RESTART_UNITS_BOARDS_MAX ∧ s' = s.campaign boards generation) ∨
      (∃ gatesClosed, a = .tick gatesClosed ∧ s.pc = .loop ∧ s' = s.tick gatesClosed) ∨
      (∃ room, a = .hand room ∧ s.hand room = some s') ∨ a = .giveUp ∧ s.giveUp = some s' := by
  cases a with
  | wait ms => exact .inl (Option.some.inj h ▸ wait_aside s ms)
  | opBegin name row unit => exact .inl (Option.some.inj h ▸ opBegin_aside s name row unit)
  | opStage row op generation => exact .inl (opStage_aside h)
  | ownSet job => exact .inl (ownSet_aside h)
  | opFinish id ok detail => exact .inl (opFinish_aside h)
  | setRows table => exact .inl (Option.some.inj h ▸ setRows_aside s table)
  | reset => exact .inl (reset_aside h)
  | take row updating late => exact .inl (take_aside h)
  | linkTick row contact late =>
      exact .inl (Option.some.inj h ▸ linkTick_aside s row contact late)
  | answer row state => exact .inl (Option.some.inj h ▸ answer_aside s row state)
  | rowRestarted row => exact .inl (Option.some.inj h ▸ rowRestarted_aside s row)
  | ownTick result =>
      obtain ⟨_, rfl⟩ := unlocked_some h
      exact .inl (ownTick_aside s result)
  | campaign boards generation =>
      replace h : (if boards.length ≤ RESTART_UNITS_BOARDS_MAX then
        s.unlocked (s.campaign boards generation) else none) = some s' := h
      split at h
      · next hfit =>
          obtain ⟨hloop, hnext⟩ := unlocked_some h
          exact .inr (.inl ⟨boards, generation, rfl, hloop, hfit, hnext⟩)
      · exact (nomatch h)
  | tick gatesClosed =>
      obtain ⟨hloop, hnext⟩ := unlocked_some h
      exact .inr (.inr (.inl ⟨gatesClosed, rfl, hloop, hnext⟩))
  | hand room => exact .inr (.inr (.inr (.inl ⟨room, rfl, h⟩)))
  | giveUp => exact .inr (.inr (.inr (.inr ⟨rfl, h⟩)))

/-! ## §4. One restart after the other. -/

/-- A job this id has been given to. -/
def Known (s : Campaign) (id : UInt32) : Prop :=
  id ≠ 0 ∧ id.toNat < s.wall.ops.nextId.toNat

/-- The job does not run, and a unit that took it has had its time. -/
def Free (s : Campaign) (id : UInt32) : Prop :=
  Over s.wall.ops id ∧
    ∀ e ∈ s.ended, e.id = id → e.ok = true →
      e.moment + RESTART_UNITS_SETTLE_MS.toNat ≤ s.now

/-- What the plan waits for is the job it has begun last. -/
def Resting (s : Campaign) : Prop :=
  match s.plan.step with
  | .start => ∀ b, s.begun.getLast? = some b → s.Known b.opId ∧ s.Free b.opId
  | .wait => ∃ b, s.begun.getLast? = some b ∧ b.opId = s.plan.unitOp ∧ s.Known b.opId
  | .settle => ∃ b since, s.begun.getLast? = some b ∧ s.Known b.opId ∧ Over s.wall.ops b.opId ∧
      s.plan.sinceMs = UInt32.ofNat since ∧ since ≤ s.now ∧
      ∀ e ∈ s.ended, e.id = b.opId → e.ok = true → e.moment ≤ since
  | _ => True

/-- The job was begun last, and nobody can have ended it well. -/
structure Begun (s : Campaign) (op : WlOp) : Prop where
  step : s.plan.step = .start
  last : ∃ b, s.begun.getLast? = some b ∧ b.opId = op.opId
  known : s.Known op.opId
  unheld : ¬ s.Held op.opId
  unwell : ∀ e ∈ s.ended, e.id = op.opId → e.ok = false

structure Calm (s : Campaign) : Prop where
  noted : Noted s.wall.ops s.ended
  past : ∀ e ∈ s.ended, e.moment ≤ s.now
  held : ∀ id, s.Held id → id.toNat < s.wall.ops.nextId.toNat
  resting : s.pc = .loop → s.Resting
  begun : ∀ nowMs row op, s.pc = .begun nowMs row op ∨ s.pc = .refused nowMs row op → s.Begun op

/-- The numbers of the jobs have not come round. -/
def Room (s : Campaign) : Prop := s.wall.ops.nextId.toNat + 1 < 4294967296

theorem start_nextId (s : WallOps) (hroom : s.nextId.toNat + 1 < 4294967296) (name : String)
    (row : Int) (unit : UInt8) : s.nextId.toNat ≤ (s.start name row unit).2.nextId.toNat := by
  rcases WallOps.start_fresh hroom name row unit with hno | ⟨_, hnext⟩
  · rw [hno]
  · omega

/-- What other tasks do leaves the table consistent with the ends, and later. -/
structure Later (s s' : Campaign) : Prop where
  noted : Noted s'.wall.ops s'.ended
  past : ∀ e ∈ s'.ended, e.moment ≤ s'.now
  now : s.now ≤ s'.now
  nextId : s.wall.ops.nextId.toNat ≤ s'.wall.ops.nextId.toNat
  held : ∀ id, s'.Held id → id.toNat < s'.wall.ops.nextId.toNat
  ended : ∀ id, id.toNat < s.wall.ops.nextId.toNat → Over s.wall.ops id → Over s'.wall.ops id ∧
    ∀ e ∈ s'.ended, e.id = id → e ∈ s.ended
  unheld : ∀ id, id.toNat < s.wall.ops.nextId.toNat → ¬ s.Held id → ¬ s'.Held id ∧
    ∀ e ∈ s'.ended, e.id = id → e.ok = true → e ∈ s.ended

theorem past_noted {ends : List WallOp} (h : ∀ e ∈ s.ended, e.moment ≤ s.now) :
    ∀ e ∈ s.ended ++ noted ends s.now, e.moment ≤ s.now := by
  intro e he
  rcases List.mem_append.mp he with hold | hnew
  · exact h e hold
  · obtain ⟨op, _, rfl⟩ := List.mem_map.mp hnew
    exact Nat.le_refl _

theorem Aside.later (h : Aside s s') (hcalm : s.Calm) (hroom : s.Room) : Later s s' := by
  cases h.tabled with
  | closed ends table ended well held =>
      have hnext : s'.wall.ops.nextId = s.wall.ops.nextId := table.same.nextId
      refine ⟨?_, ?_, h.now, by rw [hnext], ?_, ?_, ?_⟩
      · rw [ended]
        exact hcalm.noted.closed table s.now
      · intro e he
        rw [ended] at he
        exact (past_noted hcalm.past e he).trans h.now
      · intro id hid
        rw [hnext]
        exact hcalm.held id (held id hid)
      · intro id _ hover
        refine ⟨table.over hover, ?_⟩
        intro e he hid
        rw [ended] at he
        rcases List.mem_append.mp he with hold | hnew
        · exact hold
        · obtain ⟨op, hop, rfl⟩ := List.mem_map.mp hnew
          exact absurd hid (table.others hover op hop)
      · intro id _ hunheld
        refine ⟨fun hid => hunheld (held id hid), ?_⟩
        intro e he hid hok
        rw [ended] at he
        rcases List.mem_append.mp he with hold | hnew
        · exact hold
        · obtain ⟨op, hop, rfl⟩ := List.mem_map.mp hnew
          exact absurd (hid ▸ well op hop (of_decide_eq_true hok)) hunheld
  | opened name row unit table ended held =>
      have hmore := start_nextId s.wall.ops hroom name row unit
      rw [← table] at hmore
      refine ⟨?_, ?_, h.now, hmore, ?_, ?_, ?_⟩
      · rw [table, ended]
        exact hcalm.noted.start hroom name row unit
      · intro e he
        rw [ended] at he
        exact (hcalm.past e he).trans h.now
      · intro id hid
        rcases held id hid with hold | ⟨hfresh, hgiven, hsome⟩
        · exact Nat.lt_of_lt_of_le (hcalm.held id hold) hmore
        · rcases WallOps.start_fresh hroom name row unit with hno | ⟨_, hnext⟩
          · rw [hno] at hgiven
            exact absurd hgiven.symm hsome
          · rw [table, hnext, hfresh]
            exact Nat.lt_succ_self _
      · intro id hknown hover
        have hne : id ≠ s.wall.ops.nextId := by
          rintro rfl
          exact Nat.lt_irrefl _ hknown
        rw [table, ended]
        exact ⟨start_over hover hne name row unit, fun e he _ => he⟩
      · intro id hknown hunheld
        rw [ended]
        refine ⟨?_, fun e he _ _ => he⟩
        intro hid
        rcases held id hid with hold | ⟨hfresh, _⟩
        · exact hunheld hold
        · rw [hfresh] at hknown
          exact Nat.lt_irrefl _ hknown

theorem Later.known (h : Later s s') {id : UInt32} (hid : s.Known id) : s'.Known id :=
  ⟨hid.1, Nat.lt_of_lt_of_le hid.2 h.nextId⟩

theorem Later.free (h : Later s s') {id : UInt32} (hknown : s.Known id) (hid : s.Free id) :
    s'.Free id := by
  obtain ⟨hover, hold⟩ := h.ended id hknown.2 hid.1
  exact ⟨hover, fun e he heq hok => (hid.2 e (hold e he heq) heq hok).trans h.now⟩

theorem Aside.calm (h : Aside s s') (hcalm : s.Calm) (hroom : s.Room) : s'.Calm := by
  have hlater := h.later hcalm hroom
  refine ⟨hlater.noted, hlater.past, hlater.held, ?_, ?_⟩
  · intro hloop
    have hrest := hcalm.resting (h.pc ▸ hloop)
    unfold Resting at hrest ⊢
    rw [h.plan, h.begun]
    cases hstep : s.plan.step with
    | start =>
        rw [hstep] at hrest
        intro b hb
        obtain ⟨hknown, hfree⟩ := hrest b hb
        exact ⟨hlater.known hknown, hlater.free hknown hfree⟩
    | wait =>
        rw [hstep] at hrest
        obtain ⟨b, hb, hop, hknown⟩ := hrest
        exact ⟨b, hb, hop, hlater.known hknown⟩
    | settle =>
        rw [hstep] at hrest
        obtain ⟨b, since, hb, hknown, hover, hsince, hpast, hends⟩ := hrest
        obtain ⟨hover', hold⟩ := hlater.ended _ hknown.2 hover
        exact ⟨b, since, hb, hlater.known hknown, hover', hsince, hpast.trans h.now,
          fun e he heq hok => hends e (hold e he heq) heq hok⟩
    | idle => trivial
    | done => trivial
  · intro nowMs row op hpc
    rw [h.pc] at hpc
    have hbegun := hcalm.begun nowMs row op hpc
    obtain ⟨hunheld, hwell⟩ := hlater.unheld _ hbegun.known.2 hbegun.unheld
    refine ⟨h.plan ▸ hbegun.step, h.begun ▸ hbegun.last, hlater.known hbegun.known, hunheld, ?_⟩
    intro e he heq
    by_cases hok : e.ok = true
    · exact hbegun.unwell e (hwell e he heq hok) heq
    · exact Bool.eq_false_iff.mpr hok

/-! ### The plan's own steps. -/

/-- What the clock says has passed has passed. -/
theorem elapsed_le {now since : Nat} {span : UInt32} (hpast : since ≤ now)
    (h : restartUnitsElapsed (UInt32.ofNat now) (UInt32.ofNat since) span = true) :
    since + span.toNat ≤ now := by
  have hge : span.toNat ≤ (UInt32.ofNat now - UInt32.ofNat since).toNat :=
    UInt32.le_iff_toNat_le.mp (of_decide_eq_true h)
  have hdiff : (UInt32.ofNat now - UInt32.ofNat since).toNat =
      (4294967296 - since % 4294967296 + now % 4294967296) % 4294967296 := by
    rw [UInt32.toNat_sub, UInt32.toNat_ofNat', UInt32.toNat_ofNat']
  omega

theorem toNext_step (plan : RestartUnitsPlan) (boardsLeft : Nat) :
    (plan.toNext boardsLeft).step = .start ∨ (plan.toNext boardsLeft).step = .done := by
  induction boardsLeft generalizing plan with
  | zero => exact .inr rfl
  | succ boardsLeft ih =>
      rw [RestartUnitsPlan.toNext]
      split
      · exact .inl rfl
      · dsimp only
        split
        · exact .inl rfl
        · exact ih _

theorem starting_step (opId : UInt32) (boards : List RestartUnitsBoard) (nowMs : UInt32) :
    (RestartUnitsPlan.starting opId boards nowMs).step = .start ∨
      (RestartUnitsPlan.starting opId boards nowMs).step = .done := by
  unfold RestartUnitsPlan.starting
  dsimp only
  split
  · exact .inr rfl
  · exact .inl rfl

/-- On the way to the next unit, the job begun last is over. -/
theorem resting_of_free (hstep : s.plan.step = .start ∨ s.plan.step = .done)
    (hfree : ∀ b, s.begun.getLast? = some b → s.Known b.opId ∧ s.Free b.opId) : s.Resting := by
  unfold Resting
  rcases hstep with hstart | hdone
  · rw [hstart]
    exact hfree
  · rw [hdone]
    trivial

theorem Calm.replan (h : s.Calm) (hloop : s.pc = .loop) {plan : RestartUnitsPlan}
    (hrest : ({ s with plan := plan } : Campaign).Resting) :
    ({ s with plan := plan } : Campaign).Calm := by
  refine ⟨h.noted, h.past, h.held, fun _ => hrest, ?_⟩
  intro nowMs row op hpc
  replace hpc : s.pc = _ ∨ s.pc = _ := hpc
  rw [hloop] at hpc
  rcases hpc with hno | hno <;> exact (nomatch hno)

theorem campaign_calm (h : s.Calm) (hroom : s.Room) (hloop : s.pc = .loop)
    (boards : List RestartUnitsBoard) (generation : UInt32) :
    (s.campaign boards generation).Calm := by
  have hopened : Aside s { s with wall := (s.wall.wallOpBegin "restart-units" (-1) 0).2 } :=
    ⟨rfl, rfl, rfl, rfl, rfl, Nat.le_refl _,
      .opened "restart-units" (-1) 0 rfl rfl fun _ hid => .inl hid⟩
  have hcalm := hopened.calm h hroom
  unfold campaign
  split
  · exact h
  · dsimp only
    split
    · exact hcalm
    · refine ⟨hcalm.noted, hcalm.past, hcalm.held, ?_, ?_⟩
      · intro _
        exact resting_of_free (starting_step ..) fun _ hb => nomatch hb
      · intro nowMs row op hpc
        replace hpc : s.pc = _ ∨ s.pc = _ := hpc
        rw [hloop] at hpc
        rcases hpc with hno | hno <;> exact (nomatch hno)

/-- A job is begun under the next number. -/
theorem wallJobBegin_start {w : WallState} {name : String} {row : Int} {unit : UInt8}
    (h : (w.wallJobBegin name row unit).1 ≠ 0) :
    (w.wallJobBegin name row unit).1 = w.ops.nextId ∧
      (w.wallJobBegin name row unit).2 = { w with ops := (w.ops.start name row unit).2 } ∧
      (w.ops.start name row unit).1 ≠ 0 := by
  unfold WallState.wallJobBegin at h ⊢
  split at h
  · exact absurd rfl h
  · next hidle =>
      rw [if_neg hidle]
      refine ⟨?_, rfl, h⟩
      replace h : (w.ops.start name row unit).1 ≠ 0 := h
      show (w.ops.start name row unit).1 = _
      rcases WallOps.start_cases w.ops name row unit with hno | ⟨i, hyes⟩
      · rw [hno] at h
        exact absurd rfl h
      · rw [hyes]

theorem startCurrent_calm (h : s.Calm) (hroom : s.Room) (hloop : s.pc = .loop)
    (hstart : s.plan.step = .start) (nowMs : UInt32) : (s.startCurrent nowMs).Calm := by
  have hrest := h.resting hloop
  unfold Resting at hrest
  rw [hstart] at hrest
  unfold startCurrent
  split
  · exact h
  · next row address _ =>
      split
      · exact h.replan hloop (resting_of_free (toNext_step _ _) hrest)
      · next op _ =>
          dsimp only
          split
          · split
            · refine h.replan hloop (resting_of_free ?_ hrest)
              unfold RestartUnitsPlan.startBusy
              split
              · exact toNext_step _ _
              · exact .inl hstart
            · exact h.replan hloop (resting_of_free (toNext_step _ _) hrest)
          · next hbegun =>
              obtain ⟨hid, hwall, hsome⟩ := wallJobBegin_start hbegun
              have hfresh := WallOps.start_fresh hroom restartKind.name row address
              have hnext : (s.wall.ops.start restartKind.name row address).2.nextId.toNat =
                  s.wall.ops.nextId.toNat + 1 := by
                rcases hfresh with hno | ⟨_, hnext⟩
                · rw [hno] at hsome
                  exact absurd rfl hsome
                · exact hnext
              -- The number is new: nothing holds it, and nothing of it has ended.
              have hheld : ∀ id, ({ s with wall := { s.wall with
                  ops := (s.wall.ops.start restartKind.name row address).2 } } : Campaign).Held id →
                  id.toNat < s.wall.ops.nextId.toNat := fun id hid' => h.held id hid'
              rw [hid] at hbegun ⊢
              rw [hwall]
              refine ⟨h.noted.start hroom _ _ _, h.past, ?_, (fun hno => nomatch hno), ?_⟩
              · intro id hid'
                have hless := hheld id hid'
                show id.toNat < (s.wall.ops.start restartKind.name row address).2.nextId.toNat
                omega
              · intro nowMs' row' op' hpc
                have hop : op' = { op with opId := s.wall.ops.nextId } := by
                  rcases hpc with hpc | hpc
                  · injection hpc with _ _ hop
                    exact hop.symm
                  · exact (nomatch hpc)
                subst hop
                refine ⟨hstart, ⟨_, List.getLast?_concat .., rfl⟩, ⟨hbegun, ?_⟩, ?_, ?_⟩
                · show s.wall.ops.nextId.toNat < _
                  rw [hnext]
                  exact Nat.lt_succ_self _
                · intro hno
                  exact Nat.lt_irrefl _ (hheld _ hno)
                · intro e he heq
                  have hknown := h.noted.known e he
                  rw [heq] at hknown
                  exact absurd hknown (Nat.lt_irrefl _)

/-- The worker looks in time: not at a job that still runs when its wait is over, and
    not for one that has ended well when it is out of the table. -/
def InTime (s : Campaign) : Act → Prop
  | .tick _ => s.Room ∧ (s.plan.step = .wait →
      match s.wallOpGet s.plan.unitOp with
      | none => ∀ e ∈ s.ended, e.id = s.plan.unitOp → e.ok = false
      | some unitOp => unitOp.phase = .running →
          restartUnitsElapsed s.millis s.plan.sinceMs RESTART_UNITS_WAIT_MAX_MS = false)
  | _ => s.Room

theorem tick_calm (h : s.Calm) (hloop : s.pc = .loop) {gatesClosed : Bool}
    (htime : s.InTime (.tick gatesClosed)) : (s.tick gatesClosed).Calm := by
  have hrest := h.resting hloop
  unfold Resting at hrest
  unfold tick
  cases hstep : s.plan.step with
  | idle => exact h
  | start =>
      dsimp only
      split
      · exact h.replan hloop trivial
      · exact startCurrent_calm h htime.1 hloop hstep _
  | wait =>
      rw [hstep] at hrest
      obtain ⟨b, hb, hop, hknown⟩ := hrest
      have hlook := htime.2 hstep
      rw [hop] at hknown
      -- Free once it is over and has not ended well.
      have hfree : Over s.wall.ops s.plan.unitOp →
          (∀ e ∈ s.ended, e.id = s.plan.unitOp → e.ok = false) →
          ∀ b', s.begun.getLast? = some b' → s.Known b'.opId ∧ s.Free b'.opId := by
        intro hover hill b' hb'
        rw [hb] at hb'
        obtain rfl := Option.some.inj hb'
        rw [hop]
        refine ⟨hknown, hover, ?_⟩
        intro e he heq hok
        rw [hill e he heq] at hok
        exact (nomatch hok)
      dsimp only
      cases hget : s.wallOpGet s.plan.unitOp with
      | none =>
          rw [hget] at hlook
          have hplace : s.wall.ops.placeOf s.plan.unitOp = none := Option.map_eq_none_iff.mp hget
          have hover := placeOf_over hknown.1 hplace
          exact h.replan hloop (resting_of_free (toNext_step _ _) (hfree hover hlook))
      | some unitOp =>
          rw [hget] at hlook
          obtain ⟨i, hplace, rfl⟩ := Option.map_eq_some_iff.mp hget
          have hid := WallOps.placeOf_id hplace
          dsimp only
          split
          · next hphase =>
              have hover := stopped_over h.noted hknown.1 hplace hphase
              unfold RestartUnitsPlan.jobEnded
              split
              · apply h.replan hloop
                unfold Resting
                exact ⟨b, s.now, hb, hop ▸ hknown, hop ▸ hover, rfl, Nat.le_refl _,
                  fun e he _ _ => h.past e he⟩
              · next hill =>
                  refine h.replan hloop (resting_of_free (toNext_step _ _) (hfree hover ?_))
                  intro e he heq
                  have htold := h.noted.told i hphase e he (heq.trans hid.symm)
                  rw [Bool.eq_false_iff]
                  exact fun hok => hill (decide_eq_true (htold.mp hok))
          · next hphase =>
              have hearly := hlook (not_not.mp hphase)
              have hsame : s.plan.tick s.millis = s.plan := by
                rw [RestartUnitsPlan.tick_wait hstep, hearly]
                rfl
              rw [hsame]
              exact h
  | settle =>
      rw [hstep] at hrest
      obtain ⟨b, since, hb, hknown, hover, hsince, hpast, hends⟩ := hrest
      dsimp only
      rw [RestartUnitsPlan.tick_settle hstep]
      split
      · next helapsed =>
          refine h.replan hloop (resting_of_free (toNext_step _ _) ?_)
          intro b' hb'
          rw [hb] at hb'
          obtain rfl := Option.some.inj hb'
          rw [hsince] at helapsed
          have htime := elapsed_le hpast helapsed
          refine ⟨hknown, hover, ?_⟩
          intro e he heq hok
          exact (Nat.add_le_add_right (hends e he heq hok) _).trans htime
      · exact h
  | done =>
      have hends := finish_ends s.wall.ops s.plan.opId (s.plan.failed = 0) (summary s.plan)
      refine ⟨h.noted.closed hends s.now, past_noted h.past, ?_, fun _ => trivial, ?_⟩
      · intro id hid
        show id.toNat < (s.wall.ops.finish ..).2.nextId.toNat
        rw [hends.same.nextId]
        exact h.held id hid
      · intro nowMs row op hpc
        replace hpc : s.pc = _ ∨ s.pc = _ := hpc
        rw [hloop] at hpc
        rcases hpc with hno | hno <;> exact (nomatch hno)

/-- Whoever takes the job that was begun holds it from then on; nothing else changes. -/
theorem handed_same {room : Bool} {nowMs : UInt32} {row : Int} {op : WlOp}
    (h : s.handed room nowMs row op = some s') :
    s'.wall.ops = s.wall.ops ∧ s'.ended = s.ended ∧ s'.begun = s.begun ∧ s'.now = s.now ∧
      s'.listed = s.listed ∧ ∀ id, s'.Held id → s.Held id ∨ id = op.opId := by
  unfold handed at h
  split at h
  · split at h
    · obtain rfl := Option.some.inj h
      refine ⟨rfl, rfl, rfl, rfl, rfl, ?_⟩
      intro id hid
      rcases hid with hid | hstaged | hslot | ⟨job, hjob, hop⟩
      · exact .inl (.inl hid)
      · exact .inl (.inr (.inl hstaged))
      · exact .inl (.inr (.inr (.inl hslot)))
      · obtain rfl := Option.some.inj hjob
        exact .inr hop.symm
    · exact (nomatch h)
  · split at h
    · exact (nomatch h)
    · next r _ =>
        split at h
        · next wall hstage =>
            obtain rfl := Option.some.inj h
            have hwall : wall = (s.wall.wallJobStage r op s.generation).2 := by rw [hstage]
            have hops : wall.ops = s.wall.ops := by rw [hwall, staged_ops]
            refine ⟨hops, rfl, rfl, rfl, rfl, ?_⟩
            intro id hid
            rcases hid with hid | ⟨r', job, hjob, hop⟩ | hslot | hown
            · exact .inl (.inl hid)
            · replace hjob : wall.staged r' = some job := hjob
              rw [hwall] at hjob
              rcases staged_held hjob with hold | hnew
              · exact .inl (.inr (.inl ⟨r', job, hold, hop⟩))
              · rw [hnew] at hop
                exact .inr hop.symm
            · exact .inl (.inr (.inr (.inl hslot)))
            · exact .inl (.inr (.inr (.inr hown)))
        · exact (nomatch h)

theorem hand_calm (h : s.Calm) {room : Bool} (hhand : s.hand room = some s') : s'.Calm := by
  unfold hand at hhand
  split at hhand
  · next nowMs row op hpc =>
      have hbegun := h.begun nowMs row op (.inl hpc)
      obtain ⟨b, hb, hop⟩ := hbegun.last
      split at hhand
      · next taken htaken =>
          obtain rfl := Option.some.inj hhand
          obtain ⟨hops, hended, hsame, hnow, _, hheld⟩ := handed_same htaken
          have hknown : ∀ id, s.Known id → Known { taken with
              plan := s.plan.started op.opId nowMs, pc := .loop } id := by
            intro id hid
            exact ⟨hid.1, by show id.toNat < taken.wall.ops.nextId.toNat; rw [hops]; exact hid.2⟩
          refine ⟨?_, ?_, ?_, fun _ => ?_, ?_⟩
          · show Noted taken.wall.ops taken.ended
            rw [hops, hended]
            exact h.noted
          · show ∀ e ∈ taken.ended, e.moment ≤ taken.now
            rw [hended, hnow]
            exact h.past
          · intro id hid
            show id.toNat < taken.wall.ops.nextId.toNat
            rw [hops]
            rcases hheld id hid with hold | rfl
            · exact h.held id hold
            · exact hbegun.known.2
          · refine ⟨b, ?_, hop, ?_⟩
            · show taken.begun.getLast? = some b
              rw [hsame]
              exact hb
            · rw [hop]
              exact hknown _ hbegun.known
          · intro nowMs' row' op' hno
            rcases hno with hno | hno <;> exact (nomatch hno)
      · obtain rfl := Option.some.inj hhand
        refine ⟨h.noted, h.past, h.held, (fun hno => nomatch hno), ?_⟩
        intro nowMs' row' op' hpc'
        rcases hpc' with hno | hpc'
        · exact (nomatch hno)
        · injection hpc' with _ _ hsame
          subst hsame
          exact ⟨hbegun.step, hbegun.last, hbegun.known, hbegun.unheld, hbegun.unwell⟩
  · exact (nomatch hhand)

theorem giveUp_calm (h : s.Calm) (hgive : s.giveUp = some s') : s'.Calm := by
  unfold giveUp at hgive
  split at hgive
  · next nowMs row op hpc =>
      have hbegun := h.begun nowMs row op (.inr hpc)
      obtain rfl := Option.some.inj hgive
      dsimp only
      generalize (if row = RESTART_UNITS_OWN_ROW then "the display queue was full"
        else "the row could not be handed the job") = detail
      have hends := finish_ends s.wall.ops op.opId false detail
      have hover := finish_over h.noted hbegun.known.1 false detail
      refine ⟨h.noted.closed hends s.now, past_noted h.past, ?_, fun _ => ?_, ?_⟩
      · intro id hid
        show id.toNat < (s.wall.ops.finish op.opId false detail).2.nextId.toNat
        rw [hends.same.nextId]
        exact h.held id hid
      · refine resting_of_free (toNext_step _ _) ?_
        intro b hb
        obtain ⟨b', hb', hop⟩ := hbegun.last
        replace hb : s.begun.getLast? = some b := hb
        rw [hb'] at hb
        obtain rfl := Option.some.inj hb
        rw [hop]
        refine ⟨⟨hbegun.known.1, ?_⟩, hover, ?_⟩
        · show _ < (s.wall.ops.finish op.opId false detail).2.nextId.toNat
          rw [hends.same.nextId]
          exact hbegun.known.2
        · intro e he heq hok
          have hill : e.ok = false := by
            rcases List.mem_append.mp he with hold | hnew
            · exact hbegun.unwell e hold heq
            · obtain ⟨ended, hended, rfl⟩ := List.mem_map.mp hnew
              rw [Bool.eq_false_iff]
              intro hdone
              exact absurd ((finish_phase hended).2.mp (of_decide_eq_true hdone)) (by decide)
          rw [hill] at hok
          exact (nomatch hok)
      · intro nowMs' row' op' hno
        rcases hno with hno | hno <;> exact (nomatch hno)
  · exact (nomatch hgive)

theorem inTime_room {a : Act} (h : s.InTime a) : s.Room := by
  cases a with
  | tick gatesClosed => exact h.1
  | _ => exact h

theorem step_calm (s : Campaign) (a : Act) (s' : Campaign) (h : s.Calm) (htime : s.InTime a)
    (hstep : s.step a = some s') : s'.Calm := by
  have hroom := inTime_room htime
  rcases step_aside hstep with haside | ⟨boards, generation, rfl, hloop, _, rfl⟩ |
    ⟨gatesClosed, rfl, hloop, rfl⟩ | ⟨room, rfl, hhand⟩ | ⟨rfl, hgive⟩
  · exact haside.calm h hroom
  · exact campaign_calm h hroom hloop boards generation
  · exact tick_calm h hloop htime
  · exact hand_calm h hhand
  · exact giveUp_calm h hgive

theorem boot_calm (rows : WallRowsTable) : (boot rows).Calm := by
  refine ⟨noted_none, (fun _ h => nomatch h), ?_, fun _ => trivial, ?_⟩
  · intro id hid
    rcases hid with hno | ⟨_, _, hno, _⟩ | ⟨_, hno, _⟩ | ⟨_, hno, _⟩
    · exact (nomatch hno)
    · exact (nomatch hno)
    · exact absurd rfl hno
    · exact (nomatch hno)
  · intro nowMs row op hno
    rcases hno with hno | hno <;> exact (nomatch hno)

/-! ## §5. Every unit in its turn. -/

/-- The units whose jobs have begun. -/
def taken (s : Campaign) : List (Int × UInt8) := s.begun.map (·.unit)

/-- A unit has its turn. -/
def Turn (s : Campaign) : Prop :=
  s.plan.step = .start ∨ s.plan.step = .wait ∨ s.plan.step = .settle

/-- The units before the cursor have had their turn, and each counts once. -/
structure Walk (s : Campaign) (passed : List (Int × UInt8)) : Prop where
  units : unitsOn s.listed = passed ++ s.plan.left
  stand : s.Turn → s.plan.Standing
  turn : s.Turn → s.taken.Sublist (passed ++ s.plan.left.take 1)
  waits : s.plan.step = .start → s.pc = .loop → s.taken.Sublist passed
  count : (unitsOn s.listed).length ≤ 255 → s.plan.done.toNat + s.plan.failed.toNat =
    passed.length + (if s.plan.step = .settle then 1 else 0)
  ends : s.plan.step = .done →
    s.taken.Sublist passed ∧ (s.plan.stopped = false → s.plan.left = [])

structure Ordered (s : Campaign) : Prop where
  order : s.taken.Sublist (unitsOn s.listed)
  starts : s.pc ≠ .loop → s.plan.step = .start
  walk : s.plan.step ≠ .idle → ∃ passed, s.Walk passed

/-- The unit whose turn it is, and those behind it. -/
theorem Walk.split {passed : List (Int × UInt8)} (h : s.Walk passed) :
    unitsOn s.listed = (passed ++ s.plan.left.take 1) ++ s.plan.left.tail := by
  rw [h.units, List.append_assoc, ← List.drop_one, List.take_append_drop]

theorem Walk.room {passed : List (Int × UInt8)} (h : s.Walk passed) (hturn : s.Turn) :
    passed.length + 1 ≤ (unitsOn s.listed).length := by
  have hcons := RestartUnitsPlan.left_cons (h.stand hturn)
  rw [h.units, hcons, List.length_append, List.length_cons]
  omega

/-- The turn goes on to the next unit; the one that had it has been counted. -/
theorem Walk.advance {passed : List (Int × UInt8)} (h : s.Walk passed) (hturn : s.Turn)
    (plan : RestartUnitsPlan) (hboards : plan.boards = s.plan.boards)
    (hboard : plan.board = s.plan.board) (hunit : plan.unit = s.plan.unit)
    (hcount : (unitsOn s.listed).length ≤ 255 →
      plan.done.toNat + plan.failed.toNat = passed.length + 1) (nowMs : UInt32)
    (hnext : s' = { s with plan := plan.advance nowMs, pc := .loop }) : s'.Ordered := by
  have hhere : plan.here = s.plan.here := by
    unfold RestartUnitsPlan.here
    rw [hboards, hboard]
  have hleft : plan.left = s.plan.left := by
    unfold RestartUnitsPlan.left
    rw [hboards, hboard, hunit]
  have hold := h.stand hturn
  have hstand : plan.Standing := by
    refine ⟨?_, ?_, ?_⟩
    · rw [hboards, hboard]
      exact hold.board
    · rw [hhere, hunit]
      exact hold.unit
    · rw [hboards]
      exact hold.widths
  have hspec := RestartUnitsPlan.advance_spec hstand nowMs
  have hafter : (plan.advance nowMs).left = s.plan.left.tail := by
    rw [← hleft]
    exact hspec.left
  have htaken := h.turn hturn
  have hlength : (passed ++ s.plan.left.take 1).length = passed.length + 1 := by
    rw [RestartUnitsPlan.left_cons hold, List.length_append]
    rfl
  have hnotSettle : (plan.advance nowMs).step ≠ .settle := by
    rcases hspec.turn with ⟨hstart, _⟩ | ⟨hdone, _⟩
    · rw [hstart]
      exact fun hno => nomatch hno
    · rw [hdone]
      exact fun hno => nomatch hno
  subst hnext
  refine ⟨?_, fun hno => absurd rfl hno, fun _ => ⟨passed ++ s.plan.left.take 1, ?_⟩⟩
  · show s.taken.Sublist (unitsOn s.listed)
    rw [h.split]
    exact htaken.trans (List.sublist_append_left _ _)
  · refine ⟨?_, ?_, fun _ => htaken.trans (List.sublist_append_left _ _), fun _ _ => htaken, ?_, ?_⟩
    · show unitsOn s.listed = _ ++ (plan.advance nowMs).left
      rw [hafter]
      exact h.split
    · intro hthen
      rcases hspec.turn with ⟨_, hstanding⟩ | ⟨hdone, _⟩
      · exact hstanding
      · rcases hthen with hno | hno | hno <;> exact absurd (hdone.symm.trans hno) (by decide)
    · intro hsmall
      show (plan.advance nowMs).done.toNat + (plan.advance nowMs).failed.toNat = _ +
        (if (plan.advance nowMs).step = .settle then 1 else 0)
      rw [if_neg hnotSettle, hlength, hspec.same.done, hspec.same.failed]
      exact hcount hsmall
    · intro hdone
      refine ⟨htaken, fun _ => ?_⟩
      rcases hspec.turn with ⟨hstart, _⟩ | ⟨_, hnone⟩
      · exact absurd (hstart.symm.trans hdone) (by decide)
      · exact hnone

/-- A unit fails: it is counted, and the turn goes on. -/
theorem Walk.fails {passed : List (Int × UInt8)} (h : s.Walk passed) (hturn : s.Turn)
    (hstep : s.plan.step ≠ .settle) (nowMs : UInt32)
    (hnext : s' = { s with
      plan := { s.plan with failed := s.plan.failed + 1 }.advance nowMs, pc := .loop }) :
    s'.Ordered := by
  refine h.advance hturn { s.plan with failed := s.plan.failed + 1 } rfl rfl rfl ?_ nowMs hnext
  intro hsmall
  have hroom := h.room hturn
  have hcount := h.count hsmall
  rw [if_neg hstep] at hcount
  have hfailed : (s.plan.failed + 1).toNat = s.plan.failed.toNat + 1 := by
    rw [UInt8.toNat_add]
    show (s.plan.failed.toNat + 1) % 256 = _
    omega
  show s.plan.done.toNat + (s.plan.failed + 1).toNat = _
  omega

theorem Aside.ordered (h : Aside s s') (hordered : s.Ordered) : s'.Ordered := by
  have htaken : s'.taken = s.taken := congrArg (List.map BegunJob.unit) h.begun
  have hturn : s'.Turn → s.Turn := by
    unfold Turn
    rw [h.plan]
    exact fun hthen => hthen
  refine ⟨?_, ?_, ?_⟩
  · rw [htaken, h.listed]
    exact hordered.order
  · rw [h.pc, h.plan]
    exact hordered.starts
  · intro hstep
    rw [h.plan] at hstep
    obtain ⟨passed, hwalk⟩ := hordered.walk hstep
    refine ⟨passed, ?_, ?_, ?_, ?_, ?_, ?_⟩
    · rw [h.listed, h.plan]
      exact hwalk.units
    · rw [h.plan]
      exact fun hthen => hwalk.stand (hturn hthen)
    · rw [htaken, h.plan]
      exact fun hthen => hwalk.turn (hturn hthen)
    · rw [htaken, h.plan, h.pc]
      exact hwalk.waits
    · rw [h.listed, h.plan]
      exact hwalk.count
    · rw [htaken, h.plan]
      exact hwalk.ends

theorem campaign_ordered (h : s.Ordered) (hloop : s.pc = .loop)
    {boards : List RestartUnitsBoard} (hfit : boards.length ≤ RESTART_UNITS_BOARDS_MAX)
    (generation : UInt32) : (s.campaign boards generation).Ordered := by
  have hopened : Aside s { s with wall := (s.wall.wallOpBegin "restart-units" (-1) 0).2 } :=
    ⟨rfl, rfl, rfl, rfl, rfl, Nat.le_refl _,
      .opened "restart-units" (-1) 0 rfl rfl fun _ hid => .inl hid⟩
  unfold campaign
  split
  · exact h
  · dsimp only
    split
    · exact hopened.ordered h
    · obtain ⟨hleft, hturn⟩ := RestartUnitsPlan.starting_spec hfit
        (s.wall.wallOpBegin "restart-units" (-1) 0).1 s.millis
      have hnone : ∀ {units : List (Int × UInt8)}, List.Sublist [] units := List.nil_sublist _
      refine ⟨hnone, fun hno => absurd hloop hno, fun _ => ⟨[], hleft.symm, ?_, fun _ => hnone,
        fun _ _ => hnone, ?_, ?_⟩⟩
      · intro hthen
        rcases hturn with ⟨_, hstanding⟩ | ⟨hdone, _⟩
        · exact hstanding
        · rcases hthen with hno | hno | hno <;> exact absurd (hdone.symm.trans hno) (by decide)
      · intro _
        rw [if_neg]
        · rfl
        · intro hno
          rcases hturn with ⟨hstart, _⟩ | ⟨hdone, _⟩
          · exact absurd (hstart.symm.trans hno) (by decide)
          · exact absurd (hdone.symm.trans hno) (by decide)
      · intro hdone
        refine ⟨hnone, fun _ => ?_⟩
        rcases hturn with ⟨hstart, _⟩ | ⟨_, hnone⟩
        · exact absurd (hstart.symm.trans hdone) (by decide)
        · exact hnone

theorem startCurrent_ordered (h : s.Ordered) (hloop : s.pc = .loop)
    (hstart : s.plan.step = .start) (nowMs : UInt32) : (s.startCurrent nowMs).Ordered := by
  obtain ⟨passed, hwalk⟩ := h.walk (by rw [hstart]; decide)
  have hturn : s.Turn := .inl hstart
  have hstep : s.plan.step ≠ .settle := by
    rw [hstart]
    decide
  have hrefused : ({ s with plan := s.plan.startRefused nowMs } : Campaign).Ordered := by
    apply hwalk.fails hturn hstep nowMs
    rw [← hloop]
    rfl
  unfold startCurrent
  split
  · exact h
  · next row address hcurrent =>
      split
      · exact hrefused
      · dsimp only
        split
        · split
          · unfold RestartUnitsPlan.startBusy
            split
            · exact hrefused
            · exact h
          · exact hrefused
        · -- The job that begins is the first of the units left.
          have hunit : (row, address) = (s.plan.here.row, s.plan.unit + 1) := by
            unfold RestartUnitsPlan.current at hcurrent
            rw [hstart, if_neg (by decide)] at hcurrent
            exact (Option.some.inj hcurrent).symm
          have hfirst : s.plan.left.take 1 = [(row, address)] := by
            rw [RestartUnitsPlan.left_cons (hwalk.stand hturn), hunit]
            rfl
          have htaken : (s.taken ++ [(row, address)]).Sublist (passed ++ s.plan.left.take 1) := by
            rw [hfirst]
            exact (hwalk.waits hstart hloop).append_right _
          have hmore : ∀ id, (s.begun ++ [BegunJob.mk (row, address) id]).map BegunJob.unit =
              s.taken ++ [(row, address)] := fun id => List.map_append
          refine ⟨?_, fun _ => hstart, fun _ => ⟨passed, hwalk.units, hwalk.stand, fun _ => ?_,
            (fun _ hno => nomatch hno), hwalk.count, fun hdone => ?_⟩⟩
          · show ((s.begun ++ _).map BegunJob.unit).Sublist (unitsOn s.listed)
            rw [hmore, hwalk.split]
            exact htaken.trans (List.sublist_append_left _ _)
          · show ((s.begun ++ _).map BegunJob.unit).Sublist _
            rw [hmore]
            exact htaken
          · exact absurd (hstart.symm.trans hdone) (by decide)

theorem tick_ordered (h : s.Ordered) (hloop : s.pc = .loop) (gatesClosed : Bool) :
    (s.tick gatesClosed).Ordered := by
  unfold tick
  cases hstep : s.plan.step with
  | idle => exact h
  | start =>
      obtain ⟨passed, hwalk⟩ := h.walk (by rw [hstep]; decide)
      dsimp only
      split
      · refine ⟨h.order, fun hno => absurd hloop hno, fun _ => ⟨passed, hwalk.units, ?_, ?_, ?_, ?_,
          fun _ => ⟨hwalk.waits hstep hloop, (fun hno => nomatch hno)⟩⟩⟩
        · intro hno
          rcases hno with hno | hno | hno <;> exact (nomatch hno)
        · intro hno
          rcases hno with hno | hno | hno <;> exact (nomatch hno)
        · exact fun hno => nomatch hno
        · intro hsmall
          have hcount := hwalk.count hsmall
          rw [hstep] at hcount
          exact hcount
      · exact startCurrent_ordered h hloop hstep _
  | wait =>
      obtain ⟨passed, hwalk⟩ := h.walk (by rw [hstep]; decide)
      have hturn : s.Turn := .inr (.inl hstep)
      have hfails : ({ s with plan := { s.plan with failed := s.plan.failed + 1 }.advance s.millis }
          : Campaign).Ordered := by
        apply hwalk.fails hturn (by rw [hstep]; decide) s.millis
        rw [← hloop]
      dsimp only
      split
      · exact hfails
      · split
        · unfold RestartUnitsPlan.jobEnded
          split
          · refine ⟨h.order, fun hno => absurd hloop hno, fun _ => ⟨passed, hwalk.units,
              fun _ => ⟨(hwalk.stand hturn).board, (hwalk.stand hturn).unit,
                (hwalk.stand hturn).widths⟩, fun _ => hwalk.turn hturn, (fun hno => nomatch hno), ?_,
              (fun hno => nomatch hno)⟩⟩
            intro hsmall
            replace hsmall : (unitsOn s.listed).length ≤ 255 := hsmall
            have hroom := hwalk.room hturn
            have hcount := hwalk.count hsmall
            rw [hstep] at hcount
            have hdone : (s.plan.done + 1).toNat = s.plan.done.toNat + 1 := by
              rw [UInt8.toNat_add]
              show (s.plan.done.toNat + 1) % 256 = _
              have hzero : s.plan.done.toNat + s.plan.failed.toNat = passed.length + 0 := hcount
              omega
            show (s.plan.done + 1).toNat + s.plan.failed.toNat = passed.length + 1
            have hzero : s.plan.done.toNat + s.plan.failed.toNat = passed.length + 0 := hcount
            omega
          · exact hfails
        · rw [RestartUnitsPlan.tick_wait hstep]
          split
          · exact hfails
          · exact h
  | settle =>
      obtain ⟨passed, hwalk⟩ := h.walk (by rw [hstep]; decide)
      have hturn : s.Turn := .inr (.inr hstep)
      dsimp only
      rw [RestartUnitsPlan.tick_settle hstep]
      split
      · refine hwalk.advance hturn s.plan rfl rfl rfl ?_ s.millis ?_
        · intro hsmall
          have hcount := hwalk.count hsmall
          rw [hstep] at hcount
          exact hcount
        · rw [← hloop]
      · exact h
  | done => exact ⟨h.order, fun hno => absurd hloop hno, fun hno => absurd rfl hno⟩

theorem hand_ordered (h : s.Ordered) {room : Bool} (hhand : s.hand room = some s') :
    s'.Ordered := by
  unfold hand at hhand
  split at hhand
  · next nowMs row op hpc =>
      have hstart := h.starts (by rw [hpc]; exact fun hno => nomatch hno)
      obtain ⟨passed, hwalk⟩ := h.walk (by rw [hstart]; decide)
      split at hhand
      · next taken htaken =>
          obtain rfl := Option.some.inj hhand
          obtain ⟨_, _, hbegun, _, hlisted, _⟩ := handed_same htaken
          have hsame : taken.begun.map BegunJob.unit = s.taken := congrArg _ hbegun
          refine ⟨?_, fun hno => absurd rfl hno, fun _ => ⟨passed, ?_,
            fun _ => ⟨(hwalk.stand (.inl hstart)).board, (hwalk.stand (.inl hstart)).unit,
              (hwalk.stand (.inl hstart)).widths⟩, fun _ => ?_, (fun hno => nomatch hno), ?_,
            (fun hno => nomatch hno)⟩⟩
          · show (taken.begun.map BegunJob.unit).Sublist (unitsOn taken.listed)
            rw [hsame, hlisted]
            exact h.order
          · show unitsOn taken.listed = _
            rw [hlisted]
            exact hwalk.units
          · show (taken.begun.map BegunJob.unit).Sublist _
            rw [hsame]
            exact hwalk.turn (.inl hstart)
          · show (unitsOn taken.listed).length ≤ 255 → _
            rw [hlisted]
            intro hsmall
            have hcount := hwalk.count hsmall
            rw [hstart] at hcount
            exact hcount
      · obtain rfl := Option.some.inj hhand
        exact ⟨h.order, fun _ => hstart, fun _ => ⟨passed, hwalk.units, hwalk.stand, hwalk.turn,
          (fun _ hno => nomatch hno), hwalk.count, hwalk.ends⟩⟩
  · exact (nomatch hhand)

theorem giveUp_ordered (h : s.Ordered) (hgive : s.giveUp = some s') : s'.Ordered := by
  unfold giveUp at hgive
  split at hgive
  · next nowMs row op hpc =>
      have hstart := h.starts (by rw [hpc]; exact fun hno => nomatch hno)
      obtain ⟨passed, hwalk⟩ := h.walk (by rw [hstart]; decide)
      have hstep : s.plan.step ≠ .settle := by
        rw [hstart]
        decide
      obtain rfl := Option.some.inj hgive
      dsimp only
      generalize s.wall.wallOpFinish _ _ _ = ends
      have hafter : (s.after ends).Walk passed :=
        ⟨hwalk.units, hwalk.stand, hwalk.turn, hwalk.waits, hwalk.count, hwalk.ends⟩
      exact hafter.fails (.inl hstart) hstep nowMs rfl
  · exact (nomatch hgive)

theorem step_ordered (s : Campaign) (a : Act) (s' : Campaign) (h : s.Ordered)
    (hstep : s.step a = some s') : s'.Ordered := by
  rcases step_aside hstep with haside | ⟨boards, generation, rfl, hloop, hfit, rfl⟩ |
    ⟨gatesClosed, rfl, hloop, rfl⟩ | ⟨room, rfl, hhand⟩ | ⟨rfl, hgive⟩
  · exact haside.ordered h
  · exact campaign_ordered h hloop hfit generation
  · exact tick_ordered h hloop gatesClosed
  · exact hand_ordered h hhand
  · exact giveUp_ordered h hgive

theorem boot_ordered (rows : WallRowsTable) : (boot rows).Ordered :=
  ⟨List.nil_sublist _, fun hno => absurd rfl hno, fun hno => absurd rfl hno⟩

/-! ## §6. One unit at a time. -/

/-- The job begun last does not run, and a unit that took it has had its time. -/
def Apart (s : Campaign) : Prop :=
  ∀ last ∈ s.begun.getLast?.toList,
    (∀ i, (s.wall.ops.ops i).id = last.opId → (s.wall.ops.ops i).phase ≠ .running) ∧
      ∀ e ∈ s.ended, e.id = last.opId → e.ok = true →
        e.moment + RESTART_UNITS_SETTLE_MS.toNat ≤ s.now

instance (s : Campaign) : Decidable s.Apart :=
  inferInstanceAs (Decidable (∀ last ∈ s.begun.getLast?.toList,
    (∀ i, (s.wall.ops.ops i).id = last.opId → (s.wall.ops.ops i).phase ≠ .running) ∧
      ∀ e ∈ s.ended, e.id = last.opId → e.ok = true →
        e.moment + RESTART_UNITS_SETTLE_MS.toNat ≤ s.now))

instance (s : Campaign) : Decidable s.Room := Nat.decLt _ _

instance (s : Campaign) (a : Act) : Decidable (s.InTime a) :=
  match a with
  | .tick _ =>
      match hget : s.wallOpGet s.plan.unitOp with
      | none => decidable_of_iff (s.Room ∧ (s.plan.step = .wait →
          ∀ e ∈ s.ended, e.id = s.plan.unitOp → e.ok = false)) (by
            unfold InTime
            rw [hget])
      | some unitOp => decidable_of_iff (s.Room ∧ (s.plan.step = .wait → unitOp.phase = .running →
          restartUnitsElapsed s.millis s.plan.sinceMs RESTART_UNITS_WAIT_MAX_MS = false)) (by
            unfold InTime
            rw [hget])
  | .wait _ | .opBegin .. | .opStage .. | .ownSet _ | .opFinish .. | .setRows _ | .reset | .take ..
  | .linkTick .. | .answer .. | .rowRestarted _ | .ownTick _ | .campaign .. | .hand _ | .giveUp =>
      inferInstanceAs (Decidable s.Room)

theorem campaign_begun (s : Campaign) (boards : List RestartUnitsBoard) (generation : UInt32) :
    (s.campaign boards generation).begun = s.begun ∨ (s.campaign boards generation).begun = [] := by
  unfold campaign
  split
  · exact .inl rfl
  · dsimp only
    split
    · exact .inl rfl
    · exact .inr rfl

/-- A job begins in a tick, when it is a unit's turn. -/
theorem begins_at_start {a : Act} (hstep : s.step a = some s') {b : BegunJob}
    (hbegun : s'.begun = s.begun ++ [b]) : s.pc = .loop ∧ s.plan.step = .start := by
  have hmore : s'.begun ≠ s.begun := by
    rw [hbegun]
    intro hsame
    have hlength := congrArg List.length hsame
    rw [List.length_append, List.length_singleton] at hlength
    omega
  rcases step_aside hstep with haside | ⟨boards, generation, rfl, _, _, rfl⟩ |
    ⟨gatesClosed, rfl, hloop, rfl⟩ | ⟨room, rfl, hhand⟩ | ⟨rfl, hgive⟩
  · exact absurd haside.begun hmore
  · exfalso
    rcases campaign_begun s boards generation with hsame | hnone
    · exact hmore hsame
    · rw [hnone] at hbegun
      exact absurd hbegun.symm (by simp)
  · refine ⟨hloop, ?_⟩
    unfold tick at hmore
    cases hplan : s.plan.step with
    | start => rfl
    | idle => rw [hplan] at hmore; exact absurd rfl hmore
    | wait =>
        rw [hplan] at hmore
        dsimp only at hmore
        split at hmore
        · exact absurd rfl hmore
        · split at hmore <;> exact absurd rfl hmore
    | settle => rw [hplan] at hmore; exact absurd rfl hmore
    | done => rw [hplan] at hmore; exact absurd rfl hmore
  · unfold hand at hhand
    split at hhand
    · split at hhand
      · next taken htaken =>
          obtain rfl := Option.some.inj hhand
          exact absurd (handed_same htaken).2.2.1 hmore
      · obtain rfl := Option.some.inj hhand
        exact absurd rfl hmore
    · exact (nomatch hhand)
  · unfold giveUp at hgive
    split at hgive
    · obtain rfl := Option.some.inj hgive
      exact absurd rfl hmore
    · exact (nomatch hgive)

theorem Calm.apart (h : s.Calm) (hloop : s.pc = .loop) (hstart : s.plan.step = .start) :
    s.Apart := by
  have hrest := h.resting hloop
  unfold Resting at hrest
  rw [hstart] at hrest
  intro last hlast
  exact (hrest last (Option.mem_toList.mp hlast)).2

/-- The units are restarted in the order of the list, each once.  The next job begins when
    the one before is over, and a restart that was taken has had its time, if the
    worker has looked for every job in time.  In the end every unit is counted. -/
theorem units_restart_in_turn (rows : WallRowsTable) (acts : List Act) {s : Campaign}
    (hrun : run step (boot rows) acts = some s) (htime : AllMeet InTime step (boot rows) acts) :
    s.taken.Sublist (unitsOn s.listed) ∧
      (∀ a s' b, s.step a = some s' → s'.begun = s.begun ++ [b] → s.Apart) ∧
      (s.plan.step = .done → s.plan.stopped = false → (unitsOn s.listed).length ≤ 255 →
        s.plan.done.toNat + s.plan.failed.toNat = (unitsOn s.listed).length) := by
  have hordered : s.Ordered := run_invariant step_ordered (boot_ordered rows) hrun
  have hcalm : s.Calm := run_invariant_of_meets step_calm (boot_calm rows) htime hrun
  refine ⟨hordered.order, ?_, ?_⟩
  · intro a s' b hstep hbegun
    obtain ⟨hloop, hstart⟩ := begins_at_start hstep hbegun
    exact hcalm.apart hloop hstart
  · intro hdone hunstopped hsmall
    obtain ⟨passed, hwalk⟩ := hordered.walk (by rw [hdone]; decide)
    have hcount := hwalk.count hsmall
    rw [hdone, if_neg (by decide)] at hcount
    rw [hcount, hwalk.units, (hwalk.ends hdone).2 hunstopped, List.append_nil]
    rfl

/-- Two units of the own row, of which both take their restart. -/
theorem units_restart_in_turn_two :
    ∃ s : Campaign, s.taken.Sublist (unitsOn s.listed) ∧ s.taken = [(-2, 1), (-2, 2)] := by
  have hrun : ∃ s : Campaign, run step (boot {}) [.campaign [⟨-2, 2⟩] 0, .tick false, .hand true, .wait 5000,
      .ownTick (.ended true "ok"), .tick false, .wait 20000, .tick false, .tick false] = some s ∧
      s.taken = [(-2, 1), (-2, 2)] := by
    have hcheck : ((run step (boot {}) [.campaign [⟨-2, 2⟩] 0, .tick false, .hand true, .wait 5000,
        .ownTick (.ended true "ok"), .tick false, .wait 20000, .tick false, .tick false]).map
          taken) = some [(-2, 1), (-2, 2)] := by decide +kernel
    exact Option.map_eq_some_iff.mp hcheck
  obtain ⟨s, hs, htaken⟩ := hrun
  exact ⟨s, (units_restart_in_turn {} _ hs (AllMeet.of_decide (by decide +kernel))).1, htaken⟩

/-- Two units of the own row: the display reports the first unit's restart just after the
    plan has given it up. -/
def lateResult : List Act :=
  [.campaign [⟨-2, 2⟩] 0, .tick false, .hand true, .wait 139990, .ownTick .pending, .wait 20,
    .tick false, .wait 100, .ownTick (.ended true "ok")]

/-- Two boards of one unit each. -/
def twoBoards : WallRowsTable :=
  { rows := [{ id := ascii "row-a", host := ascii "192.168.1.51", width := 1 },
      { id := ascii "row-b", host := ascii "192.168.1.52", row := 1, width := 1 }] }

/-- The link takes the first unit's job late, and its row takes it late too and never
    answers. -/
def lateRow : List Act :=
  [.campaign [⟨0, 1⟩, ⟨1, 1⟩] 0, .tick false, .hand true, .wait 300, .take 0 false 0,
    .wait 19990, .linkTick 0 { connected := true, helloSeen := true } 0, .wait 119710,
    .tick false, .wait 110, .linkTick 0 {} 0]

/-- Does a tick after this run begin a job too early? -/
def tooEarly (rows : WallRowsTable) (acts : List Act) : Bool :=
  ((run step (boot rows) acts).bind fun s => (s.step (.tick false)).map fun s' =>
    decide (s'.begun.dropLast = s.begun ∧ s.begun.length < s'.begun.length ∧ ¬ s.Apart)) = some true

theorem tooEarly_iff {rows : WallRowsTable} {acts : List Act} (h : tooEarly rows acts = true) :
    ∃ s s' b, run step (boot rows) acts = some s ∧ s.step (.tick false) = some s' ∧
      s'.begun = s.begun ++ [b] ∧ ¬ s.Apart := by
  obtain ⟨s, hs, hnext⟩ := Option.bind_eq_some_iff.mp (of_decide_eq_true h)
  obtain ⟨s', hs', hboth⟩ := Option.map_eq_some_iff.mp hnext
  obtain ⟨hbegun, hmore, hclose⟩ := of_decide_eq_true hboth
  have hsome : s'.begun ≠ [] := List.ne_nil_of_length_pos (by omega)
  refine ⟨s, s', s'.begun.getLast hsome, hs, hs', ?_, hclose⟩
  rw [← hbegun, List.dropLast_append_getLast]

/-- The next unit is restarted as soon as the one before has been, or while its job still
    runs. -/
theorem next_unit_too_early :
    (∃ s s' b, run step (boot {}) lateResult = some s ∧ s.step (.tick false) = some s' ∧
        s'.begun = s.begun ++ [b] ∧ ¬ s.Apart) ∧
      ∃ s s' b, run step (boot twoBoards) lateRow = some s ∧ s.step (.tick false) = some s' ∧
        s'.begun = s.begun ++ [b] ∧ ¬ s.Apart :=
  ⟨tooEarly_iff (by decide +kernel), tooEarly_iff (by decide +kernel)⟩

end Campaign

end SplitFlap.RestartUnits
