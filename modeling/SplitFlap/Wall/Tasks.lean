/-
  SplitFlap.Wall.Tasks — the link task among the master's other tasks.

  `WallState.cpp` is what the tasks share, behind one mutex; `pass` of
  `WallLink.cpp` is the link task; web requests and the restart of every unit
  stage jobs; the worker changes the rows table.  One `Turn` is one critical
  section of the mutex, one atomic load, or what the link task does between
  two of those.

  A call of the core is one turn.  Its hooks that take the mutex have their
  effect later, one `effect` at a time in the order the core called them:
  `todo` is what the core has said and the hooks have not done yet.  Nothing
  another task does can be seen by the core in between.
-/
import SplitFlap.Wall.Boards
import SplitFlap.Wall.JobSlot
import SplitFlap.Wall.Ops

namespace SplitFlap

/-! ## §1. What the tasks share. -/

/-- `WallRowLink`, of which a starter of jobs reads the contact. -/
structure WallRowLink where
  contact : WallRowContact := {}

/-- A job waiting for the link task.  `table` is the rows table it was staged
against; the code keeps only its number. -/
structure StagedJob where
  row : RowIx
  op : WlOp
  table : WallRowsTable

/-- The part of `Held` that jobs go through, and the two atomics beside it. -/
structure WallState where
  rows : WallRowsTable := {}
  generation : UInt32 := 0
  link : RowIx → WallRowLink := fun _ => {}
  ops : WallOps := {}
  staged : RowIx → Option StagedJob := fun _ => none
  jobsStaged : Int := 0

namespace WallState

/-- `wallOpBegin`: the new job's id, 0 when every place holds a running job. -/
def wallOpBegin (w : WallState) (name : String) (row : Int) (unit : UInt8) : UInt32 × WallState :=
  let begun := w.ops.start name row unit
  (begun.1, { w with ops := begun.2 })

/-- `wallJobBegin`: 0 as well when another job runs on the row. -/
def wallJobBegin (w : WallState) (name : String) (row : Int) (unit : UInt8) : UInt32 × WallState :=
  if w.ops.runningOn row then (0, w) else w.wallOpBegin name row unit

/-- `wallJobStage`: false when one still waits for that row, or the table has
changed since `generation`. -/
def wallJobStage (w : WallState) (row : RowIx) (op : WlOp) (generation : UInt32) :
    Bool × WallState :=
  if (w.staged row).isSome ∨ generation ≠ w.generation then (false, w)
  else
    (true,
      { w with
        staged := Function.update w.staged row (some { row := row, op := op, table := w.rows })
        jobsStaged := w.jobsStaged + 1 })

/-- `wallJobTake`, once the load of `jobsStaged` was not 0. -/
def wallJobTake (w : WallState) (row : RowIx) : Option StagedJob × WallState :=
  match w.staged row with
  | none => (none, w)
  | some job =>
      (some job,
        { w with
          staged := Function.update w.staged row none
          jobsStaged := w.jobsStaged - 1 })

/-- `wallOpFinish`: the job as it ended. -/
def wallOpFinish (w : WallState) (id : UInt32) (ok : Bool) (detail : String) :
    List WallOp × WallState :=
  let finished := w.ops.finish id ok detail
  (finished.1.toList, { w with ops := finished.2 })

/-- `wallOpsFailRow`. -/
def wallOpsFailRow (w : WallState) (row : RowIx) (reason : String) : List WallOp × WallState :=
  let failed := w.ops.failJobs (fun op => op.row = row.val) reason
  (failed.1, { w with ops := failed.2 })

/-- `wallStateSetRows`, of a table that is valid. -/
def wallStateSetRows (w : WallState) (table : WallRowsTable) : List WallOp × WallState :=
  let failed := w.ops.failJobs (fun op => 0 ≤ op.row) "the boards of the wall changed"
  (failed.1,
    { rows := table
      generation := w.generation + 1
      link := fun _ => {}
      ops := failed.2
      staged := fun _ => none
      jobsStaged := w.jobsStaged - (List.finRange WALL_LINK_MAX_ROWS).countP fun i =>
        (w.staged i).isSome })

/-- `wallStatePublishLink`. -/
def wallStatePublishLink (w : WallState) (row : RowIx) (link : WallRowLink) : WallState :=
  { w with link := Function.update w.link row link }

end WallState

/-! ## §2. A row's answer about a job. -/

/-- `wallJobRefusalText`. -/
def wallJobRefusalText (refusal : UInt32) : String :=
  match refusal.toNat with
  | 1 => "the row's firmware has no such job"
  | 2 => "another unit job holds the row"
  | 3 => "the row is in rescue mode and leaves its units alone"
  | 4 => "no such unit address on that row"
  | 5 => "no running unit at that address"
  | 6 => "the unit speaks another protocol version: update it"
  | 7 => "the row refused the job's value"
  | 8 => "the row is out of memory for this job"
  | 9 => "another unit already answers at that address"
  | _ => "the row refused the job"

/-- `maintOutcomeName`, of the byte an outcome is. -/
def maintOutcomeName (outcome : UInt8) : String :=
  match outcome.toNat with
  | 1 => "ok"
  | 2 => "wire-fail"
  | 3 => "exec-validation-fail"
  | 4 => "postcondition-fail"
  | _ => "pending"

/-- `maintReasonName`, of the byte a reason is. -/
def maintReasonName (reason : UInt8) : String :=
  match reason.toNat with
  | 1 => "unit-missing-after-reprobe"
  | 2 => "target-address-occupied"
  | 3 => "boot-info-read-fail"
  | 4 => "boot-state-unknown"
  | 5 => "boot-lock-refused"
  | 6 => "boot-unit-lost"
  | 7 => "boot-verify-failed"
  | 8 => "boot-already-new"
  | 9 => "boot-unit-busy"
  | 10 => "boot-not-started"
  | 11 => "home-not-found"
  | 12 => "home-not-ended"
  | _ => ""

/-- `wallJobOutcomeText`. -/
def wallJobOutcomeText (ok : Bool) (outcome reason : UInt32) : String :=
  let why := maintReasonName reason.toUInt8
  if ok then if why ≠ "" then why else "ok"
  else if outcome = 0 then "the result was lost on the board"
  else if why ≠ "" then maintOutcomeName outcome.toUInt8 ++ ": " ++ why
  else maintOutcomeName outcome.toUInt8

/-- `takeOpState`: a row's answer about a job the master holds open on it. -/
def takeOpState (w : WallState) (state : WlOpState) : List WallOp × WallState :=
  match state.phase with
  | .running => ([], w)
  | .refused => w.wallOpFinish state.opId false (wallJobRefusalText state.reason)
  | .ok => w.wallOpFinish state.opId true (wallJobOutcomeText true 0 state.reason)
  | _ => w.wallOpFinish state.opId false (wallJobOutcomeText false state.outcome state.reason)

/-- What the link task's hooks do to the shared state: the jobs they end. -/
def hookEffect (w : WallState) : LinkEvent → List WallOp × WallState
  | .rowHello _ row _ true => w.wallOpsFailRow row "the row restarted"
  | .rowMessage _ _ (.opState state) => takeOpState w state
  | .jobEnded _ opId .notHandedOver =>
      w.wallOpFinish opId false "the row did not take the job in time"
  | .jobEnded _ opId .noResult => w.wallOpFinish opId false "no result from the row in time"
  | _ => ([], w)

theorem takeOpState_state (w : WallState) (state : WlOpState) :
    ∃ ops, (takeOpState w state).2 = { w with ops := ops } := by
  unfold takeOpState
  split
  · exact ⟨w.ops, rfl⟩
  · exact ⟨_, rfl⟩
  · exact ⟨_, rfl⟩
  · exact ⟨_, rfl⟩

theorem hookEffect_state (w : WallState) (e : LinkEvent) :
    ∃ ops, (hookEffect w e).2 = { w with ops := ops } := by
  unfold hookEffect
  split
  · exact ⟨_, rfl⟩
  · exact takeOpState_state w _
  · exact ⟨_, rfl⟩
  · exact ⟨_, rfl⟩
  · exact ⟨w.ops, rfl⟩

/-- A hook changes the table of jobs, and nothing else the tasks share. -/
theorem hookEffect_same (w : WallState) (e : LinkEvent) :
    (hookEffect w e).2.rows = w.rows ∧ (hookEffect w e).2.generation = w.generation ∧
      (hookEffect w e).2.link = w.link ∧ (hookEffect w e).2.staged = w.staged := by
  obtain ⟨ops, hstate⟩ := hookEffect_state w e
  rw [hstate]
  exact ⟨rfl, rfl, rfl, rfl⟩

theorem hookEffect_jobs (w : WallState) (e : LinkEvent) :
    (hookEffect w e = ([], w)) ∨
      (∃ id ok detail, hookEffect w e = w.wallOpFinish id ok detail) ∨
      ∃ row reason, hookEffect w e = w.wallOpsFailRow row reason := by
  unfold hookEffect
  split
  · exact .inr (.inr ⟨_, _, rfl⟩)
  · unfold takeOpState
    split
    · exact .inl rfl
    · exact .inr (.inl ⟨_, _, _, rfl⟩)
    · exact .inr (.inl ⟨_, _, _, rfl⟩)
    · exact .inr (.inl ⟨_, _, _, rfl⟩)
  · exact .inr (.inl ⟨_, _, _, rfl⟩)
  · exact .inr (.inl ⟨_, _, _, rfl⟩)
  · exact .inl rfl

/-- A hook renames no job. -/
theorem hookEffect_ops (w : WallState) (e : LinkEvent) :
    w.ops.SameJobs (hookEffect w e).2.ops := by
  rcases hookEffect_jobs w e with hno | ⟨id, ok, detail, hone⟩ | ⟨row, reason, hrow⟩
  · rw [hno]
    exact .rfl' w.ops
  · rw [hone]
    show w.ops.SameJobs (w.ops.finish id ok detail).2
    exact WallOps.finish_same w.ops id ok detail
  · rw [hrow]
    simp only [WallState.wallOpsFailRow]
    exact (WallOps.failJobs_spec ..).1

/-! ## §3. The link task. -/

/-- Where a pass of the link task stands. -/
inductive Pc where
  | top
  | stale
  | reading
  | taking (row : Nat)
  | locking (row : RowIx)
  | inHand (row : RowIx) (job : StagedJob)
  | ticking
  | telling

/-- A pass that takes jobs. -/
def Pc.takes : Pc → Prop
  | .taking _ | .locking _ | .inHand .. => True
  | _ => False

/-- A pass that is still to write what its core has waiting. -/
def Pc.window : Pc → Prop
  | .reading | .taking _ | .locking _ | .inHand .. | .ticking => True
  | _ => False

/-- A job is written. -/
def LinkEvent.hands : LinkEvent → Bool
  | .write _ _ (.op _) true => true
  | _ => false

section Tasks

variable [Nanopb]

/-- The link task's own state.  `asked` is, for each row, the staged job that
the core was handed last: the core keeps only its `op`. -/
structure LinkTask where
  core : WallLinkCore := {}
  rowsTable : WallRowsTable := {}
  rowsGeneration : UInt32 := 0
  pc : Pc := .top
  todo : List LinkEvent := []
  said : List LinkEvent := []
  asked : RowIx → Option StagedJob := fun _ => none

/-- The core with everything it has said. -/
def LinkTask.whole (t : LinkTask) : Link :=
  { toWallLinkCore := t.core, log := t.said ++ t.todo }

/-- After a call of the core: what it said is to do. -/
def LinkTask.called (t : LinkTask) (s : Link) (pc : Pc) : LinkTask :=
  { t with core := s.toWallLinkCore, todo := s.log.drop t.said.length, pc := pc }

/-- The calls of a pass before it takes jobs: sockets are accepted, read and
closed, and the core is told what to show. -/
def Link.Call.reads : Link.Call → Bool
  | .accept .. | .closed .. | .bytes .. | .setText .. | .setQuiet .. | .setConfig ..
  | .setHost .. | .setLogWanted .. => true
  | _ => false

/-- The calls of a pass after its tick: orders to rows, and broken sockets. -/
def Link.Call.tells : Link.Call → Bool
  | .send .. | .closed .. => true
  | _ => false

omit [Nanopb] in
theorem reads_starts {c : Link.Call} (h : c.reads = true) : c.starts = false := by
  cases c <;> first | rfl | cases h

omit [Nanopb] in
theorem tells_starts {c : Link.Call} (h : c.tells = true) : c.starts = false := by
  cases c <;> first | rfl | cases h

/-! ## §4. Everyone. -/

/-- A job that has begun and is not staged yet. -/
structure BegunJob where
  row : RowIx
  op : WlOp
  refused : Bool := false

/-- A web request or the restart of every unit: the table's number it works
with, the rows it saw connected since it read that number, and its job. -/
structure Task where
  generation : UInt32
  seen : RowIx → Bool := fun _ => false
  job : Option BegunJob := none

/-- A job that was written: to which connection, and the id whose Hello gave
that connection its place. -/
structure Written where
  conn : ConnIx
  row : RowIx
  op : WlOp
  job : Option StagedJob
  behind : Option CStr

/-- The board it was asked for: the one at its row's index in the table it was
staged against. -/
def Written.askedFor (w : Written) : Option CStr :=
  w.job.bind fun job => boardAt job.table job.row

structure Wall where
  state : WallState := {}
  link : LinkTask := {}
  tasks : Nat → Option Task := fun _ => none
  /-- Jobs begun by others than `wallJobStage`'s callers. -/
  others : List UInt32 := []
  /-- The ids of the jobs that have ended. -/
  ended : List UInt32 := []
  written : List Written := []

/-- The master after its start, on this stored rows table. -/
def Wall.start (rows : WallRowsTable) : Wall :=
  { state := { rows := rows }, link := { rowsTable := rows } }

inductive Turn where
  /-- A task reads the table's number. -/
  | look (task : Nat)
  /-- It takes a snapshot of the wall. -/
  | see (task : Nat)
  | jobBegin (task : Nat) (row : RowIx) (op : WlOp) (name : String)
  | jobStage (task : Nat)
  /-- It finishes the job that was not staged. -/
  | giveUp (task : Nat)
  | opBegin (name : String) (row : Int) (unit : UInt8)
  | opFinish (id : UInt32) (ok : Bool) (detail : String)
  | setRows (table : WallRowsTable)
  /-- The pass compares the table's number, and resets the core. -/
  | check
  | readTable
  | call (H : WallLinkHooks) (call : Link.Call)
  /-- `takeJobs` compares the number again. -/
  | beginTakes
  /-- `wallJobTake` loads `jobsStaged`. -/
  | lookStaged
  | take
  | start (updating : Bool) (nowMs : UInt32)
  | endTakes
  | tick (H : WallLinkHooks) (nowMs : UInt32)
  | tell (H : WallLinkHooks) (call : Link.Call)
  | publish (row : RowIx)
  | endPass
  /-- A hook of the core has its effect. -/
  | effect

namespace Wall

/-- A task's own values have changed. -/
def setTask (s : Wall) (task : Nat) (t : Task) : Wall :=
  { s with tasks := Function.update s.tasks task (some t) }

/-- The shared state after a step that ended these jobs. -/
def after (s : Wall) (ends : List WallOp × WallState) : Wall :=
  { s with state := ends.2, ended := s.ended ++ ends.1.map (·.id) }

/-- The link task goes on from here. -/
def goto (s : Wall) (pc : Pc) : Wall := { s with link := { s.link with pc := pc } }

/-! ### Web requests, the worker, the restart of every unit. -/

def look (s : Wall) (task : Nat) : Option Wall :=
  match s.tasks task with
  | some { job := some _, .. } => none
  | _ => some (s.setTask task { generation := s.state.generation })

def see (s : Wall) (task : Nat) : Option Wall :=
  (s.tasks task).map fun t =>
    s.setTask task { t with
      seen := fun r => (s.state.link r).contact.connected && (s.state.link r).contact.helloSeen }

def jobBegin (s : Wall) (task : Nat) (row : RowIx) (op : WlOp) (name : String) : Option Wall :=
  match s.tasks task with
  | some { generation, seen, job := none } =>
      let begun := s.state.wallJobBegin name row.val op.address.toUInt8
      let s := { s with state := begun.2 }
      if begun.1 = 0 then some s
      else
        some (s.setTask task
          { generation := generation, seen := seen
            job := some { row := row, op := { op with opId := begun.1 } } })
  | _ => none

def jobStage (s : Wall) (task : Nat) : Option Wall :=
  match s.tasks task with
  | some { generation, seen, job := some { row, op, refused := false } } =>
      match s.state.wallJobStage row op generation with
      | (true, state) =>
          some ({ s with state := state }.setTask task
            { generation := generation, seen := seen, job := none })
      | (false, _) =>
          some (s.setTask task
            { generation := generation, seen := seen
              job := some { row := row, op := op, refused := true } })
  | _ => none

def giveUp (s : Wall) (task : Nat) : Option Wall :=
  match s.tasks task with
  | some { generation, seen, job := some { row := _, op, refused := true } } =>
      some ((s.after
        (s.state.wallOpFinish op.opId false "the row could not be handed the job")).setTask task
          { generation := generation, seen := seen, job := none })
  | _ => none

def opBegin (s : Wall) (name : String) (row : Int) (unit : UInt8) : Option Wall :=
  let begun := s.state.wallOpBegin name row unit
  let s := { s with state := begun.2 }
  if begun.1 = 0 then some s else some { s with others := begun.1 :: s.others }

def opFinish (s : Wall) (id : UInt32) (ok : Bool) (detail : String) : Option Wall :=
  if id ∈ s.others then some (s.after (s.state.wallOpFinish id ok detail)) else none

def setRows (s : Wall) (table : WallRowsTable) : Option Wall :=
  some (s.after (s.state.wallStateSetRows table))

/-! ### The link task. -/

def check (s : Wall) : Option Wall :=
  match s.link.pc, s.link.todo with
  | .top, [] =>
      if s.state.generation ≠ s.link.rowsGeneration then
        some { s with link := s.link.called s.link.whole.reset .stale }
      else some (s.goto .reading)
  | _, _ => none

def readTable (s : Wall) : Option Wall :=
  match s.link.pc, s.link.todo with
  | .stale, [] =>
      some { s with
        link := { s.link with
          rowsTable := s.state.rows
          rowsGeneration := s.state.generation
          pc := .reading } }
  | _, _ => none

/-- A call of the core with the pass's own table behind its hooks. -/
def callCore (s : Wall) (H : WallLinkHooks) (call : Link.Call) (pc : Pc) : Option Wall :=
  (s.link.whole.apply (H.withTable s.link.rowsTable) call).map fun l =>
    { s with link := s.link.called l pc }

def call (s : Wall) (H : WallLinkHooks) (c : Link.Call) : Option Wall :=
  match s.link.pc, s.link.todo with
  | .reading, [] => if c.reads then s.callCore H c .reading else none
  | _, _ => none

def beginTakes (s : Wall) : Option Wall :=
  match s.link.pc, s.link.todo with
  | .reading, [] =>
      if s.state.generation ≠ s.link.rowsGeneration then some (s.goto .ticking)
      else some (s.goto (.taking 0))
  | _, _ => none

/-- The next row of `takeJobs`, if there is one. -/
def nextRow (s : Wall) (row : Nat) : Option RowIx :=
  if h : row < s.link.rowsTable.ids.length ∧ row < WALL_LINK_MAX_ROWS then some ⟨row, h.2⟩
  else none

def lookStaged (s : Wall) : Option Wall :=
  match s.link.pc with
  | .taking row =>
      (s.nextRow row).map fun r =>
        if s.state.jobsStaged = 0 then s.goto (.taking (row + 1)) else s.goto (.locking r)
  | _ => none

def take (s : Wall) : Option Wall :=
  match s.link.pc with
  | .locking row =>
      match s.state.wallJobTake row with
      | (none, _) => some (s.goto (.taking (row.val + 1)))
      | (some job, state) => some ({ s with state := state }.goto (.inHand row job))
  | _ => none

/-- The job in hand goes to the core, unless the row takes an update or holds
another. -/
def startJob (s : Wall) (updating : Bool) (nowMs : UInt32) : Option Wall :=
  match s.link.pc with
  | .inHand row job =>
      let next := Pc.taking (row.val + 1)
      if updating then
        some ((s.after (s.state.wallOpFinish job.op.opId false
          "the row is taking a firmware update")).goto next)
      else
        match s.link.whole.startJob row job.op nowMs with
        | (true, l) =>
            some { s with
              link := { s.link with
                core := l.toWallLinkCore
                said := l.log
                asked := Function.update s.link.asked row (some job)
                pc := next } }
        | (false, _) =>
            some ((s.after (s.state.wallOpFinish job.op.opId false
              "another unit job holds the row")).goto next)
  | _ => none

def endTakes (s : Wall) : Option Wall :=
  match s.link.pc with
  | .taking row => if (s.nextRow row).isSome then none else some (s.goto .ticking)
  | _ => none

def tick (s : Wall) (H : WallLinkHooks) (nowMs : UInt32) : Option Wall :=
  match s.link.pc with
  | .ticking => s.callCore H (.tick nowMs) .telling
  | _ => none

def tell (s : Wall) (H : WallLinkHooks) (c : Link.Call) : Option Wall :=
  match s.link.pc, s.link.todo with
  | .telling, [] => if c.tells then s.callCore H c .telling else none
  | _, _ => none

/-- `publish`, one row of it. -/
def publish (s : Wall) (row : RowIx) : Option Wall :=
  match s.link.pc, s.link.todo with
  | .telling, [] =>
      some { s with
        state := s.state.wallStatePublishLink row { contact := (s.link.core.rows row).contact } }
  | _, _ => none

/-- The pass ends; it ends early when the port cannot be listened on. -/
def endPass (s : Wall) : Option Wall :=
  match s.link.pc, s.link.todo with
  | .reading, [] | .telling, [] => some (s.goto .top)
  | _, _ => none

/-- What is written down when a job is written. -/
def writtenOf (t : LinkTask) : LinkEvent → List Written
  | .write conn row (.op op) true =>
      [{ conn := conn, row := row, op := op, job := t.asked row, behind := Link.boardOf conn t.said }]
  | _ => []

def effect (s : Wall) : Option Wall :=
  match s.link.todo with
  | [] => none
  | e :: rest =>
      let s' := s.after (hookEffect s.state e)
      some { s' with
        link := { s.link with said := s.link.said ++ [e], todo := rest }
        written := s.written ++ writtenOf s.link e }

/-! ### Runs. -/

def step (s : Wall) : Turn → Option Wall
  | .look task => s.look task
  | .see task => s.see task
  | .jobBegin task row op name => s.jobBegin task row op name
  | .jobStage task => s.jobStage task
  | .giveUp task => s.giveUp task
  | .opBegin name row unit => s.opBegin name row unit
  | .opFinish id ok detail => s.opFinish id ok detail
  | .setRows table => s.setRows table
  | .check => s.check
  | .readTable => s.readTable
  | .call H c => s.call H c
  | .beginTakes => s.beginTakes
  | .lookStaged => s.lookStaged
  | .take => s.take
  | .start updating nowMs => s.startJob updating nowMs
  | .endTakes => s.endTakes
  | .tick H nowMs => s.tick H nowMs
  | .tell H c => s.tell H c
  | .publish row => s.publish row
  | .endPass => s.endPass
  | .effect => s.effect

end Wall

/-! ## §5. The link task by itself. -/

/-- What the link task's own turns keep: its core's connections are those of
its table's boards, its job slots are where the log leaves them, and nothing
is left to do while it takes jobs. -/
structure LinkTask.Sound (t : LinkTask) : Prop where
  placed : t.whole.Placed
  follows : t.whole.Follows
  named : t.whole.Named t.rowsTable t.said
  forgotten : t.pc = .stale → (∀ conn, (t.core.conns conn).row = none) ∧
    (∀ r, (t.core.rows r).job.stage = .none) ∧ Link.lastAsked t.whole.log = none
  quiet : t.pc.takes ∨ t.pc = .ticking → t.todo = []

namespace LinkTask

open Link Machine Trace Log

variable {t : LinkTask}

theorem Sound.says (h : t.Sound) : Says (Homed t.rowsTable) t.said t.todo := by
  obtain ⟨said, hlog, hspeech⟩ := h.named.said
  have htodo : t.todo = said := List.append_cancel_left hlog
  rw [htodo]
  exact hspeech

/-- An event is done: the core has said what it had said. -/
theorem Sound.popped (h : t.Sound) {e : LinkEvent} {rest : List LinkEvent}
    (htodo : t.todo = e :: rest) :
    ({ t with said := t.said ++ [e], todo := rest } : LinkTask).Sound := by
  have hwhole : ({ t with said := t.said ++ [e], todo := rest } : LinkTask).whole = t.whole := by
    show ({ toWallLinkCore := t.core, log := (t.said ++ [e]) ++ rest } : Link) = _
    rw [List.append_assoc]
    show _ = ({ toWallLinkCore := t.core, log := t.said ++ t.todo } : Link)
    rw [htodo]
    rfl
  refine ⟨by rw [hwhole]; exact h.placed, by rw [hwhole]; exact h.follows, ?_, ?_, ?_⟩
  · rw [hwhole]
    refine ⟨h.named.asked, h.named.seated, rest, ?_, ?_⟩
    · show t.said ++ t.todo = t.said ++ [e] ++ rest
      rw [htodo, List.append_assoc]
      rfl
    · intro pre e' post hrest
      have hsaid := h.says (e :: pre) e' post (by rw [htodo, hrest]; rfl)
      rw [List.append_assoc]
      exact hsaid
  · rw [hwhole]
    exact h.forgotten
  · intro hpc
    rw [h.quiet hpc] at htodo
    cases htodo

/-- What a path of the core's moves keeps. -/
theorem path_sound (H : WallLinkHooks) {table : WallRowsTable} {base : List LinkEvent}
    {s s' : Link} (hpath : Path (Move (H.withTable table)) s s') (hplaced : s.Placed)
    (hfollows : s.Follows) (hnamed : s.Named table base) :
    s'.Placed ∧ s'.Follows ∧ s'.Named table base := by
  refine hpath.keeps (P := fun s => s.Placed ∧ s.Follows ∧ s.Named table base) ?_
    ⟨hplaced, hfollows, hnamed⟩
  rintro a b ⟨hp, hf, hn⟩ hmove
  exact ⟨move_placed _ a b hp hmove, move_follows _ a b hp hf hmove, move_named H a b hp hn hmove⟩

theorem called_whole {l : Link} {pc : Pc} {said : List LinkEvent} (hlog : l.log = t.said ++ said) :
    (t.called l pc).whole = l := by
  show ({ toWallLinkCore := l.toWallLinkCore, log := t.said ++ l.log.drop t.said.length } : Link) = l
  rw [hlog, List.drop_left]
  cases l
  exact congrArg _ hlog.symm

theorem Sound.called (h : t.Sound) {H : WallLinkHooks} {l : Link} {pc : Pc}
    (hpath : Path (Move (H.withTable t.rowsTable)) t.whole l)
    (hforgotten : pc = .stale → (∀ conn, (l.conns conn).row = none) ∧
      (∀ r, (l.rows r).job.stage = .none) ∧ lastAsked l.log = none)
    (hquiet : ¬(pc.takes ∨ pc = .ticking)) : (t.called l pc).Sound := by
  have hkeeps := path_sound H hpath h.placed h.follows h.named
  obtain ⟨said, hlog, _⟩ := hkeeps.2.2.said
  have hwhole : (t.called l pc).whole = l := called_whole hlog
  refine ⟨by rw [hwhole]; exact hkeeps.1, by rw [hwhole]; exact hkeeps.2.1, ?_, ?_, ?_⟩
  · rw [hwhole]
    exact hkeeps.2.2
  · rw [hwhole]
    exact hforgotten
  · intro hpc
    exact absurd hpc hquiet

theorem Sound.goto (h : t.Sound) {pc : Pc} (hstale : pc ≠ .stale)
    (hquiet : pc.takes ∨ pc = .ticking → t.todo = []) : ({ t with pc := pc } : LinkTask).Sound :=
  ⟨h.placed, h.follows, h.named, fun hpc => absurd hpc hstale, hquiet⟩

/-- After a reset nothing is known of any row, so any table may come next. -/
theorem Sound.tabled (h : t.Sound) (hpc : t.pc = .stale) (htodo : t.todo = [])
    (table : WallRowsTable) (number : UInt32) :
    ({ t with rowsTable := table, rowsGeneration := number, pc := .reading } : LinkTask).Sound := by
  obtain ⟨hnobody, _, hnone⟩ := h.forgotten hpc
  refine ⟨h.placed, h.follows, ⟨?_, ?_, [], ?_, says_nil⟩, fun hpc => (nomatch hpc), ?_⟩
  · intro id answer hasked
    have hlast : lastAsked t.whole.log = some (id, answer) := hasked
    rw [hnone] at hlast
    cases hlast
  · intro conn r hrow
    have hrow' : (t.core.conns conn).row = some r := hrow
    rw [hnobody conn] at hrow'
    cases hrow'
  · show t.said ++ t.todo = t.said ++ []
    rw [htodo]
  · rintro (hpc | hpc) <;> cases hpc

/-- Orders to rows, and closing a connection, write no job. -/
theorem tells_says {H : WallLinkHooks} {c : Link.Call} (htells : c.tells = true) {s l : Link}
    (hcall : s.apply H c = some l) :
    ∃ said, l.log = s.log ++ said ∧ ∀ e ∈ said, e.hands = false := by
  cases c with
  | closed conn =>
      injection hcall with hcall
      refine ⟨[], ?_, fun _ he => (nomatch he)⟩
      rw [← hcall, closed_log, List.append_nil]
  | send r order nowMs =>
      injection hcall with hcall
      rcases send_cases H s r order.toRow nowMs with h | ⟨conn, ok, _, h⟩
      · rw [h] at hcall
        exact ⟨[], by rw [← hcall, List.append_nil], fun _ he => (nomatch he)⟩
      · rw [h] at hcall
        refine ⟨[.write conn r order.toRow ok], by rw [← hcall]; exact wrote_log .., ?_⟩
        intro e he
        rw [List.mem_singleton.mp he]
        cases order <;> rfl
  | _ => cases htells

/-- The core takes a job on. -/
theorem started_log (htodo : t.todo = []) {r : RowIx} {op : WlOp} {nowMs : UInt32} {l : Link}
    (hstart : t.whole.startJob r op nowMs = (true, l)) :
    l.log = t.said ++ [.jobAccepted r op] := by
  have hwhole : t.whole.log = t.said := by
    show t.said ++ t.todo = t.said
    rw [htodo, List.append_nil]
  have hfst : (t.whole.startJob r op nowMs).1 = true := by rw [hstart]
  have htrue : ((t.whole.rows r).job.start op nowMs).2 = true := hfst
  have hl : l = (t.whole.startJob r op nowMs).2 := by rw [hstart]
  rw [hl, ← hwhole]
  simp [startJob, htrue]

theorem Sound.started (h : t.Sound) (htodo : t.todo = []) {r : RowIx} {op : WlOp} {nowMs : UInt32}
    {l : Link} (hstart : t.whole.startJob r op nowMs = (true, l)) {asked : RowIx → Option StagedJob}
    {pc : Pc} (hstale : pc ≠ .stale) :
    ({ t with core := l.toWallLinkCore, said := l.log, asked := asked, pc := pc } :
        LinkTask).Sound := by
  have hl : l = (t.whole.startJob r op nowMs).2 := by rw [hstart]
  have hlog : l.log = t.whole.log ++ [.jobAccepted r op] := by
    rw [started_log htodo hstart]
    show _ = (t.said ++ t.todo) ++ _
    rw [htodo, List.append_nil]
  have hconns : l.conns = t.whole.conns := by
    rw [hl]
    unfold startJob
    dsimp only
    split <;> rfl
  have hsame : ({ t with core := l.toWallLinkCore, said := l.log, asked := asked, pc := pc } :
      LinkTask).whole = l := by
    show ({ toWallLinkCore := l.toWallLinkCore, log := l.log ++ t.todo } : Link) = l
    rw [htodo, List.append_nil]
  refine ⟨?_, ?_, ?_, fun hpc => absurd hpc hstale, fun _ => htodo⟩
  · rw [hsame, hl]
    exact h.placed.jobStarted r op nowMs
  · rw [hsame, hl]
    exact h.follows.jobStarted r op nowMs
  · rw [hsame]
    refine ⟨?_, ?_, [], (List.append_nil _).symm, says_nil⟩
    · rw [hlog, lastAsked_snoc]
      exact h.named.asked
    · intro conn r' hrow
      rw [hconns] at hrow
      rw [hlog, boardOf_placeless rfl]
      exact h.named.seated conn r' hrow

/-- A job that waits after an event of the core waited before it. -/
theorem Sound.waited (h : t.Sound) {e : LinkEvent} {rest : List LinkEvent}
    (htodo : t.todo = e :: rest) {r : RowIx} {op : WlOp}
    (hwaits : accepts jobStep .idle (jobLog r (t.said ++ [e])) = some (.waiting op)) :
    accepts jobStep .idle (jobLog r t.said) = some (.waiting op) := by
  have hlog := h.follows r
  show accepts jobStep .idle (jobLog r t.said) = _
  replace hlog : accepts jobStep .idle (jobLog r (t.said ++ t.todo)) = _ := hlog
  rw [htodo] at hlog
  obtain ⟨a, b, ha, hb, hstep⟩ := life_step hlog
  rw [hb, Option.some.injEq] at hwaits
  subst hwaits
  rcases hstep with ⟨_, rfl⟩ | ⟨je, hview, hstep⟩
  · exact ha
  · -- only an acceptance makes a job wait, and a call of the core accepts none
    rw [jobStep_waiting hstep] at hview
    have hhomed := h.says [] e rest htodo
    rw [jobView_accepted hview] at hhomed
    exact hhomed.elim

/-- A job that is written was waiting. -/
theorem Sound.wrote_waiting (h : t.Sound) {conn : ConnIx} {r : RowIx} {op : WlOp}
    {rest : List LinkEvent} (htodo : t.todo = .write conn r (.op op) true :: rest) :
    accepts jobStep .idle (jobLog r t.said) = some (.waiting op) := by
  have hlog : accepts jobStep .idle (jobLog r (t.said ++ t.todo)) = _ := h.follows r
  rw [htodo] at hlog
  obtain ⟨a, b, ha, _, hstep⟩ := life_step hlog
  have hview : jobView r (.write conn r (.op op) true) = some (.handed op) := if_pos rfl
  rcases hstep with ⟨hno, _⟩ | ⟨je, hje, hstep⟩
  · rw [hview] at hno
    cases hno
  · rw [hview, Option.some.injEq] at hje
    subst hje
    rcases jobStep_cases hstep with ⟨_, _, he, _⟩ | ⟨op', rfl, he, _⟩ | ⟨_, _, he, _⟩ |
      ⟨_, _, he, _⟩ | ⟨_, _, _, he, _⟩ | ⟨he, _⟩
    · cases he
    · injection he with he
      rw [ha, he]
    · cases he
    · cases he
    · cases he
    · rcases he with he | he <;> cases he

/-- A job that is open after an event of the core was open before it. -/
theorem Sound.held (h : t.Sound) {e : LinkEvent} {rest : List LinkEvent}
    (htodo : t.todo = e :: rest) {r : RowIx} {op : WlOp} {b : JobLife} (hop : b.holds op)
    (hlife : accepts jobStep .idle (jobLog r (t.said ++ [e])) = some b) :
    ∃ a, accepts jobStep .idle (jobLog r t.said) = some a ∧ a.holds op := by
  have hlog : accepts jobStep .idle (jobLog r (t.said ++ t.todo)) = _ := h.follows r
  rw [htodo] at hlog
  obtain ⟨a, b', ha, hb, hstep⟩ := life_step hlog
  rw [hb, Option.some.injEq] at hlife
  subst hlife
  refine ⟨a, ha, ?_⟩
  rcases hstep with ⟨_, rfl⟩ | ⟨je, hview, hstep⟩
  · exact hop
  · rcases jobStep_cases hstep with ⟨op', _, rfl, _⟩ | ⟨op', rfl, _, rfl⟩ | ⟨_, _, _, rfl⟩ |
      ⟨_, _, _, rfl⟩ | ⟨op', state, rfl, _, _, rfl⟩ | ⟨_, rfl⟩
    · have hhomed := h.says [] e rest htodo
      rw [jobView_accepted hview] at hhomed
      exact hhomed.elim
    · rcases hop with hop | hop <;> cases hop
      exact .inl rfl
    · rcases hop with hop | hop <;> cases hop
    · rcases hop with hop | hop <;> cases hop
    · split at hop
      · exact hop
      · rcases hop with hop | hop <;> cases hop
    · rcases hop with hop | hop <;> cases hop

/-- After the end of a job its row's slot is empty. -/
theorem Sound.closed (h : t.Sound) {e : LinkEvent} {rest : List LinkEvent}
    (htodo : t.todo = e :: rest) {r : RowIx} {je : JobEvent} (hview : jobView r e = some je)
    (hend : je.isEnd = true) :
    ∃ a, accepts jobStep .idle (jobLog r t.said) = some a ∧ jobStep a je = some .idle ∧
      accepts jobStep .idle (jobLog r (t.said ++ [e])) = some .idle := by
  have hlog : accepts jobStep .idle (jobLog r (t.said ++ t.todo)) = _ := h.follows r
  rw [htodo] at hlog
  obtain ⟨a, b, ha, hb, hstep⟩ := life_step hlog
  rcases hstep with ⟨hno, _⟩ | ⟨je', hview', hstep⟩
  · rw [hview] at hno
    cases hno
  · rw [hview, Option.some.injEq] at hview'
    subst hview'
    have hidle := jobStep_end hend hstep
    subst hidle
    exact ⟨a, ha, hstep, hb⟩

/-- With nothing left to do the core's slots are those of the log. -/
theorem Sound.slot (h : t.Sound) (htodo : t.todo = []) (r : RowIx) :
    accepts jobStep .idle (jobLog r t.said) = some (lifeOf (t.core.rows r).job) := by
  have hlife : accepts jobStep .idle (jobLog r (t.said ++ t.todo)) = _ := h.follows r
  rw [htodo, List.append_nil] at hlife
  exact hlife

theorem Sound.slot_waiting (h : t.Sound) (htodo : t.todo = []) {r : RowIx} {op : WlOp}
    (hwaits : accepts jobStep .idle (jobLog r t.said) = some (.waiting op)) :
    (t.core.rows r).job.stage = .waiting ∧ (t.core.rows r).job.op = op := by
  rw [h.slot htodo r, Option.some.injEq] at hwaits
  unfold lifeOf at hwaits
  split at hwaits
  · cases hwaits
  · next hstage =>
      injection hwaits with hop
      exact ⟨hstage, hop⟩
  · cases hwaits

end LinkTask

/-! ## §6. What a turn can do. -/

namespace Wall

variable {s s' : Wall}

theorem look_cases {task : Nat} (h : s.look task = some s') :
    s' = s.setTask task { generation := s.state.generation } := by
  unfold look at h
  split at h
  · cases h
  · injection h with h
    exact h.symm

theorem see_cases {task : Nat} (h : s.see task = some s') :
    ∃ t, s.tasks task = some t ∧
      s' = s.setTask task { t with
        seen := fun r => (s.state.link r).contact.connected && (s.state.link r).contact.helloSeen } := by
  unfold see at h
  rw [Option.map_eq_some_iff] at h
  obtain ⟨t, ht, h⟩ := h
  exact ⟨t, ht, h.symm⟩

omit [Nanopb] in
/-- `wallJobBegin`: refused, or a new job of the row. -/
theorem wallJobBegin_cases (w : WallState) (name : String) (row : Int) (unit : UInt8) :
    w.wallJobBegin name row unit = (0, w) ∨
      w.wallJobBegin name row unit =
        ((w.ops.start name row unit).1, { w with ops := (w.ops.start name row unit).2 }) := by
  unfold WallState.wallJobBegin
  split
  · exact .inl rfl
  · exact .inr rfl

theorem jobBegin_cases {task : Nat} {row : RowIx} {op : WlOp} {name : String}
    (h : s.jobBegin task row op name = some s') :
    ∃ t, s.tasks task = some t ∧ t.job = none ∧
      (s' = s ∨
        ∃ id ops, s.state.ops.start name row.val op.address.toUInt8 = (id, ops) ∧
          (id = 0 ∧ s' = { s with state := { s.state with ops := ops } } ∨
            id ≠ 0 ∧ s' = ({ s with state := { s.state with ops := ops } } : Wall).setTask task
              { t with job := some { row := row, op := { op with opId := id } } })) := by
  unfold jobBegin at h
  split at h
  · next generation seen ht =>
      refine ⟨_, ht, rfl, ?_⟩
      rcases wallJobBegin_cases s.state name row.val op.address.toUInt8 with hno | hyes
      · rw [hno] at h
        injection h with h
        exact .inl h.symm
      · rw [hyes] at h
        refine .inr ⟨_, _, rfl, ?_⟩
        dsimp only at h
        split at h
        · next hzero =>
            injection h with h
            exact .inl ⟨hzero, h.symm⟩
        · next hid =>
            injection h with h
            exact .inr ⟨hid, h.symm⟩
  · cases h

theorem jobStage_cases {task : Nat} (h : s.jobStage task = some s') :
    ∃ t job, s.tasks task = some t ∧ t.job = some job ∧ job.refused = false ∧
      (s.state.staged job.row = none ∧ t.generation = s.state.generation ∧
          s' = ({ s with state := { s.state with
            staged := Function.update s.state.staged job.row
              (some { row := job.row, op := job.op, table := s.state.rows })
            jobsStaged := s.state.jobsStaged + 1 } } : Wall).setTask task { t with job := none } ∨
        s' = s.setTask task { t with job := some { job with refused := true } }) := by
  unfold jobStage at h
  split at h
  · next generation seen row op ht =>
      refine ⟨_, _, ht, rfl, rfl, ?_⟩
      by_cases hrefused : (s.state.staged row).isSome ∨ generation ≠ s.state.generation
      · rw [WallState.wallJobStage, if_pos hrefused] at h
        injection h with h
        exact .inr h.symm
      · rw [WallState.wallJobStage, if_neg hrefused] at h
        rw [not_or, not_not] at hrefused
        injection h with h
        refine .inl ⟨?_, hrefused.2, h.symm⟩
        simpa using hrefused.1
  · cases h

theorem giveUp_cases {task : Nat} (h : s.giveUp task = some s') :
    ∃ t job, s.tasks task = some t ∧ t.job = some job ∧ job.refused = true ∧
      s' = (s.after (s.state.wallOpFinish job.op.opId false
        "the row could not be handed the job")).setTask task { t with job := none } := by
  unfold giveUp at h
  split at h
  · next generation seen row op ht =>
      injection h with h
      exact ⟨_, _, ht, rfl, rfl, h.symm⟩
  · cases h

theorem opBegin_cases {name : String} {row : Int} {unit : UInt8}
    (h : s.opBegin name row unit = some s') :
    ∃ id ops, s.state.ops.start name row unit = (id, ops) ∧
      (id = 0 ∧ s' = { s with state := { s.state with ops := ops } } ∨
        id ≠ 0 ∧ s' = { s with
          state := { s.state with ops := ops }, others := id :: s.others }) := by
  unfold opBegin WallState.wallOpBegin at h
  dsimp only at h
  refine ⟨_, _, rfl, ?_⟩
  split at h
  · next hzero =>
      injection h with h
      exact .inl ⟨hzero, h.symm⟩
  · next hid =>
      injection h with h
      exact .inr ⟨hid, h.symm⟩

theorem opFinish_cases {id : UInt32} {ok : Bool} {detail : String}
    (h : s.opFinish id ok detail = some s') :
    id ∈ s.others ∧ s' = s.after (s.state.wallOpFinish id ok detail) := by
  unfold opFinish at h
  split at h
  · next hid =>
      injection h with h
      exact ⟨hid, h.symm⟩
  · cases h

theorem setRows_cases {table : WallRowsTable} (h : s.setRows table = some s') :
    s' = s.after (s.state.wallStateSetRows table) := by
  injection h with h
  exact h.symm

theorem check_cases (h : s.check = some s') :
    s.link.pc = .top ∧ s.link.todo = [] ∧
      (s.state.generation ≠ s.link.rowsGeneration ∧
          s' = { s with link := s.link.called s.link.whole.reset .stale } ∨
        s.state.generation = s.link.rowsGeneration ∧ s' = s.goto .reading) := by
  unfold check at h
  split at h
  · next hpc htodo =>
      refine ⟨hpc, htodo, ?_⟩
      split at h
      · next hother =>
          injection h with h
          exact .inl ⟨hother, h.symm⟩
      · next hsame =>
          injection h with h
          exact .inr ⟨not_not.mp hsame, h.symm⟩
  · cases h

theorem readTable_cases (h : s.readTable = some s') :
    s.link.pc = .stale ∧ s.link.todo = [] ∧
      s' = { s with
        link := { s.link with
          rowsTable := s.state.rows
          rowsGeneration := s.state.generation
          pc := .reading } } := by
  unfold readTable at h
  split at h
  · next hpc htodo =>
      injection h with h
      exact ⟨hpc, htodo, h.symm⟩
  · cases h

theorem callCore_cases {H : WallLinkHooks} {c : Link.Call} {pc : Pc}
    (h : s.callCore H c pc = some s') :
    ∃ l, s.link.whole.apply (H.withTable s.link.rowsTable) c = some l ∧
      s' = { s with link := s.link.called l pc } := by
  unfold callCore at h
  rw [Option.map_eq_some_iff] at h
  obtain ⟨l, hl, h⟩ := h
  exact ⟨l, hl, h.symm⟩

theorem call_cases {H : WallLinkHooks} {c : Link.Call} (h : s.call H c = some s') :
    s.link.pc = .reading ∧ s.link.todo = [] ∧ c.reads = true ∧
      ∃ l, s.link.whole.apply (H.withTable s.link.rowsTable) c = some l ∧
        s' = { s with link := s.link.called l .reading } := by
  unfold call at h
  split at h
  · next hpc htodo =>
      split at h
      · next hreads => exact ⟨hpc, htodo, hreads, callCore_cases h⟩
      · cases h
  · cases h

theorem beginTakes_cases (h : s.beginTakes = some s') :
    s.link.pc = .reading ∧ s.link.todo = [] ∧
      (s' = s.goto .ticking ∨
        s.state.generation = s.link.rowsGeneration ∧ s' = s.goto (.taking 0)) := by
  unfold beginTakes at h
  split at h
  · next hpc htodo =>
      refine ⟨hpc, htodo, ?_⟩
      split at h
      · injection h with h
        exact .inl h.symm
      · next hsame =>
          injection h with h
          exact .inr ⟨not_not.mp hsame, h.symm⟩
  · cases h

theorem lookStaged_cases (h : s.lookStaged = some s') :
    ∃ row, s.link.pc = .taking row ∧
      (s' = s.goto (.taking (row + 1)) ∨ ∃ r, s' = s.goto (.locking r)) := by
  unfold lookStaged at h
  split at h
  · next row hpc =>
      rw [Option.map_eq_some_iff] at h
      obtain ⟨r, _, h⟩ := h
      refine ⟨row, hpc, ?_⟩
      split at h
      · exact .inl h.symm
      · exact .inr ⟨r, h.symm⟩
  · cases h

theorem take_cases (h : s.take = some s') :
    ∃ row, s.link.pc = .locking row ∧
      (s' = s.goto (.taking (row.val + 1)) ∨
        ∃ job, s.state.staged row = some job ∧
          s' = ({ s with state := { s.state with
            staged := Function.update s.state.staged row none
            jobsStaged := s.state.jobsStaged - 1 } } : Wall).goto (.inHand row job)) := by
  unfold take at h
  split at h
  · next row hpc =>
      refine ⟨row, hpc, ?_⟩
      unfold WallState.wallJobTake at h
      cases hstaged : s.state.staged row with
      | none =>
          rw [hstaged] at h
          injection h with h
          exact .inl h.symm
      | some job =>
          rw [hstaged] at h
          injection h with h
          exact .inr ⟨job, rfl, h.symm⟩
  · cases h

theorem startJob_cases {updating : Bool} {nowMs : UInt32} (h : s.startJob updating nowMs = some s') :
    ∃ row job, s.link.pc = .inHand row job ∧
      ((∃ detail, s' = (s.after (s.state.wallOpFinish job.op.opId false detail)).goto
          (.taking (row.val + 1))) ∨
        ∃ l, s.link.whole.startJob row job.op nowMs = (true, l) ∧
          s' = { s with
            link := { s.link with
              core := l.toWallLinkCore
              said := l.log
              asked := Function.update s.link.asked row (some job)
              pc := .taking (row.val + 1) } }) := by
  unfold startJob at h
  split at h
  · next row job hpc =>
      refine ⟨row, job, hpc, ?_⟩
      dsimp only at h
      split at h
      · injection h with h
        exact .inl ⟨_, h.symm⟩
      · split at h
        · next l hl =>
            injection h with h
            exact .inr ⟨l, hl, h.symm⟩
        · injection h with h
          exact .inl ⟨_, h.symm⟩
  · cases h

theorem endTakes_cases (h : s.endTakes = some s') :
    ∃ row, s.link.pc = .taking row ∧ s' = s.goto .ticking := by
  unfold endTakes at h
  split at h
  · next row hpc =>
      split at h
      · cases h
      · injection h with h
        exact ⟨row, hpc, h.symm⟩
  · cases h

theorem tick_cases {H : WallLinkHooks} {nowMs : UInt32} (h : s.tick H nowMs = some s') :
    s.link.pc = .ticking ∧
      ∃ l, s.link.whole.apply (H.withTable s.link.rowsTable) (.tick nowMs) = some l ∧
        s' = { s with link := s.link.called l .telling } := by
  unfold tick at h
  split at h
  · next hpc => exact ⟨hpc, callCore_cases h⟩
  · cases h

theorem tell_cases {H : WallLinkHooks} {c : Link.Call} (h : s.tell H c = some s') :
    s.link.pc = .telling ∧ s.link.todo = [] ∧ c.tells = true ∧
      ∃ l, s.link.whole.apply (H.withTable s.link.rowsTable) c = some l ∧
        s' = { s with link := s.link.called l .telling } := by
  unfold tell at h
  split at h
  · next hpc htodo =>
      split at h
      · next htells => exact ⟨hpc, htodo, htells, callCore_cases h⟩
      · cases h
  · cases h

theorem publish_cases {row : RowIx} (h : s.publish row = some s') :
    s.link.pc = .telling ∧ s.link.todo = [] ∧
      s' = { s with
        state := s.state.wallStatePublishLink row { contact := (s.link.core.rows row).contact } } := by
  unfold publish at h
  split at h
  · next hpc htodo =>
      injection h with h
      exact ⟨hpc, htodo, h.symm⟩
  · cases h

theorem endPass_cases (h : s.endPass = some s') :
    (s.link.pc = .reading ∨ s.link.pc = .telling) ∧ s.link.todo = [] ∧ s' = s.goto .top := by
  unfold endPass at h
  split at h
  · next hpc htodo =>
      injection h with h
      exact ⟨.inl hpc, htodo, h.symm⟩
  · next hpc htodo =>
      injection h with h
      exact ⟨.inr hpc, htodo, h.symm⟩
  · cases h

theorem effect_cases (h : s.effect = some s') :
    ∃ e rest, s.link.todo = e :: rest ∧
      s' = { s.after (hookEffect s.state e) with
        link := { s.link with said := s.link.said ++ [e], todo := rest }
        written := s.written ++ writtenOf s.link e } := by
  unfold effect at h
  split at h
  · cases h
  · next e rest htodo =>
      injection h with h
      exact ⟨e, rest, htodo, h.symm⟩

/-! ### The link task keeps sound. -/

open Link LinkTask

theorem step_sound {a : Turn} (h : s.link.Sound) (hstep : s.step a = some s') : s'.link.Sound := by
  have hmoves : ∀ pc : Pc, pc.takes → pc ≠ .stale := by
    intro pc htakes hstale
    rw [hstale] at htakes
    exact htakes
  cases a with
  | look task =>
      rw [look_cases hstep]
      exact h
  | see task =>
      obtain ⟨t, _, rfl⟩ := see_cases hstep
      exact h
  | jobBegin task row op name =>
      obtain ⟨t, _, _, rfl | ⟨id, ops, _, ⟨_, rfl⟩ | ⟨_, rfl⟩⟩⟩ := jobBegin_cases hstep
      · exact h
      · exact h
      · exact h
  | jobStage task =>
      obtain ⟨t, job, _, _, _, ⟨_, _, rfl⟩ | rfl⟩ := jobStage_cases hstep
      · exact h
      · exact h
  | giveUp task =>
      obtain ⟨t, job, _, _, _, rfl⟩ := giveUp_cases hstep
      exact h
  | opBegin name row unit =>
      obtain ⟨id, ops, _, ⟨_, rfl⟩ | ⟨_, rfl⟩⟩ := opBegin_cases hstep
      · exact h
      · exact h
  | opFinish id ok detail =>
      obtain ⟨_, rfl⟩ := opFinish_cases hstep
      exact h
  | setRows table =>
      rw [setRows_cases hstep]
      exact h
  | check =>
      obtain ⟨_, htodo, ⟨_, rfl⟩ | ⟨_, rfl⟩⟩ := check_cases hstep
      · refine h.called (H := .obliging []) (reset_path _ _) ?_ ?_
        · exact fun _ => reset_forgotten h.placed
        · rintro (hpc | hpc) <;> cases hpc
      · exact h.goto (fun hpc => nomatch hpc) fun _ => htodo
  | readTable =>
      obtain ⟨hpc, htodo, rfl⟩ := readTable_cases hstep
      exact h.tabled hpc htodo _ _
  | call H c =>
      obtain ⟨_, _, hreads, l, hl, rfl⟩ := call_cases hstep
      refine h.called (apply_path _ h.placed c (reads_starts hreads) hl)
        (fun hpc => nomatch hpc) ?_
      rintro (hpc | hpc) <;> cases hpc
  | beginTakes =>
      obtain ⟨_, htodo, rfl | ⟨_, rfl⟩⟩ := beginTakes_cases hstep
      · exact h.goto (fun hpc => nomatch hpc) fun _ => htodo
      · exact h.goto (fun hpc => nomatch hpc) fun _ => htodo
  | lookStaged =>
      obtain ⟨row, hpc, hgoes⟩ := lookStaged_cases hstep
      have htodo : s.link.todo = [] := h.quiet (by rw [hpc]; exact .inl trivial)
      rcases hgoes with rfl | ⟨r, rfl⟩
      · exact h.goto (hmoves _ trivial) fun _ => htodo
      · exact h.goto (hmoves _ trivial) fun _ => htodo
  | take =>
      obtain ⟨row, hpc, hgoes⟩ := take_cases hstep
      have htodo : s.link.todo = [] := h.quiet (by rw [hpc]; exact .inl trivial)
      rcases hgoes with rfl | ⟨job, _, rfl⟩
      · exact h.goto (hmoves _ trivial) fun _ => htodo
      · exact h.goto (hmoves _ trivial) fun _ => htodo
  | start updating nowMs =>
      obtain ⟨row, job, hpc, hends⟩ := startJob_cases hstep
      have htodo : s.link.todo = [] := h.quiet (by rw [hpc]; exact .inl trivial)
      rcases hends with ⟨detail, rfl⟩ | ⟨l, hl, rfl⟩
      · exact h.goto (hmoves _ trivial) fun _ => htodo
      · exact h.started htodo hl (hmoves _ trivial)
  | endTakes =>
      obtain ⟨row, hpc, rfl⟩ := endTakes_cases hstep
      have htodo : s.link.todo = [] := h.quiet (by rw [hpc]; exact .inl trivial)
      exact h.goto (fun hpc => nomatch hpc) fun _ => htodo
  | tick H nowMs =>
      obtain ⟨_, l, hl, rfl⟩ := tick_cases hstep
      refine h.called (apply_path _ h.placed _ rfl hl) (fun hpc => nomatch hpc) ?_
      rintro (hpc | hpc) <;> cases hpc
  | tell H c =>
      obtain ⟨_, _, htells, l, hl, rfl⟩ := tell_cases hstep
      refine h.called (apply_path _ h.placed c (tells_starts htells) hl)
        (fun hpc => nomatch hpc) ?_
      rintro (hpc | hpc) <;> cases hpc
  | publish row =>
      obtain ⟨_, _, rfl⟩ := publish_cases hstep
      exact h
  | endPass =>
      obtain ⟨_, htodo, rfl⟩ := endPass_cases hstep
      exact h.goto (fun hpc => nomatch hpc) fun _ => htodo
  | effect =>
      obtain ⟨e, rest, htodo, rfl⟩ := effect_cases hstep
      exact h.popped htodo

theorem sound_start (rows : WallRowsTable) : (Wall.start rows).link.Sound := by
  refine ⟨placed_start, follows_start, ?_, fun h => (nomatch h), ?_⟩
  · exact ⟨fun _ _ h => (nomatch h), fun _ _ h => (nomatch h), [], rfl, Trace.says_nil⟩
  · rintro (hpc | hpc) <;> cases hpc

end Wall

end Tasks

end SplitFlap
