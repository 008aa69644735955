/-
  SplitFlap.Wall.Pair — the master and one row board, with what is on its way
  between them.

  A connection is a number and two queues: what the master has written that
  the row has not read, and the other way round.  It is read in order, by
  whichever end still holds it; what an end has not read when it lets go is
  lost.  The master keeps one socket a slot (`sockets` of `WallLink.cpp`), the
  row the one it dialled last.  Other boards dial too, and say what they like
  but not this row's id.

  Every message carries, beside what is on the wire, the number of the job it
  is about: the Op the job it was written for, an OpState the job of the Op the
  row answers.  Nothing reads it; it is what an answer is held against.
-/
import SplitFlap.Wall.RowBoard
import SplitFlap.Wall.Says
import SplitFlap.Wall.Tasks

namespace SplitFlap

open Machine

/-! ## §1. The state. -/

/-- The row board the master is paired with: its id, and its place in the rows
table. -/
structure PairedRow where
  table : WallRowsTable
  id : CStr
  row : RowIx
  known : Link.knownRow (wallRowsFind table id) = some row

/-- A message on its way, and the number of the job it is about. -/
structure Sent (α : Type) where
  message : α
  job : Nat := 0
  deriving DecidableEq

/-- One connection that was dialled.  `own`: by the row board. -/
structure Sock where
  own : Bool := false
  accepted : Bool := false
  down : List (Sent WlToRow) := []
  up : List (Sent WlToMaster) := []

section Pair

variable [Nanopb]

/-- A job that a web request has begun and not staged yet. -/
structure AskedJob where
  op : WlOp
  job : Nat

/-- The last part is written down and read by no step: how often the row's
render number moved, the texts the row applied and on which connection, how
many jobs were asked for, which of them each place of the table, the staged
slot, the core's slot and the row's slot hold, and the jobs that were marked
done, each with the job of the answer. -/
structure Pair where
  state : WallState := {}
  link : Link := {}
  begun : List AskedJob := []
  /-- Jobs that are no unit jobs of this row. -/
  others : List UInt32 := []
  clients : ConnIx → Option Nat := fun _ => none
  dials : Nat := 0
  socks : Nat → Sock := fun _ => {}
  row : RowBoard := {}
  renders : Nat := 0
  applied : List (Nat × WlShow) := []
  asked : Nat := 0
  begunAs : Fin WALL_OPS_KEPT → Nat := fun _ => 0
  stagedJob : Nat := 0
  slotJob : Nat := 0
  rowJob : Nat := 0
  done : List (Nat × Nat) := []

inductive PairTurn where
  -- the row board
  | dial (a : RowAnswers)
  | read (a : RowAnswers)
  | opTick (a : RowAnswers)
  /-- Vitals, unit facts, log lines, events and what became of an update. -/
  | tells (m : WlToMaster) (a : RowAnswers)
  | hangUp
  | phaseTick (nowMs : UInt32)
  | pair (masterId masterHost : CStr) (nowMs : UInt32)
  | rowRestart (bootId : UInt32) (membership : Option (CStr × CStr)) (nowMs : UInt32)
  -- other boards
  | otherDials
  | otherTells (k : Nat) (m : WlToMaster)
  -- the master
  | accept (k : Nat) (nowMs : UInt32)
  | hears (conn : ConnIx) (H : WallLinkHooks) (nowMs : UInt32)
  | lost (conn : ConnIx)
  /-- The bytes of a connection are no link message. -/
  | garbled (conn : ConnIx)
  | tick (H : WallLinkHooks) (nowMs : UInt32)
  /-- The link task tells the core something that is no job. -/
  | call (H : WallLinkHooks) (c : Link.Call)
  | askJob (name : String) (op : WlOp)
  | stageJob (n : Nat)
  | takeJob (updating : Bool) (nowMs : UInt32)
  | opBegin (name : String) (row : Int) (unit : UInt8)
  | opFinish (id : UInt32) (ok : Bool) (detail : String)
  | masterRestart

/-- The turn is no restart of the master. -/
def PairTurn.stays : PairTurn → Bool
  | .masterRestart => false
  | _ => true

/-- The turn is a tick of the core. -/
def PairTurn.ticks : PairTurn → Bool
  | .tick .. => true
  | _ => false

/-- The turn may begin a job. -/
def PairTurn.begins : PairTurn → Bool
  | .askJob .. | .opBegin .. => true
  | _ => false

/-- Does the message tell neither who the row is, nor what it shows, nor how
its job goes? -/
def WlToMaster.plain : WlToMaster → Bool
  | .hello _ | .shown .. | .opState _ => false
  | _ => true

namespace Pair

/-- Both boards before anything was said. -/
def start (P : PairedRow) : Pair := { state := { rows := P.table } }

def setSock (s : Pair) (k : Nat) (sock : Sock) : Pair :=
  { s with socks := Function.update s.socks k sock }

/-! ## §2. The row board's steps. -/

/-- What the row wrote on its connection, about this job. -/
def speaks (s : Pair) (k : Nat) (job : Nat) (messages : List WlToMaster) : Pair :=
  s.setSock k
    { s.socks k with up := (s.socks k).up ++ messages.map fun m => { message := m, job := job } }

def dial (P : PairedRow) (s : Pair) (a : RowAnswers) : Option Pair :=
  if s.row.sock = none ∧ s.row.paired = true then
    let (row, messages) := s.row.dial s.dials P.id a
    let s' := s.setSock s.dials { own := true }
    some ({ s' with dials := s.dials + 1, row := row }.speaks s.dials 0 messages)
  else none

/-- The row reads the next message of its connection. -/
def read (s : Pair) (a : RowAnswers) : Option Pair :=
  match s.row.sock with
  | none => none
  | some k =>
      match (s.socks k).down with
      | [] => none
      | m :: rest =>
          if s.row.obeys then
            let (row, messages) := s.row.handle a m.message
            let s' := s.setSock k { s.socks k with down := rest }
            some ({ s' with
              row := row
              applied := s.applied ++ (s.row.applies a m.message).toList.map fun w => (k, w)
              rowJob :=
                if s.row.linkOp.active = false ∧ row.linkOp.active = true then m.job
                else s.rowJob }.speaks k m.job messages)
          else none

def opTick (s : Pair) (a : RowAnswers) : Option Pair :=
  match s.row.sock with
  | none => none
  | some k =>
      if s.row.welcomed then
        let (row, messages) := s.row.opTick a
        some ({ s with row := row }.speaks k s.rowJob messages)
      else none

def tells (s : Pair) (m : WlToMaster) (a : RowAnswers) : Option Pair :=
  match s.row.sock with
  | none => none
  | some k =>
      if s.row.welcomed = true ∧ m.plain = true then
        let (row, messages) := s.row.sendWhenRoom a m
        some ({ s with row := row }.speaks k 0 messages)
      else none

def rowBoard (s : Pair) (row : RowBoard) : Option Pair := some { s with row := row }

/-! ## §3. Other boards. -/

def otherDials (s : Pair) : Option Pair :=
  let s' := s.setSock s.dials {}
  some { s' with dials := s.dials + 1 }

/-- A Hello of this row's is the row's own. -/
def claimsRow (P : PairedRow) : WlToMaster → Bool
  | .hello h => Link.knownRow (wallRowsFind P.table h.id) = some P.row
  | _ => false

def otherTells (P : PairedRow) (s : Pair) (k : Nat) (m : WlToMaster) : Option Pair :=
  if (s.socks k).own = false ∧ claimsRow P m = false then some (s.speaks k 0 [m]) else none

/-! ## §4. The master's steps. -/

/-- The job a message to the row is about. -/
def jobOf (s : Pair) : WlToRow → Nat
  | .op _ => s.slotJob
  | _ => 0

/-- `Hooks::write`, of a message the socket took. -/
def deliver (s : Pair) (conn : ConnIx) (m : WlToRow) : Pair :=
  match s.clients conn with
  | none => s
  | some k =>
      s.setSock k
        { s.socks k with down := (s.socks k).down ++ [{ message := m, job := s.jobOf m }] }

/-- The jobs an event marks as done, each with the job of the message that did. -/
def marks (s : Pair) (job : Nat) : LinkEvent → List (Nat × Nat)
  | .rowMessage _ _ (.opState state) =>
      match s.state.ops.placeOf state.opId with
      | none => []
      | some i =>
          ((takeOpState s.state state).1.filter fun op => op.phase = .done).map
            fun _ => (s.begunAs i, job)
  | _ => []

/-- What the link task's hooks do when the core says this, in a call about a
message of this job. -/
def hook (job : Nat) (s : Pair) : LinkEvent → Pair
  | .write conn _ m true => s.deliver conn m
  | .close conn => { s with clients := Function.update s.clients conn none }
  | e => { s with state := (hookEffect s.state e).2, done := s.done ++ s.marks job e }

/-- The core has been called, and is as `link`. -/
def called (P : PairedRow) (s : Pair) (job : Nat) (link : Link) : Pair :=
  let s' := (link.log.drop s.link.log.length).foldl (hook job) s
  { s' with
    link := link
    renders :=
      if (link.rows P.row).text.renderId = (s.link.rows P.row).text.renderId then s.renders
      else s.renders + 1 }

def accept (P : PairedRow) (s : Pair) (k : Nat) (nowMs : UInt32) : Option Pair :=
  if k < s.dials ∧ (s.socks k).accepted = false then
    let (slot, link) := s.link.accept nowMs
    let s := s.called P 0 link
    let s := s.setSock k { s.socks k with accepted := true }
    match slot with
    | none => some s
    | some conn => some { s with clients := Function.update s.clients conn (some k) }
  else none

/-- The core is given the next message of a connection. -/
def hears (P : PairedRow) (s : Pair) (conn : ConnIx) (H : WallLinkHooks) (nowMs : UInt32) :
    Option Pair :=
  match s.clients conn with
  | none => none
  | some k =>
      match (s.socks k).up with
      | [] => none
      | m :: rest =>
          if (s.link.conns conn).isOpen then
            some ((s.setSock k { s.socks k with up := rest }).called P m.job
              (s.link.message (H.withTable P.table) conn m.message nowMs))
          else none

/-- The socket of a connection is gone. -/
def lost (P : PairedRow) (s : Pair) (conn : ConnIx) : Option Pair :=
  let s' := s.called P 0 (s.link.closed conn)
  some { s' with clients := Function.update s'.clients conn none }

def garbled (P : PairedRow) (s : Pair) (conn : ConnIx) : Option Pair :=
  if (s.link.conns conn).isOpen then some (s.called P 0 (s.link.drop conn "not a link message"))
  else none

def tick (P : PairedRow) (s : Pair) (H : WallLinkHooks) (nowMs : UInt32) : Option Pair :=
  some (s.called P 0 (s.link.tick (H.withTable P.table) nowMs))

def call (P : PairedRow) (s : Pair) (H : WallLinkHooks) (c : Link.Call) : Option Pair :=
  if c.tellsCore = true ∧ c.starts = false then
    (s.link.apply (H.withTable P.table) c).map (s.called P 0)
  else none

/-! ### Jobs. -/

/-- A place of the table now holds the job that was just asked for. -/
def begunAt (s : Pair) (id : UInt32) (state : WallState) : Pair :=
  { s with
    state := state
    asked := s.asked + 1
    begunAs :=
      match state.ops.placeOf id with
      | none => s.begunAs
      | some i => Function.update s.begunAs i (s.asked + 1) }

/-- `startRowJob`, once the row was seen connected: the job has an id. -/
def askJob (P : PairedRow) (s : Pair) (name : String) (op : WlOp) : Option Pair :=
  match s.state.wallJobBegin name P.row.val op.address.toUInt8 with
  | (id, state) =>
      if id = 0 then some s
      else
        let s' := s.begunAt id state
        some { s' with
          begun := s.begun ++ [{ op := { op with opId := id }, job := s.asked + 1 }] }

/-- It is staged, or fails. -/
def stageJob (P : PairedRow) (s : Pair) (n : Nat) : Option Pair :=
  match s.begun[n]? with
  | none => none
  | some asked =>
      let s' := { s with begun := s.begun.eraseIdx n }
      match s.state.wallJobStage P.row asked.op s.state.generation with
      | (true, state) => some { s' with state := state, stagedJob := asked.job }
      | (false, _) =>
          some { s' with
            state := (s.state.wallOpFinish asked.op.opId false
              "the row could not be handed the job").2 }

/-- `takeJobs`, this row's job: it goes to the core, unless the row takes an
update or holds another. -/
def takeJob (P : PairedRow) (s : Pair) (updating : Bool) (nowMs : UInt32) : Option Pair :=
  match s.state.wallJobTake P.row with
  | (none, _) => none
  | (some job, state) =>
      if updating then
        some { s with
          state := (state.wallOpFinish job.op.opId false
            "the row is taking a firmware update").2 }
      else
        match s.link.startJob P.row job.op nowMs with
        | (true, link) =>
            let s' := ({ s with state := state } : Pair).called P 0 link
            some { s' with slotJob := s.stagedJob }
        | (false, _) =>
            some { s with
              state := (state.wallOpFinish job.op.opId false
                "another unit job holds the row").2 }

def opBegin (s : Pair) (name : String) (row : Int) (unit : UInt8) : Option Pair :=
  match s.state.wallOpBegin name row unit with
  | (id, state) =>
      if id = 0 then some s
      else
        let s' := s.begunAt id state
        some { s' with others := id :: s.others }

def opFinish (s : Pair) (id : UInt32) (ok : Bool) (detail : String) : Option Pair :=
  if id ∈ s.others then some { s with state := (s.state.wallOpFinish id ok detail).2 } else none

/-- The master starts again: nothing of what it held in memory is left, and its
connections are gone. -/
def masterRestart (P : PairedRow) (s : Pair) : Option Pair :=
  some { s with
    state := { rows := P.table }
    link := {}
    begun := []
    others := []
    clients := fun _ => none
    socks := fun k => { s.socks k with accepted := true } }

/-! ## §5. Runs. -/

def step (P : PairedRow) (s : Pair) : PairTurn → Option Pair
  | .dial a => s.dial P a
  | .read a => s.read a
  | .opTick a => s.opTick a
  | .tells m a => s.tells m a
  | .hangUp => s.rowBoard s.row.drop
  | .phaseTick nowMs => s.rowBoard { s.row with cluster := s.row.cluster.tick nowMs }
  | .pair masterId masterHost nowMs => s.rowBoard (s.row.pair masterId masterHost nowMs)
  | .rowRestart bootId membership nowMs => s.rowBoard (s.row.restart bootId membership nowMs)
  | .otherDials => s.otherDials
  | .otherTells k m => s.otherTells P k m
  | .accept k nowMs => s.accept P k nowMs
  | .hears conn H nowMs => s.hears P conn H nowMs
  | .lost conn => s.lost P conn
  | .garbled conn => s.garbled P conn
  | .tick H nowMs => s.tick P H nowMs
  | .call H c => s.call P H c
  | .askJob name op => s.askJob P name op
  | .stageJob n => s.stageJob P n
  | .takeJob updating nowMs => s.takeJob P updating nowMs
  | .opBegin name row unit => s.opBegin name row unit
  | .opFinish id ok detail => s.opFinish id ok detail
  | .masterRestart => s.masterRestart P

/-- The state after these turns, from the start of both boards. -/
def run (P : PairedRow) (turns : List PairTurn) : Option Pair :=
  Machine.run (step P) (start P) turns

/-! ## §6. What a step leaves alone. -/

theorem setSock_socks (s : Pair) (k : Nat) (sock : Sock) (i : Nat) :
    (s.setSock k sock).socks i = if i = k then sock else s.socks i := Function.update_apply ..

/-- What the hooks make of these events, in a call about a message of this job:
some slots are let go of, what was written to a slot is on its connection, and
jobs of the table end. -/
structure Hooked (job : Nat) (new : List LinkEvent) (s s' : Pair) : Prop where
  link : s'.link = s.link
  row : s'.row = s.row
  dials : s'.dials = s.dials
  renders : s'.renders = s.renders
  applied : s'.applied = s.applied
  clients : ∀ c k, s'.clients c = some k → s.clients c = some k
  own : ∀ k, (s'.socks k).own = (s.socks k).own
  accepted : ∀ k, (s'.socks k).accepted = (s.socks k).accepted
  up : ∀ k, (s'.socks k).up = (s.socks k).up
  down : ∀ k, ∃ more, (s'.socks k).down = (s.socks k).down ++ more ∧
    ∀ m ∈ more, m.job = s.jobOf m.message ∧
      ∃ c r, s.clients c = some k ∧ LinkEvent.write c r m.message true ∈ new
  ops : s.state.ops.SameJobs s'.state.ops
  staged : s'.state.staged = s.state.staged
  begun : s'.begun = s.begun
  begunAs : s'.begunAs = s.begunAs
  stagedJob : s'.stagedJob = s.stagedJob
  slotJob : s'.slotJob = s.slotJob
  rowJob : s'.rowJob = s.rowJob
  done : ∀ p ∈ s'.done, p ∈ s.done ∨ ∃ c r state i,
    LinkEvent.rowMessage c r (.opState state) ∈ new ∧ (s.state.ops.ops i).id = state.opId ∧
      p = (s.begunAs i, job)

theorem Hooked.nil (job : Nat) (s : Pair) : Hooked job [] s s where
  link := rfl
  row := rfl
  dials := rfl
  renders := rfl
  applied := rfl
  clients _ _ h := h
  own _ := rfl
  accepted _ := rfl
  up _ := rfl
  down _ := ⟨[], (List.append_nil _).symm, fun _ hm => (nomatch hm)⟩
  ops := .rfl' _
  staged := rfl
  begun := rfl
  begunAs := rfl
  stagedJob := rfl
  slotJob := rfl
  rowJob := rfl
  done _ hp := .inl hp

theorem Hooked.append {job : Nat} {new more : List LinkEvent} {a b c : Pair}
    (h : Hooked job new a b) (h' : Hooked job more b c) : Hooked job (new ++ more) a c where
  link := h'.link.trans h.link
  row := h'.row.trans h.row
  dials := h'.dials.trans h.dials
  renders := h'.renders.trans h.renders
  applied := h'.applied.trans h.applied
  clients i k hk := h.clients i k (h'.clients i k hk)
  own k := (h'.own k).trans (h.own k)
  accepted k := (h'.accepted k).trans (h.accepted k)
  up k := (h'.up k).trans (h.up k)
  down := by
    intro k
    obtain ⟨first, hfirst, hin⟩ := h.down k
    obtain ⟨last, hlast, hin'⟩ := h'.down k
    refine ⟨first ++ last, by rw [hlast, hfirst, List.append_assoc], ?_⟩
    intro m hm
    rcases List.mem_append.mp hm with hm | hm
    · obtain ⟨hjob, i, r, hi, he⟩ := hin m hm
      exact ⟨hjob, i, r, hi, List.mem_append_left _ he⟩
    · obtain ⟨hjob, i, r, hi, he⟩ := hin' m hm
      refine ⟨?_, i, r, h.clients i k hi, List.mem_append_right _ he⟩
      rw [hjob]
      unfold jobOf
      rw [h.slotJob]
  ops := h.ops.trans h'.ops
  staged := h'.staged.trans h.staged
  begun := h'.begun.trans h.begun
  begunAs := h'.begunAs.trans h.begunAs
  stagedJob := h'.stagedJob.trans h.stagedJob
  slotJob := h'.slotJob.trans h.slotJob
  rowJob := h'.rowJob.trans h.rowJob
  done := by
    intro p hp
    rcases h'.done p hp with hold | ⟨conn, r, state, i, he, hid, heq⟩
    · rcases h.done p hold with hold | ⟨conn, r, state, i, he, hid, heq⟩
      · exact .inl hold
      · exact .inr ⟨conn, r, state, i, List.mem_append_left _ he, hid, heq⟩
    · rw [h.ops.id] at hid
      rw [h.begunAs] at heq
      exact .inr ⟨conn, r, state, i, List.mem_append_right _ he, hid, heq⟩

theorem deliver_hooked (job : Nat) (s : Pair) (conn : ConnIx) (r : RowIx) (m : WlToRow) :
    Hooked job [.write conn r m true] s (s.deliver conn m) := by
  have hnil := Hooked.nil job s
  unfold deliver
  split
  · exact { hnil with
      down := fun _ => ⟨[], (List.append_nil _).symm, fun _ hm => (nomatch hm)⟩
      done := fun _ hp => .inl hp }
  · next k hk =>
      refine { hnil with
        own := fun i => ?_, accepted := fun i => ?_, up := fun i => ?_, down := fun i => ?_
        done := fun _ hp => .inl hp }
      · rw [setSock_socks]
        split
        · next hi => rw [hi]
        · rfl
      · rw [setSock_socks]
        split
        · next hi => rw [hi]
        · rfl
      · rw [setSock_socks]
        split
        · next hi => rw [hi]
        · rfl
      · rw [setSock_socks]
        split
        · next hi =>
            refine ⟨_, by rw [hi], ?_⟩
            intro m' hm'
            rw [List.mem_singleton.mp hm', hi]
            exact ⟨rfl, conn, r, hk, List.mem_singleton.mpr rfl⟩
        · exact ⟨[], (List.append_nil _).symm, fun _ hm => (nomatch hm)⟩

theorem marks_done {s : Pair} {job : Nat} {e : LinkEvent} {p : Nat × Nat}
    (hp : p ∈ s.marks job e) : ∃ c r state i, e = .rowMessage c r (.opState state) ∧
      (s.state.ops.ops i).id = state.opId ∧ p = (s.begunAs i, job) := by
  unfold marks at hp
  split at hp
  · next conn r state =>
      split at hp
      · cases hp
      · next i hplace =>
          obtain ⟨_, _, heq⟩ := List.mem_map.mp hp
          exact ⟨conn, r, state, i, rfl, WallOps.placeOf_id hplace, heq.symm⟩
  · cases hp

theorem hook_hooked (job : Nat) (s : Pair) (e : LinkEvent) : Hooked job [e] s (s.hook job e) := by
  have hnil := Hooked.nil job s
  unfold hook
  split
  · exact deliver_hooked ..
  · next conn =>
      refine { hnil with
        clients := ?_
        down := fun _ => ⟨[], (List.append_nil _).symm, fun _ hm => (nomatch hm)⟩
        done := fun _ hp => .inl hp }
      intro c k hk
      by_cases hc : c = conn
      · subst hc
        simp at hk
      · simpa [hc] using hk
  · refine { hnil with
      down := fun _ => ⟨[], (List.append_nil _).symm, fun _ hm => (nomatch hm)⟩
      ops := hookEffect_ops s.state e, staged := ?_, done := ?_ }
    · exact (hookEffect_same s.state e).2.2.2
    · intro p hp
      rcases List.mem_append.mp hp with hp | hp
      · exact .inl hp
      · obtain ⟨c, r, state, i, he, hid, heq⟩ := marks_done hp
        exact .inr ⟨c, r, state, i, by rw [he]; exact List.mem_singleton.mpr rfl, hid, heq⟩

theorem foldl_hooked (job : Nat) (new : List LinkEvent) (s : Pair) :
    Hooked job new s (new.foldl (hook job) s) := by
  induction new generalizing s with
  | nil => exact .nil job s
  | cons e new ih => exact (hook_hooked job s e).append (ih (s.hook job e))

/-- **A call of the core**: its events reach the sockets and the shared state. -/
theorem called_hooked (P : PairedRow) (s : Pair) (job : Nat) {link : Link} {new : List LinkEvent}
    (hlog : link.log = s.link.log ++ new) :
    ∃ s', Hooked job new s s' ∧ s.called P job link =
      { s' with
        link := link
        renders :=
          if (link.rows P.row).text.renderId = (s.link.rows P.row).text.renderId then s.renders
          else s.renders + 1 } := by
  refine ⟨new.foldl (hook job) s, foldl_hooked job new s, ?_⟩
  unfold called
  rw [hlog, List.drop_left]

end Pair

/-! ## §7. A wall of one row board. -/

omit [Nanopb] in
theorem lonelyRow_fits :
    ([{ id := [114, 48, 49] }] : List WallRowDef).length ≤ WALL_LINK_MAX_ROWS := by decide

def lonelyRow : PairedRow where
  table := { rows := [{ id := [114, 48, 49] }], fits := lonelyRow_fits }
  id := [114, 48, 49]
  row := 0
  known := by decide

/-- The paired row dials, is accepted, and reads its Welcome. -/
def joinTurns (k : Nat) : List PairTurn :=
  [.dial {}, .accept k 1, .hears 0 (.obliging []) 2, .read {}]

end Pair

end SplitFlap
