/-
  SplitFlap.Wall.RowBoard — a row board at its end of the wall link.

  `ClusterMemberPhase.h`: the phase a row is in and which texts it takes.
  `FollowerLink.cpp`: the connection it dials, what it makes of a message and
  how it reports the end of the master's unit job.  What the rest of the board
  answers (its clock, its units, the job in its slot, how much the socket
  takes) comes as `RowAnswers`.
-/
import SplitFlap.Wall.UnitJobs

namespace SplitFlap

open Bus

/-! ## §1. The phase machine. -/

abbrev CLUSTER_CONTACT_FRESH_MS : UInt32 := 25000

abbrev CLUSTER_GRACE_MS : UInt32 := 120000

inductive ClusterFollowerPhase where
  | standalone
  | clustered
  | grace
  | leaderLost
  deriving Repr, DecidableEq

inductive ClusterRenderVerdict where
  | apply
  | duplicate
  | notClustered
  deriving Repr, DecidableEq

structure ClusterFollowerState where
  phase : ClusterFollowerPhase := .standalone
  epoch : UInt32 := 0
  haveEpoch : Bool := false
  lastSeq : UInt32 := 0
  lastContactMs : UInt32 := 0
  deriving Repr, DecidableEq

namespace ClusterFollowerState

/-- `clusterFollowerBoot`. -/
def boot (nowMs : UInt32) (membershipStored : Bool) : ClusterFollowerState :=
  if membershipStored then { phase := .grace, lastContactMs := nowMs } else {}

/-- `clusterFollowerJoin`: only a new epoch forgets the last render. -/
def join (st : ClusterFollowerState) (nowMs epoch : UInt32) : ClusterFollowerState :=
  if st.haveEpoch = false ∨ epoch ≠ st.epoch then
    { phase := .clustered, epoch := epoch, haveEpoch := true, lastSeq := 0, lastContactMs := nowMs }
  else { st with phase := .clustered, lastContactMs := nowMs }

/-- `clusterFollowerContact`. -/
def contact (st : ClusterFollowerState) (nowMs : UInt32) : ClusterFollowerState :=
  if st.phase = .standalone then st else { st with phase := .clustered, lastContactMs := nowMs }

/-- `clusterFollowerAcceptRender`. -/
def acceptRender (st : ClusterFollowerState) (nowMs epoch seq : UInt32) :
    ClusterRenderVerdict × ClusterFollowerState :=
  if st.phase = .standalone then (.notClustered, st)
  else
    let st := st.contact nowMs
    if st.haveEpoch && epoch = st.epoch && seq ≤ st.lastSeq then (.duplicate, st)
    else (.apply, { st with epoch := epoch, haveEpoch := true, lastSeq := seq })

/-- `clusterFollowerTick`: silence decays the phase. -/
def tick (st : ClusterFollowerState) (nowMs : UInt32) : ClusterFollowerState :=
  let silence := nowMs - st.lastContactMs
  let st :=
    if st.phase = .clustered ∧ CLUSTER_CONTACT_FRESH_MS ≤ silence then { st with phase := .grace }
    else st
  if st.phase = .grace ∧ CLUSTER_GRACE_MS ≤ silence then { st with phase := .leaderLost } else st

end ClusterFollowerState

/-! ## §2. The master's unit job on the row. -/

/-- `MaintResult`: the staged slot's last result.  Outcome 0 is none yet, 1 is
a success. -/
structure MaintResult where
  seq : UInt32 := 0
  outcome : UInt8 := 0
  reason : UInt8 := 0
  deriving Repr, DecidableEq

inductive OpResultState where
  | pending
  | found
  | expired
  deriving Repr, DecidableEq

def opResultQuery (slot : MaintResult) (seq : UInt32) : OpResultState :=
  if slot.seq < seq then .pending
  else if slot.seq = seq ∧ slot.outcome ≠ 0 then .found
  else if slot.seq = seq then .pending
  else .expired

def followerLinkPhaseFor (outcome : UInt8) : WlOpPhase :=
  if outcome = 0 then .running else if outcome = 1 then .ok else .failed

/-- How the staged slot takes a job. -/
inductive UnitOpStaged where
  | rescue
  | busy
  | noMemory
  | yes (seq : UInt32)
  deriving Repr, DecidableEq

/-- The one unit job the master has running here. -/
structure LinkOp where
  active : Bool := false
  opId : UInt32 := 0
  seq : UInt32 := 0
  kind : FollowerOpKind := .none
  deriving Repr, DecidableEq

abbrev BOOT_SECTION_LEN : Nat := 1024

/-- `sizeof(OpState.data)`. -/
abbrev OP_STATE_DATA_MAX : Nat := 480

def followerLinkPieceLen (total offset pieceMax : Nat) : Nat :=
  if offset ≥ total then 0 else min (total - offset) pieceMax

/-- The pieces of a boot section dump, the last of them the job's end. -/
def dumpPieces (opId reason : UInt32) (dump : Bytes) : (fuel offset : Nat) → List WlToMaster
  | 0, _ => []
  | fuel + 1, offset =>
      if offset < BOOT_SECTION_LEN then
        let n := followerLinkPieceLen BOOT_SECTION_LEN offset OP_STATE_DATA_MAX
        .opState {
            opId := opId
            phase := if offset + n ≥ BOOT_SECTION_LEN then .ok else .running
            reason := reason
            dataOffset := offset.toUInt32
            data := (dump.drop offset).take n } ::
          dumpPieces opId reason dump fuel (offset + n)
      else []

/-! ## §3. The board. -/

/-- What the rest of the board answers during a step of the link.  `taken` is
how many of the step's messages the socket takes before a write fails. -/
structure RowAnswers where
  nowMs : UInt32 := 0
  taken : Nat := 8
  /-- Is there room in the send buffer for what can wait? -/
  room : Bool := true
  rescue : Bool := false
  busy : Bool := false
  units : Vector UnitFacts UNITS_AMOUNT := Vector.replicate UNITS_AMOUNT {}
  staged : UnitOpStaged := .busy
  result : MaintResult := {}
  dump : Option Bytes := none
  /-- The text of a self-test's or a boot report's result. -/
  text : Bytes := []

/-- `sock` is the connection the board has dialled, by its number among all
that were ever dialled. -/
structure RowBoard where
  cluster : ClusterFollowerState := {}
  leaderName : CStr := []
  leaderHost : CStr := []
  rev : CStr := []
  width : UInt32 := 0
  bootId : UInt32 := 0
  connectCount : UInt32 := 0
  sock : Option Nat := none
  dialledId : CStr := []
  dialledHost : CStr := []
  welcomed : Bool := false
  linkOp : LinkOp := {}
  deriving Repr, DecidableEq

def followerLinkMasterAccepted (pairedName welcomeName : CStr) : Bool :=
  pairedName ≠ [] && pairedName = welcomeName

namespace RowBoard

/-- `paired`, of `linkLoopTick`. -/
def paired (b : RowBoard) : Bool := b.cluster.phase ≠ .standalone && b.leaderHost ≠ []

/-- The open connection was dialled to the master the row now obeys. -/
def obeys (b : RowBoard) : Bool :=
  b.paired && b.dialledId = b.leaderName && b.dialledHost = b.leaderHost

/-- The epoch of this connection's texts. -/
def epoch (b : RowBoard) : UInt32 := b.bootId + b.connectCount

/-- `drop`: the connection is let go of; the master's job runs on. -/
def drop (b : RowBoard) : RowBoard := { b with sock := none, welcomed := false }

/-- `send`, for the messages of one step: the first that cannot be written
closes the connection. -/
def sends (b : RowBoard) (a : RowAnswers) (messages : List WlToMaster) :
    RowBoard × List WlToMaster :=
  if messages.length ≤ a.taken then (b, messages) else (b.drop, messages.take a.taken)

/-- `sendWhenRoom`. -/
def sendWhenRoom (b : RowBoard) (a : RowAnswers) (m : WlToMaster) : RowBoard × List WlToMaster :=
  if a.room then b.sends a [m] else (b, [])

/-- `sendHello`. -/
def hello (b : RowBoard) (id : CStr) (a : RowAnswers) : WlHello where
  protocol := WALL_LINK_PROTOCOL
  id := id
  rev := b.rev
  bootId := b.bootId
  rescue := a.rescue
  width := b.width

/-- `linkLoopTick`, once `connect` succeeded: connection `n`. -/
def dial (b : RowBoard) (n : Nat) (id : CStr) (a : RowAnswers) : RowBoard × List WlToMaster :=
  { b with
    sock := some n, dialledId := b.leaderName, dialledHost := b.leaderHost }.sends a
      [.hello (b.hello id a)]

/-- `clusterMasterConnected`. -/
def masterConnected (b : RowBoard) (nowMs : UInt32) : RowBoard :=
  if b.cluster.phase = .standalone then b
  else { b with cluster := b.cluster.join nowMs b.epoch }

/-- `clusterHandleLeave`. -/
def leave (b : RowBoard) : RowBoard :=
  if b.cluster.phase = .standalone then b
  else { b with cluster := {}, leaderName := [], leaderHost := [] }

/-- `clusterPair`. -/
def pair (b : RowBoard) (masterId masterHost : CStr) (nowMs : UInt32) : RowBoard :=
  { b with cluster := b.cluster.join nowMs 0, leaderName := masterId, leaderHost := masterHost }

/-- The board starts again with the pairing it has stored, if any. -/
def restart (b : RowBoard) (bootId : UInt32) (membership : Option (CStr × CStr)) (nowMs : UInt32) :
    RowBoard :=
  { cluster := .boot nowMs membership.isSome
    leaderName := (membership.map Prod.fst).getD []
    leaderHost := (membership.map Prod.snd).getD []
    rev := b.rev, width := b.width, bootId := bootId }

/-! ### Messages of the master. -/

/-- `fillOpState`. -/
def opState (opId : UInt32) (phase : WlOpPhase) (reason outcome : UInt32) : WlToMaster :=
  .opState { opId := opId, phase := phase, reason := reason, outcome := outcome }

def refuseOp (b : RowBoard) (a : RowAnswers) (opId : UInt32) (why : WlOpRefusal) :
    RowBoard × List WlToMaster :=
  b.sends a [opState opId .refused why.toNumber 0]

def handleOp (b : RowBoard) (a : RowAnswers) (o : WlOp) : RowBoard × List WlToMaster :=
  if a.rescue then b.refuseOp a o.opId .rescue
  else if b.linkOp.active then b.refuseOp a o.opId .busy
  else
    let plan := followerLinkPlanOp o.opcode o.address o.arg.toInt a.units
    if plan.refusal ≠ .none then b.refuseOp a o.opId plan.refusal
    else
      match a.staged with
      | .rescue => b.refuseOp a o.opId .rescue
      | .busy => b.refuseOp a o.opId .busy
      | .noMemory => b.refuseOp a o.opId .noMemory
      | .yes seq =>
          { b with
            linkOp := { active := true, opId := o.opId, seq := seq, kind := plan.kind } }.sends a
              [opState o.opId .running 0 0]

/-- `handle`, the first message of a connection. -/
def handleFirst (b : RowBoard) (a : RowAnswers) : WlToRow → RowBoard × List WlToMaster
  | .welcome w =>
      if followerLinkMasterAccepted b.leaderName w.masterId then
        let b := { b with welcomed := true, connectCount := b.connectCount + 1 }
        (b.masterConnected a.nowMs).sendWhenRoom a (.status a.busy)
      else (b.drop, [])
  | _ => (b.drop, [])

/-- `handle`, a text. -/
def handleShow (b : RowBoard) (a : RowAnswers) (w : WlShow) : RowBoard × List WlToMaster :=
  let judged := b.cluster.acceptRender a.nowMs b.epoch w.renderId
  let b := { b with cluster := judged.2 }
  if judged.1 = .apply then b.sends a [.shown w.renderId 0] else (b, [])

/-- `handle`, of a welcomed connection. -/
def handleNext (b : RowBoard) (a : RowAnswers) (m : WlToRow) : RowBoard × List WlToMaster :=
  let b := { b with cluster := b.cluster.contact a.nowMs }
  match m with
  | .show w => b.handleShow a w
  | .op o => b.handleOp a o
  | .ping => b.sends a [.pong]
  | .release => (b.leave.drop, [])
  | _ => (b, [])

def handle (b : RowBoard) (a : RowAnswers) (m : WlToRow) : RowBoard × List WlToMaster :=
  if b.welcomed then b.handleNext a m else b.handleFirst a m

/-- Does the row take this message's text to show (`ClusterRenderVerdict::Apply`)? -/
def applies (b : RowBoard) (a : RowAnswers) : WlToRow → Option WlShow
  | .show w =>
      if b.welcomed = true ∧
          ((b.cluster.contact a.nowMs).acceptRender a.nowMs b.epoch w.renderId).1 = .apply then
        some w
      else none
  | _ => none

/-! ### The end of the master's job. -/

/-- `opTick`, what the row reports of the job; `none` while it runs. -/
def opReport (b : RowBoard) (a : RowAnswers) : Option (List WlToMaster) :=
  let o := b.linkOp
  match opResultQuery a.result o.seq with
  | .pending => none
  | .expired => some [opState o.opId .failed 0 0]
  | .found =>
      let phase := followerLinkPhaseFor a.result.outcome
      let reason := a.result.reason.toUInt32
      let outcome := if phase = .ok then 0 else a.result.outcome.toUInt32
      if o.kind = .bootDump ∧ phase = .ok then
        match a.dump with
        | none => some [opState o.opId .failed 0 0]
        | some dump => some (dumpPieces o.opId reason dump BOOT_SECTION_LEN 0)
      else
        some [.opState {
          opId := o.opId, phase := phase, reason := reason, outcome := outcome
          data := if o.kind = .selfTest ∨ o.kind = .bootInfo then a.text else [] }]

/-- `opTick`: a failed send leaves the job open, so the end goes out again on
the next connection. -/
def opTick (b : RowBoard) (a : RowAnswers) : RowBoard × List WlToMaster :=
  if b.linkOp.active then
    match b.opReport a with
    | none => (b, [])
    | some messages =>
        if messages.length ≤ a.taken then
          ({ b with linkOp := { b.linkOp with active := false } }, messages)
        else b.sends a messages
  else (b, [])

/-! ## §4. What a step keeps, and what it writes. -/

variable {b : RowBoard} {a : RowAnswers}

/-- Every message is written, or the connection is let go of. -/
theorem sends_cases (b : RowBoard) (a : RowAnswers) (messages : List WlToMaster) :
    ((b.sends a messages).1 = b ∨ (b.sends a messages).1 = b.drop) ∧
      ∀ m ∈ (b.sends a messages).2, m ∈ messages := by
  unfold sends
  split
  · exact ⟨.inl rfl, fun m hm => hm⟩
  · exact ⟨.inr rfl, fun m hm => List.mem_of_mem_take hm⟩

/-- The board keeps its connection or lets go of it. -/
def Keeps (b b' : RowBoard) : Prop := b'.sock = none ∨ b'.sock = b.sock

theorem sends_keeps (messages : List WlToMaster) : b.Keeps (b.sends a messages).1 := by
  rcases (sends_cases b a messages).1 with h | h
  · exact .inr (by rw [h])
  · exact .inl (by rw [h]; rfl)

theorem sends_linkOp (messages : List WlToMaster) :
    (b.sends a messages).1.linkOp = b.linkOp := by
  rcases (sends_cases b a messages).1 with h | h
  · rw [h]
  · rw [h]
    rfl

theorem sendWhenRoom_cases (b : RowBoard) (a : RowAnswers) (m : WlToMaster) :
    b.Keeps (b.sendWhenRoom a m).1 ∧ (b.sendWhenRoom a m).1.linkOp = b.linkOp ∧
      ∀ m' ∈ (b.sendWhenRoom a m).2, m' = m := by
  unfold sendWhenRoom
  split
  · refine ⟨sends_keeps [m], sends_linkOp [m], ?_⟩
    intro m' hm'
    exact List.mem_singleton.mp ((sends_cases b a [m]).2 m' hm')
  · exact ⟨.inr rfl, rfl, fun m' hm' => (nomatch hm')⟩

/-- What a row makes of a message: it may let go of the connection, and writes
an answer to an Op, a Shown for a text it applies, or what says neither. -/
structure Handled (b : RowBoard) (a : RowAnswers) (m : WlToRow) (b' : RowBoard)
    (written : List WlToMaster) : Prop where
  keeps : b.Keeps b'
  linkOp : b'.linkOp = b.linkOp ∨
    ∃ o, m = .op o ∧ b.linkOp.active = false ∧ b'.linkOp.active = true ∧ b'.linkOp.opId = o.opId
  writes : ∀ m' ∈ written,
    (∃ o state, m = .op o ∧ m' = .opState state ∧ state.opId = o.opId ∧ state.phase ≠ .ok) ∨
      (∃ w, b.applies a m = some w ∧ m' = .shown w.renderId 0) ∨ m' = .pong ∨
      ∃ busy, m' = .status busy

theorem Handled.silent {m : WlToRow} {b' : RowBoard} (hkeeps : b.Keeps b')
    (hop : b'.linkOp = b.linkOp) : Handled b a m b' [] :=
  ⟨hkeeps, .inl hop, fun _ hm => (nomatch hm)⟩

theorem refuseOp_handled {o : WlOp} {b' : RowBoard} (hsock : b'.sock = b.sock)
    (hop : b'.linkOp = b.linkOp) (why : WlOpRefusal) :
    Handled b a (.op o) (b'.refuseOp a o.opId why).1 (b'.refuseOp a o.opId why).2 := by
  refine ⟨?_, .inl ((sends_linkOp _).trans hop), ?_⟩
  · have hkeeps := sends_keeps (b := b') (a := a) [opState o.opId .refused why.toNumber 0]
    unfold Keeps at hkeeps ⊢
    rwa [hsock] at hkeeps
  · intro m' hm'
    have hone := List.mem_singleton.mp ((sends_cases b' a _).2 m' hm')
    exact .inl ⟨o, _, rfl, hone, rfl, WlOpPhase.noConfusion⟩

theorem handleOp_handled {o : WlOp} {b' : RowBoard} (hsock : b'.sock = b.sock)
    (hop : b'.linkOp = b.linkOp) :
    Handled b a (.op o) (b'.handleOp a o).1 (b'.handleOp a o).2 := by
  unfold handleOp
  dsimp only
  split
  · exact refuseOp_handled hsock hop _
  · split
    · exact refuseOp_handled hsock hop _
    · next hidle =>
        split
        · exact refuseOp_handled hsock hop _
        · split
          · exact refuseOp_handled hsock hop _
          · exact refuseOp_handled hsock hop _
          · exact refuseOp_handled hsock hop _
          · refine ⟨?_, .inr ⟨o, rfl, ?_, ?_, ?_⟩, ?_⟩
            · rw [Keeps, ← hsock]
              exact sends_keeps _
            · rw [← hop]
              exact Bool.eq_false_of_not_eq_true hidle
            · rw [sends_linkOp]
            · rw [sends_linkOp]
            · intro m' hm'
              have hone := List.mem_singleton.mp ((sends_cases _ a _).2 m' hm')
              exact .inl ⟨o, _, rfl, hone, rfl, WlOpPhase.noConfusion⟩

theorem handleFirst_handled (m : WlToRow) :
    Handled b a m (b.handleFirst a m).1 (b.handleFirst a m).2 := by
  unfold handleFirst
  split
  · split
    · dsimp only
      obtain ⟨hkeeps, hop, hwrites⟩ := sendWhenRoom_cases
        (masterConnected { b with welcomed := true, connectCount := b.connectCount + 1 } a.nowMs) a
        (.status a.busy)
      have hsame : ∀ b : RowBoard, (b.masterConnected a.nowMs).sock = b.sock ∧
          (b.masterConnected a.nowMs).linkOp = b.linkOp := by
        intro b
        unfold masterConnected
        split <;> exact ⟨rfl, rfl⟩
      refine ⟨?_, .inl (hop.trans (hsame _).2), ?_⟩
      · unfold Keeps at hkeeps ⊢
        rwa [(hsame _).1] at hkeeps
      · exact fun m' hm' => .inr (.inr (.inr ⟨_, hwrites m' hm'⟩))
    · exact .silent (.inl rfl) rfl
  · exact .silent (.inl rfl) rfl

theorem handleNext_handled (hwelcomed : b.welcomed = true) (m : WlToRow) :
    Handled b a m (b.handleNext a m).1 (b.handleNext a m).2 := by
  unfold handleNext
  dsimp only
  split
  · next w =>
      unfold handleShow
      dsimp only
      split
      · next happly =>
          have happlies : b.applies a (.show w) = some w := if_pos ⟨hwelcomed, happly⟩
          refine ⟨?_, .inl (sends_linkOp _), ?_⟩
          · exact sends_keeps (b := { b with
              cluster := ((b.cluster.contact a.nowMs).acceptRender a.nowMs b.epoch w.renderId).2 }) _
          · intro m' hm'
            have hone := List.mem_singleton.mp ((sends_cases _ a _).2 m' hm')
            exact .inr (.inl ⟨w, happlies, hone⟩)
      · exact .silent (.inr rfl) rfl
  · exact handleOp_handled rfl rfl
  · refine ⟨?_, .inl (sends_linkOp _), ?_⟩
    · exact sends_keeps (b := { b with cluster := b.cluster.contact a.nowMs }) _
    · intro m' hm'
      exact .inr (.inr (.inl (List.mem_singleton.mp ((sends_cases _ a _).2 m' hm'))))
  · refine .silent (.inl rfl) ?_
    show (leave _).linkOp = _
    unfold leave
    split <;> rfl
  · exact .silent (.inr rfl) rfl

/-- **Everything a message of the master makes a row do.** -/
theorem handle_handled (m : WlToRow) : Handled b a m (b.handle a m).1 (b.handle a m).2 := by
  unfold handle
  split
  · next hwelcomed => exact handleNext_handled hwelcomed m
  · exact handleFirst_handled m

theorem dumpPieces_opId {opId reason : UInt32} {dump : Bytes} {m : WlToMaster} :
    ∀ (fuel offset : Nat), m ∈ dumpPieces opId reason dump fuel offset →
      ∃ state, m = .opState state ∧ state.opId = opId := by
  intro fuel
  induction fuel with
  | zero => exact fun _ hm => (nomatch hm)
  | succ fuel ih =>
      intro offset hm
      unfold dumpPieces at hm
      split at hm
      · rcases List.mem_cons.mp hm with hm | hm
        · exact ⟨_, hm, rfl⟩
        · exact ih _ hm
      · cases hm

/-- Everything reported of a job carries its id. -/
theorem opReport_opId {messages : List WlToMaster} (h : b.opReport a = some messages) :
    ∀ m ∈ messages, ∃ state, m = .opState state ∧ state.opId = b.linkOp.opId := by
  intro m hm
  unfold opReport at h
  dsimp only at h
  split at h
  · cases h
  · injection h with h
    rw [← h] at hm
    exact ⟨_, List.mem_singleton.mp hm, rfl⟩
  · split at h
    · split at h
      · injection h with h
        rw [← h] at hm
        exact ⟨_, List.mem_singleton.mp hm, rfl⟩
      · injection h with h
        rw [← h] at hm
        exact dumpPieces_opId _ _ hm
    · injection h with h
      rw [← h] at hm
      exact ⟨_, List.mem_singleton.mp hm, rfl⟩

/-- A pass over the job: it stays or is over, and what is written carries its
id. -/
theorem opTick_handled (b : RowBoard) (a : RowAnswers) :
    b.Keeps (b.opTick a).1 ∧
      ((b.opTick a).1.linkOp = b.linkOp ∨ (b.opTick a).1.linkOp.active = false) ∧
      ∀ m ∈ (b.opTick a).2,
        b.linkOp.active = true ∧ ∃ state, m = .opState state ∧ state.opId = b.linkOp.opId := by
  unfold opTick
  split
  · next hactive =>
      split
      · exact ⟨.inr rfl, .inl rfl, fun _ hm => (nomatch hm)⟩
      · next messages hreport =>
          split
          · exact ⟨.inr rfl, .inr rfl, fun m hm => ⟨hactive, opReport_opId hreport m hm⟩⟩
          · refine ⟨sends_keeps _, .inl (sends_linkOp _), ?_⟩
            exact fun m hm => ⟨hactive, opReport_opId hreport m ((sends_cases _ a _).2 m hm)⟩
  · exact ⟨.inr rfl, .inl rfl, fun _ hm => (nomatch hm)⟩

end RowBoard

end SplitFlap
