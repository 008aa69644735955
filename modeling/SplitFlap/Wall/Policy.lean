/-
  SplitFlap.Wall.Policy — the master's rules for one row board's connection.

  `WallLinkPolicy.h`: what the master knows about reaching a row, the latest
  text of a row, and the one unit job it holds open there.  Times are
  `millis()`, a 32-bit count that wraps.
-/
import SplitFlap.Link.Stream

namespace SplitFlap

/-- The master pings a connection it has not written to for this long. -/
abbrev WALL_LINK_PING_IDLE_MS : UInt32 := 10000

/-- A row not heard from for this long is lost. -/
abbrev WALL_LINK_LOST_MS : UInt32 := 30000

/-- A connection that has not said Hello within this is not a row board. -/
abbrev WALL_LINK_HELLO_TIMEOUT_MS : UInt32 := 5000

/-- The longest text one row takes. -/
abbrev WALL_ROW_TEXT_MAX : Nat := 16

/-- `millis()`-wrap-safe "has `intervalMs` passed since `sinceMs`". -/
def wallLinkElapsed (nowMs sinceMs intervalMs : UInt32) : Bool :=
  intervalMs ≤ nowMs - sinceMs

/-! ## §1. Contact. -/

/-- What the master knows about reaching one row; outlives a connection. -/
structure WallRowContact where
  connected : Bool := false
  helloSeen : Bool := false
  busy : Bool := false
  everHeard : Bool := false
  haveBootId : Bool := false
  connectedAtMs : UInt32 := 0
  lastHeardMs : UInt32 := 0
  lastSentMs : UInt32 := 0
  bootId : UInt32 := 0
  deriving Repr, DecidableEq

namespace WallRowContact

/-- `wallRowConnected`. -/
def onConnected (c : WallRowContact) (nowMs : UInt32) : WallRowContact :=
  { c with
    connected := true, helloSeen := false, busy := false,
    connectedAtMs := nowMs, lastSentMs := nowMs }

/-- `wallRowDropped`. -/
def onDropped (c : WallRowContact) : WallRowContact :=
  { c with connected := false, helloSeen := false, busy := false }

/-- `wallRowHeard`: any message from the row counts as contact. -/
def onHeard (c : WallRowContact) (nowMs : UInt32) : WallRowContact :=
  { c with everHeard := true, lastHeardMs := nowMs }

/-- `wallRowSent`. -/
def onSent (c : WallRowContact) (nowMs : UInt32) : WallRowContact :=
  { c with lastSentMs := nowMs }

/-- `wallLinkPingDue`. -/
def pingDue (c : WallRowContact) (nowMs : UInt32) : Bool :=
  c.connected && c.helloSeen && !c.busy &&
    wallLinkElapsed nowMs c.lastSentMs WALL_LINK_PING_IDLE_MS

/-- `wallRowNoteBoot`: records the boot id of a Hello; true when the row has
restarted since the last one. -/
def noteBoot (c : WallRowContact) (bootId : UInt32) : WallRowContact × Bool :=
  ({ c with haveBootId := true, bootId := bootId }, c.haveBootId && c.bootId != bootId)

end WallRowContact

inductive WallHello where
  | accept
  | wrongProtocol
  | noId
  | notPaired
  deriving Repr, DecidableEq

/-- `known`: the id is in this master's rows table. -/
def wallLinkJudgeHello (protocol : UInt32) (id : CStr) (known : Bool) : WallHello :=
  if protocol ≠ WALL_LINK_PROTOCOL then .wrongProtocol
  else if id = [] then .noId
  else if known then .accept
  else .notPaired

/-! ## §2. Text: the latest only. -/

/-- The latest text of a row.  Render id 0: nothing was ever shown there. -/
structure WallRowText where
  text : CStr := []
  commitAtMs : UInt64 := 0
  renderId : UInt32 := 0
  shownId : UInt32 := 0
  speed : UInt16 := 0
  pending : Bool := false
  deriving Repr, DecidableEq

namespace WallRowText

/-- `wallRowTextSet`: replaces whatever was waiting, unless the row already
has, or is about to get, exactly this text at this speed. -/
def set (t : WallRowText) (text : CStr) (speed : UInt16) (commitAtMs : UInt64) : WallRowText :=
  let cut := text.take WALL_ROW_TEXT_MAX
  if t.renderId ≠ 0 ∧ t.speed = speed ∧ t.text = cut then t
  else
    { t with
      text := cut, speed := speed, commitAtMs := commitAtMs,
      renderId := t.renderId + 1, pending := true }

/-- `wallRowTextResend`: for a new connection the current text goes out again. -/
def resend (t : WallRowText) : WallRowText :=
  if t.renderId = 0 then t
  else { t with commitAtMs := 0, renderId := t.renderId + 1, pending := true }

/-- `wallRowTextDue`. -/
def due (t : WallRowText) (c : WallRowContact) : Bool :=
  t.pending && c.connected && c.helloSeen && !c.busy

/-- `wallRowTextSent`. -/
def sent (t : WallRowText) : WallRowText := { t with pending := false }

/-- `wallRowTextShown`. -/
def shown (t : WallRowText) (renderId : UInt32) : WallRowText := { t with shownId := renderId }

/-- `wallRowTextApplied`. -/
def applied (t : WallRowText) : Bool :=
  !t.pending && t.renderId != 0 && t.shownId == t.renderId

end WallRowText

/-! ## §3. A unit job: one at a time per row. -/

/-- A job the row was not handed within this is given up. -/
abbrev WALL_JOB_HAND_OVER_MS : UInt32 := 20000

abbrev WALL_JOB_UNIT_MS : UInt32 := 120000

abbrev WALL_JOB_ALL_UNITS_MS : UInt32 := 960000

inductive WallJobStage where
  | none
  | waiting
  | sent
  deriving Repr, DecidableEq

inductive WallJobEnd where
  | notHandedOver
  | noResult
  deriving Repr, DecidableEq

/-- The job the master holds open on a row. -/
structure WallRowJob where
  stage : WallJobStage := .none
  sinceMs : UInt32 := 0
  op : WlOp := {}
  deriving Repr, DecidableEq

/-- How long a written job may take. -/
def wallJobRunMs (op : WlOp) : UInt32 :=
  if (op.opcode = .updateUnits ∧ op.address = 0) ∨ op.opcode = .homeAll then WALL_JOB_ALL_UNITS_MS
  else WALL_JOB_UNIT_MS

namespace WallRowJob

/-- `wallJobStart`: false when the row already has a job. -/
def start (j : WallRowJob) (op : WlOp) (nowMs : UInt32) : WallRowJob × Bool :=
  if j.stage ≠ .none then (j, false)
  else ({ j with stage := .waiting, sinceMs := nowMs, op := op }, true)

/-- `wallJobDue`. -/
def due (j : WallRowJob) (c : WallRowContact) : Bool :=
  j.stage = .waiting && c.connected && c.helloSeen && !c.busy

/-- `wallJobSent`. -/
def sent (j : WallRowJob) (nowMs : UInt32) : WallRowJob :=
  { j with stage := .sent, sinceMs := nowMs }

/-- `wallJobOverdue`: only time ends a written job without an answer. -/
def overdue (j : WallRowJob) (nowMs : UInt32) : Option WallJobEnd :=
  if j.stage = .waiting && wallLinkElapsed nowMs j.sinceMs WALL_JOB_HAND_OVER_MS then
    some .notHandedOver
  else if j.stage = .sent && wallLinkElapsed nowMs j.sinceMs (wallJobRunMs j.op) then
    some .noResult
  else none

/-- `wallJobAnswer`: is this OpState about the row's open job?  An ending one
closes it.  Anything else is the echo of a job already given up. -/
def answer (j : WallRowJob) (state : WlOpState) : WallRowJob × Bool :=
  if j.stage ≠ .sent ∨ state.opId ≠ j.op.opId then (j, false)
  else if state.phase ≠ .running then ({}, true)
  else (j, true)

end WallRowJob

end SplitFlap
