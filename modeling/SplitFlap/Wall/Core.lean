/-
  SplitFlap.Wall.Core — what the master does with its row boards' connections.

  `WallLinkCore.h`: who is behind a connection, what each row is sent and
  when.  The sockets are the link task's and answer through `WallLinkHooks`;
  an answer may depend on everything said before it, so the hooks are
  functions of the log so far and any sequence of answers is one of them.

  The log keeps what the core asks and tells its hooks, in order.  Four events
  are markers of the core's own doing: `accepted`, `admitted` (a connection's
  Hello gave it a row's place), `jobAccepted` and `reset`.
-/
import Mathlib.Data.List.FinRange
import Mathlib.Logic.Function.Basic
import SplitFlap.Lib.Machine
import SplitFlap.Wall.Policy

namespace SplitFlap

abbrev WALL_LINK_MAX_ROWS : Nat := 8

/-- Every row, and two more for a connection that has not said who it is. -/
abbrev WALL_LINK_MAX_CONNS : Nat := WALL_LINK_MAX_ROWS + 2

instance (priority := 2000) neZeroConns : NeZero WALL_LINK_MAX_CONNS := ⟨by decide⟩

abbrev WALL_HOST_NAME_MAX : Nat := 24

/-- `sizeof(Welcome.master_id)` without the terminator. -/
abbrev WALL_MASTER_ID_MAX : Nat := 32

abbrev RowIx := Fin WALL_LINK_MAX_ROWS

abbrev ConnIx := Fin WALL_LINK_MAX_CONNS

/-! ## §1. What the core says, and what it is answered. -/

inductive LinkEvent where
  | rowForId (id : CStr) (answer : Int)
  | fromPairedAddress (conn : ConnIx) (row : RowIx) (answer : Bool)
  | samePeer (a b : ConnIx) (answer : Bool)
  | write (conn : ConnIx) (row : RowIx) (message : WlToRow) (ok : Bool)
  | close (conn : ConnIx)
  | rowHello (conn : ConnIx) (row : RowIx) (hello : WlHello) (restarted : Bool)
  | rowMessage (conn : ConnIx) (row : RowIx) (message : WlToMaster)
  | jobEnded (row : RowIx) (opId : UInt32) (why : WallJobEnd)
  | note (conn : ConnIx) (row : Option RowIx) (what : String)
  | accepted (conn : ConnIx)
  | admitted (conn : ConnIx) (row : RowIx)
  | jobAccepted (row : RowIx) (op : WlOp)
  | reset
  deriving DecidableEq

/-- The answers of the link task, each to the log so far. -/
structure WallLinkHooks where
  rowForId : List LinkEvent → CStr → Int
  masterId : List LinkEvent → CStr
  write : List LinkEvent → ConnIx → Bytes → Bool
  samePeer : List LinkEvent → ConnIx → ConnIx → Bool
  fromPairedAddress : List LinkEvent → ConnIx → RowIx → Bool

/-- A link task with this rows table, whose sockets take everything and who
sees every connection at its row's paired address. -/
def WallLinkHooks.obliging (ids : List CStr) : WallLinkHooks where
  rowForId := fun _ id =>
    match ids.findIdx? (· = id) with
    | some i => i
    | none => -1
  masterId := fun _ => [109]
  write := fun _ _ _ => true
  samePeer := fun _ _ _ => true
  fromPairedAddress := fun _ _ _ => true

section Core

variable [Nanopb]

/-! ## §2. The state. -/

structure WallLinkConn where
  isOpen : Bool := false
  row : Option RowIx := none
  openedAtMs : UInt32 := 0
  reader : WlReader Nanopb.toMasterSize := .unfed

structure WallLinkRow where
  conn : Option ConnIx := none
  contact : WallRowContact := {}
  text : WallRowText := {}
  job : WallRowJob := {}
  quietSent : Bool := false
  configSent : Bool := false
  hostKnown : Bool := false
  hostSent : Bool := false
  host : CStr := []
  logWanted : Bool := false
  logTold : Bool := false
  deriving DecidableEq

structure WallLinkCore where
  conns : ConnIx → WallLinkConn := fun _ => {}
  rows : RowIx → WallLinkRow := fun _ => {}
  quiet : Bool := false
  haveConfig : Bool := false
  config : WlConfig := {}

/-- The core with everything it has said so far. -/
structure Link extends WallLinkCore where
  log : List LinkEvent := []

namespace Link

def emit (s : Link) (e : LinkEvent) : Link := { s with log := s.log ++ [e] }

def setRow (s : Link) (r : RowIx) (row : WallLinkRow) : Link :=
  { s with rows := Function.update s.rows r row }

def setConn (s : Link) (conn : ConnIx) (c : WallLinkConn) : Link :=
  { s with conns := Function.update s.conns conn c }

def setReader (s : Link) (conn : ConnIx) (reader : WlReader Nanopb.toMasterSize) : Link :=
  s.setConn conn { s.conns conn with reader := reader }

@[simp] theorem emit_log (s : Link) (e : LinkEvent) : (s.emit e).log = s.log ++ [e] := rfl
@[simp] theorem emit_rows (s : Link) (e : LinkEvent) : (s.emit e).rows = s.rows := rfl
@[simp] theorem emit_conns (s : Link) (e : LinkEvent) : (s.emit e).conns = s.conns := rfl
@[simp] theorem setRow_log (s : Link) (r : RowIx) (row : WallLinkRow) :
    (s.setRow r row).log = s.log := rfl
@[simp] theorem setRow_conns (s : Link) (r : RowIx) (row : WallLinkRow) :
    (s.setRow r row).conns = s.conns := rfl
@[simp] theorem setRow_rows (s : Link) (r : RowIx) (row : WallLinkRow) :
    (s.setRow r row).rows = Function.update s.rows r row := rfl
@[simp] theorem setConn_log (s : Link) (conn : ConnIx) (c : WallLinkConn) :
    (s.setConn conn c).log = s.log := rfl
@[simp] theorem setConn_rows (s : Link) (conn : ConnIx) (c : WallLinkConn) :
    (s.setConn conn c).rows = s.rows := rfl
@[simp] theorem setConn_conns (s : Link) (conn : ConnIx) (c : WallLinkConn) :
    (s.setConn conn c).conns = Function.update s.conns conn c := rfl
@[simp] theorem setReader_log (s : Link) (conn : ConnIx) (r : WlReader Nanopb.toMasterSize) :
    (s.setReader conn r).log = s.log := rfl
@[simp] theorem setReader_rows (s : Link) (conn : ConnIx) (r : WlReader Nanopb.toMasterSize) :
    (s.setReader conn r).rows = s.rows := rfl

/-! ## §3. Connections come and go. -/

/-- `closed`: the socket of this connection is gone. -/
def closed (conn : ConnIx) (s : Link) : Link :=
  let c := s.conns conn
  if c.isOpen then
    let s :=
      match c.row with
      | some r =>
          if (s.rows r).conn = some conn then
            s.setRow r { s.rows r with conn := none, contact := (s.rows r).contact.onDropped }
          else s
      | none => s
    s.setConn conn { c with isOpen := false, row := none }
  else s

/-- `drop`: the core lets go of a connection. -/
def drop (conn : ConnIx) (why : String) (s : Link) : Link :=
  ((s.emit (.note conn (s.conns conn).row why)).closed conn).emit (.close conn)

/-- A slot is handed to a socket that was just accepted. -/
def occupy (conn : ConnIx) (nowMs : UInt32) (s : Link) : Link :=
  (s.setConn conn { isOpen := true, openedAtMs := nowMs }).emit (.accepted conn)

def freeSlot (s : Link) : Option ConnIx :=
  (List.finRange WALL_LINK_MAX_CONNS).find? fun i => !(s.conns i).isOpen

/-- The connection that has been nobody the longest. -/
def oldestNobody (nowMs : UInt32) (s : Link) : Option ConnIx :=
  (List.finRange WALL_LINK_MAX_CONNS).foldl
    (fun slot i =>
      if (s.conns i).row.isSome then slot
      else
        match slot with
        | none => some i
        | some j =>
            if nowMs - (s.conns j).openedAtMs < nowMs - (s.conns i).openedAtMs then some i
            else some j)
    none

/-- `accept`: the number of a new connection, `none` when there is no room. -/
def accept (nowMs : UInt32) (s : Link) : Option ConnIx × Link :=
  match s.freeSlot with
  | some slot => (some slot, s.occupy slot nowMs)
  | none =>
      match s.oldestNobody nowMs with
      | none => (none, s)
      | some slot =>
          (some slot, (s.drop slot "made way for a newer connection").occupy slot nowMs)

/-! ## §4. Writing to a row. -/

variable (H : WallLinkHooks)

/-- `send`: writes one message to a welcomed row now.  False when the row is
not connected, the message cannot be encoded or the socket takes nothing. -/
def send (r : RowIx) (m : WlToRow) (nowMs : UInt32) (s : Link) : Bool × Link :=
  match (s.rows r).conn with
  | none => (false, s)
  | some conn =>
      let frame := Nanopb.encodeToRow m
      if frame = [] then (false, s)
      else
        let ok := H.write s.log conn frame
        let s := s.emit (.write conn r m ok)
        if ok then
          (true, s.setRow r { s.rows r with contact := (s.rows r).contact.onSent nowMs })
        else (false, s)

def tellConfig (r : RowIx) (nowMs : UInt32) (s : Link) : Bool × Link :=
  if s.haveConfig && !(s.rows r).configSent then
    match s.send H r (.config s.config) nowMs with
    | (false, s) => (false, s)
    | (true, s) => (true, s.setRow r { s.rows r with configSent := true })
  else (true, s)

def tellHost (r : RowIx) (nowMs : UInt32) (s : Link) : Bool × Link :=
  if (s.rows r).hostKnown && !(s.rows r).hostSent then
    match s.send H r (.name (s.rows r).host) nowMs with
    | (false, s) => (false, s)
    | (true, s) => (true, s.setRow r { s.rows r with hostSent := true })
  else (true, s)

def tellQuiet (r : RowIx) (nowMs : UInt32) (s : Link) : Bool × Link :=
  if !(s.rows r).quietSent then
    match s.send H r (.quiet s.quiet) nowMs with
    | (false, s) => (false, s)
    | (true, s) => (true, s.setRow r { s.rows r with quietSent := true })
  else (true, s)

/-- `tellSettings`: true when the row has been told everything. -/
def tellSettings (r : RowIx) (nowMs : UInt32) (s : Link) : Bool × Link :=
  let row := s.rows r
  if row.quietSent && (row.configSent || !s.haveConfig) && (row.hostSent || !row.hostKnown) then
    (true, s)
  else if row.contact.busy then (false, s)
  else
    match s.tellConfig H r nowMs with
    | (false, s) => (false, s)
    | (true, s) =>
        match s.tellHost H r nowMs with
        | (false, s) => (false, s)
        | (true, s) => s.tellQuiet H r nowMs

/-! ## §5. Reading from a row. -/

/-- The rows table's answer as a row of the wall. -/
def knownRow (answer : Int) : Option RowIx :=
  if h : 0 ≤ answer ∧ answer < WALL_LINK_MAX_ROWS then
    some ⟨answer.toNat, by omega⟩
  else none

/-- The place is the connection's: `row.conn` and `conns[conn].row` are set and
the row counts as connected. -/
def seat (conn : ConnIx) (r : RowIx) (nowMs : UInt32) (s : Link) : Link :=
  ((s.setRow r { s.rows r with
    conn := some conn
    contact := { (s.rows r).contact.onConnected nowMs with helloSeen := true } }).setConn conn
    { s.conns conn with row := some r }).emit (.admitted conn r)

/-- What a written Welcome makes of a row: its boot id is noted, no job
outlives a restart, the text goes out again and nothing has been told yet. -/
def welcomed (conn : ConnIx) (r : RowIx) (h : WlHello) (nowMs : UInt32) (s : Link) : Link :=
  let row := s.rows r
  let noted := (row.contact.onHeard nowMs).noteBoot h.bootId
  (s.setRow r { row with
    contact := noted.1
    job := if noted.2 then {} else row.job
    text := row.text.resend
    quietSent := false
    configSent := false
    hostSent := false
    logTold := false }).emit (.rowHello conn r h noted.2)

def welcomeOf (s : Link) : WlWelcome :=
  { protocol := WALL_LINK_PROTOCOL
    masterId := (H.masterId s.log).take WALL_MASTER_ID_MAX }

/-- The rest of `hello` once the place is free: the place, the Welcome, and
the settings. -/
def welcome (conn : ConnIx) (r : RowIx) (h : WlHello) (nowMs : UInt32) (s : Link) : Link :=
  let s := s.seat conn r nowMs
  match s.send H r (.welcome (s.welcomeOf H)) nowMs with
  | (false, s) => s.drop conn "Welcome not written"
  | (true, s) => ((s.welcomed conn r h nowMs).tellSettings H r nowMs).2

/-- May this connection take the row's place from the one that holds it?  The
second question is asked only when the first is answered no. -/
def mayReplace (conn old : ConnIx) (r : RowIx) (s : Link) : Bool × Link :=
  let paired := H.fromPairedAddress s.log conn r
  let s := s.emit (.fromPairedAddress conn r paired)
  if paired then (true, s)
  else
    let same := H.samePeer s.log old conn
    (same, s.emit (.samePeer old conn same))

/-- `hello`: the first message of a connection. -/
def hello (conn : ConnIx) (h : WlHello) (nowMs : UInt32) (s : Link) : Link :=
  let answer := H.rowForId s.log h.id
  let s := s.emit (.rowForId h.id answer)
  match wallLinkJudgeHello h.protocol h.id (knownRow answer).isSome, knownRow answer with
  | .wrongProtocol, _ => s.drop conn "another link protocol"
  | .noId, _ => s.drop conn "a Hello without an id"
  | .notPaired, _ => s.drop conn "a row this master does not know"
  | .accept, none => s
  | .accept, some r =>
      match (s.rows r).conn with
      | none => s.welcome H conn r h nowMs
      | some old =>
          match s.mayReplace H conn old r with
          | (false, s) => s.drop conn "its row is connected from another address"
          | (true, s) =>
              (s.drop old "replaced by a newer connection").welcome H conn r h nowMs

/-- What a message of a welcomed row makes of the row, and whether the caller
hears of it. -/
def rowHears (row : WallLinkRow) (m : WlToMaster) (nowMs : UInt32) : WallLinkRow × Bool :=
  let row := { row with contact := row.contact.onHeard nowMs }
  match m with
  | .pong => (row, false)
  | .status busy => ({ row with contact := { row.contact with busy := busy } }, true)
  | .updateState u =>
      ({ row with contact := { row.contact with busy := u.phase = .downloading } }, true)
  | .shown renderId _ => ({ row with text := row.text.shown renderId }, true)
  | .opState state =>
      let answered := row.job.answer state
      ({ row with job := answered.1 }, answered.2)
  | _ => (row, true)

/-- A later message of the welcomed row `r`. -/
def hear (conn : ConnIx) (r : RowIx) (m : WlToMaster) (nowMs : UInt32) (s : Link) : Link :=
  let heard := rowHears (s.rows r) m nowMs
  let s := s.setRow r heard.1
  if heard.2 then s.emit (.rowMessage conn r m) else s

/-- `message`: one message of a connection. -/
def message (conn : ConnIx) (m : WlToMaster) (nowMs : UInt32) (s : Link) : Link :=
  match (s.conns conn).row, m with
  | none, .hello h => s.hello H conn h nowMs
  | none, _ => s.drop conn "no Hello first"
  | some _, .hello _ => s.drop conn "a second Hello"
  | some r, m => s.hear conn r m nowMs

/-- The inner loop of `bytes`: every whole message in the reader. -/
def drain (nowMs : UInt32) : (fuel : Nat) → ConnIx → Link → Option Link
  | 0, _, _ => none
  | fuel + 1, conn, s =>
      let c := s.conns conn
      if c.isOpen = true ∧ c.reader.peek = .message then
        let decoded := Nanopb.decodeToMaster c.reader.body
        let s := s.setReader conn c.reader.pop
        match decoded with
        | some m => drain nowMs fuel conn (s.message H conn m nowMs)
        | none =>
            if c.row = none then some (s.drop conn "a first message that is no Hello")
            else drain nowMs fuel conn s
      else some s

/-- The loop of `bytes`. -/
def bytesLoop (nowMs : UInt32) : (fuel : Nat) → ConnIx → Bytes → Link → Option Link
  | 0, _, _, _ => none
  | fuel + 1, conn, data, s =>
      if (s.conns conn).isOpen then
        let fed := (s.conns conn).reader.feed data
        (drain H nowMs (fed.1.buf.length + 1) conn (s.setReader conn fed.1)).bind fun s =>
          if (s.conns conn).isOpen then
            if (s.conns conn).reader.peek = .bad then some (s.drop conn "not a link message")
            else if data.drop fed.2 = [] then some s
            else bytesLoop nowMs fuel conn (data.drop fed.2) s
          else some s
      else some s

/-- `bytes`: bytes read from a connection's socket.  Every turn but the first
takes at least one of them. -/
def bytes (conn : ConnIx) (data : Bytes) (nowMs : UInt32) (s : Link) : Option Link :=
  bytesLoop H nowMs (data.length + 2) conn data s

/-! ## §6. Once per pass of the link task. -/

/-- `tick`, a connection that has not said Hello in time. -/
def tickConn (nowMs : UInt32) (s : Link) (i : ConnIx) : Link :=
  let c := s.conns i
  if c.isOpen = true ∧ c.row = none ∧
      wallLinkElapsed nowMs c.openedAtMs WALL_LINK_HELLO_TIMEOUT_MS = true then
    s.drop i "no Hello"
  else s

/-- `tick`, a job that is given up. -/
def tickJob (r : RowIx) (nowMs : UInt32) (s : Link) : Link :=
  match (s.rows r).job.overdue nowMs with
  | none => s
  | some why =>
      (s.setRow r { s.rows r with job := {} }).emit (.jobEnded r (s.rows r).job.op.opId why)

/-- `tick`, whether the row's log is wanted. -/
def tickLog (r : RowIx) (nowMs : UInt32) (s : Link) : Link :=
  let row := s.rows r
  if row.logWanted ≠ row.logTold ∧ row.contact.busy = false then
    match s.send H r (.logCtl row.logWanted) nowMs with
    | (true, s) => s.setRow r { s.rows r with logTold := (s.rows r).logWanted }
    | (false, s) => s
  else s

/-- The Show of a row's text. -/
def showOf (t : WallRowText) : WlShow :=
  { renderId := t.renderId
    commitAtMs := t.commitAtMs
    speed := t.speed.toUInt32
    text := t.text }

/-- `tick`, what a row is shown, handed or asked. -/
def tickWork (r : RowIx) (nowMs : UInt32) (s : Link) : Link :=
  let row := s.rows r
  if row.text.due row.contact then
    match s.send H r (.show (showOf row.text)) nowMs with
    | (true, s) => s.setRow r { s.rows r with text := (s.rows r).text.sent }
    | (false, s) => s
  else if row.job.due row.contact then
    match s.send H r (.op row.job.op) nowMs with
    | (true, s) => s.setRow r { s.rows r with job := (s.rows r).job.sent nowMs }
    | (false, s) => s
  else if row.contact.pingDue nowMs then (s.send H r .ping nowMs).2
  else s

def tickRow (nowMs : UInt32) (s : Link) (r : RowIx) : Link :=
  let s := s.tickJob r nowMs
  match (s.rows r).conn with
  | none => s
  | some conn =>
      if (s.rows r).contact.busy = false ∧
          wallLinkElapsed nowMs (s.rows r).contact.lastHeardMs WALL_LINK_LOST_MS = true then
        s.drop conn "not heard from"
      else
        match s.tellSettings H r nowMs with
        | (false, s) => s
        | (true, s) => (s.tickLog H r nowMs).tickWork H r nowMs

/-- `tick`. -/
def tick (nowMs : UInt32) (s : Link) : Link :=
  (List.finRange WALL_LINK_MAX_ROWS).foldl (tickRow H nowMs)
    ((List.finRange WALL_LINK_MAX_CONNS).foldl (tickConn nowMs) s)

/-! ## §7. What the caller wants. -/

def setText (r : RowIx) (text : CStr) (speed : UInt16) (commitAtMs : UInt64) (s : Link) : Link :=
  s.setRow r { s.rows r with text := (s.rows r).text.set text speed commitAtMs }

/-- `startJob`: false when the row already has one. -/
def startJob (r : RowIx) (op : WlOp) (nowMs : UInt32) (s : Link) : Bool × Link :=
  let started := (s.rows r).job.start op nowMs
  let s := s.setRow r { s.rows r with job := started.1 }
  (started.2, if started.2 then s.emit (.jobAccepted r op) else s)

def setQuiet (on : Bool) (s : Link) : Link :=
  if on = s.quiet then s
  else { s with quiet := on, rows := fun r => { s.rows r with quietSent := false } }

def setConfig (next : WlConfig) (s : Link) : Link :=
  if s.haveConfig = true ∧ next = s.config then s
  else
    { s with
      config := next, haveConfig := true,
      rows := fun r => { s.rows r with configSent := false } }

def setHost (r : RowIx) (host : CStr) (s : Link) : Link :=
  if (s.rows r).hostKnown = true ∧ (s.rows r).host = host then s
  else
    s.setRow r { s.rows r with
      host := host.take WALL_HOST_NAME_MAX, hostKnown := true, hostSent := false }

def setLogWanted (r : RowIx) (wanted : Bool) (s : Link) : Link :=
  s.setRow r { s.rows r with logWanted := wanted }

/-- Nothing is remembered of any row. -/
def forget (s : Link) : Link := ({ s with rows := fun _ => {} } : Link).emit .reset

def resetConn (s : Link) (i : ConnIx) : Link :=
  if (s.conns i).isOpen then s.drop i "rows table changed" else s

/-- `reset`: the rows table changed; every connection goes. -/
def reset (s : Link) : Link :=
  ((List.finRange WALL_LINK_MAX_CONNS).foldl resetConn s).forget

/-! ## §8. Runs. -/

/-- What the link task writes to a row on its own account. -/
inductive Order where
  | update (m : WlUpdate)
  | restart
  | release
  deriving DecidableEq

def Order.toRow : Order → WlToRow
  | .update m => .update m
  | .restart => .restart
  | .release => .release

/-- The calls of the link task. -/
inductive Call where
  | accept (nowMs : UInt32)
  | closed (conn : ConnIx)
  | bytes (conn : ConnIx) (data : Bytes) (nowMs : UInt32)
  | tick (nowMs : UInt32)
  | setText (r : RowIx) (text : CStr) (speed : UInt16) (commitAtMs : UInt64)
  | startJob (r : RowIx) (op : WlOp) (nowMs : UInt32)
  | setQuiet (on : Bool)
  | setConfig (next : WlConfig)
  | setHost (r : RowIx) (host : CStr)
  | setLogWanted (r : RowIx) (wanted : Bool)
  | send (r : RowIx) (order : Order) (nowMs : UInt32)
  | reset
  deriving DecidableEq

def apply (s : Link) : Call → Option Link
  | .accept nowMs => some (s.accept nowMs).2
  | .closed conn => some (s.closed conn)
  | .bytes conn data nowMs => s.bytes H conn data nowMs
  | .tick nowMs => some (s.tick H nowMs)
  | .setText r text speed commitAtMs => some (s.setText r text speed commitAtMs)
  | .startJob r op nowMs => some (s.startJob r op nowMs).2
  | .setQuiet on => some (s.setQuiet on)
  | .setConfig next => some (s.setConfig next)
  | .setHost r host => some (s.setHost r host)
  | .setLogWanted r wanted => some (s.setLogWanted r wanted)
  | .send r order nowMs => some (s.send H r order.toRow nowMs).2
  | .reset => some s.reset

/-- The state after a sequence of calls. -/
def runCalls (s : Link) (calls : List Call) : Option Link := Machine.run (apply H) s calls

end Link

end Core

end SplitFlap
