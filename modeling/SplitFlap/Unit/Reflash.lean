/-
  SplitFlap.Unit.Reflash — the flash loop of a row's reflash job.

  `reflashRunTargets` of `ReflashPlan.h`, with the two waits before a unit is
  in its bootloader.  Everything it asks of the row master goes through
  `ReflashHooks`, whose answers may depend on all that happened before; the
  log is the calls it makes, with their answers.
-/
import SplitFlap.Lib.Trace

namespace SplitFlap.Unit

abbrev TWIBOOT_STARTUP_MS : UInt32 := 500
abbrev REFLASH_MAX_CONSECUTIVE_FAILURES : UInt8 := 2
abbrev REFLASH_ENTER_PROBES : Nat := 4
abbrev REFLASH_ENTER_PROBE_GAP_MS : UInt32 := 100
abbrev REFLASH_UNIT_ATTEMPTS : Nat := 3
abbrev REFLASH_HAND_RESET_GAP_MS : UInt32 := 200

/-! ## §1. Progress. -/

inductive ReflashState where
  | idle
  | entering
  | flashing
  | settling
  | bootUpdate
  | done
  | cancelled
  | failed
  deriving Repr, DecidableEq

/-- What the row master publishes of the job. -/
structure ReflashProgress where
  state : ReflashState := .idle
  total : UInt8 := 0
  done : UInt8 := 0
  failed : UInt8 := 0
  currentAddr : UInt8 := 0
  halted : Bool := false
  bootDone : UInt8 := 0
  bootFailed : UInt8 := 0
  deriving Repr, DecidableEq

def reflashProgressBegin (total : Nat) : ReflashProgress :=
  { state := .entering, total := UInt8.ofNat total }

def reflashProgressUnitStart (p : ReflashProgress) (addr : UInt8) : ReflashProgress :=
  { p with state := .flashing, currentAddr := addr }

def reflashProgressUnitResult (p : ReflashProgress) (ok : Bool) : ReflashProgress :=
  if ok then { p with done := p.done + 1 } else { p with failed := p.failed + 1 }

def reflashProgressSettling (p : ReflashProgress) : ReflashProgress :=
  { p with state := .settling, currentAddr := 0 }

/-! ## §2. The hooks. -/

inductive ReflashUnitOutcome where
  | flashed
  | failed
  | stopped
  | notEntered
  deriving Repr, DecidableEq

/-- A call of a hook, with its answer. -/
inductive ReflashEvent where
  | stopRequested (on : Bool)
  | imageFits (on : Bool)
  | inBootloader (addr : UInt8) (on : Bool)
  | enterBootloader (addr : UInt8) (status : Int)
  | pause (ms : UInt32)
  | unitNotEntered (addr : UInt8)
  | waitingForReset (addr : UInt8)
  | unitRetried (addr : UInt8) (attempt : Nat)
  | flashUnit (addr : UInt8) (outcome : ReflashUnitOutcome)
  | unitFlashed (addr : UInt8)
  | progressChanged (progress : ReflashProgress)
  | settleBatch (addrs : List UInt8)
  | runHalted (consecutiveFailures : UInt8) (unitsLeftUntouched : Nat)
  deriving Repr, DecidableEq

/-- The row master's answers, each to the log so far. -/
structure ReflashHooks where
  stopRequested : List ReflashEvent → Bool
  imageFits : List ReflashEvent → Bool
  inBootloader : List ReflashEvent → UInt8 → Bool
  enterBootloader : List ReflashEvent → UInt8 → Int
  flashUnit : List ReflashEvent → UInt8 → ReflashUnitOutcome

/-! ## §3. One unit's turn. -/

section Turn

variable (h : ReflashHooks)

def stopRequested : Trace ReflashEvent Bool := Trace.ask h.stopRequested .stopRequested

def imageFits : Trace ReflashEvent Bool := Trace.ask h.imageFits .imageFits

def inBootloader (addr : UInt8) : Trace ReflashEvent Bool :=
  Trace.ask (fun log => h.inBootloader log addr) (.inBootloader addr)

def enterBootloader (addr : UInt8) : Trace ReflashEvent Int :=
  Trace.ask (fun log => h.enterBootloader log addr) (.enterBootloader addr)

def flashUnit (addr : UInt8) : Trace ReflashEvent ReflashUnitOutcome :=
  Trace.ask (fun log => h.flashUnit log addr) (.flashUnit addr)

/-- The questions of `reflashEnterUnit`, `more` of them after the first. -/
def enterProbes (addr : UInt8) : (more : Nat) → Trace ReflashEvent Bool
  | 0 => inBootloader h addr
  | more + 1 => do
      let there ← inBootloader h addr
      if there then Trace.ret true
      else
        Trace.say (.pause REFLASH_ENTER_PROBE_GAP_MS)
        enterProbes addr more

/-- `reflashEnterUnit`: gets a unit into twiboot for its own pages. -/
def reflashEnterUnit (addr : UInt8) : Trace ReflashEvent Bool := do
  let there ← inBootloader h addr
  if there then Trace.ret true
  else
    let status ← enterBootloader h addr
    if status ≠ 0 then Trace.ret false
    else
      Trace.say (.pause TWIBOOT_STARTUP_MS)
      enterProbes h addr (REFLASH_ENTER_PROBES - 1)

/-- The loop of `reflashAwaitHandReset`, `waited` in 32 bits. -/
def awaitHandResetLoop (addr : UInt8) (waitMs : UInt32) :
    (fuel : Nat) → (waited : UInt32) → Trace ReflashEvent Bool
  | 0, _ => Trace.stuck
  | fuel + 1, waited =>
      if waited < waitMs then do
        let stop ← stopRequested h
        if stop then Trace.ret false
        else
          Trace.say (.pause REFLASH_HAND_RESET_GAP_MS)
          let there ← inBootloader h addr
          if there then Trace.ret true
          else awaitHandResetLoop addr waitMs fuel (waited + REFLASH_HAND_RESET_GAP_MS)
      else Trace.ret false

/-- `reflashAwaitHandReset`: a unit that does not enter by order gets there by
a reset by hand. -/
def reflashAwaitHandReset (fuel : Nat) (addr : UInt8) (waitMs : UInt32) :
    Trace ReflashEvent Bool :=
  awaitHandResetLoop h addr waitMs fuel 0

/-- How a unit's turn begins: it may be flashed, it is not in its bootloader,
or a stop ended the wait for it. -/
inductive Entry where
  | ready
  | notEntered
  | stopped
  deriving Repr, DecidableEq

/-- `h.imageFits() && !reflashEnterUnit(h, addr)` -/
def askNotEntered (addr : UInt8) : Trace ReflashEvent Bool := do
  let fits ← imageFits h
  if fits then
    let entered ← reflashEnterUnit h addr
    Trace.ret (!entered)
  else Trace.ret false

/-- A unit's turn up to its first flash. -/
def reflashEntry (fuel : Nat) (addr : UInt8) (handResetWaitMs : UInt32) :
    Trace ReflashEvent Entry := do
  let notEntered ← askNotEntered h addr
  if notEntered ∧ handResetWaitMs > 0 then
    Trace.say (.waitingForReset addr)
    let reset ← reflashAwaitHandReset h fuel addr handResetWaitMs
    if !reset then
      let stop ← stopRequested h
      Trace.ret (if stop then .stopped else .notEntered)
    else Trace.ret .ready
  else Trace.ret (if notEntered then .notEntered else .ready)

/-- `h.imageFits() && h.inBootloader(addr)` -/
def askStillThere (addr : UInt8) : Trace ReflashEvent Bool := do
  let fits ← imageFits h
  if fits then inBootloader h addr else Trace.ret false

/-- The attempts after the first, `left` of them, the next one `attempt`. -/
def retryLoop (addr : UInt8) :
    (left attempt : Nat) → ReflashUnitOutcome → Trace ReflashEvent ReflashUnitOutcome
  | 0, _, outcome => Trace.ret outcome
  | left + 1, attempt, outcome =>
      if outcome = .failed then do
        let again ← askStillThere h addr
        if again then
          Trace.say (.unitRetried addr attempt)
          let outcome ← flashUnit h addr
          retryLoop addr left (attempt + 1) outcome
        else Trace.ret outcome
      else Trace.ret outcome

/-- All attempts at a unit that may be flashed. -/
def flashAttempts (addr : UInt8) : Trace ReflashEvent ReflashUnitOutcome := do
  let outcome ← flashUnit h addr
  retryLoop h addr (REFLASH_UNIT_ATTEMPTS - 1) 2 outcome

end Turn

/-! ## §4. The run. -/

structure ReflashRunEnd where
  cancelled : Bool := false
  halted : Bool := false
  flashed : UInt8 := 0
  notEntered : UInt8 := 0
  deriving Repr, DecidableEq

def reflashShouldHalt (consecutiveFailures : UInt8) : Bool :=
  REFLASH_MAX_CONSECUTIVE_FAILURES ≤ consecutiveFailures

/-- The locals of `reflashRunTargets` and the progress it keeps. -/
structure ReflashRun where
  progress : ReflashProgress
  runEnd : ReflashRunEnd := {}
  consecutiveFailures : UInt8 := 0
  batch : List UInt8 := []
  deriving Repr, DecidableEq

def ReflashRun.cancel (run : ReflashRun) : ReflashRun :=
  { run with runEnd := { run.runEnd with cancelled := true } }

def publish (run : ReflashRun) : Trace ReflashEvent Unit :=
  Trace.say (.progressChanged run.progress)

/-- What an outcome other than a stop changes. -/
def noteOutcome (run : ReflashRun) (addr : UInt8) :
    ReflashUnitOutcome → Trace ReflashEvent ReflashRun
  | .flashed => do
      Trace.say (.unitFlashed addr)
      Trace.ret { run with
        consecutiveFailures := 0
        batch := run.batch ++ [addr]
        runEnd := { run.runEnd with flashed := run.runEnd.flashed + 1 } }
  | .notEntered => do
      Trace.say (.unitNotEntered addr)
      Trace.ret
        { run with runEnd := { run.runEnd with notEntered := run.runEnd.notEntered + 1 } }
  | _ =>
      Trace.ret (if run.consecutiveFailures < 0xFF then
        { run with consecutiveFailures := run.consecutiveFailures + 1 } else run)

/-- Waits for the units in the batch, when there are at least `size`. -/
def settle (size : Nat) (run : ReflashRun) : Trace ReflashEvent ReflashRun :=
  if size ≤ run.batch.length then do
    let run := { run with progress := reflashProgressSettling run.progress }
    publish run
    Trace.say (.settleBatch run.batch)
    Trace.ret { run with batch := [] }
  else Trace.ret run

/-- A turn's outcome: counted, published, and whether the run goes on. -/
def endTurn (batchSize : Nat) (run : ReflashRun) (addr : UInt8) (left : Nat)
    (outcome : ReflashUnitOutcome) : Trace ReflashEvent (ReflashRun × Bool) := do
  let run := { run with progress := reflashProgressUnitResult run.progress (outcome == .flashed) }
  if outcome = .stopped then
    publish run
    Trace.ret (run.cancel, false)
  else
    let run ← noteOutcome run addr outcome
    publish run
    let run ← settle batchSize run
    if reflashShouldHalt run.consecutiveFailures then
      Trace.say (.runHalted run.consecutiveFailures left)
      Trace.ret ({ run with runEnd := { run.runEnd with halted := true } }, false)
    else Trace.ret (run, true)

/-- One unit's turn: the run after it and whether it goes on, with `left`
units after this one. -/
def reflashTurn (h : ReflashHooks) (batchSize fuel : Nat) (handResetWaitMs : UInt32)
    (run : ReflashRun) (addr : UInt8) (left : Nat) : Trace ReflashEvent (ReflashRun × Bool) := do
  let run := { run with progress := reflashProgressUnitStart run.progress addr }
  publish run
  let entry ← reflashEntry h fuel addr handResetWaitMs
  match entry with
  | .stopped =>
      let run := { run with progress := reflashProgressUnitResult run.progress false }
      publish run
      Trace.ret (run.cancel, false)
  | .notEntered => endTurn batchSize run addr left .notEntered
  | .ready =>
      let outcome ← flashAttempts h addr
      endTurn batchSize run addr left outcome

/-- The loop over the targets. -/
def targetLoop (h : ReflashHooks) (batchSize fuel : Nat) (handResetWaitMs : UInt32) :
    (targets : List UInt8) → ReflashRun → Trace ReflashEvent ReflashRun
  | [], run => Trace.ret run
  | addr :: targets, run => do
      let stop ← stopRequested h
      if stop then Trace.ret run.cancel
      else
        let (run, on) ← reflashTurn h batchSize fuel handResetWaitMs run addr targets.length
        if on then targetLoop h batchSize fuel handResetWaitMs targets run else Trace.ret run

/-- `reflashRunTargets`: flashes the planned targets in batches and keeps the
progress current. -/
def reflashRunTargets (h : ReflashHooks) (batchSize fuel : Nat) (targets : List UInt8)
    (progress : ReflashProgress) (handResetWaitMs : UInt32) :
    Trace ReflashEvent (ReflashRunEnd × ReflashProgress) := do
  let run ← targetLoop h batchSize fuel handResetWaitMs targets { progress := progress }
  -- the trailing settle, on every exit
  let run ← settle 1 run
  Trace.ret (run.runEnd, run.progress)

end SplitFlap.Unit
