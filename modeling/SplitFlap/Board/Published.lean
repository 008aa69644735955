/-
  SplitFlap.Board.Published — displayTask's turns, as far as a unit's facts go.

  Each fact lives twice, as the bus left it and in the snapshot, and every
  fold copies all units' bus facts over the snapshot's.  A turn of displayTask
  is one command or one heartbeat tick; what the bus and the clock answer in it
  is its data.  A patch to a fact holds from its write until that datum is read
  of the unit again.  The offset write and the odometer reset patch both
  copies and are in every snapshot published until then; the gates write and
  the invalidation of a unit's reads patch the snapshot alone, and hold where
  every fold finds the bus facts saying the same (`patches_survive`).  Another
  unit's heartbeat is enough to undo them (`gates_undone`).
-/
import SplitFlap.Board.Snapshot
import SplitFlap.Lib.Machine

namespace SplitFlap.Shown

open Bus (UNITS_AMOUNT Letters heartbeatApply heartbeatNextSlot unitDrivable
  HEARTBEAT_MISS_THRESHOLD)
open Machine (Path)

/-! ## §1. Patches not read since. -/

/-- What was patched of a unit and not read of it since. -/
structure Patched where
  offset : Option Int16 := none
  offsetValid : Option Bool := none
  odometer : Option UInt32 := none
  odometerValid : Option Bool := none
  statusInvalid : Bool := false
  gates : Option UInt8 := none

/-- The facts have what an offset write or an odometer reset wrote. -/
structure Patched.Written (p : Patched) (u : UnitFacts) : Prop where
  offset : ∀ v ∈ p.offset, u.offset = v
  offsetValid : p.offsetValid = some true → u.offsetValid = true
  odometer : ∀ v ∈ p.odometer, u.odometer = v
  odometerValid : p.odometerValid = some true → u.odometerValid = true

/-- The facts have the gates that were written, and serve no read that was
invalidated. -/
structure Patched.Agrees (p : Patched) (u : UnitFacts) : Prop where
  offsetInvalid : p.offsetValid = some false → u.offsetValid = false
  odometerInvalid : p.odometerValid = some false → u.odometerValid = false
  statusInvalid : p.statusInvalid = true → u.statusValid = false
  gates : ∀ g ∈ p.gates, u.lifetime.featureGates = g

instance (p : Patched) (u : UnitFacts) : Decidable (p.Agrees u) :=
  decidable_of_iff ((p.offsetValid = some false → u.offsetValid = false) ∧
      (p.odometerValid = some false → u.odometerValid = false) ∧
        (p.statusInvalid = true → u.statusValid = false) ∧
          p.gates.all (u.lifetime.featureGates = ·))
    (by
      simp only [Option.all_eq_true, decide_eq_true_eq]
      constructor
      · intro h
        exact ⟨h.1, h.2.1, h.2.2.1, h.2.2.2⟩
      · intro h
        exact ⟨h.offsetInvalid, h.odometerInvalid, h.statusInvalid, h.gates⟩)

abbrev Patches := Fin UNITS_AMOUNT → Patched

/-! ## §2. What displayTask holds. -/

/-- The two copies of the facts and the heartbeat's cursor.  The last three
fields are history: the patches not read since, and with them what each fold
found in the bus facts and what each publication showed. -/
structure Held where
  busFacts : BusFacts := fun _ => {}
  snap : DisplaySnapshot := {}
  slot : Fin UNITS_AMOUNT := 0
  patched : Patches := fun _ => {}
  folds : List (Patches × Facts) := []
  published : List (Patches × Facts) := []

/-- A health poll's replies. -/
structure PollAnswer where
  status : Option UnitStatus := none
  read : Learnt := {}

/-- A unit that misses its status a second time is asked nothing else. -/
def PollAnswer.heard (a : PollAnswer) (u : UnitFacts) : Learnt :=
  if a.status.isNone ∧ 0 < u.misses then {} else a.read

/-- The attributed error counters, of every unit. -/
abbrev Tallies := Fin UNITS_AMOUNT → UInt16 × UInt32

def foldUnitErrors (tallies : Tallies) (busFacts : BusFacts) : BusFacts := fun i =>
  { busFacts i with
    fact := { (busFacts i).fact with
      i2cErrors := (tallies i).1, lastErrorMs := (tallies i).2 } }

/-- What a scan finds at an address. -/
inductive Found
  | silent
  | bootloader (id : TwibootIdentity)
  /-- Its sketch: its version with the grade of its rev, its offset, and what the
  diagnostics read. -/
  | sketch (version : Option (CStr × UInt8 × UInt8)) (offset : Option Int16) (read : Learnt)

variable (expectedCrc32 : UInt32)

/-- `unitReadIdentity`, on facts of a unit that runs its sketch. -/
def readIdentity (version : Option (CStr × UInt8 × UInt8)) (offset : Option Int16) : UnitFacts :=
  let u : UnitFacts := { state := 1 }
  let u := match version with
    | none => u
    | some (rev, fwStatus, protocolVersion) =>
        { u with rev, fwStatus, protocolVersion, protocolKnown := true }
  match offset with
  | none => u
  | some v => unitFactsApplyOffsetWrite u v

def Found.facts (found : Found) (u : PolledUnit) : PolledUnit :=
  match found with
  | .silent => { u with fact := {}, driftEventsBaseline := -1 }
  | .bootloader id => { u with fact := { state := 2, bootloader := id }, driftEventsBaseline := -1 }
  | .sketch version offset read =>
      learnt expectedCrc32
        { u with fact := readIdentity version offset, driftEventsBaseline := -1 } read

/-- Before a poll, whether or not the unit is asked. -/
def cleared (u : PolledUnit) : PolledUnit :=
  { u with fact := { u.fact with statusValid := false, bootVerdict := BOOT_INTEGRITY_UNREAD } }

/-- `unitBusPollHealthOne`, with what `unitPollHealth` leaves of a unit
(`unitPollHealth_comes`). -/
def pollUnit (u : PolledUnit) (a : PollAnswer) : PolledUnit :=
  if unitDrivable (cleared u).fact then
    learnt expectedCrc32 (withStatus (cleared u) a.status) (a.heard (cleared u).fact)
  else cleared u

/-- The patches left after a poll: what it read is read. -/
def Patched.polled (p : Patched) (u : PolledUnit) (a : PollAnswer) : Patched :=
  if unitDrivable u.fact then
    { p with
      statusInvalid := p.statusInvalid && a.status.isNone
      odometer := if (a.heard u.fact).odometer.isSome then none else p.odometer
      odometerValid := if (a.heard u.fact).odometer.isSome then none else p.odometerValid
      gates := if (a.heard u.fact).lifetime.isSome then none else p.gates }
  else p

/-- The slot is rebuilt as a scan would leave it; only the history of the address
carries over. -/
def unitFactsBecomeBootloader (u : UnitFacts) (id : TwibootIdentity) : UnitFacts :=
  { state := 2, bootloader := id, i2cErrors := u.i2cErrors, lastErrorMs := u.lastErrorMs
    rescueExits := u.rescueExits }

/-- The small acts a turn is made of. -/
inductive Act
  | probe (found : Fin UNITS_AMOUNT → Found) (tallies : Tallies)
  | poll (i : Fin UNITS_AMOUNT) (answer : PollAnswer) (tallies : Tallies)
  | heartbeat (i : Fin UNITS_AMOUNT) (nowMs : UInt32)
  | fold (widthOverride : Nat)
  | frame (letters : Letters) (nowMs : UInt32)
  | reshow (nowMs : UInt32)
  | offsetWrite (i2cAddress : Nat) (value : Int16)
  | odometerReset (i2cAddress : Nat)
  | gatesWrite (i2cAddress : Nat) (gates : UInt8)
  | invalidateReads (i2cAddress : Nat)
  | becomeBootloader (i : Fin UNITS_AMOUNT) (id : TwibootIdentity)
  | rescueExits (i : Fin UNITS_AMOUNT) (exits : UInt16)
  | unitFlashed (i2cAddress : Nat)
  | nextSlot
  | publish

def setBus (busFacts : BusFacts) (i : Fin UNITS_AMOUNT) (f : UnitFacts → UnitFacts) : BusFacts :=
  Function.update busFacts i { busFacts i with fact := f (busFacts i).fact }

def setSnap (snap : DisplaySnapshot) (i : Fin UNITS_AMOUNT) (f : UnitFacts → UnitFacts) :
    DisplaySnapshot :=
  { snap with units := Function.update snap.units i (f (snap.units i)) }

/-- The patch is not read since. -/
def notePatch (patched : Patches) (i2cAddress : Nat) (note : Patched → Patched) : Patches :=
  match slotOf i2cAddress with
  | none => patched
  | some i => Function.update patched i (note (patched i))

def Held.act (h : Held) : Act → Held
  | .probe found tallies =>
      { h with
        busFacts := foldUnitErrors tallies fun i => (found i).facts expectedCrc32 (h.busFacts i)
        patched := fun _ => {} }
  | .poll i answer tallies =>
      { h with
        busFacts := Function.update (foldUnitErrors tallies h.busFacts) i
          (pollUnit expectedCrc32 (foldUnitErrors tallies h.busFacts i) answer)
        patched := Function.update h.patched i
          ((h.patched i).polled (foldUnitErrors tallies h.busFacts i) answer) }
  | .heartbeat i nowMs =>
      { h with
        busFacts := setBus h.busFacts i fun u =>
          heartbeatApply u u.statusValid nowMs HEARTBEAT_MISS_THRESHOLD }
  | .fold widthOverride =>
      { h with
        snap := displayApplyUnitFacts h.snap (fun i => (h.busFacts i).fact) UNITS_AMOUNT
          widthOverride
        folds := (h.patched, fun i => (h.busFacts i).fact) :: h.folds }
  | .frame letters nowMs => { h with snap := displayApplyFrame h.snap letters nowMs }
  | .reshow nowMs => { h with snap := displayApplyReshow h.snap nowMs }
  | .offsetWrite i2cAddress value =>
      let written := displayApplyOffsetWrite h.snap h.busFacts i2cAddress value
      { h with
        snap := written.1
        busFacts := written.2
        patched := notePatch h.patched i2cAddress fun p =>
          { p with offset := some value, offsetValid := some true } }
  | .odometerReset i2cAddress =>
      let written := displayApplyOdometerReset h.snap h.busFacts i2cAddress
      { h with
        snap := written.1
        busFacts := written.2
        patched := notePatch h.patched i2cAddress fun p =>
          { p with odometer := some 0, odometerValid := some true } }
  | .gatesWrite i2cAddress gates =>
      { h with
        snap := displayApplyGatesWrite h.snap i2cAddress gates
        patched := notePatch h.patched i2cAddress fun p => { p with gates := some gates } }
  | .invalidateReads i2cAddress =>
      { h with
        snap := displayInvalidateUnitReads h.snap i2cAddress
        patched := notePatch h.patched i2cAddress fun p =>
          { p with
            offsetValid := some false, odometerValid := some false, statusInvalid := true } }
  | .becomeBootloader i id =>
      { h with
        busFacts := setBus h.busFacts i fun u => unitFactsBecomeBootloader u id
        snap := setSnap h.snap i fun u => unitFactsBecomeBootloader u id
        patched := Function.update h.patched i {} }
  | .rescueExits i exits =>
      { h with
        busFacts := setBus h.busFacts i fun u => { u with rescueExits := exits }
        snap := setSnap h.snap i fun u => { u with rescueExits := exits } }
  | .unitFlashed i2cAddress =>
      { h with snap := patchSnap h.snap i2cAddress fun u => { u with state := 1 } }
  | .nextSlot => { h with slot := heartbeatNextSlot h.slot h.snap.displayWidth.toNat }
  | .publish => { h with published := (h.patched, h.snap.units) :: h.published }

/-! ## §3. The parts of a turn. -/

/-- A scan of the row: what it finds, and the polls after it. -/
structure Scan where
  found : Fin UNITS_AMOUNT → Found
  tallies : Tallies := fun _ => (0, 0)
  polls : Fin UNITS_AMOUNT → PollAnswer := fun _ => {}
  nowMs : UInt32 := 0
  widthOverride : Nat := 0

/-- `unitBusPollHealth` and the freshness of every slot. -/
def Held.pollHealthWithFreshness (h : Held) (polls : Fin UNITS_AMOUNT → PollAnswer)
    (tallies : Tallies) (nowMs : UInt32) : Held :=
  let h := (List.finRange UNITS_AMOUNT).foldl
    (fun h i => h.act expectedCrc32 (.poll i (polls i) tallies)) h
  (List.finRange UNITS_AMOUNT).foldl (fun h i => h.act expectedCrc32 (.heartbeat i nowMs)) h

/-- `unitBusProbe`, the health polls and the fold. -/
def Held.scan (h : Held) (s : Scan) : Held :=
  let h := h.act expectedCrc32 (.probe s.found s.tallies)
  let h := h.pollHealthWithFreshness expectedCrc32 s.polls s.tallies s.nowMs
  h.act expectedCrc32 (.fold s.widthOverride)

/-- The polls and the fold alone. -/
def Held.repoll (h : Held) (s : Scan) : Held :=
  let h := h.pollHealthWithFreshness expectedCrc32 s.polls s.tallies s.nowMs
  h.act expectedCrc32 (.fold s.widthOverride)

/-- `inWindow`: a unit may sit in its bootloader. -/
def Held.reshowLastFrame (h : Held) (inWindow : Bool) (nowMs : UInt32) : Held :=
  if !h.snap.lastFrameValid then h
  else if inWindow then h
  else
    let h := h.act expectedCrc32 .publish
    h.act expectedCrc32 (.reshow nowMs)

/-- The boot-home: without a unit to home nothing is polled again. -/
def Held.runBootHomeSequence (h : Held) (targets : Bool) (s : Scan) : Held :=
  if !targets then h
  else
    let h := h.repoll expectedCrc32 s
    h.act expectedCrc32 .publish

/-- What a job's hooks do to the facts: a unit was sent into its bootloader, a
unit was flashed, the frame was sent again, the progress changed. -/
inductive HookCall
  | unitLeftSketch (i2cAddress : Nat)
  | unitFlashed (i2cAddress : Nat)
  | reshow (nowMs : UInt32)
  | progressChanged

def Held.hook (h : Held) : HookCall → Held
  | .unitLeftSketch i2cAddress => h.act expectedCrc32 (.invalidateReads i2cAddress)
  | .unitFlashed i2cAddress => h.act expectedCrc32 (.unitFlashed i2cAddress)
  | .reshow nowMs =>
      if h.snap.lastFrameValid then h.act expectedCrc32 (.reshow nowMs) else h
  | .progressChanged => h.act expectedCrc32 .publish

/-- A reflash job: stopped before any unit was touched, or run. -/
structure ReflashJob where
  stopped : Bool := false
  calls : List HookCall := []
  scan : Scan
  homes : Bool := false
  homed : Scan
  /-- The boot sections' calls, when there is one to update. -/
  bootSweep : Option (List HookCall × Scan) := none

def Held.runReflashJob (h : Held) (job : ReflashJob) : Held :=
  let h := h.act expectedCrc32 .publish
  if job.stopped then h.act expectedCrc32 .publish
  else
    let h := h.act expectedCrc32 .publish
    let h := job.calls.foldl (Held.hook expectedCrc32) h
    let h := h.scan expectedCrc32 job.scan
    let h := h.runBootHomeSequence expectedCrc32 job.homes job.homed
    let h := match job.bootSweep with
      | none => h
      | some (calls, polls) =>
          let h := calls.foldl (Held.hook expectedCrc32) h
          h.repoll expectedCrc32 polls
    h.act expectedCrc32 .publish

/-- How a rescue tick ends for the heartbeat's unit. -/
inductive Rescue
  | idle
  /-- It answers again: the frame is shown once more. -/
  | again (inWindow : Bool) (nowMs : UInt32)
  /-- Held in its bootloader before; no longer there, when there is a scan. -/
  | recheck (scan : Option Scan)
  /-- Lost and probed; `held` in its bootloader after crashes, with what that says. -/
  | probed (exits : UInt16) (held : Option TwibootIdentity)

def Held.rescueTick (h : Held) (i : Fin UNITS_AMOUNT) (exits : UInt16) (r : Rescue) : Held :=
  let h := h.act expectedCrc32 (.rescueExits i exits)
  match r with
  | .idle => h
  | .again inWindow nowMs => h.reshowLastFrame expectedCrc32 inWindow nowMs
  | .recheck none => h
  | .recheck (some s) =>
      let h := h.scan expectedCrc32 s
      h.act expectedCrc32 .publish
  | .probed exits held =>
      let h := h.act expectedCrc32 (.rescueExits i exits)
      match held with
      | none => h
      | some id =>
          let h := h.act expectedCrc32 (.becomeBootloader i id)
          h.act expectedCrc32 .publish

/-- What a heartbeat tick comes upon. -/
inductive Tick
  /-- The twiboot window is open. -/
  | inWindow
  /-- A scan is owed since that window. -/
  | owed (scan : Scan) (inWindow : Bool) (nowMs : UInt32)
  | poll (answer : PollAnswer) (tallies : Tallies) (nowMs : UInt32) (widthOverride : Nat)
    (exits : UInt16) (rescue : Rescue)

def Held.heartbeatTick (h : Held) (tick : Tick) : Held :=
  if h.snap.displayWidth = 0 then h
  else
    match tick with
    | .inWindow => h
    | .owed s inWindow nowMs =>
        let h := h.scan expectedCrc32 s
        let h := h.reshowLastFrame expectedCrc32 inWindow nowMs
        h.act expectedCrc32 .publish
    | .poll answer tallies nowMs widthOverride exits rescue =>
        let i := h.slot
        let h := h.act expectedCrc32 .nextSlot
        let h := h.act expectedCrc32 (.poll i answer tallies)
        let h := h.act expectedCrc32 (.heartbeat i nowMs)
        let h := h.act expectedCrc32 (.fold widthOverride)
        let h := h.rescueTick expectedCrc32 i exits rescue
        h.act expectedCrc32 .publish

/-! ## §4. The commands. -/

/-- A command with what its bus work came to. -/
inductive Command
  | showText (letters : Letters) (nowMs : UInt32)
  | probe (scan : Scan)
  | writeOffset (unitAddress : Nat) (value : Int16) (status : Int)
  /-- Jog, identify and the boot report leave the facts alone. -/
  | leavesFacts
  | home (acknowledged inWindow : Bool) (nowMs : UInt32)
  | selfTest (movedTheDrum inWindow : Bool) (nowMs : UInt32)
  | bootDump (calls : List HookCall)
  | bootUpdate (calls : List HookCall)
  | setGates (unitAddress : Nat) (gates : UInt8) (status : Int)
  | resetOdometer (unitAddress : Nat) (status : Int)
  | rebootToBootloader (unitAddress : Nat) (status : Int)
  /-- A set or cleared address: refused, or followed by a scan. -/
  | changeAddress (scan : Option Scan)
  | resetUnits (letters : Letters) (nowMs : UInt32)
  | stop (nowMs : UInt32)
  | reflashUnits (job : ReflashJob) (cancelled : Bool) (letters : Letters) (nowMs : UInt32)

def Held.exec (h : Held) : Command → Held
  | .showText letters nowMs => h.act expectedCrc32 (.frame letters nowMs)
  | .probe s => h.scan expectedCrc32 s
  | .writeOffset unitAddress value status =>
      if status = 0 then h.act expectedCrc32 (.offsetWrite unitAddress value) else h
  | .leavesFacts => h
  | .home acknowledged inWindow nowMs =>
      if acknowledged then h.reshowLastFrame expectedCrc32 inWindow nowMs else h
  | .selfTest movedTheDrum inWindow nowMs =>
      if movedTheDrum then h.reshowLastFrame expectedCrc32 inWindow nowMs else h
  | .bootDump calls => calls.foldl (Held.hook expectedCrc32) h
  | .bootUpdate calls => calls.foldl (Held.hook expectedCrc32) h
  | .setGates unitAddress gates status =>
      if status = 0 then h.act expectedCrc32 (.gatesWrite unitAddress gates) else h
  | .resetOdometer unitAddress status =>
      if status = 0 then h.act expectedCrc32 (.odometerReset unitAddress) else h
  | .rebootToBootloader unitAddress status =>
      if status = 0 then h.act expectedCrc32 (.invalidateReads unitAddress) else h
  | .changeAddress none => h
  | .changeAddress (some s) => h.scan expectedCrc32 s
  | .resetUnits letters nowMs => h.act expectedCrc32 (.frame letters nowMs)
  | .stop nowMs => h.act expectedCrc32 (.frame (fun _ => 0) nowMs)
  | .reflashUnits job cancelled letters nowMs =>
      let h := h.runReflashJob expectedCrc32 job
      if cancelled then h else h.act expectedCrc32 (.frame letters nowMs)

inductive Turn
  | command (c : Command)
  | heartbeat (tick : Tick)

/-- Published busy, executed, published idle. -/
def Held.turn (h : Held) : Turn → Held
  | .command c =>
      let h := h.act expectedCrc32 .publish
      let h := h.exec expectedCrc32 c
      h.act expectedCrc32 .publish
  | .heartbeat tick => h.heartbeatTick expectedCrc32 tick

/-- The start: the first scan, the jobs a start may run and the first homes. -/
structure Boot where
  scan : Scan
  jobs : List ReflashJob := []
  homes : Bool := false
  homed : Scan

def boot (b : Boot) : Held :=
  let h := ({} : Held).act expectedCrc32 .publish
  let h := h.scan expectedCrc32 b.scan
  let h := h.act expectedCrc32 .publish
  let h := b.jobs.foldl (Held.runReflashJob expectedCrc32) h
  let h := h.runBootHomeSequence expectedCrc32 b.homes b.homed
  h.act expectedCrc32 .publish

/-- `displayTaskMain`. -/
def displayTaskMain (b : Boot) (turns : List Turn) : Held :=
  turns.foldl (Held.turn expectedCrc32) (boot expectedCrc32 b)

/-! ## §5. One unit's two copies. -/

/-- The same as far as a patch goes. -/
structure Alike (u u' : UnitFacts) : Prop where
  offset : u'.offset = u.offset
  offsetValid : u'.offsetValid = u.offsetValid
  odometer : u'.odometer = u.odometer
  odometerValid : u'.odometerValid = u.odometerValid
  statusValid : u'.statusValid = u.statusValid
  gates : u'.lifetime.featureGates = u.lifetime.featureGates

theorem Alike.refl (u : UnitFacts) : Alike u u := ⟨rfl, rfl, rfl, rfl, rfl, rfl⟩

theorem Patched.Written.of_alike {p : Patched} {u u' : UnitFacts} (h : p.Written u)
    (halike : Alike u u') : p.Written u' where
  offset := by
    rw [halike.offset]
    exact h.offset
  offsetValid := by
    rw [halike.offsetValid]
    exact h.offsetValid
  odometer := by
    rw [halike.odometer]
    exact h.odometer
  odometerValid := by
    rw [halike.odometerValid]
    exact h.odometerValid

theorem Patched.Agrees.of_alike {p : Patched} {u u' : UnitFacts} (h : p.Agrees u)
    (halike : Alike u u') : p.Agrees u' where
  offsetInvalid := by
    rw [halike.offsetValid]
    exact h.offsetInvalid
  odometerInvalid := by
    rw [halike.odometerValid]
    exact h.odometerInvalid
  statusInvalid := by
    rw [halike.statusValid]
    exact h.statusInvalid
  gates := by
    rw [halike.gates]
    exact h.gates

theorem Patched.written_of_unpatched (u : UnitFacts) : ({} : Patched).Written u where
  offset := fun _ hno => (nomatch hno)
  offsetValid := fun hno => (nomatch hno)
  odometer := fun _ hno => (nomatch hno)
  odometerValid := fun hno => (nomatch hno)

theorem Patched.agrees_of_unpatched (u : UnitFacts) : ({} : Patched).Agrees u where
  offsetInvalid := fun hno => (nomatch hno)
  odometerInvalid := fun hno => (nomatch hno)
  statusInvalid := fun hno => (nomatch hno)
  gates := fun _ hno => (nomatch hno)

/-- The two copies of a unit's facts: both have what was written, and where `ok`
the snapshot's agrees with the patches it alone was given. -/
structure InStep (ok : Prop) (p : Patched) (bus snap : UnitFacts) : Prop where
  inBus : p.Written bus
  inSnap : p.Written snap
  agrees : ok → p.Agrees snap

section InStep

variable {ok : Prop} {p : Patched} {bus snap bus' snap' : UnitFacts}

theorem InStep.of_alike (h : InStep ok p bus snap) (hbus : Alike bus bus')
    (hsnap : Alike snap snap') : InStep ok p bus' snap' where
  inBus := h.inBus.of_alike hbus
  inSnap := h.inSnap.of_alike hsnap
  agrees := fun hok => (h.agrees hok).of_alike hsnap

theorem InStep.unpatched (bus snap : UnitFacts) : InStep ok {} bus snap where
  inBus := Patched.written_of_unpatched bus
  inSnap := Patched.written_of_unpatched snap
  agrees := fun _ => Patched.agrees_of_unpatched snap

/-- The snapshot takes the bus's copy. -/
theorem InStep.folded (h : InStep ok p bus snap) {ok' : Prop} (hok : ok' → p.Agrees bus)
    (halike : Alike bus snap') : InStep ok' p bus snap' where
  inBus := h.inBus
  inSnap := h.inBus.of_alike halike
  agrees := fun hok' => (hok hok').of_alike halike

theorem InStep.offsetWrite (h : InStep ok p bus snap) (value : Int16) :
    InStep ok { p with offset := some value, offsetValid := some true }
      (unitFactsApplyOffsetWrite bus value) (unitFactsApplyOffsetWrite snap value) where
  inBus := { h.inBus with
    offset := fun _ hv => Option.some.inj hv
    offsetValid := fun _ => rfl }
  inSnap := { h.inSnap with
    offset := fun _ hv => Option.some.inj hv
    offsetValid := fun _ => rfl }
  agrees := fun hok => { h.agrees hok with offsetInvalid := fun hno => (nomatch hno) }

theorem InStep.odometerReset (h : InStep ok p bus snap) :
    InStep ok { p with odometer := some 0, odometerValid := some true }
      (unitFactsApplyOdometerReset bus) (unitFactsApplyOdometerReset snap) where
  inBus := { h.inBus with
    odometer := fun _ hv => Option.some.inj hv
    odometerValid := fun _ => rfl }
  inSnap := { h.inSnap with
    odometer := fun _ hv => Option.some.inj hv
    odometerValid := fun _ => rfl }
  agrees := fun hok => { h.agrees hok with odometerInvalid := fun hno => (nomatch hno) }

theorem InStep.gatesWrite (h : InStep ok p bus snap) (gates : UInt8) :
    InStep ok { p with gates := some gates } bus (unitFactsApplyGatesWrite snap gates) where
  inBus := { h.inBus with }
  inSnap := { h.inSnap with }
  agrees := fun hok => { h.agrees hok with gates := fun _ hg => Option.some.inj hg }

theorem InStep.invalidateReads (h : InStep ok p bus snap) :
    InStep ok
      { p with offsetValid := some false, odometerValid := some false, statusInvalid := true }
      bus (Bus.unitFactsInvalidateReads snap) where
  inBus := { h.inBus with
    offsetValid := fun hno => (nomatch hno)
    odometerValid := fun hno => (nomatch hno) }
  inSnap := { h.inSnap with
    offsetValid := fun hno => (nomatch hno)
    odometerValid := fun hno => (nomatch hno) }
  agrees := fun hok => { h.agrees hok with
    offsetInvalid := fun _ => rfl
    odometerInvalid := fun _ => rfl
    statusInvalid := fun _ => rfl }

end InStep

/-! ## §6. A poll. -/

/-- What a poll read is not pending any more; the rest is. -/
theorem Patched.polled_eq (p : Patched) {u : PolledUnit} {a : PollAnswer}
    (hdrivable : unitDrivable u.fact = true) : p.polled u a =
      { p with
        statusInvalid := p.statusInvalid && a.status.isNone
        odometer := if (a.heard u.fact).odometer.isSome then none else p.odometer
        odometerValid := if (a.heard u.fact).odometer.isSome then none else p.odometerValid
        gates := if (a.heard u.fact).lifetime.isSome then none else p.gates } :=
  if_pos hdrivable

theorem unless_some {α β : Type} {o : Option α} {q : Option β} {v : β}
    (h : (if o.isSome then none else q) = some v) : o = none ∧ q = some v := by
  split at h
  · exact nomatch h
  · next hnone => exact ⟨Option.not_isSome_iff_eq_none.mp hnone, h⟩

theorem Patched.Written.polled {p : Patched} {v : UnitFacts} (h : p.Written v) (u : PolledUnit)
    (a : PollAnswer) : (p.polled u a).Written v := by
  cases hdrivable : unitDrivable u.fact with
  | false =>
      rw [show p.polled u a = p from if_neg (by simp [hdrivable])]
      exact h
  | true =>
      rw [p.polled_eq hdrivable]
      exact { h with
        odometer := fun w hw => h.odometer w (unless_some hw).2
        odometerValid := fun hw => h.odometerValid (unless_some hw).2 }

theorem Patched.Agrees.polled {p : Patched} {v : UnitFacts} (h : p.Agrees v) (u : PolledUnit)
    (a : PollAnswer) : (p.polled u a).Agrees v := by
  cases hdrivable : unitDrivable u.fact with
  | false =>
      rw [show p.polled u a = p from if_neg (by simp [hdrivable])]
      exact h
  | true =>
      rw [p.polled_eq hdrivable]
      exact { h with
        odometerInvalid := fun hw => h.odometerInvalid (unless_some hw).2
        statusInvalid := fun hw => h.statusInvalid (Bool.and_eq_true _ _ ▸ hw).1
        gates := fun w hw => h.gates w (unless_some hw).2 }

theorem heard_cleared (a : PollAnswer) (u : PolledUnit) :
    a.heard (cleared u).fact = a.heard u.fact := rfl

theorem pollUnit_of_drivable {u : PolledUnit} (a : PollAnswer)
    (hdrivable : unitDrivable u.fact = true) : pollUnit expectedCrc32 u a =
      learnt expectedCrc32 (withStatus (cleared u) a.status) (a.heard u.fact) := by
  unfold pollUnit
  rw [heard_cleared]
  exact if_pos hdrivable

theorem pollUnit_of_not {u : PolledUnit} (a : PollAnswer)
    (hdrivable : unitDrivable u.fact = false) : pollUnit expectedCrc32 u a = cleared u := by
  unfold pollUnit
  refine if_neg ?_
  show ¬unitDrivable u.fact = true
  rw [hdrivable]
  decide

theorem learnt_odometer (u : PolledUnit) (o : Learnt) :
    (learnt expectedCrc32 u o).fact.odometer = o.odometer.getD u.fact.odometer ∧
      (learnt expectedCrc32 u o).fact.odometerValid =
        (o.odometer.isSome || u.fact.odometerValid) := by
  simp only [learnt, withDiag, withOdometer, withExt, withVitals, withBoot, withBusRecord,
    withLifetime, and_self]

theorem learnt_offset (u : PolledUnit) (o : Learnt) :
    (learnt expectedCrc32 u o).fact.offset = u.fact.offset ∧
      (learnt expectedCrc32 u o).fact.offsetValid = u.fact.offsetValid := by
  simp only [learnt, withDiag, withOdometer, withExt, withVitals, withBoot, withBusRecord,
    withLifetime, and_self]

/-- A health poll leaves the unit as some replies would. -/
theorem unitPollHealth_pollUnit (bus : UnitBus) (addr : UInt8) {u : PolledUnit}
    (hdrivable : unitDrivable u.fact = true) (log : List PollEvent) :
    Trace.Comes (unitPollHealth bus addr expectedCrc32 (cleared u)) log fun r _ =>
      ∃ a : PollAnswer, r = (a.status.isSome, pollUnit expectedCrc32 u a) := by
  unfold unitPollHealth
  refine Trace.comes_bind (unitPollStatus_comes bus addr (cleared u) log) fun polled said hpolled => ?_
  obtain ⟨status, rfl, _⟩ := hpolled
  dsimp only
  split
  · next hshort =>
      refine Trace.comes_ret ⟨{ status }, ?_⟩
      rw [Bool.and_eq_true, Bool.not_eq_true'] at hshort
      rw [pollUnit_of_drivable expectedCrc32 _ hdrivable]
      have hnothing : PollAnswer.heard { status } u.fact = {} := ite_self _
      rw [hnothing, learnt_nothing, hshort.1]
  · next hlong =>
      refine Trace.comes_bind (unitRefreshDiagnostics_comes bus addr expectedCrc32 _ _)
        fun u' more hu' => ?_
      obtain ⟨o, rfl, _⟩ := hu'
      refine Trace.comes_ret ⟨{ status, read := o }, ?_⟩
      rw [pollUnit_of_drivable expectedCrc32 _ hdrivable]
      have hall : PollAnswer.heard { status, read := o } u.fact = o := by
        refine if_neg ?_
        rintro ⟨hmissed, hmisses⟩
        refine hlong ?_
        rw [Bool.and_eq_true, Bool.not_eq_true', decide_eq_true_eq]
        exact ⟨by simpa using hmissed, hmisses⟩
      rw [hall]

/-- The bus facts a poll leaves have what is still pending of them. -/
theorem Patched.Written.pollUnit {p : Patched} {u : PolledUnit} (h : p.Written u.fact)
    (a : PollAnswer) :
    (p.polled u a).Written (Shown.pollUnit expectedCrc32 u a).fact := by
  cases hdrivable : unitDrivable u.fact with
  | false =>
      rw [show p.polled u a = p from if_neg (by simp [hdrivable]),
        pollUnit_of_not expectedCrc32 a hdrivable]
      exact { h with }
  | true =>
      rw [p.polled_eq hdrivable, pollUnit_of_drivable expectedCrc32 a hdrivable]
      obtain ⟨hodometer, hodometerValid⟩ := learnt_odometer expectedCrc32
        (withStatus (cleared u) a.status) (a.heard u.fact)
      obtain ⟨hoffset, hoffsetValid⟩ := learnt_offset expectedCrc32
        (withStatus (cleared u) a.status) (a.heard u.fact)
      constructor
      · intro w hw
        rw [hoffset]
        exact h.offset w hw
      · intro hw
        rw [hoffsetValid]
        exact h.offsetValid hw
      · intro w hw
        obtain ⟨hnone, hpending⟩ := unless_some hw
        rw [hodometer, hnone]
        exact h.odometer w hpending
      · intro hw
        obtain ⟨hnone, hpending⟩ := unless_some hw
        rw [hodometerValid, hnone]
        exact h.odometerValid hpending

/-! ## §7. Every act. -/

/-- Every fold found the gates written and the invalidations in the bus facts. -/
def Held.FoldsAgree (h : Held) : Prop := ∀ f ∈ h.folds, ∀ i, (f.1 i).Agrees (f.2 i)

structure Held.Safe (h : Held) : Prop where
  units : ∀ i, InStep h.FoldsAgree (h.patched i) (h.busFacts i).fact (h.snap.units i)
  published : ∀ q ∈ h.published, ∀ i,
    (q.1 i).Written (q.2 i) ∧ (h.FoldsAgree → (q.1 i).Agrees (q.2 i))

variable {h : Held}

/-- Acts that neither fold nor publish. -/
theorem Held.Safe.of_units (hsafe : h.Safe) {h' : Held} (hfolds : h'.folds = h.folds)
    (hpublished : h'.published = h.published)
    (hunits : ∀ i, InStep h.FoldsAgree (h'.patched i) (h'.busFacts i).fact (h'.snap.units i)) :
    h'.Safe where
  units := by
    unfold Held.FoldsAgree
    rw [hfolds]
    exact hunits
  published := by
    unfold Held.FoldsAgree
    rw [hfolds, hpublished]
    exact hsafe.published

/-- A patch by address, as its slot's. -/
theorem InStep.at_slot {ok : Prop} {patched : Patches} {busFacts : BusFacts}
    {snap : DisplaySnapshot} (i2cAddress : Nat) (note : Patched → Patched)
    (onBus onSnap : UnitFacts → UnitFacts)
    (hall : ∀ i, InStep ok (patched i) (busFacts i).fact (snap.units i))
    (hone : ∀ {p bus snap}, InStep ok p bus snap → InStep ok (note p) (onBus bus) (onSnap snap))
    (i : Fin UNITS_AMOUNT) :
    InStep ok (notePatch patched i2cAddress note i)
      (patchBus busFacts i2cAddress onBus i).fact
      ((patchSnap snap i2cAddress onSnap).units i) := by
  unfold notePatch patchBus patchSnap
  cases slotOf i2cAddress with
  | none => exact hall i
  | some j =>
      dsimp only
      by_cases hij : i = j
      · subst hij
        rw [Function.update_self, Function.update_self, Function.update_self]
        exact hone (hall i)
      · rw [Function.update_of_ne hij, Function.update_of_ne hij, Function.update_of_ne hij]
        exact hall i

/-- Nothing is done to the bus facts. -/
theorem patchBus_id (busFacts : BusFacts) (i2cAddress : Nat) :
    patchBus busFacts i2cAddress (fun u => u) = busFacts := by
  unfold patchBus
  cases slotOf i2cAddress with
  | none => rfl
  | some j => exact Function.update_eq_self j busFacts

theorem notePatch_id (patched : Patches) (i2cAddress : Nat) :
    notePatch patched i2cAddress (fun p => p) = patched := by
  unfold notePatch
  cases slotOf i2cAddress with
  | none => rfl
  | some j => exact Function.update_eq_self j patched

/-- A slot's two copies, changed where no patch is. -/
theorem InStep.set_alike {ok : Prop} {patched : Patches} {busFacts : BusFacts}
    {snap : DisplaySnapshot} (j : Fin UNITS_AMOUNT) (onBus onSnap : UnitFacts → UnitFacts)
    (hall : ∀ i, InStep ok (patched i) (busFacts i).fact (snap.units i))
    (hbus : ∀ u, Alike u (onBus u)) (hsnap : ∀ u, Alike u (onSnap u)) (i : Fin UNITS_AMOUNT) :
    InStep ok (patched i) (setBus busFacts j onBus i).fact
      ((setSnap snap j onSnap).units i) := by
  unfold setBus setSnap
  by_cases hij : i = j
  · subst hij
    rw [Function.update_self]
    dsimp only
    rw [Function.update_self]
    exact (hall i).of_alike (hbus _) (hsnap _)
  · rw [Function.update_of_ne hij]
    dsimp only
    rw [Function.update_of_ne hij]
    exact hall i

theorem alike_heartbeat (u : UnitFacts) (ok : Bool) (nowMs : UInt32) (threshold : UInt8) :
    Alike u (heartbeatApply u ok nowMs threshold) := by
  unfold heartbeatApply
  split
  · exact ⟨rfl, rfl, rfl, rfl, rfl, rfl⟩
  · exact ⟨rfl, rfl, rfl, rfl, rfl, rfl⟩

theorem alike_frame (snap : DisplaySnapshot) (letters : Letters) (nowMs : UInt32)
    (i : Fin UNITS_AMOUNT) :
    Alike (snap.units i) ((displayApplyFrame snap letters nowMs).units i) := by
  unfold displayApplyFrame
  dsimp only
  split
  · exact ⟨rfl, rfl, rfl, rfl, rfl, rfl⟩
  · exact Alike.refl _

theorem alike_tallies (tallies : Tallies) (busFacts : BusFacts) (i : Fin UNITS_AMOUNT) :
    Alike (busFacts i).fact (foldUnitErrors tallies busFacts i).fact :=
  ⟨rfl, rfl, rfl, rfl, rfl, rfl⟩

theorem Held.Safe.poll (hsafe : h.Safe) (j : Fin UNITS_AMOUNT) (answer : PollAnswer)
    (tallies : Tallies) : (h.act expectedCrc32 (.poll j answer tallies)).Safe := by
  refine hsafe.of_units rfl rfl ?_
  intro i
  have htallied := (hsafe.units i).of_alike (alike_tallies tallies h.busFacts i)
    (Alike.refl (h.snap.units i))
  simp only [Held.act]
  by_cases hij : i = j
  · subst hij
    rw [Function.update_self, Function.update_self]
    exact {
      inBus := htallied.inBus.pollUnit expectedCrc32 answer
      inSnap := htallied.inSnap.polled _ answer
      agrees := fun hok => (htallied.agrees hok).polled _ answer }
  · rw [Function.update_of_ne hij, Function.update_of_ne hij]
    exact htallied

theorem Held.Safe.fold (hsafe : h.Safe) (widthOverride : Nat) :
    (h.act expectedCrc32 (.fold widthOverride)).Safe := by
  have holder : (h.act expectedCrc32 (.fold widthOverride)).FoldsAgree → h.FoldsAgree :=
    fun hagree f hf => hagree f (List.mem_cons_of_mem _ hf)
  constructor
  · intro i
    refine (hsafe.units i).folded (fun hagree => hagree _ List.mem_cons_self i) ?_
    show Alike (h.busFacts i).fact ((displayApplyUnitFacts h.snap _ UNITS_AMOUNT
      widthOverride).units i)
    rw [fold_units_of_lt h.snap _ i.isLt]
    exact ⟨rfl, rfl, rfl, rfl, rfl, rfl⟩
  · intro q hq i
    exact ⟨(hsafe.published q hq i).1, fun hagree => (hsafe.published q hq i).2 (holder hagree)⟩

theorem Held.Safe.publish (hsafe : h.Safe) : (h.act expectedCrc32 .publish).Safe := by
  constructor
  · exact hsafe.units
  · intro q hq i
    rcases List.mem_cons.mp hq with rfl | hearlier
    · exact ⟨(hsafe.units i).inSnap, (hsafe.units i).agrees⟩
    · exact hsafe.published q hearlier i

/-- **Every act keeps the two copies in step.** -/
theorem Held.Safe.act (hsafe : h.Safe) (a : Act) : (h.act expectedCrc32 a).Safe := by
  cases a with
  | probe found tallies =>
      exact hsafe.of_units rfl rfl fun i => InStep.unpatched _ _
  | poll i answer tallies => exact hsafe.poll expectedCrc32 i answer tallies
  | heartbeat j nowMs =>
      refine hsafe.of_units rfl rfl fun i => ?_
      have hset := InStep.set_alike j
        (fun u => heartbeatApply u u.statusValid nowMs HEARTBEAT_MISS_THRESHOLD) (fun u => u)
        hsafe.units (fun u => alike_heartbeat u u.statusValid nowMs HEARTBEAT_MISS_THRESHOLD)
        Alike.refl i
      unfold setSnap at hset
      rw [Function.update_eq_self] at hset
      exact hset
  | fold widthOverride => exact hsafe.fold expectedCrc32 widthOverride
  | frame letters nowMs =>
      exact hsafe.of_units rfl rfl fun i =>
        (hsafe.units i).of_alike (Alike.refl _) (alike_frame h.snap letters nowMs i)
  | reshow nowMs =>
      exact hsafe.of_units rfl rfl fun i =>
        (hsafe.units i).of_alike (Alike.refl _) ⟨rfl, rfl, rfl, rfl, rfl, rfl⟩
  | offsetWrite i2cAddress value =>
      exact hsafe.of_units rfl rfl
        (InStep.at_slot i2cAddress _ _ _ hsafe.units fun hin => hin.offsetWrite value)
  | odometerReset i2cAddress =>
      exact hsafe.of_units rfl rfl
        (InStep.at_slot i2cAddress _ _ _ hsafe.units fun hin => hin.odometerReset)
  | gatesWrite i2cAddress gates =>
      refine hsafe.of_units rfl rfl fun i => ?_
      have hat := InStep.at_slot i2cAddress _ (fun u => u) _ hsafe.units
        (fun hin => hin.gatesWrite gates) i
      rw [patchBus_id] at hat
      exact hat
  | invalidateReads i2cAddress =>
      refine hsafe.of_units rfl rfl fun i => ?_
      have hat := InStep.at_slot i2cAddress _ (fun u => u) _ hsafe.units
        (fun hin => hin.invalidateReads) i
      rw [patchBus_id] at hat
      exact hat
  | becomeBootloader j id =>
      refine hsafe.of_units rfl rfl fun i => ?_
      simp only [Held.act, setBus, setSnap]
      by_cases hij : i = j
      · subst hij
        rw [Function.update_self]
        exact InStep.unpatched _ _
      · rw [Function.update_of_ne hij, Function.update_of_ne hij, Function.update_of_ne hij]
        exact hsafe.units i
  | rescueExits j exits =>
      exact hsafe.of_units rfl rfl (InStep.set_alike j (fun u => { u with rescueExits := exits })
        (fun u => { u with rescueExits := exits }) hsafe.units
        (fun _ => ⟨rfl, rfl, rfl, rfl, rfl, rfl⟩) fun _ => ⟨rfl, rfl, rfl, rfl, rfl, rfl⟩)
  | unitFlashed i2cAddress =>
      refine hsafe.of_units rfl rfl fun i => ?_
      have hat := InStep.at_slot i2cAddress (fun p => p) (fun u => u)
        (fun u => { u with state := 1 }) hsafe.units
        (fun hin => hin.of_alike (Alike.refl _) ⟨rfl, rfl, rfl, rfl, rfl, rfl⟩) i
      rw [patchBus_id, notePatch_id] at hat
      exact hat
  | nextSlot => exact hsafe.of_units rfl rfl hsafe.units
  | publish => exact hsafe.publish expectedCrc32

/-! ## §8. Every turn is a path of acts. -/

/-- Finitely many acts. -/
abbrev Acts : Held → Held → Prop := Path fun a b => ∃ act, b = a.act expectedCrc32 act

variable {expectedCrc32}

theorem Acts.act {a b : Held} (h : Acts expectedCrc32 a b) (act : Act) :
    Acts expectedCrc32 a (b.act expectedCrc32 act) :=
  Relation.ReflTransGen.tail h ⟨act, rfl⟩

theorem Acts.refl (a : Held) : Acts expectedCrc32 a a := Relation.ReflTransGen.refl

theorem Acts.trans {a b c : Held} (h : Acts expectedCrc32 a b) (h' : Acts expectedCrc32 b c) :
    Acts expectedCrc32 a c := Relation.ReflTransGen.trans h h'

theorem Acts.loop {α : Type} {a b : Held} (h : Acts expectedCrc32 a b) {f : Held → α → Held}
    (hturn : ∀ s x, Acts expectedCrc32 s (f s x)) (xs : List α) :
    Acts expectedCrc32 a (xs.foldl f b) :=
  h.trans (Machine.Path.foldl hturn xs b)

theorem Acts.polls {a b : Held} (h : Acts expectedCrc32 a b)
    (polls : Fin UNITS_AMOUNT → PollAnswer) (tallies : Tallies) (nowMs : UInt32) :
    Acts expectedCrc32 a (b.pollHealthWithFreshness expectedCrc32 polls tallies nowMs) :=
  (h.loop (fun s i => (Acts.refl s).act (.poll i (polls i) tallies)) _).loop
    (fun s i => (Acts.refl s).act (.heartbeat i nowMs)) _

theorem Acts.scan {a b : Held} (h : Acts expectedCrc32 a b) (s : Scan) :
    Acts expectedCrc32 a (b.scan expectedCrc32 s) :=
  ((h.act (.probe s.found s.tallies)).polls s.polls s.tallies s.nowMs).act (.fold s.widthOverride)

theorem Acts.repoll {a b : Held} (h : Acts expectedCrc32 a b) (s : Scan) :
    Acts expectedCrc32 a (b.repoll expectedCrc32 s) :=
  (h.polls s.polls s.tallies s.nowMs).act (.fold s.widthOverride)

theorem Acts.reshowLastFrame {a b : Held} (h : Acts expectedCrc32 a b) (inWindow : Bool)
    (nowMs : UInt32) : Acts expectedCrc32 a (b.reshowLastFrame expectedCrc32 inWindow nowMs) := by
  unfold Held.reshowLastFrame
  split
  · exact h
  · split
    · exact h
    · exact (h.act .publish).act (.reshow nowMs)

theorem Acts.runBootHomeSequence {a b : Held} (h : Acts expectedCrc32 a b) (targets : Bool)
    (s : Scan) : Acts expectedCrc32 a (b.runBootHomeSequence expectedCrc32 targets s) := by
  unfold Held.runBootHomeSequence
  split
  · exact h
  · exact (h.repoll s).act .publish

theorem acts_hook (b : Held) (call : HookCall) :
    Acts expectedCrc32 b (b.hook expectedCrc32 call) := by
  cases call with
  | unitLeftSketch i2cAddress => exact (Acts.refl b).act (.invalidateReads i2cAddress)
  | unitFlashed i2cAddress => exact (Acts.refl b).act (.unitFlashed i2cAddress)
  | reshow nowMs =>
      show Acts expectedCrc32 b (if b.snap.lastFrameValid then _ else b)
      split
      · exact (Acts.refl b).act (.reshow nowMs)
      · exact Acts.refl b
  | progressChanged => exact (Acts.refl b).act .publish

theorem Acts.runReflashJob {a b : Held} (h : Acts expectedCrc32 a b) (job : ReflashJob) :
    Acts expectedCrc32 a (b.runReflashJob expectedCrc32 job) := by
  unfold Held.runReflashJob
  dsimp only
  split
  · exact (h.act .publish).act .publish
  · have hflashed := ((h.act .publish).act .publish).loop acts_hook job.calls
    have hhomed := (hflashed.scan job.scan).runBootHomeSequence job.homes job.homed
    cases job.bootSweep with
    | none => exact hhomed.act .publish
    | some sweep => exact ((hhomed.loop acts_hook sweep.1).repoll sweep.2).act .publish

theorem Acts.rescueTick {a b : Held} (h : Acts expectedCrc32 a b) (i : Fin UNITS_AMOUNT)
    (exits : UInt16) (r : Rescue) : Acts expectedCrc32 a (b.rescueTick expectedCrc32 i exits r) := by
  have hmirrored := h.act (.rescueExits i exits)
  cases r with
  | idle => exact hmirrored
  | again inWindow nowMs => exact hmirrored.reshowLastFrame inWindow nowMs
  | recheck scan =>
      cases scan with
      | none => exact hmirrored
      | some s => exact (hmirrored.scan s).act .publish
  | probed exits held =>
      have hcounted := hmirrored.act (.rescueExits i exits)
      cases held with
      | none => exact hcounted
      | some id => exact (hcounted.act (.becomeBootloader i id)).act .publish

theorem acts_heartbeatTick (b : Held) (tick : Tick) :
    Acts expectedCrc32 b (b.heartbeatTick expectedCrc32 tick) := by
  unfold Held.heartbeatTick
  split
  · exact Acts.refl b
  · cases tick with
    | inWindow => exact Acts.refl b
    | owed s inWindow nowMs =>
        exact (((Acts.refl b).scan s).reshowLastFrame inWindow nowMs).act .publish
    | poll answer tallies nowMs widthOverride exits rescue =>
        have hslot : Acts expectedCrc32 b (b.act expectedCrc32 .nextSlot) :=
          (Acts.refl b).act .nextSlot
        have hpolled := hslot.act (.poll b.slot answer tallies)
        have hfolded := (hpolled.act (.heartbeat b.slot nowMs)).act (.fold widthOverride)
        exact (hfolded.rescueTick b.slot exits rescue).act .publish

theorem Acts.exec {a b : Held} (h : Acts expectedCrc32 a b) (c : Command) :
    Acts expectedCrc32 a (b.exec expectedCrc32 c) := by
  have hif : ∀ {p : Prop} [Decidable p] {x : Held}, Acts expectedCrc32 a x →
      Acts expectedCrc32 a (if p then x else b) := by
    intro p _ x hx
    split
    · exact hx
    · exact h
  cases c with
  | showText letters nowMs => exact h.act (.frame letters nowMs)
  | probe s => exact h.scan s
  | writeOffset unitAddress value status => exact hif (h.act (.offsetWrite unitAddress value))
  | leavesFacts => exact h
  | home acknowledged inWindow nowMs => exact hif (h.reshowLastFrame inWindow nowMs)
  | selfTest movedTheDrum inWindow nowMs => exact hif (h.reshowLastFrame inWindow nowMs)
  | bootDump calls => exact h.loop acts_hook calls
  | bootUpdate calls => exact h.loop acts_hook calls
  | setGates unitAddress gates status => exact hif (h.act (.gatesWrite unitAddress gates))
  | resetOdometer unitAddress status => exact hif (h.act (.odometerReset unitAddress))
  | rebootToBootloader unitAddress status => exact hif (h.act (.invalidateReads unitAddress))
  | changeAddress scan =>
      cases scan with
      | none => exact h
      | some s => exact h.scan s
  | resetUnits letters nowMs => exact h.act (.frame letters nowMs)
  | stop nowMs => exact h.act (.frame (fun _ => 0) nowMs)
  | reflashUnits job cancelled letters nowMs =>
      have hjob := h.runReflashJob job
      show Acts expectedCrc32 a (if cancelled then _ else _)
      split
      · exact hjob
      · exact hjob.act (.frame letters nowMs)

theorem acts_turn (b : Held) (t : Turn) : Acts expectedCrc32 b (b.turn expectedCrc32 t) := by
  cases t with
  | command c => exact (((Acts.refl b).act .publish).exec c).act .publish
  | heartbeat tick => exact acts_heartbeatTick b tick

theorem acts_displayTaskMain (b : Boot) (turns : List Turn) :
    Acts expectedCrc32 {} (displayTaskMain expectedCrc32 b turns) := by
  have hstarted : Acts expectedCrc32 {} (({} : Held).act expectedCrc32 .publish) :=
    (Acts.refl _).act .publish
  have hscanned := (hstarted.scan b.scan).act .publish
  have hjobs := hscanned.loop (fun s job => (Acts.refl s).runReflashJob job) b.jobs
  exact ((hjobs.runBootHomeSequence b.homes b.homed).act .publish).loop acts_turn turns

/-! ## §9. Every run. -/

theorem start_safe : ({} : Held).Safe where
  units := fun _ => InStep.unpatched _ _
  published := fun _ hq => (nomatch hq)

variable (expectedCrc32)

/-- **Patches survive**: in every run of displayTask each snapshot published has
what was written of a unit's offset and odometer and not read since; and where
every fold finds the gates written and the invalidations in the bus facts, it
has those too. -/
theorem patches_survive (b : Boot) (turns : List Turn) :
    let h := displayTaskMain expectedCrc32 b turns
    ∀ q ∈ h.published, ∀ i, (q.1 i).Written (q.2 i) ∧
      ((∀ f ∈ h.folds, ∀ j, (f.1 j).Agrees (f.2 j)) → (q.1 i).Agrees (q.2 i)) := by
  intro h q hq i
  have hsafe : h.Safe := Machine.Path.keeps
    (fun a b hsafe ⟨act, hact⟩ => hact ▸ hsafe.act expectedCrc32 act)
    (acts_displayTaskMain b turns) start_safe
  exact hsafe.published q hq i

/-- A poll that reads everything asked here; the gates are 1. -/
def wholePoll : PollAnswer :=
  { status := some {}, read := { odometer := some 7, lifetime := some { featureGates := 1 } } }

/-- A row whose units run their sketch. -/
def sketchRow : Scan :=
  { found := fun _ => .sketch none (some 5) wholePoll.read, polls := fun _ => wholePoll }

def heartbeatAt (nowMs : UInt32) : Turn :=
  .heartbeat (.poll wholePoll (fun _ => (0, 0)) nowMs 0 0 .idle)

/-- Unit 0 is polled, its gates are written, and unit 1 is polled. -/
def gatesTurns : List Turn := [heartbeatAt 1000, .command (.setGates 1 3 0), heartbeatAt 2000]

/-- **Another unit's heartbeat undoes a gates write**: the last snapshot published
shows unit 0's gates of before, and unit 0 was not read since. -/
theorem gates_undone :
    ∃ q ∈ (displayTaskMain 0 { scan := sketchRow, homed := sketchRow } gatesTurns).published,
      (q.1 0).gates = some 3 ∧ (q.2 0).lifetime.featureGates = 1 := by
  decide +kernel

/-- Unit 0's offset is written, and the gates it has anyway; then unit 1 is
polled. -/
def offsetTurns : List Turn :=
  [heartbeatAt 1000, .command (.writeOffset 1 9 0), .command (.setGates 1 1 0),
    heartbeatAt 2000]

theorem patches_survive_offset :
    ∃ q ∈ (displayTaskMain 0 { scan := sketchRow, homed := sketchRow } offsetTurns).published,
      (q.2 0).offset = 9 ∧ (q.2 0).lifetime.featureGates = 1 := by
  obtain ⟨q, hq, hoffset, hgates⟩ :
      ∃ q ∈ (displayTaskMain 0 { scan := sketchRow, homed := sketchRow } offsetTurns).published,
        (q.1 0).offset = some 9 ∧ (q.1 0).gates = some 1 := by decide +kernel
  have hkept := patches_survive 0 { scan := sketchRow, homed := sketchRow } offsetTurns q hq 0
  exact ⟨q, hq, hkept.1.offset 9 hoffset, (hkept.2 (by decide +kernel)).gates 1 hgates⟩

end SplitFlap.Shown
