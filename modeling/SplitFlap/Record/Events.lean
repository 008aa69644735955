/-
  SplitFlap.Record.Events — the record of what happened on the wall.

  An event is put into the stage (`EventStage`), waits there until the clock is
  known, is taken by netTask's tick, damped (`EventDamp`: of the same entry over
  and over only the first few are written, the rest are counted) and written to
  the record with the next number.

    • puts and the tick's take exclude each other (`stageMutex`);
    • the rest of a tick is netTask's own, so a put may come between its parts:
      `step` takes a tick apart into its take, one admission for each entry and
      the write at its end.
-/
import Mathlib.Data.List.FinRange
import SplitFlap.Lib.Machine
import SplitFlap.Lib.Numerals

namespace SplitFlap.Record

abbrev EVENT_STAGE_CAP : Nat := 32
abbrev EVENT_CLOCK_WAIT_MS : UInt32 := 120000
abbrev EVENT_DAMP_BURST : UInt16 := 10
abbrev EVENT_DAMP_WINDOW_S : UInt32 := 3600
abbrev EVENT_DAMP_SLOTS : Nat := 16
abbrev EVENT_TICK_INTERVAL_MS : UInt32 := 250

/-! ## §1. Entries. -/

inductive EventKind
  | masterStarted
  | eventsDropped
  | repeated
  | unitReasonOn
  | unitReasonOff
  | unitRestarted
  | boardReasonOn
  | boardReasonOff
  | rowStarted
  | jobDone
  | jobFailed
  | rowEvent
  | releaseFound
  | updateStarted

def EventKind.toByte : EventKind → UInt8
  | .masterStarted => 1
  | .eventsDropped => 2
  | .repeated => 3
  | .unitReasonOn => 10
  | .unitReasonOff => 11
  | .unitRestarted => 12
  | .boardReasonOn => 20
  | .boardReasonOff => 21
  | .rowStarted => 22
  | .jobDone => 30
  | .jobFailed => 31
  | .rowEvent => 40
  | .releaseFound => 50
  | .updateStarted => 51

structure EventRecord where
  timeS : UInt32 := 0
  seq : UInt32 := 0
  a : UInt32 := 0
  b : UInt32 := 0
  board : UInt16 := 0
  kind : UInt8 := 0
  detail : UInt8 := 0
  unit : UInt8 := 0
  deriving DecidableEq

/-! ## §2. The stage. -/

structure Pending where
  record : EventRecord
  atMs : UInt32

/-- Entries wait in order; those that found no room are counted. -/
structure EventStage where
  q : List Pending := []
  dropped : UInt32 := 0
  fits : q.length ≤ EVENT_STAGE_CAP := by decide

def EventStage.put (st : EventStage) (record : EventRecord) (nowMs : UInt32) : EventStage :=
  if h : st.q.length < EVENT_STAGE_CAP then
    { st with
      q := st.q ++ [⟨record, nowMs⟩]
      fits := by rw [List.length_append, List.length_singleton]; exact h }
  else { st with dropped := if st.dropped < 0xFFFFFFFF then st.dropped + 1 else st.dropped }

/-- What one take is given: the clocks, and whether all must go. -/
structure TakeAt where
  nowEpochS : UInt32
  clockSet : Bool
  nowMs : UInt32
  force : Bool

def TakeAt.waits (at' : TakeAt) (p : Pending) : Bool :=
  !at'.clockSet && !at'.force && decide (at'.nowMs - p.atMs < EVENT_CLOCK_WAIT_MS)

/-- The entry with its time and its number. -/
def TakeAt.stamp (at' : TakeAt) (p : Pending) (seq : UInt32) : EventRecord :=
  let ageS := (at'.nowMs - p.atMs) / 1000
  { p.record with
    timeS := if at'.clockSet ∧ ageS < at'.nowEpochS then at'.nowEpochS - ageS else 0
    seq }

/-- Oldest first, up to the first that waits; what is taken and what stays. -/
def takeLoop (at' : TakeAt) : List Pending → Nat → UInt32 → List EventRecord × List Pending
  | [], _, _ => ([], [])
  | p :: q, 0, _ => ([], p :: q)
  | p :: q, cap + 1, nextSeq =>
      if at'.waits p then ([], p :: q)
      else
        let (out, rest) := takeLoop at' q cap (nextSeq + 1)
        (at'.stamp p nextSeq :: out, rest)

theorem takeLoop_length (at' : TakeAt) (q : List Pending) (cap : Nat) (nextSeq : UInt32) :
    (takeLoop at' q cap nextSeq).1.length + (takeLoop at' q cap nextSeq).2.length = q.length ∧
      (takeLoop at' q cap nextSeq).1.length ≤ cap := by
  induction q generalizing cap nextSeq with
  | nil => exact ⟨rfl, Nat.zero_le cap⟩
  | cons p q ih =>
      cases cap with
      | zero => exact ⟨Nat.zero_add _, Nat.le_refl 0⟩
      | succ cap =>
          have hrest := ih cap (nextSeq + 1)
          unfold takeLoop
          split
          · exact ⟨Nat.zero_add _, Nat.zero_le _⟩
          · simp only [List.length_cons]
            omega

theorem takeLoop_stays (at' : TakeAt) (q : List Pending) (cap : Nat) (nextSeq : UInt32) :
    (takeLoop at' q cap nextSeq).2.length ≤ q.length := by
  have hlen := takeLoop_length at' q cap nextSeq
  omega

/-- The entry that owns up to what was lost for want of room. -/
def lostEntry (at' : TakeAt) (dropped seq : UInt32) : EventRecord :=
  { kind := EventKind.eventsDropped.toByte
    a := dropped
    timeS := if at'.clockSet then at'.nowEpochS else 0
    seq }

def EventStage.take (st : EventStage) (at' : TakeAt) (nextSeq : UInt32) (cap : Nat) :
    List EventRecord × EventStage :=
  let loop := takeLoop at' st.q cap nextSeq
  have hfits : loop.2.length ≤ EVENT_STAGE_CAP :=
    Nat.le_trans (takeLoop_stays at' st.q cap nextSeq) st.fits
  if 0 < st.dropped ∧ loop.2.length = 0 ∧ loop.1.length < cap ∧
      (at'.clockSet ∨ at'.force ∨ 0 < loop.1.length) then
    (loop.1 ++ [lostEntry at' st.dropped (nextSeq + UInt32.ofNat loop.1.length)],
      { q := loop.2, dropped := 0, fits := hfits })
  else (loop.1, { q := loop.2, dropped := st.dropped, fits := hfits })

/-! ## §3. The damp table. -/

/-- One entry as it repeats; kind 0 = the slot is free. -/
structure EventDampSlot where
  a : UInt32 := 0
  b : UInt32 := 0
  windowStartS : UInt32 := 0
  lastS : UInt32 := 0
  board : UInt16 := 0
  written : UInt16 := 0
  unwritten : UInt16 := 0
  kind : UInt8 := 0
  detail : UInt8 := 0
  unit : UInt8 := 0
  deriving DecidableEq

abbrev EventDamp := Vector EventDampSlot EVENT_DAMP_SLOTS

def EventDampSlot.same (s : EventDampSlot) (r : EventRecord) : Bool :=
  s.kind == r.kind && s.detail == r.detail && s.board == r.board && s.unit == r.unit &&
    s.a == r.a && s.b == r.b

/-- The entry that says what a slot did not write, dated by the last of them. -/
def EventDampSlot.repeated (s : EventDampSlot) : EventRecord :=
  { kind := EventKind.repeated.toByte
    detail := s.kind
    board := s.board
    unit := s.unit
    a := s.unwritten.toUInt32
    b := s.detail.toUInt32
    timeS := s.lastS }

namespace EventDamp

def find (d : EventDamp) (r : EventRecord) : Option (Fin EVENT_DAMP_SLOTS) :=
  (List.finRange EVENT_DAMP_SLOTS).find? fun i => (d.get i).kind != 0 && (d.get i).same r

def roomFrom (d : EventDamp) : List (Fin EVENT_DAMP_SLOTS) → Fin EVENT_DAMP_SLOTS →
    Fin EVENT_DAMP_SLOTS
  | [], oldest => oldest
  | i :: rest, oldest =>
      if (d.get i).kind = 0 then i
      else
        roomFrom d rest
          (if (d.get i).windowStartS < (d.get oldest).windowStartS then i else oldest)

/-- A free slot, else the one whose window began first. -/
def room (d : EventDamp) : Fin EVENT_DAMP_SLOTS := roomFrom d (List.finRange EVENT_DAMP_SLOTS) 0

def inWindow (s : EventDampSlot) (nowS : UInt32) : Bool :=
  decide (s.windowStartS ≤ nowS) && decide (nowS - s.windowStartS < EVENT_DAMP_WINDOW_S)

/-- An admission's table, its Repeated entry if there is one, and whether the
entry is written. -/
structure Admitted where
  damp : EventDamp
  summary : Option EventRecord := none
  written : Bool

/-- The slot's window starts over with this entry. -/
def startOver (d : EventDamp) (i : Fin EVENT_DAMP_SLOTS) (r : EventRecord) : Admitted where
  damp := d.set i
    { kind := r.kind, detail := r.detail, board := r.board, unit := r.unit, a := r.a, b := r.b
      windowStartS := r.timeS, lastS := 0, written := 1, unwritten := 0 } i.isLt
  summary := if (d.get i).kind ≠ 0 ∧ 0 < (d.get i).unwritten then some (d.get i).repeated else none
  written := true

def admitEvent (d : EventDamp) (r : EventRecord) : Admitted :=
  if r.timeS = 0 ∨ r.kind = EventKind.repeated.toByte then { damp := d, written := true }
  else
    match d.find r with
    | some i =>
        if inWindow (d.get i) r.timeS then
          if (d.get i).written < EVENT_DAMP_BURST then
            { damp := d.set i { d.get i with written := (d.get i).written + 1 } i.isLt
              written := true }
          else
            { damp := d.set i
                { d.get i with
                  unwritten := if (d.get i).unwritten < 0xFFFF then (d.get i).unwritten + 1
                    else (d.get i).unwritten
                  lastS := r.timeS } i.isLt
              written := false }
        else startOver d i r
    | none => startOver d d.room r

def dueFrom (nowS : UInt32) : List (Fin EVENT_DAMP_SLOTS) → EventDamp → Nat →
    List EventRecord × EventDamp
  | [], d, _ => ([], d)
  | i :: rest, d, cap =>
      if (d.get i).kind = 0 ∨ nowS < (d.get i).windowStartS ∨
          nowS - (d.get i).windowStartS < EVENT_DAMP_WINDOW_S then dueFrom nowS rest d cap
      else if 0 < (d.get i).unwritten then
        match cap with
        | 0 => ([], d)
        | cap + 1 =>
            let (out, d') := dueFrom nowS rest (d.set i {} i.isLt) cap
            ((d.get i).repeated :: out, d')
      else dueFrom nowS rest (d.set i {} i.isLt) cap

/-- The Repeated entries of the windows that have passed; their slots are freed. -/
def due (d : EventDamp) (nowS : UInt32) (cap : Nat) : List EventRecord × EventDamp :=
  dueFrom nowS (List.finRange EVENT_DAMP_SLOTS) d cap

end EventDamp

/-! ## §4. The tick. -/

/-- A tick under way: its clock, the entries taken and not yet admitted, and
what is to be written. -/
structure Tick where
  nowS : UInt32
  clockSet : Bool
  due : List EventRecord
  toWrite : List EventRecord

structure EventLog where
  stage : EventStage := {}
  damp : EventDamp := Vector.replicate EVENT_DAMP_SLOTS {}
  nextSeq : UInt32 := 1
  lastTickMs : UInt32 := 0
  tick : Option Tick := none
  record : List EventRecord := []

/-- Numbered from the first free number. -/
def numbered (firstSeq : UInt32) : List EventRecord → List EventRecord
  | [] => []
  | r :: rest => { r with seq := firstSeq } :: numbered (firstSeq + 1) rest

def eventTake (s : EventLog) (at' : TakeAt) : EventLog :=
  let taken := s.stage.take at' s.nextSeq (EVENT_STAGE_CAP + 1)
  { s with
    lastTickMs := at'.nowMs
    stage := taken.2
    tick := some
      { nowS := at'.nowEpochS, clockSet := at'.clockSet, due := taken.1, toWrite := [] } }

/-- One turn of `dampTaken`'s loop. -/
def eventAdmit (s : EventLog) (t : Tick) (r : EventRecord) (rest : List EventRecord) : EventLog :=
  let admitted := s.damp.admitEvent r
  { s with
    damp := admitted.damp
    tick := some
      { t with
        due := rest
        toWrite := t.toWrite ++ admitted.summary.toList ++ if admitted.written then [r] else [] } }

/-- What a tick whose clock is set says of the windows that have passed. -/
def passed (s : EventLog) (t : Tick) : List EventRecord × EventDamp :=
  if t.clockSet then s.damp.due t.nowS EVENT_DAMP_SLOTS else ([], s.damp)

/-- The windows that have passed, and the append. -/
def eventWrite (s : EventLog) (t : Tick) : EventLog :=
  { s with
    damp := (passed s t).2
    nextSeq := s.nextSeq + UInt32.ofNat (t.toWrite ++ (passed s t).1).length
    tick := none
    record := s.record ++ numbered s.nextSeq (t.toWrite ++ (passed s t).1) }

inductive EventStep
  | put (record : EventRecord) (nowMs : UInt32)
  | take (at' : TakeAt)
  | admitEvent
  | write

def step (s : EventLog) : EventStep → Option EventLog
  | .put record nowMs => some { s with stage := s.stage.put record nowMs }
  | .take at' =>
      match s.tick with
      | some _ => none
      | none =>
          if !at'.force && decide (at'.nowMs - s.lastTickMs < EVENT_TICK_INTERVAL_MS) then some s
          else some (eventTake s at')
  | .admitEvent =>
      match s.tick with
      | some t =>
          match t.due with
          | r :: rest => some (eventAdmit s t r rest)
          | [] => none
      | none => none
  | .write =>
      match s.tick with
      | some t =>
          match t.due with
          | [] => some (eventWrite s t)
          | _ :: _ => none
      | none => none

/-! ## §5. A tick in one go. -/

/-- `dampTaken`'s loop. -/
def dampTaken : List EventRecord → EventDamp → List EventRecord × EventDamp
  | [], d => ([], d)
  | r :: rest, d =>
      let admitted := d.admitEvent r
      let (out, d') := dampTaken rest admitted.damp
      (admitted.summary.toList ++ (if admitted.written then [r] else []) ++ out, d')

def eventRecordTick (s : EventLog) (at' : TakeAt) : EventLog :=
  if !at'.force && decide (at'.nowMs - s.lastTickMs < EVENT_TICK_INTERVAL_MS) then s
  else
    let taken := s.stage.take at' s.nextSeq (EVENT_STAGE_CAP + 1)
    let damped := dampTaken taken.1 s.damp
    eventWrite { s with lastTickMs := at'.nowMs, stage := taken.2, damp := damped.2 }
      { nowS := at'.nowEpochS, clockSet := at'.clockSet, due := [], toWrite := damped.1 }

/-- The admissions of a tick are `dampTaken`'s loop. -/
theorem run_admits (s : EventLog) (t : Tick) (due : List EventRecord) :
    Machine.run step { s with tick := some { t with due } } (due.map fun _ => .admitEvent) =
      some { s with
        damp := (dampTaken due s.damp).2
        tick := some { t with due := [], toWrite := t.toWrite ++ (dampTaken due s.damp).1 } } := by
  induction due generalizing s t with
  | nil =>
      simp only [List.map_nil, Machine.run_nil, dampTaken, List.append_nil]
  | cons r rest ih =>
      rw [List.map_cons, Machine.run_cons]
      have hadmitted := ih (eventAdmit s t r rest)
        { t with toWrite := t.toWrite ++ (s.damp.admitEvent r).summary.toList ++
            if (s.damp.admitEvent r).written then [r] else [] }
      refine Eq.trans hadmitted ?_
      simp only [dampTaken, eventAdmit, List.append_assoc]

/-- A tick in one go is the run of its parts. -/
theorem eventRecordTick_run (s : EventLog) (at' : TakeAt) (hidle : s.tick = none) :
    ∃ parts, Machine.run step s (.take at' :: parts) = some (eventRecordTick s at') := by
  unfold eventRecordTick
  cases hgate : !at'.force && decide (at'.nowMs - s.lastTickMs < EVENT_TICK_INTERVAL_MS) with
  | true =>
      refine ⟨[], ?_⟩
      rw [Machine.run_cons]
      simp [step, hidle, hgate]
  | false =>
      let taken := s.stage.take at' s.nextSeq (EVENT_STAGE_CAP + 1)
      have hadmits := run_admits
        { s with lastTickMs := at'.nowMs, stage := taken.2 }
        { nowS := at'.nowEpochS, clockSet := at'.clockSet, due := [], toWrite := [] } taken.1
      refine ⟨taken.1.map (fun _ => .admitEvent) ++ [.write], ?_⟩
      have htake : step s (.take at') = some (eventTake s at') := by
        simp only [step, hidle, hgate, Bool.false_eq_true, if_false]
      rw [Machine.run_cons, htake, Option.bind_some, Machine.run_append]
      refine Eq.trans (congrArg (Option.bind · _) hadmits) ?_
      rfl

end SplitFlap.Record
