/-
  SplitFlap.Board.SelfRestart — when a row's board gives up on healing and restarts itself.

  `FollowerEscalation.h` restarts a board for a bus that stays dead and for a heap without a
  large block, at most once in six hours of uptime.  That uptime is counted by the minute in
  memory that a restart keeps and a power cycle does not.  What happened on a board is a list;
  `past` reads it and knows nothing of the record, the flags or the clock of 32 bits.

  Main result: `self_restarts`.
-/
import SplitFlap.Board.BusRecovery
import SplitFlap.Lib.Log

namespace SplitFlap.SelfRestart

open SplitFlap.Clock SplitFlap.Log SplitFlap.Machine
open BusRecovery (Call Watched isRead)

abbrev ESCALATION_BUS_DEAD_MS : UInt32 := 600000
abbrev ESCALATION_LOW_BLOCK_BYTES : UInt32 := 4096
abbrev ESCALATION_LOW_HEAP_LOG_MS : UInt32 := 60000
abbrev ESCALATION_LOW_HEAP_MS : UInt32 := 300000
abbrev ESCALATION_MIN_INTERVAL_MIN : UInt32 := 360
abbrev FOLLOWER_ESCALATION_MAGIC : UInt32 := 0x31435345
abbrev FOLLOWER_ESCALATION_CHECK_MASK : UInt32 := 0xA5C3A5C3

/-! ## §1. The record. -/

inductive EscalationCause where
  | none
  | busDead
  | lowHeap
  deriving DecidableEq

def EscalationCause.number : EscalationCause → UInt8
  | .none => 0
  | .busDead => 1
  | .lowHeap => 2

structure EscalationRecord where
  magic : UInt32 := 0
  minutesSince : UInt32 := 0
  countAndCause : UInt32 := 0
  check : UInt32 := 0
  deriving DecidableEq

def escalationRecordCheck (r : EscalationRecord) : UInt32 :=
  r.magic ^^^ r.minutesSince ^^^ r.countAndCause ^^^ FOLLOWER_ESCALATION_CHECK_MASK

def escalationRecordValid (r : EscalationRecord) : Bool :=
  r.magic = FOLLOWER_ESCALATION_MAGIC && r.check = escalationRecordCheck r

def escalationRecordSeal (r : EscalationRecord) : EscalationRecord :=
  let r := { r with magic := FOLLOWER_ESCALATION_MAGIC }
  { r with check := escalationRecordCheck r }

def escalationCount (r : EscalationRecord) : UInt32 :=
  if escalationRecordValid r then r.countAndCause >>> 8 else 0

def escalationLastCause (r : EscalationRecord) : UInt8 :=
  if escalationRecordValid r then (r.countAndCause &&& 0xFF).toUInt8 else 0

def escalationAllowed (r : EscalationRecord) : Bool :=
  if escalationCount r = 0 then true else r.minutesSince ≥ ESCALATION_MIN_INTERVAL_MIN

/-- A record that does not check out is taken for none. -/
def loaded (r : EscalationRecord) : EscalationRecord := if escalationRecordValid r then r else {}

def escalationRecordMinute (r : EscalationRecord) : EscalationRecord :=
  let r := loaded r
  escalationRecordSeal
    { r with
      minutesSince := if r.minutesSince < 0xFFFFFFFF then r.minutesSince + 1 else r.minutesSince }

def escalationRecordTaken (r : EscalationRecord) (cause : EscalationCause) : EscalationRecord :=
  let count := escalationCount r
  let count := if count < 0x00FFFFFF then count + 1 else count
  escalationRecordSeal
    { r with minutesSince := 0, countAndCause := (count <<< 8) ||| cause.number.toUInt32 }

/-! ## §2. The decision. -/

structure EscalationInput where
  nowMs : UInt32
  busDead : Bool
  busDeadSinceMs : UInt32
  unitsSeenThisBoot : Bool
  largestFreeBlock : UInt32

structure EscalationState where
  lowHeap : Bool := false
  lowHeapSinceMs : UInt32 := 0
  lowHeapLogged : Bool := false

structure EscalationVerdict where
  cause : EscalationCause
  logLowHeap : Bool

def heapFollowed (st : EscalationState) (input : EscalationInput) : EscalationState :=
  if input.largestFreeBlock ≥ ESCALATION_LOW_BLOCK_BYTES then
    { st with lowHeap := false, lowHeapLogged := false }
  else if st.lowHeap = false then { st with lowHeap := true, lowHeapSinceMs := input.nowMs }
  else st

/-- Has the heap been low for this long? -/
def lowFor (st : EscalationState) (nowMs ms : UInt32) : Bool :=
  st.lowHeap && ms ≤ nowMs - st.lowHeapSinceMs

def deadFor (input : EscalationInput) : Bool :=
  input.busDead && input.unitsSeenThisBoot &&
    ESCALATION_BUS_DEAD_MS ≤ input.nowMs - input.busDeadSinceMs

def escalationStep (st : EscalationState) (input : EscalationInput) :
    EscalationState × EscalationVerdict :=
  let st := heapFollowed st input
  let logLowHeap := !st.lowHeapLogged && lowFor st input.nowMs ESCALATION_LOW_HEAP_LOG_MS
  let cause :=
    if lowFor st input.nowMs ESCALATION_LOW_HEAP_MS then EscalationCause.lowHeap
    else if deadFor input then EscalationCause.busDead
    else EscalationCause.none
  ({ st with lowHeapLogged := st.lowHeapLogged || logLowHeap }, { cause, logLowHeap })

/-! ## §3. A board. -/

/-- What a pass of the loop finds: has a unit been detected, how large is the largest free block,
has somebody asked for a restart, is this the rescue beacon? -/
structure Look where
  units : Bool
  block : UInt32
  asked : Bool
  rescue : Bool

/-- What happened on a board.  A boot comes with what the RTC memory holds if the power was off. -/
inductive Happening where
  | boot (memory : Option EscalationRecord)
  | report (cause : UInt8) (count : UInt32)
  | goodRead (now : Nat)
  | busDead (now : Nat)
  | look (now : Nat) (found : Look)
  | lowMemory (now : Nat)
  | restart (uptime now : Nat) (cause : EscalationCause) (found : Look)

/-- `ranBefore` is the time of the boots before, and `story` is read by no function. -/
structure Board where
  rtc : EscalationRecord := {}
  escalationRecord : EscalationRecord := {}
  escalationState : EscalationState := {}
  nextStepMs : UInt32 := 0
  nextMinuteMs : UInt32 := 60000
  unitsSeen : Bool := false
  isPendingReboot : Bool := false
  bus : Watched := {}
  ranBefore : Nat := 0
  story : List Happening := []

inductive Event where
  | boot (memory : Option EscalationRecord)
  | bus (call : Call)
  | pass (found : Look)

namespace Board

/-- What the boot puts into the row's events. -/
def reports (r : EscalationRecord) : List Happening :=
  if escalationCount r > 0 ∧ r.minutesSince = 0 then
    [.report (escalationLastCause r) (escalationCount r)]
  else []

/-- A reset or a power cycle, and `escalationBootInit`. -/
def escalationBootInit (memory : Option EscalationRecord) (s : Board) : Board :=
  let rtc := memory.getD s.rtc
  { rtc
    escalationRecord := loaded rtc
    ranBefore := s.ranBefore + s.bus.now
    story := s.story ++ .boot memory :: reports (loaded rtc) }

def isGoodRead : Call → Bool
  | .observe unitIndex ok rowWidth => ok && isRead unitIndex rowWidth
  | _ => false

/-- What a call on the bus says of the row. -/
def busStory (before : Watched) (call : Call) (after : Watched) : List Happening :=
  if isGoodRead call then [.goodRead after.now]
  else if after.s.dead && !before.s.dead then [.busDead after.now]
  else []

def busCall (call : Call) (s : Board) : Option Board :=
  (s.bus.step call).map fun bus =>
    { s with bus, story := s.story ++ busStory s.bus call bus }

def minute (s : Board) : Board :=
  if reached (reading s.bus.now) s.nextMinuteMs then
    { s with
      nextMinuteMs := reading s.bus.now + 60000
      escalationRecord := escalationRecordMinute s.escalationRecord
      rtc := escalationRecordMinute s.escalationRecord }
  else s

def input (s : Board) (found : Look) : EscalationInput where
  nowMs := reading s.bus.now
  busDead := s.bus.s.dead
  busDeadSinceMs := s.bus.s.deadSinceMs
  unitsSeenThisBoot := s.unitsSeen || found.units
  largestFreeBlock := found.block

def warning (s : Board) (logLowHeap : Bool) : List Happening :=
  if logLowHeap then [.lowMemory s.bus.now] else []

def looked (found : Look) (s : Board) : Board :=
  let step := escalationStep s.escalationState (s.input found)
  { s with
    nextStepMs := reading s.bus.now + 1000
    unitsSeen := s.unitsSeen || found.units
    escalationState := step.1
    story := s.story ++ .look s.bus.now found :: s.warning step.2.logLowHeap }

def decided (cause : EscalationCause) (found : Look) (s : Board) : Board :=
  if cause = .none then s
  else if s.isPendingReboot || found.rescue then s
  else if !escalationAllowed s.escalationRecord then s
  else
    { s with
      escalationRecord := escalationRecordTaken s.escalationRecord cause
      rtc := escalationRecordTaken s.escalationRecord cause
      isPendingReboot := true
      story := s.story ++ [.restart (s.ranBefore + s.bus.now) s.bus.now cause found] }

def escalationTick (found : Look) (s : Board) : Board :=
  let s := s.minute
  if reached (reading s.bus.now) s.nextStepMs then
    (s.looked found).decided (escalationStep s.escalationState (s.input found)).2.cause found
  else s

/-- A pass that begins with a restart asked for takes it. -/
def pass (found : Look) (s : Board) : Option Board :=
  if s.isPendingReboot then none
  else some ({ s with isPendingReboot := found.asked }.escalationTick found)

def step (s : Board) : Event → Option Board
  | .boot memory => some (s.escalationBootInit memory)
  | .bus call => s.busCall call
  | .pass found => s.pass found

/-- A board that is switched on. -/
def start (memory : EscalationRecord) : Board := escalationBootInit (some memory) {}

end Board

/-! ## §4. What a story says. -/

/-- This boot's part, and what is left of the boots before: the self-restarts since the record
was lost, the last one's cause and its uptime.  `warned`: low memory is known. -/
structure Past where
  thisBoot : List Happening := []
  restarts : Nat := 0
  lastCause : UInt8 := 0
  restartedAt : Option Nat := none
  warned : Bool := false

def Past.boot (p : Past) : Option EscalationRecord → Past
  | none => { p with thisBoot := [], warned := false }
  | some memory =>
      { restarts := (escalationCount memory).toNat, lastCause := escalationLastCause memory }

def Past.after (p : Past) (h : Happening) : Past :=
  match h with
  | .boot memory => p.boot memory
  | .report _ _ | .goodRead _ | .busDead _ => { p with thisBoot := p.thisBoot ++ [h] }
  | .look _ found =>
      { p with
        thisBoot := p.thisBoot ++ [h]
        warned := p.warned && found.block < ESCALATION_LOW_BLOCK_BYTES }
  | .lowMemory _ => { p with thisBoot := p.thisBoot ++ [h], warned := true }
  | .restart uptime _ cause _ =>
      { p with
        thisBoot := p.thisBoot ++ [h]
        restarts := min (p.restarts + 1) 0xFFFFFF
        lastCause := cause.number
        restartedAt := some uptime }

def past (story : List Happening) : Past := story.foldl Past.after {}

theorem past_snoc (story : List Happening) (h : Happening) :
    past (story ++ [h]) = (past story).after h := by
  unfold past
  rw [List.foldl_append]
  rfl

def Happening.isRestart : Happening → Bool
  | .restart _ _ _ _ => true
  | _ => false

/-- A happening within a boot that restarts nothing. -/
def Happening.isMinor : Happening → Bool
  | .boot _ | .restart _ _ _ _ => false
  | _ => true

/-- What minor happenings leave of a past, all but `warned`. -/
structure Past.Continues (p : Past) (more : List Happening) (q : Past) : Prop where
  thisBoot : q.thisBoot = p.thisBoot ++ more
  restarts : q.restarts = p.restarts
  lastCause : q.lastCause = p.lastCause
  restartedAt : q.restartedAt = p.restartedAt

theorem Past.after_continues (p : Past) {h : Happening} (hminor : h.isMinor = true) :
    p.Continues [h] (p.after h) := by
  cases h with
  | boot memory => cases hminor
  | restart uptime now cause found => cases hminor
  | report cause count => exact ⟨rfl, rfl, rfl, rfl⟩
  | goodRead now => exact ⟨rfl, rfl, rfl, rfl⟩
  | busDead now => exact ⟨rfl, rfl, rfl, rfl⟩
  | look now found => exact ⟨rfl, rfl, rfl, rfl⟩
  | lowMemory now => exact ⟨rfl, rfl, rfl, rfl⟩

theorem past_continues (story more : List Happening) (hminor : ∀ h ∈ more, h.isMinor = true) :
    (past story).Continues more (past (story ++ more)) := by
  induction more generalizing story with
  | nil =>
      rw [List.append_nil]
      exact ⟨(List.append_nil _).symm, rfl, rfl, rfl⟩
  | cons h more ih =>
      have hone := (past story).after_continues (hminor h List.mem_cons_self)
      have hmore := ih (story ++ [h]) fun h' hmem => hminor h' (List.mem_cons_of_mem _ hmem)
      rw [past_snoc, List.append_assoc, List.singleton_append] at hmore
      refine ⟨?_, hmore.restarts.trans hone.restarts, hmore.lastCause.trans hone.lastCause,
        hmore.restartedAt.trans hone.restartedAt⟩
      rw [hmore.thisBoot, hone.thisBoot, List.append_assoc, List.singleton_append]

/-- The looks of this boot: the largest free block has been low for `ms`. -/
structure Past.HeapLow (p : Past) (ms now : Nat) : Prop where
  seen : ∃ t found, .look t found ∈ p.thisBoot ∧ found.block < ESCALATION_LOW_BLOCK_BYTES ∧
    t + ms ≤ now
  throughout : ∀ t found, .look t found ∈ p.thisBoot →
    ESCALATION_LOW_BLOCK_BYTES ≤ found.block → t + ms ≤ now

/-- The bus has been dead for `ms`, on a row that has had units answer this boot. -/
structure Past.BusDead (p : Past) (ms now : Nat) : Prop where
  seen : ∃ t, .busDead t ∈ p.thisBoot ∧ t + ms ≤ now
  throughout : ∀ t, .goodRead t ∈ p.thisBoot → t + ms ≤ now
  units : ∃ t found, .look t found ∈ p.thisBoot ∧ found.units = true

/-- A self-restart as it may be. -/
structure Past.MayRestart (p : Past) (uptime now : Nat) (cause : EscalationCause) (found : Look) :
    Prop where
  apart : ∀ before, p.restartedAt = some before → before + 6 * 60 * 60 * 1000 ≤ uptime
  once : ∀ h ∈ p.thisBoot, h.isRestart = false
  stays : found.asked = false ∧ found.rescue = false
  cause : (cause = .lowHeap ∧ p.HeapLow (5 * 60 * 1000) now) ∨
    (cause = .busDead ∧ p.BusDead (10 * 60 * 1000) now)

/-- What a happening says of what was before it. -/
def Happening.Fits (before : List Happening) : Happening → Prop
  | .report cause count =>
      count.toNat = (past before).restarts ∧ cause = (past before).lastCause ∧ 0 < count
  | .lowMemory now => (past before).warned = false ∧ (past before).HeapLow (60 * 1000) now
  | .restart uptime now cause found => (past before).MayRestart uptime now cause found
  | .boot _ | .goodRead _ | .busDead _ | .look _ _ => True

/-! ## §5. The record's parts. -/

theorem escalationRecordValid_seal (r : EscalationRecord) :
    escalationRecordValid (escalationRecordSeal r) = true := by
  simp [escalationRecordValid, escalationRecordSeal, escalationRecordCheck]

theorem loaded_seal (r : EscalationRecord) :
    loaded (escalationRecordSeal r) = escalationRecordSeal r :=
  if_pos (escalationRecordValid_seal r)

theorem loaded_loaded (r : EscalationRecord) : loaded (loaded r) = loaded r := by
  by_cases hvalid : escalationRecordValid r = true
  · rw [show loaded r = r from if_pos hvalid, show loaded r = r from if_pos hvalid]
  · rw [show loaded r = {} from if_neg hvalid]
    rfl

@[simp] theorem escalationCount_loaded (r : EscalationRecord) :
    escalationCount (loaded r) = escalationCount r := by
  by_cases hvalid : escalationRecordValid r = true
  · rw [show loaded r = r from if_pos hvalid]
  · rw [show loaded r = {} from if_neg hvalid, escalationCount, escalationCount, if_neg hvalid]
    rfl

@[simp] theorem escalationLastCause_loaded (r : EscalationRecord) :
    escalationLastCause (loaded r) = escalationLastCause r := by
  by_cases hvalid : escalationRecordValid r = true
  · rw [show loaded r = r from if_pos hvalid]
  · rw [show loaded r = {} from if_neg hvalid, escalationLastCause, escalationLastCause,
      if_neg hvalid]
    rfl

theorem escalationCount_seal (r : EscalationRecord) :
    escalationCount (escalationRecordSeal r) = r.countAndCause >>> 8 :=
  if_pos (escalationRecordValid_seal r)

theorem escalationLastCause_seal (r : EscalationRecord) :
    escalationLastCause (escalationRecordSeal r) = (r.countAndCause &&& 0xFF).toUInt8 :=
  if_pos (escalationRecordValid_seal r)

theorem countAndCause_loaded (r : EscalationRecord) :
    (loaded r).countAndCause >>> 8 = escalationCount r ∧
      ((loaded r).countAndCause &&& 0xFF).toUInt8 = escalationLastCause r := by
  by_cases hvalid : escalationRecordValid r = true
  · rw [show loaded r = r from if_pos hvalid, escalationCount, escalationLastCause,
      if_pos hvalid, if_pos hvalid]
    exact ⟨rfl, rfl⟩
  · rw [show loaded r = {} from if_neg hvalid, escalationCount, escalationLastCause,
      if_neg hvalid, if_neg hvalid]
    exact ⟨rfl, rfl⟩

/-- What a minute leaves of the record. -/
theorem escalationRecordMinute_counts (r : EscalationRecord) :
    escalationCount (escalationRecordMinute r) = escalationCount r ∧
      escalationLastCause (escalationRecordMinute r) = escalationLastCause r ∧
      (escalationRecordMinute r).minutesSince.toNat ≤ (loaded r).minutesSince.toNat + 1 := by
  refine ⟨?_, ?_, ?_⟩
  · unfold escalationRecordMinute
    rw [escalationCount_seal]
    exact (countAndCause_loaded r).1
  · unfold escalationRecordMinute
    rw [escalationLastCause_seal]
    exact (countAndCause_loaded r).2
  · show (if (loaded r).minutesSince < 0xFFFFFFFF then (loaded r).minutesSince + 1
      else (loaded r).minutesSince).toNat ≤ _
    split
    · rw [UInt32.toNat_add]
      exact Nat.mod_le _ _
    · exact Nat.le_succ _

theorem escalationCount_lt (r : EscalationRecord) : (escalationCount r).toNat < 2 ^ 24 := by
  unfold escalationCount
  split
  · have hword := r.countAndCause.toNat_lt
    rw [UInt32.toNat_shiftRight]
    show r.countAndCause.toNat >>> 8 < _
    rw [Nat.shiftRight_eq_div_pow]
    omega
  · decide

theorem packed_count {count : UInt32} (h : count.toNat < 2 ^ 24) (cause : UInt8) :
    ((count <<< 8) ||| cause.toUInt32) >>> 8 = count := by
  have hcause := cause.toNat_lt
  apply UInt32.toNat_inj.mp
  rw [UInt32.toNat_shiftRight, UInt32.toNat_or, UInt32.toNat_shiftLeft]
  show (count.toNat <<< 8 % 2 ^ 32 ||| cause.toNat) >>> 8 = count.toNat
  rw [Nat.shiftRight_or_distrib, Nat.shiftLeft_eq, Nat.shiftRight_eq_div_pow,
    Nat.shiftRight_eq_div_pow, Nat.mod_eq_of_lt (by omega), Nat.div_eq_of_lt hcause, Nat.or_zero]
  omega

theorem packed_cause (count : UInt32) (cause : UInt8) :
    (((count <<< 8) ||| cause.toUInt32) &&& 0xFF).toUInt8 = cause := by
  have hcause := cause.toNat_lt
  apply UInt8.toNat_inj.mp
  rw [UInt32.toNat_toUInt8, UInt32.toNat_and, UInt32.toNat_or, UInt32.toNat_shiftLeft]
  show ((count.toNat <<< 8 % 2 ^ 32 ||| cause.toNat) &&& (2 ^ 8 - 1)) % 2 ^ 8 = cause.toNat
  rw [Nat.and_two_pow_sub_one_eq_mod, Nat.mod_mod, Nat.or_mod_two_pow, Nat.shiftLeft_eq]
  have hzero : count.toNat * 2 ^ 8 % 2 ^ 32 % 2 ^ 8 = 0 := by omega
  rw [hzero, Nat.zero_or, Nat.mod_eq_of_lt hcause]

/-- What a self-restart leaves of the record. -/
theorem escalationRecordTaken_counts (r : EscalationRecord) (cause : EscalationCause) :
    (escalationCount (escalationRecordTaken r cause)).toNat =
        min ((escalationCount r).toNat + 1) 0xFFFFFF ∧
      escalationLastCause (escalationRecordTaken r cause) = cause.number ∧
      (escalationRecordTaken r cause).minutesSince = 0 := by
  have hcount := escalationCount_lt r
  have hbumped : (if escalationCount r < 0x00FFFFFF then escalationCount r + 1
      else escalationCount r).toNat = min ((escalationCount r).toNat + 1) 0xFFFFFF := by
    have hone : (1 : UInt32).toNat = 1 := rfl
    split
    · next hless =>
        have hless : (escalationCount r).toNat < 0xFFFFFF := UInt32.lt_iff_toNat_lt.mp hless
        rw [UInt32.toNat_add, hone]
        omega
    · next hfull =>
        have hfull : ¬(escalationCount r).toNat < 0xFFFFFF := fun h =>
          hfull (UInt32.lt_iff_toNat_lt.mpr h)
        omega
  refine ⟨?_, ?_, rfl⟩
  · unfold escalationRecordTaken
    rw [escalationCount_seal, packed_count (by omega), hbumped]
  · unfold escalationRecordTaken
    rw [escalationLastCause_seal, packed_cause]

theorem escalationAllowed_minutes {r : EscalationRecord} (h : escalationAllowed r = true)
    (hcount : escalationCount r ≠ 0) : 360 ≤ r.minutesSince.toNat := by
  unfold escalationAllowed at h
  rw [if_neg hcount, decide_eq_true_eq] at h
  exact UInt32.le_iff_toNat_le.mp h

/-! ## §6. The record and the uptime. -/

def Past.restarted (p : Past) : Bool := p.thisBoot.any Happening.isRestart

theorem restarted_continues {p q : Past} {more : List Happening} (h : p.Continues more q)
    (hminor : ∀ h ∈ more, h.isMinor = true) : q.restarted = p.restarted := by
  have hnone : more.any Happening.isRestart = false := by
    rw [List.any_eq_false]
    intro h hmem hrestart
    have hthis := hminor h hmem
    cases h <;> simp_all [Happening.isRestart, Happening.isMinor]
  rw [Past.restarted, Past.restarted, h.thisBoot, List.any_append, hnone, Bool.or_false]

/-- The minutes of the record have passed by `m`, a time of this boot. -/
def Since (s : Board) (m : Nat) : Prop :=
  ∀ before, (past s.story).restartedAt = some before →
    escalationCount s.escalationRecord ≠ 0 ∧
      before + 60000 * s.escalationRecord.minutesSince.toNat ≤ s.ranBefore + m

/-- The record holds what the story says, and its minutes are minutes of uptime. -/
structure Counts (s : Board) : Prop where
  kept : s.escalationRecord = loaded s.rtc
  restarts : (escalationCount s.escalationRecord).toNat = (past s.story).restarts
  lastCause : escalationLastCause s.escalationRecord = (past s.story).lastCause
  since : Since s s.bus.now
  minute : (past s.story).restarted = false →
    ∃ m, m ≤ s.bus.now ∧ s.nextMinuteMs = reading m + 60000 ∧ Since s m
  pending : (past s.story).restarted = true → s.isPendingReboot = true

variable {s s' : Board}

/-- What touches neither the record nor its clock. -/
theorem Counts.continues (h : Counts s) {more : List Happening}
    (hminor : ∀ h ∈ more, h.isMinor = true) (hstory : s'.story = s.story ++ more)
    (hrecord : s'.escalationRecord = s.escalationRecord) (hrtc : s'.rtc = s.rtc)
    (hran : s'.ranBefore = s.ranBefore) (hminute : s'.nextMinuteMs = s.nextMinuteMs)
    (hnow : s.bus.now ≤ s'.bus.now)
    (hpending : s.isPendingReboot = true → s'.isPendingReboot = true) : Counts s' := by
  have hpast := past_continues s.story more hminor
  rw [← hstory] at hpast
  have hrestarted := restarted_continues hpast hminor
  have hsince : ∀ m, Since s m → ∀ m', m ≤ m' → Since s' m' := by
    intro m hm m' hle before hbefore
    rw [hpast.restartedAt] at hbefore
    rw [hrecord, hran]
    obtain ⟨hcount, hle'⟩ := hm before hbefore
    exact ⟨hcount, by omega⟩
  refine ⟨?_, ?_, ?_, hsince _ h.since _ hnow, ?_, ?_⟩
  · rw [hrecord, hrtc, h.kept]
  · rw [hrecord, hpast.restarts, h.restarts]
  · rw [hrecord, hpast.lastCause, h.lastCause]
  · intro hno
    rw [hrestarted] at hno
    obtain ⟨m, hm, hnext, hthen⟩ := h.minute hno
    exact ⟨m, Nat.le_trans hm hnow, hminute.trans hnext, hsince m hthen m (Nat.le_refl m)⟩
  · intro hyes
    rw [hrestarted] at hyes
    exact hpending (h.pending hyes)

/-- A minute of the record is a minute of uptime. -/
theorem Counts.minuteTick (h : Counts s) (hno : (past s.story).restarted = false) :
    Counts s.minute := by
  unfold Board.minute
  split
  · next hreached =>
      obtain ⟨m, hm, hnext, hthen⟩ := h.minute hno
      rw [hnext] at hreached
      have hpassed : m + 60000 ≤ s.bus.now := reached_passed hm (by decide) hreached
      obtain ⟨hcount, hcause, hminutes⟩ := escalationRecordMinute_counts s.escalationRecord
      rw [show loaded s.escalationRecord = s.escalationRecord by
        rw [h.kept, loaded_loaded]] at hminutes
      have hsince : ∀ before, (past s.story).restartedAt = some before →
          escalationCount (escalationRecordMinute s.escalationRecord) ≠ 0 ∧
            before + 60000 * (escalationRecordMinute s.escalationRecord).minutesSince.toNat ≤
              s.ranBefore + s.bus.now := by
        intro before hbefore
        obtain ⟨hsome, hle⟩ := hthen before hbefore
        rw [hcount]
        exact ⟨hsome, by omega⟩
      exact
        { kept := (loaded_seal _).symm
          restarts := (congrArg UInt32.toNat hcount).trans h.restarts
          lastCause := hcause.trans h.lastCause
          since := hsince
          minute := fun _ => ⟨s.bus.now, Nat.le_refl _, rfl, hsince⟩
          pending := h.pending }
  · exact h

theorem past_boot (story : List Happening) (memory : Option EscalationRecord)
    (r : EscalationRecord) :
    ((past story).boot memory).Continues (Board.reports r)
      (past (story ++ .boot memory :: Board.reports r)) := by
  have hminor : ∀ h ∈ Board.reports r, h.isMinor = true := by
    intro h hmem
    unfold Board.reports at hmem
    split at hmem
    · rw [List.mem_singleton.mp hmem]
      rfl
    · cases hmem
  have hpast := past_continues (story ++ [.boot memory]) (Board.reports r) hminor
  rw [past_snoc, List.append_assoc, List.singleton_append] at hpast
  exact hpast

theorem restarted_boot (story : List Happening) (memory : Option EscalationRecord)
    (r : EscalationRecord) :
    (past (story ++ .boot memory :: Board.reports r)).restarted = false := by
  have hfresh : ((past story).boot memory).thisBoot = [] := by
    cases memory <;> rfl
  rw [Past.restarted, (past_boot story memory r).thisBoot, hfresh, List.nil_append]
  unfold Board.reports
  split <;> rfl

theorem Counts.boot (h : Counts s) (memory : Option EscalationRecord) :
    Counts (s.escalationBootInit memory) := by
  have hpast := past_boot s.story memory (loaded (memory.getD s.rtc))
  have hfresh := restarted_boot s.story memory (loaded (memory.getD s.rtc))
  have hsince : Since (s.escalationBootInit memory) 0 := by
    intro before hbefore
    have hbefore := hpast.restartedAt.symm.trans hbefore
    cases memory with
    | none =>
        obtain ⟨hcount, hle⟩ := h.since before hbefore
        show escalationCount (loaded s.rtc) ≠ 0 ∧
          before + 60000 * (loaded s.rtc).minutesSince.toNat ≤ s.ranBefore + s.bus.now + 0
        rw [← h.kept]
        exact ⟨hcount, hle⟩
    | some memory => cases hbefore
  have hkept : loaded s.rtc = s.escalationRecord := h.kept.symm
  refine ⟨rfl, ?_, ?_, hsince, fun _ => ⟨0, Nat.le_refl 0, rfl, hsince⟩, ?_⟩
  · refine Eq.trans ?_ hpast.restarts.symm
    cases memory with
    | none =>
        show (escalationCount (loaded s.rtc)).toNat = (past s.story).restarts
        rw [hkept, h.restarts]
    | some memory => exact congrArg UInt32.toNat (escalationCount_loaded memory)
  · refine Eq.trans ?_ hpast.lastCause.symm
    cases memory with
    | none =>
        show escalationLastCause (loaded s.rtc) = (past s.story).lastCause
        rw [hkept, h.lastCause]
    | some memory => exact escalationLastCause_loaded memory
  · intro hyes
    have hno := hfresh.symm.trans hyes
    cases hno

theorem Counts.restart (h : Counts s) {cause : EscalationCause} {found : Look} :
    Counts
      { s with
        escalationRecord := escalationRecordTaken s.escalationRecord cause
        rtc := escalationRecordTaken s.escalationRecord cause
        isPendingReboot := true
        story := s.story ++ [.restart (s.ranBefore + s.bus.now) s.bus.now cause found] } := by
  obtain ⟨hcount, hcause, hminutes⟩ := escalationRecordTaken_counts s.escalationRecord cause
  have hpast := past_snoc s.story (.restart (s.ranBefore + s.bus.now) s.bus.now cause found)
  refine ⟨(loaded_seal _).symm, ?_, ?_, ?_, ?_, fun _ => rfl⟩
  · show (escalationCount (escalationRecordTaken s.escalationRecord cause)).toNat = _
    rw [hpast, hcount, h.restarts]
    rfl
  · show escalationLastCause (escalationRecordTaken s.escalationRecord cause) = _
    rw [hpast, hcause]
    rfl
  · intro before hbefore
    have hnow : s.ranBefore + s.bus.now = before := by
      have hat := (congrArg Past.restartedAt hpast).symm.trans hbefore
      exact Option.some.inj hat
    refine ⟨?_, ?_⟩
    · intro hzero
      have hzero : escalationCount (escalationRecordTaken s.escalationRecord cause) = 0 := hzero
      rw [hzero] at hcount
      have hnone : (0 : UInt32).toNat = 0 := rfl
      omega
    · show before + 60000 * (escalationRecordTaken s.escalationRecord cause).minutesSince.toNat ≤
        s.ranBefore + s.bus.now
      rw [hminutes, hnow]
      exact Nat.le_refl _
  · intro hno
    have hyes : ((past s.story).after
        (.restart (s.ranBefore + s.bus.now) s.bus.now cause found)).restarted = true := by
      show (List.any (_ ++ [_]) _) = true
      rw [List.any_append, List.any_cons]
      exact Bool.or_true _
    have hno := (congrArg Past.restarted hpast).symm.trans hno
    rw [hyes] at hno
    cases hno

/-! ## §7. What the board has seen in this boot. -/

/-- The heap's part of the policy, beside the looks. -/
structure HeapSeen (st : EscalationState) (p : Past) (now : Nat) : Prop where
  earlier : ∀ t found, .look t found ∈ p.thisBoot → t ≤ now
  low : st.lowHeap = true → ∃ t₀, t₀ ≤ now ∧ st.lowHeapSinceMs = reading t₀ ∧
    (∃ found, .look t₀ found ∈ p.thisBoot ∧ found.block < ESCALATION_LOW_BLOCK_BYTES) ∧
    ∀ t found, .look t found ∈ p.thisBoot → ESCALATION_LOW_BLOCK_BYTES ≤ found.block → t ≤ t₀
  warned : st.lowHeapLogged = p.warned

/-- The bus, as the recovery has it, beside the reads. -/
structure BusSeen (w : Watched) (p : Past) : Prop where
  earlier : ∀ t, .goodRead t ∈ p.thisBoot → t ≤ w.now
  dead : w.s.dead = true → ∃ d, d ≤ w.now ∧ w.s.deadSinceMs = reading d ∧
    .busDead d ∈ p.thisBoot ∧ ∀ t, .goodRead t ∈ p.thisBoot → t ≤ d

structure Sees (s : Board) : Prop where
  heap : HeapSeen s.escalationState (past s.story) s.bus.now
  bus : BusSeen s.bus (past s.story)
  units : s.unitsSeen = true → ∃ t found, .look t found ∈ (past s.story).thisBoot ∧
    found.units = true

/-- A call on the bus, and the row's death. -/
structure DeadStep (w : Watched) (call : Call) (w' : Watched) : Prop where
  now : w.now ≤ w'.now
  good : Board.isGoodRead call = true → w'.s.dead = false
  since : w'.s.dead = true →
    w.s.dead = true ∧ w'.s.deadSinceMs = w.s.deadSinceMs ∨
      w.s.dead = false ∧ w'.s.deadSinceMs = reading w'.now

theorem observe_deadStep (w : Watched) (unitIndex : Int) (ok : Bool) (rowWidth : Int) :
    DeadStep w (.observe unitIndex ok rowWidth) (w.observe unitIndex ok rowWidth) := by
  unfold Watched.observe BusRecovery.busRecoveryObserve
  cases hread : isRead unitIndex rowWidth with
  | false =>
      refine ⟨Nat.le_refl _, ?_, fun hdead => Or.inl ⟨hdead, rfl⟩⟩
      intro hgood
      rw [Board.isGoodRead, hread, Bool.and_false] at hgood
      cases hgood
  | true =>
      cases ok with
      | true =>
          have hfalse : (BusRecovery.observeGood w.s (reading w.now)).1.dead = false := by
            unfold BusRecovery.observeGood
            dsimp only
            split
            · assumption
            · rfl
          refine ⟨Nat.le_refl _, fun _ => hfalse, ?_⟩
          intro hdead
          have hdead := hfalse.symm.trans hdead
          cases hdead
      | false =>
          refine ⟨Nat.le_refl _, fun hgood => (by cases hgood), ?_⟩
          intro hdead
          show w.s.dead = true ∧
              (BusRecovery.observeBad w.s unitIndex (reading w.now) rowWidth).1.deadSinceMs = _ ∨
            w.s.dead = false ∧
              (BusRecovery.observeBad w.s unitIndex (reading w.now) rowWidth).1.deadSinceMs = _
          have hdead : (BusRecovery.observeBad w.s unitIndex (reading w.now) rowWidth).1.dead =
            true := hdead
          unfold BusRecovery.observeBad at hdead ⊢
          dsimp only at hdead ⊢
          split at hdead
          · next hwas =>
              rw [if_pos hwas]
              exact Or.inl ⟨hwas, rfl⟩
          · next hwas =>
              split at hdead
              · exact absurd hdead hwas
              · next hmany =>
                  rw [if_neg hwas, if_neg hmany]
                  exact Or.inr ⟨Bool.eq_false_iff.mpr hwas, rfl⟩

theorem step_deadStep {w w' : Watched} {call : Call} (hstep : w.step call = some w') :
    DeadStep w call w' := by
  cases call with
  | observe unitIndex ok rowWidth =>
      rw [← Option.some.inj hstep]
      exact observe_deadStep w unitIndex ok rowWidth
  | noteEmptyRow =>
      rw [← Option.some.inj hstep]
      refine ⟨Nat.le_refl _, fun hgood => (by cases hgood), ?_⟩
      show (BusRecovery.busRecoveryNoteEmptyRow w.s (reading w.now)).dead = true → _
      unfold BusRecovery.busRecoveryNoteEmptyRow
      intro _
      by_cases hdead : w.s.dead = true
      · rw [if_pos hdead]
        exact Or.inl ⟨hdead, rfl⟩
      · rw [if_neg hdead]
        exact Or.inr ⟨Bool.eq_false_iff.mpr hdead, rfl⟩
  | noteReprobe unitsFound =>
      rw [← Option.some.inj hstep]
      exact ⟨Nat.le_refl _, fun hgood => (by cases hgood), fun hdead => Or.inl ⟨hdead, rfl⟩⟩
  | noteAttempt wireStatus =>
      obtain ⟨_, hs⟩ := Option.ite_none_right_eq_some.mp hstep
      rw [← Option.some.inj hs]
      exact ⟨Nat.le_refl _, fun hgood => (by cases hgood), fun hdead => Or.inl ⟨hdead, rfl⟩⟩
  | wait ms =>
      rw [← Option.some.inj hstep]
      exact ⟨Nat.le_add_right _ _, fun hgood => (by cases hgood),
        fun hdead => Or.inl ⟨hdead, rfl⟩⟩

theorem busStory_minor (before : Watched) (call : Call) (after : Watched) :
    ∀ h ∈ Board.busStory before call after, h.isMinor = true := by
  intro h hmem
  unfold Board.busStory at hmem
  split at hmem
  · rw [List.mem_singleton.mp hmem]
    rfl
  · split at hmem
    · rw [List.mem_singleton.mp hmem]
      rfl
    · cases hmem

/-- A happening that is no look leaves the heap's part alone. -/
theorem HeapSeen.keeps {st : EscalationState} {p q : Past} {now now' : Nat}
    (h : HeapSeen st p now) (hnow : now ≤ now')
    (hlooks : ∀ t found, .look t found ∈ q.thisBoot ↔ .look t found ∈ p.thisBoot)
    (hwarned : q.warned = p.warned) : HeapSeen st q now' := by
  refine ⟨?_, ?_, h.warned.trans hwarned.symm⟩
  · intro t found hmem
    exact Nat.le_trans (h.earlier t found ((hlooks t found).mp hmem)) hnow
  · intro hlow
    obtain ⟨t₀, hle, hsince, ⟨found, hmem, hblock⟩, hhigh⟩ := h.low hlow
    refine ⟨t₀, Nat.le_trans hle hnow, hsince, ⟨found, (hlooks t₀ found).mpr hmem, hblock⟩, ?_⟩
    intro t found hmem
    exact hhigh t found ((hlooks t found).mp hmem)

theorem busStory_past (story : List Happening) (before : Watched) (call : Call) (after : Watched) :
    (past (story ++ Board.busStory before call after)).warned = (past story).warned ∧
      ∀ t found, .look t found ∉ Board.busStory before call after := by
  unfold Board.busStory
  split
  · rw [past_snoc]
    exact ⟨rfl, by simp⟩
  · split
    · rw [past_snoc]
      exact ⟨rfl, by simp⟩
    · rw [List.append_nil]
      exact ⟨rfl, by simp⟩

theorem BusSeen.call {w w' : Watched} {story : List Happening} (h : BusSeen w (past story))
    {call : Call} (hstep : w.step call = some w') :
    BusSeen w' (past (story ++ Board.busStory w call w')) := by
  have hdeath := step_deadStep hstep
  have hpast := past_continues story _ (busStory_minor w call w')
  unfold Board.busStory at hpast ⊢
  by_cases hgood : Board.isGoodRead call = true
  · rw [if_pos hgood] at hpast ⊢
    refine ⟨?_, ?_⟩
    · intro t hmem
      rw [hpast.thisBoot, List.mem_append, List.mem_singleton] at hmem
      rcases hmem with hmem | hmem
      · exact Nat.le_trans (h.earlier t hmem) hdeath.now
      · cases hmem
        exact Nat.le_refl _
    · intro hdead
      rw [hdeath.good hgood] at hdead
      cases hdead
  · rw [if_neg hgood] at hpast ⊢
    by_cases hopens : (w'.s.dead && !w.s.dead) = true
    · rw [if_pos hopens] at hpast ⊢
      have hreads : ∀ t, .goodRead t ∈ (past (story ++ [.busDead w'.now])).thisBoot →
          t ≤ w'.now := by
        intro t hmem
        rw [hpast.thisBoot, List.mem_append, List.mem_singleton] at hmem
        rcases hmem with hmem | hmem
        · exact Nat.le_trans (h.earlier t hmem) hdeath.now
        · cases hmem
      refine ⟨hreads, ?_⟩
      intro hdead
      simp only [Bool.and_eq_true, Bool.not_eq_true'] at hopens
      rcases hdeath.since hdead with hwas | hnew
      · rw [hwas.1] at hopens
        cases hopens.2
      · refine ⟨w'.now, Nat.le_refl _, hnew.2, ?_, hreads⟩
        rw [hpast.thisBoot]
        exact List.mem_append_right _ (List.mem_singleton.mpr rfl)
    · rw [if_neg hopens, List.append_nil]
      refine ⟨fun t hmem => Nat.le_trans (h.earlier t hmem) hdeath.now, ?_⟩
      intro hdead
      rcases hdeath.since hdead with hwas | hnew
      · obtain ⟨d, hle, hsince, hmem, hreads⟩ := h.dead hwas.1
        exact ⟨d, Nat.le_trans hle hdeath.now, hwas.2.trans hsince, hmem, hreads⟩
      · rw [hdead, hnew.1] at hopens
        exact absurd rfl hopens

theorem Sees.busCall (h : Sees s) {call : Call} (hstep : s.busCall call = some s') : Sees s' := by
  obtain ⟨w, hw, hs⟩ := Option.map_eq_some_iff.mp hstep
  rw [← hs]
  have hpast := past_continues s.story _ (busStory_minor s.bus call w)
  obtain ⟨hwarned, hlooks⟩ := busStory_past s.story s.bus call w
  have hsame : ∀ t found,
      .look t found ∈ (past (s.story ++ Board.busStory s.bus call w)).thisBoot ↔
        .look t found ∈ (past s.story).thisBoot := by
    intro t found
    rw [hpast.thisBoot, List.mem_append]
    exact or_iff_left (hlooks t found)
  refine ⟨h.heap.keeps (step_deadStep hw).now hsame hwarned, h.bus.call hw, ?_⟩
  intro hunits
  obtain ⟨t, found, hmem, hfound⟩ := h.units hunits
  exact ⟨t, found, (hsame t found).mpr hmem, hfound⟩

/-- A look at the heap. -/
theorem HeapSeen.followed {st : EscalationState} {p : Past} {now : Nat} (h : HeapSeen st p now)
    (input : EscalationInput) (found : Look) (hnow : input.nowMs = reading now)
    (hblock : input.largestFreeBlock = found.block) :
    HeapSeen (heapFollowed st input) (p.after (.look now found)) now := by
  have hlook : ∀ t found', .look t found' ∈ (p.after (.look now found)).thisBoot ↔
      .look t found' ∈ p.thisBoot ∨ t = now ∧ found' = found := by
    intro t found'
    show .look t found' ∈ p.thisBoot ++ [.look now found] ↔ _
    simp
  have hall : ∀ t found', .look t found' ∈ (p.after (.look now found)).thisBoot → t ≤ now := by
    intro t found' hmem
    rcases (hlook t found').mp hmem with hold | hnew
    · exact h.earlier t found' hold
    · exact Nat.le_of_eq hnew.1
  have hafter : (p.after (.look now found)).warned =
      (p.warned && found.block < ESCALATION_LOW_BLOCK_BYTES) := rfl
  unfold heapFollowed
  rw [hblock]
  by_cases hhigh : ESCALATION_LOW_BLOCK_BYTES ≤ found.block
  · rw [if_pos hhigh]
    refine ⟨hall, fun hlow => (by cases hlow), ?_⟩
    rw [hafter, decide_eq_false (UInt32.not_lt.mpr hhigh), Bool.and_false]
  · have hless : found.block < ESCALATION_LOW_BLOCK_BYTES := UInt32.not_le.mp hhigh
    rw [decide_eq_true hless, Bool.and_true] at hafter
    rw [if_neg hhigh]
    by_cases hlow : st.lowHeap = false
    · -- the episode begins with this look
      rw [if_pos hlow]
      refine ⟨hall, ?_, h.warned.trans hafter.symm⟩
      intro _
      exact ⟨now, Nat.le_refl _, hnow, ⟨found, (hlook now found).mpr (Or.inr ⟨rfl, rfl⟩), hless⟩,
        fun t found' hmem _ => hall t found' hmem⟩
    · rw [if_neg hlow]
      refine ⟨hall, ?_, h.warned.trans hafter.symm⟩
      intro hlow
      obtain ⟨t₀, hle, hsince, ⟨first, hmem, hfirst⟩, hhighs⟩ := h.low hlow
      refine ⟨t₀, hle, hsince, ⟨first, (hlook t₀ first).mpr (Or.inl hmem), hfirst⟩, ?_⟩
      intro t found' hmem hblock
      rcases (hlook t found').mp hmem with hold | hnew
      · exact hhighs t found' hold hblock
      · rw [hnew.2] at hblock
        exact absurd hblock hhigh

/-- Low on the clock is low in the story. -/
theorem HeapSeen.heapLow {st : EscalationState} {p : Past} {now : Nat} (h : HeapSeen st p now)
    {ms : UInt32} (hlow : lowFor st (reading now) ms = true) : p.HeapLow ms.toNat now := by
  obtain ⟨hstate, hlong⟩ := Bool.and_eq_true_iff.mp hlow
  obtain ⟨t₀, hle, hsince, ⟨found, hmem, hblock⟩, hhigh⟩ := h.low hstate
  rw [hsince] at hlong
  have hwaited : t₀ + ms.toNat ≤ now := waited hle (of_decide_eq_true hlong)
  refine ⟨⟨t₀, found, hmem, hblock, hwaited⟩, ?_⟩
  intro t found hmem hblock
  have ht := hhigh t found hmem hblock
  omega

theorem BusSeen.busDead {w : Watched} {p : Past} (h : BusSeen w p) {ms : UInt32}
    (hdead : w.s.dead = true) (hlong : ms ≤ reading w.now - w.s.deadSinceMs)
    (hunits : ∃ t found, .look t found ∈ p.thisBoot ∧ found.units = true) :
    p.BusDead ms.toNat w.now := by
  obtain ⟨d, hle, hsince, hmem, hreads⟩ := h.dead hdead
  rw [hsince] at hlong
  have hwaited : d + ms.toNat ≤ w.now := waited hle hlong
  refine ⟨⟨d, hmem, hwaited⟩, ?_, hunits⟩
  intro t hmem
  have ht := hreads t hmem
  omega

theorem BusSeen.keeps {w : Watched} {p q : Past} (h : BusSeen w p)
    (hreads : ∀ t, .goodRead t ∈ q.thisBoot → .goodRead t ∈ p.thisBoot)
    (hdeaths : ∀ t, .busDead t ∈ p.thisBoot → .busDead t ∈ q.thisBoot) : BusSeen w q := by
  refine ⟨fun t hmem => h.earlier t (hreads t hmem), ?_⟩
  intro hdead
  obtain ⟨d, hle, hsince, hmem, hall⟩ := h.dead hdead
  exact ⟨d, hle, hsince, hdeaths d hmem, fun t hmem => hall t (hreads t hmem)⟩

theorem Sees.minuteTick (h : Sees s) : Sees s.minute := by
  unfold Board.minute
  split
  · exact ⟨h.heap, h.bus, h.units⟩
  · exact h

theorem minute_same (s : Board) : s.minute.story = s.story ∧ s.minute.bus = s.bus ∧
    s.minute.isPendingReboot = s.isPendingReboot := by
  unfold Board.minute
  split <;> exact ⟨rfl, rfl, rfl⟩

/-! ## §8. A look. -/

theorem warning_minor (s : Board) (found : Look) (logLowHeap : Bool) :
    ∀ h ∈ .look s.bus.now found :: s.warning logLowHeap, h.isMinor = true := by
  intro h hmem
  rcases List.mem_cons.mp hmem with hlook | hmem
  · rw [hlook]
    rfl
  · unfold Board.warning at hmem
    split at hmem
    · rw [List.mem_singleton.mp hmem]
      rfl
    · cases hmem

theorem past_looked (s : Board) (found : Look) (logLowHeap : Bool) :
    past (s.story ++ .look s.bus.now found :: s.warning logLowHeap) =
      if logLowHeap then ((past s.story).after (.look s.bus.now found)).after (.lowMemory s.bus.now)
      else (past s.story).after (.look s.bus.now found) := by
  rw [List.append_cons]
  unfold Board.warning
  cases logLowHeap with
  | true => rw [if_pos rfl, if_pos rfl, past_snoc, past_snoc]
  | false =>
      rw [if_neg Bool.false_ne_true, if_neg Bool.false_ne_true, List.append_nil, past_snoc]

/-- The log of low memory, once the look is known. -/
theorem HeapSeen.logged {st : EscalationState} {p : Past} {now : Nat} (h : HeapSeen st p now)
    (logLowHeap : Bool) :
    HeapSeen { st with lowHeapLogged := st.lowHeapLogged || logLowHeap }
      (if logLowHeap then p.after (.lowMemory now) else p) now := by
  cases logLowHeap with
  | true =>
      have hlooks : ∀ t found, .look t found ∈ (p.after (.lowMemory now)).thisBoot ↔
          .look t found ∈ p.thisBoot := by
        intro t found
        show .look t found ∈ p.thisBoot ++ [.lowMemory now] ↔ _
        simp
      refine ⟨fun t found hmem => h.earlier t found ((hlooks t found).mp hmem), ?_,
        Bool.or_true _⟩
      intro hlow
      obtain ⟨t₀, hle, hsince, ⟨found, hmem, hblock⟩, hhigh⟩ := h.low hlow
      exact ⟨t₀, hle, hsince, ⟨found, (hlooks t₀ found).mpr hmem, hblock⟩,
        fun t found hmem => hhigh t found ((hlooks t found).mp hmem)⟩
  | false => exact ⟨h.earlier, h.low, (Bool.or_false _).trans h.warned⟩

theorem Sees.looked (h : Sees s) (found : Look) : Sees (s.looked found) := by
  have hminor := warning_minor s found
    (escalationStep s.escalationState (s.input found)).2.logLowHeap
  have hpast := past_continues s.story _ hminor
  refine ⟨?_, h.bus.keeps ?_ ?_, ?_⟩
  · have hfollowed := h.heap.followed (s.input found) found rfl rfl
    have hlogged := hfollowed.logged
      (escalationStep s.escalationState (s.input found)).2.logLowHeap
    rw [← past_looked] at hlogged
    exact hlogged
  · intro t hmem
    have hmem := hpast.thisBoot ▸ hmem
    rcases List.mem_append.mp hmem with hold | hnew
    · exact hold
    · rcases List.mem_cons.mp hnew with hlook | hwarning
      · cases hlook
      · unfold Board.warning at hwarning
        split at hwarning
        · cases List.mem_singleton.mp hwarning
        · cases hwarning
  · intro t hmem
    show .busDead t ∈ (past (s.looked found).story).thisBoot
    exact hpast.thisBoot ▸ List.mem_append_left _ hmem
  · intro hunits
    obtain hseen | hnow := Bool.or_eq_true_iff.mp hunits
    · obtain ⟨t, found', hmem, hfound⟩ := h.units hseen
      exact ⟨t, found', hpast.thisBoot ▸ List.mem_append_left _ hmem, hfound⟩
    · refine ⟨s.bus.now, found, ?_, hnow⟩
      exact hpast.thisBoot ▸ List.mem_append_right _ List.mem_cons_self

/-- The log is made once in an episode, after its first minute. -/
theorem Sees.warning_fits (h : Sees s) (found : Look)
    (hlog : (escalationStep s.escalationState (s.input found)).2.logLowHeap = true) :
    (Happening.lowMemory s.bus.now).Fits (s.story ++ [.look s.bus.now found]) := by
  have hfollowed := h.heap.followed (s.input found) found rfl rfl
  obtain ⟨hfresh, hlow⟩ := Bool.and_eq_true_iff.mp hlog
  show (past (s.story ++ [.look s.bus.now found])).warned = false ∧
    (past (s.story ++ [.look s.bus.now found])).HeapLow (60 * 1000) s.bus.now
  rw [past_snoc]
  refine ⟨?_, hfollowed.heapLow hlow⟩
  rw [← hfollowed.warned]
  exact Bool.not_eq_true' _ |>.mp hfresh

theorem looked_fits (hfits : Each (fun before h => h.Fits before) s.story) (h : Sees s)
    (found : Look) : Each (fun before h => h.Fits before) (s.looked found).story := by
  show Each _ (s.story ++ .look s.bus.now found :: s.warning _)
  rw [List.append_cons]
  have hlook := each_snoc.mpr
    (⟨hfits, trivial⟩ : Each (fun before h => Happening.Fits before h) s.story ∧
      (Happening.look s.bus.now found).Fits s.story)
  unfold Board.warning
  split
  · next hlog => exact each_snoc.mpr ⟨hlook, h.warning_fits found hlog⟩
  · rw [List.append_nil]
    exact hlook

/-- What the policy gives as a cause holds in the story. -/
theorem Sees.cause (h : Sees s) (found : Look) {cause : EscalationCause}
    (hcause : (escalationStep s.escalationState (s.input found)).2.cause = cause)
    (hsome : cause ≠ .none) :
    (cause = .lowHeap ∧ (past (s.looked found).story).HeapLow (5 * 60 * 1000) s.bus.now) ∨
      (cause = .busDead ∧
        (past (s.looked found).story).BusDead (10 * 60 * 1000) s.bus.now) := by
  have hlooked := h.looked found
  have hchoice : (if lowFor (heapFollowed s.escalationState (s.input found))
      (reading s.bus.now) ESCALATION_LOW_HEAP_MS then EscalationCause.lowHeap
      else if deadFor (s.input found) then EscalationCause.busDead
      else EscalationCause.none) = cause := hcause
  split at hchoice
  · next hlow => exact Or.inl ⟨hchoice.symm, hlooked.heap.heapLow hlow⟩
  · split at hchoice
    · next hdead =>
        unfold deadFor at hdead
        simp only [Bool.and_eq_true, decide_eq_true_eq] at hdead
        exact Or.inr ⟨hchoice.symm, hlooked.bus.busDead hdead.1.1 hdead.2
          (hlooked.units hdead.1.2)⟩
    · exact absurd hchoice.symm hsome

/-! ## §9. Runs. -/

structure Sound (s : Board) : Prop where
  counts : Counts s
  sees : Sees s
  fits : Each (fun before h => h.Fits before) s.story

theorem Sound.boot (h : Sound s) (memory : Option EscalationRecord) :
    Sound (s.escalationBootInit memory) := by
  have hcounts := h.counts.boot memory
  have hpast := past_boot s.story memory (loaded (memory.getD s.rtc))
  have hfresh : ((past s.story).boot memory).thisBoot = [] := by
    cases memory <;> rfl
  have hboot : (past (s.escalationBootInit memory).story).thisBoot =
      Board.reports (loaded (memory.getD s.rtc)) := by
    have hthis := hpast.thisBoot
    rw [hfresh, List.nil_append] at hthis
    exact hthis
  have hreports : ∀ h ∈ Board.reports (loaded (memory.getD s.rtc)),
      ∃ cause count, h = .report cause count := by
    intro h hmem
    unfold Board.reports at hmem
    split at hmem
    · exact ⟨_, _, List.mem_singleton.mp hmem⟩
    · cases hmem
  have hwarned : (past (s.escalationBootInit memory).story).warned = false := by
    show (past (s.story ++ .boot memory :: Board.reports _)).warned = false
    rw [List.append_cons]
    unfold Board.reports
    split
    · rw [past_snoc, past_snoc]
      cases memory <;> rfl
    · rw [List.append_nil, past_snoc]
      cases memory <;> rfl
  refine ⟨hcounts, ⟨⟨?_, fun hlow => (by cases hlow), hwarned.symm⟩,
    ⟨?_, fun hdead => (by cases hdead)⟩, fun hunits => (by cases hunits)⟩, ?_⟩
  · intro t found hmem
    rw [hboot] at hmem
    obtain ⟨cause, count, heq⟩ := hreports _ hmem
    cases heq
  · intro t hmem
    rw [hboot] at hmem
    obtain ⟨cause, count, heq⟩ := hreports _ hmem
    cases heq
  · show Each _ (s.story ++ .boot memory :: Board.reports _)
    rw [List.append_cons]
    have hbooted := each_snoc.mpr
      (⟨h.fits, trivial⟩ : Each (fun before h => Happening.Fits before h) s.story ∧
        (Happening.boot memory).Fits s.story)
    unfold Board.reports
    split
    · next hcount =>
        refine each_snoc.mpr ⟨hbooted, ?_⟩
        have hrestarts := hpast.restarts
        have hlast := hpast.lastCause
        refine ⟨?_, ?_, hcount.1⟩
        · rw [past_snoc]
          exact hcounts.restarts.trans hrestarts
        · rw [past_snoc]
          exact hcounts.lastCause.trans hlast
    · rw [List.append_nil]
      exact hbooted

theorem Sound.busCall (h : Sound s) {call : Call} (hstep : s.busCall call = some s') :
    Sound s' := by
  obtain ⟨w, hw, hs⟩ := Option.map_eq_some_iff.mp hstep
  have hminor := busStory_minor s.bus call w
  have hsees := h.sees.busCall hstep
  rw [← hs] at hsees ⊢
  refine ⟨h.counts.continues hminor rfl rfl rfl rfl rfl (step_deadStep hw).now id, hsees, ?_⟩
  show Each _ (s.story ++ Board.busStory s.bus call w)
  unfold Board.busStory
  split
  · exact each_snoc.mpr ⟨h.fits, trivial⟩
  · split
    · exact each_snoc.mpr ⟨h.fits, trivial⟩
    · rw [List.append_nil]
      exact h.fits

theorem Sound.decided (h : Sound s) {cause : EscalationCause} {found : Look}
    (hno : (past s.story).restarted = false) (hasked : s.isPendingReboot = found.asked)
    (hcause : cause ≠ .none →
      (cause = .lowHeap ∧ (past s.story).HeapLow (5 * 60 * 1000) s.bus.now) ∨
        (cause = .busDead ∧ (past s.story).BusDead (10 * 60 * 1000) s.bus.now)) :
    Sound (s.decided cause found) := by
  unfold Board.decided
  split
  · exact h
  · next hsome =>
      split
      · exact h
      · next hstays =>
          split
          · exact h
          · next hallowed =>
              rw [hasked, Bool.or_eq_true, not_or, Bool.not_eq_true, Bool.not_eq_true] at hstays
              have hallowed : escalationAllowed s.escalationRecord = true := by
                simpa using hallowed
              have hpast := past_snoc s.story
                (.restart (s.ranBefore + s.bus.now) s.bus.now cause found)
              have hboot : ((past s.story).after
                  (.restart (s.ranBefore + s.bus.now) s.bus.now cause found)).thisBoot =
                  (past s.story).thisBoot ++
                    [.restart (s.ranBefore + s.bus.now) s.bus.now cause found] := rfl
              refine ⟨h.counts.restart, ⟨h.sees.heap.keeps (Nat.le_refl _) ?_ ?_,
                h.sees.bus.keeps ?_ ?_, ?_⟩, each_snoc.mpr ⟨h.fits, ?_⟩⟩
              · intro t found'
                rw [hpast, hboot]
                simp
              · rw [hpast]
                rfl
              · intro t hmem
                rw [hpast, hboot] at hmem
                simpa using hmem
              · intro t hmem
                rw [hpast, hboot]
                exact List.mem_append_left _ hmem
              · intro hunits
                obtain ⟨t, found', hmem, hfound⟩ := h.sees.units hunits
                refine ⟨t, found', ?_, hfound⟩
                rw [hpast, hboot]
                exact List.mem_append_left _ hmem
              · refine ⟨?_, ?_, hstays, hcause hsome⟩
                · -- the record has counted six hours since the restart before
                  intro before hbefore
                  obtain ⟨hcount, hle⟩ := h.counts.since before hbefore
                  have hminutes := escalationAllowed_minutes hallowed hcount
                  omega
                · intro h' hmem
                  exact Bool.eq_false_iff.mpr (List.any_eq_false.mp hno h' hmem)

theorem Sound.tick (h : Sound s) {found : Look} (hno : (past s.story).restarted = false)
    (hasked : s.isPendingReboot = found.asked) : Sound (s.escalationTick found) := by
  obtain ⟨hstory, _, hpending⟩ := minute_same s
  have hminute : Sound s.minute :=
    ⟨h.counts.minuteTick hno, h.sees.minuteTick, hstory.symm ▸ h.fits⟩
  have hnoMinute : (past s.minute.story).restarted = false := by
    rw [hstory]
    exact hno
  unfold Board.escalationTick
  dsimp only
  split
  · have hminor := warning_minor s.minute found
      (escalationStep s.minute.escalationState (s.minute.input found)).2.logLowHeap
    have hlooked : Sound (s.minute.looked found) :=
      ⟨hminute.counts.continues hminor rfl rfl rfl rfl rfl (Nat.le_refl _) id,
        hminute.sees.looked found, looked_fits hminute.fits hminute.sees found⟩
    apply hlooked.decided
    · have hsame := restarted_continues (past_continues s.minute.story _ hminor) hminor
      exact hsame.trans hnoMinute
    · exact hpending.trans hasked
    · intro hsome
      exact hminute.sees.cause found rfl hsome
  · exact hminute

theorem Sound.step (h : Sound s) {e : Event} (hstep : s.step e = some s') : Sound s' := by
  cases e with
  | boot memory =>
      rw [← Option.some.inj hstep]
      exact h.boot memory
  | bus call => exact h.busCall hstep
  | pass found =>
      have hpass : (if s.isPendingReboot then none
        else some ({ s with isPendingReboot := found.asked }.escalationTick found)) = some s' :=
        hstep
      split at hpass
      · cases hpass
      · next hgoes =>
          rw [← Option.some.inj hpass]
          have hno : (past s.story).restarted = false := by
            rw [Bool.eq_false_iff]
            exact fun hyes => hgoes (h.counts.pending hyes)
          have hasked : Sound { s with isPendingReboot := found.asked } := by
            refine ⟨⟨h.counts.kept, h.counts.restarts, h.counts.lastCause, h.counts.since,
              h.counts.minute, ?_⟩, ⟨h.sees.heap, h.sees.bus, h.sees.units⟩, h.fits⟩
            intro hyes
            have hyes := hno.symm.trans hyes
            cases hyes
          exact hasked.tick hno rfl

theorem sound_start (memory : EscalationRecord) : Sound (Board.start memory) := by
  have hnew : Sound {} := by
    have hsince : ∀ m, Since {} m := by
      intro m before hbefore
      cases hbefore
    refine ⟨⟨rfl, rfl, rfl, hsince 0, ?_, ?_⟩, ⟨⟨?_, ?_, rfl⟩, ⟨?_, ?_⟩, ?_⟩, each_nil _⟩
    · exact fun _ => ⟨0, Nat.le_refl 0, rfl, hsince 0⟩
    · exact fun hyes => (by cases hyes)
    · exact fun _ _ hmem => (by cases hmem)
    · exact fun hlow => (by cases hlow)
    · exact fun _ hmem => (by cases hmem)
    · exact fun hdead => (by cases hdead)
    · exact fun hunits => (by cases hunits)
  exact hnew.boot (some memory)

/-- Whatever happens to a board, its bus and its memory: a self-restart comes six hours of uptime
after the one before (unless the power was off), once in a boot, never on the way out or in the
rescue beacon, and only for a heap that every look of five minutes has found low, or a bus on which
nobody answered for ten minutes though somebody had in this boot; low memory is logged once in an
episode, after a minute; and a boot reports how many restarts there were, and for what the last
was. -/
theorem self_restarts (memory : EscalationRecord) (es : List Event) (s : Board)
    (hrun : run Board.step (Board.start memory) es = some s) :
    (∀ pre uptime now cause found post,
      s.story = pre ++ .restart uptime now cause found :: post →
        (past pre).MayRestart uptime now cause found) ∧
      (∀ pre now post, s.story = pre ++ .lowMemory now :: post →
        (past pre).warned = false ∧ (past pre).HeapLow (60 * 1000) now) ∧
      (∀ pre cause count post, s.story = pre ++ .report cause count :: post →
        count.toNat = (past pre).restarts ∧ cause = (past pre).lastCause ∧ 0 < count) ∧
      (escalationCount s.rtc).toNat = (past s.story).restarts := by
  have h : Sound s := run_invariant (fun _ _ _ h hstep => h.step hstep) (sound_start memory) hrun
  refine ⟨fun pre uptime now cause found post hsplit => h.fits pre _ post hsplit,
    fun pre now post hsplit => h.fits pre _ post hsplit,
    fun pre cause count post hsplit => h.fits pre _ post hsplit, ?_⟩
  rw [← escalationCount_loaded, ← h.counts.kept]
  exact h.counts.restarts

/-- Five minutes without a large block, after a power cycle that left garbage. -/
def lowHeap : List Event :=
  [.pass ⟨true, 900, false, false⟩, .bus (.wait 300000), .pass ⟨true, 900, false, false⟩]

theorem self_restarts_low_heap :
    ∃ s, run Board.step (Board.start ⟨7, 7, 7, 7⟩) lowHeap = some s ∧
      s.isPendingReboot = true ∧ (escalationCount s.rtc).toNat = 1 ∧
      (escalationCount s.rtc).toNat = (past s.story).restarts := by
  have hran : (run Board.step (Board.start ⟨7, 7, 7, 7⟩) lowHeap).map
      (fun s => (s.isPendingReboot, (escalationCount s.rtc).toNat)) = some (true, 1) := by
    decide +kernel
  obtain ⟨s, hrun, hends⟩ := Option.map_eq_some_iff.mp hran
  rw [Prod.mk.injEq] at hends
  exact ⟨s, hrun, hends.1, hends.2, (self_restarts ⟨7, 7, 7, 7⟩ lowHeap s hrun).2.2.2⟩

end SplitFlap.SelfRestart
