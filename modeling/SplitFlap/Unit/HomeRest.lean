/-
  SplitFlap.Unit.HomeRest — a drum that cannot find its marker rests.

  The same `loop()` as in `UnitLoop`, taken apart where a frame can come in or time can
  pass, and with the true time beside it.  Five places of a pass have the drum seek: a HOME,
  the self-home after boot, a letter move, the retry that a failed seek leaves owed, and the
  re-home of a drift.  What they do is written down as it happens (`Mark`): when a seek
  began, when it failed, when a HOME was heard.
-/
import SplitFlap.Lib.Clock
import SplitFlap.Lib.Machine
import SplitFlap.Unit.LastLetter

namespace SplitFlap.HomeRest

open Machine Clock Motion

/-! ## §1. The parts of a pass. -/

/-- What has the drum seek; a re-home is judged by the state before it. -/
inductive Seeker where
  | home
  | boot
  | letter (toLetter : Nat)
  | drift (before : UnitState)

/-- Where `loop()` is. -/
inductive Stage where
  | silence | bootloader | rebooting
  | offsetWrite | gatesWrite | bootUpdate
  | home | homeGuard
  | jog | jogOver
  | setAddress | clearAddress | odometerReset | selfTest | identify
  | clock
  | bootHome | idleSample | idleHall | driftCheck | sleep
  | letter | rotate
  | attempt (toLetter : Nat)
  | heat (toLetter : Nat)
  | supply (toLetter : Nat)
  | commit (toLetter : Nat)
  | seeking (who : Seeker)
  | seekOver (who : Seeker) (found : Bool)
  | flaps (toLetter flaps : Nat)
  | flapping (toLetter flaps steps : Nat) (w : Watch)

/-- What is written down; `asked` of a failure is whether a HOME was waiting as it ended. -/
inductive Mark where
  | pass (t : Nat)
  | heardHome (t : Nat)
  | begins (t : Nat)
  | found (t : Nat)
  | failed (t : Nat) (asked : Bool)
  deriving DecidableEq

/-- `t` is the true time in milliseconds since the unit started. -/
structure Sketch where
  unit : UnitState
  t : Nat := 0
  stage : Stage := .silence
  currentMillis : UInt32 := 0
  log : List Mark := []

/-- What a part of the pass finds outside. -/
structure Looks where
  vcc : UInt16 := 0
  hallLow : Bool := false
  silenceRestart : Bool := false

/-- `millis()`. -/
def Sketch.now (c : Sketch) : UInt32 := reading c.t

def Sketch.on (stage : Stage) (unit : UnitState) (c : Sketch) : Sketch := { c with unit, stage }

/-! ## §2. The pieces. -/

def awake (now : UInt32) (s : UnitState) : UnitState :=
  { s with clocks := { s.clocks with previousMillis := now } }

/-- A command's work, where its flag is up. -/
def drained (asked : Pending → Bool) (work : UnitState → UnitState) (s : UnitState) : UnitState :=
  if asked s.pending then work s else s

def offsetWritten (now : UInt32) (s : UnitState) : UnitState :=
  awake now
    { s with
      calOffset := s.pending.offsetValue
      pending := { s.pending with offsetWrite := false } }

def gatesWritten (now : UInt32) (s : UnitState) : UnitState :=
  awake now
    { s with
      featureGates := s.pending.gatesValue
      idleHall := { s.idleHall with check := {} }
      pending := { s.pending with gatesWrite := false } }

def bootUpdated (now : UInt32) (s : UnitState) : UnitState :=
  awake now { s with pending := { s.pending with bootUpdate := false } }

def homeTaken (s : UnitState) : UnitState :=
  { s with pending := { s.pending with home := false }, history := .homeTaken :: s.history }

def homeRefused (now : UInt32) (s : UnitState) : UnitState :=
  awake now { s with history := .homeRefused :: s.history }

/-- `receivedNumber = 0; displayedLetter = 0;`. -/
def parkedBlank (now : UInt32) (s : UnitState) : UnitState :=
  awake now { blank s with displayedLetter := 0 }

def jogged (s : UnitState) : UnitState :=
  { turn (ROTATIONDIRECTION * s.pending.jogSteps.toInt)
      { s with pending := { s.pending with jogSteps := 0 } } with currentlyrotating := false }

def jogCounted (now : UInt32) (s : UnitState) : UnitState :=
  awake now { s with lastRotation := rotationStamp now }

def addressSet (s : UnitState) : UnitState :=
  addressTaken s.pending.addressValue { s with pending := { s.pending with setAddress := false } }

def addressCleared (s : UnitState) : UnitState :=
  { s with pending := { s.pending with clearAddress := false, bootloader := true } }

def odometerCleared (now : UInt32) (s : UnitState) : UnitState :=
  awake now { s with pending := { s.pending with odometerReset := false } }

def identified (now : UInt32) (s : UnitState) : UnitState :=
  { s with
    pending := { s.pending with identify := false }
    clocks := { s.clocks with identifyStartMs := rotationStamp now } }

def sampled (currentMillis : UInt32) (vcc : UInt16) (s : UnitState) : UnitState :=
  if 1000 ≤ currentMillis - s.clocks.vitalsLastSampleMs then
    { s with
      clocks := { s.clocks with vitalsLastSampleMs := currentMillis }
      supplyIdleLevelMv := supplyIdleLevelFold s.supplyIdleLevelMv vcc }
  else s

def idleChecked (currentMillis : UInt32) (hallLow : Bool) (s : UnitState) : UnitState :=
  if idleHallEligible s = false then { s with idleHall := { s.idleHall with check := {} } }
  else if 250 ≤ currentMillis - s.clocks.idleHallLastSampleMs then
    idleHallSampled currentMillis hallLow s
  else s

def rehomeNoted (currentMillis : UInt32) (s : UnitState) : UnitState :=
  { s with
    clocks := { s.clocks with lastAutoRehomeMs := rotationStamp currentMillis }
    idleHall := { s.idleHall with armedRehome := false } }

def slept (currentMillis : UInt32) (s : UnitState) : UnitState :=
  if WAIT_TIME ≤ currentMillis - s.clocks.previousMillis then awake currentMillis s else s

def busy (s : UnitState) : UnitState := { s with currentlyrotating := true }

/-- The supply hold, behind its gate. -/
def supplyHold (vcc : UInt16) (now : UInt32) (s : UnitState) : Bool × SupplyWait :=
  if unitGateEnabled s.featureGates UNIT_GATE_SUPPLY_WAIT then
    supplyWaitHold s.supplyWait vcc s.supplyIdleLevelMv now
  else (false, s.supplyWait)

def committed (now : UInt32) (s : UnitState) : UnitState :=
  { s with lastRotation := rotationStamp now, supplyWait := { s.supplyWait with held := false } }

/-- One step under the step watch. -/
def flapStepped (w : Watch) (hallLow : Bool) (s : UnitState) : UnitState :=
  let s := turn (ROTATIONDIRECTION * 1) s
  if (w.sample hallLow).2 then edgeWatched s else s

/-! ## §3. A seek. -/

/-- `calibrate` begins. -/
def Sketch.begins (who : Seeker) (c : Sketch) : Sketch :=
  { c with
    unit := { c.unit with
      currentlyrotating := true, boot := { c.unit.boot with bootHomeAttempted := true } }
    stage := .seeking who
    log := .begins c.t :: c.log }

/-- A seek that stopped the motor when it was done, the letter move's did not. -/
def Seeker.stopsMotor : Seeker → Bool
  | .letter _ => false
  | _ => true

def noted (found : Bool) (now : UInt32) (s : UnitState) : UnitState :=
  { s with homeBackoff := homeNoteResult s.homeBackoff found now }

/-- `calibrate` is over after `steps` steps of its search. -/
def Sketch.seekEnds (who : Seeker) (steps : Nat) (found : Bool) (c : Sketch) : Sketch :=
  let s := turn steps c.unit
  if found then
    let s := calibrated (turn (ROTATIONDIRECTION * s.calOffset.toInt) (markerReached s))
    { c with
      unit := noted true c.now
        { s with currentlyrotating := !who.stopsMotor && s.currentlyrotating }
      stage := .seekOver who true
      log := .found c.t :: c.log }
  else
    { c with
      unit := noted false c.now { homeFailed s with currentlyrotating := false }
      stage := .seekOver who false
      log := .failed c.t c.unit.pending.home :: c.log }

/-- What follows a seek. -/
def Sketch.afterSeek (found : Bool) (c : Sketch) : Seeker → Sketch
  | .home => c.on .jog (parkedBlank c.now c.unit)
  | .boot => c.on .idleSample (parkedBlank c.now c.unit)
  | .drift before => c.on .sleep (awake c.now (rehomeJudged before c.unit))
  | .letter toLetter => c.on (if found then .flaps toLetter toLetter else .silence) c.unit

/-! ## §4. The loop. -/

def Sketch.flap (toLetter : Nat) (w : Watch) (hallLow : Bool) (c : Sketch) : Nat → Nat → Sketch
  | flaps, steps + 1 =>
      c.on (.flapping toLetter flaps steps (w.sample hallLow).1) (flapStepped w hallLow c.unit)
  | flaps + 1, 0 =>
      c.on (.flapping toLetter flaps (roundedStep c.unit.missedSteps).1 w)
        { c.unit with missedSteps := (roundedStep c.unit.missedSteps).2 }
  | 0, 0 =>
      c.on .silence { c.unit with displayedLetter := toLetter, currentlyrotating := false }

/-- The loop goes on with its next part; a self-test is not followed. -/
def Sketch.go (o : Looks) (c : Sketch) : Option Sketch :=
  let s := c.unit
  match c.stage with
  | .silence =>
      some { c.on .bootloader { s with
        pending := { s.pending with bootloader := o.silenceRestart || s.pending.bootloader } } with
        log := .pass c.t :: c.log }
  | .bootloader => some (c.on (if s.pending.bootloader then .rebooting else .offsetWrite) s)
  | .rebooting => none
  | .offsetWrite => some (c.on .gatesWrite (drained (·.offsetWrite) (offsetWritten c.now) s))
  | .gatesWrite => some (c.on .bootUpdate (drained (·.gatesWrite) (gatesWritten c.now) s))
  | .bootUpdate => some (c.on .home (drained (·.bootUpdate) (bootUpdated c.now) s))
  | .home => some (if s.pending.home then c.on .homeGuard (homeTaken s) else c.on .jog s)
  | .homeGuard =>
      some (if homeCommandAllowed s.homeBackoff c.now then c.begins .home
        else c.on .jog (homeRefused c.now s))
  | .jog => some (if s.pending.jogSteps ≠ 0 then c.on .jogOver (jogged s) else c.on .setAddress s)
  | .jogOver => some (c.on .setAddress (jogCounted c.now s))
  | .setAddress => some (c.on .clearAddress (drained (·.setAddress) addressSet s))
  | .clearAddress => some (c.on .odometerReset (drained (·.clearAddress) addressCleared s))
  | .odometerReset =>
      some (c.on .selfTest (drained (·.odometerReset) (odometerCleared c.now) s))
  | .selfTest => if s.pending.selfTest then none else some (c.on .identify s)
  | .identify => some (c.on .clock (drained (·.identify) (identified c.now) s))
  | .clock => some { c.on .bootHome (identifyBlink c.now s) with currentMillis := c.now }
  | .bootHome =>
      some (if s.homed = false ∧ s.boot.bootHomeAttempted = false ∧
          bootHomeShouldSelfHome s.homed s.boot c.currentMillis = true then c.begins .boot
        else c.on .idleSample s)
  | .idleSample => some (c.on .idleHall (sampled c.currentMillis o.vcc s))
  | .idleHall => some (c.on .driftCheck (idleChecked c.currentMillis o.hallLow s))
  | .driftCheck =>
      some (if driftRehomeDue c.currentMillis s then
          (c.on .driftCheck (rehomeNoted c.currentMillis s)).begins (.drift s)
        else c.on .sleep s)
  | .sleep => some (c.on .letter (slept c.currentMillis s))
  | .letter =>
      some (if s.displayedLetter ≠ s.receivedNumber ∨ homeRetryOwed s.homeBackoff then
          c.on .rotate { s with unread := false }
        else c.on .silence (letterWithdrawn { s with unread := false }))
  | .rotate =>
      some (if AMOUNTFLAPS.toNat ≤ s.receivedNumber then c.on .silence { s with unread := false }
        else c.on (.attempt s.receivedNumber) { s with unread := false })
  | .attempt toLetter =>
      some (if s.homed = false ∧ homeAttemptAllowed s.homeBackoff c.now = false then
          c.on .silence s
        else c.on (.heat toLetter) s)
  | .heat toLetter =>
      some (if s.lastRotation = 0 ∨ OVERHEAT_MS < c.now - s.lastRotation then
          c.on (.supply toLetter) s
        else c.on .silence (busy s))
  | .supply toLetter =>
      let r := supplyHold o.vcc c.now s
      some (if r.1 then c.on .silence (busy { s with supplyWait := r.2 })
        else c.on (.commit toLetter) { s with supplyWait := r.2 })
  | .commit toLetter =>
      some (if s.homed ∧ s.displayedLetter ≤ toLetter then
          c.on (.flaps toLetter (toLetter - s.displayedLetter)) (busy (committed c.now s))
        else (c.on (.commit toLetter) (committed c.now s)).begins (.letter toLetter))
  | .seeking _ => none
  | .seekOver who found => some (c.afterSeek found who)
  | .flaps toLetter flaps => some (c.on (.flapping toLetter flaps 0 ⟨o.hallLow, 0⟩) s)
  | .flapping toLetter flaps steps w => some (c.flap toLetter w o.hallLow flaps steps)

/-- A frame that asks for a HOME, and is taken. -/
def asksHome (s : UnitState) : List UInt8 → Bool
  | [] => false
  | firstByte :: args =>
      AMOUNTFLAPS ≤ firstByte &&
        isHome (unitGateEnabled s.featureGates UNIT_GATE_STRICT_OPCODES) firstByte args

inductive Happens where
  | tick (ms : Nat)
  | hear (frame : List UInt8)
  | go (o : Looks)
  | seekEnds (steps : Nat) (found : Bool)

def step (c : Sketch) : Happens → Option Sketch
  | .tick ms => some { c with t := c.t + ms }
  | .hear frame =>
      some { c with
        unit := receiveLetter c.unit frame
        log := if asksHome c.unit frame then .heardHome c.t :: c.log else c.log }
  | .go o => c.go o
  | .seekEnds steps found =>
      match c.stage with
      | .seeking who => some (c.seekEnds who steps found)
      | _ => none

/-- A unit out of `setup()`. -/
def boot (e : Stored) (turned : Int) : Sketch := { unit := setup e turned }

/-! ## §5. What the log says. -/

/-- When the last seek failed, if none has found the marker since. -/
def lastFailure : List Mark → Option Nat
  | [] => none
  | .failed t _ :: _ => some t
  | .found _ :: _ => none
  | .pass _ :: log => lastFailure log
  | .heardHome _ :: log => lastFailure log
  | .begins _ :: log => lastFailure log

/-- The failures in a row. -/
def failures : List Mark → Nat
  | [] => 0
  | .failed _ _ :: log => failures log + 1
  | .found _ :: _ => 0
  | .pass _ :: log => failures log
  | .heardHome _ :: log => failures log
  | .begins _ :: log => failures log

/-- A HOME was heard since the last seek, or was waiting when that failed. -/
def homeAsked : List Mark → Bool
  | [] => false
  | .failed _ asked :: _ => asked
  | .found _ :: _ => false
  | .pass _ :: log => homeAsked log
  | .heardHome _ :: _ => true
  | .begins _ :: log => homeAsked log

/-- `homeRetryWaitMs` of the failures so far, which are counted to 255. -/
def retryWait (log : List Mark) : Nat :=
  (homeRetryWaitMs (UInt8.ofNat (min 255 (failures log)))).toNat

/-- A seek that begins at `t` has left the motor its rest. -/
def RestedAt (t : Nat) (early : List Mark) : Prop :=
  ∀ T, lastFailure early = some T →
    T + 30000 ≤ t ∧ (homeAsked early = false → T + retryWait early ≤ t)

/-- Every seek did. -/
def Rests (log : List Mark) : Prop :=
  ∀ late t early, log = late ++ .begins t :: early → RestedAt t early

theorem Rests.nil : Rests [] := by
  intro late t early h
  cases late <;> cases h

/-- A mark that is no beginning. -/
theorem Rests.cons {log : List Mark} (h : Rests log) {m : Mark} (hm : ∀ t, m ≠ .begins t) :
    Rests (m :: log) := by
  intro late t early hlog
  cases late with
  | nil =>
      cases hlog
      exact absurd rfl (hm t)
  | cons m' late =>
      rw [List.cons_append, List.cons.injEq] at hlog
      exact h late t early hlog.2

theorem Rests.begins {log : List Mark} (h : Rests log) {t : Nat} (ht : RestedAt t log) :
    Rests (.begins t :: log) := by
  intro late t' early hlog
  cases late with
  | nil =>
      cases hlog
      exact ht
  | cons m' late =>
      rw [List.cons_append, List.cons.injEq] at hlog
      exact h late t' early hlog.2

theorem lastFailure_none_iff (log : List Mark) : lastFailure log = none ↔ failures log = 0 := by
  induction log with
  | nil => simp [lastFailure, failures]
  | cons m log ih =>
      cases m with
      | failed t asked => simp [lastFailure, failures]
      | found t => simp [lastFailure, failures]
      | pass t => exact ih
      | heardHome t => exact ih
      | begins t => exact ih

theorem homeRetryWaitMs_base {k : UInt8} (hk : k ≠ 0) : 30000 ≤ (homeRetryWaitMs k).toNat := by
  have hall : ∀ i : Fin 256, UInt8.ofNat i.val ≠ 0 →
      30000 ≤ (homeRetryWaitMs (UInt8.ofNat i.val)).toNat := by decide +kernel
  have h := hall ⟨k.toNat, k.toNat_lt⟩
  rw [UInt8.ofNat_toNat] at h
  exact h hk

/-! ## §6. What holds at every moment. -/

/-- The parts of a letter move that step flaps, or are about to. -/
def Stage.stepsFlaps : Stage → Bool
  | .seekOver _ found => found
  | .flaps _ _ => true
  | .flapping _ _ _ _ => true
  | _ => false

/-- The parts of a letter move behind the wait of an unhomed unit. -/
def Stage.waited : Stage → Bool
  | .heat _ => true
  | .supply _ => true
  | .commit _ => true
  | _ => false

def Stage.isGuard : Stage → Bool
  | .homeGuard => true
  | _ => false

def Stage.isSeeking : Stage → Bool
  | .seeking _ => true
  | _ => false

structure Kept (c : Sketch) : Prop where
  driftPending : c.unit.drift.driftPending = true → c.unit.homed = true
  letter : c.unit.receivedNumber < 45
  count : c.unit.homeBackoff.consecutiveFails.toNat = min 255 (failures c.log)
  unhomed : failures c.log ≠ 0 → c.unit.homed = false
  last : ∀ T, lastFailure c.log = some T →
    T ≤ c.t ∧ c.unit.homeBackoff.lastFailEndMs = reading T
  attempted : lastFailure c.log ≠ none ∨ c.stage.isSeeking = true →
    c.unit.boot.bootHomeAttempted = true
  asked : c.unit.pending.home = true ∨ c.stage.isGuard = true → lastFailure c.log ≠ none →
    homeAsked c.log = true
  waited : c.stage.waited = true → ∀ T, lastFailure c.log = some T → T + retryWait c.log ≤ c.t
  flaps : c.stage.stepsFlaps = true → c.unit.homed = true
  rehome : ∀ before, c.stage = .seeking (.drift before) → before.homed = true
  rests : Rests c.log

theorem Kept.boot (e : Stored) (turned : Int) : Kept (boot e turned) where
  driftPending := Bool.noConfusion
  letter := by show 0 < 45; omega
  count := rfl
  unhomed h := absurd rfl h
  last _ h := by cases h
  attempted h := by
    obtain h | h := h
    · exact absurd rfl h
    · cases h
  asked _ h := absurd rfl h
  waited h := by cases h
  flaps h := by cases h
  rehome _ h := by cases h
  rests := Rests.nil

theorem Kept.backoff {c : Sketch} (h : Kept c) :
    c.unit.homeBackoff.consecutiveFails = UInt8.ofNat (min 255 (failures c.log)) := by
  rw [← h.count, UInt8.ofNat_toNat]

theorem Kept.none_failed_of_homed {c : Sketch} (h : Kept c) (hhomed : c.unit.homed = true) :
    lastFailure c.log = none := by
  rw [lastFailure_none_iff]
  by_contra hfail
  rw [h.unhomed hfail] at hhomed
  cases hhomed

/-- What a part that has nothing to do with a seek leaves as it is. -/
structure Quiet (s s' : UnitState) : Prop where
  homed : s'.homed = s.homed
  homeBackoff : s'.homeBackoff = s.homeBackoff
  attempted : s'.boot.bootHomeAttempted = s.boot.bootHomeAttempted
  home : s'.pending.home = true → s.pending.home = true
  driftPending : s'.drift.driftPending = true → s.drift.driftPending = true ∨ s.homed = true
  letter : s'.receivedNumber = s.receivedNumber ∨ s'.receivedNumber = 0

theorem Quiet.refl (s : UnitState) : Quiet s s := ⟨rfl, rfl, rfl, id, .inl, .inl rfl⟩

/-- The loop is elsewhere, and what the stage has to have behind it is behind it. -/
theorem Kept.moves {c c' : Sketch} (h : Kept c) (hquiet : Quiet c.unit c'.unit)
    (ht : c'.t = c.t) (hlog : c'.log = c.log) (hseeking : c'.stage.isSeeking = false)
    (hguard : c'.stage.isGuard = true → c.unit.pending.home = true)
    (hwaited : c'.stage.waited = true → ∀ T, lastFailure c.log = some T → T + retryWait c.log ≤ c.t)
    (hflaps : c'.stage.stepsFlaps = true → c.unit.homed = true) : Kept c' where
  driftPending hpending := by
    rw [hquiet.homed]
    exact (hquiet.driftPending hpending).elim h.driftPending id
  letter := by
    obtain hletter | hletter := hquiet.letter
    · rw [hletter]
      exact h.letter
    · omega
  count := by
    rw [hquiet.homeBackoff, hlog]
    exact h.count
  unhomed hfail := by
    rw [hlog] at hfail
    rw [hquiet.homed]
    exact h.unhomed hfail
  last T hT := by
    rw [hlog] at hT
    rw [ht, hquiet.homeBackoff]
    exact h.last T hT
  attempted hfail := by
    rw [hlog, hseeking] at hfail
    rw [hquiet.attempted]
    exact h.attempted (hfail.imp id Bool.noConfusion)
  asked hhome hfail := by
    rw [hlog] at hfail ⊢
    exact h.asked (.inl (hhome.elim hquiet.home hguard)) hfail
  waited hstage := by
    rw [hlog, ht]
    exact hwaited hstage
  flaps hstage := by
    rw [hquiet.homed]
    exact hflaps hstage
  rehome before hstage := by
    rw [hstage] at hseeking
    cases hseeking
  rests := hlog ▸ h.rests

/-- A part that steps no flap, seeks nothing and has waited for nothing. -/
def Stage.plain (stage : Stage) : Bool :=
  !stage.stepsFlaps && !stage.waited && !stage.isGuard && !stage.isSeeking

theorem Kept.plain {c c' : Sketch} (h : Kept c) (hquiet : Quiet c.unit c'.unit)
    (ht : c'.t = c.t) (hlog : c'.log = c.log) (hstage : c'.stage.plain = true) : Kept c' := by
  unfold Stage.plain at hstage
  simp only [Bool.and_eq_true, Bool.not_eq_true'] at hstage
  obtain ⟨⟨⟨hflaps, hwaited⟩, hguard⟩, hseeking⟩ := hstage
  refine h.moves hquiet ht hlog hseeking ?_ ?_ ?_
  · exact fun hg => absurd (hguard.symm.trans hg) Bool.noConfusion
  · exact fun hw => absurd (hwaited.symm.trans hw) Bool.noConfusion
  · exact fun hf => absurd (hflaps.symm.trans hf) Bool.noConfusion

theorem Kept.pass {c : Sketch} (h : Kept c) : Kept { c with log := .pass c.t :: c.log } :=
  { h with rests := h.rests.cons fun _ hm => nomatch hm }

theorem Kept.tick {c : Sketch} (h : Kept c) (ms : Nat) : Kept { c with t := c.t + ms } :=
  { h with
    last := fun T hT => ⟨(h.last T hT).1.trans (Nat.le_add_right _ _), (h.last T hT).2⟩
    waited := fun hstage T hT => (h.waited hstage T hT).trans (Nat.le_add_right _ _) }

/-- A seek that begins rested. -/
theorem Kept.begins {c : Sketch} (h : Kept c) (who : Seeker)
    (hrest : RestedAt c.t c.log) (hrehome : ∀ before, who = .drift before → before.homed = true) :
    Kept (c.begins who) where
  driftPending := h.driftPending
  letter := h.letter
  count := h.count
  unhomed := h.unhomed
  last := h.last
  attempted _ := rfl
  asked hhome hfail := h.asked (hhome.imp id fun hg => nomatch hg) hfail
  waited hstage := nomatch hstage
  flaps hstage := nomatch hstage
  rehome before hstage := by
    apply hrehome before
    injection hstage
  rests := h.rests.begins hrest

/-! ## §7. A seek that began, and how it ended. -/

theorem homeNoteResult_failed (b : HomeBackoff) (now : UInt32) :
    (homeNoteResult b false now).consecutiveFails.toNat =
      min 255 (b.consecutiveFails.toNat + 1) := by
  have hlt := b.consecutiveFails.toNat_lt
  show (if b.consecutiveFails < 0xFF then b.consecutiveFails + 1
    else b.consecutiveFails).toNat = _
  have hmax : (0xFF : UInt8).toNat = 255 := rfl
  split
  · rename_i h
    rw [UInt8.lt_iff_toNat_lt, hmax] at h
    rw [UInt8.toNat_add]
    show (b.consecutiveFails.toNat + 1) % 256 = _
    omega
  · rename_i h
    rw [UInt8.lt_iff_toNat_lt, hmax] at h
    omega

theorem Kept.seekEnds {c : Sketch} (h : Kept c) {who : Seeker} (hstage : c.stage = .seeking who)
    (steps : Nat) (found : Bool) : Kept (c.seekEnds who steps found) := by
  have hattempted : c.unit.boot.bootHomeAttempted = true := h.attempted (.inr (by rw [hstage]; rfl))
  cases found with
  | true =>
      refine ⟨?_, h.letter, rfl, ?_, ?_, fun _ => hattempted, ?_, ?_, fun _ => rfl, ?_, ?_⟩
      · exact fun hpending => nomatch hpending
      · exact fun hfail => absurd rfl hfail
      · exact fun T hT => nomatch hT
      · exact fun _ hfail => absurd rfl hfail
      · exact fun hw => nomatch hw
      · exact fun before hs => nomatch hs
      · exact h.rests.cons fun _ hm => nomatch hm
  | false =>
      refine ⟨?_, h.letter, ?_, fun _ => rfl, ?_, fun _ => hattempted, ?_, ?_, ?_, ?_, ?_⟩
      · exact fun hpending => nomatch hpending
      · show (homeNoteResult c.unit.homeBackoff false c.now).consecutiveFails.toNat =
          min 255 (failures c.log + 1)
        rw [homeNoteResult_failed, h.count]
        omega
      · rintro T hT
        cases hT
        exact ⟨le_rfl, rfl⟩
      · exact fun hhome _ => hhome.elim id fun hg => nomatch hg
      · exact fun hw => nomatch hw
      · exact fun hf => nomatch hf
      · exact fun before hs => nomatch hs
      · exact h.rests.cons fun _ hm => nomatch hm

/-! ## §8. A frame. -/

theorem ite_home {φ : Prop} [Decidable φ] {p q : Pending} {b : Bool} (hp : p.home = b)
    (hq : q.home = b) : (if φ then p else q).home = b := by
  split
  · exact hp
  · exact hq

/-- No other opcode has anything to do with the flag. -/
theorem command_home_other {strict : Bool} {p : Pending} {opcode : UInt8} {args : List UInt8}
    (hopcode : opcode ≠ SFP_CMD_HOME) : (command strict p opcode args).home = p.home := by
  unfold command
  rw [if_neg hopcode]
  refine ite_home rfl (ite_home rfl (ite_home rfl (ite_home ?_ (ite_home ?_ (ite_home ?_
    (ite_home rfl (ite_home rfl (ite_home rfl (ite_home ?_ (ite_home ?_ rfl))))))))))
  · cases setOffsetDecode args with
    | none => rfl
    | some offset => exact ite_home rfl rfl
  · cases jogDecode strict args with
    | none => rfl
    | some steps => rfl
  · cases complementedByte args with
    | none => rfl
    | some v => rfl
  · cases complementedByte args with
    | none => rfl
    | some v => exact ite_home rfl rfl
  · cases complementedByte args with
    | none => rfl
    | some stage => exact ite_home rfl rfl

theorem command_home {strict : Bool} {p : Pending} {opcode : UInt8} {args : List UInt8}
    (h : (command strict p opcode args).home = true) :
    p.home = true ∨ isHome strict opcode args = true := by
  by_cases hopcode : opcode = SFP_CMD_HOME
  · subst hopcode
    cases haccepted : noArgMutationAccepted SFP_CMD_HOME strict args with
    | true =>
        right
        unfold isHome
        rw [decide_eq_true_eq]
        exact ⟨rfl, haccepted⟩
    | false =>
        left
        unfold command at h
        rw [if_pos ⟨by decide, haccepted⟩] at h
        exact h
  · left
    rw [← command_home_other hopcode]
    exact h

theorem receiveLetter_home {s : UnitState} {frame : List UInt8}
    (h : (receiveLetter s frame).pending.home = true) :
    s.pending.home = true ∨ asksHome s frame = true := by
  unfold receiveLetter at h
  cases frame with
  | nil => exact .inl h
  | cons firstByte args =>
      dsimp only at h
      split at h
      · rename_i hcommand
        refine (command_home h).imp id fun hhome => ?_
        unfold asksHome
        rw [Bool.and_eq_true, decide_eq_true_eq]
        exact ⟨hcommand, hhome⟩
      · left
        split at h <;> exact h

theorem receiveLetter_attempted (s : UnitState) (frame : List UInt8) :
    (receiveLetter s frame).boot.bootHomeAttempted = s.boot.bootHomeAttempted := by
  unfold receiveLetter
  cases frame with
  | nil => rfl
  | cons firstByte args =>
      dsimp only
      split
      · rfl
      · split <;> rfl

theorem Kept.hear {c c' : Sketch} (h : Kept c) {frame : List UInt8}
    (hstep : step c (.hear frame) = some c') : Kept c' := by
  have hheard := receiveLetter_heard c.unit frame
  have hletter : (receiveLetter c.unit frame).receivedNumber < 45 := by
    obtain ⟨k, hk, hr, -⟩ | ⟨hr, -⟩ := receiveLetter_cases c.unit frame
    · omega
    · rw [hr]
      exact h.letter
  cases hstep
  -- the frame's mark changes nothing that is counted
  by_cases hasks : asksHome c.unit frame = true
  · rw [if_pos hasks]
    exact {
      driftPending := by rw [hheard.drift, hheard.homed]; exact h.driftPending
      letter := hletter
      count := by rw [hheard.homeBackoff]; exact h.count
      unhomed := by rw [hheard.homed]; exact h.unhomed
      last := by rw [hheard.homeBackoff]; exact h.last
      attempted := by rw [receiveLetter_attempted]; exact h.attempted
      asked := fun _ _ => rfl
      waited := h.waited
      flaps := by rw [hheard.homed]; exact h.flaps
      rehome := h.rehome
      rests := h.rests.cons fun _ hm => nomatch hm }
  · rw [if_neg hasks]
    exact {
      driftPending := by rw [hheard.drift, hheard.homed]; exact h.driftPending
      letter := hletter
      count := by rw [hheard.homeBackoff]; exact h.count
      unhomed := by rw [hheard.homed]; exact h.unhomed
      last := by rw [hheard.homeBackoff]; exact h.last
      attempted := by rw [receiveLetter_attempted]; exact h.attempted
      asked := fun hhome => h.asked (hhome.imp (fun hp =>
        (receiveLetter_home hp).resolve_right hasks) id)
      waited := h.waited
      flaps := by rw [hheard.homed]; exact h.flaps
      rehome := h.rehome
      rests := h.rests }

/-! ## §9. A part of the pass. -/

theorem Quiet.drained {s : UnitState} {asked : Pending → Bool} {work : UnitState → UnitState}
    (h : Quiet s (work s)) : Quiet s (drained asked work s) := by
  unfold HomeRest.drained
  split
  · exact h
  · exact Quiet.refl s

theorem Quiet.ite {s a b : UnitState} {φ : Prop} [Decidable φ] (ha : Quiet s a)
    (hb : Quiet s b) : Quiet s (if φ then a else b) := by
  split
  · exact ha
  · exact hb

theorem Quiet.bootUpdated (now : UInt32) (s : UnitState) : Quiet s (bootUpdated now s) :=
  ⟨rfl, rfl, rfl, id, .inl, .inl rfl⟩

theorem Quiet.addressSet (s : UnitState) : Quiet s (addressSet s) :=
  Quiet.ite ⟨rfl, rfl, rfl, id, .inl, .inl rfl⟩ ⟨rfl, rfl, rfl, id, .inl, .inl rfl⟩

theorem Quiet.identifyBlink (now : UInt32) (s : UnitState) : Quiet s (identifyBlink now s) :=
  Quiet.ite (Quiet.refl s) ⟨rfl, rfl, rfl, id, .inl, .inl rfl⟩

theorem Quiet.sampled (currentMillis : UInt32) (vcc : UInt16) (s : UnitState) :
    Quiet s (sampled currentMillis vcc s) :=
  Quiet.ite ⟨rfl, rfl, rfl, id, .inl, .inl rfl⟩ (Quiet.refl s)

theorem Quiet.slept (currentMillis : UInt32) (s : UnitState) : Quiet s (slept currentMillis s) :=
  Quiet.ite ⟨rfl, rfl, rfl, id, .inl, .inl rfl⟩ (Quiet.refl s)

theorem Quiet.letterWithdrawn (s : UnitState) :
    Quiet s (letterWithdrawn { s with unread := false }) :=
  Quiet.ite ⟨rfl, rfl, rfl, id, .inl, .inl rfl⟩ ⟨rfl, rfl, rfl, id, .inl, .inl rfl⟩

/-- The idle check looks at a homed drum only. -/
theorem Quiet.idleChecked (currentMillis : UInt32) (hallLow : Bool) (s : UnitState) :
    Quiet s (idleChecked currentMillis hallLow s) := by
  unfold HomeRest.idleChecked
  split
  · exact ⟨rfl, rfl, rfl, id, .inl, .inl rfl⟩
  · rename_i heligible
    refine Quiet.ite ⟨rfl, rfl, rfl, id, fun _ => .inr ?_, .inl rfl⟩ (Quiet.refl s)
    rw [Bool.not_eq_false] at heligible
    unfold idleHallEligible at heligible
    simp only [Bool.and_eq_true] at heligible
    tauto

/-- So does the step watch. -/
theorem Quiet.flapStepped (w : Watch) (hallLow : Bool) {s : UnitState} (h : s.homed = true) :
    Quiet s (flapStepped w hallLow s) := by
  unfold HomeRest.flapStepped
  exact Quiet.ite ⟨rfl, rfl, rfl, id, fun _ => .inr h, .inl rfl⟩
    ⟨rfl, rfl, rfl, id, .inl, .inl rfl⟩

theorem Quiet.rehomeJudged (now : UInt32) (before s : UnitState) :
    Quiet s (awake now (rehomeJudged before s)) := by
  unfold Motion.rehomeJudged
  split
  · exact ⟨rfl, rfl, rfl, id, .inl, .inl rfl⟩
  · split <;> exact ⟨rfl, rfl, rfl, id, .inl, .inl rfl⟩

theorem Kept.fails {c : Sketch} (h : Kept c) {T : Nat} (hT : lastFailure c.log = some T) :
    failures c.log ≠ 0 ∧ c.unit.homeBackoff.consecutiveFails ≠ 0 := by
  have hfail : failures c.log ≠ 0 := by
    intro hzero
    rw [(lastFailure_none_iff c.log).mpr hzero] at hT
    cases hT
  refine ⟨hfail, fun hzero => ?_⟩
  have hcount := h.count
  rw [hzero] at hcount
  have : (0 : UInt8).toNat = 0 := rfl
  omega

/-- A HOME that is not refused has waited the base gap. -/
theorem Kept.restedHome {c : Sketch} (h : Kept c) (hstage : c.stage.isGuard = true)
    (hallowed : homeCommandAllowed c.unit.homeBackoff c.now = true) : RestedAt c.t c.log := by
  intro T hT
  obtain ⟨hle, hend⟩ := h.last T hT
  have hasked := h.asked (.inr hstage) (by rw [hT]; exact Option.some_ne_none T)
  refine ⟨?_, fun hnot => ?_⟩
  · unfold homeCommandAllowed at hallowed
    rw [Bool.or_eq_true, decide_eq_true_eq, decide_eq_true_eq, hend] at hallowed
    exact Clock.waited hle (hallowed.resolve_left (h.fails hT).2)
  · rw [hasked] at hnot
    cases hnot

/-- The wait that a letter move of an unhomed unit has behind it. -/
theorem Kept.attemptAllowed {c : Sketch} (h : Kept c)
    (hallowed : ¬(c.unit.homed = false ∧ homeAttemptAllowed c.unit.homeBackoff c.now = false))
    {T : Nat} (hT : lastFailure c.log = some T) : T + retryWait c.log ≤ c.t := by
  obtain ⟨hle, hend⟩ := h.last T hT
  obtain ⟨hfail, hcount⟩ := h.fails hT
  have hattempt : homeAttemptAllowed c.unit.homeBackoff c.now = true := by
    by_contra hnot
    exact hallowed ⟨h.unhomed hfail, Bool.not_eq_true _ ▸ hnot⟩
  unfold homeAttemptAllowed at hattempt
  rw [Bool.or_eq_true, decide_eq_true_eq, decide_eq_true_eq, hend] at hattempt
  have hwait := Clock.waited hle (hattempt.resolve_left hcount)
  rw [h.backoff] at hwait
  exact hwait

theorem Kept.base_le {c : Sketch} (h : Kept c) {T : Nat} (hT : lastFailure c.log = some T) :
    30000 ≤ retryWait c.log := by
  unfold retryWait
  rw [← h.backoff]
  exact homeRetryWaitMs_base (h.fails hT).2

theorem Kept.restedLetter {c : Sketch} (h : Kept c) (hstage : c.stage.waited = true) :
    RestedAt c.t c.log := by
  intro T hT
  have hwait := h.waited hstage T hT
  have hbase := h.base_le hT
  exact ⟨by omega, fun _ => hwait⟩

theorem RestedAt.none {t : Nat} {log : List Mark} (h : lastFailure log = none) :
    RestedAt t log := by
  intro T hT
  rw [h] at hT
  cases hT

theorem Kept.go {c c' : Sketch} (h : Kept c) {o : Looks} (hgo : c.go o = some c') : Kept c' := by
  unfold Sketch.go at hgo
  dsimp only at hgo
  cases hstage : c.stage with
  | silence =>
      rw [hstage] at hgo
      cases hgo
      exact h.pass.plain ⟨rfl, rfl, rfl, id, .inl, .inl rfl⟩ rfl rfl rfl
  | bootloader =>
      rw [hstage] at hgo
      cases hgo
      refine h.plain (Quiet.refl _) rfl rfl ?_
      show (if c.unit.pending.bootloader = true then Stage.rebooting
        else Stage.offsetWrite).plain = true
      split <;> rfl
  | rebooting =>
      rw [hstage] at hgo
      cases hgo
  | offsetWrite =>
      rw [hstage] at hgo
      cases hgo
      exact h.plain (Quiet.drained ⟨rfl, rfl, rfl, id, .inl, .inl rfl⟩) rfl rfl rfl
  | gatesWrite =>
      rw [hstage] at hgo
      cases hgo
      exact h.plain (Quiet.drained ⟨rfl, rfl, rfl, id, .inl, .inl rfl⟩) rfl rfl rfl
  | bootUpdate =>
      rw [hstage] at hgo
      cases hgo
      exact h.plain (Quiet.drained ⟨rfl, rfl, rfl, id, .inl, .inl rfl⟩) rfl rfl rfl
  | home =>
      rw [hstage] at hgo
      cases hgo
      split
      · rename_i hhome
        exact h.moves ⟨rfl, rfl, rfl, (fun hd => nomatch hd), .inl, .inl rfl⟩ rfl rfl rfl
          (fun _ => hhome) (fun hw => nomatch hw) (fun hf => nomatch hf)
      · exact h.plain (Quiet.refl _) rfl rfl rfl
  | homeGuard =>
      rw [hstage] at hgo
      cases hgo
      split
      · rename_i hallowed
        exact h.begins .home (h.restedHome (by rw [hstage]; rfl) hallowed) fun _ hs => nomatch hs
      · exact h.plain ⟨rfl, rfl, rfl, id, .inl, .inl rfl⟩ rfl rfl rfl
  | jog =>
      rw [hstage] at hgo
      cases hgo
      split
      · exact h.plain ⟨rfl, rfl, rfl, id, .inl, .inl rfl⟩ rfl rfl rfl
      · exact h.plain (Quiet.refl _) rfl rfl rfl
  | jogOver =>
      rw [hstage] at hgo
      cases hgo
      exact h.plain ⟨rfl, rfl, rfl, id, .inl, .inl rfl⟩ rfl rfl rfl
  | setAddress =>
      rw [hstage] at hgo
      cases hgo
      exact h.plain (Quiet.drained (Quiet.addressSet _)) rfl rfl rfl
  | clearAddress =>
      rw [hstage] at hgo
      cases hgo
      exact h.plain (Quiet.drained ⟨rfl, rfl, rfl, id, .inl, .inl rfl⟩) rfl rfl rfl
  | odometerReset =>
      rw [hstage] at hgo
      cases hgo
      exact h.plain (Quiet.drained ⟨rfl, rfl, rfl, id, .inl, .inl rfl⟩) rfl rfl rfl
  | selfTest =>
      rw [hstage] at hgo
      dsimp only at hgo
      split at hgo
      · cases hgo
      · cases hgo
        exact h.plain (Quiet.refl _) rfl rfl rfl
  | identify =>
      rw [hstage] at hgo
      cases hgo
      exact h.plain (Quiet.drained ⟨rfl, rfl, rfl, id, .inl, .inl rfl⟩) rfl rfl rfl
  | clock =>
      rw [hstage] at hgo
      cases hgo
      exact h.plain (Quiet.identifyBlink _ _) rfl rfl rfl
  | bootHome =>
      rw [hstage] at hgo
      cases hgo
      split
      · rename_i hdue
        have hnone : lastFailure c.log = none := by
          by_contra hfail
          have hattempted := h.attempted (.inl hfail)
          rw [hdue.2.1] at hattempted
          cases hattempted
        exact h.begins .boot (RestedAt.none hnone) fun _ hs => nomatch hs
      · exact h.plain (Quiet.refl _) rfl rfl rfl
  | idleSample =>
      rw [hstage] at hgo
      cases hgo
      exact h.plain (Quiet.sampled _ _ _) rfl rfl rfl
  | idleHall =>
      rw [hstage] at hgo
      cases hgo
      exact h.plain (Quiet.idleChecked _ _ _) rfl rfl rfl
  | driftCheck =>
      rw [hstage] at hgo
      cases hgo
      split
      · rename_i hdue
        have hhomed : c.unit.homed = true := by
          unfold driftRehomeDue at hdue
          simp only [Bool.and_eq_true] at hdue
          exact h.driftPending hdue.1.1.1
        have hnoted : Kept (c.on .driftCheck (rehomeNoted c.currentMillis c.unit)) :=
          h.plain ⟨rfl, rfl, rfl, id, .inl, .inl rfl⟩ rfl rfl rfl
        refine hnoted.begins _ (RestedAt.none (h.none_failed_of_homed hhomed)) ?_
        rintro before hs
        cases hs
        exact hhomed
      · exact h.plain (Quiet.refl _) rfl rfl rfl
  | sleep =>
      rw [hstage] at hgo
      cases hgo
      exact h.plain (Quiet.slept _ _) rfl rfl rfl
  | letter =>
      rw [hstage] at hgo
      cases hgo
      split
      · exact h.plain ⟨rfl, rfl, rfl, id, .inl, .inl rfl⟩ rfl rfl rfl
      · exact h.plain (Quiet.letterWithdrawn _) rfl rfl rfl
  | rotate =>
      rw [hstage] at hgo
      cases hgo
      split
      · exact h.plain ⟨rfl, rfl, rfl, id, .inl, .inl rfl⟩ rfl rfl rfl
      · exact h.plain ⟨rfl, rfl, rfl, id, .inl, .inl rfl⟩ rfl rfl rfl
  | attempt toLetter =>
      rw [hstage] at hgo
      cases hgo
      split
      · exact h.plain (Quiet.refl _) rfl rfl rfl
      · rename_i hallowed
        exact h.moves (Quiet.refl _) rfl rfl rfl (fun hg => nomatch hg)
          (fun _ T hT => h.attemptAllowed hallowed hT) fun hf => nomatch hf
  | heat toLetter =>
      rw [hstage] at hgo
      cases hgo
      split
      · exact h.moves (Quiet.refl _) rfl rfl rfl (fun hg => nomatch hg)
          (fun _ => h.waited (by rw [hstage]; rfl)) fun hf => nomatch hf
      · exact h.plain ⟨rfl, rfl, rfl, id, .inl, .inl rfl⟩ rfl rfl rfl
  | supply toLetter =>
      rw [hstage] at hgo
      cases hgo
      split
      · exact h.plain ⟨rfl, rfl, rfl, id, .inl, .inl rfl⟩ rfl rfl rfl
      · exact h.moves ⟨rfl, rfl, rfl, id, .inl, .inl rfl⟩ rfl rfl rfl (fun hg => nomatch hg)
          (fun _ => h.waited (by rw [hstage]; rfl)) fun hf => nomatch hf
  | commit toLetter =>
      rw [hstage] at hgo
      cases hgo
      split
      · rename_i hdirect
        exact h.moves ⟨rfl, rfl, rfl, id, .inl, .inl rfl⟩ rfl rfl rfl (fun hg => nomatch hg)
          (fun hw => nomatch hw) fun _ => hdirect.1
      · have hcommitted : Kept (c.on (.commit toLetter) (committed c.now c.unit)) :=
          h.moves ⟨rfl, rfl, rfl, id, .inl, .inl rfl⟩ rfl rfl rfl (fun hg => nomatch hg)
            (fun _ => h.waited (by rw [hstage]; rfl)) fun hf => nomatch hf
        exact hcommitted.begins _ (h.restedLetter (by rw [hstage]; rfl)) fun _ hs => nomatch hs
  | seeking who =>
      rw [hstage] at hgo
      cases hgo
  | seekOver who found =>
      rw [hstage] at hgo
      cases hgo
      cases who with
      | home => exact h.plain ⟨rfl, rfl, rfl, id, .inl, .inr rfl⟩ rfl rfl rfl
      | boot => exact h.plain ⟨rfl, rfl, rfl, id, .inl, .inr rfl⟩ rfl rfl rfl
      | drift before => exact h.plain (Quiet.rehomeJudged _ _ _) rfl rfl rfl
      | letter toLetter =>
          cases found with
          | false => exact h.plain (Quiet.refl _) rfl rfl rfl
          | true =>
              exact h.moves (Quiet.refl _) rfl rfl rfl (fun hg => nomatch hg)
                (fun hw => nomatch hw) fun _ => h.flaps (by rw [hstage]; rfl)
  | flaps toLetter flaps =>
      rw [hstage] at hgo
      cases hgo
      exact h.moves (Quiet.refl _) rfl rfl rfl (fun hg => nomatch hg) (fun hw => nomatch hw)
        fun _ => h.flaps (by rw [hstage]; rfl)
  | flapping toLetter flaps steps w =>
      rw [hstage] at hgo
      cases hgo
      have hhomed : c.unit.homed = true := h.flaps (by rw [hstage]; rfl)
      cases steps with
      | succ steps =>
          exact h.moves (Quiet.flapStepped _ _ hhomed) rfl rfl rfl (fun hg => nomatch hg)
            (fun hw => nomatch hw) fun _ => hhomed
      | zero =>
          cases flaps with
          | succ flaps =>
              exact h.moves ⟨rfl, rfl, rfl, id, .inl, .inl rfl⟩ rfl rfl rfl
                (fun hg => nomatch hg) (fun hw => nomatch hw) fun _ => hhomed
          | zero => exact h.plain ⟨rfl, rfl, rfl, id, .inl, .inl rfl⟩ rfl rfl rfl

theorem step_seekEnds {c c' : Sketch} {steps : Nat} {found : Bool}
    (hstep : step c (.seekEnds steps found) = some c') :
    ∃ who, c.stage = .seeking who ∧ c' = c.seekEnds who steps found := by
  unfold step at hstep
  dsimp only at hstep
  split at hstep
  · rename_i who hstage
    cases hstep
    exact ⟨who, hstage, rfl⟩
  · cases hstep

theorem Kept.step {c c' : Sketch} (h : Kept c) {a : Happens} (hstep : step c a = some c') :
    Kept c' := by
  cases a with
  | tick ms =>
      cases hstep
      exact h.tick ms
  | hear frame => exact h.hear hstep
  | go o => exact h.go hstep
  | seekEnds steps found =>
      obtain ⟨who, hstage, rfl⟩ := step_seekEnds hstep
      exact h.seekEnds hstage steps found

theorem run_kept {c c' : Sketch} (h : Kept c) {labels : List Happens}
    (hrun : run step c labels = some c') : Kept c' :=
  run_invariant (fun _ _ _ hc hstep => hc.step hstep) h hrun

/-! ## §10. The retry that is owed. -/

/-- What a part of the letter check waits for is over. -/
def GateOver (c : Sketch) : Happens → Prop
  | .go o =>
      match c.stage with
      | .attempt _ => ∀ T, lastFailure c.log = some T → retryWait c.log ≤ (c.t - T) % 2 ^ 32
      | .heat _ => c.unit.lastRotation = 0 ∨ OVERHEAT_MS < c.now - c.unit.lastRotation
      | .supply _ => (supplyHold o.vcc c.now c.unit).1 = false
      | _ => True
  | _ => True

/-- A seek began since the log was `log`. -/
def Begun (log log' : List Mark) : Prop :=
  ∃ late t early, log' = late ++ .begins t :: early ∧ log <:+ early

/-- Nothing is taken out of the log. -/
theorem go_log {c c' : Sketch} {o : Looks} (hgo : c.go o = some c') :
    c'.log = c.log ∨ ∃ m, c'.log = m :: c.log := by
  unfold Sketch.go at hgo
  dsimp only at hgo
  cases hstage : c.stage with
  | seekOver who found =>
      rw [hstage] at hgo
      cases hgo
      cases who <;> exact .inl rfl
  | flapping toLetter flaps steps w =>
      rw [hstage] at hgo
      cases hgo
      cases steps with
      | succ steps => exact .inl rfl
      | zero => cases flaps <;> exact .inl rfl
  | selfTest =>
      rw [hstage] at hgo
      dsimp only at hgo
      split at hgo
      · cases hgo
      · cases hgo
        exact .inl rfl
  | rebooting =>
      rw [hstage] at hgo
      cases hgo
  | seeking who =>
      rw [hstage] at hgo
      cases hgo
  | silence =>
      rw [hstage] at hgo
      cases hgo
      exact .inr ⟨_, rfl⟩
  | _ =>
      rw [hstage] at hgo
      cases hgo
      first
        | exact .inl rfl
        | split <;> first | exact .inl rfl | exact .inr ⟨_, rfl⟩

theorem step_log {c c' : Sketch} {a : Happens} (hstep : step c a = some c') :
    c.log <:+ c'.log := by
  cases a with
  | tick ms =>
      cases hstep
      exact List.suffix_refl _
  | hear frame =>
      cases hstep
      show c.log <:+ if asksHome c.unit frame = true then .heardHome c.t :: c.log else c.log
      split
      · exact List.suffix_cons _ _
      · exact List.suffix_refl _
  | go o =>
      obtain hlog | ⟨m, hlog⟩ := go_log hstep
      · exact hlog ▸ List.suffix_refl _
      · exact hlog ▸ List.suffix_cons _ _
  | seekEnds steps found =>
      obtain ⟨who, -, rfl⟩ := step_seekEnds hstep
      cases found <;> exact List.suffix_cons _ _

theorem Begun.grow {log log' log'' : List Mark} (h : Begun log log') (hgrow : log' <:+ log'') :
    Begun log log'' := by
  obtain ⟨late, t, early, hlog, hsuffix⟩ := h
  obtain ⟨later, hlater⟩ := hgrow
  refine ⟨later ++ late, t, early, ?_, hsuffix⟩
  rw [← hlater, hlog, List.append_assoc]

def Stage.checks : Stage → Bool
  | .letter => true
  | .rotate => true
  | .attempt _ => true
  | .heat _ => true
  | .supply _ => true
  | .commit _ => true
  | _ => false

/-- The letter check of a unit that owes a retry, and nothing has stopped it. -/
structure Checking (log : List Mark) (c : Sketch) : Prop where
  kept : Kept c
  stage : c.stage.checks = true
  owed : lastFailure c.log ≠ none
  grown : log <:+ c.log

theorem Checking.attempt {log : List Mark} {c : Sketch} (h : Checking log c)
    (hover : ∀ T, lastFailure c.log = some T → retryWait c.log ≤ (c.t - T) % 2 ^ 32) :
    homeAttemptAllowed c.unit.homeBackoff c.now = true := by
  obtain ⟨T, hT⟩ := Option.ne_none_iff_exists'.mp h.owed
  obtain ⟨hle, hend⟩ := h.kept.last T hT
  have hwait := hover T hT
  unfold homeAttemptAllowed
  rw [Bool.or_eq_true, decide_eq_true_eq, decide_eq_true_eq]
  right
  rw [UInt32.le_iff_toNat_le, hend, h.kept.backoff]
  unfold Sketch.now
  rw [elapsed hle]
  exact hwait

theorem Checking.go {log : List Mark} {c c' : Sketch} (h : Checking log c) {o : Looks}
    (hover : GateOver c (.go o)) (hgo : c.go o = some c') :
    Checking log c' ∨ Begun log c'.log := by
  have hkept : Kept c' := h.kept.go hgo
  obtain ⟨T, hT⟩ := Option.ne_none_iff_exists'.mp h.owed
  obtain ⟨hfail, hcount⟩ := h.kept.fails hT
  have hunhomed := h.kept.unhomed hfail
  have hstage := h.stage
  unfold GateOver at hover
  unfold Sketch.go at hgo
  dsimp only at hgo hover
  cases hc : c.stage with
  | letter =>
      rw [hc] at hgo
      have howed : homeRetryOwed c.unit.homeBackoff = true := decide_eq_true hcount
      rw [Option.some.injEq, if_pos (.inr howed)] at hgo
      cases hgo
      exact .inl ⟨hkept, rfl, h.owed, h.grown⟩
  | rotate =>
      rw [hc] at hgo
      have hletter := h.kept.letter
      rw [Option.some.injEq, if_neg (by show ¬45 ≤ c.unit.receivedNumber; omega)] at hgo
      cases hgo
      exact .inl ⟨hkept, rfl, h.owed, h.grown⟩
  | attempt toLetter =>
      rw [hc] at hgo hover
      have hallowed := h.attempt hover
      rw [Option.some.injEq, if_neg (by rw [hallowed]; exact fun hn => nomatch hn.2)] at hgo
      cases hgo
      exact .inl ⟨hkept, rfl, h.owed, h.grown⟩
  | heat toLetter =>
      rw [hc] at hgo hover
      rw [Option.some.injEq, if_pos hover] at hgo
      cases hgo
      exact .inl ⟨hkept, rfl, h.owed, h.grown⟩
  | supply toLetter =>
      rw [hc] at hgo hover
      dsimp only at hgo hover
      rw [Option.some.injEq, if_neg (by rw [hover]; exact Bool.noConfusion)] at hgo
      cases hgo
      exact .inl ⟨hkept, rfl, h.owed, h.grown⟩
  | commit toLetter =>
      rw [hc] at hgo
      rw [Option.some.injEq, if_neg (by rw [hunhomed]; exact fun hn => nomatch hn.1)] at hgo
      cases hgo
      exact .inr ⟨[], c.t, c.log, rfl, h.grown⟩
  | _ =>
      rw [hc] at hstage
      cases hstage

theorem Checking.step {log : List Mark} {c c' : Sketch} (h : Checking log c) {a : Happens}
    (hover : GateOver c a) (hstep : step c a = some c') : Checking log c' ∨ Begun log c'.log := by
  have hkept := h.kept.step hstep
  cases a with
  | tick ms =>
      cases hstep
      exact .inl ⟨hkept, h.stage, h.owed, h.grown⟩
  | hear frame =>
      have hgrown := h.grown.trans (step_log hstep)
      cases hstep
      refine .inl ⟨hkept, h.stage, ?_, hgrown⟩
      show lastFailure (if asksHome c.unit frame = true then .heardHome c.t :: c.log
        else c.log) ≠ none
      split <;> exact h.owed
  | go o => exact h.go hover hstep
  | seekEnds steps found =>
      obtain ⟨who, hseeking, -⟩ := step_seekEnds hstep
      have hstage := h.stage
      rw [hseeking] at hstage
      cases hstage

/-- A letter check that meets no gate shut ends in the retry. -/
theorem run_begun {c c' : Sketch} (h : Kept c) (hstage : c.stage = .letter)
    (howed : lastFailure c.log ≠ none) {more : List Happens}
    (hover : AllMeet GateOver step c more) (hrun : run step c more = some c')
    (hpass : c'.stage = .silence) : Begun c.log c'.log := by
  have hchecking : Checking c.log c := ⟨h, by rw [hstage]; rfl, howed, List.suffix_refl _⟩
  have hended := run_invariant_of_meets
    (P := fun d => Checking c.log d ∨ Begun c.log d.log) ?_ (.inl hchecking) hover hrun
  · obtain hended | hended := hended
    · have := hended.stage
      rw [hpass] at this
      cases this
    · exact hended
  · rintro d a d' (hd | hd) hgate hstep
    · exact hd.step hgate hstep
    · exact .inr (hd.grow (step_log hstep))

/-- Every seek after a failure has left the motor its rest, an unhomed unit steps no flap and
re-homes for no drift, and a retry that is owed starts in the first letter check that finds
its gates open. -/
theorem drum_rests (e : Stored) (turned : Int) {labels : List Happens} {c : Sketch}
    (hrun : run step (boot e turned) labels = some c) :
    Rests c.log ∧
      (c.unit.homed = false → c.stage.stepsFlaps = false) ∧
      (∀ before, c.stage = .seeking (.drift before) → before.homed = true) ∧
      (c.stage = .letter → lastFailure c.log ≠ none →
        ∀ more c', AllMeet GateOver step c more → run step c more = some c' →
          c'.stage = .silence → Begun c.log c'.log) := by
  have hkept := run_kept (Kept.boot e turned) hrun
  refine ⟨hkept.rests, fun hunhomed => ?_, hkept.rehome, fun hstage howed more c' hover hmore => ?_⟩
  · by_contra hflaps
    rw [Bool.not_eq_false] at hflaps
    have hhomed := hkept.flaps hflaps
    rw [hunhomed] at hhomed
    cases hhomed
  · exact run_begun hkept hstage howed hover hmore

/-! ## §11. Two runs. -/

/-- So many parts of the loop, with nothing to see outside. -/
def goes (n : Nat) : List Happens := List.replicate n (.go {})

/-- A letter comes in, and its seek fails after 20 s. -/
def firstFailure : List Happens :=
  .hear [5, 0] :: goes 24 ++ [.tick 20000, .seekEnds 6116 false, .go {}]

/-- The retry fails too, and a HOME comes in while it seeks. -/
def homeHeardSeeking : List Happens :=
  firstFailure ++ .tick 30000 :: goes 24 ++
    [.hear [SFP_CMD_HOME], .tick 20000, .seekEnds 6116 false, .go {}, .tick 30000] ++ goes 7

/-- A day, and a pass with a jog in it. -/
def joggedDay : List Happens := .tick 86400000 :: .hear [SFP_CMD_JOG, 1] :: goes 23

/-- 49 such days, and then a pass as far as its letter check: 5 s more than a round of the
clock after the failure. -/
def joggedRound : List Happens :=
  firstFailure ++ goes 21 ++ (List.replicate 49 joggedDay).flatten ++ .tick 61372296 :: goes 18

def Stage.isLetter : Stage → Bool
  | .letter => true
  | _ => false

def Stage.isSilence : Stage → Bool
  | .silence => true
  | _ => false

theorem Stage.eq_silence {stage : Stage} (h : stage.isSilence = true) : stage = .silence := by
  cases stage with
  | silence => rfl
  | _ => cases h

theorem Stage.eq_letter {stage : Stage} (h : stage.isLetter = true) : stage = .letter := by
  cases stage with
  | letter => rfl
  | _ => cases h

/-- What a run comes to, computed. -/
theorem run_meets {labels : List Happens} {c : Sketch} {P : Sketch → Prop} [DecidablePred P]
    (h : ((run step c labels).any fun d => decide (P d)) = true) :
    ∃ d, run step c labels = some d ∧ P d := by
  rw [Option.any_eq_true] at h
  obtain ⟨d, hd, hP⟩ := h
  exact ⟨d, hd, of_decide_eq_true hP⟩

theorem drum_rests_retried :
    ∃ c, run step (boot {} 0) homeHeardSeeking = some c ∧
      c.log = [.begins 100000, .pass 100000, .failed 70000 true, .heardHome 50000, .begins 50000,
        .pass 50000, .failed 20000 false, .begins 0, .pass 0] ∧ Rests c.log := by
  obtain ⟨c, hrun, hlog⟩ := run_meets (P := fun c => c.log = [.begins 100000, .pass 100000,
    .failed 70000 true, .heardHome 50000, .begins 50000, .pass 50000, .failed 20000 false,
    .begins 0, .pass 0])
    (by decide +kernel : ((run step (boot {} 0) homeHeardSeeking).any _) = true)
  exact ⟨c, hrun, hlog, (drum_rests {} 0 hrun).1⟩

/-- No two passes are more than a day apart. -/
def passesDaily (log : List Mark) : Bool :=
  let times := log.filterMap fun m => match m with
    | .pass t => some t
    | _ => none
  (times.zip times.tail).all fun pair => pair.1 ≤ pair.2 + 86400000

/-- A HOME that waits as a seek fails cuts the next wait to the base gap, none having come in
since; and a retry that jogs put off for a round of the clock is not due when they end. -/
theorem rest_cut_and_retry_late :
    (∃ c early, run step (boot {} 0) homeHeardSeeking = some c ∧
      c.log = .begins 100000 :: .pass 100000 :: .failed 70000 true :: early ∧
        100000 < 70000 + retryWait (.pass 100000 :: .failed 70000 true :: early)) ∧
    ∃ c c', run step (boot {} 0) joggedRound = some c ∧ passesDaily c.log = true ∧
      c.stage = .letter ∧ lastFailure c.log = some 20000 ∧ 20000 + retryWait c.log ≤ c.t ∧
      OVERHEAT_MS < c.now - c.unit.lastRotation ∧ (supplyHold 0 c.now c.unit).1 = false ∧
      run step c (goes 3) = some c' ∧ c'.stage = .silence ∧ c'.log = c.log := by
  constructor
  · obtain ⟨c, hrun, hlog⟩ := run_meets (P := fun c => c.log = [.begins 100000, .pass 100000,
      .failed 70000 true, .heardHome 50000, .begins 50000, .pass 50000, .failed 20000 false,
      .begins 0, .pass 0])
      (by decide +kernel : ((run step (boot {} 0) homeHeardSeeking).any _) = true)
    exact ⟨c, _, hrun, hlog, by decide +kernel⟩
  · obtain ⟨c, hrun, hdaily, hletter, hfailed, hwait, hheat, hsupply, hon⟩ := run_meets
      (P := fun c => passesDaily c.log = true ∧ c.stage.isLetter = true ∧
        lastFailure c.log = some 20000 ∧ 20000 + retryWait c.log ≤ c.t ∧
        OVERHEAT_MS < c.now - c.unit.lastRotation ∧ (supplyHold 0 c.now c.unit).1 = false ∧
        ((run step c (goes 3)).any fun c' =>
          decide (c'.stage.isSilence = true ∧ c'.log = c.log)) = true)
      (by decide +kernel : ((run step (boot {} 0) joggedRound).any _) = true)
    obtain ⟨c', hrun', hsilence, hlog⟩ := run_meets hon
    exact ⟨c, c', hrun, hdaily, Stage.eq_letter hletter, hfailed, hwait, hheat, hsupply, hrun',
      Stage.eq_silence hsilence, hlog⟩

end SplitFlap.HomeRest
