/-
  SplitFlap.Unit.BootUpdateOp — the update of one unit's bootloader, as both row
  masters run it.

  `BootUpdateOp.h`: read the unit's report, decide which stages it needs, drive
  them and verify.  The hooks are the row's tree: the bus, the drum and the
  clock may answer anything after anything.  What the operation asked and was
  told is the log, and everything said of a run is said of its log.
-/
import SplitFlap.Lib.Trace
import SplitFlap.Unit.BootSection
import SplitFlap.Unit.Replies

namespace SplitFlap

open Trace
open Boot (bootLockPermitsBootWrite)

/-! ## §1. The plan (`BootUpdatePlan.h`). -/

/-- An unreadable lock is treated as open. -/
def bootEffectiveLockByte (r : BootUpdateReport) : UInt8 :=
  if r.lockFuseReadable then r.lockByte else 0xFF

/-- In a report as it comes off the bus the two are the same byte. -/
theorem bootInfoDecode_lockByte {buf : Vector UInt8 11} {out : BootUpdateReport}
    (hvalid : (bootInfoDecode buf out).1 = true) :
    bootEffectiveLockByte (bootInfoDecode buf out).2 = (bootInfoDecode buf out).2.lockByte := by
  unfold bootInfoDecode maskedDecode at hvalid ⊢
  split at hvalid
  · exact (nomatch hvalid)
  · next hsealed =>
      rw [if_neg hsealed]
      split at hvalid
      · exact (nomatch hvalid)
      · next haccepted =>
          rw [if_neg haccepted]
          unfold bootEffectiveLockByte
          dsimp only
          split
          · rfl
          · next hflag =>
              rw [decide_eq_true_eq] at hflag
              rw [if_neg hflag]

inductive BootUpdateTerminal where
  | proceed
  | alreadyNew
  | lockRefused
  | unknownState
  deriving DecidableEq

structure BootUpdatePlan where
  needStage1 : Bool
  needStage2 : Bool
  terminal : BootUpdateTerminal
  deriving DecidableEq

abbrev BOOT_STATE_OLD : UInt8 := BootSectionState.old.toByte
abbrev BOOT_STATE_PAGE7_INSTALLED : UInt8 := BootSectionState.page7Installed.toByte
abbrev BOOT_STATE_TRAMPOLINE : UInt8 := BootSectionState.trampoline.toByte
abbrev BOOT_STATE_NEW : UInt8 := BootSectionState.new.toByte
abbrev BOOT_STATE_PREV_NEW : UInt8 := BootSectionState.prevNew.toByte

/-- The stages a state asks for: the first, the second. -/
def bootStagesNeeded (state : UInt8) : Option (Bool × Bool) :=
  if state = BOOT_STATE_OLD then some (true, true)
  else if state = BOOT_STATE_PAGE7_INSTALLED ∨ state = BOOT_STATE_TRAMPOLINE ∨
      state = BOOT_STATE_PREV_NEW then some (false, true)
  else none

/-- The state before the lock: a new unit is never told that its lock refuses. -/
def bootUpdateDecide (info : BootUpdateReport) : BootUpdatePlan :=
  if info.state = BOOT_STATE_NEW then
    { needStage1 := false, needStage2 := false, terminal := .alreadyNew }
  else
    match bootStagesNeeded info.state with
    | none => { needStage1 := false, needStage2 := false, terminal := .unknownState }
    | some (needStage1, needStage2) =>
        if !bootLockPermitsBootWrite (bootEffectiveLockByte info) then
          { needStage1 := false, needStage2 := false, terminal := .lockRefused }
        else { needStage1 := needStage1, needStage2 := needStage2, terminal := .proceed }

inductive BootUpdateFailure where
  | none
  | busy
  | lock
  | state
  | verify
  deriving DecidableEq

def bootResultFailure (lastResult : UInt8) : BootUpdateFailure :=
  if lastResult = BootUpdateResult.refusedBusy.toByte then .busy
  else if lastResult = BootUpdateResult.refusedLock.toByte then .lock
  else if lastResult = BootUpdateResult.refusedState.toByte then .state
  else if lastResult = BootUpdateResult.verifyFailed.toByte then .verify
  else .none

inductive BootPollVerdict where
  | wait
  | done
  | failed
  deriving DecidableEq

/-- One report read while stage 2 should run; a failure equal to the result from
before the request proves nothing. -/
def bootStage2Poll (now : BootUpdateReport) (resultBeforeSend : UInt8) : BootPollVerdict :=
  if now.state = BOOT_STATE_NEW then .done
  else if bootResultFailure now.lastResult ≠ .none ∧ now.lastResult ≠ resultBeforeSend then
    .failed
  else .wait

/-! ## §2. What an operation amounts to (`MaintenancePolicy.h`). -/

inductive MaintOutcome where
  | pending
  | ok
  | wireFail
  | execValidationFail
  | postconditionFail
  deriving DecidableEq

inductive MaintReason where
  | none
  | unitMissingAfterReprobe
  | targetAddressOccupied
  | bootInfoReadFail
  | bootStateUnknown
  | bootLockRefused
  | bootUnitLost
  | bootVerifyFailed
  | bootAlreadyNew
  | bootUnitBusy
  | bootNotStarted
  | homeNotFound
  | homeNotEnded
  deriving DecidableEq

def maintReasonForBootFailure (f : BootUpdateFailure) (whenNone : MaintReason) : MaintReason :=
  match f with
  | .busy => .bootUnitBusy
  | .lock => .bootLockRefused
  | .state => .bootStateUnknown
  | .verify => .bootVerifyFailed
  | .none => whenNone

structure MaintGrade where
  outcome : MaintOutcome
  reason : MaintReason
  deriving DecidableEq

namespace BootUpdateOp

/-! ## §3. The hooks. -/

abbrev UNIT_RETURN_TIMEOUT_MS : Nat := 10000
abbrev UNIT_HOME_TIMEOUT_MS : Nat := 20000
abbrev BOOT_UPDATE_STAGE2_SETTLE_MS : Nat := 300
abbrev BOOT_UPDATE_STAGE2_POLL_MS : UInt32 := 5000
abbrev BOOT_UPDATE_IDLE_MS : Nat := 8000

/-- Where the operation is when it notes something. -/
inductive BootUpdateStep where
  | readInfo
  | plan
  | settle
  | stage1
  | stage2
  | done
  deriving DecidableEq

/-- A call of a hook, with what it answered. -/
inductive BootOpEvent where
  | read (ok : Bool) (out : BootUpdateReport)
  | waited (timeoutMs : Nat) (idle : Bool)
  | sent (stage : UInt8) (status : Int)
  | homed (status : Int)
  | isHomed (yes : Bool)
  | unitLeftSketch
  | heldProbes
  | paused (ms : Nat)
  | clock (now : UInt32)
  | reshown
  | noted (step : BootUpdateStep) (why : MaintReason) (info : BootUpdateReport)
  deriving DecidableEq

/-- The row's tree.  A failed read may leave anything in its report. -/
structure BootUpdateHooks where
  readBootInfo : List BootOpEvent → BootUpdateReport → Bool × BootUpdateReport
  waitIdle : List BootOpEvent → Nat → Bool
  sendStage : List BootOpEvent → UInt8 → Int
  home : List BootOpEvent → Int
  isHomed : List BootOpEvent → Bool
  nowMs : List BootOpEvent → UInt32

abbrev BootOp (α : Type) := Trace BootOpEvent α

variable (h : BootUpdateHooks)

def readBootInfo (out : BootUpdateReport) : BootOp (Bool × BootUpdateReport) :=
  ask (fun log => h.readBootInfo log out) fun r => .read r.1 r.2

def waitIdle (timeoutMs : Nat) : BootOp Bool :=
  ask (fun log => h.waitIdle log timeoutMs) (.waited timeoutMs)

def sendStage (stage : UInt8) : BootOp Int :=
  ask (fun log => h.sendStage log stage) (.sent stage)

def pause (ms : Nat) : BootOp Unit := say (.paused ms)

def nowMs : BootOp UInt32 := ask h.nowMs .clock

/-! ## §4. The operation. -/

/-- Once the unit was reset or homed the row no longer shows its frame. -/
def finish (moved : Bool) (info : BootUpdateReport) (step : BootUpdateStep)
    (outcome : MaintOutcome) (why : MaintReason) : BootOp MaintGrade := do
  if moved then
    say .reshown
    say (.noted step why info)
    pure { outcome := outcome, reason := why }
  else
    say (.noted step why info)
    pure { outcome := outcome, reason := why }

def failed (moved : Bool) (info : BootUpdateReport) (step : BootUpdateStep) (why : MaintReason) :
    BootOp MaintGrade :=
  finish moved info step .postconditionFail why

/-- Whether the unit left the bus, and the last report it gave.  One failed read
is confirmed 50 ms later before it counts. -/
def bootStage1WentOffBus : List Nat → BootUpdateReport → BootOp (Bool × BootUpdateReport)
  | [], info => pure (false, info)
  | gap :: gaps, info => do
      pause gap
      let still ← readBootInfo h {}
      if still.1 then bootStage1WentOffBus gaps still.2
      else
        pause 50
        let again ← readBootInfo h {}
        if again.1 then bootStage1WentOffBus gaps again.2 else pure (true, info)

/-- `if (h.home(addr) == 0) h.waitIdle(addr, UNIT_HOME_TIMEOUT_MS);` -/
def homeAndWait : BootOp Unit := do
  let status ← ask h.home .homed
  if status = 0 then
    let _ ← waitIdle h UNIT_HOME_TIMEOUT_MS
    pure ()
  else pure ()

/-- What the poll of stage 2 leaves. -/
structure Stage2Polled where
  verdict : BootPollVerdict := .wait
  anyRead : Bool := false
  info : BootUpdateReport

/-- The poll of stage 2; the fuel bounds its turns. -/
def bootStage2Turns (resultBeforeSend : UInt8) (pollStart : UInt32) :
    Nat → Stage2Polled → BootOp Stage2Polled
  | 0, _ => stuck
  | fuel + 1, p => do
      let now ← nowMs h
      if now - pollStart < BOOT_UPDATE_STAGE2_POLL_MS then
        let r ← readBootInfo h p.info
        if r.1 then
          let p : Stage2Polled :=
            { verdict := bootStage2Poll r.2 resultBeforeSend, anyRead := true, info := r.2 }
          if p.verdict ≠ .wait then pure p
          else
            pause 100
            bootStage2Turns resultBeforeSend pollStart fuel p
        else
          pause 100
          bootStage2Turns resultBeforeSend pollStart fuel { p with info := r.2 }
      else pure p

/-- Stage 2 from its request on, and the end of the operation. -/
def bootUpdateRewrite (fuel : Nat) (moved : Bool) (info : BootUpdateReport) :
    BootOp MaintGrade := do
  let status ← sendStage h 2
  if status ≠ 0 then finish moved info .stage2 .wireFail .none
  else
    pause BOOT_UPDATE_STAGE2_SETTLE_MS
    let pollStart ← nowMs h
    let p ← bootStage2Turns h info.lastResult pollStart fuel { info := info }
    if p.verdict ≠ .done then
      failed moved p.info .stage2
        (if p.anyRead then
          maintReasonForBootFailure (bootResultFailure p.info.lastResult) .bootVerifyFailed
        else .bootUnitLost)
    else
      say .heldProbes
      finish moved p.info .done .ok .none

/-- A unit that already carries page 7 is resumed: it is homed unless it is. -/
def bootUpdateStage2 (fuel : Nat) (plan : BootUpdatePlan) (moved : Bool)
    (info : BootUpdateReport) : BootOp MaintGrade := do
  if !plan.needStage2 then
    say .heldProbes
    finish moved info .done .ok .none
  else if plan.needStage1 then bootUpdateRewrite h fuel moved info
  else
    let yes ← ask h.isHomed .isHomed
    if yes then bootUpdateRewrite h fuel moved info
    else
      homeAndWait h
      let r ← readBootInfo h info
      if !r.1 then failed true r.2 .stage2 .bootUnitLost
      else bootUpdateRewrite h fuel true r.2

def bootUpdateStage1 (fuel : Nat) (plan : BootUpdatePlan) (info : BootUpdateReport) :
    BootOp MaintGrade := do
  let status ← sendStage h 1
  if status ≠ 0 then finish false info .stage1 .wireFail .none
  else
    say .unitLeftSketch
    let started ← bootStage1WentOffBus h [200, 300] info
    if !started.1 then
      -- nothing moved and nothing was written: what the unit itself said
      failed false started.2 .stage1
        (maintReasonForBootFailure (bootResultFailure started.2.lastResult) .bootNotStarted)
    else
      let _ ← waitIdle h UNIT_RETURN_TIMEOUT_MS
      homeAndWait h
      let r ← readBootInfo h started.2
      if !r.1 then failed true r.2 .stage1 .bootUnitLost
      else if r.2.state ≠ BOOT_STATE_PAGE7_INSTALLED then
        failed true r.2 .stage1 .bootVerifyFailed
      else
        say (.noted .stage1 .none r.2)
        bootUpdateStage2 h fuel plan true r.2

def bootUpdateRun (fuel : Nat) : BootOp MaintGrade := do
  let first ← readBootInfo h {}
  if !first.1 then failed false first.2 .readInfo .bootInfoReadFail
  else
    let plan := bootUpdateDecide first.2
    match plan.terminal with
    | .alreadyNew => finish false first.2 .plan .ok .bootAlreadyNew
    | .lockRefused => failed false first.2 .plan .bootLockRefused
    | .unknownState => failed false first.2 .plan .bootStateUnknown
    | .proceed => do
        let idle ← waitIdle h BOOT_UPDATE_IDLE_MS
        if !idle then failed false first.2 .settle .bootUnitBusy
        else if plan.needStage1 then bootUpdateStage1 h fuel plan first.2
        else bootUpdateStage2 h fuel plan false first.2

/-! ## §5. What is asked of a run. -/

/-- The stages requested, in order. -/
def stagesSent (log : List BootOpEvent) : List UInt8 :=
  log.filterMap fun
    | .sent stage _ => some stage
    | _ => none

/-- A report that was read says so. -/
def Reported (P : BootUpdateReport → Prop) (log : List BootOpEvent) : Prop :=
  ∃ r, .read true r ∈ log ∧ P r

/-- A report that was read after the stage was requested says so. -/
def ReportedSince (stage : UInt8) (P : BootUpdateReport → Prop) (log : List BootOpEvent) : Prop :=
  ∃ pre status post, log = pre ++ .sent stage status :: post ∧ Reported P post

/-- The old bootloader, under a lock that lets it be written. -/
def Startable (r : BootUpdateReport) : Prop :=
  r.state = BOOT_STATE_OLD ∧ bootLockPermitsBootWrite (bootEffectiveLockByte r) = true

/-- A bootloader that only stage 2 can bring on. -/
def Resumable (r : BootUpdateReport) : Prop :=
  r.state = BOOT_STATE_PAGE7_INSTALLED ∨ r.state = BOOT_STATE_TRAMPOLINE ∨
    r.state = BOOT_STATE_PREV_NEW

/-- Each stage is requested at most once, and on a report that asks for it. -/
def Justified (log : List BootOpEvent) : BootOpEvent → Prop
  | .sent stage _ =>
      (stage = 1 ∧ stagesSent log = [] ∧ Reported Startable log) ∨
      (stage = 2 ∧ stagesSent log = [] ∧ Reported Resumable log) ∨
      (stage = 2 ∧ stagesSent log = [1] ∧
        ReportedSince 1 (fun r => r.state = BOOT_STATE_PAGE7_INSTALLED) log)
  | _ => True

/-- Two reads that failed, 50 ms apart: the unit is taken to be resetting. -/
def TakenAsReset (log : List BootOpEvent) : Prop :=
  ∃ r r', [.read false r, .paused 50, .read false r'] <:+: log

/-- The unit was asked to home. -/
def AskedHome (log : List BootOpEvent) : Prop := ∃ status, .homed status ∈ log

/-- What a run says when it comes back. -/
structure Honest (g : MaintGrade) (log : List BootOpEvent) : Prop where
  ok : g = { outcome := .ok, reason := .none } →
    ReportedSince 2 (fun r => r.state = BOOT_STATE_NEW) log
  already : g = { outcome := .ok, reason := .bootAlreadyNew } →
    stagesSent log = [] ∧ ¬AskedHome log
  reshown : TakenAsReset log ∨ AskedHome log → log.count .reshown = 1
  still : ¬(TakenAsReset log ∨ AskedHome log) → log.count .reshown = 0

/-! ## §6. One more event. -/

section Snoc

variable {log : List BootOpEvent} {e : BootOpEvent} {P : BootUpdateReport → Prop} {stage : UInt8}

/-- An event that changes nothing of what a run is asked. -/
def BootOpEvent.plain : BootOpEvent → Bool
  | .sent _ _ | .homed _ | .reshown => false
  | .paused ms => ms != 50
  | _ => true

theorem Reported.append (hr : Reported P log) (more : List BootOpEvent) :
    Reported P (log ++ more) := by
  obtain ⟨r, hmem, hP⟩ := hr
  exact ⟨r, List.mem_append_left more hmem, hP⟩

theorem ReportedSince.append (hr : ReportedSince stage P log) (more : List BootOpEvent) :
    ReportedSince stage P (log ++ more) := by
  obtain ⟨pre, status, post, rfl, hpost⟩ := hr
  exact ⟨pre, status, post ++ more, by simp, hpost.append more⟩

theorem TakenAsReset.append (ht : TakenAsReset log) (more : List BootOpEvent) :
    TakenAsReset (log ++ more) := by
  obtain ⟨r, r', hinfix⟩ := ht
  exact ⟨r, r', hinfix.trans (List.prefix_append log more).isInfix⟩

theorem AskedHome.append (ha : AskedHome log) (more : List BootOpEvent) :
    AskedHome (log ++ more) := by
  obtain ⟨status, hmem⟩ := ha
  exact ⟨status, List.mem_append_left more hmem⟩

theorem stagesSent_append (log more : List BootOpEvent) :
    stagesSent (log ++ more) = stagesSent log ++ stagesSent more :=
  List.filterMap_append

/-- A report read when the stage is among those requested was read since. -/
theorem reportedSince_of_read (hsent : stage ∈ stagesSent log) {r : BootUpdateReport} (hP : P r) :
    ReportedSince stage P (log ++ [.read true r]) := by
  obtain ⟨e, hmem, he⟩ := List.mem_filterMap.mp hsent
  cases e with
  | sent stage' status =>
      injection he with he
      subst he
      obtain ⟨pre, post, rfl⟩ := List.append_of_mem hmem
      exact ⟨pre, status, post ++ [.read true r], by simp, r, by simp, hP⟩
  | _ => exact (nomatch he)

theorem suffix_snoc {a b c : BootOpEvent} (hsuffix : [a, b, c] <:+ log ++ [e]) :
    [b] <:+ log ∧ e = c := by
  obtain ⟨front, hfront⟩ := hsuffix
  have hsplit : (front ++ [a, b]) ++ [c] = log ++ [e] := by
    rw [← hfront]
    simp
  obtain ⟨hlog, hlast⟩ := List.append_inj' hsplit rfl
  injection hlast with hlast
  refine ⟨⟨front ++ [a], ?_⟩, hlast.symm⟩
  rw [← hlog]
  simp

/-- Only a failed read 50 ms after another makes a unit be taken as resetting. -/
theorem takenAsReset_snoc (hno : ¬[.paused 50] <:+ log ∨ ∀ r, e ≠ .read false r) :
    TakenAsReset (log ++ [e]) ↔ TakenAsReset log := by
  constructor
  · rintro ⟨r, r', hinfix⟩
    rcases List.infix_concat_iff.mp hinfix with hsuffix | hinfix
    · obtain ⟨hcalm, hlast⟩ := suffix_snoc hsuffix
      rcases hno with hno | hno
      · exact absurd hcalm hno
      · exact absurd hlast (hno r')
    · exact ⟨r, r', hinfix⟩
  · rintro ⟨r, r', hinfix⟩
    exact ⟨r, r', List.infix_concat_iff.mpr (Or.inr hinfix)⟩

theorem askedHome_snoc : AskedHome (log ++ [e]) ↔ AskedHome log ∨ ∃ status, e = .homed status := by
  unfold AskedHome
  simp only [List.mem_append, List.mem_singleton, exists_or, eq_comm]

theorem calm_snoc (he : e ≠ .paused 50) : ¬[.paused 50] <:+ log ++ [e] := by
  rintro ⟨front, hfront⟩
  injection (List.append_inj' hfront rfl).2 with hlast
  exact he hlast.symm

end Snoc

/-- Where a run is: what it has requested, and whether the row was moved. -/
structure At (sent : List UInt8) (moved : Bool) (log : List BootOpEvent) : Prop where
  sent : stagesSent log = sent
  moved : moved = true ↔ TakenAsReset log ∨ AskedHome log
  quiet : log.count .reshown = 0
  calm : ¬[.paused 50] <:+ log

section At

variable {log : List BootOpEvent} {e : BootOpEvent} {sent : List UInt8} {moved : Bool}

theorem at_start : At [] false [] := by
  refine ⟨rfl, ?_, rfl, by simp⟩
  simp [TakenAsReset, AskedHome]

theorem At.plain (h : At sent moved log) (he : e.plain = true) : At sent moved (log ++ [e]) := by
  have hnot : e ≠ .paused 50 := by
    rintro rfl
    exact absurd he (by decide)
  have hhomed : ¬∃ status, e = .homed status := by
    rintro ⟨status, rfl⟩
    exact (nomatch he)
  have hshown : ([e].count .reshown) = 0 := by
    cases e with
    | reshown => exact (nomatch he)
    | _ => rfl
  have hsends : stagesSent [e] = [] := by
    cases e with
    | sent stage status => exact (nomatch he)
    | _ => rfl
  constructor
  · rw [stagesSent_append, h.sent, hsends, List.append_nil]
  · rw [takenAsReset_snoc (Or.inl h.calm), askedHome_snoc, h.moved]
    simp [hhomed]
  · rw [List.count_append, h.quiet, hshown]
  · exact calm_snoc hnot

theorem At.sends (h : At sent moved log) (stage : UInt8) (status : Int) :
    At (sent ++ [stage]) moved (log ++ [.sent stage status]) := by
  constructor
  · rw [stagesSent_append, h.sent]
    rfl
  · rw [takenAsReset_snoc (Or.inl h.calm), askedHome_snoc, h.moved]
    simp
  · rw [List.count_append, h.quiet]
    rfl
  · exact calm_snoc (fun hno => (nomatch hno))

theorem At.homes (h : At sent moved log) (status : Int) :
    At sent true (log ++ [.homed status]) := by
  constructor
  · rw [stagesSent_append, h.sent]
    exact List.append_nil sent
  · rw [askedHome_snoc]
    simp
  · rw [List.count_append, h.quiet]
    rfl
  · exact calm_snoc (fun hno => (nomatch hno))

/-- A failed read that was confirmed 50 ms later, or was not. -/
theorem At.confirms (h : At sent false log) (r r' : BootUpdateReport) (ok : Bool) :
    At sent (!ok) (log ++ [.read false r] ++ [.paused 50] ++ [.read ok r']) := by
  have hread := h.plain (e := .read false r) rfl
  constructor
  · rw [stagesSent_append, stagesSent_append, hread.sent]
    simp [stagesSent]
  · have hhome : AskedHome (log ++ [.read false r] ++ [.paused 50] ++ [.read ok r']) ↔
        AskedHome (log ++ [.read false r]) := by
      rw [askedHome_snoc, askedHome_snoc]
      simp
    have hpaused : TakenAsReset (log ++ [.read false r] ++ [.paused 50]) ↔
        TakenAsReset (log ++ [.read false r]) :=
      takenAsReset_snoc (Or.inl hread.calm)
    cases ok with
    | false =>
        simp only [Bool.not_false, true_iff]
        refine Or.inl ⟨r, r', log, [], ?_⟩
        simp
    | true =>
        rw [takenAsReset_snoc (Or.inr (by simp)), hpaused, hhome]
        exact hread.moved
  · rw [List.count_append, List.count_append, hread.quiet]
    rfl
  · exact calm_snoc (fun hno => (nomatch hno))

end At

/-! ## §7. A run does only what it was told. -/

section Run

variable {fuel : Nat} {sent : List UInt8} {moved : Bool} {log : List BootOpEvent}

theorem finish_honest (hat : At sent moved log) {info : BootUpdateReport} {step : BootUpdateStep}
    {outcome : MaintOutcome} {why : MaintReason}
    (hok : outcome = .ok → why = .none →
      ReportedSince 2 (fun r => r.state = BOOT_STATE_NEW) log)
    (halready : why = .bootAlreadyNew → sent = [] ∧ moved = false) :
    Does Justified (finish moved info step outcome why) log Honest := by
  unfold finish
  cases moved with
  | true =>
      refine does_say_bind trivial (does_say_bind trivial (does_ret ?_))
      have hmoved := hat.moved.mp rfl
      have hshown : (log ++ [BootOpEvent.reshown] ++ [BootOpEvent.noted step why info]).count
          BootOpEvent.reshown = 1 := by
        rw [List.count_append, List.count_append, hat.quiet]
        rfl
      constructor
      · intro hgrade
        injection hgrade with houtcome hwhy
        exact ((hok houtcome hwhy).append _).append _
      · intro hgrade
        injection hgrade with houtcome hwhy
        exact absurd (halready hwhy).2 (by decide)
      · exact fun _ => hshown
      · intro hstill
        refine absurd ?_ hstill
        rcases hmoved with htaken | hhomed
        · exact Or.inl ((htaken.append _).append _)
        · exact Or.inr ((hhomed.append _).append _)
  | false =>
      refine does_say_bind trivial (does_ret ?_)
      have hnoted := hat.plain (e := .noted step why info) rfl
      constructor
      · intro hgrade
        injection hgrade with houtcome hwhy
        exact (hok houtcome hwhy).append _
      · intro hgrade
        injection hgrade with houtcome hwhy
        refine ⟨hnoted.sent.trans (halready hwhy).1, ?_⟩
        intro hhomed
        exact absurd (hnoted.moved.mpr (Or.inr hhomed)) (by decide)
      · intro hmoved
        exact absurd (hnoted.moved.mpr hmoved) (by decide)
      · exact fun _ => hnoted.quiet

/-- A failure claims nothing. -/
theorem failed_honest (hat : At sent moved log) {info : BootUpdateReport} {step : BootUpdateStep}
    {why : MaintReason} (hwhy : why ≠ .bootAlreadyNew) :
    Does Justified (failed moved info step why) log Honest :=
  finish_honest hat (fun hok _ => (nomatch hok)) (fun halready => absurd halready hwhy)

theorem bootFailure_why (f : BootUpdateFailure) {whenNone : MaintReason}
    (hnone : whenNone ≠ .bootAlreadyNew) :
    maintReasonForBootFailure f whenNone ≠ .bootAlreadyNew := by
  cases f with
  | none => exact hnone
  | _ => exact (fun hno => (nomatch hno))

/-- Whatever a read answers. -/
theorem does_read_bind {β : Type} {out : BootUpdateReport}
    {f : Bool × BootUpdateReport → BootOp β} {post : β → List BootOpEvent → Prop}
    (hf : ∀ ok r, Does Justified (f (ok, r)) (log ++ [.read ok r]) post) :
    Does Justified (readBootInfo h out >>= f) log post :=
  does_ask_bind trivial (hf _ _)

theorem offBus_honest (gaps : List Nat) (hgaps : ∀ gap ∈ gaps, gap ≠ 50)
    (info : BootUpdateReport) (hat : At sent false log) :
    Does Justified (bootStage1WentOffBus h gaps info) log fun r log' => At sent r.1 log' := by
  induction gaps generalizing info log with
  | nil => exact does_ret hat
  | cons gap gaps ih =>
      have hrest : ∀ gap' ∈ gaps, gap' ≠ 50 := fun gap' hmem =>
        hgaps gap' (List.mem_cons_of_mem gap hmem)
      have hpaused : At sent false (log ++ [.paused gap]) := by
        refine hat.plain ?_
        show (gap != 50) = true
        simpa using hgaps gap List.mem_cons_self
      refine does_say_bind trivial (does_read_bind h ?_)
      intro ok still
      cases ok with
      | true =>
          rw [if_pos rfl]
          exact ih hrest still (hpaused.plain rfl)
      | false =>
          rw [if_neg Bool.false_ne_true]
          refine does_say_bind trivial (does_read_bind h ?_)
          intro ok again
          have hconfirmed := hpaused.confirms still again ok
          cases ok with
          | true =>
              rw [if_pos rfl]
              exact ih hrest again hconfirmed
          | false =>
              rw [if_neg Bool.false_ne_true]
              exact does_ret hconfirmed

theorem home_honest (hat : At sent moved log) :
    Does Justified (homeAndWait h) log fun _ log' => At sent true log' := by
  refine does_ask_bind trivial ?_
  have hhomed := hat.homes (h.home log)
  split
  · exact does_ask_bind trivial (does_ret (hhomed.plain rfl))
  · exact does_ret hhomed

/-- The poll is done only on a report of the new image. -/
theorem turns_honest (resultBeforeSend : UInt8) (pollStart : UInt32) (hsent : 2 ∈ sent)
    (p : Stage2Polled) (hat : At sent moved log)
    (hdone : p.verdict = .done → ReportedSince 2 (fun r => r.state = BOOT_STATE_NEW) log) :
    Does Justified (bootStage2Turns h resultBeforeSend pollStart fuel p) log fun p log' =>
      At sent moved log' ∧
        (p.verdict = .done → ReportedSince 2 (fun r => r.state = BOOT_STATE_NEW) log') := by
  induction fuel generalizing p log with
  | zero => exact does_stuck
  | succ fuel ih =>
      unfold bootStage2Turns
      refine does_ask_bind trivial ?_
      have hclock := hat.plain (e := .clock (h.nowMs log)) rfl
      split
      · refine does_read_bind h ?_
        intro ok r
        have hread := hclock.plain (e := .read ok r) rfl
        cases ok with
        | false =>
            rw [if_neg Bool.false_ne_true]
            refine does_say_bind trivial (ih _ (hread.plain rfl) ?_)
            intro hverdict
            exact (((hdone hverdict).append _).append _).append _
        | true =>
            rw [if_pos rfl]
            dsimp only
            have hnew : bootStage2Poll r resultBeforeSend = .done →
                ReportedSince 2 (fun r => r.state = BOOT_STATE_NEW)
                  (log ++ [.clock (h.nowMs log)] ++ [.read true r]) := by
              intro hverdict
              have hstate : r.state = BOOT_STATE_NEW := by
                unfold bootStage2Poll at hverdict
                by_contra hother
                rw [if_neg hother] at hverdict
                split at hverdict
                · exact (nomatch hverdict)
                · exact (nomatch hverdict)
              refine reportedSince_of_read ?_ hstate
              rw [hclock.sent]
              exact hsent
            split
            · exact does_ret ⟨hread, hnew⟩
            · exact does_say_bind trivial
                (ih _ (hread.plain rfl) (fun hverdict => (hnew hverdict).append _))
      · exact does_ret ⟨hclock, fun hverdict => (hdone hverdict).append _⟩

/-- What has been reported when stage 2 may be requested. -/
def Ready (sent : List UInt8) (log : List BootOpEvent) : Prop :=
  (sent = [] ∧ Reported Resumable log) ∨
    (sent = [1] ∧ ReportedSince 1 (fun r => r.state = BOOT_STATE_PAGE7_INSTALLED) log)

theorem Ready.append (hready : Ready sent log) (more : List BootOpEvent) :
    Ready sent (log ++ more) := by
  rcases hready with ⟨hsent, hreported⟩ | ⟨hsent, hsince⟩
  · exact Or.inl ⟨hsent, hreported.append more⟩
  · exact Or.inr ⟨hsent, hsince.append more⟩

theorem rewrite_honest (info : BootUpdateReport) (hat : At sent moved log)
    (hready : Ready sent log) :
    Does Justified (bootUpdateRewrite h fuel moved info) log Honest := by
  have hjustified : Justified log (.sent 2 (h.sendStage log 2)) := by
    rcases hready with ⟨hsent, hreported⟩ | ⟨hsent, hsince⟩
    · exact Or.inr (Or.inl ⟨rfl, hat.sent.trans hsent, hreported⟩)
    · exact Or.inr (Or.inr ⟨rfl, hat.sent.trans hsent, hsince⟩)
  refine does_ask_bind hjustified ?_
  have hsends := hat.sends 2 (h.sendStage log 2)
  split
  · exact finish_honest hsends (fun hok => (nomatch hok)) (fun hwhy => (nomatch hwhy))
  · refine does_say_bind trivial (does_ask_bind trivial ?_)
    refine does_bind (turns_honest h info.lastResult _ (List.mem_append_right sent (by simp)) _
      ((hsends.plain rfl).plain rfl) (fun hno => (nomatch hno))) ?_
    rintro p said ⟨hpolled, hdone⟩
    split
    · refine failed_honest hpolled ?_
      split
      · exact bootFailure_why _ (fun hno => (nomatch hno))
      · exact fun hno => (nomatch hno)
    · next hverdict =>
        have hnew := hdone (not_not.mp hverdict)
        refine does_say_bind trivial (finish_honest (hpolled.plain rfl) ?_ ?_)
        · exact fun _ _ => hnew.append _
        · exact fun hwhy => (nomatch hwhy)

theorem stage2_honest {plan : BootUpdatePlan} (hneed : plan.needStage2 = true)
    (info : BootUpdateReport) (hat : At sent moved log) (hready : Ready sent log) :
    Does Justified (bootUpdateStage2 h fuel plan moved info) log Honest := by
  unfold bootUpdateStage2
  rw [hneed, if_neg (by decide)]
  split
  · exact rewrite_honest h info hat hready
  · refine does_ask_bind trivial ?_
    split
    · exact rewrite_honest h info (hat.plain rfl) (hready.append _)
    · refine does_bind (home_honest h (hat.plain rfl)) ?_
      intro _ said hhomed
      refine does_read_bind h ?_
      intro ok r
      split
      · exact failed_honest (hhomed.plain rfl) (fun hno => (nomatch hno))
      · exact rewrite_honest h _ (hhomed.plain rfl) (((hready.append _).append _).append _)

theorem stage1_honest {plan : BootUpdatePlan} (hneed : plan.needStage2 = true)
    (info : BootUpdateReport) (hat : At [] false log) (hstart : Reported Startable log) :
    Does Justified (bootUpdateStage1 h fuel plan info) log Honest := by
  refine does_ask_bind (Or.inl ⟨rfl, hat.sent, hstart⟩) ?_
  have hsends := hat.sends 1 (h.sendStage log 1)
  split
  · exact finish_honest hsends (fun hok => (nomatch hok)) (fun hwhy => (nomatch hwhy))
  · refine does_say_bind trivial ?_
    refine does_bind (offBus_honest h [200, 300] (by decide) info (hsends.plain rfl)) ?_
    rintro ⟨started, still⟩ said hstarted
    cases started with
    | false => exact failed_honest hstarted (bootFailure_why _ (fun hno => (nomatch hno)))
    | true =>
        refine does_ask_bind trivial ?_
        refine does_bind (home_honest h (hstarted.plain rfl)) ?_
        intro _ said hhomed
        refine does_read_bind h ?_
        intro ok r
        cases ok with
        | false => exact failed_honest (hhomed.plain rfl) (fun hno => (nomatch hno))
        | true =>
            dsimp only
            rw [if_neg (by decide)]
            have hread := hhomed.plain (e := .read true r) rfl
            split
            · exact failed_honest hread (fun hno => (nomatch hno))
            · next hstate =>
                refine does_say_bind trivial (stage2_honest h hneed r (hread.plain rfl) ?_)
                refine Or.inr ⟨rfl, ReportedSince.append ?_ _⟩
                refine reportedSince_of_read ?_ (not_not.mp hstate)
                rw [hhomed.sent]
                exact List.mem_cons_self

theorem bootStagesNeeded_some {state : UInt8} {needStage1 needStage2 : Bool}
    (hneeded : bootStagesNeeded state = some (needStage1, needStage2)) :
    needStage2 = true ∧
      (needStage1 = true → state = BOOT_STATE_OLD) ∧
      (needStage1 = false → state = BOOT_STATE_PAGE7_INSTALLED ∨
        state = BOOT_STATE_TRAMPOLINE ∨ state = BOOT_STATE_PREV_NEW) := by
  unfold bootStagesNeeded at hneeded
  split at hneeded
  · next hold =>
      injection hneeded with hneeded
      injection hneeded with h1 h2
      subst h1 h2
      exact ⟨rfl, fun _ => hold, fun hno => (nomatch hno)⟩
  · split at hneeded
    · next hresumable =>
        injection hneeded with hneeded
        injection hneeded with h1 h2
        subst h1 h2
        exact ⟨rfl, fun hno => (nomatch hno), fun _ => hresumable⟩
    · exact (nomatch hneeded)

/-- What a plan that proceeds was made on. -/
theorem bootUpdateDecide_proceed {info : BootUpdateReport}
    (hproceed : (bootUpdateDecide info).terminal = .proceed) :
    (bootUpdateDecide info).needStage2 = true ∧
      ((bootUpdateDecide info).needStage1 = true → Startable info) ∧
      ((bootUpdateDecide info).needStage1 = false → Resumable info) := by
  unfold bootUpdateDecide at hproceed ⊢
  split at hproceed
  · exact (nomatch hproceed)
  · next hnew =>
      rw [if_neg hnew]
      split at hproceed
      · exact (nomatch hproceed)
      · next needStage1 needStage2 hneeded =>
          obtain ⟨hneed, hold, hresumable⟩ := bootStagesNeeded_some hneeded
          split at hproceed
          · exact (nomatch hproceed)
          · next hlock =>
              rw [if_neg hlock]
              rw [Bool.not_eq_true', Bool.not_eq_false] at hlock
              exact ⟨hneed, fun h1 => ⟨hold h1, hlock⟩, hresumable⟩

theorem run_honest (fuel : Nat) : Does Justified (bootUpdateRun h fuel) [] Honest := by
  refine does_read_bind h ?_
  intro ok info
  have hread := at_start.plain (e := .read ok info) rfl
  cases ok with
  | false => exact failed_honest hread (fun hno => (nomatch hno))
  | true =>
      dsimp only
      rw [if_neg (by decide)]
      split
      · exact finish_honest hread (fun _ hno => (nomatch hno)) (fun _ => ⟨rfl, rfl⟩)
      · exact failed_honest hread (fun hno => (nomatch hno))
      · exact failed_honest hread (fun hno => (nomatch hno))
      · next hproceed =>
          obtain ⟨hneed, hstart, hresume⟩ := bootUpdateDecide_proceed hproceed
          refine does_ask_bind trivial ?_
          have hwaited := hread.plain
            (e := .waited BOOT_UPDATE_IDLE_MS
              (h.waitIdle ([] ++ [.read true info]) BOOT_UPDATE_IDLE_MS)) rfl
          split
          · exact failed_honest hwaited (fun hno => (nomatch hno))
          · split
            · next hneed1 =>
                exact stage1_honest h hneed info hwaited
                  (Reported.append ⟨info, by simp, hstart hneed1⟩ _)
            · next hneed1 =>
                rw [Bool.not_eq_true] at hneed1
                exact stage2_honest h hneed info hwaited
                  (Or.inl ⟨rfl, Reported.append ⟨info, by simp, hresume hneed1⟩ _⟩)

end Run

/-! ## §8. A run comes back within its waits. -/

def BootOpEvent.pauses : BootOpEvent → Nat
  | .paused ms => ms
  | _ => 0

/-- What the clock sees of the waits: the pauses. -/
def pausedMs (log : List BootOpEvent) : Nat := (log.map BootOpEvent.pauses).sum

def BootOpEvent.waits : BootOpEvent → Nat
  | .paused ms => ms
  | .waited timeoutMs _ => timeoutMs
  | _ => 0

/-- The waits, each at its time-out. -/
def waitedMs (log : List BootOpEvent) : Nat := (log.map BootOpEvent.waits).sum

/-- The clock advances with the pauses. -/
def ClockAdvances (nowMs : List BootOpEvent → UInt32) : Prop :=
  ∀ log said, pausedMs said ≤ 2 ^ 31 → pausedMs said ≤ (nowMs (log ++ said) - nowMs log).toNat

/-- The program comes back, after waits of at most `budget` ms. -/
def Within {α : Type} (m : BootOp α) (budget : Nat) : Prop :=
  ∀ log, Comes m log fun _ said => waitedMs said ≤ budget

section Within

variable {α β : Type} {b : Nat}

theorem waitedMs_append (log more : List BootOpEvent) :
    waitedMs (log ++ more) = waitedMs log + waitedMs more := by
  unfold waitedMs
  rw [List.map_append, List.sum_append]

theorem waitedMs_cons (e : BootOpEvent) (log : List BootOpEvent) :
    waitedMs (e :: log) = e.waits + waitedMs log := by
  unfold waitedMs
  rw [List.map_cons, List.sum_cons]

theorem pausedMs_append (log more : List BootOpEvent) :
    pausedMs (log ++ more) = pausedMs log + pausedMs more := by
  unfold pausedMs
  rw [List.map_append, List.sum_append]

theorem within_ret (a : α) : Within (pure a : BootOp α) b :=
  fun _ => comes_ret (Nat.zero_le b)

theorem within_mono {m : BootOp α} {less : Nat} (hm : Within m less) (hless : less ≤ b) :
    Within m b :=
  fun log => comes_imp (hm log) fun _ _ hwaited => hwaited.trans hless

theorem within_bind {m : BootOp α} {f : α → BootOp β} {n r : Nat} (hm : Within m n)
    (hf : ∀ a, Within (f a) r) : Within (m >>= f) (n + r) := by
  intro log
  refine comes_bind (hm log) fun a said hsaid => ?_
  refine comes_imp (hf a (log ++ said)) fun _ more hmore => ?_
  rw [waitedMs_append]
  omega

theorem within_say {e : BootOpEvent} {f : Unit → BootOp β} {c : Nat} (he : e.waits = c)
    (hf : Within (f ()) b) : Within (say e >>= f) (c + b) := by
  intro log
  refine comes_say_bind (comes_imp (hf _) fun _ more hmore => ?_)
  rw [waitedMs_cons, he]
  omega

theorem within_ask {world : List BootOpEvent → α} {event : α → BootOpEvent}
    {f : α → BootOp β} {c : Nat} (he : ∀ a, (event a).waits = c)
    (hf : ∀ a, Within (f a) b) : Within (ask world event >>= f) (c + b) := by
  intro log
  refine comes_ask_bind (comes_imp (hf _ _) fun _ more hmore => ?_)
  rw [waitedMs_cons, he]
  omega

/-- A question that takes no time. -/
theorem within_quick {world : List BootOpEvent → α} {event : α → BootOpEvent}
    {f : α → BootOp β} (he : ∀ a, (event a).waits = 0) (hf : ∀ a, Within (f a) b) :
    Within (ask world event >>= f) b :=
  within_mono (within_ask he hf) (Nat.zero_add b).le

/-- An event that takes no time. -/
theorem within_brief {e : BootOpEvent} {f : Unit → BootOp β} (he : e.waits = 0)
    (hf : Within (f ()) b) : Within (say e >>= f) b :=
  within_mono (within_say he hf) (Nat.zero_add b).le

theorem finish_within (moved : Bool) (info : BootUpdateReport) (step : BootUpdateStep)
    (outcome : MaintOutcome) (why : MaintReason) :
    Within (finish moved info step outcome why) 0 := by
  unfold finish
  cases moved with
  | true => exact within_brief rfl (within_brief rfl (within_ret _))
  | false => exact within_brief rfl (within_ret _)

theorem offBus_within (gaps : List Nat) (info : BootUpdateReport) :
    Within (bootStage1WentOffBus h gaps info) (gaps.map (· + 50)).sum := by
  induction gaps generalizing info with
  | nil => exact within_ret _
  | cons gap gaps ih =>
      rw [List.map_cons, List.sum_cons, Nat.add_assoc]
      refine within_say rfl (within_quick (fun _ => rfl) ?_)
      intro still
      split
      · exact within_mono (ih still.2) (Nat.le_add_left _ _)
      · refine within_say rfl (within_quick (fun _ => rfl) ?_)
        intro again
        split
        · exact ih again.2
        · exact within_ret _

theorem home_within : Within (homeAndWait h) UNIT_HOME_TIMEOUT_MS := by
  refine within_quick (fun _ => rfl) ?_
  intro status
  split
  · exact within_mono (within_ask (c := UNIT_HOME_TIMEOUT_MS) (b := 0) (fun _ => rfl)
      (fun _ => within_ret ())) (Nat.add_zero _).le
  · exact within_ret ()

/-- `k` turns into the poll, with fuel for the rest. -/
theorem turns_come (hclock : ClockAdvances h.nowMs) (resultBeforeSend : UInt8)
    (log said : List BootOpEvent) (fuel k : Nat) (p : Stage2Polled)
    (hpaused : pausedMs said = 100 * k) (hk : k ≤ 50) (hfuel : 51 ≤ k + fuel) :
    Comes (bootStage2Turns h resultBeforeSend (h.nowMs log) fuel p) (log ++ said)
      fun _ more => waitedMs more + 100 * k ≤ 5000 := by
  induction fuel generalizing said k p with
  | zero => omega
  | succ fuel ih =>
      have hadvanced := hclock log said (by omega)
      unfold bootStage2Turns
      refine comes_ask_bind ?_
      split
      · next hopen =>
          rw [UInt32.lt_iff_toNat_lt] at hopen
          replace hopen : (h.nowMs (log ++ said) - h.nowMs log).toNat < 5000 := hopen
          refine comes_ask_bind ?_
          -- the turn that pauses leaves the poll one turn further
          have hturn : ∀ p' : Stage2Polled,
              Comes (pause 100 >>= fun _ =>
                  bootStage2Turns h resultBeforeSend (h.nowMs log) fuel p')
                (log ++ said ++ [.clock (h.nowMs (log ++ said))] ++
                  [.read (h.readBootInfo (log ++ said ++ [.clock (h.nowMs (log ++ said))]) p.info).1
                    (h.readBootInfo (log ++ said ++ [.clock (h.nowMs (log ++ said))]) p.info).2])
                fun _ more => waitedMs more + 100 * k ≤ 5000 := by
            intro p'
            refine comes_say_bind ?_
            rw [List.append_assoc log, List.append_assoc log, List.append_assoc log]
            refine comes_imp (ih _ (k + 1) p' ?_ (by omega) (by omega)) ?_
            · rw [pausedMs_append, pausedMs_append, pausedMs_append, hpaused]
              rfl
            · intro _ more hmore
              rw [waitedMs_cons]
              show 100 + waitedMs more + 100 * k ≤ 5000
              omega
          have hquick : ∀ (e e' : BootOpEvent) (more : List BootOpEvent), e.waits = 0 →
              e'.waits = 0 → waitedMs (e :: e' :: more) = waitedMs more := by
            intro e e' more he he'
            rw [waitedMs_cons, waitedMs_cons, he, he']
            omega
          split
          · dsimp only
            split
            · refine comes_ret ?_
              rw [hquick _ _ _ rfl rfl]
              show 0 + 100 * k ≤ 5000
              omega
            · refine comes_imp (hturn _) ?_
              intro _ more hmore
              rw [hquick _ _ _ rfl rfl]
              exact hmore
          · refine comes_imp (hturn _) ?_
            intro _ more hmore
            rw [hquick _ _ _ rfl rfl]
            exact hmore
      · refine comes_ret ?_
        rw [waitedMs_cons]
        show 0 + 0 + 100 * k ≤ 5000
        omega

theorem rewrite_within (hclock : ClockAdvances h.nowMs) {fuel : Nat} (hfuel : 51 ≤ fuel)
    (moved : Bool) (info : BootUpdateReport) :
    Within (bootUpdateRewrite h fuel moved info) 5300 := by
  refine within_quick (fun _ => rfl) ?_
  intro status
  split
  · exact within_mono (finish_within _ _ _ _ _) (Nat.zero_le _)
  · show Within _ (300 + 5000)
    refine within_say rfl ?_
    intro log
    refine comes_ask_bind ?_
    refine comes_bind (turns_come h hclock info.lastResult log _ fuel 0 _ rfl (by omega)
      (by omega)) ?_
    intro p said hsaid
    have hrest : Within (if p.verdict ≠ .done then
        failed moved p.info .stage2 (if p.anyRead then
          maintReasonForBootFailure (bootResultFailure p.info.lastResult) .bootVerifyFailed
          else .bootUnitLost)
        else say .heldProbes >>= fun _ => finish moved p.info .done .ok .none) 0 := by
      split
      · exact finish_within _ _ _ _ _
      · exact within_brief rfl (finish_within _ _ _ _ _)
    refine comes_imp (hrest _) ?_
    intro _ more hmore
    rw [waitedMs_cons, waitedMs_append]
    show 0 + (waitedMs said + waitedMs more) ≤ 5000
    omega

theorem stage2_within (hclock : ClockAdvances h.nowMs) {fuel : Nat} (hfuel : 51 ≤ fuel)
    (plan : BootUpdatePlan) (moved : Bool) (info : BootUpdateReport) :
    Within (bootUpdateStage2 h fuel plan moved info)
      (if plan.needStage1 then 5300 else 25300) := by
  unfold bootUpdateStage2
  split
  · exact within_brief rfl (within_mono (finish_within _ _ _ _ _) (Nat.zero_le _))
  · split
    · exact rewrite_within h hclock hfuel moved info
    · refine within_quick (fun _ => rfl) ?_
      intro yes
      split
      · exact within_mono (rewrite_within h hclock hfuel moved info) (by omega)
      · refine within_bind (r := 5300) (home_within h) ?_
        intro _
        refine within_quick (fun _ => rfl) ?_
        intro r
        split
        · exact within_mono (finish_within _ _ _ _ _) (Nat.zero_le _)
        · exact rewrite_within h hclock hfuel true r.2

theorem stage1_within (hclock : ClockAdvances h.nowMs) {fuel : Nat} (hfuel : 51 ≤ fuel)
    {plan : BootUpdatePlan} (hneed : plan.needStage1 = true) (info : BootUpdateReport) :
    Within (bootUpdateStage1 h fuel plan info) 35900 := by
  refine within_quick (fun _ => rfl) ?_
  intro status
  split
  · exact within_mono (finish_within _ _ _ _ _) (Nat.zero_le _)
  · refine within_brief rfl ?_
    show Within _ (600 + 35300)
    refine within_bind (offBus_within h [200, 300] info) ?_
    intro started
    split
    · exact within_mono (finish_within _ _ _ _ _) (Nat.zero_le _)
    · refine within_mono (within_ask (c := UNIT_RETURN_TIMEOUT_MS)
        (b := UNIT_HOME_TIMEOUT_MS + 5300) (fun _ => rfl) ?_) (by decide)
      intro _
      refine within_bind (home_within h) ?_
      intro _
      refine within_quick (fun _ => rfl) ?_
      intro r
      split
      · exact within_mono (finish_within _ _ _ _ _) (Nat.zero_le _)
      · split
        · exact within_mono (finish_within _ _ _ _ _) (Nat.zero_le _)
        · refine within_brief rfl ?_
          have hstage2 := stage2_within h hclock hfuel plan true r.2
          rw [hneed, if_pos rfl] at hstage2
          exact hstage2

theorem run_within (hclock : ClockAdvances h.nowMs) {fuel : Nat} (hfuel : 51 ≤ fuel) :
    Within (bootUpdateRun h fuel) 43900 := by
  refine within_quick (fun _ => rfl) ?_
  intro first
  split
  · exact within_mono (finish_within _ _ _ _ _) (Nat.zero_le _)
  · dsimp only
    split
    · exact within_mono (finish_within _ _ _ _ _) (Nat.zero_le _)
    · exact within_mono (finish_within _ _ _ _ _) (Nat.zero_le _)
    · exact within_mono (finish_within _ _ _ _ _) (Nat.zero_le _)
    · refine within_mono (within_ask (c := BOOT_UPDATE_IDLE_MS) (b := 35900)
        (fun _ => rfl) ?_) (by decide)
      intro idle
      split
      · exact within_mono (finish_within _ _ _ _ _) (Nat.zero_le _)
      · split
        · next hneed => exact stage1_within h hclock hfuel hneed first.2
        · next hneed =>
            have hstage2 := stage2_within h hclock hfuel (bootUpdateDecide first.2) false first.2
            rw [if_neg hneed] at hstage2
            exact within_mono hstage2 (by omega)

end Within

/-! ## §9. The update. -/

/-- Every wait of a run, each at its time-out. -/
def BOOT_UPDATE_WAITS_MS : Nat :=
  BOOT_UPDATE_IDLE_MS + (200 + 50 + 300 + 50) + UNIT_RETURN_TIMEOUT_MS + UNIT_HOME_TIMEOUT_MS +
    BOOT_UPDATE_STAGE2_SETTLE_MS + BOOT_UPDATE_STAGE2_POLL_MS.toNat

/-- **The update forces nothing and claims nothing that was not reported**, and
comes back within its waits when the clock advances with the pauses. -/
theorem boot_update_honest (h : BootUpdateHooks) :
    (∀ fuel, Does Justified (bootUpdateRun h fuel) [] Honest) ∧
      (ClockAdvances h.nowMs → ∀ fuel, 51 ≤ fuel →
        ∃ g said, bootUpdateRun h fuel [] = (some g, said) ∧
          waitedMs said ≤ BOOT_UPDATE_WAITS_MS) := by
  refine ⟨run_honest h, ?_⟩
  intro hclock fuel hfuel
  obtain ⟨g, said, hrun, hwaited⟩ := run_within h hclock hfuel []
  exact ⟨g, said, hrun, hwaited⟩

/-- A clock that only the pauses move. -/
def pauseClock (log : List BootOpEvent) : UInt32 := UInt32.ofNat (pausedMs log)

theorem pauseClock_advances : ClockAdvances pauseClock := by
  intro log said hsaid
  unfold pauseClock
  rw [pausedMs_append, UInt32.ofNat_add, UInt32.add_comm, UInt32.add_sub_cancel,
    UInt32.toNat_ofNat']
  omega

/-- A unit with the old bootloader that does as it is told. -/
def oldUnit : BootUpdateHooks where
  readBootInfo := fun log _ =>
    if 2 ∈ stagesSent log then (true, { state := BOOT_STATE_NEW })
    else if log.any fun | .homed _ => true | _ => false then
      (true, { state := BOOT_STATE_PAGE7_INSTALLED })
    else if 1 ∈ stagesSent log then (false, {})
    else (true, { state := BOOT_STATE_OLD })
  waitIdle := fun _ _ => true
  sendStage := fun _ _ => 0
  home := fun _ => 0
  isHomed := fun _ => true
  nowMs := pauseClock

theorem boot_update_honest_old :
    ∃ said, bootUpdateRun oldUnit 51 [] = (some { outcome := .ok, reason := .none }, said) ∧
      ReportedSince 2 (fun r => r.state = BOOT_STATE_NEW) said ∧
      waitedMs said ≤ BOOT_UPDATE_WAITS_MS := by
  obtain ⟨hhonest, hcomes⟩ := boot_update_honest oldUnit
  obtain ⟨g, said, hrun, hwaited⟩ := hcomes pauseClock_advances 51 (Nat.le_refl 51)
  have hok : (bootUpdateRun oldUnit 51 []).1 = some { outcome := .ok, reason := .none } := by
    decide +kernel
  rw [hrun] at hok
  injection hok with hok
  obtain ⟨said', hlog, _, hpost⟩ := hhonest 51
  rw [hrun] at hlog hpost
  refine ⟨said, ?_, ?_, hwaited⟩
  · rw [hrun, hok]
  · have hanswer := (hpost g rfl).ok hok
    rw [← hlog] at hanswer
    exact hanswer

/-- A unit that holds page 7, is not homed, and acknowledges neither a home nor a
stage. -/
def deafUnit : BootUpdateHooks where
  readBootInfo := fun _ _ => (true, { state := BOOT_STATE_PAGE7_INSTALLED })
  waitIdle := fun _ _ => true
  sendStage := fun _ _ => 2
  home := fun _ => 2
  isHomed := fun _ => false
  nowMs := pauseClock

/-- The row is shown again after a home that the unit never took. -/
theorem deaf_unit_reshown :
    ∃ g said, bootUpdateRun deafUnit 51 [] = (some g, said) ∧ .reshown ∈ said ∧
      .homed 0 ∉ said ∧ 1 ∉ stagesSent said :=
  ⟨{ outcome := .wireFail, reason := .none },
    (bootUpdateRun deafUnit 51 []).2, by decide +kernel, by decide +kernel, by decide +kernel,
    by decide +kernel⟩

end BootUpdateOp

end SplitFlap
