/-
  SplitFlap.Unit.HealthPoll — what one health poll leaves in a unit's facts.

  `UnitBusCore.h`: a poll asks for the status and then for everything else, one
  query after the other, and folds each reply into the facts.  A fold clears its
  valid flag first.  So the facts after a poll are those before it with what
  this poll read (`learnt`), whatever the bus does; and the short way of a unit
  that has missed its status twice is the case that nothing was read.
-/
import SplitFlap.Board.UnitBus
import SplitFlap.Lib.Trace
import SplitFlap.Unit.Replies

namespace SplitFlap

open Trace
open Bus (SFP_CMD_GET_STATUS SFP_CMD_GET_ODOMETER SFP_CMD_GET_DIAG SFP_CMD_GET_VITALS
  SFP_CMD_GET_EXT_DIAG SFP_CMD_GET_LIFETIME SFP_CMD_GET_BUS_RECORD SFP_CMD_GET_BOOT_INFO)

/-! ## §1. Verdicts and baselines. -/

abbrev SFP_FLAP_AMOUNT : UInt8 := 45
abbrev BOOT_STATE_UNKNOWN : UInt8 := BootSectionState.unknown.toByte
abbrev BOOT_INTEGRITY_UNREAD : UInt8 := 0
abbrev BOOT_INTEGRITY_OK : UInt8 := 1
abbrev BOOT_INTEGRITY_OUTDATED : UInt8 := 2
abbrev BOOT_INTEGRITY_CORRUPT : UInt8 := 3

def bootIntegrityJudge (r : BootUpdateReport) (expectedCrc32 : UInt32) : UInt8 :=
  if r.bootCrc32 = expectedCrc32 then BOOT_INTEGRITY_OK
  else if r.state = BOOT_STATE_UNKNOWN then BOOT_INTEGRITY_CORRUPT
  else BOOT_INTEGRITY_OUTDATED

structure BootIntegrityEdge where
  log : Bool
  logged : UInt8

def bootIntegrityEdge (logged cur : UInt8) : BootIntegrityEdge :=
  if cur = BOOT_INTEGRITY_UNREAD || cur = logged then { log := false, logged := logged }
  else
    { log := !(logged = BOOT_INTEGRITY_UNREAD && cur = BOOT_INTEGRITY_OK), logged := cur }

structure DriftLogDecision where
  shouldLog : Bool
  newEvents : UInt8
  newBaseline : Int16
  deriving DecidableEq

def driftLogEvaluate (baseline : Int16) (curEvents : UInt8) : DriftLogDecision :=
  if baseline ≥ 0 && (curEvents.toNat : Int) > baseline.toInt then
    { shouldLog := true
      newEvents := UInt8.ofNat (curEvents.toNat - baseline.toInt).toNat
      newBaseline := Int16.ofNat curEvents.toNat }
  else { shouldLog := false, newEvents := 0, newBaseline := Int16.ofNat curEvents.toNat }

structure UnitResetBaseline where
  valid : Bool := false
  brownout : UInt8 := 0
  watchdog : UInt8 := 0
  deriving DecidableEq

/-- `unitResetBaselineFold`: the baseline, and whether the unit has reset since. -/
def unitResetBaselineFold (b : UnitResetBaseline) (brownout watchdog : UInt8) :
    UnitResetBaseline × Bool :=
  if !b.valid then ({ valid := true, brownout := brownout, watchdog := watchdog }, false)
  else
    let b := if brownout < b.brownout then { b with brownout := brownout } else b
    let b := if watchdog < b.watchdog then { b with watchdog := watchdog } else b
    (b, brownout > b.brownout || watchdog > b.watchdog)

/-! ## §2. The bus. -/

/-- What passes on the bus in a poll, and what the master logs of it. -/
inductive PollEvent where
  | wrote (addr opcode status : UInt8)
  /-- The reply came back short, and was drained. -/
  | short (addr opcode got : UInt8)
  | received (addr opcode : UInt8) (bytes : List UInt8)
  | driftSeen (addr : UInt8) (drift : DriftLogDecision) (reading : UnitDiagReading)
  | bootVerdictChanged (addr : UInt8) (report : BootUpdateReport)

/-- The bus adapter, which may do anything after anything. -/
structure UnitBus where
  endCounted : List PollEvent → UInt8
  requestFrom : List PollEvent → UInt8
  read : List PollEvent → Nat → UInt8

variable (bus : UnitBus) (addr : UInt8)

abbrev Poll (α : Type) := Trace PollEvent α

/-- `unitQuery`: the `n` bytes of the reply, or nothing. -/
def unitQuery (opcode : UInt8) (n : Nat) : Poll (Option (Vector UInt8 n)) := do
  let status ← ask bus.endCounted (.wrote addr opcode)
  if status ≠ 0 then pure none
  else
    let got ← look bus.requestFrom
    if got.toNat ≠ n then
      say (.short addr opcode got)
      pure none
    else
      let buf ← ask (fun log => Vector.ofFn fun i : Fin n => bus.read log i)
        fun buf => .received addr opcode buf.toList
      pure (some buf)

/-- A read: what a valid reply says, and nothing otherwise. -/
def unitAsk {n : Nat} {β : Type} (opcode : UInt8) (decode : Vector UInt8 n → β → Bool × β)
    (out : β) : Poll (Bool × β) := do
  let answer ← unitQuery bus addr opcode n
  pure (unitRead decode answer out)

/-! ## §3. The folds. -/

/-- A unit's facts and the tree's memories of it. -/
structure PolledUnit where
  fact : UnitFacts := {}
  driftEventsBaseline : Int16 := -1
  baseline : UnitResetBaseline := {}
  bootLogged : UInt8 := 0
  deriving DecidableEq

def statusDecode (buf : Vector UInt8 9) (out : UnitStatus) : Bool × UnitStatus :=
  match statusReadbackValid buf STATUS_REPLY_LEN (Vector.replicate 8 0) with
  | (true, p) => (true, statusOf p)
  | (false, _) => (false, out)

def unitPollStatus (u : PolledUnit) : Poll (Bool × PolledUnit) := do
  let s ← unitAsk bus addr SFP_CMD_GET_STATUS statusDecode {}
  if s.1 then
    let folded :=
      unitResetBaselineFold u.baseline s.2.lifetimeBrownoutCount s.2.lifetimeWatchdogCount
    pure (true, { u with
      fact := { u.fact with status := s.2, statusValid := true, resetSeen := folded.2 }
      baseline := folded.1 })
  else pure (false, { u with fact := { u.fact with statusValid := false } })

def unitRefreshOdometer (u : PolledUnit) : Poll PolledUnit := do
  let odometer ← unitAsk bus addr SFP_CMD_GET_ODOMETER odometerReadbackValid 0
  if odometer.1 then
    pure { u with fact := { u.fact with odometer := odometer.2, odometerValid := true } }
  else pure u

/-- `unitRefreshDiag`, and the line it may be worth. -/
def unitRefreshDiag (u : PolledUnit) : Poll PolledUnit := do
  let reading ← unitAsk bus addr SFP_CMD_GET_DIAG (diagReadbackValid SFP_FLAP_AMOUNT) {}
  if reading.1 then
    let drift := driftLogEvaluate u.driftEventsBaseline reading.2.driftEvents
    let u' : PolledUnit := { u with
      driftEventsBaseline := drift.newBaseline
      fact := { u.fact with
        physLetter := reading.2.physicalLetter
        driftFlags := reading.2.flags
        driftEvents := reading.2.driftEvents
        lastDriftSteps := reading.2.lastDriftSteps
        diagValid := true } }
    if drift.shouldLog then
      say (.driftSeen addr drift reading.2)
      pure u'
    else pure u'
  else pure { u with fact := { u.fact with diagValid := false } }

def unitRefreshVitals (u : PolledUnit) : Poll PolledUnit := do
  let v ← unitAsk bus addr SFP_CMD_GET_VITALS vitalsReadbackValid {}
  if v.1 then pure { u with fact := { u.fact with vitals := v.2, vitalsValid := true } }
  else pure { u with fact := { u.fact with vitalsValid := false } }

def unitRefreshExt (u : PolledUnit) : Poll PolledUnit := do
  let answer ← unitQuery bus addr SFP_CMD_GET_EXT_DIAG 21
  pure { u with fact := unitRefreshExtDiag u.fact answer }

def unitRefreshLifetime (u : PolledUnit) : Poll PolledUnit := do
  let lt ← unitAsk bus addr SFP_CMD_GET_LIFETIME
    (fun buf => lifetimeReadbackValid buf LIFETIME_REPLY_LEN) {}
  if lt.1 then pure { u with fact := { u.fact with lifetime := lt.2, lifetimeValid := true } }
  else pure { u with fact := { u.fact with lifetimeValid := false } }

def unitRefreshBusRecord (u : PolledUnit) : Poll PolledUnit := do
  let r ← unitAsk bus addr SFP_CMD_GET_BUS_RECORD
    (fun buf => busRecordReadbackValid buf BUS_RECORD_REPLY_LEN) ({}, 0)
  if r.1 then
    pure { u with
      fact := { u.fact with
        busRecord := r.2.1, busSilentNowMinutes := r.2.2, busRecordValid := true } }
  else pure { u with fact := { u.fact with busRecordValid := false } }

/-- `unitRefreshBootVerdict`, and the line it may be worth; the CRC is that of
the image this build expects. -/
def unitRefreshBootVerdict (expectedCrc32 : UInt32) (u : PolledUnit) : Poll PolledUnit := do
  let report ← unitAsk bus addr SFP_CMD_GET_BOOT_INFO bootInfoDecode {}
  if report.1 then
    let verdict := bootIntegrityJudge report.2 expectedCrc32
    let e := bootIntegrityEdge u.bootLogged verdict
    let u' : PolledUnit := { u with
      fact := { u.fact with bootCrc32 := report.2.bootCrc32, bootVerdict := verdict }
      bootLogged := e.logged }
    if e.log then
      say (.bootVerdictChanged addr report.2)
      pure u'
    else pure u'
  else pure { u with fact := { u.fact with bootVerdict := BOOT_INTEGRITY_UNREAD } }

def unitRefreshDiagnostics (expectedCrc32 : UInt32) (u : PolledUnit) : Poll PolledUnit := do
  let u ← unitRefreshOdometer bus addr u
  let u ← unitRefreshDiag bus addr u
  let u ← unitRefreshVitals bus addr u
  let u ← unitRefreshExt bus addr u
  let u ← unitRefreshLifetime bus addr u
  let u ← unitRefreshBusRecord bus addr u
  unitRefreshBootVerdict bus addr expectedCrc32 u

def unitForgetDiagnostics (fact : UnitFacts) : UnitFacts :=
  { fact with
    diagValid := false
    vitalsValid := false
    extDiagValid := false
    linkValid := false
    lifetimeValid := false
    busRecordValid := false
    bootVerdict := BOOT_INTEGRITY_UNREAD }

def unitPollHealth (expectedCrc32 : UInt32) (u : PolledUnit) : Poll (Bool × PolledUnit) := do
  let polled ← unitPollStatus bus addr u
  if !polled.1 && polled.2.fact.misses > 0 then
    pure (false, { polled.2 with fact := unitForgetDiagnostics polled.2.fact })
  else
    let u ← unitRefreshDiagnostics bus addr expectedCrc32 polled.2
    pure (polled.1, u)

/-! ## §4. What a poll has learnt. -/

/-- `v` is what a reply among the events says. -/
def Heard {n : Nat} {β : Type} (addr opcode : UInt8) (decode : Vector UInt8 n → β → Bool × β)
    (out : β) (said : List PollEvent) (v : β) : Prop :=
  ∃ buf : Vector UInt8 n,
    PollEvent.received addr opcode buf.toList ∈ said ∧ decode buf out = (true, v)

section Heard

variable {n : Nat} {β : Type} {opcode : UInt8} {decode : Vector UInt8 n → β → Bool × β} {out : β}
  {addr} {said more : List PollEvent} {v : β}

theorem Heard.mono (h : Heard addr opcode decode out said v) (hsub : said ⊆ more) :
    Heard addr opcode decode out more v := by
  obtain ⟨buf, hmem, hdecode⟩ := h
  exact ⟨buf, hsub hmem, hdecode⟩

end Heard

theorem unitQuery_comes (opcode : UInt8) (n : Nat) (log : List PollEvent) :
    Comes (unitQuery bus addr opcode n) log fun answer said =>
      ∀ buf, answer = some buf → PollEvent.received addr opcode buf.toList ∈ said := by
  unfold unitQuery
  refine comes_bind (p := fun _ _ => True) (comes_ask trivial) fun status said _ => ?_
  split
  · exact comes_ret fun _ hno => (nomatch hno)
  · refine comes_bind (p := fun _ _ => True) (comes_look trivial) fun got said _ => ?_
    split
    · refine comes_bind (p := fun _ _ => True) (comes_say trivial) fun _ said _ => ?_
      exact comes_ret fun _ hno => (nomatch hno)
    · refine comes_bind
        (p := fun buf said => PollEvent.received addr opcode buf.toList ∈ said)
        (comes_ask List.mem_cons_self) fun buf said hmem => ?_
      refine comes_ret ?_
      intro buf' hsome
      injection hsome with hsome
      subst hsome
      simp [hmem]

/-- A read has its value from a reply of its own, or has none. -/
theorem unitAsk_comes {n : Nat} {β : Type} (opcode : UInt8)
    (decode : Vector UInt8 n → β → Bool × β) (out : β) (log : List PollEvent) :
    Comes (unitAsk bus addr opcode decode out) log fun r said =>
      ∃ o : Option β, r.1 = o.isSome ∧ ∀ v, o = some v →
        r.2 = v ∧ Heard addr opcode decode out said v := by
  unfold unitAsk
  refine comes_bind (unitQuery_comes bus addr opcode n log) fun answer said hanswer => ?_
  refine comes_ret ?_
  rw [List.append_nil]
  cases answer with
  | none => exact ⟨none, rfl, fun _ hno => (nomatch hno)⟩
  | some buf =>
      show ∃ o : Option β, (decode buf out).1 = _ ∧ _
      cases hdecode : (decode buf out).1 with
      | false => exact ⟨none, rfl, fun _ hno => (nomatch hno)⟩
      | true =>
          refine ⟨some (decode buf out).2, rfl, ?_⟩
          intro v hv
          injection hv with hv
          refine ⟨hv, buf, hanswer buf rfl, ?_⟩
          rw [← hv, ← hdecode]

/-- What the reads of a poll said, beyond the status. -/
structure Learnt where
  odometer : Option UInt32 := none
  diag : Option UnitDiagReading := none
  vitals : Option UnitVitals := none
  extDiag : Option UnitExtDiag := none
  link : Option UnitLinkStats := none
  lifetime : Option UnitLifetimeFacts := none
  busRecord : Option (UnitBusRecord × UInt8) := none
  boot : Option BootUpdateReport := none

def withStatus (u : PolledUnit) (o : Option UnitStatus) : PolledUnit :=
  let folded := o.map fun s =>
    unitResetBaselineFold u.baseline s.lifetimeBrownoutCount s.lifetimeWatchdogCount
  { u with
    fact := { u.fact with
      status := o.getD u.fact.status
      statusValid := o.isSome
      resetSeen := (folded.map Prod.snd).getD u.fact.resetSeen }
    baseline := (folded.map Prod.fst).getD u.baseline }

def withOdometer (u : PolledUnit) (o : Option UInt32) : PolledUnit :=
  { u with fact := { u.fact with
      odometer := o.getD u.fact.odometer
      odometerValid := o.isSome || u.fact.odometerValid } }

def withDiag (u : PolledUnit) (o : Option UnitDiagReading) : PolledUnit :=
  { u with
    driftEventsBaseline :=
      (o.map fun r => (driftLogEvaluate u.driftEventsBaseline r.driftEvents).newBaseline).getD
        u.driftEventsBaseline
    fact := { u.fact with
      physLetter := (o.map (·.physicalLetter)).getD u.fact.physLetter
      driftFlags := (o.map (·.flags)).getD u.fact.driftFlags
      driftEvents := (o.map (·.driftEvents)).getD u.fact.driftEvents
      lastDriftSteps := (o.map (·.lastDriftSteps)).getD u.fact.lastDriftSteps
      diagValid := o.isSome } }

def withVitals (u : PolledUnit) (o : Option UnitVitals) : PolledUnit :=
  { u with fact := { u.fact with vitals := o.getD u.fact.vitals, vitalsValid := o.isSome } }

def withExt (u : PolledUnit) (d : Option UnitExtDiag) (l : Option UnitLinkStats) : PolledUnit :=
  { u with fact := { u.fact with
      extDiag := d.getD u.fact.extDiag
      extDiagValid := d.isSome
      link := l.getD u.fact.link
      linkValid := l.isSome } }

def withLifetime (u : PolledUnit) (o : Option UnitLifetimeFacts) : PolledUnit :=
  { u with fact := { u.fact with lifetime := o.getD u.fact.lifetime, lifetimeValid := o.isSome } }

def withBusRecord (u : PolledUnit) (o : Option (UnitBusRecord × UInt8)) : PolledUnit :=
  { u with fact := { u.fact with
      busRecord := (o.map Prod.fst).getD u.fact.busRecord
      busSilentNowMinutes := (o.map Prod.snd).getD u.fact.busSilentNowMinutes
      busRecordValid := o.isSome } }

def withBoot (expectedCrc32 : UInt32) (u : PolledUnit) (o : Option BootUpdateReport) :
    PolledUnit :=
  { u with
    fact := { u.fact with
      bootCrc32 := (o.map (·.bootCrc32)).getD u.fact.bootCrc32
      bootVerdict := (o.map (bootIntegrityJudge · expectedCrc32)).getD BOOT_INTEGRITY_UNREAD }
    bootLogged :=
      (o.map fun r => (bootIntegrityEdge u.bootLogged (bootIntegrityJudge r expectedCrc32)).logged).getD
        u.bootLogged }

/-- The facts with what was learnt; without it they are forgotten. -/
def learnt (expectedCrc32 : UInt32) (u : PolledUnit) (o : Learnt) : PolledUnit :=
  let u := withDiag (withOdometer u o.odometer) o.diag
  let u := withExt (withVitals u o.vitals) o.extDiag o.link
  withBoot expectedCrc32 (withBusRecord (withLifetime u o.lifetime) o.busRecord) o.boot

/-- Everything learnt is from a reply among the events. -/
structure Learnt.HeardIn (o : Learnt) (addr : UInt8) (said : List PollEvent) : Prop where
  diag : ∀ v, o.diag = some v →
    Heard addr SFP_CMD_GET_DIAG (diagReadbackValid SFP_FLAP_AMOUNT) {} said v
  vitals : ∀ v, o.vitals = some v → Heard addr SFP_CMD_GET_VITALS vitalsReadbackValid {} said v
  extDiag : ∀ v, o.extDiag = some v →
    Heard addr SFP_CMD_GET_EXT_DIAG (fun buf => extDiagReadbackValid (extDiagBase buf)) {} said v
  link : ∀ v, o.link = some v →
    Heard addr SFP_CMD_GET_EXT_DIAG (fun buf => extDiagLinkReadbackValid (extDiagExt buf)) {} said v
  lifetime : ∀ v, o.lifetime = some v →
    Heard addr SFP_CMD_GET_LIFETIME (fun buf => lifetimeReadbackValid buf LIFETIME_REPLY_LEN) {}
      said v
  busRecord : ∀ v, o.busRecord = some v →
    Heard addr SFP_CMD_GET_BUS_RECORD (fun buf => busRecordReadbackValid buf BUS_RECORD_REPLY_LEN)
      ({}, 0) said v
  boot : ∀ v, o.boot = some v → Heard addr SFP_CMD_GET_BOOT_INFO bootInfoDecode {} said v
  odometer : ∀ v, o.odometer = some v →
    Heard addr SFP_CMD_GET_ODOMETER odometerReadbackValid 0 said v

/-! ## §5. Each read, and all of them. -/

/-- What a read leaves: the facts with what it may have learnt. -/
def Leaves {n : Nat} {β : Type} (opcode : UInt8) (decode : Vector UInt8 n → β → Bool × β)
    (out : β) (m : Poll PolledUnit) (fold : Option β → PolledUnit) : Prop :=
  ∀ log, Comes m log fun u' said =>
    ∃ o : Option β, u' = fold o ∧ ∀ v, o = some v → Heard addr opcode decode out said v

/-- A read whose fold is a choice between two states. -/
theorem leaves_ask {n : Nat} {β : Type} {opcode : UInt8}
    {decode : Vector UInt8 n → β → Bool × β} {out : β} {rest : Bool × β → Poll PolledUnit}
    {fold : Option β → PolledUnit}
    (hyes : ∀ v log, Comes (rest (true, v)) log fun u' _ => u' = fold (some v))
    (hno : ∀ v log, Comes (rest (false, v)) log fun u' _ => u' = fold none) :
    Leaves addr opcode decode out (unitAsk bus addr opcode decode out >>= rest) fold := by
  intro log
  refine comes_bind (unitAsk_comes bus addr opcode decode out log) fun r said hr => ?_
  obtain ⟨o, hok, hvalue⟩ := hr
  obtain ⟨ok, v⟩ := r
  dsimp only at hok hvalue
  subst hok
  cases o with
  | none =>
      refine comes_imp (hno v _) fun u' more hu' => ?_
      exact ⟨none, hu', fun _ h => (nomatch h)⟩
  | some v' =>
      obtain ⟨rfl, hheard⟩ := hvalue v' rfl
      refine comes_imp (hyes v _) fun u' more hu' => ?_
      refine ⟨some v, hu', ?_⟩
      intro w hw
      injection hw with hw
      subst hw
      exact hheard.mono (List.subset_append_left _ _)

theorem odometer_leaves (u : PolledUnit) :
    Leaves addr SFP_CMD_GET_ODOMETER odometerReadbackValid 0 (unitRefreshOdometer bus addr u)
      (withOdometer u) :=
  leaves_ask bus addr (fun _ _ => comes_ret rfl) fun _ _ => comes_ret rfl

theorem diag_leaves (u : PolledUnit) :
    Leaves addr SFP_CMD_GET_DIAG (diagReadbackValid SFP_FLAP_AMOUNT) {}
      (unitRefreshDiag bus addr u) (withDiag u) := by
  refine leaves_ask bus addr (fun v log => ?_) fun _ _ => comes_ret rfl
  rw [if_pos rfl]
  dsimp only
  split
  · refine comes_bind (p := fun _ _ => True) (comes_say trivial) fun _ _ _ => ?_
    exact comes_ret rfl
  · exact comes_ret rfl

theorem vitals_leaves (u : PolledUnit) :
    Leaves addr SFP_CMD_GET_VITALS vitalsReadbackValid {} (unitRefreshVitals bus addr u)
      (withVitals u) :=
  leaves_ask bus addr (fun _ _ => comes_ret rfl) fun _ _ => comes_ret rfl

theorem lifetime_leaves (u : PolledUnit) :
    Leaves addr SFP_CMD_GET_LIFETIME (fun buf => lifetimeReadbackValid buf LIFETIME_REPLY_LEN) {}
      (unitRefreshLifetime bus addr u) (withLifetime u) :=
  leaves_ask bus addr (fun _ _ => comes_ret rfl) fun _ _ => comes_ret rfl

theorem busRecord_leaves (u : PolledUnit) :
    Leaves addr SFP_CMD_GET_BUS_RECORD
      (fun buf => busRecordReadbackValid buf BUS_RECORD_REPLY_LEN) ({}, 0)
      (unitRefreshBusRecord bus addr u) (withBusRecord u) :=
  leaves_ask bus addr (fun _ _ => comes_ret rfl) fun _ _ => comes_ret rfl

theorem boot_leaves (expectedCrc32 : UInt32) (u : PolledUnit) :
    Leaves addr SFP_CMD_GET_BOOT_INFO bootInfoDecode {}
      (unitRefreshBootVerdict bus addr expectedCrc32 u) (withBoot expectedCrc32 u) := by
  refine leaves_ask bus addr (fun v log => ?_) fun _ _ => comes_ret rfl
  rw [if_pos rfl]
  dsimp only
  split
  · refine comes_bind (p := fun _ _ => True) (comes_say trivial) fun _ _ _ => ?_
    exact comes_ret rfl
  · exact comes_ret rfl

/-- The two parts of an extended reply are judged each by itself. -/
theorem unitRefreshExt_comes (u : PolledUnit) (log : List PollEvent) :
    Comes (unitRefreshExt bus addr u) log fun u' said =>
      ∃ d l, u' = withExt u d l ∧
        (∀ v, d = some v → Heard addr SFP_CMD_GET_EXT_DIAG
          (fun buf => extDiagReadbackValid (extDiagBase buf)) {} said v) ∧
        ∀ v, l = some v → Heard addr SFP_CMD_GET_EXT_DIAG
          (fun buf => extDiagLinkReadbackValid (extDiagExt buf)) {} said v := by
  unfold unitRefreshExt
  refine comes_bind (unitQuery_comes bus addr SFP_CMD_GET_EXT_DIAG 21 log)
    fun answer said hanswer => ?_
  refine comes_ret ?_
  rw [List.append_nil]
  cases answer with
  | none => exact ⟨none, none, rfl, fun _ h => (nomatch h), fun _ h => (nomatch h)⟩
  | some buf =>
      have hreceived := hanswer buf rfl
      rcases hbase : extDiagReadbackValid (extDiagBase buf) {} with ⟨ok, d⟩
      rcases hlink : extDiagLinkReadbackValid (extDiagExt buf) {} with ⟨linkOk, l⟩
      refine ⟨if ok then some d else none, if linkOk then some l else none, ?_, ?_, ?_⟩
      · unfold unitRefreshExtDiag
        dsimp only
        unfold unitFactsFoldExtDiag
        rw [hbase, hlink]
        cases ok with
        | true =>
            cases linkOk with
            | true => rfl
            | false => rfl
        | false =>
            cases linkOk with
            | true => rfl
            | false => rfl
      · intro v hv
        cases ok with
        | false => exact (nomatch hv)
        | true =>
            injection hv with hv
            subst hv
            exact ⟨buf, hreceived, hbase⟩
      · intro v hv
        cases linkOk with
        | false => exact (nomatch hv)
        | true =>
            injection hv with hv
            subst hv
            exact ⟨buf, hreceived, hlink⟩

/-- **What the diagnostics leave**: the facts with what was read, and only that. -/
theorem unitRefreshDiagnostics_comes (expectedCrc32 : UInt32) (u : PolledUnit)
    (log : List PollEvent) :
    Comes (unitRefreshDiagnostics bus addr expectedCrc32 u) log fun u' said =>
      ∃ o : Learnt, u' = learnt expectedCrc32 u o ∧ o.HeardIn addr said := by
  unfold unitRefreshDiagnostics
  refine comes_bind (odometer_leaves bus addr u _) fun u1 said1 h1 => ?_
  obtain ⟨odometer, rfl, h1⟩ := h1
  refine comes_bind (diag_leaves bus addr _ _) fun u2 said2 h2 => ?_
  obtain ⟨diag, rfl, h2⟩ := h2
  refine comes_bind (vitals_leaves bus addr _ _) fun u3 said3 h3 => ?_
  obtain ⟨vitals, rfl, h3⟩ := h3
  refine comes_bind (unitRefreshExt_comes bus addr _ _) fun u4 said4 h4 => ?_
  obtain ⟨extDiag, link, rfl, h4, h4'⟩ := h4
  refine comes_bind (lifetime_leaves bus addr _ _) fun u5 said5 h5 => ?_
  obtain ⟨lifetime, rfl, h5⟩ := h5
  refine comes_bind (busRecord_leaves bus addr _ _) fun u6 said6 h6 => ?_
  obtain ⟨busRecord, rfl, h6⟩ := h6
  refine comes_imp (boot_leaves bus addr expectedCrc32 _ _) fun u7 said7 h7 => ?_
  obtain ⟨boot, rfl, h7⟩ := h7
  refine ⟨⟨odometer, diag, vitals, extDiag, link, lifetime, busRecord, boot⟩, rfl, ?_⟩
  have hlast := @List.subset_append_right PollEvent
  have hfirst := @List.subset_append_left PollEvent
  constructor
  · exact fun v hv => ((h2 v hv).mono (hfirst _ _)).mono (hlast _ _)
  · exact fun v hv => (((h3 v hv).mono (hfirst _ _)).mono (hlast _ _)).mono (hlast _ _)
  · intro v hv
    exact ((((h4 v hv).mono (hfirst _ _)).mono (hlast _ _)).mono (hlast _ _)).mono (hlast _ _)
  · intro v hv
    exact ((((h4' v hv).mono (hfirst _ _)).mono (hlast _ _)).mono (hlast _ _)).mono (hlast _ _)
  · intro v hv
    exact (((((h5 v hv).mono (hfirst _ _)).mono (hlast _ _)).mono (hlast _ _)).mono
      (hlast _ _)).mono (hlast _ _)
  · intro v hv
    exact ((((((h6 v hv).mono (hfirst _ _)).mono (hlast _ _)).mono (hlast _ _)).mono
      (hlast _ _)).mono (hlast _ _)).mono (hlast _ _)
  · intro v hv
    exact ((((((h7 v hv).mono (hlast _ _)).mono (hlast _ _)).mono (hlast _ _)).mono
      (hlast _ _)).mono (hlast _ _)).mono (hlast _ _)
  · exact fun v hv => (h1 v hv).mono (hfirst _ _)

/-! ## §6. The poll. -/

theorem unitPollStatus_comes (u : PolledUnit) (log : List PollEvent) :
    Comes (unitPollStatus bus addr u) log fun r said =>
      ∃ o : Option UnitStatus, r = (o.isSome, withStatus u o) ∧
        ∀ v, o = some v → Heard addr SFP_CMD_GET_STATUS statusDecode {} said v := by
  unfold unitPollStatus
  refine comes_bind (unitAsk_comes bus addr SFP_CMD_GET_STATUS statusDecode {} log)
    fun s said hs => ?_
  obtain ⟨o, hok, hvalue⟩ := hs
  obtain ⟨ok, v⟩ := s
  dsimp only at hok hvalue ⊢
  subst hok
  cases o with
  | none =>
      rw [if_neg (by decide)]
      exact comes_ret ⟨none, rfl, fun _ h => (nomatch h)⟩
  | some v' =>
      obtain ⟨rfl, hheard⟩ := hvalue v' rfl
      rw [if_pos Option.isSome_some]
      refine comes_ret ⟨some v, rfl, ?_⟩
      intro w hw
      injection hw with hw
      subst hw
      exact hheard.mono (List.subset_append_left _ _)

/-- Nothing learnt is everything forgotten. -/
theorem learnt_nothing (expectedCrc32 : UInt32) (u : PolledUnit) :
    learnt expectedCrc32 u {} = { u with fact := unitForgetDiagnostics u.fact } := by
  cases u with
  | mk fact driftEventsBaseline baseline bootLogged =>
      cases fact
      rfl

theorem heardIn_nothing (said : List PollEvent) : ({} : Learnt).HeardIn addr said := by
  constructor
  all_goals
    intro v hv
    cases hv

/-- **A poll leaves what it learnt**, on the long way and on the short one. -/
theorem unitPollHealth_comes (expectedCrc32 : UInt32) (u : PolledUnit) (log : List PollEvent) :
    Comes (unitPollHealth bus addr expectedCrc32 u) log fun r said =>
      ∃ (status : Option UnitStatus) (o : Learnt),
        r = (status.isSome, learnt expectedCrc32 (withStatus u status) o) ∧
          (∀ v, status = some v → Heard addr SFP_CMD_GET_STATUS statusDecode {} said v) ∧
            o.HeardIn addr said := by
  unfold unitPollHealth
  refine comes_bind (unitPollStatus_comes bus addr u log) fun polled said hpolled => ?_
  obtain ⟨status, rfl, hstatus⟩ := hpolled
  dsimp only
  split
  · next hshort =>
      -- the short way: nothing else was asked
      refine comes_ret ⟨status, {}, ?_, ?_, heardIn_nothing addr _⟩
      · rw [learnt_nothing]
        rw [Bool.and_eq_true, Bool.not_eq_true'] at hshort
        rw [hshort.1]
      · exact fun v hv => (hstatus v hv).mono (List.subset_append_left _ _)
  · refine comes_bind (unitRefreshDiagnostics_comes bus addr expectedCrc32 _ _)
      fun u' more hu' => ?_
    obtain ⟨o, rfl, ho⟩ := hu'
    refine comes_ret ⟨status, o, rfl, ?_, ?_⟩
    · exact fun v hv => (hstatus v hv).mono (List.subset_append_left _ _)
    · have hsub : more ⊆ said ++ (more ++ []) := by
        rw [List.append_nil]
        exact List.subset_append_right _ _
      constructor
      · exact fun v hv => (ho.diag v hv).mono hsub
      · exact fun v hv => (ho.vitals v hv).mono hsub
      · exact fun v hv => (ho.extDiag v hv).mono hsub
      · exact fun v hv => (ho.link v hv).mono hsub
      · exact fun v hv => (ho.lifetime v hv).mono hsub
      · exact fun v hv => (ho.busRecord v hv).mono hsub
      · exact fun v hv => (ho.boot v hv).mono hsub
      · exact fun v hv => (ho.odometer v hv).mono hsub

/-- Every reading that counts is what a reply among the events says. -/
structure Fresh (expectedCrc32 : UInt32) (addr : UInt8) (fact : UnitFacts)
    (said : List PollEvent) : Prop where
  status : fact.statusValid = true →
    Heard addr SFP_CMD_GET_STATUS statusDecode {} said fact.status
  diag : fact.diagValid = true →
    Heard addr SFP_CMD_GET_DIAG (diagReadbackValid SFP_FLAP_AMOUNT) {} said
      { physicalLetter := fact.physLetter, flags := fact.driftFlags
        driftEvents := fact.driftEvents, lastDriftSteps := fact.lastDriftSteps }
  vitals : fact.vitalsValid = true →
    Heard addr SFP_CMD_GET_VITALS vitalsReadbackValid {} said fact.vitals
  extDiag : fact.extDiagValid = true →
    Heard addr SFP_CMD_GET_EXT_DIAG (fun buf => extDiagReadbackValid (extDiagBase buf)) {} said
      fact.extDiag
  link : fact.linkValid = true →
    Heard addr SFP_CMD_GET_EXT_DIAG (fun buf => extDiagLinkReadbackValid (extDiagExt buf)) {} said
      fact.link
  lifetime : fact.lifetimeValid = true →
    Heard addr SFP_CMD_GET_LIFETIME (fun buf => lifetimeReadbackValid buf LIFETIME_REPLY_LEN) {}
      said fact.lifetime
  busRecord : fact.busRecordValid = true →
    Heard addr SFP_CMD_GET_BUS_RECORD
      (fun buf => busRecordReadbackValid buf BUS_RECORD_REPLY_LEN) ({}, 0) said
      (fact.busRecord, fact.busSilentNowMinutes)
  boot : fact.bootVerdict ≠ BOOT_INTEGRITY_UNREAD →
    ∃ report, Heard addr SFP_CMD_GET_BOOT_INFO bootInfoDecode {} said report ∧
      fact.bootVerdict = bootIntegrityJudge report expectedCrc32 ∧
        fact.bootCrc32 = report.bootCrc32

theorem learnt_fresh {expectedCrc32 : UInt32} {u : PolledUnit} {status : Option UnitStatus}
    {o : Learnt} {said : List PollEvent}
    (hstatus : ∀ v, status = some v → Heard addr SFP_CMD_GET_STATUS statusDecode {} said v)
    (ho : o.HeardIn addr said) :
    Fresh expectedCrc32 addr (learnt expectedCrc32 (withStatus u status) o).fact said := by
  obtain ⟨odometer, diag, vitals, extDiag, link, lifetime, busRecord, boot⟩ := o
  constructor
  · intro hvalid
    obtain ⟨v, rfl⟩ := Option.isSome_iff_exists.mp hvalid
    exact hstatus v rfl
  · intro hvalid
    obtain ⟨v, rfl⟩ := Option.isSome_iff_exists.mp hvalid
    exact ho.diag v rfl
  · intro hvalid
    obtain ⟨v, rfl⟩ := Option.isSome_iff_exists.mp hvalid
    exact ho.vitals v rfl
  · intro hvalid
    obtain ⟨v, rfl⟩ := Option.isSome_iff_exists.mp hvalid
    exact ho.extDiag v rfl
  · intro hvalid
    obtain ⟨v, rfl⟩ := Option.isSome_iff_exists.mp hvalid
    exact ho.link v rfl
  · intro hvalid
    obtain ⟨v, rfl⟩ := Option.isSome_iff_exists.mp hvalid
    exact ho.lifetime v rfl
  · intro hvalid
    obtain ⟨v, rfl⟩ := Option.isSome_iff_exists.mp hvalid
    exact ho.busRecord v rfl
  · intro hread
    cases boot with
    | none => exact absurd rfl hread
    | some report => exact ⟨report, ho.boot report rfl, rfl, rfl⟩

/-- Every diagnostics read among the events failed. -/
structure NothingRead (addr : UInt8) (said : List PollEvent) : Prop where
  odometer : ∀ v, ¬Heard addr SFP_CMD_GET_ODOMETER odometerReadbackValid 0 said v
  diag : ∀ v, ¬Heard addr SFP_CMD_GET_DIAG (diagReadbackValid SFP_FLAP_AMOUNT) {} said v
  vitals : ∀ v, ¬Heard addr SFP_CMD_GET_VITALS vitalsReadbackValid {} said v
  extDiag : ∀ v, ¬Heard addr SFP_CMD_GET_EXT_DIAG
    (fun buf => extDiagReadbackValid (extDiagBase buf)) {} said v
  link : ∀ v, ¬Heard addr SFP_CMD_GET_EXT_DIAG
    (fun buf => extDiagLinkReadbackValid (extDiagExt buf)) {} said v
  lifetime : ∀ v, ¬Heard addr SFP_CMD_GET_LIFETIME
    (fun buf => lifetimeReadbackValid buf LIFETIME_REPLY_LEN) {} said v
  busRecord : ∀ v, ¬Heard addr SFP_CMD_GET_BUS_RECORD
    (fun buf => busRecordReadbackValid buf BUS_RECORD_REPLY_LEN) ({}, 0) said v
  boot : ∀ v, ¬Heard addr SFP_CMD_GET_BOOT_INFO bootInfoDecode {} said v

/-- With every read failing, nothing is learnt. -/
theorem NothingRead.nothing {said : List PollEvent} (h : NothingRead addr said) {o : Learnt}
    (ho : o.HeardIn addr said) : o = {} := by
  have hnone : ∀ {β : Type} {o : Option β} {P : β → Prop}, (∀ v, o = some v → P v) →
      (∀ v, ¬P v) → o = none := by
    intro β o P hsome hno
    cases o with
    | none => rfl
    | some v => exact absurd (hsome v rfl) (hno v)
  obtain ⟨odometer, diag, vitals, extDiag, link, lifetime, busRecord, boot⟩ := o
  have hodometer := hnone ho.odometer h.odometer
  have hdiag := hnone ho.diag h.diag
  have hvitals := hnone ho.vitals h.vitals
  have hextDiag := hnone ho.extDiag h.extDiag
  have hlink := hnone ho.link h.link
  have hlifetime := hnone ho.lifetime h.lifetime
  have hbusRecord := hnone ho.busRecord h.busRecord
  have hboot := hnone ho.boot h.boot
  dsimp only at hodometer hdiag hvitals hextDiag hlink hlifetime hbusRecord hboot
  subst hodometer hdiag hvitals hextDiag hlink hlifetime hbusRecord hboot
  rfl

/-- **A health poll never serves a stale reading**: what counts after it was read
in it, and the short way out leaves what the long one leaves when every read
fails. -/
theorem poll_never_stale (expectedCrc32 : UInt32) (u : PolledUnit) (log : List PollEvent) :
    ∃ ok u' said,
      unitPollHealth bus addr expectedCrc32 u log = (some (ok, u'), log ++ said) ∧
      Fresh expectedCrc32 addr u'.fact said ∧
      ∀ u1 log1, unitPollStatus bus addr u log = (some (false, u1), log1) →
        0 < u1.fact.misses → log ++ said = log1 ∧ ok = false ∧
          ∀ (bus' : UnitBus) (log' : List PollEvent), ∃ u'' more,
            unitRefreshDiagnostics bus' addr expectedCrc32 u1 log' = (some u'', log' ++ more) ∧
              (NothingRead addr more → u' = u'') := by
  obtain ⟨⟨ok, u'⟩, said, hrun, status, o, hresult, hstatus, ho⟩ :=
    unitPollHealth_comes bus addr expectedCrc32 u log
  refine ⟨ok, u', said, hrun, ?_, ?_⟩
  · injection hresult with _ hu'
    rw [hu']
    exact learnt_fresh addr hstatus ho
  · intro u1 log1 hmissed hmisses
    have hshort : unitPollHealth bus addr expectedCrc32 u log =
        (some (false, { u1 with fact := unitForgetDiagnostics u1.fact }), log1) := by
      show andThen (unitPollStatus bus addr u) _ log = _
      unfold andThen
      rw [hmissed]
      dsimp only
      rw [if_pos (by simp [hmisses])]
      rfl
    rw [hrun] at hshort
    injection hshort with hanswer hlog
    injection hanswer with hanswer
    injection hanswer with hok hu'
    refine ⟨hlog, hok, ?_⟩
    intro bus' log'
    obtain ⟨u'', more, hlong, o', hu'', ho'⟩ :=
      unitRefreshDiagnostics_comes bus' addr expectedCrc32 u1 log'
    refine ⟨u'', more, hlong, ?_⟩
    intro hnothing
    rw [hu', hu'', NothingRead.nothing addr hnothing ho', learnt_nothing]

/-- A bus on which nobody acknowledges. -/
def deadBus : UnitBus where
  endCounted := fun _ => 2
  requestFrom := fun _ => 0
  read := fun _ _ => 0xFF

/-- A unit that answered until just before its last poll. -/
def missedOnce : PolledUnit := { fact := { state := 1, vitalsValid := true, misses := 1 } }

theorem poll_never_stale_dead :
    (unitPollHealth deadBus 3 0 missedOnce []).1 =
      (unitRefreshDiagnostics deadBus 3 0 missedOnce []).1.map fun u => (false, u) := by
  obtain ⟨ok, u', said, hrun, _, hshort⟩ := poll_never_stale deadBus 3 0 missedOnce []
  obtain ⟨_, hok, hlong⟩ :=
    hshort missedOnce [.wrote 3 SFP_CMD_GET_STATUS 2] rfl (by decide)
  obtain ⟨u'', more, hrun', hsame⟩ := hlong deadBus []
  have hmore : more = (unitRefreshDiagnostics deadBus 3 0 missedOnce []).2 := by
    rw [hrun']
    rfl
  have hnothing : NothingRead 3 more := by
    rw [hmore]
    constructor
    all_goals
      rintro v ⟨buf, hmem, _⟩
      have hreceived : PollEvent.received 3 _ buf.toList ∈
          ([.wrote 3 SFP_CMD_GET_ODOMETER 2, .wrote 3 SFP_CMD_GET_DIAG 2,
            .wrote 3 SFP_CMD_GET_VITALS 2, .wrote 3 SFP_CMD_GET_EXT_DIAG 2,
            .wrote 3 SFP_CMD_GET_LIFETIME 2, .wrote 3 SFP_CMD_GET_BUS_RECORD 2,
            .wrote 3 SFP_CMD_GET_BOOT_INFO 2] : List PollEvent) := hmem
      simp at hreceived
  rw [hrun, hrun', hok, hsame hnothing]
  rfl

end SplitFlap
