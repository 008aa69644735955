/-
  SplitFlap.Link.WifiTx — the ladder of transmit power.

  `WifiTxPolicy.h`: a board starts at the lowest level and moves one level at a time.  A
  dropped link earns a level, which is kept; a weak signal earns one up to the join ceiling;
  a long healthy time gives one back.  Up-steps wait until a stamp of the 32-bit clock is
  reached; the stamp is set when a board comes online and by every up-step, and by nothing
  else.
-/
import SplitFlap.Lib.Clock
import SplitFlap.Lib.Machine

namespace SplitFlap.WifiTx

open Machine Clock

def WIFI_TX_LEVELS_RAW : List Int := [8, 20, 28, 34, 44, 52, 56, 60, 66, 72, 80]

abbrev WIFI_TX_LEVEL_COUNT : Nat := 11
abbrev WIFI_TX_JOIN_CEILING_INDEX : Nat := 3
abbrev WIFI_TX_ONLINE_CEILING_INDEX : Nat := 5
abbrev WIFI_TX_PORTAL_INDEX : Nat := 3
abbrev WIFI_TX_JOIN_STEP_MS : UInt32 := 7000
abbrev WIFI_TX_SETTLE_MS : UInt32 := 60000
abbrev WIFI_TX_WEAK_MS : UInt32 := 60000
abbrev WIFI_TX_UP_DWELL_MS : UInt32 := 60000
abbrev WIFI_TX_HEALTHY_MS : UInt32 := 600000
abbrev WIFI_TX_AP_ASSUMED_RAW : Int := 80
abbrev WIFI_TX_WEAK_UPLINK_RAW : Int := -320
abbrev WIFI_TX_DOWN_MARGIN_RAW : Int := 24

/-! ## §1. The policy. -/

inductive WifiTxPhase where
  | joining
  | online
  | portal
  deriving DecidableEq

structure WifiTxInput where
  phase : WifiTxPhase := .joining
  linkUp : Bool := false
  rssiDbm : Int := 0
  unitsIdle : Bool := true
  trafficConfirmed : Bool := false

inductive WifiTxStepReason where
  | none
  | joinTimeout
  | weakSignal
  | linkDrop
  | spare
  deriving DecidableEq

structure WifiTxState where
  index : Nat := 0
  started : Bool := false
  phase : WifiTxPhase := .joining
  joinLevelSinceMs : UInt32 := 0
  upAllowedAtMs : UInt32 := 0
  wasLinkUp : Bool := false
  dropPending : Bool := false
  dropFloor : Nat := 0
  weakArmed : Bool := false
  weakSinceMs : UInt32 := 0
  spareArmed : Bool := false
  spareSinceMs : UInt32 := 0
  stepsUp : UInt16 := 0
  stepsDown : UInt16 := 0
  lastReason : WifiTxStepReason := .none

def wifiTxLevelRaw (index : Nat) : Int :=
  WIFI_TX_LEVELS_RAW[if index ≥ WIFI_TX_LEVEL_COUNT then WIFI_TX_LEVEL_COUNT - 1 else index]?.getD 0

def wifiTxUplinkRaw (rssiDbm : Int) (index : Nat) : Int16 :=
  Int16.ofInt (rssiDbm * 4 + wifiTxLevelRaw index - WIFI_TX_AP_ASSUMED_RAW)

def wifiTxStepUp (st : WifiTxState) (nowMs : UInt32) (reason : WifiTxStepReason) : WifiTxState :=
  { st with
    index := st.index + 1
    stepsUp := st.stepsUp + 1
    lastReason := reason
    dropFloor := if reason = .linkDrop then st.index + 1 else st.dropFloor
    upAllowedAtMs := nowMs + WIFI_TX_UP_DWELL_MS
    weakArmed := false
    spareArmed := false }

def wifiTxStepDown (st : WifiTxState) : WifiTxState :=
  { st with
    index := st.index - 1
    stepsDown := st.stepsDown + 1
    lastReason := .spare
    spareArmed := false }

def joinStep (st : WifiTxState) (entered : Bool) (nowMs : UInt32) : WifiTxState :=
  if entered then { st with joinLevelSinceMs := nowMs }
  else if st.index < WIFI_TX_JOIN_CEILING_INDEX ∧
      reached nowMs (st.joinLevelSinceMs + WIFI_TX_JOIN_STEP_MS) = true then
    { st with
      index := st.index + 1
      stepsUp := st.stepsUp + 1
      lastReason := .joinTimeout
      joinLevelSinceMs := nowMs }
  else st

def onlineEntry (st : WifiTxState) (inp : WifiTxInput) (nowMs : UInt32) : WifiTxState :=
  { st with
    upAllowedAtMs := nowMs + WIFI_TX_SETTLE_MS
    wasLinkUp := inp.linkUp
    dropPending := false
    weakArmed := false
    spareArmed := false }

def atCeiling (st : WifiTxState) : Bool := st.index ≥ WIFI_TX_ONLINE_CEILING_INDEX

def canStepUp (st : WifiTxState) (inp : WifiTxInput) (nowMs : UInt32) : Bool :=
  !atCeiling st && inp.unitsIdle && reached nowMs st.upAllowedAtMs

/-- The link is down: a drop is noted, and answered. -/
def linkDownStep (st : WifiTxState) (inp : WifiTxInput) (nowMs : UInt32) : WifiTxState :=
  let can := canStepUp st inp nowMs
  let st :=
    { st with
      dropPending := st.dropPending || (st.wasLinkUp && !atCeiling st)
      wasLinkUp := false
      weakArmed := false
      spareArmed := false }
  if st.dropPending && can then
    wifiTxStepUp { st with dropPending := false } nowMs .linkDrop
  else st

def isWeak (st : WifiTxState) (inp : WifiTxInput) : Bool :=
  !inp.trafficConfirmed && st.index < WIFI_TX_JOIN_CEILING_INDEX &&
    wifiTxUplinkRaw inp.rssiDbm st.index < Int16.ofInt WIFI_TX_WEAK_UPLINK_RAW

def isSpare (st : WifiTxState) (inp : WifiTxInput) : Bool :=
  st.index > st.dropFloor && !st.dropPending &&
    wifiTxUplinkRaw inp.rssiDbm (st.index - 1) ≥
      Int16.ofInt (WIFI_TX_WEAK_UPLINK_RAW + WIFI_TX_DOWN_MARGIN_RAW)

def spareStep (st : WifiTxState) (inp : WifiTxInput) (nowMs : UInt32) : WifiTxState :=
  if isSpare st inp = false then { st with spareArmed := false }
  else if st.spareArmed = false then { st with spareArmed := true, spareSinceMs := nowMs }
  else if reached nowMs (st.spareSinceMs + WIFI_TX_HEALTHY_MS) then wifiTxStepDown st
  else st

/-- The link is up: a drop is answered, or the signal is judged. -/
def linkUpStep (st : WifiTxState) (inp : WifiTxInput) (nowMs : UInt32) : WifiTxState :=
  let can := canStepUp st inp nowMs
  let st := { st with wasLinkUp := true }
  if st.dropPending && can then
    wifiTxStepUp { st with dropPending := false } nowMs .linkDrop
  else if isWeak st inp = false then spareStep { st with weakArmed := false } inp nowMs
  else if st.weakArmed = false then
    spareStep { st with weakArmed := true, weakSinceMs := nowMs } inp nowMs
  else if can && reached nowMs (st.weakSinceMs + WIFI_TX_WEAK_MS) then
    wifiTxStepUp st nowMs .weakSignal
  else spareStep st inp nowMs

def onlineStep (st : WifiTxState) (inp : WifiTxInput) (nowMs : UInt32) : WifiTxState :=
  if inp.linkUp then linkUpStep st inp nowMs else linkDownStep st inp nowMs

def hasEntered (st : WifiTxState) (inp : WifiTxInput) : Bool :=
  !st.started || st.phase != inp.phase

/-- The level the radio should be at is the state's `index`. -/
def wifiTxPolicyStep (st : WifiTxState) (inp : WifiTxInput) (nowMs : UInt32) : WifiTxState :=
  let entered := hasEntered st inp
  let st := { st with started := true, phase := inp.phase }
  match inp.phase with
  | .portal => { st with index := WIFI_TX_PORTAL_INDEX }
  | .joining => joinStep st entered nowMs
  | .online => onlineStep (if entered then onlineEntry st inp nowMs else st) inp nowMs

/-! ## §2. What a step online does. -/

/-- A drop that is pending, with one this step notices. -/
def pending (st : WifiTxState) (inp : WifiTxInput) : Bool :=
  st.dropPending || (!inp.linkUp && st.wasLinkUp && !atCeiling st)

/-- What a step online does to the level, its floor and the stamp of the next up-step. -/
inductive Steps (st : WifiTxState) (inp : WifiTxInput) (nowMs : UInt32) (st' : WifiTxState) : Prop
  | drop (hpending : pending st inp = true) (hcan : canStepUp st inp nowMs = true)
      (hindex : st'.index = st.index + 1) (hfloor : st'.dropFloor = st.index + 1)
      (hstamp : st'.upAllowedAtMs = nowMs + WIFI_TX_UP_DWELL_MS)
      (hreason : st'.lastReason = .linkDrop) (hleft : st'.dropPending = false)
  | weak (hcan : canStepUp st inp nowMs = true) (hlow : st.index < WIFI_TX_JOIN_CEILING_INDEX)
      (hindex : st'.index = st.index + 1) (hfloor : st'.dropFloor = st.dropFloor)
      (hstamp : st'.upAllowedAtMs = nowMs + WIFI_TX_UP_DWELL_MS)
      (hreason : st'.lastReason = .weakSignal) (hnone : pending st inp = false)
      (hleft : st'.dropPending = false)
  | spare (habove : st.dropFloor < st.index) (hindex : st'.index = st.index - 1)
      (hfloor : st'.dropFloor = st.dropFloor) (hstamp : st'.upAllowedAtMs = st.upAllowedAtMs)
      (hnone : pending st inp = false) (hleft : st'.dropPending = false)
  | stay (hwait : pending st inp = true → canStepUp st inp nowMs = false)
      (hindex : st'.index = st.index) (hfloor : st'.dropFloor = st.dropFloor)
      (hstamp : st'.upAllowedAtMs = st.upAllowedAtMs) (hleft : st'.dropPending = pending st inp)

/-- What no step online touches, but the entry. -/
def Same (st st' : WifiTxState) : Prop := st'.started = st.started ∧ st'.phase = st.phase

/-- A healthy time gives a level back, or nothing that counts changes. -/
theorem spareStep_does (st : WifiTxState) (inp : WifiTxInput) (nowMs : UInt32) :
    ((st.dropFloor < st.index ∧ st.dropPending = false ∧
        (spareStep st inp nowMs).index = st.index - 1) ∨
      (spareStep st inp nowMs).index = st.index) ∧
    (spareStep st inp nowMs).dropFloor = st.dropFloor ∧
    (spareStep st inp nowMs).upAllowedAtMs = st.upAllowedAtMs ∧
    (spareStep st inp nowMs).dropPending = st.dropPending ∧
    (spareStep st inp nowMs).wasLinkUp = st.wasLinkUp ∧ Same st (spareStep st inp nowMs) := by
  unfold spareStep
  by_cases hspare : isSpare st inp = false
  · rw [if_pos hspare]
    exact ⟨Or.inr rfl, rfl, rfl, rfl, rfl, rfl, rfl⟩
  rw [if_neg hspare]
  rw [Bool.not_eq_false] at hspare
  unfold isSpare at hspare
  rw [Bool.and_eq_true, Bool.and_eq_true, decide_eq_true_eq, Bool.not_eq_true'] at hspare
  by_cases harmed : st.spareArmed = false
  · rw [if_pos harmed]
    exact ⟨Or.inr rfl, rfl, rfl, rfl, rfl, rfl, rfl⟩
  rw [if_neg harmed]
  by_cases hlong : reached nowMs (st.spareSinceMs + WIFI_TX_HEALTHY_MS) = true
  · rw [if_pos hlong]
    exact ⟨Or.inl ⟨hspare.1.1, hspare.1.2, rfl⟩, rfl, rfl, rfl, rfl, rfl, rfl⟩
  · rw [if_neg hlong]
    exact ⟨Or.inr rfl, rfl, rfl, rfl, rfl, rfl, rfl⟩

/-- A spare step taken from a state that is `st` where it counts. -/
theorem spareStep_steps {st st₁ : WifiTxState} {inp : WifiTxInput} {nowMs : UInt32}
    (hwait : pending st inp = true → canStepUp st inp nowMs = false)
    (hindex : st₁.index = st.index) (hfloor : st₁.dropFloor = st.dropFloor)
    (hstamp : st₁.upAllowedAtMs = st.upAllowedAtMs) (hpending : st₁.dropPending = pending st inp)
    (hup : st₁.wasLinkUp = inp.linkUp) (hsame : Same st st₁) :
    Steps st inp nowMs (spareStep st₁ inp nowMs) ∧
      (spareStep st₁ inp nowMs).wasLinkUp = inp.linkUp ∧ Same st (spareStep st₁ inp nowMs) := by
  obtain ⟨hlevel, hf, hs, hp, hl, hstarted, hphase⟩ := spareStep_does st₁ inp nowMs
  refine ⟨?_, hl.trans hup, hstarted.trans hsame.1, hphase.trans hsame.2⟩
  rcases hlevel with ⟨habove, hnone, hdown⟩ | hstay
  · rw [hfloor, hindex] at habove
    rw [hindex] at hdown
    exact .spare habove hdown (hf.trans hfloor) (hs.trans hstamp) (hpending.symm.trans hnone)
      (hp.trans hnone)
  · exact .stay hwait (hstay.trans hindex) (hf.trans hfloor) (hs.trans hstamp)
      (hp.trans hpending)

theorem linkDownStep_steps {st : WifiTxState} {inp : WifiTxInput} (nowMs : UInt32)
    (hdown : inp.linkUp = false) :
    Steps st inp nowMs (linkDownStep st inp nowMs) ∧
      (linkDownStep st inp nowMs).wasLinkUp = inp.linkUp ∧
      Same st (linkDownStep st inp nowMs) := by
  have hpending : pending st inp = (st.dropPending || (st.wasLinkUp && !atCeiling st)) := by
    unfold pending
    rw [hdown, Bool.not_false, Bool.true_and]
  unfold linkDownStep
  dsimp only
  rw [← hpending]
  by_cases hstep : (pending st inp && canStepUp st inp nowMs) = true
  · rw [if_pos hstep]
    rw [Bool.and_eq_true] at hstep
    exact ⟨.drop hstep.1 hstep.2 rfl rfl rfl rfl rfl, hdown.symm, rfl, rfl⟩
  · rw [if_neg hstep]
    refine ⟨.stay (fun hp => ?_) rfl rfl rfl rfl, hdown.symm, rfl, rfl⟩
    rw [hp, Bool.true_and, Bool.not_eq_true] at hstep
    exact hstep

theorem linkUpStep_steps {st : WifiTxState} {inp : WifiTxInput} (nowMs : UInt32)
    (hup : inp.linkUp = true) :
    Steps st inp nowMs (linkUpStep st inp nowMs) ∧
      (linkUpStep st inp nowMs).wasLinkUp = inp.linkUp ∧ Same st (linkUpStep st inp nowMs) := by
  have hpending : pending st inp = st.dropPending := by
    unfold pending
    rw [hup, Bool.not_true, Bool.false_and, Bool.false_and, Bool.or_false]
  unfold linkUpStep
  dsimp only
  by_cases hstep : (st.dropPending && canStepUp st inp nowMs) = true
  · rw [if_pos hstep]
    rw [Bool.and_eq_true] at hstep
    exact ⟨.drop (hpending.trans hstep.1) hstep.2 rfl rfl rfl rfl rfl, hup.symm, rfl, rfl⟩
  rw [if_neg hstep]
  have hwait : pending st inp = true → canStepUp st inp nowMs = false := by
    intro hp
    rw [hpending] at hp
    rw [hp, Bool.true_and, Bool.not_eq_true] at hstep
    exact hstep
  by_cases hweak : isWeak { st with wasLinkUp := true } inp = false
  · rw [if_pos hweak]
    exact spareStep_steps hwait rfl rfl rfl hpending.symm hup.symm ⟨rfl, rfl⟩
  rw [if_neg hweak]
  by_cases harmed : st.weakArmed = false
  · rw [if_pos harmed]
    exact spareStep_steps hwait rfl rfl rfl hpending.symm hup.symm ⟨rfl, rfl⟩
  rw [if_neg harmed]
  by_cases hlong : (canStepUp st inp nowMs &&
      reached nowMs (st.weakSinceMs + WIFI_TX_WEAK_MS)) = true
  · rw [if_pos hlong]
    rw [Bool.and_eq_true] at hlong
    have hnone : st.dropPending = false := by
      cases hp : st.dropPending with
      | false => rfl
      | true => exact absurd (hwait (hpending.trans hp)) (by rw [hlong.1]; decide)
    rw [Bool.not_eq_false] at hweak
    unfold isWeak at hweak
    rw [Bool.and_eq_true, Bool.and_eq_true, decide_eq_true_eq] at hweak
    exact ⟨.weak hlong.1 hweak.1.2 rfl rfl rfl rfl (hpending.trans hnone) hnone, hup.symm,
      rfl, rfl⟩
  · rw [if_neg hlong]
    exact spareStep_steps hwait rfl rfl rfl hpending.symm hup.symm ⟨rfl, rfl⟩

theorem onlineStep_steps (st : WifiTxState) (inp : WifiTxInput) (nowMs : UInt32) :
    Steps st inp nowMs (onlineStep st inp nowMs) ∧
      (onlineStep st inp nowMs).wasLinkUp = inp.linkUp ∧ Same st (onlineStep st inp nowMs) := by
  unfold onlineStep
  cases hlink : inp.linkUp with
  | true =>
      rw [if_pos rfl, ← hlink]
      exact linkUpStep_steps nowMs hlink
  | false =>
      rw [if_neg Bool.false_ne_true, ← hlink]
      exact linkDownStep_steps nowMs hlink

/-- An entry, or a timeout that climbs. -/
theorem joinStep_does (st : WifiTxState) (entered : Bool) (nowMs : UInt32) :
    (((joinStep st entered nowMs).index = st.index + 1 ∧ st.index < WIFI_TX_JOIN_CEILING_INDEX) ∨
      (joinStep st entered nowMs).index = st.index) ∧
    (joinStep st entered nowMs).dropFloor = st.dropFloor ∧
    (joinStep st entered nowMs).phase = st.phase ∧
    ((joinStep st entered nowMs).index = st.index ∨
      (joinStep st entered nowMs).lastReason = .joinTimeout) := by
  unfold joinStep
  cases entered with
  | true => exact ⟨Or.inr rfl, rfl, rfl, Or.inl rfl⟩
  | false =>
      rw [if_neg Bool.false_ne_true]
      split
      · next h => exact ⟨Or.inl ⟨rfl, h.1⟩, rfl, rfl, Or.inr rfl⟩
      · exact ⟨Or.inr rfl, rfl, rfl, Or.inl rfl⟩

/-! ## §3. Runs. -/

/-- The policy's state, and what has been seen of it. -/
structure Ladder where
  st : WifiTxState := {}
  now : Nat := 0
  wasOnline : Bool := false
  /-- When the board last came online, or took an up-step there. -/
  gateAt : Nat := 0
  lastUp : Option Nat := none
  /-- The highest level a drop earned. -/
  earned : Nat := 0
  /-- The link at the last look of this stay online. -/
  lastLink : Option Bool := none
  /-- The link has dropped in this stay, and no level was earned for it yet. -/
  dropped : Bool := false

def Ladder.entered (l : Ladder) (inp : WifiTxInput) : Bool := hasEntered l.st inp

/-- The link is down that was up at the last look. -/
def Ladder.drops (l : Ladder) (inp : WifiTxInput) : Bool :=
  !l.entered inp && l.lastLink = some true && !inp.linkUp

def Ladder.stepped (l : Ladder) (inp : WifiTxInput) : WifiTxState :=
  wifiTxPolicyStep l.st inp (reading l.now)

/-- An up-step: the portal's level is none. -/
def Ladder.climbs (l : Ladder) (inp : WifiTxInput) : Bool :=
  inp.phase ≠ .portal && l.st.index < (l.stepped inp).index

def Ladder.climbsForDrop (l : Ladder) (inp : WifiTxInput) : Bool :=
  l.climbs inp && (l.stepped inp).lastReason = .linkDrop

def Ladder.look (l : Ladder) (inp : WifiTxInput) : Ladder where
  st := l.stepped inp
  now := l.now
  wasOnline := l.wasOnline || inp.phase = .online
  gateAt := if inp.phase = .online ∧ (l.entered inp = true ∨ l.climbs inp = true) then l.now
    else l.gateAt
  lastUp := if l.climbs inp then some l.now else l.lastUp
  earned := if l.climbsForDrop inp then max l.earned (l.stepped inp).index else l.earned
  lastLink := if inp.phase = .online then some inp.linkUp else none
  dropped :=
    if inp.phase ≠ .online ∨ l.entered inp = true ∨ l.climbsForDrop inp = true then false
    else l.dropped || l.drops inp

inductive Act where
  | wait (ms : Nat)
  | look (inp : WifiTxInput)

/-- The portal comes before the board was online, or not at all. -/
def Ladder.step (l : Ladder) : Act → Option Ladder
  | .wait ms => some { l with now := l.now + ms }
  | .look inp => if inp.phase = .portal ∧ l.wasOnline = true then none else some (l.look inp)

/-! ## §4. What holds of every step. -/

/-- One level at a time; past the join ceiling only for a link that dropped; online with the
units idle and the dwell time over; and never below what a drop earned. -/
structure OnEvidence (l : Ladder) (inp : WifiTxInput) (l' : Ladder) : Prop where
  oneLevel : ¬(inp.phase = .portal ∧ l.entered inp = true) →
    l'.st.index ≤ l.st.index + 1 ∧ l.st.index ≤ l'.st.index + 1
  forDrop : l.st.index < l'.st.index → WIFI_TX_JOIN_CEILING_INDEX < l'.st.index →
    inp.phase = .online ∧ (l.dropped = true ∨ l.drops inp = true)
  dwelt : inp.phase = .online → l.st.index < l'.st.index →
    inp.unitsIdle = true ∧ ∀ t, l.lastUp = some t → t + WIFI_TX_UP_DWELL_MS.toNat ≤ l.now
  floor : l'.earned ≤ l'.st.index

def Evident (l : Ladder) : Act → Prop
  | .wait _ => True
  | .look inp => ∀ l', l.step (.look inp) = some l' → OnEvidence l inp l'

/-- A drop is pending, the units are idle, and there is a level to take. -/
def Owed (l : Ladder) (inp : WifiTxInput) : Prop :=
  inp.phase = .online ∧ l.entered inp = false ∧ pending l.st inp = true ∧ inp.unitsIdle = true ∧
    l.st.index < WIFI_TX_ONLINE_CEILING_INDEX

/-- A step that is owed is withheld only while the settle or dwell time has not passed. -/
def Unstuck (l : Ladder) : Act → Prop
  | .wait _ => True
  | .look inp => Owed l inp → (l.stepped inp).index = l.st.index →
      l.now < l.gateAt + WIFI_TX_UP_DWELL_MS.toNat

/-- A step that is owed once that time has passed is looked at in an even half round of the
clock from there on. -/
def InEvenHalf (l : Ladder) : Act → Prop
  | .wait _ => True
  | .look inp => Owed l inp → l.gateAt + WIFI_TX_UP_DWELL_MS.toNat ≤ l.now →
      (l.now - (l.gateAt + WIFI_TX_UP_DWELL_MS.toNat)) % 2 ^ 32 < 2 ^ 31

/-- What every run keeps. -/
structure Ladder.Kept (l : Ladder) : Prop where
  floor : l.st.dropFloor = l.earned
  above : l.earned ≤ l.st.index
  unearned : l.wasOnline = false → l.earned = 0
  gate : l.gateAt ≤ l.now
  lastUp : ∀ t, l.lastUp = some t → t ≤ l.now
  inPortal : l.st.started = true → l.st.phase = .portal → l.st.index = WIFI_TX_PORTAL_INDEX
  isOnline : l.st.started = true → l.st.phase = .online →
    l.wasOnline = true ∧ l.st.upAllowedAtMs = reading l.gateAt + WIFI_TX_UP_DWELL_MS ∧
      (∀ t, l.lastUp = some t → t ≤ l.gateAt) ∧ (l.st.dropPending = true → l.dropped = true) ∧
      (l.st.wasLinkUp = true → l.lastLink = some true)

theorem Ladder.Kept.start : Ladder.Kept {} where
  floor := rfl
  above := Nat.le_refl _
  unearned _ := rfl
  gate := Nat.le_refl _
  lastUp _ ht := absurd ht (by simp)
  inPortal hstarted := absurd hstarted Bool.false_ne_true
  isOnline hstarted := absurd hstarted Bool.false_ne_true

variable {l : Ladder} {inp : WifiTxInput}

theorem Ladder.entered_false (h : l.entered inp = false) :
    l.st.started = true ∧ l.st.phase = inp.phase := by
  unfold Ladder.entered hasEntered at h
  rw [Bool.or_eq_false_iff, Bool.not_eq_false', bne_eq_false_iff_eq] at h
  exact h

/-! ### Online. -/

/-- The state a step online starts from, and the time its gate is counted from. -/
structure Ladder.Opens (l : Ladder) (inp : WifiTxInput) (st₀ : WifiTxState) (g : Nat) : Prop where
  isStep : l.stepped inp = onlineStep st₀ inp (reading l.now)
  index : st₀.index = l.st.index
  floor : st₀.dropFloor = l.st.dropFloor
  stamp : st₀.upAllowedAtMs = reading g + WIFI_TX_UP_DWELL_MS
  notAhead : g ≤ l.now
  lastUp : ∀ t, l.lastUp = some t → t ≤ g
  fresh : l.entered inp = true → g = l.now ∧ pending st₀ inp = false
  old : l.entered inp = false → g = l.gateAt ∧ pending st₀ inp = pending l.st inp
  started : st₀.started = true
  phase : st₀.phase = .online

theorem Ladder.Kept.opens (h : l.Kept) (hphase : inp.phase = .online) :
    ∃ st₀ g, l.Opens inp st₀ g := by
  have hstep : l.stepped inp = onlineStep
      (if l.entered inp then onlineEntry { l.st with started := true, phase := inp.phase } inp
          (reading l.now)
        else { l.st with started := true, phase := inp.phase }) inp (reading l.now) := by
    unfold Ladder.stepped wifiTxPolicyStep
    rw [hphase]
    dsimp only
    unfold Ladder.entered hasEntered
    rw [hphase]
  cases hentered : l.entered inp with
  | true =>
      rw [hentered, if_pos rfl] at hstep
      refine ⟨_, l.now, hstep, rfl, rfl, rfl, Nat.le_refl _, h.lastUp, fun _ => ⟨rfl, ?_⟩,
        fun hold => absurd (hentered.symm.trans hold) (by decide), rfl, hphase⟩
      -- a drop that was pending is forgotten, and none is noticed at once
      show (false || (!inp.linkUp && inp.linkUp && _)) = false
      cases inp.linkUp <;> rfl
  | false =>
      rw [hentered, if_neg Bool.false_ne_true] at hstep
      obtain ⟨hstarted, hsame⟩ := Ladder.entered_false hentered
      have hon := h.isOnline hstarted (hsame.trans hphase)
      exact ⟨_, l.gateAt, hstep, rfl, rfl, hon.2.1, h.gate, hon.2.2.1,
        fun hnew => absurd (hentered.symm.trans hnew) (by decide), fun _ => ⟨rfl, rfl⟩, rfl,
        hphase⟩

/-- An up-step that may be taken is past the gate, with the units idle and a level left. -/
theorem Ladder.Opens.can {st₀ : WifiTxState} {g : Nat} (h : l.Opens inp st₀ g)
    (hcan : canStepUp st₀ inp (reading l.now) = true) :
    l.st.index < WIFI_TX_ONLINE_CEILING_INDEX ∧ inp.unitsIdle = true ∧
      g + WIFI_TX_UP_DWELL_MS.toNat ≤ l.now := by
  unfold canStepUp atCeiling at hcan
  rw [Bool.and_eq_true, Bool.and_eq_true, Bool.not_eq_true', decide_eq_false_iff_not, h.index,
    h.stamp] at hcan
  exact ⟨Nat.lt_of_not_le hcan.1.1, hcan.1.2, reached_passed h.notAhead (by decide) hcan.2⟩

/-- A step that climbs was not an entry. -/
theorem Ladder.Opens.climbed {st₀ : WifiTxState} {g : Nat} (h : l.Opens inp st₀ g)
    (hcan : canStepUp st₀ inp (reading l.now) = true) : l.entered inp = false := by
  by_contra hentered
  have hnow := (h.fresh ((Bool.not_eq_false _).mp hentered)).1
  have hpassed := (h.can hcan).2.2
  rw [hnow] at hpassed
  exact absurd hpassed (Nat.not_le.mpr (Nat.lt_add_of_pos_right (by decide)))

/-- A pending drop is a link that dropped in this stay. -/
theorem Ladder.Kept.pending_dropped (h : l.Kept) (hphase : inp.phase = .online)
    (hentered : l.entered inp = false) (hpending : pending l.st inp = true) :
    l.dropped = true ∨ l.drops inp = true := by
  obtain ⟨hstarted, hsame⟩ := Ladder.entered_false hentered
  have hon := h.isOnline hstarted (hsame.trans hphase)
  unfold pending at hpending
  rw [Bool.or_eq_true, Bool.and_eq_true, Bool.and_eq_true, Bool.not_eq_true'] at hpending
  rcases hpending with hwas | ⟨⟨hdown, hup⟩, -⟩
  · exact Or.inl (hon.2.2.2.1 hwas)
  · refine Or.inr ?_
    unfold Ladder.drops
    rw [hentered, hon.2.2.2.2 hup, hdown]
    rfl

theorem Ladder.Kept.evident_online (h : l.Kept) (hphase : inp.phase = .online) :
    OnEvidence l inp (l.look inp) := by
  obtain ⟨st₀, g, hopens⟩ := h.opens hphase
  have hfloor := h.floor
  have habove := h.above
  have hi := hopens.index
  have hf := hopens.floor
  have hsteps := (onlineStep_steps st₀ inp (reading l.now)).1
  rw [← hopens.isStep] at hsteps
  have hlook : (l.look inp).st = l.stepped inp := rfl
  have hnotPortal : inp.phase ≠ .portal := by
    rw [hphase]
    decide
  cases hsteps with
  | drop hpending hcan hindex hfloor' hstamp hreason hleft =>
      have hentered := hopens.climbed hcan
      have hcan' := hopens.can hcan
      refine ⟨fun _ => ?_, fun _ _ => ⟨hphase, ?_⟩, fun _ _ => ⟨hcan'.2.1, ?_⟩, ?_⟩
      · rw [hlook, hindex, hi]
        omega
      · rw [(hopens.old hentered).2] at hpending
        exact h.pending_dropped hphase hentered hpending
      · intro t ht
        have hle := hopens.lastUp t ht
        omega
      · show (if l.climbsForDrop inp then max l.earned (l.stepped inp).index else l.earned) ≤ _
        rw [hlook]
        split <;> omega
  | weak hcan hlow hindex hfloor' hstamp hreason hnone hleft =>
      have hcan' := hopens.can hcan
      refine ⟨fun _ => ?_, fun _ hpast => ?_, fun _ _ => ⟨hcan'.2.1, ?_⟩, ?_⟩
      · rw [hlook, hindex, hi]
        omega
      · rw [hlook, hindex] at hpast
        omega
      · intro t ht
        have hle := hopens.lastUp t ht
        omega
      · show (if l.climbsForDrop inp then max l.earned (l.stepped inp).index else l.earned) ≤ _
        rw [hlook]
        split <;> omega
  | spare habove' hindex hfloor' hstamp hnone hleft =>
      have hlow : (l.stepped inp).index < l.st.index := by omega
      refine ⟨fun _ => ?_, fun hup _ => ?_, fun _ hup => ?_, ?_⟩
      · rw [hlook, hindex, hi]
        omega
      · exact absurd hup (Nat.lt_asymm hlow)
      · exact absurd hup (Nat.lt_asymm hlow)
      · show (if l.climbsForDrop inp then max l.earned (l.stepped inp).index else l.earned) ≤ _
        rw [hlook]
        split <;> omega
  | stay hwait hindex hfloor' hstamp hleft =>
      have hsame : (l.stepped inp).index = l.st.index := hindex.trans hi
      refine ⟨fun _ => ?_, fun hup _ => ?_, fun _ hup => ?_, ?_⟩
      · rw [hlook, hsame]
        omega
      · exact absurd hup (by rw [hlook, hsame]; exact Nat.lt_irrefl _)
      · exact absurd hup (by rw [hlook, hsame]; exact Nat.lt_irrefl _)
      · show (if l.climbsForDrop inp then max l.earned (l.stepped inp).index else l.earned) ≤ _
        rw [hlook]
        split <;> omega

theorem Ladder.climbs_online (hphase : inp.phase = .online) :
    l.climbs inp = decide (l.st.index < (l.stepped inp).index) := by
  unfold Ladder.climbs
  rw [hphase]
  rfl

/-- The gate is counted from the entry or the up-step, or from where it was. -/
theorem Ladder.Opens.gate {st₀ : WifiTxState} {g : Nat} (h : l.Opens inp st₀ g)
    (hphase : inp.phase = .online) (hlevel : l.climbs inp = false) : (l.look inp).gateAt = g := by
  show (if inp.phase = .online ∧ (l.entered inp = true ∨ l.climbs inp = true) then l.now
    else l.gateAt) = g
  rw [hlevel]
  cases hentered : l.entered inp with
  | true =>
      rw [if_pos ⟨hphase, Or.inl rfl⟩]
      exact (h.fresh hentered).1.symm
  | false =>
      rw [if_neg (by simp)]
      exact (h.old hentered).1.symm

theorem Ladder.Kept.look_online (h : l.Kept) (hphase : inp.phase = .online) :
    (l.look inp).Kept := by
  obtain ⟨st₀, g, hopens⟩ := h.opens hphase
  have hfloor := h.floor
  have habove := h.above
  have hi := hopens.index
  have hf := hopens.floor
  obtain ⟨hsteps, hlink, hstarted, hsame⟩ := onlineStep_steps st₀ inp (reading l.now)
  rw [← hopens.isStep] at hsteps hlink hstarted hsame
  have hclimbs := Ladder.climbs_online (l := l) hphase
  have hon : (l.look inp).st.phase = .online := hsame.trans hopens.phase
  have hlast : (l.look inp).st.wasLinkUp = true → (l.look inp).lastLink = some true := by
    intro hup
    show (if inp.phase = .online then some inp.linkUp else none) = some true
    rw [if_pos hphase, ← hlink]
    exact congrArg some hup
  have hwas : (l.look inp).wasOnline = true := by
    show (l.wasOnline || decide (inp.phase = .online)) = true
    rw [hphase]
    exact Bool.or_true _
  have hevident := (h.evident_online hphase).floor
  -- the step decides the level, its floor and the stamp; the rest is the same for all
  have hrest (hlevel : (l.look inp).st.dropFloor = (l.look inp).earned)
      (hstamp : (l.look inp).st.upAllowedAtMs =
        reading (l.look inp).gateAt + WIFI_TX_UP_DWELL_MS)
      (hgate : (l.look inp).gateAt ≤ l.now)
      (hlastUp : ∀ t, (l.look inp).lastUp = some t → t ≤ (l.look inp).gateAt)
      (hdrop : (l.look inp).st.dropPending = true → (l.look inp).dropped = true) :
      (l.look inp).Kept :=
    ⟨hlevel, hevident, fun hno => absurd (hwas.symm.trans hno) (by decide), hgate,
      fun t ht => Nat.le_trans (hlastUp t ht) hgate,
      fun _ hportal => absurd (hon.symm.trans hportal) (by decide),
      fun _ _ => ⟨hwas, hstamp, hlastUp, hdrop, hlast⟩⟩
  have hearned : (l.look inp).earned =
    if l.climbsForDrop inp then max l.earned (l.stepped inp).index else l.earned := rfl
  have hup : (l.look inp).lastUp = if l.climbs inp then some l.now else l.lastUp := rfl
  have hopened : (l.look inp).gateAt =
    if inp.phase = .online ∧ (l.entered inp = true ∨ l.climbs inp = true) then l.now
      else l.gateAt := rfl
  cases hsteps with
  | drop hpending hcan hindex hfloor' hstamp hreason hleft =>
      have hclimbed : l.climbs inp = true := by
        rw [hclimbs, decide_eq_true_eq]
        omega
      have hfor : l.climbsForDrop inp = true := by
        unfold Ladder.climbsForDrop
        rw [hclimbed, hreason]
        rfl
      rw [hclimbed, if_pos ⟨hphase, Or.inr rfl⟩] at hopened
      rw [hclimbed, if_pos rfl] at hup
      rw [hfor, if_pos rfl] at hearned
      refine hrest ?_ ?_ ?_ ?_ ?_
      · rw [hearned]
        show (l.stepped inp).dropFloor = _
        omega
      · rw [hopened]
        exact hstamp
      · exact Nat.le_of_eq hopened
      · intro t ht
        rw [hup, Option.some.injEq] at ht
        exact Nat.le_of_eq (ht.symm.trans hopened.symm)
      · intro hstill
        exact absurd (hleft.symm.trans hstill) Bool.false_ne_true
  | weak hcan hlow hindex hfloor' hstamp hreason hnone hleft =>
      have hclimbed : l.climbs inp = true := by
        rw [hclimbs, decide_eq_true_eq]
        omega
      have hfor : l.climbsForDrop inp = false := by
        unfold Ladder.climbsForDrop
        rw [hreason]
        exact Bool.and_false _
      rw [hclimbed, if_pos ⟨hphase, Or.inr rfl⟩] at hopened
      rw [hclimbed, if_pos rfl] at hup
      rw [hfor, if_neg Bool.false_ne_true] at hearned
      refine hrest ?_ ?_ ?_ ?_ ?_
      · rw [hearned]
        exact hfloor'.trans (hf.trans hfloor)
      · rw [hopened]
        exact hstamp
      · exact Nat.le_of_eq hopened
      · intro t ht
        rw [hup, Option.some.injEq] at ht
        exact Nat.le_of_eq (ht.symm.trans hopened.symm)
      · intro hstill
        exact absurd (hleft.symm.trans hstill) Bool.false_ne_true
  | spare habove' hindex hfloor' hstamp hnone hleft =>
      have hlevel : l.climbs inp = false := by
        rw [hclimbs, decide_eq_false_iff_not]
        omega
      have hgate := hopens.gate hphase hlevel
      have hfor : l.climbsForDrop inp = false := by
        unfold Ladder.climbsForDrop
        rw [hlevel]
        rfl
      rw [hlevel, if_neg Bool.false_ne_true] at hup
      rw [hfor, if_neg Bool.false_ne_true] at hearned
      refine hrest ?_ ?_ ?_ ?_ ?_
      · rw [hearned]
        exact hfloor'.trans (hf.trans hfloor)
      · rw [hgate]
        exact hstamp.trans hopens.stamp
      · exact Nat.le_trans (Nat.le_of_eq hgate) hopens.notAhead
      · intro t ht
        rw [hup] at ht
        exact Nat.le_trans (hopens.lastUp t ht) (Nat.le_of_eq hgate.symm)
      · intro hstill
        exact absurd (hleft.symm.trans hstill) Bool.false_ne_true
  | stay hwait hindex hfloor' hstamp hleft =>
      have hlevel : l.climbs inp = false := by
        rw [hclimbs, decide_eq_false_iff_not]
        omega
      have hgate := hopens.gate hphase hlevel
      have hfor : l.climbsForDrop inp = false := by
        unfold Ladder.climbsForDrop
        rw [hlevel]
        rfl
      rw [hlevel, if_neg Bool.false_ne_true] at hup
      have hdropped : (l.look inp).dropped =
        if inp.phase ≠ .online ∨ l.entered inp = true ∨ l.climbsForDrop inp = true then false
          else l.dropped || l.drops inp := rfl
      rw [hfor, if_neg Bool.false_ne_true] at hearned
      refine hrest ?_ ?_ ?_ ?_ ?_
      · rw [hearned]
        exact hfloor'.trans (hf.trans hfloor)
      · rw [hgate]
        exact hstamp.trans hopens.stamp
      · exact Nat.le_trans (Nat.le_of_eq hgate) hopens.notAhead
      · intro t ht
        rw [hup] at ht
        exact Nat.le_trans (hopens.lastUp t ht) (Nat.le_of_eq hgate.symm)
      · intro hstill
        have hp : pending st₀ inp = true := hleft.symm.trans hstill
        cases hentered : l.entered inp with
        | true => exact absurd ((hopens.fresh hentered).2.symm.trans hp) Bool.false_ne_true
        | false =>
            rw [(hopens.old hentered).2] at hp
            rw [hdropped, if_neg (by simp [hphase, hentered, hfor]), Bool.or_eq_true]
            exact h.pending_dropped hphase hentered hp

/-- A step that is owed past the gate is taken exactly when the stamp is reached. -/
theorem Ladder.Kept.unstuck_iff (h : l.Kept) :
    InEvenHalf l (.look inp) ↔ Unstuck l (.look inp) := by
  have htaken (howed : Owed l inp) (hpassed : l.gateAt + WIFI_TX_UP_DWELL_MS.toNat ≤ l.now) :
      (l.now - (l.gateAt + WIFI_TX_UP_DWELL_MS.toNat)) % 2 ^ 32 < 2 ^ 31 ↔
        (l.stepped inp).index ≠ l.st.index := by
    obtain ⟨hphase, hentered, hpending, hidle, hlow⟩ := howed
    obtain ⟨st₀, g, hopens⟩ := h.opens hphase
    obtain ⟨hg, hsame⟩ := hopens.old hentered
    have hi := hopens.index
    have hceiling : atCeiling st₀ = false := by
      unfold atCeiling
      rw [hi, decide_eq_false_iff_not]
      exact Nat.not_le.mpr hlow
    have hcan : canStepUp st₀ inp (reading l.now) =
        reached (reading l.now) (reading l.gateAt + WIFI_TX_UP_DWELL_MS) := by
      unfold canStepUp
      rw [hceiling, hidle, hopens.stamp, hg]
      rfl
    rw [← reached_iff_of_passed hpassed, ← hcan]
    have hsteps := (onlineStep_steps st₀ inp (reading l.now)).1
    rw [← hopens.isStep] at hsteps
    cases hsteps with
    | drop hp hup hindex hfloor' hstamp hreason hleft =>
        exact iff_of_true hup (by rw [hindex, hi]; exact Nat.succ_ne_self _)
    | weak hup hlow' hindex hfloor' hstamp hreason hnone hleft =>
        exact absurd ((hsame.trans hpending).symm.trans hnone) (by decide)
    | spare habove hindex hfloor' hstamp hnone hleft =>
        exact absurd ((hsame.trans hpending).symm.trans hnone) (by decide)
    | stay hwait hindex hfloor' hstamp hleft =>
        rw [hwait (hsame.trans hpending)]
        exact iff_of_false Bool.false_ne_true (fun hne => hne (hindex.trans hi))
  constructor
  · intro heven howed hstays
    by_contra hpassed
    exact (htaken howed (Nat.not_lt.mp hpassed)).mp (heven howed (Nat.not_lt.mp hpassed)) hstays
  · intro hunstuck howed hpassed
    rw [htaken howed hpassed]
    intro hstays
    exact absurd (hunstuck howed hstays) (Nat.not_lt.mpr hpassed)

/-! ### Joining, and the portal. -/

theorem Ladder.stepped_joining (hphase : inp.phase = .joining) :
    l.stepped inp = joinStep { l.st with started := true, phase := .joining } (l.entered inp)
      (reading l.now) := by
  unfold Ladder.stepped wifiTxPolicyStep Ladder.entered
  rw [hphase]

theorem Ladder.stepped_portal (hphase : inp.phase = .portal) :
    (l.stepped inp).index = WIFI_TX_PORTAL_INDEX ∧ (l.stepped inp).dropFloor = l.st.dropFloor ∧
      (l.stepped inp).phase = .portal := by
  unfold Ladder.stepped wifiTxPolicyStep
  rw [hphase]
  exact ⟨rfl, rfl, rfl⟩

/-- Away from online nothing is earned, and the gate is left. -/
theorem Ladder.look_offline (hphase : inp.phase ≠ .online)
    (hreason : l.climbs inp = true → (l.stepped inp).lastReason ≠ .linkDrop) :
    (l.look inp).earned = l.earned ∧ (l.look inp).gateAt = l.gateAt ∧
      (l.look inp).wasOnline = l.wasOnline := by
  have hfor : l.climbsForDrop inp = false := by
    unfold Ladder.climbsForDrop
    rw [Bool.and_eq_false_imp]
    intro hclimbs
    rw [decide_eq_false_iff_not]
    exact hreason hclimbs
  refine ⟨?_, if_neg fun h => hphase h.1, ?_⟩
  · show (if l.climbsForDrop inp then _ else _) = _
    rw [hfor, if_neg Bool.false_ne_true]
  · show (l.wasOnline || decide (inp.phase = .online)) = l.wasOnline
    rw [decide_eq_false hphase, Bool.or_false]

theorem Ladder.Kept.lastUp_look (h : l.Kept) (inp : WifiTxInput) :
    ∀ t, (l.look inp).lastUp = some t → t ≤ l.now := by
  intro t ht
  have hup : (if l.climbs inp then some l.now else l.lastUp) = some t := ht
  split at hup
  · exact Nat.le_of_eq (Option.some.inj hup).symm
  · exact h.lastUp t hup

theorem Ladder.Kept.look_joining (h : l.Kept) (hphase : inp.phase = .joining) :
    (l.look inp).Kept ∧ OnEvidence l inp (l.look inp) := by
  have hnot : inp.phase ≠ .online := by
    rw [hphase]
    decide
  have hstep := Ladder.stepped_joining (l := l) hphase
  obtain ⟨hlevel, hfloor', hphase', hreason⟩ :=
    joinStep_does { l.st with started := true, phase := .joining } (l.entered inp) (reading l.now)
  rw [← hstep] at hlevel hfloor' hphase' hreason
  obtain ⟨hearned, hgate, hwas⟩ := Ladder.look_offline (l := l) hnot fun hclimbs => by
    rcases hreason with hsame | htimeout
    · unfold Ladder.climbs at hclimbs
      rw [Bool.and_eq_true, decide_eq_true_eq, decide_eq_true_eq, hsame] at hclimbs
      exact absurd hclimbs.2 (Nat.lt_irrefl _)
    · rw [htimeout]
      decide
  have hone : (l.stepped inp).index = l.st.index + 1 ∧ l.st.index < WIFI_TX_JOIN_CEILING_INDEX ∨
      (l.stepped inp).index = l.st.index := hlevel
  have hlook : (l.look inp).st = l.stepped inp := rfl
  have hjoining : (l.look inp).st.phase = .joining := hphase'
  have habove : (l.look inp).earned ≤ (l.look inp).st.index := by
    have hwasAbove := h.above
    rw [hearned, hlook]
    omega
  refine ⟨⟨?_, habove, ?_, ?_, h.lastUp_look inp, fun _ hportal => ?_, fun _ hon => ?_⟩,
    ⟨fun _ => ?_, fun hup hpast => ?_, fun hon => absurd hon hnot, habove⟩⟩
  · rw [hearned]
    exact hfloor'.trans h.floor
  · rw [hwas, hearned]
    exact h.unearned
  · rw [hgate]
    exact h.gate
  · exact absurd (hjoining.symm.trans hportal) (by decide)
  · exact absurd (hjoining.symm.trans hon) (by decide)
  · rw [hlook]
    omega
  · rw [hlook] at hup hpast
    omega

theorem Ladder.Kept.look_portal (h : l.Kept) (hphase : inp.phase = .portal)
    (hbefore : l.wasOnline = false) : (l.look inp).Kept ∧ OnEvidence l inp (l.look inp) := by
  have hnot : inp.phase ≠ .online := by
    rw [hphase]
    decide
  obtain ⟨hindex, hfloor', hphase'⟩ := Ladder.stepped_portal (l := l) hphase
  obtain ⟨hearned, hgate, hwas⟩ := Ladder.look_offline (l := l) hnot fun hclimbs => by
    unfold Ladder.climbs at hclimbs
    rw [Bool.and_eq_true, decide_eq_true_eq] at hclimbs
    exact absurd hphase hclimbs.1
  have hlook : (l.look inp).st = l.stepped inp := rfl
  have hnone := h.unearned hbefore
  have habove : (l.look inp).earned ≤ (l.look inp).st.index := by
    rw [hearned, hnone]
    exact Nat.zero_le _
  refine ⟨⟨?_, habove, ?_, ?_, h.lastUp_look inp, fun _ _ => hindex, fun _ hon => ?_⟩,
    ⟨fun hstay => ?_, fun hup hpast => ?_, fun hon => absurd hon hnot, habove⟩⟩
  · rw [hearned]
    exact hfloor'.trans h.floor
  · rw [hwas, hearned]
    exact h.unearned
  · rw [hgate]
    exact h.gate
  · exact absurd (hphase'.symm.trans hon) (by decide)
  · -- it was in the portal already, and so at its level
    have hentered : l.entered inp = false := by
      by_contra hentered
      exact hstay ⟨hphase, (Bool.not_eq_false _).mp hentered⟩
    obtain ⟨hstarted, hsame⟩ := Ladder.entered_false hentered
    have hwasThere := h.inPortal hstarted (hsame.trans hphase)
    rw [hlook, hindex, hwasThere]
    exact ⟨Nat.le_succ _, Nat.le_succ _⟩
  · rw [hlook, hindex] at hpast
    exact absurd hpast (Nat.lt_irrefl _)

/-! ## §5. Every run. -/

theorem Ladder.Kept.look (h : l.Kept) {l' : Ladder} (hstep : l.step (.look inp) = some l') :
    l'.Kept ∧ OnEvidence l inp l' := by
  unfold Ladder.step at hstep
  dsimp only at hstep
  split at hstep
  · exact absurd hstep (by simp)
  · next hoffered =>
      cases hstep
      cases hphase : inp.phase with
      | joining => exact h.look_joining hphase
      | online => exact ⟨h.look_online hphase, h.evident_online hphase⟩
      | portal =>
          have hbefore : l.wasOnline = false := by
            cases hwas : l.wasOnline with
            | false => rfl
            | true => exact absurd ⟨hphase, hwas⟩ hoffered
          exact h.look_portal hphase hbefore

theorem Ladder.Kept.step {a : Act} (h : l.Kept) {l' : Ladder} (hstep : l.step a = some l') :
    l'.Kept := by
  cases a with
  | wait ms =>
      cases hstep
      exact ⟨h.floor, h.above, h.unearned, Nat.le_trans h.gate (Nat.le_add_right _ _),
        fun t ht => Nat.le_trans (h.lastUp t ht) (Nat.le_add_right _ _), h.inPortal, h.isOnline⟩
  | look inp => exact (h.look hstep).1

/-- In every run each step is taken on its evidence; and no step that is owed is withheld past
its settle or dwell time exactly when every look at such a step falls in an even half round of
the clock, counted from the end of that time. -/
theorem ladder_on_evidence (as : List Act) :
    AllMeet Evident Ladder.step {} as ∧
      (AllMeet InEvenHalf Ladder.step {} as ↔ AllMeet Unstuck Ladder.step {} as) := by
  have hkeeps (l : Ladder) (a : Act) (l' : Ladder) (h : l.Kept) (hstep : l.step a = some l') :
      l'.Kept := h.step hstep
  constructor
  · refine AllMeet.of_invariant hkeeps (fun l a h => ?_) Ladder.Kept.start as
    cases a with
    | wait ms => exact trivial
    | look inp => exact fun l' hstep => (h.look hstep).2
  · refine (AllMeet.of_invariant hkeeps (fun l a h => ?_) Ladder.Kept.start as).iff_of
    cases a with
    | wait ms => exact Iff.rfl
    | look inp => exact h.unstuck_iff

def healthyLook : WifiTxInput where
  phase := .online
  linkUp := true
  rssiDbm := -60

def droppedLook : WifiTxInput where
  phase := .online

/-- Half a round of the clock after its settle time, a board online does not answer a drop. -/
theorem drop_is_not_answered :
    ¬∀ as, AllMeet Unstuck Ladder.step {} as := by
  intro hclaim
  have hrun := hclaim [.look healthyLook, .wait (60000 + 2 ^ 31), .look droppedLook]
  have hstuck := ((hrun.2 _ rfl).2 _ rfl).1
  have hlate := hstuck ⟨rfl, by decide +kernel, by decide +kernel, rfl, by decide +kernel⟩
    (by decide +kernel)
  exact absurd hlate (by decide +kernel)

end SplitFlap.WifiTx
