/-
  SplitFlap.Unit.SteadyDrum — a drum that never slips shows what is reported.

  The hall pin is low for `w` steps from each entering edge, and the drum goes
  as far as it is stepped.  Where every seek ends exactly `calOffset` steps past
  an edge, the drum is never more than a step behind the place of the flap that
  `displayedLetter` names (`OnFlap`): whole steps are taken as soon as more
  than one is owed.  The step watch sees the edge on its second sample, one
  step late, and finds the counter within a step of it (`WatchFits`).
-/
import SplitFlap.Unit.Motion

namespace SplitFlap

namespace Motion

open TaskM

/-! ## §1. The drum, and the moves. -/

/-- The pin of a drum whose magnet is over the sensor for `w` steps. -/
def steady (w : Nat) (turned : Int) (_ : Outside) : Bool := turned % 2038 < w

inductive Move where
  | letter (toLetter : Nat)
  | home

def Move.run (low : Int → Outside → Bool) : Move → UnitTask Unit
  | .letter toLetter => rotateToLetter low toLetter
  | .home => do
      let _ ← calibrate low true
      pure ()

/-- A unit out of `setup()`, its drum wherever it is. -/
def started (turned : Int) (calOffset : Int16) (featureGates : UInt8) : UnitState :=
  { turned, calOffset, featureGates }

/-- The seek left the drum `calOffset` steps past an entering edge, and knows it. -/
def Homing.Exact (h : Homing) : Prop :=
  h.turned % 2038 = h.calOffset.toInt % 2038 ∧
    (h.drumPosition.toNat : Int) = h.calOffset.toInt % 2038

def AllExact (s : UnitState) : Prop := ∀ h ∈ s.homings, h.Exact

/-- The true place, in 45ths of a step past the calibrated zero; a flap is 2038
of them. -/
def truePlace (s : UnitState) : Int := 45 * (s.turned - s.calOffset.toInt)

/-! ## §2. What holds of the drum. -/

/-- The belief is with the drum, and nothing was ever wrong with it. -/
structure Tracked (s : UnitState) : Prop where
  events : s.drift.driftEvents = 0
  idle : s.drift.driftPending = false
  tracks : s.drift.positionKnown = true → Tracks s.turned s.drift

/-- Flap `k` is up: the drum is as many 45ths of a step short of its place as
`missedSteps` says. -/
structure OnFlap (k : Nat) (s : UnitState) : Prop extends Tracked s where
  homed : s.homed = true
  known : s.drift.positionKnown = true
  missed : s.missedSteps ≤ 45
  place : Marks.Past 2038 45 (truePlace s) k (-s.missedSteps)

/-- Between moves: nothing is known yet, or the letter is the flap that is up. -/
structure Settled (s : UnitState) : Prop extends Tracked s where
  letter : s.displayedLetter < 45
  shown : s.homed = true → OnFlap s.displayedLetter s

/-- The drum and all that is believed of it are as they were. -/
structure SameDrum (s s' : UnitState) : Prop where
  displayedLetter : s'.displayedLetter = s.displayedLetter
  missedSteps : s'.missedSteps = s.missedSteps
  calOffset : s'.calOffset = s.calOffset
  drift : s'.drift = s.drift
  homed : s'.homed = s.homed
  turned : s'.turned = s.turned
  homings : s'.homings = s.homings

theorem Heard.sameDrum {s s' : UnitState} (h : Heard s s') : SameDrum s s' :=
  ⟨h.displayedLetter, h.missedSteps, h.calOffset, h.drift, h.homed, h.turned, h.homings⟩

/-- A property of the drum and what is believed of it. -/
def OfDrum (P : UnitState → Prop) : Prop := ∀ s s', SameDrum s s' → P s → P s'

theorem OfDrum.and {P Q : UnitState → Prop} (hP : OfDrum P) (hQ : OfDrum Q) :
    OfDrum fun s => P s ∧ Q s := fun s s' h hs => ⟨hP s s' h hs.1, hQ s s' h hs.2⟩

theorem OfDrum.imp {P Q : UnitState → Prop} (hP : OfDrum P) (hQ : OfDrum Q) :
    OfDrum fun s => P s → Q s := by
  intro s s' h hs hP'
  exact hQ s s' h (hs (hP s' s ⟨h.displayedLetter.symm, h.missedSteps.symm, h.calOffset.symm,
    h.drift.symm, h.homed.symm, h.turned.symm, h.homings.symm⟩ hP'))

theorem Tracked.ofDrum : OfDrum Tracked := fun s s' h hs =>
  { events := by rw [h.drift]; exact hs.events
    idle := by rw [h.drift]; exact hs.idle
    tracks := by rw [h.drift, h.turned]; exact hs.tracks }

theorem OnFlap.ofDrum (k : Nat) : OfDrum (OnFlap k) := fun s s' h hs =>
  { toTracked := Tracked.ofDrum s s' h hs.toTracked
    homed := by rw [h.homed]; exact hs.homed
    known := by rw [h.drift]; exact hs.known
    missed := by rw [h.missedSteps]; exact hs.missed
    place := by
      unfold truePlace
      rw [h.missedSteps, h.turned, h.calOffset]
      exact hs.place }

theorem Settled.ofDrum : OfDrum Settled := fun s s' h hs =>
  { toTracked := Tracked.ofDrum s s' h hs.toTracked
    letter := by rw [h.displayedLetter]; exact hs.letter
    shown := by
      rw [h.homed, h.displayedLetter]
      exact fun hh => OnFlap.ofDrum _ s s' h (hs.shown hh) }

theorem AllExact.ofDrum : OfDrum AllExact := fun s s' h hs => by
  unfold AllExact
  rw [h.homings]
  exact hs

section Quiet

variable {P : UnitState → Prop} (hP : OfDrum P)

include hP

/-- Frames reach nothing that a triple about the drum speaks of. -/
theorem window_sat : Sat P window (fun _ => P) fun _ => True :=
  Sat.mono (window_heard fun s s' h hs => hP s s' h.sameDrum hs) (fun _ hs => hs)
    (fun _ _ hs => hs) fun _ _ => trivial

theorem millis_sat : Sat P millis (fun _ => P) fun _ => True :=
  Sat.bind (window_sat hP) fun _ => Sat.pure _ fun _ hs => hs

theorem modify_sat {f : UnitState → UnitState} (hf : ∀ s, SameDrum s (f s)) :
    Sat P (TaskM.modify f : UnitTask Unit) (fun _ => P) fun _ => True :=
  Sat.modify fun s hs => hP s _ (hf s) hs

theorem startMotor_sat : Sat P startMotor (fun _ => P) fun _ => True :=
  modify_sat hP fun _ => ⟨rfl, rfl, rfl, rfl, rfl, rfl, rfl⟩

theorem stopMotor_sat : Sat P stopMotor (fun _ => P) fun _ => True :=
  Sat.bind (modify_sat hP fun _ => ⟨rfl, rfl, rfl, rfl, rfl, rfl, rfl⟩) fun _ =>
    Sat.bind (window_sat hP) fun _ => Sat.pure () fun _ hs => hs

theorem noteHome_sat (found : Bool) : Sat P (noteHome found) (fun _ => P) fun _ => True :=
  Sat.bind (millis_sat hP) fun _ => modify_sat hP fun _ => ⟨rfl, rfl, rfl, rfl, rfl, rfl, rfl⟩

theorem supplyHolds_sat : Sat P supplyHolds (fun _ => P) fun _ => True := by
  unfold supplyHolds
  refine Sat.bind (R := fun _ => P) (Sat.get fun _ hs => hs) fun s =>
    Sat.ite (fun _ => ?_) fun _ => Sat.pure false fun _ hs => hs
  refine Sat.bind (window_sat hP) fun o => Sat.bind (millis_sat hP) fun now =>
    Sat.bind (R := fun _ => P) (Sat.get fun _ hs => hs) fun s => ?_
  exact Sat.bind (modify_sat hP fun _ => ⟨rfl, rfl, rfl, rfl, rfl, rfl, rfl⟩) fun _ =>
    Sat.pure _ fun _ hs => hs

end Quiet

/-- A sample of the pin tells where the drum is. -/
theorem hallReadsLow_sat {P : UnitState → Prop} (hP : OfDrum P) (w : Nat) :
    Sat P (hallReadsLow (steady w))
      (fun isLow s => P s ∧ isLow = decide (s.turned % 2038 < w)) fun _ => True := by
  unfold hallReadsLow
  refine Sat.bind (window_sat hP) fun o => ?_
  refine Sat.bind (R := fun s s' => P s' ∧ s' = s) (Sat.get fun s hs => ⟨hs, rfl⟩) fun s => ?_
  refine Sat.pure _ fun s' hs => ⟨hs.1, ?_⟩
  rw [hs.2]
  rfl

/-! ## §3. The step watch. -/

/-- What the watch knows of a drum `turned` steps on: it was out of the window
at the last sample, or on its first step, or it has been in it since before. -/
inductive WatchFits (w : Nat) (turned : Int) : Watch → Prop where
  | outside (h : (w : Int) ≤ turned % 2038) : WatchFits w turned ⟨false, 0⟩
  | entering (h : turned % 2038 = 0) : WatchFits w turned ⟨false, 1⟩
  | inside (streak : Nat) (h : turned % 2038 < w) (hs : streak ≤ 2) : WatchFits w turned ⟨true, streak⟩

/-- A sample one step on: an edge is only seen one step past it. -/
theorem WatchFits.sample {w : Nat} (hw : 2 ≤ w) (hw' : w ≤ 127) {turned : Int} {v : Watch}
    (h : WatchFits w turned v) :
    WatchFits w (turned + 1) (v.sample (decide ((turned + 1) % 2038 < w))).1 ∧
      ((v.sample (decide ((turned + 1) % 2038 < w))).2 = true → (turned + 1) % 2038 = 1) := by
  unfold Watch.sample
  cases h with
  | outside h =>
      by_cases hlow : (turned + 1) % 2038 < (w : Int)
      · -- only the entering edge itself comes after a high sample
        rw [if_pos (decide_eq_true hlow)]
        exact ⟨.entering (by omega), fun hedge => by simp at hedge⟩
      · rw [if_neg (by simpa using hlow)]
        exact ⟨.outside (by omega), fun hedge => by simp at hedge⟩
  | entering h =>
      rw [if_pos (decide_eq_true (by omega))]
      exact ⟨.inside 2 (by omega) (by omega), fun _ => by omega⟩
  | inside streak h hs =>
      by_cases hlow : (turned + 1) % 2038 < (w : Int)
      · rw [if_pos (decide_eq_true hlow), if_neg (by simp)]
        refine ⟨.inside _ hlow ?_, fun hedge => by simp at hedge⟩
        split <;> omega
      · rw [if_neg (by simpa using hlow)]
        exact ⟨.outside (by omega), fun hedge => by simp at hedge⟩

theorem WatchFits.start {w : Nat} (turned : Int) :
    WatchFits w turned ⟨decide (turned % 2038 < w), 0⟩ := by
  by_cases h : turned % 2038 < (w : Int)
  · rw [decide_eq_true h]
    exact .inside 0 h (by omega)
  · rw [decide_eq_false h]
    exact .outside (by omega)

/-! ## §4. Steps. -/

theorem Tracked.turn {s : UnitState} (h : Tracked s) (steps : Int) : Tracked (turn steps s) where
  events := h.events
  idle := h.idle
  tracks := fun hk => (h.tracks hk).advance _

/-- An edge where the drum is at it, or a step past it: no event, and synced. -/
theorem Tracked.observed {s : UnitState} (h : Tracked s)
    (hedge : s.turned % 2038 = 0 ∨ s.turned % 2038 = 1) :
    driftObserveEdge s.drift STEPS DRIFT_THRESHOLD_STEPS = (false, driftMarkSynced s.drift) ∧
      Tracks s.turned (driftMarkSynced s.drift) := by
  cases hk : s.drift.positionKnown with
  | true => exact (h.tracks hk).observeEdge hedge
  | false =>
      refine ⟨by unfold driftObserveEdge; rw [hk]; rfl, ?_⟩
      show (0 : Int) = _ ∨ (0 : Int) = _
      omega

theorem Tracked.edgeWatched {s : UnitState} (h : Tracked s) (hedge : s.turned % 2038 = 1) :
    Tracked (edgeWatched s) ∧ (edgeWatched s).drift.positionKnown = true := by
  obtain ⟨hobs, htracks⟩ := h.observed (.inr hedge)
  unfold Motion.edgeWatched
  rw [hobs]
  refine ⟨⟨h.events, ?_, fun _ => htracks⟩, rfl⟩
  show (false || s.drift.driftPending) = false
  rw [h.idle]
  rfl

/-- The drum is between flaps: `left` more steps of the flap it is on the way to. -/
structure Stepping (off : Int16) (k left : Nat) (missed : Nat) (s : UnitState) : Prop
    extends Tracked s where
  homed : s.homed = true
  known : s.drift.positionKnown = true
  missedSteps : s.missedSteps = missed
  calOffset : s.calOffset = off
  place : Marks.Past 2038 45 (truePlace s + 45 * left) k (-missed)

theorem Stepping.ofDrum (off : Int16) (k left missed : Nat) :
    OfDrum (Stepping off k left missed) := fun s s' h hs =>
  { toTracked := Tracked.ofDrum s s' h hs.toTracked
    homed := by rw [h.homed]; exact hs.homed
    known := by rw [h.drift]; exact hs.known
    missedSteps := by rw [h.missedSteps]; exact hs.missedSteps
    calOffset := by rw [h.calOffset]; exact hs.calOffset
    place := by
      unfold truePlace
      rw [h.turned, h.calOffset]
      exact hs.place }

theorem Stepping.turn {off : Int16} {k left missed : Nat} {s : UnitState}
    (h : Stepping off k (left + 1) missed s) : Stepping off k left missed (turn 1 s) where
  toTracked := h.toTracked.turn 1
  homed := h.homed
  known := h.known
  missedSteps := h.missedSteps
  calOffset := h.calOffset
  place := by
    have hplace : truePlace (Motion.turn 1 s) + 45 * left = truePlace s + 45 * (left + 1 : Nat) := by
      show 45 * (s.turned + 1 * 1 - s.calOffset.toInt) + 45 * (left : Int) =
        45 * (s.turned - s.calOffset.toInt) + 45 * ((left + 1 : Nat) : Int)
      omega
    rw [hplace]
    exact h.place

theorem Stepping.edgeWatched {off : Int16} {k left missed : Nat} {s : UnitState}
    (h : Stepping off k left missed s) (hedge : s.turned % 2038 = 1) :
    Stepping off k left missed (edgeWatched s) where
  toTracked := (h.toTracked.edgeWatched hedge).1
  homed := h.homed
  known := (h.toTracked.edgeWatched hedge).2
  missedSteps := h.missedSteps
  calOffset := h.calOffset
  place := h.place

variable {w : Nat}

/-- One step of a flap, the watch with it. -/
theorem watchedStep_sat (hw : 2 ≤ w) (hw' : w ≤ 127) (off : Int16) (k left missed : Nat)
    (v : Watch) :
    Sat (fun s => Stepping off k (left + 1) missed s ∧ WatchFits w s.turned v)
      (watchedStep (steady w) v)
      (fun v' s => Stepping off k left missed s ∧ WatchFits w s.turned v') fun _ => True := by
  unfold watchedStep stepCounted
  have hfits (back : Int) : OfDrum fun s => WatchFits w (s.turned - back) v :=
    fun s s' h hs => by
      show WatchFits w (s'.turned - back) v
      rw [h.turned]
      exact hs
  refine Sat.bind (R := fun _ s => Stepping off k left missed s ∧ WatchFits w (s.turned - 1) v)
    (Sat.bind (R := fun _ s => Stepping off k (left + 1) missed s ∧ WatchFits w (s.turned - 0) v)
      ((window_sat ((Stepping.ofDrum off k (left + 1) missed).and (hfits 0))).pre fun s hs =>
        ⟨hs.1, by rw [Int.sub_zero]; exact hs.2⟩)
      fun _ => Sat.modify fun s hs => ?_) fun _ => ?_
  · refine ⟨hs.1.turn, ?_⟩
    show WatchFits w (s.turned + 1 * 1 - 1) v
    rw [show s.turned + 1 * 1 - 1 = s.turned - 0 by omega]
    exact hs.2
  · refine Sat.bind (hallReadsLow_sat ((Stepping.ofDrum off k left missed).and (hfits 1)) w)
      fun isLow => ?_
    -- the sample is the pin's, one step past where the watch was
    refine Sat.bind (R := fun _ s => Stepping off k left missed s ∧
      WatchFits w s.turned (v.sample isLow).1) ?_ fun _ => Sat.pure _ fun _ hs => hs
    have hsampled (s : UnitState) (hfits : WatchFits w (s.turned - 1) v)
        (hlow : isLow = decide (s.turned % 2038 < w)) :
        WatchFits w s.turned (v.sample isLow).1 ∧
          ((v.sample isLow).2 = true → s.turned % 2038 = 1) := by
      have h := hfits.sample hw hw'
      rw [show s.turned - 1 + 1 = s.turned by omega, ← hlow] at h
      exact h
    unfold watchEdge
    refine Sat.ite (fun hedge => Sat.modify fun s hs => ?_) fun _ => Sat.pure () fun s hs => ?_
    · obtain ⟨hfit, hat⟩ := hsampled s hs.1.2 hs.2
      exact ⟨hs.1.1.edgeWatched (hat hedge), hfit⟩
    · exact ⟨hs.1.1, (hsampled s hs.1.2 hs.2).1⟩

/-- The steps of a flap bring the next one up. -/
theorem roundedStep_place {k missed : Nat} {x : Int} (hmissed : missed ≤ 45)
    (h : Marks.Past 2038 45 x k (-missed)) :
    Marks.Past 2038 45 (x + 45 * (roundedStep missed).1) (k + 1) (-(roundedStep missed).2) ∧
      (roundedStep missed).2 ≤ 45 := by
  obtain ⟨t, ht⟩ := h
  have hwhole : STEPS_PER_FLAP_WHOLE = 45 := rfl
  have hfrac : STEPS_PER_FLAP_FRAC = 13 := rfl
  unfold roundedStep
  split
  · exact ⟨⟨t, by push_cast at ht ⊢; omega⟩, by dsimp only; omega⟩
  · exact ⟨⟨t, by push_cast at ht ⊢; omega⟩, by dsimp only; omega⟩

theorem stepFlap_sat (hw : 2 ≤ w) (hw' : w ≤ 127) (k : Nat) (v : Watch) :
    Sat (fun s => OnFlap k s ∧ WatchFits w s.turned v) (stepFlap (steady w) v)
      (fun v' s => OnFlap (k + 1) s ∧ WatchFits w s.turned v') fun _ => True := by
  refine Sat.each_state fun s0 hs0 => ?_
  obtain ⟨hplace, hmissed⟩ := roundedStep_place hs0.1.missed hs0.1.place
  unfold stepFlap
  refine Sat.bind (R := fun s s' => s' = s ∧ s = s0) (Sat.get fun s hs => ⟨rfl, hs⟩) fun s => ?_
  refine Sat.bind (R := fun _ s' => s = s0 ∧
    Stepping s0.calOffset (k + 1) (roundedStep s0.missedSteps).1 (roundedStep s0.missedSteps).2 s' ∧
      WatchFits w s'.turned v) (Sat.modify ?_) fun _ => ?_
  · rintro s' ⟨rfl, rfl⟩
    exact ⟨rfl, ⟨⟨hs0.1.events, hs0.1.idle, hs0.1.tracks⟩, hs0.1.homed, hs0.1.known, rfl, rfl,
      hplace⟩, hs0.2⟩
  refine Sat.each_state fun s1 hs1 => ?_
  obtain ⟨rfl, hs1⟩ := hs1
  have hfold := Sat.fold (C := fun _ => True)
    (I := fun left v s' => Stepping s.calOffset (k + 1) left (roundedStep s.missedSteps).2 s' ∧
      WatchFits w s'.turned v)
    (fun left v => watchedStep_sat hw hw' s.calOffset (k + 1) left (roundedStep s.missedSteps).2 v)
    (roundedStep s.missedSteps).1 v
  refine hfold.mono (fun s' hs' => by rw [hs']; exact hs1) (fun v' s' hs' => ⟨?_, hs'.2⟩)
    fun _ _ => trivial
  refine ⟨hs'.1.toTracked, hs'.1.homed, hs'.1.known, ?_, ?_⟩
  · rw [hs'.1.missedSteps]
    exact hmissed
  · have := hs'.1.place
    rw [hs'.1.missedSteps]
    simpa using this

/-- So many flaps on. -/
theorem stepFlaps_sat (hw : 2 ≤ w) (hw' : w ≤ 127) (k flaps : Nat) :
    Sat (OnFlap k) (stepFlaps (steady w) flaps) (fun _ => OnFlap (k + flaps)) fun _ => True := by
  unfold stepFlaps
  refine Sat.bind (hallReadsLow_sat (OnFlap.ofDrum k) w) fun inWindow => ?_
  -- with `left` flaps to go, all the others are done
  have hfold : Sat (fun s => ∃ done, done + flaps = flaps ∧ OnFlap (k + done) s ∧
        WatchFits w s.turned ⟨inWindow, 0⟩)
      (fold (stepFlap (steady w)) flaps ⟨inWindow, 0⟩)
      (fun v s => ∃ done, done + 0 = flaps ∧ OnFlap (k + done) s ∧ WatchFits w s.turned v)
      fun _ => True :=
    Sat.fold (I := fun left v s => ∃ done, done + left = flaps ∧ OnFlap (k + done) s ∧
      WatchFits w s.turned v) (fun left v => ?_) flaps ⟨inWindow, 0⟩
  · refine Sat.bind (hfold.pre fun s hs => ⟨0, by omega, hs.1, ?_⟩) fun v =>
      Sat.pure () fun s hs => ?_
    · rw [hs.2]
      exact WatchFits.start s.turned
    · obtain ⟨done, hdone, hflap, _⟩ := hs
      rw [← hdone]
      exact hflap
  · refine Sat.each_state fun s hs => ?_
    obtain ⟨done, hdone, hflap, hfit⟩ := hs
    refine (stepFlap_sat hw hw' (k + done) v).mono (fun s' hs' => by rw [hs']; exact ⟨hflap, hfit⟩)
      (fun v' s' hs' => ⟨done + 1, by omega, hs'.1, hs'.2⟩) fun _ _ => trivial

/-! ## §5. The seek. -/

/-- Where the drum is at an edge, the belief is with it. -/
def AtMarker (off : Int) (s : UnitState) : Prop :=
  (s.turned - off) % 2038 = 0 → Tracked s ∧ s.drift.positionKnown = true

theorem AtMarker.ofDrum (off : Int) : OfDrum (AtMarker off) := fun s s' h hs => by
  unfold AtMarker
  rw [h.turned, h.drift]
  exact fun ht => ⟨Tracked.ofDrum s s' h (hs ht).1, (hs ht).2⟩

theorem Tracked.markerReached {s : UnitState} (h : Tracked s) : AtMarker 0 (markerReached s) := by
  intro hedge
  have hedge : s.turned % 2038 = 0 := by
    rw [Int.sub_zero] at hedge
    exact hedge
  obtain ⟨hobs, htracks⟩ := h.observed (.inl hedge)
  unfold Motion.markerReached
  rw [hobs]
  exact ⟨⟨h.events, rfl, fun _ => htracks⟩, rfl⟩

/-- What a seek owes where all of them were exact: flap 0 is up. -/
structure Homed (s : UnitState) : Prop where
  letter : s.displayedLetter = 0
  flap : OnFlap 0 s

theorem Homed.ofDrum : OfDrum Homed := fun s s' h hs =>
  ⟨h.displayedLetter.trans hs.letter, OnFlap.ofDrum 0 s s' h hs.flap⟩

theorem Homed.settled {s : UnitState} (h : Homed s) : Settled s where
  toTracked := h.flap.toTracked
  letter := by
    rw [h.letter]
    omega
  shown := fun _ => by
    rw [h.letter]
    exact h.flap

/-- Parked: an exact seek came from the very edge. -/
theorem AtMarker.calibrated {s : UnitState} (h : AtMarker s.calOffset.toInt s) :
    AllExact (Motion.calibrated s) → Homed (Motion.calibrated s) := by
  intro hexact
  obtain ⟨hturned, -⟩ := hexact ⟨s.turned, s.calOffset, s.drift.drumPosition⟩
    (List.mem_cons_self ..)
  have hturned : s.turned % 2038 = s.calOffset.toInt % 2038 := hturned
  have hedge : (s.turned - s.calOffset.toInt) % 2038 = 0 := by omega
  obtain ⟨htracked, hknown⟩ := h hedge
  refine ⟨rfl, ⟨⟨htracked.events, htracked.idle, htracked.tracks⟩, rfl, hknown, ?_, ?_⟩⟩
  · show (0 : Nat) ≤ 45
    omega
  · refine ⟨(s.turned - s.calOffset.toInt) / 2038, ?_⟩
    have hmissed : (Motion.calibrated s).missedSteps = 0 := rfl
    show 45 * (s.turned - s.calOffset.toInt) = _
    rw [hmissed]
    push_cast
    omega

theorem park_sat (initialCalibration : Bool) :
    Sat Tracked (park initialCalibration) (fun _ s => AllExact s → Homed s) fun _ => True := by
  have hdone : OfDrum fun s => AllExact s → Homed s := AllExact.ofDrum.imp Homed.ofDrum
  unfold park stepCounted
  refine Sat.bind (R := fun _ => AtMarker 0) (Sat.modify fun s hs => hs.markerReached) fun _ => ?_
  refine Sat.bind (R := fun s s' => AtMarker 0 s' ∧ s'.calOffset = s.calOffset)
    (Sat.get fun s hs => ⟨hs, rfl⟩) fun s => ?_
  have hoff : OfDrum fun s' => s'.calOffset = s.calOffset := fun _ _ h hs => h.calOffset.trans hs
  refine Sat.bind (R := fun _ s' => AtMarker s'.calOffset.toInt s')
    (Sat.bind (window_sat ((AtMarker.ofDrum 0).and hoff)) fun _ => Sat.modify ?_) fun _ => ?_
  · intro s' hs' hedge
    -- back at the edge, before the offset steps
    have hedge : (s'.turned + 1 * s.calOffset.toInt * 1 - s'.calOffset.toInt) % 2038 = 0 := hedge
    rw [hs'.2] at hedge
    obtain ⟨htracked, hknown⟩ := hs'.1 (by omega)
    exact ⟨htracked.turn _, hknown⟩
  refine Sat.bind (R := fun _ s => AllExact s → Homed s) (Sat.modify fun s hs => hs.calibrated)
    fun _ => Sat.bind (noteHome_sat hdone true) fun _ => ?_
  exact Sat.ite (fun _ => stopMotor_sat hdone) fun _ => Sat.pure () fun _ hs => hs

theorem Tracked.homeFailed {s : UnitState} (h : Tracked s) : Settled (homeFailed s) where
  events := h.events
  idle := rfl
  tracks := fun hknown => by cases hknown
  letter := by
    show (0 : Nat) < 45
    omega
  shown := fun hhomed => by cases hhomed

/-- A seek that found the marker, and one that did not. -/
def Sought (r : Option Nat) (s : UnitState) : Prop :=
  AllExact s → Settled s ∧ (r ≠ none → Homed s)

theorem giveUpOr_sat (i : Nat) :
    Sat Tracked (giveUpOr i) (fun r s => Sum.elim (fun _ => Tracked s) (Sought · s) r)
      fun _ => True := by
  refine Sat.ite (fun _ => ?_) fun _ => Sat.pure _ fun _ hs => hs
  refine Sat.bind (R := fun _ => Settled) (Sat.modify fun s hs => hs.homeFailed) fun _ => ?_
  refine Sat.bind (stopMotor_sat Settled.ofDrum) fun _ =>
    Sat.bind (noteHome_sat Settled.ofDrum false) fun _ => Sat.pure _ fun s hs => ?_
  exact fun _ => ⟨hs, fun h => absurd rfl h⟩

theorem stepCounted_sat (steps : Int) :
    Sat Tracked (stepCounted steps) (fun _ => Tracked) fun _ => True :=
  Sat.bind (window_sat Tracked.ofDrum) fun _ => Sat.modify fun _ hs => hs.turn steps

theorem stepOut_sat (w i : Nat) :
    Sat Tracked (stepOut (steady w) i)
      (fun r s => Sum.elim (fun _ => Tracked s) (fun _ => Tracked s) r) fun _ => True := by
  unfold stepOut
  refine Sat.bind ((hallReadsLow_sat Tracked.ofDrum w).mono (fun _ hs => hs)
    (fun _ _ hs => hs.1) fun _ hs => hs) fun isLow => ?_
  refine Sat.ite (fun _ => Sat.pure _ fun _ hs => hs) fun _ => ?_
  refine Sat.bind (stepCounted_sat _) fun _ => Sat.pure _ fun s hs => ?_
  split
  · exact hs
  · exact hs

theorem seekTurn_sat (w : Nat) (initialCalibration : Bool) (i : Nat) :
    Sat Tracked (seekTurn (steady w) initialCalibration i)
      (fun r s => Sum.elim (fun _ => Tracked s) (Sought · s) r) fun _ => True := by
  unfold seekTurn
  refine Sat.bind ((hallReadsLow_sat Tracked.ofDrum w).mono (fun _ hs => hs)
    (fun _ _ hs => hs.1) fun _ hs => hs) fun isLow => ?_
  refine Sat.ite (fun _ => ?_) fun _ => Sat.ite (fun _ => ?_) fun _ => Sat.ite (fun _ => ?_)
    fun _ => ?_
  · refine Sat.bind (R := fun _ => Tracked) (Sat.iter (I := fun _ => Tracked)
      (fun i => stepOut_sat w i) (fun _ _ _ => trivial) 0) fun i => ?_
    refine Sat.bind (R := fun _ => Tracked) (Sat.ite (fun _ => ?_) fun _ =>
      Sat.pure i fun _ hs => hs) fun i => giveUpOr_sat i
    exact Sat.bind (stepCounted_sat _) fun _ => Sat.pure _ fun _ hs => hs
  · refine Sat.bind (park_sat initialCalibration) fun _ => Sat.pure _ fun s hs => ?_
    exact fun hexact => ⟨(hs hexact).settled, fun _ => hs hexact⟩
  · exact Sat.bind (stepCounted_sat _) fun _ => giveUpOr_sat 50
  · exact Sat.bind (stepCounted_sat _) fun _ => giveUpOr_sat i

/-- What a seek leaves, however it went. -/
theorem calibrate_sat (w : Nat) (initialCalibration : Bool) :
    Sat Tracked (calibrate (steady w) initialCalibration) Sought fun _ => True := by
  unfold calibrate
  refine Sat.bind (R := fun _ => Tracked)
    (modify_sat Tracked.ofDrum fun _ => ⟨rfl, rfl, rfl, rfl, rfl, rfl, rfl⟩) fun _ => ?_
  exact Sat.iter (I := fun _ => Tracked) (fun i => seekTurn_sat w initialCalibration i)
    (fun _ _ _ => trivial) 0

/-! ## §6. The letter moves. -/

/-- Once a seek was not exact, it stays noted. -/
theorem inexact_stable : Stable fun s => ¬AllExact s where
  frame := fun s frame h hexact => h fun x hx => hexact x (by
    rw [(receiveLetter_heard s frame).homings]
    exact hx)
  silent := fun _ _ hsilent h hexact => h fun x hx => hexact x (hsilent.homings.subset hx)

theorem arrive_sat {k : Nat} (hk : k < 45) :
    Sat (OnFlap k) (arrive k) (fun _ => Settled) fun _ => True := by
  unfold arrive
  refine Sat.bind (R := fun _ => Settled) (Sat.modify fun s hs => ?_) fun _ =>
    Sat.bind (window_sat Settled.ofDrum) fun _ => stopMotor_sat Settled.ofDrum
  exact ⟨⟨hs.events, hs.idle, hs.tracks⟩, hk, fun _ => ⟨⟨hs.events, hs.idle, hs.tracks⟩, hs.homed,
    hs.known, hs.missed, hs.place⟩⟩

section Runs

variable (hw : 2 ≤ w) (hw' : w ≤ 127)

include hw hw'

theorem moveOn_sat {k : Nat} (hk : k < 45) :
    Sat (fun s => Settled s ∧ s.homed = true ∧ s.displayedLetter ≤ k) (moveOn (steady w) k)
      (fun _ => Settled) fun _ => True := by
  have hstart : OfDrum fun s => Settled s ∧ s.homed = true ∧ s.displayedLetter ≤ k :=
    Settled.ofDrum.and fun s s' h hs => ⟨h.homed.trans hs.1, by rw [h.displayedLetter]; exact hs.2⟩
  unfold moveOn
  refine Sat.bind (startMotor_sat hstart) fun _ => ?_
  refine Sat.bind (R := fun s s' => OnFlap s.displayedLetter s' ∧ s.displayedLetter ≤ k)
    (Sat.get fun s hs => ⟨hs.1.shown hs.2.1, hs.2.2⟩) fun s => ?_
  refine Sat.fact fun hle => ?_
  refine Sat.bind (stepFlaps_sat hw hw' s.displayedLetter _) fun _ => ?_
  rw [show s.displayedLetter + (k - s.displayedLetter) = k by omega]
  exact arrive_sat hk

theorem moveRound_sat {k : Nat} (hk : k < 45) :
    Sat Tracked (moveRound (steady w) k) (fun _ s => AllExact s → Settled s) fun _ => True := by
  unfold moveRound
  refine Sat.bind (calibrate_sat w false) fun r => ?_
  refine Sat.ite (fun _ => Sat.pure () fun s hs hexact => (hs hexact).1) fun hr => ?_
  have hflap : Sat (OnFlap 0) (do stepFlaps (steady w) k; arrive k) (fun _ => Settled)
      fun _ => True := by
    refine Sat.bind (stepFlaps_sat hw hw' 0 k) fun _ => ?_
    rw [Nat.zero_add]
    exact arrive_sat hk
  have hinexact : Keeps (fun s => ¬AllExact s) (do stepFlaps (steady w) k; arrive k) :=
    Keeps.bind (inexact_stable.stepFlaps k) fun _ => inexact_stable.arrive k
  refine (hflap.when hinexact).mono (fun s hs hexact => ?_) (fun _ _ hs => hs) fun _ _ => trivial
  exact ((hs hexact).2 fun h => hr (by rw [h]; rfl)).flap

theorem rotateToLetter_sat (k : Nat) :
    Sat Settled (rotateToLetter (steady w) k) (fun _ s => AllExact s → Settled s)
      fun _ => True := by
  have hgate : OfDrum Settled := Settled.ofDrum
  have hstay : ∀ s, Settled s → AllExact s → Settled s := fun _ hs _ => hs
  refine Sat.ite (fun _ => Sat.pure () hstay) fun hk => ?_
  have hk : k < 45 := by
    have : AMOUNTFLAPS.toNat = 45 := rfl
    omega
  refine Sat.bind (millis_sat hgate) fun now =>
    Sat.bind (R := fun _ => Settled) (Sat.get fun _ hs => hs) fun s => ?_
  refine Sat.ite (fun _ => Sat.pure () hstay) fun _ => ?_
  unfold moveGated
  refine Sat.bind (millis_sat hgate) fun now =>
    Sat.bind (R := fun _ => Settled) (Sat.get fun _ hs => hs) fun s => ?_
  have hbusy : Sat Settled startMotor (fun _ s => AllExact s → Settled s) fun _ => True :=
    (startMotor_sat hgate).mono (fun _ hs => hs) (fun _ => hstay) fun _ hs => hs
  refine Sat.ite (fun _ => Sat.bind (supplyHolds_sat hgate) fun holds => ?_) fun _ => hbusy
  refine Sat.ite (fun _ => hbusy) fun _ => ?_
  unfold move
  refine Sat.bind (millis_sat hgate) fun now => Sat.bind (R := fun _ => Settled)
    (modify_sat hgate fun _ => ⟨rfl, rfl, rfl, rfl, rfl, rfl, rfl⟩) fun _ => ?_
  refine Sat.bind (R := fun s s' => Settled s' ∧ s' = s) (Sat.get fun s hs => ⟨hs, rfl⟩) fun s => ?_
  refine Sat.ite (fun hon => ?_) fun _ => ?_
  · refine (moveOn_sat hw hw' hk).mono (fun s' hs' => ?_) (fun _ => hstay) fun _ hs => hs
    exact ⟨hs'.1, by rw [hs'.2]; exact hon⟩
  · exact (moveRound_sat hw hw' hk).pre fun s' hs' => hs'.1.toTracked

theorem Move.run_sat (m : Move) :
    Sat (fun s => AllExact s → Settled s) (m.run (steady w)) (fun _ s => AllExact s → Settled s)
      fun _ => True := by
  have hown : Sat Settled (m.run (steady w)) (fun _ s => AllExact s → Settled s)
      fun _ => True := by
    cases m with
    | letter toLetter => exact rotateToLetter_sat hw hw' toLetter
    | home =>
        refine Sat.bind ((calibrate_sat w true).pre fun s hs => hs.toTracked) fun r => ?_
        exact Sat.pure () fun s hs hexact => (hs hexact).1
  have hinexact : Keeps (fun s => ¬AllExact s) (m.run (steady w)) := by
    cases m with
    | letter toLetter => exact inexact_stable.rotateToLetter toLetter
    | home => exact Keeps.bind (inexact_stable.calibrate true) fun _ => Keeps.pure ()
  exact (hown.when hinexact).mono (fun _ hs => hs) (fun _ _ hs hexact => hs hexact hexact)
    fun _ _ => trivial

omit hw hw' in
theorem started_settled (turned : Int) (calOffset : Int16) (featureGates : UInt8) :
    Settled (started turned calOffset featureGates) where
  events := rfl
  idle := rfl
  tracks := fun hknown => by cases hknown
  letter := by
    show (0 : Nat) < 45
    omega
  shown := fun hhomed => by cases hhomed

/-- Letter moves and homes, frames coming in all the while: as long as every
seek is exact, no drift is counted and no re-home armed, and a homed unit's
letter is the flap that is nearest and the one its counter stands for. -/
theorem shown_is_reported (turned : Int) (calOffset : Int16) (featureGates : UInt8)
    (moves : List Move) (as rest : List Outside) (s : UnitState)
    (hrun : each (Move.run (steady w)) moves (started turned calOffset featureGates) as =
      (some ((), rest), s)) (hexact : AllExact s) :
    s.drift.driftEvents = 0 ∧ s.drift.driftPending = false ∧
      (s.homed = true →
        s.displayedLetter < 45 ∧ Marks.Nearest 2038 45 (truePlace s) s.displayedLetter ∧
          (driftPhysicalLetter s.drift s.calOffset STEPS AMOUNTFLAPS).toNat = s.displayedLetter) := by
  have hmoves : Sat (fun s => AllExact s → Settled s) (each (Move.run (steady w)) moves)
      (fun _ s => AllExact s → Settled s) fun _ => True :=
    Sat.each fun m _ => Move.run_sat hw hw' m
  have hsettled := hmoves.run (fun _ => started_settled turned calOffset featureGates) as
  rw [hrun] at hsettled
  have hsettled : Settled s := hsettled hexact
  refine ⟨hsettled.events, hsettled.idle, fun hhomed => ⟨hsettled.letter, ?_⟩⟩
  have hflap := hsettled.shown hhomed
  exact letter_of_past (hflap.tracks hflap.known) hflap.known hsettled.letter hflap.place
    (by have := hflap.missed; omega) (by omega)

end Runs

/-- Two letters on a drum whose zero is before the marker: the first move seeks
and sweeps the marker, the second goes on from there. -/
def sweep : Option (Unit × List Outside) × UnitState :=
  each (Move.run (steady 46)) [.letter 3, .letter 5] (started 1980 (-60) 0)
    (List.replicate 100 { now := 5000 } ++ List.replicate 1000 { now := 10000 })

instance (h : Homing) : Decidable h.Exact := inferInstanceAs (Decidable (_ ∧ _))

instance (s : UnitState) : Decidable (AllExact s) :=
  inferInstanceAs (Decidable (∀ h ∈ s.homings, h.Exact))

theorem sweep_is_reported :
    (sweep.2.homed = true ∧ sweep.2.displayedLetter = 5 ∧ sweep.2.turned = 2204) ∧
      sweep.2.drift.driftEvents = 0 ∧ sweep.2.drift.driftPending = false ∧
        Marks.Nearest 2038 45 (truePlace sweep.2) sweep.2.displayedLetter := by
  have hends : sweep.1.isSome = true ∧ AllExact sweep.2 ∧ sweep.2.homed = true ∧
      sweep.2.displayedLetter = 5 ∧ sweep.2.turned = 2204 := by decide +kernel
  obtain ⟨hsome, hexact, hhomed, hletter, hturned⟩ := hends
  obtain ⟨⟨_, rest⟩, hrest⟩ := Option.isSome_iff_exists.mp hsome
  have hrun := run_ended hrest
  generalize sweep.2 = s at *
  unfold sweep at hrun
  have h := shown_is_reported (by omega) (by omega) 1980 (-60) 0 _ _ rest s hrun hexact
  exact ⟨⟨hhomed, hletter, hturned⟩, h.1, h.2.1, (h.2.2 hhomed).2.1⟩

end Motion

end SplitFlap
