/-
  SplitFlap.Unit.Seek — the seek for the marker, with all it measures.

  `calibrate` (`UnitMotion.ino`) steps the drum until the hall pin reads low and
  parks it `calOffset` steps on.  A start in the magnet's window is stepped out
  of it first, so that the marker is always met at its entering edge; a start
  outside it is moved on by 50 steps unwatched, and from the last 49 steps
  before the edge that move ends past it.  There the first low reading is
  somewhere in the window, or the window is missed for a revolution.
-/
import SplitFlap.Lib.Loop
import SplitFlap.Unit.Drift
import SplitFlap.Unit.Motion

namespace SplitFlap.Seek

open Loop
open Motion (HomeBackoff homeNoteResult SEEK_LIMIT ROTATIONDIRECTION)

/-! ## §1. What a seek reads and writes. -/

structure OdometerState where
  revolutions : UInt32 := 0
  stepAccumulator : UInt16 := 0
  deriving DecidableEq

structure UnitLifetimeHealth where
  stepExcessLifetimeMax : UInt16 := 0
  homeFailedCount : UInt8 := 0
  deriving DecidableEq

/-- `turned` is where the drum really is, in steps past an entering edge, and
`reads` how often the pin was read. -/
structure Drum where
  turned : Int := 0
  reads : Nat := 0
  calOffset : Int16 := 0
  drift : DriftState := {}
  odometer : OdometerState := {}
  odometerRevolutions : UInt32 := 0
  extHallLatchInhibit : Bool := false
  extHallEdgesLastRev : UInt8 := 1
  extHallEdgesThisRev : UInt16 := 0
  extStepExcessLast : UInt16 := 0
  extStepExcessMax : UInt16 := 0
  lifetime : UnitLifetimeHealth := {}
  displayedLetter : Nat := 0
  missedSteps : Nat := 0
  currentlyrotating : Bool := false
  bootHomeAttempted : Bool := false
  homed : Bool := false
  statusLastHomeFailed : Bool := false
  statusHallNeverTriggered : Bool := false
  lastHomingStepCount : UInt16 := 0
  homeBackoff : HomeBackoff := {}

/-! ## §2. A step, and a look at the pin. -/

def odometerAddSteps (s : OdometerState) (steps : Int) (stepsPerRev : UInt16) : OdometerState :=
  let magnitude := UInt32.ofNat steps.natAbs
  let total := s.stepAccumulator.toUInt32 + magnitude
  { revolutions := s.revolutions + total / stepsPerRev.toUInt32
    stepAccumulator := (total % stepsPerRev.toUInt32).toUInt16 }

def stepCounted (steps : Int) (d : Drum) : Drum :=
  let odometer := odometerAddSteps d.odometer steps STEPS
  -- A revolution is full, and the edges of it are latched.
  let latch := odometer.revolutions ≠ d.odometerRevolutions ∧ d.extHallLatchInhibit = false
  { d with
    turned := d.turned + steps * ROTATIONDIRECTION
    odometer
    drift := driftAdvance d.drift (steps * ROTATIONDIRECTION) STEPS
    odometerRevolutions := odometer.revolutions
    extHallEdgesLastRev :=
      if latch then
        (if 0xFF < d.extHallEdgesThisRev then 0xFF else d.extHallEdgesThisRev.toUInt8)
      else d.extHallEdgesLastRev
    extHallEdgesThisRev := if latch then 0 else d.extHallEdgesThisRev }

/-- What the pin reads: the number of the reading, and where the drum is. -/
abbrev Pin : Type := Nat → Int → Bool

variable (pin : Pin)

/-- `digitalRead(HALLPIN) == 0`. -/
def readsLow (d : Drum) : Bool := pin d.reads d.turned

def looked (d : Drum) : Drum := { d with reads := d.reads + 1 }

/-! ## §3. The seek. -/

/-- The locals of a seek. -/
structure Locals where
  extExcessValid : Bool
  extStartPos : UInt16
  hallSawMagnet : Bool := false
  i : Nat := 0
  drum : Drum

/-- Out of the magnet's window, a step at a time, `left` steps before it is given up. -/
def stepOut : Nat → Nat → Drum → Nat × Drum
  | 0, i, d => (i, d)
  | left + 1, i, d =>
      if readsLow pin d then stepOut left (i + 1) (stepCounted (ROTATIONDIRECTION * 1) (looked d))
      else (i, looked d)

/-- Past the edge it was released at. -/
def clearEdge (r : Nat × Drum) : Nat × Drum :=
  if r.1 ≤ SEEK_LIMIT then (r.1 + 50, stepCounted (ROTATIONDIRECTION * 50) r.2) else r

def unitEeRecordStepExcess (h : UnitLifetimeHealth) (excess : UInt16) : UnitLifetimeHealth :=
  if excess ≤ h.stepExcessLifetimeMax then h else { h with stepExcessLifetimeMax := excess }

def unitEeBumpSaturating (counter : UInt8) : UInt8 :=
  if counter < 0xFF then counter + 1 else counter

def stepExcess (extStartPos : UInt16) (i : Nat) : UInt16 :=
  let expected := STEPS - extStartPos
  if expected ≤ UInt16.ofNat i then UInt16.ofNat i - expected else 0

def recordExcess (excess : UInt16) (d : Drum) : Drum :=
  { d with
    extStepExcessLast := excess
    extStepExcessMax := if d.extStepExcessMax < excess then excess else d.extStepExcessMax
    lifetime := unitEeRecordStepExcess d.lifetime excess }

def markerReached (d : Drum) : Drum :=
  let drift := (driftObserveEdge d.drift STEPS DRIFT_THRESHOLD_STEPS).2
  { d with
    drift := { drift with driftPending := false }
    extHallEdgesThisRev :=
      if d.extHallEdgesThisRev < 0xFFFF then d.extHallEdgesThisRev + 1 else d.extHallEdgesThisRev }

/-- The marker is there: on to the calibrated zero. -/
def found (initialCalibration : Bool) (now : UInt32) (s : Locals) : Drum :=
  let d := markerReached s.drum
  let d := if s.extExcessValid then recordExcess (stepExcess s.extStartPos s.i) d else d
  let d := stepCounted (ROTATIONDIRECTION * d.calOffset.toInt) d
  { d with
    displayedLetter := 0
    missedSteps := 0
    statusLastHomeFailed := false
    statusHallNeverTriggered := !s.hallSawMagnet
    lastHomingStepCount := UInt16.ofNat s.i
    homed := true
    homeBackoff := homeNoteResult d.homeBackoff true now
    currentlyrotating := !initialCalibration && d.currentlyrotating }

/-- There is something wrong with the marker or the sensor. -/
def failed (now : UInt32) (s : Locals) : Drum :=
  { s.drum with
    displayedLetter := 0
    drift := { s.drum.drift with positionKnown := false, driftPending := false }
    statusLastHomeFailed := true
    statusHallNeverTriggered := !s.hallSawMagnet
    lastHomingStepCount := UInt16.ofNat s.i
    homed := false
    lifetime :=
      { s.drum.lifetime with
        homeFailedCount := unitEeBumpSaturating s.drum.lifetime.homeFailedCount }
    currentlyrotating := false
    homeBackoff := homeNoteResult s.drum.homeBackoff false now }

/-- How a seek ended: the steps it returned, or none for `-1`. -/
abbrev Ended : Type := Option Nat × Drum

def giveUpOr (now : UInt32) (s : Locals) : Locals ⊕ Ended :=
  if SEEK_LIMIT < s.i then .inr (none, failed now s) else .inl { s with i := s.i + 1 }

def Locals.saw (low : Bool) (s : Locals) : Locals :=
  { s with hallSawMagnet := s.hallSawMagnet || low, drum := looked s.drum }

/-- One turn of the seek. -/
def seekTurn (initialCalibration : Bool) (now : UInt32) (s : Locals) : Locals ⊕ Ended :=
  let low := readsLow pin s.drum
  let s := s.saw low
  if low ∧ s.i = 0 then
    let r := clearEdge (stepOut pin (SEEK_LIMIT + 1) s.i s.drum)
    giveUpOr now { s with i := r.1, drum := r.2 }
  else if low = false ∧ s.i = 0 then
    giveUpOr now { s with i := 50, drum := stepCounted (ROTATIONDIRECTION * 50) s.drum }
  else if low = false then
    giveUpOr now { s with drum := stepCounted (ROTATIONDIRECTION * 1) s.drum }
  else .inr (some s.i, found initialCalibration now s)

def begun (d : Drum) : Locals :=
  { extExcessValid := d.homed && d.drift.positionKnown
    extStartPos := d.drift.drumPosition
    drum := { d with currentlyrotating := true, bootHomeAttempted := true } }

/-- `now` is the clock as the seek ends. -/
def calibrate (initialCalibration : Bool) (now : UInt32) (d : Drum) : Option Ended :=
  loop (seekTurn pin initialCalibration now) (SEEK_LIMIT + 2) (begun d)

/-! ## §4. What the steps of a seek do. -/

/-- The unit knows where its drum is, to the step. -/
def Drum.Exact (d : Drum) : Prop :=
  d.drift.positionKnown = true ∧ (d.drift.drumPosition.toNat : Int) = d.turned % 2038

instance (d : Drum) : Decidable d.Exact := inferInstanceAs (Decidable (_ ∧ _))

/-- The drum went `n` steps on, and nothing was noted of it. -/
structure Moved (n : Nat) (d d' : Drum) : Prop where
  turned : d'.turned = d.turned + n
  exact : d.Exact → d'.Exact
  events : d'.drift.driftEvents = d.drift.driftEvents
  calOffset : d'.calOffset = d.calOffset
  excessLast : d'.extStepExcessLast = d.extStepExcessLast
  excessMax : d'.extStepExcessMax = d.extStepExcessMax
  lifetime : d'.lifetime = d.lifetime

theorem Drum.Exact.stepCounted {d : Drum} (h : d.Exact) (steps : Int) :
    (stepCounted steps d).Exact := by
  refine ⟨h.1, ?_⟩
  show ((driftAdvance d.drift (steps * 1) STEPS).drumPosition.toNat : Int) =
    (d.turned + steps * 1) % 2038
  rw [driftAdvance_position, h.2]
  omega

theorem Moved.refl (d : Drum) : Moved 0 d d where
  turned := by simp
  exact := id
  events := rfl
  calOffset := rfl
  excessLast := rfl
  excessMax := rfl
  lifetime := rfl

theorem Moved.looked {n : Nat} {d d' : Drum} (h : Moved n d d') : Moved n d (looked d') :=
  ⟨h.turned, h.exact, h.events, h.calOffset, h.excessLast, h.excessMax, h.lifetime⟩

theorem Moved.trans {n m : Nat} {d d' d'' : Drum} (h : Moved n d d') (h' : Moved m d' d'') :
    Moved (n + m) d d'' where
  turned := by
    rw [h'.turned, h.turned]
    push_cast
    omega
  exact hd := h'.exact (h.exact hd)
  events := h'.events.trans h.events
  calOffset := h'.calOffset.trans h.calOffset
  excessLast := h'.excessLast.trans h.excessLast
  excessMax := h'.excessMax.trans h.excessMax
  lifetime := h'.lifetime.trans h.lifetime

/-- A look beforehand is no step. -/
theorem Moved.of_looked {n : Nat} {d d' : Drum} (h : Moved n (Seek.looked d) d') : Moved n d d' :=
  ⟨h.turned, h.exact, h.events, h.calOffset, h.excessLast, h.excessMax, h.lifetime⟩

theorem Moved.steps {n : Nat} {d d' : Drum} (h : Moved n d d') (k : Nat) :
    Moved (n + k) d (stepCounted (ROTATIONDIRECTION * k) d') where
  turned := by
    show d'.turned + 1 * (k : Int) * 1 = d.turned + ((n + k : Nat) : Int)
    rw [h.turned]
    push_cast
    omega
  exact hd := (h.exact hd).stepCounted _
  events := h.events
  calOffset := h.calOffset
  excessLast := h.excessLast
  excessMax := h.excessMax
  lifetime := h.lifetime

theorem Moved.step {n : Nat} {d d' : Drum} (h : Moved n d d') :
    Moved (n + 1) d (stepCounted (ROTATIONDIRECTION * 1) d') := h.steps 1

theorem Moved.begun (d : Drum) : Moved 0 d (begun d).drum := by
  have h := Moved.refl d
  exact ⟨h.turned, h.exact, h.events, h.calOffset, h.excessLast, h.excessMax, h.lifetime⟩

/-- A step is taken for every count, whatever the pin reads. -/
theorem stepOut_moved (left : Nat) {i n : Nat} {d₀ d : Drum} (h : Moved n d₀ d) :
    ∃ k ≤ left, (stepOut pin left i d).1 = i + k ∧
      Moved (n + k) d₀ (stepOut pin left i d).2 := by
  induction left generalizing i n d with
  | zero => exact ⟨0, by omega, rfl, h⟩
  | succ left ih =>
      simp only [stepOut]
      by_cases hlow : readsLow pin d = true
      · rw [if_pos hlow]
        obtain ⟨k, hk, hi, hmoved⟩ := ih (i := i + 1) h.looked.step
        refine ⟨k + 1, by omega, by omega, ?_⟩
        rw [show n + (k + 1) = n + 1 + k by omega]
        exact hmoved
      · rw [if_neg hlow]
        exact ⟨0, by omega, rfl, h.looked⟩

theorem clearEdge_moved {r : Nat × Drum} {d₀ : Drum} (h : Moved r.1 d₀ r.2)
    (hr : r.1 ≤ SEEK_LIMIT + 1) :
    (clearEdge r).1 ≤ SEEK_LIMIT + 50 ∧ Moved (clearEdge r).1 d₀ (clearEdge r).2 := by
  unfold clearEdge
  split
  · rename_i hin
    exact ⟨Nat.add_le_add_right hin 50, h.steps 50⟩
  · exact ⟨by omega, h⟩

/-! ## §5. A seek comes back, whatever the pin reads. -/

/-- A turn ends at the marker, or has as many steps behind it as it counts. -/
inductive TurnOf (initialCalibration : Bool) (now : UInt32) (d₀ : Drum) (s : Locals) :
    Locals ⊕ Ended → Prop
  | found (s' : Locals) (hi : s'.i = s.i) (hseek : s.i ≠ 0) (hmoved : Moved (s.i - 1) d₀ s'.drum) :
      TurnOf initialCalibration now d₀ s (.inr (some s'.i, found initialCalibration now s'))
  | on (s' : Locals) (hi : s.i ≤ s'.i) (hlimit : s'.i ≤ SEEK_LIMIT + 50)
      (hmoved : Moved s'.i d₀ s'.drum) : TurnOf initialCalibration now d₀ s (giveUpOr now s')

theorem seekTurn_out {initialCalibration : Bool} {now : UInt32} {s : Locals} (hi : s.i = 0)
    (hlow : readsLow pin s.drum = true) :
    seekTurn pin initialCalibration now s =
      giveUpOr now { s.saw true with
        i := (clearEdge (stepOut pin (SEEK_LIMIT + 1) 0 (looked s.drum))).1
        drum := (clearEdge (stepOut pin (SEEK_LIMIT + 1) 0 (looked s.drum))).2 } := by
  unfold seekTurn
  dsimp only
  rw [hlow, if_pos ⟨rfl, hi⟩, show (s.saw true).i = 0 from hi]
  rfl

theorem seekTurn_jump {initialCalibration : Bool} {now : UInt32} {s : Locals} (hi : s.i = 0)
    (hhigh : readsLow pin s.drum = false) :
    seekTurn pin initialCalibration now s =
      giveUpOr now { s.saw false with
        i := 50, drum := stepCounted (ROTATIONDIRECTION * 50) (looked s.drum) } := by
  unfold seekTurn
  dsimp only
  rw [hhigh, if_neg (fun h => Bool.noConfusion h.1), if_pos ⟨rfl, hi⟩]
  rfl

theorem seekTurn_step {initialCalibration : Bool} {now : UInt32} {s : Locals} (hi : s.i ≠ 0)
    (hhigh : readsLow pin s.drum = false) :
    seekTurn pin initialCalibration now s =
      giveUpOr now { s.saw false with
        drum := stepCounted (ROTATIONDIRECTION * 1) (looked s.drum) } := by
  unfold seekTurn
  dsimp only
  rw [hhigh, if_neg (fun h => hi h.2), if_neg (fun h => hi h.2), if_pos rfl]
  rfl

theorem seekTurn_marker {initialCalibration : Bool} {now : UInt32} {s : Locals} (hi : s.i ≠ 0)
    (hlow : readsLow pin s.drum = true) :
    seekTurn pin initialCalibration now s =
      .inr (some s.i, found initialCalibration now (s.saw true)) := by
  unfold seekTurn
  dsimp only
  rw [hlow, if_neg (fun h => hi h.2), if_neg (fun h => hi h.2),
    if_neg (fun h => Bool.noConfusion h)]
  rfl

theorem seekTurn_of (initialCalibration : Bool) (now : UInt32) {d₀ : Drum} {s : Locals}
    (hmoved : Moved (s.i - 1) d₀ s.drum) (hlimit : s.i ≤ SEEK_LIMIT + 1) :
    TurnOf initialCalibration now d₀ s (seekTurn pin initialCalibration now s) := by
  by_cases hi : s.i = 0
  · have hstart : Moved 0 d₀ (looked s.drum) := by
      rw [hi] at hmoved
      exact hmoved.looked
    cases hlow : readsLow pin s.drum with
    | true =>
        obtain ⟨k, hk, hout, hsteps⟩ := stepOut_moved pin (SEEK_LIMIT + 1) (i := 0) hstart
        rw [Nat.zero_add] at hout hsteps
        rw [← hout] at hsteps
        obtain ⟨hmost, hclear⟩ := clearEdge_moved hsteps (hout.trans_le hk)
        rw [seekTurn_out pin hi hlow]
        exact .on _ (by omega) hmost hclear
    | false =>
        have hjump := hstart.steps 50
        rw [Nat.zero_add] at hjump
        rw [seekTurn_jump pin hi hlow]
        exact .on _ (by omega) (Nat.le_add_left 50 _) hjump
  · cases hlow : readsLow pin s.drum with
    | true =>
        rw [seekTurn_marker pin hi hlow]
        exact .found (s.saw true) rfl hi hmoved.looked
    | false =>
        have hstep := hmoved.looked.step
        rw [show s.i - 1 + 1 = s.i by omega] at hstep
        rw [seekTurn_step pin hi hlow]
        exact .on _ le_rfl (hlimit.trans (Nat.add_le_add_left (by decide) _)) hstep

/-- What is left of a seek that has counted `i`. -/
structure Under (d₀ : Drum) (n : Nat) (s : Locals) : Prop where
  left : s.i + n = SEEK_LIMIT + 1
  moved : Moved (s.i - 1) d₀ s.drum

theorem Under.begun (d : Drum) : Under d (SEEK_LIMIT + 1) (begun d) :=
  ⟨Nat.zero_add _, Moved.begun d⟩

/-- The steps of the search itself: the way to the calibrated zero is none of it. -/
def searched (d : Drum) (r : Ended) : Int :=
  match r.1 with
  | some _ => r.2.turned - d.calOffset.toInt - d.turned
  | none => r.2.turned - d.turned

/-- Found, or known not to be. -/
structure CameBack (d : Drum) (r : Ended) : Prop where
  steps : searched d r ≤ 3 * 2038 + 100
  known : r.1.isSome = true ∨
    r.2.homed = false ∧ r.2.drift.positionKnown = false ∧ r.2.statusLastHomeFailed = true

@[simp] theorem found_turned (initialCalibration : Bool) (now : UInt32) (s : Locals) :
    (found initialCalibration now s).turned = s.drum.turned + s.drum.calOffset.toInt := by
  unfold found
  dsimp only
  split
  · show s.drum.turned + 1 * s.drum.calOffset.toInt * 1 = _
    omega
  · show s.drum.turned + 1 * s.drum.calOffset.toInt * 1 = _
    omega

/-- A turn that goes on leaves less. -/
theorem Under.next {initialCalibration : Bool} {now : UInt32} {d : Drum} {n : Nat}
    {s s' : Locals} (h : Under d n s) (hturn : TurnOf initialCalibration now d s (.inl s')) :
    ∃ m < n, Under d m s' := by
  generalize hres : (Sum.inl s' : Locals ⊕ Ended) = res at hturn
  cases hturn with
  | found => cases hres
  | on s₁ hi hlimit hmoved =>
      unfold giveUpOr at hres
      split at hres
      · cases hres
      · rename_i hin
        cases hres
        have hleft := h.left
        refine ⟨SEEK_LIMIT - s₁.i, by omega, ?_, hmoved⟩
        show s₁.i + 1 + (SEEK_LIMIT - s₁.i) = SEEK_LIMIT + 1
        omega

theorem Under.leaves {initialCalibration : Bool} {now : UInt32} {d : Drum} {n : Nat}
    {s : Locals} {r : Ended} (h : Under d n s)
    (hturn : TurnOf initialCalibration now d s (.inr r)) : CameBack d r := by
  have hleft := h.left
  have hlim : SEEK_LIMIT = 3 * 2038 := rfl
  generalize hres : (Sum.inr r : Locals ⊕ Ended) = res at hturn
  cases hturn with
  | found s₁ hi hseek hmoved =>
      cases hres
      refine ⟨?_, .inl rfl⟩
      show (found initialCalibration now s₁).turned - d.calOffset.toInt - d.turned ≤ _
      rw [found_turned, hmoved.calOffset, hmoved.turned]
      omega
  | on s₁ hi hlimit hmoved =>
      unfold giveUpOr at hres
      split at hres
      · cases hres
        refine ⟨?_, .inr ⟨rfl, rfl, rfl⟩⟩
        show s₁.drum.turned - d.turned ≤ _
        rw [hmoved.turned]
        omega
      · cases hres

theorem calibrate_comes_back (initialCalibration : Bool) (now : UInt32) (d : Drum) :
    ∃ r, calibrate pin initialCalibration now d = some r ∧ CameBack d r := by
  refine loop_spec (I := Under d) (Q := CameBack d) ?_ ?_ (Under.begun d) (by omega)
  · intro n s s' h hturn
    have hleft := h.left
    have hof := seekTurn_of pin initialCalibration now h.moved (by omega)
    rw [hturn] at hof
    exact h.next hof
  · intro n s r h hturn
    have hleft := h.left
    have hof := seekTurn_of pin initialCalibration now h.moved (by omega)
    rw [hturn] at hof
    exact h.leaves hof

/-! ## §6. A drum that does not slip. -/

/-- The pin is low for `w` steps from each entering edge. -/
def steady (w : Nat) : Pin := fun _ turned => turned % 2038 < w

/-- What is recorded of a seek that took `excess` steps more than it should have. -/
structure Recorded (d : Drum) (excess : UInt16) (d' : Drum) : Prop where
  last : d'.extStepExcessLast = excess
  max : d'.extStepExcessMax.toNat = Nat.max d.extStepExcessMax.toNat excess.toNat
  lifetime :
    d'.lifetime.stepExcessLifetimeMax.toNat =
      Nat.max d.lifetime.stepExcessLifetimeMax.toNat excess.toNat

/-- A seek from `d` ended at the zero that every seek ends at. -/
structure AtZero (d : Drum) (r : Ended) : Prop where
  found : r.1.isSome = true
  zero : (r.2.turned - d.calOffset.toInt) % 2038 = 0
  homed : r.2.homed = true
  letter : r.2.displayedLetter = 0
  quiet : d.Exact → r.2.drift.driftEvents = d.drift.driftEvents
  excess : d.Exact → d.homed = true → ∃ excess ≤ 2, Recorded d excess r.2

/-- Where a drum stands, in steps past the last entering edge. -/
def place (d : Drum) : Nat := (d.turned % 2038).toNat

/-- The 50 unwatched steps end at the next edge at the latest, or past the window of a
unit that measures nothing against its belief. -/
def JumpClear (w : Nat) (d : Drum) : Prop :=
  place d + 50 ≤ 2038 ∨ (w + 2038 ≤ place d + 50 ∧ ¬(d.homed = true ∧ d.Exact))

/-- The marker is `n` steps ahead of a drum out of its window, and `ends` counted there. -/
structure Nearing (d₀ : Drum) (w ends n : Nat) (s : Locals) : Prop where
  seeking : s.i ≠ 0
  counted : s.i + n = ends
  ahead : (s.drum.turned + n) % 2038 = 0
  outside : w + n ≤ 2038
  moved : ∃ k, Moved k d₀ s.drum
  valid : s.extExcessValid = (d₀.homed && d₀.drift.positionKnown)
  start : s.extStartPos = d₀.drift.drumPosition

theorem Nearing.saw {d₀ : Drum} {w ends n : Nat} {s : Locals} (h : Nearing d₀ w ends n s)
    (low : Bool) : Nearing d₀ w ends n (s.saw low) :=
  { h with moved := ⟨_, h.moved.choose_spec.looked⟩ }

theorem Nearing.high {d₀ : Drum} {w ends n : Nat} {s : Locals} (h : Nearing d₀ w ends (n + 1) s) :
    readsLow (steady w) s.drum = false := by
  have hahead := h.ahead
  have hout := h.outside
  show decide (s.drum.turned % 2038 < w) = false
  rw [decide_eq_false_iff_not]
  push_cast at hahead
  omega

theorem Nearing.low {d₀ : Drum} {w ends : Nat} {s : Locals} (h : Nearing d₀ w ends 0 s)
    (hw : 0 < w) : readsLow (steady w) s.drum = true := by
  have hahead := h.ahead
  show decide (s.drum.turned % 2038 < w) = true
  rw [decide_eq_true_eq]
  push_cast at hahead
  omega

/-- A turn that stepped and goes on has the edge ahead of it. -/
theorem Nearing.of_moved {d₀ : Drum} {w k n : Nat} {s : Locals} (now : UInt32)
    (hi : s.i ≤ SEEK_LIMIT) (hmoved : Moved k d₀ s.drum) (hahead : (d₀.turned + k + n) % 2038 = 0)
    (hout : w + n ≤ 2038) (hvalid : s.extExcessValid = (d₀.homed && d₀.drift.positionKnown))
    (hstart : s.extStartPos = d₀.drift.drumPosition) :
    ∃ s', giveUpOr now s = .inl s' ∧ Nearing d₀ w (s.i + 1 + n) n s' := by
  refine ⟨_, if_neg (by omega), Nat.succ_ne_zero _, rfl, ?_, hout, ⟨k, hmoved⟩, hvalid, hstart⟩
  show (s.drum.turned + n) % 2038 = 0
  rw [hmoved.turned]
  exact hahead

/-- A step nearer, as long as the limit is not reached. -/
theorem Nearing.nearer {d₀ : Drum} {w ends n : Nat} {s : Locals} (now : UInt32)
    (h : Nearing d₀ w ends (n + 1) s) (hends : ends ≤ SEEK_LIMIT) :
    ∃ s', giveUpOr now { s.saw false with
        drum := stepCounted (ROTATIONDIRECTION * 1) (looked s.drum) } = .inl s' ∧
      Nearing d₀ w ends n s' := by
  have hcounted := h.counted
  have hahead := h.ahead
  have hout := h.outside
  obtain ⟨k, hmoved⟩ := h.moved
  rw [show ends = s.i + 1 + n by omega]
  refine Nearing.of_moved now (by show s.i ≤ SEEK_LIMIT; omega) hmoved.looked.step ?_ (by omega)
    h.valid h.start
  rw [hmoved.turned] at hahead
  push_cast at hahead ⊢
  omega

/-- It goes on to the edge, and stops there. -/
theorem Nearing.finds {d₀ : Drum} {w ends n turns : Nat} {s : Locals}
    (initialCalibration : Bool) (now : UInt32) (h : Nearing d₀ w ends n s) (hw : 0 < w)
    (hends : ends ≤ SEEK_LIMIT) (hturns : n < turns) :
    ∃ s', Nearing d₀ w ends 0 s' ∧
      loop (seekTurn (steady w) initialCalibration now) turns s =
        some (some s'.i, found initialCalibration now s') := by
  have hloop : ∃ r, loop (seekTurn (steady w) initialCalibration now) turns s = some r ∧
      ∃ s', Nearing d₀ w ends 0 s' ∧ r = (some s'.i, found initialCalibration now s') := by
    refine loop_spec (I := Nearing d₀ w ends) ?_ ?_ h hturns
    · intro n s s' hn hturn
      cases n with
      | zero =>
          rw [seekTurn_marker _ hn.seeking (hn.low hw)] at hturn
          cases hturn
      | succ n =>
          obtain ⟨s₁, hs₁, hnear⟩ := hn.nearer now hends
          rw [seekTurn_step _ hn.seeking hn.high, hs₁] at hturn
          cases hturn
          exact ⟨n, Nat.lt_succ_self n, hnear⟩
    · intro n s r hn hturn
      cases n with
      | zero =>
          rw [seekTurn_marker _ hn.seeking (hn.low hw)] at hturn
          cases hturn
          exact ⟨s.saw true, hn.saw true, rfl⟩
      | succ n =>
          obtain ⟨s₁, hs₁, -⟩ := hn.nearer now hends
          rw [seekTurn_step _ hn.seeking hn.high, hs₁] at hturn
          cases hturn
  obtain ⟨r, hr, s', hs', rfl⟩ := hloop
  exact ⟨s', hs', hr⟩

/-! ## §7. What is noted at the edge. -/

theorem stepExcess_toNat {start : UInt16} {i p : Nat} (hstart : start.toNat = p) (hp : p ≤ 2038)
    (hi : i < 65536) : (stepExcess start i).toNat = i - (2038 - p) := by
  have hexpected : (STEPS - start).toNat = 2038 - p := by
    rw [UInt16.toNat_sub_of_le _ _ (by rw [UInt16.le_iff_toNat_le, hstart]; exact hp), hstart]
    rfl
  have hactual : (UInt16.ofNat i).toNat = i := by
    rw [UInt16.toNat_ofNat']
    omega
  unfold stepExcess
  dsimp only
  split
  · rename_i hle
    rw [UInt16.toNat_sub_of_le _ _ hle, hexpected, hactual]
  · rename_i hle
    rw [UInt16.le_iff_toNat_le, hexpected, hactual] at hle
    show 0 = _
    omega

theorem found_events (initialCalibration : Bool) (now : UInt32) (s : Locals) :
    (found initialCalibration now s).drift.driftEvents =
      (driftObserveEdge s.drum.drift STEPS DRIFT_THRESHOLD_STEPS).2.driftEvents := by
  unfold found
  dsimp only
  split <;> rfl

theorem found_recorded (initialCalibration : Bool) (now : UInt32) {s : Locals}
    (h : s.extExcessValid = true) :
    Recorded s.drum (stepExcess s.extStartPos s.i) (found initialCalibration now s) := by
  unfold found
  dsimp only
  rw [if_pos h]
  generalize stepExcess s.extStartPos s.i = excess
  refine ⟨rfl, ?_, ?_⟩
  · show (if s.drum.extStepExcessMax < excess then excess
      else s.drum.extStepExcessMax).toNat = _
    split
    · rename_i hlt
      exact (Nat.max_eq_right (UInt16.le_iff_toNat_le.mp (UInt16.le_of_lt hlt))).symm
    · rename_i hle
      exact (Nat.max_eq_left (UInt16.le_iff_toNat_le.mp (UInt16.not_lt.mp hle))).symm
  · show (unitEeRecordStepExcess s.drum.lifetime excess).stepExcessLifetimeMax.toNat = _
    unfold unitEeRecordStepExcess
    split
    · rename_i hle
      exact (Nat.max_eq_left (UInt16.le_iff_toNat_le.mp hle)).symm
    · rename_i hlt
      exact (Nat.max_eq_right
        (UInt16.le_iff_toNat_le.mp (UInt16.le_of_lt (UInt16.not_le.mp hlt)))).symm

/-- A belief that is exact finds the edge where it should be. -/
theorem Nearing.quiet {d₀ : Drum} {w ends : Nat} {s : Locals} (h : Nearing d₀ w ends 0 s)
    (initialCalibration : Bool) (now : UInt32) (hexact : d₀.Exact) :
    (found initialCalibration now s).drift.driftEvents = d₀.drift.driftEvents := by
  obtain ⟨k, hmoved⟩ := h.moved
  have hplace := (hmoved.exact hexact).2
  have hahead := h.ahead
  rw [found_events, driftObserveEdge_quiet (.inl (by push_cast at hahead; omega))]
  exact hmoved.events

theorem Nearing.recorded {d₀ : Drum} {w ends : Nat} {s : Locals} (h : Nearing d₀ w ends 0 s)
    (initialCalibration : Bool) (now : UInt32) (hexact : d₀.Exact) (hhomed : d₀.homed = true) :
    Recorded d₀ (stepExcess d₀.drift.drumPosition ends) (found initialCalibration now s) := by
  obtain ⟨k, hmoved⟩ := h.moved
  have hvalid : s.extExcessValid = true := by rw [h.valid, hhomed, hexact.1]; rfl
  have hrec := found_recorded initialCalibration now hvalid
  rw [h.start, show s.i = ends from h.counted] at hrec
  refine ⟨hrec.last, ?_, ?_⟩
  · rw [hrec.max, hmoved.excessMax]
  · rw [hrec.lifetime, hmoved.lifetime]

theorem Drum.Exact.place {d : Drum} (h : d.Exact) : d.drift.drumPosition.toNat = place d := by
  have := h.2
  unfold Seek.place
  omega

/-- A seek that ends at the edge is at the zero if it counted no more than it should. -/
theorem Nearing.atZero_iff {d₀ : Drum} {w ends : Nat} {s : Locals} (h : Nearing d₀ w ends 0 s)
    (initialCalibration : Bool) (now : UInt32) (hends : ends ≤ SEEK_LIMIT) :
    AtZero d₀ (some s.i, found initialCalibration now s) ↔
      (d₀.homed = true ∧ d₀.Exact → ends + place d₀ ≤ 2040) := by
  have hlim : SEEK_LIMIT = 3 * 2038 := rfl
  have hplace : place d₀ < 2038 := by
    unfold place
    omega
  have hexcess (hexact : d₀.Exact) :
      (stepExcess d₀.drift.drumPosition ends).toNat = ends - (2038 - place d₀) :=
    stepExcess_toNat hexact.place (by omega) (by omega)
  constructor
  · rintro hzero ⟨hhomed, hexact⟩
    obtain ⟨excess, hle, hrec⟩ := hzero.excess hexact hhomed
    have hsame : excess = stepExcess d₀.drift.drumPosition ends :=
      hrec.last.symm.trans (h.recorded initialCalibration now hexact hhomed).last
    rw [hsame, UInt16.le_iff_toNat_le, hexcess hexact] at hle
    have : (2 : UInt16).toNat = 2 := rfl
    omega
  · intro hcount
    obtain ⟨k, hmoved⟩ := h.moved
    have hahead := h.ahead
    refine ⟨rfl, ?_, rfl, rfl, h.quiet initialCalibration now, fun hexact hhomed => ?_⟩
    · show ((found initialCalibration now s).turned - d₀.calOffset.toInt) % 2038 = 0
      rw [found_turned, hmoved.calOffset]
      push_cast at hahead
      omega
    · refine ⟨_, ?_, h.recorded initialCalibration now hexact hhomed⟩
      have := hcount ⟨hhomed, hexact⟩
      rw [UInt16.le_iff_toNat_le, hexcess hexact]
      show _ ≤ 2
      omega

/-! ## §8. The first turn. -/

theorem stepOut_steady {w m left i : Nat} {d : Drum} (hw : w < 2038) (hleft : m ≤ left)
    (hd : d.turned % 2038 + m = w) : (stepOut (steady w) left i d).1 = i + m := by
  induction m generalizing left i d with
  | zero =>
      cases left with
      | zero => rfl
      | succ left =>
          have hhigh : readsLow (steady w) d = false := by
            show decide (d.turned % 2038 < w) = false
            rw [decide_eq_false_iff_not]
            omega
          simp only [stepOut, hhigh]
          rfl
  | succ m ih =>
      cases left with
      | zero => omega
      | succ left =>
          have hlow : readsLow (steady w) d = true := by
            show decide (d.turned % 2038 < w) = true
            rw [decide_eq_true_eq]
            omega
          have hnext : (stepCounted (ROTATIONDIRECTION * 1) (looked d)).turned % 2038 + m = w := by
            show (d.turned + 1 * 1 * 1) % 2038 + m = w
            omega
          simp only [stepOut, hlow, if_true]
          rw [ih (by omega) hnext]
          omega

/-- From inside the window the marker is met on the next time round. -/
theorem first_inside {w : Nat} (hw : w + 50 ≤ 2038) (initialCalibration : Bool) (now : UInt32)
    {d : Drum} (hin : place d < w) :
    ∃ s', seekTurn (steady w) initialCalibration now (begun d) = .inl s' ∧
      Nearing d w (2039 - place d) (1988 - w) s' := by
  have hlim : SEEK_LIMIT = 3 * 2038 := rfl
  have hplace : (place d : Int) = d.turned % 2038 := by
    unfold place
    omega
  have hlow : readsLow (steady w) (begun d).drum = true := by
    show decide (d.turned % 2038 < w) = true
    rw [decide_eq_true_eq]
    omega
  have hout : (stepOut (steady w) (SEEK_LIMIT + 1) 0 (looked (begun d).drum)).1 = w - place d := by
    rw [stepOut_steady (m := w - place d) (by omega) (by omega), Nat.zero_add]
    show d.turned % 2038 + _ = _
    omega
  obtain ⟨k, hk, hi, hsteps⟩ :=
    stepOut_moved (steady w) (SEEK_LIMIT + 1) (i := 0) (Moved.begun d).looked
  rw [Nat.zero_add] at hi hsteps
  have hclear : clearEdge (stepOut (steady w) (SEEK_LIMIT + 1) 0 (looked (begun d).drum)) =
      (_, _) := if_pos (by omega)
  rw [seekTurn_out _ rfl hlow, hclear]
  have hnear := Nearing.of_moved now (s := { (begun d).saw true with
    i := (stepOut (steady w) (SEEK_LIMIT + 1) 0 (looked (begun d).drum)).1 + 50
    drum := stepCounted (ROTATIONDIRECTION * 50)
      (stepOut (steady w) (SEEK_LIMIT + 1) 0 (looked (begun d).drum)).2 })
    (w := w) (n := 1988 - w) (by dsimp only; omega) (hsteps.steps 50) (by omega) (by omega)
    rfl rfl
  dsimp only at hnear
  rw [hout, show w - place d + 50 + 1 + (1988 - w) = 2039 - place d by omega] at hnear
  rw [hout]
  exact hnear

theorem first_high {w : Nat} {d : Drum} (hout : w ≤ place d) :
    readsLow (steady w) (begun d).drum = false := by
  unfold place at hout
  show decide (d.turned % 2038 < w) = false
  rw [decide_eq_false_iff_not]
  omega

/-- The 50 steps of a start outside the window; the edge is `n` steps on from where they end. -/
theorem first_jump {w n : Nat} (initialCalibration : Bool) (now : UInt32) {d : Drum}
    (hout : w ≤ place d) (hahead : (place d + 50 + n) % 2038 = 0) (hclear : w + n ≤ 2038) :
    ∃ s', seekTurn (steady w) initialCalibration now (begun d) = .inl s' ∧
      Nearing d w (51 + n) n s' := by
  have hplace : (place d : Int) = d.turned % 2038 := by
    unfold place
    omega
  have hjump := (Moved.begun d).looked.steps 50
  rw [seekTurn_jump _ rfl (first_high hout)]
  exact Nearing.of_moved now (s := { (begun d).saw false with
    i := 50, drum := stepCounted (ROTATIONDIRECTION * 50) (looked (begun d).drum) })
    (by show 50 ≤ 3 * 2038; omega) hjump (by omega) hclear rfl rfl

/-! ## §9. From where the zero is found. -/

/-- Once the first turn is over the marker is met at its edge. -/
theorem calibrate_steady {w ends n : Nat} (initialCalibration : Bool) (now : UInt32) {d : Drum}
    {s : Locals} (hw : 0 < w) (hends : ends ≤ SEEK_LIMIT) (hn : n ≤ SEEK_LIMIT)
    (hfirst : seekTurn (steady w) initialCalibration now (begun d) = .inl s)
    (hnear : Nearing d w ends n s) :
    ∃ r, calibrate (steady w) initialCalibration now d = some r ∧
      (AtZero d r ↔ (d.homed = true ∧ d.Exact → ends + place d ≤ 2040)) := by
  obtain ⟨s', hs', hloop⟩ :=
    hnear.finds initialCalibration now hw hends (by omega : n < SEEK_LIMIT + 1)
  refine ⟨_, ?_, hs'.atZero_iff initialCalibration now hends⟩
  unfold calibrate
  rw [loop_again hfirst]
  exact hloop

section

variable {w : Nat} (initialCalibration : Bool) (now : UInt32) {d : Drum}

theorem place_lt (d : Drum) : place d < 2038 := by
  unfold place
  omega

theorem calibrate_near (hw : 0 < w) (hw' : w + 50 ≤ 2038) (hnear : place d + 50 ≤ 2038) :
    ∃ r, calibrate (steady w) initialCalibration now d = some r ∧ AtZero d r := by
  have hlim : SEEK_LIMIT = 3 * 2038 := rfl
  by_cases hin : place d < w
  · obtain ⟨s, hfirst, hs⟩ := first_inside hw' initialCalibration now hin
    obtain ⟨r, hr, hzero⟩ :=
      calibrate_steady initialCalibration now hw (by omega) (by omega) hfirst hs
    exact ⟨r, hr, hzero.mpr fun _ => by omega⟩
  · obtain ⟨s, hfirst, hs⟩ := first_jump (n := 1988 - place d) initialCalibration now
      (Nat.le_of_not_lt hin) (by omega) (by omega)
    obtain ⟨r, hr, hzero⟩ :=
      calibrate_steady initialCalibration now hw (by omega) (by omega) hfirst hs
    exact ⟨r, hr, hzero.mpr fun _ => by omega⟩

/-- Past the whole window: a revolution goes by before the edge is met. -/
theorem calibrate_missed (hw : 0 < w) (hmissed : w + 2038 ≤ place d + 50) :
    ∃ r, calibrate (steady w) initialCalibration now d = some r ∧
      (AtZero d r ↔ ¬(d.homed = true ∧ d.Exact)) := by
  have hlim : SEEK_LIMIT = 3 * 2038 := rfl
  have hplace := place_lt d
  obtain ⟨s, hfirst, hs⟩ := first_jump (w := w) (n := 4026 - place d) initialCalibration now
    (by omega : w ≤ place d) (by omega) (by omega)
  obtain ⟨r, hr, hzero⟩ :=
    calibrate_steady initialCalibration now hw (by omega) (by omega) hfirst hs
  refine ⟨r, hr, hzero.trans ⟨fun hcount hexact => ?_, fun hnot hexact => absurd hexact hnot⟩⟩
  have := hcount hexact
  omega

/-- Into the window: where the drum is by then is taken for the edge. -/
theorem calibrate_landed (hout : w ≤ place d) (hpast : 2038 < place d + 50)
    (hin : place d + 50 < w + 2038) :
    ∃ r, calibrate (steady w) initialCalibration now d = some r ∧
      (r.2.turned - d.calOffset.toInt) % 2038 = place d + 50 - 2038 := by
  have hplace : (place d : Int) = d.turned % 2038 := by
    unfold place
    omega
  have hlt := place_lt d
  obtain ⟨s, hfirst, hi, hmoved⟩ :
      ∃ s, seekTurn (steady w) initialCalibration now (begun d) = .inl s ∧ s.i = 51 ∧
        Moved 50 d s.drum := by
    rw [seekTurn_jump _ rfl (first_high hout)]
    exact ⟨_, if_neg (by show ¬3 * 2038 < 50; omega), rfl, (Moved.begun d).looked.steps 50⟩
  have hlow : readsLow (steady w) s.drum = true := by
    show decide (s.drum.turned % 2038 < w) = true
    rw [decide_eq_true_eq, hmoved.turned]
    omega
  have hmarker : seekTurn (steady w) initialCalibration now s = _ :=
    seekTurn_marker _ (by omega) hlow
  refine ⟨_, (loop_again hfirst _).trans (loop_leaves hmarker _), ?_⟩
  show ((found initialCalibration now (s.saw true)).turned - _) % 2038 = _
  rw [found_turned]
  show (s.drum.turned + s.drum.calOffset.toInt - d.calOffset.toInt) % 2038 = _
  rw [hmoved.turned, hmoved.calOffset]
  omega

end

/-- Whatever the pin reads a seek comes back, at the marker or knowing that it is not; on a
drum that does not slip it ends at the one zero exactly where the unwatched steps let it. -/
theorem homing_zero (initialCalibration : Bool) (now : UInt32) (d : Drum) :
    (∀ pin : Pin, ∃ r, calibrate pin initialCalibration now d = some r ∧ CameBack d r) ∧
      ∀ w, 2 ≤ w → w ≤ 127 →
        ((∃ r, calibrate (steady w) initialCalibration now d = some r ∧ AtZero d r) ↔
          JumpClear w d) := by
  refine ⟨fun pin => calibrate_comes_back pin initialCalibration now d, fun w hw hw' => ?_⟩
  have hplace := place_lt d
  unfold JumpClear
  by_cases hnear : place d + 50 ≤ 2038
  · obtain ⟨r, hr⟩ := calibrate_near initialCalibration now (by omega : 0 < w) (by omega) hnear
    exact ⟨fun _ => .inl hnear, fun _ => ⟨r, hr⟩⟩
  by_cases hmissed : w + 2038 ≤ place d + 50
  · obtain ⟨r, hr, hzero⟩ := calibrate_missed initialCalibration now (by omega : 0 < w) hmissed
    constructor
    · rintro ⟨r', hr', hat⟩
      cases hr.symm.trans hr'
      exact .inr ⟨hmissed, hzero.mp hat⟩
    · rintro (h | ⟨-, hnot⟩)
      · exact absurd h hnear
      · exact ⟨r, hr, hzero.mpr hnot⟩
  · obtain ⟨r, hr, hoff⟩ := calibrate_landed initialCalibration now (by omega : w ≤ place d)
      (by omega) (by omega)
    constructor
    · rintro ⟨r', hr', hat⟩
      cases hr.symm.trans hr'
      have := hat.zero
      omega
    · rintro (h | ⟨h, -⟩)
      · exact absurd h hnear
      · exact absurd h hmissed

/-- A drum in use, 100 steps past the edge of a window of 46. -/
theorem homing_zero_in_use :
    (2 ≤ 46 ∧ 46 ≤ 127) ∧
      ∃ r, calibrate (steady 46) false 0
          { turned := 100, homed := true, drift := ⟨100, true, 0, 0, false⟩ } = some r ∧
        AtZero { turned := 100, homed := true, drift := ⟨100, true, 0, 0, false⟩ } r := by
  refine ⟨by decide, ((homing_zero false 0 _).2 46 (by decide) (by decide)).mpr (.inl ?_)⟩
  show 100 + 50 ≤ 2038
  decide

/-- 38 steps before the edge the unwatched steps end 12 steps into a window of 46. -/
theorem jump_lands_in_window :
    ¬∃ r, calibrate (steady 46) true 0 { turned := 2000 } = some r ∧
      AtZero { turned := 2000 } r := by
  rintro ⟨r, hr, hat⟩
  obtain ⟨r', hr', hoff⟩ := calibrate_landed (w := 46) true 0 (d := { turned := 2000 })
    (by decide) (by decide) (by decide)
  cases hr.symm.trans hr'
  have hzero := hat.zero
  rw [hoff] at hzero
  revert hzero
  decide

end SplitFlap.Seek
