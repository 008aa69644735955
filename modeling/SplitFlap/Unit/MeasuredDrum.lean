/-
  SplitFlap.Unit.MeasuredDrum — what a self-test measures of the drum.

  `runSelfTest` (`UnitMotion.ino`) steps the drum to the entering edge of the
  magnet's window, and from there once round: how many steps the pin was low,
  and after how many it was low again.  The first phase stops at the first low
  reading; the second believes two in a row, and takes the one it was late by
  off the count.
-/
import SplitFlap.Unit.Replies
import SplitFlap.Unit.Seek

namespace SplitFlap.MeasuredDrum

open Loop Seek
open Motion (homeNoteResult SEEK_LIMIT ROTATIONDIRECTION)

/-! ## §1. What a self-test reads and writes. -/

/-- What the EEPROM keeps of the self-tests for the unit's life. -/
structure SelfTestRecord where
  selfTestFirstHallWindow : UInt16 := 0
  selfTestFirstStepsPerRev : UInt16 := 0
  selfTestLastHallWindow : UInt16 := 0
  selfTestLastStepsPerRev : UInt16 := 0
  deriving DecidableEq

structure Tester where
  drum : Drum
  selfTest : SelfTestResult := {}
  record : SelfTestRecord := {}
  receivedNumber : Nat := 0
  lastRotation : UInt32 := 0

/-- The clock as the measured revolution begins and ends, and as the drum is parked. -/
structure Times where
  began : UInt32
  ended : UInt32
  parked : UInt32

def unitEeRecordSelfTest (h : SelfTestRecord) (hallWindow stepsPerRev : UInt16) :
    SelfTestRecord :=
  let h :=
    if hallWindow ≠ 0 then
      { h with
        selfTestFirstHallWindow :=
          if h.selfTestFirstHallWindow = 0 then hallWindow else h.selfTestFirstHallWindow
        selfTestLastHallWindow := hallWindow }
    else h
  if stepsPerRev ≠ 0 then
    { h with
      selfTestFirstStepsPerRev :=
        if h.selfTestFirstStepsPerRev = 0 then stepsPerRev else h.selfTestFirstStepsPerRev
      selfTestLastStepsPerRev := stepsPerRev }
  else h

/-! ## §2. To the entering edge. -/

variable (pin : Pin)

/-- A step while the pin reads `low`; the guard is counted, and may run out. -/
def whileTurn (low : Bool) (s : Nat × Drum) : Nat × Drum ⊕ Bool × Nat × Drum :=
  let (guard, d) := s
  if readsLow pin d = low then
    let d := stepCounted (ROTATIONDIRECTION * 1) (looked d)
    if SEEK_LIMIT < guard + 1 then .inr (true, guard + 1, d) else .inl (guard + 1, d)
  else .inr (false, guard, looked d)

/-- `while (digitalRead(HALLPIN) == …)`: whether the guard ran out, the guard, the drum. -/
def stepWhile (low : Bool) (guard : Nat) (d : Drum) : Option (Bool × Nat × Drum) :=
  loop (whileTurn pin low) (SEEK_LIMIT + 2) (guard, d)

/-- On to the first low reading. -/
def toEdge (guard : Nat) (d : Drum) : Option (SelfTestReason × Drum) :=
  (stepWhile pin false guard d).map fun (failed, _, d) =>
    (if failed then .hallNever else .none, d)

/-- The edge is met from outside the window; a reason says why it was not. -/
def approach (d : Drum) : Option (SelfTestReason × Drum) :=
  if readsLow pin d then
    (stepWhile pin true 0 (looked d)).bind fun (failed, guard, d) =>
      if failed then some (.hallStuck, d)
      else toEdge pin (guard + 50) (stepCounted (ROTATIONDIRECTION * 50) d)
  else toEdge pin 0 (looked d)

/-! ## §3. Once round. -/

/-- The locals of the second phase; none of the counts passes `2 * STEPS + 1`. -/
structure Locals where
  measuredSteps : Nat := 0
  windowSteps : Nat := 1
  leftWindow : Bool := false
  streak : Nat := 0
  drum : Drum

/-- What one reading is counted as; `true` for the edge that came back. -/
def sampled (low : Bool) (m : Locals) : Bool × Locals :=
  if m.leftWindow = false then
    if low then (false, { m with windowSteps := m.windowSteps + 1, streak := 0 })
    else if 2 ≤ m.streak + 1 then (false, { m with leftWindow := true, streak := 0 })
    else (false, { m with streak := m.streak + 1 })
  else if low then (2 ≤ m.streak + 1, { m with streak := m.streak + 1 })
  else (false, { m with streak := 0 })

/-- Whether the edge stayed away, and what was measured. -/
def measureTurn (m : Locals) : Locals ⊕ Bool × Locals :=
  let m :=
    { m with
      measuredSteps := m.measuredSteps + 1
      drum := stepCounted (ROTATIONDIRECTION * 1) m.drum }
  if 2 * 2038 < m.measuredSteps then .inr (true, m)
  else
    let (back, m) := sampled (readsLow pin m.drum) { m with drum := looked m.drum }
    if back then .inr (false, m) else .inl m

def measure (d : Drum) : Option (Bool × Locals) :=
  loop (measureTurn pin) (2 * 2038 + 2) { drum := { d with drift := driftMarkSynced d.drift } }

/-! ## §4. The test. -/

def begun (s : Tester) : Tester :=
  { s with
    drum :=
      { s.drum with
        bootHomeAttempted := true, extHallLatchInhibit := true, currentlyrotating := true }
    selfTest := { state := .running } }

/-- The revolution is measured: on to the calibrated zero, and it counts as a home. -/
def passed (t : Times) (m : Locals) (s : Tester) : Tester :=
  let dt := t.ended - t.began
  let d := stepCounted (ROTATIONDIRECTION * m.drum.calOffset.toInt)
    { m.drum with drift := driftMarkSynced m.drum.drift }
  { s with
    selfTest :=
      { s.selfTest with
        state := .ok
        revTimeMs := if 65535 < dt then 65535 else dt.toUInt16
        stepsPerRev := UInt16.ofNat (m.measuredSteps - 1)
        hallWindowSteps := UInt16.ofNat m.windowSteps }
    drum :=
      { d with
        displayedLetter := 0
        missedSteps := 0
        drift := { d.drift with driftPending := false }
        statusLastHomeFailed := false
        statusHallNeverTriggered := false
        homed := true
        homeBackoff := homeNoteResult d.homeBackoff true t.parked } }

/-- The position is not known any more; what was measured of the window stays. -/
def failed (t : Times) (reason : SelfTestReason) (hallWindowSteps : UInt16) (d : Drum)
    (s : Tester) : Tester :=
  { s with
    selfTest := { s.selfTest with state := .failed, reason, hallWindowSteps }
    receivedNumber := 0
    drum :=
      { d with
        displayedLetter := 0
        drift := { d.drift with positionKnown := false, driftPending := false }
        homed := false
        homeBackoff := homeNoteResult d.homeBackoff false t.parked } }

/-- Only a test that passed is recorded. -/
def ended (t : Times) (s : Tester) : Tester :=
  { s with
    record :=
      if s.selfTest.state = .ok then
        unitEeRecordSelfTest s.record s.selfTest.hallWindowSteps s.selfTest.stepsPerRev
      else s.record
    lastRotation := if t.parked = 0 then 1 else t.parked
    drum :=
      { s.drum with
        currentlyrotating := false, extHallEdgesThisRev := 0, extHallLatchInhibit := false } }

def runSelfTest (t : Times) (s : Tester) : Option Tester :=
  let s := begun s
  (approach pin s.drum).bind fun (reason, d) =>
    if reason ≠ .none then some (ended t (failed t reason 0 d s))
    else
      (measure pin d).map fun (gaveUp, m) =>
        ended t
          (if gaveUp then failed t .revIncomplete (UInt16.ofNat m.windowSteps) m.drum s
          else passed t m s)

/-! ## §5. A phase comes back, whatever the pin reads. -/

/-- The drum went on, and nothing was noted of it. -/
def Went (d d' : Drum) : Prop := ∃ n, Moved n d d'

theorem Went.step {d₀ d : Drum} (h : Went d₀ d) :
    Went d₀ (stepCounted (ROTATIONDIRECTION * 1) d) := ⟨_, h.choose_spec.step⟩

theorem Went.looked {d₀ d : Drum} (h : Went d₀ d) : Went d₀ (looked d) :=
  ⟨_, h.choose_spec.looked⟩

theorem stepWhile_returns (low : Bool) (guard : Nat) {d₀ d : Drum} (h : Went d₀ d) :
    ∃ r, stepWhile pin low guard d = some r ∧ Went d₀ r.2.2 := by
  refine loop_spec (n := SEEK_LIMIT - guard)
    (I := fun n (s : Nat × Drum) => n = SEEK_LIMIT - s.1 ∧ Went d₀ s.2) ?_ ?_ ⟨rfl, h⟩ (by omega)
  · rintro n ⟨guard', d'⟩ s' ⟨hn, hwent⟩ hturn
    simp only [whileTurn] at hturn
    dsimp only at hn hwent
    split at hturn
    · split at hturn
      · cases hturn
      · rename_i hroom
        cases hturn
        exact ⟨SEEK_LIMIT - (guard' + 1), by omega, rfl, hwent.looked.step⟩
    · cases hturn
  · rintro n ⟨guard', d'⟩ r ⟨hn, hwent⟩ hturn
    simp only [whileTurn] at hturn
    split at hturn
    · split at hturn
      · cases hturn
        exact hwent.looked.step
      · cases hturn
    · cases hturn
      exact hwent.looked

theorem toEdge_returns (guard : Nat) {d₀ d : Drum} (h : Went d₀ d) :
    ∃ reason d', toEdge pin guard d = some (reason, d') ∧ Went d₀ d' := by
  obtain ⟨⟨failed, guard', d'⟩, hr, hwent⟩ := stepWhile_returns pin false guard h
  refine ⟨if failed then .hallNever else .none, d', ?_, hwent⟩
  unfold toEdge
  rw [hr]
  rfl

theorem approach_returns (d : Drum) :
    ∃ reason d', approach pin d = some (reason, d') ∧ Went d d' := by
  have hstart : Went d (looked d) := ⟨0, (Moved.refl d).looked⟩
  unfold approach
  split
  · obtain ⟨⟨failed, guard, d'⟩, hr, hwent⟩ := stepWhile_returns pin true 0 hstart
    rw [hr]
    cases failed with
    | true => exact ⟨_, _, rfl, hwent⟩
    | false => exact toEdge_returns pin _ ⟨_, hwent.choose_spec.steps 50⟩
  · exact toEdge_returns pin _ hstart

@[simp] theorem sampled_drum (low : Bool) (m : Locals) : (sampled low m).2.drum = m.drum := by
  unfold sampled
  split_ifs <;> rfl

@[simp] theorem sampled_measuredSteps (low : Bool) (m : Locals) :
    (sampled low m).2.measuredSteps = m.measuredSteps := by
  unfold sampled
  split_ifs <;> rfl

/-- A turn before the edge has stayed away for too long. -/
theorem measureTurn_sampled {m : Locals} (h : m.measuredSteps < 2 * 2038) :
    measureTurn pin m =
      let d := stepCounted (ROTATIONDIRECTION * 1) m.drum
      let r :=
        sampled (readsLow pin d) { m with measuredSteps := m.measuredSteps + 1, drum := looked d }
      if r.1 then .inr (false, r.2) else .inl r.2 := by
  unfold measureTurn
  dsimp only
  rw [if_neg (by omega)]

theorem measureTurn_late {m : Locals} (h : 2 * 2038 ≤ m.measuredSteps) :
    measureTurn pin m = .inr (true,
      { m with
        measuredSteps := m.measuredSteps + 1
        drum := stepCounted (ROTATIONDIRECTION * 1) m.drum }) := by
  unfold measureTurn
  dsimp only
  rw [if_pos (by omega)]

theorem measure_returns {d₀ d : Drum} (h : Went d₀ d) :
    ∃ r, measure pin d = some r ∧ r.2.drum.lifetime = d₀.lifetime := by
  refine loop_spec (n := 2 * 2038)
    (I := fun n (m : Locals) => n = 2 * 2038 - m.measuredSteps ∧ m.drum.lifetime = d₀.lifetime)
    ?_ ?_ ⟨rfl, h.choose_spec.lifetime⟩ (by omega)
  · rintro n m m' ⟨hn, hlife⟩ hturn
    by_cases hlate : 2 * 2038 ≤ m.measuredSteps
    · rw [measureTurn_late pin hlate] at hturn
      cases hturn
    · rw [measureTurn_sampled pin (by omega)] at hturn
      dsimp only at hturn
      split at hturn
      · cases hturn
      · cases hturn
        refine ⟨_, ?_, rfl, ?_⟩
        · rw [sampled_measuredSteps]
          show 2 * 2038 - (m.measuredSteps + 1) < n
          omega
        · rw [sampled_drum]
          exact hlife
  · rintro n m r ⟨hn, hlife⟩ hturn
    by_cases hlate : 2 * 2038 ≤ m.measuredSteps
    · rw [measureTurn_late pin hlate] at hturn
      cases hturn
      exact hlife
    · rw [measureTurn_sampled pin (by omega)] at hturn
      dsimp only at hturn
      split at hturn
      · cases hturn
        dsimp only
        rw [sampled_drum]
        exact hlife
      · cases hturn

/-! ## §6. A pin that never changes. -/

/-- The guard runs out. -/
theorem stepWhile_runs_out {low : Bool} (hpin : ∀ n x, pin n x = low) (guard : Nat) (d : Drum) :
    ∃ r, stepWhile pin low guard d = some r ∧ r.1 = true := by
  refine loop_spec (n := SEEK_LIMIT - guard)
    (I := fun n (s : Nat × Drum) => n = SEEK_LIMIT - s.1) ?_ ?_ rfl (by omega)
  · rintro n ⟨guard', d'⟩ s' hn hturn
    simp only [whileTurn] at hturn
    have hreads : readsLow pin d' = low := hpin _ _
    rw [if_pos hreads] at hturn
    split at hturn
    · cases hturn
    · rename_i hroom
      cases hturn
      exact ⟨SEEK_LIMIT - (guard' + 1), by dsimp only at hn; omega, rfl⟩
  · rintro n ⟨guard', d'⟩ r hn hturn
    simp only [whileTurn] at hturn
    have hreads : readsLow pin d' = low := hpin _ _
    rw [if_pos hreads] at hturn
    split at hturn
    · cases hturn
      rfl
    · cases hturn

theorem approach_never (hpin : ∀ n x, pin n x = false) (d : Drum) :
    ∃ d', approach pin d = some (.hallNever, d') := by
  obtain ⟨⟨failed, guard, d'⟩, hr, hfailed⟩ := stepWhile_runs_out pin hpin 0 (looked d)
  dsimp only at hfailed
  subst hfailed
  refine ⟨d', ?_⟩
  have hhigh : readsLow pin d = false := hpin _ _
  unfold approach toEdge
  rw [hhigh, if_neg Bool.false_ne_true, hr]
  rfl

theorem approach_stuck (hpin : ∀ n x, pin n x = true) (d : Drum) :
    ∃ d', approach pin d = some (.hallStuck, d') := by
  obtain ⟨⟨failed, guard, d'⟩, hr, hfailed⟩ := stepWhile_runs_out pin hpin 0 (looked d)
  dsimp only at hfailed
  subst hfailed
  refine ⟨d', ?_⟩
  have hlow : readsLow pin d = true := hpin _ _
  unfold approach
  rw [hlow, if_pos rfl, hr]
  rfl

/-! ## §7. A drum that turns true. -/

/-- A revolution of `R` steps, the pin low on the first `w` from each entering edge. -/
def window (R w : Nat) : Pin := fun _ turned => turned % R < w

theorem readsLow_window {R w : Nat} {d : Drum} :
    readsLow (window R w) d = true ↔ d.turned % R < w := decide_eq_true_iff

/-- `n` of the `a` steps are left, and the guard will be at `ends`. -/
structure Ahead (d₀ : Drum) (a ends n : Nat) (s : Nat × Drum) : Prop where
  moved : ∃ k, Moved k d₀ s.2 ∧ k + n = a
  guard : s.1 + n = ends

/-- The pin changes after `a` steps, and the guard has room for them. -/
theorem stepWhile_changes {R w : Nat} {low : Bool} (guard : Nat) {a : Nat} {d : Drum}
    (hbefore : ∀ k, k < a → decide ((d.turned + k) % R < (w : Int)) = low)
    (hthere : decide ((d.turned + a) % R < (w : Int)) ≠ low) (hroom : guard + a ≤ SEEK_LIMIT) :
    ∃ d', stepWhile (window R w) low guard d = some (false, guard + a, d') ∧ Moved a d d' := by
  suffices hloop : ∃ r, stepWhile (window R w) low guard d = some r ∧
      (r.1 = false ∧ r.2.1 = guard + a ∧ Moved a d r.2.2) by
    obtain ⟨⟨failed, guard', d'⟩, hr, hfailed, hguard, hmoved⟩ := hloop
    dsimp only at hfailed hguard
    subst hfailed hguard
    exact ⟨d', hr, hmoved⟩
  refine loop_spec (I := Ahead d a (guard + a)) ?_ ?_ ⟨⟨0, Moved.refl d, Nat.zero_add a⟩, rfl⟩
    (by omega)
  · rintro n ⟨guard', d'⟩ s' ⟨⟨k, hmoved, hk⟩, hguard⟩ hturn
    simp only [whileTurn] at hturn
    dsimp only at hguard hmoved
    have hreads : readsLow (window R w) d' = decide ((d.turned + k) % R < (w : Int)) := by
      unfold readsLow window
      rw [hmoved.turned]
    rw [hreads] at hturn
    cases n with
    | zero =>
        rw [Nat.add_zero] at hk
        rw [hk, if_neg hthere] at hturn
        cases hturn
    | succ n =>
        rw [if_pos (hbefore k (by omega)), if_neg (by omega)] at hturn
        cases hturn
        exact ⟨n, Nat.lt_succ_self n, ⟨k + 1, hmoved.looked.step, by omega⟩,
          by show guard' + 1 + n = guard + a; omega⟩
  · rintro n ⟨guard', d'⟩ r ⟨⟨k, hmoved, hk⟩, hguard⟩ hturn
    simp only [whileTurn] at hturn
    dsimp only at hguard hmoved
    have hreads : readsLow (window R w) d' = decide ((d.turned + k) % R < (w : Int)) := by
      unfold readsLow window
      rw [hmoved.turned]
    rw [hreads] at hturn
    cases n with
    | zero =>
        rw [Nat.add_zero] at hk hguard
        rw [hk, if_neg hthere] at hturn
        cases hturn
        exact ⟨rfl, hguard, hk ▸ hmoved.looked⟩
    | succ n =>
        rw [if_pos (hbefore k (by omega)), if_neg (by omega)] at hturn
        cases hturn

/-- A drum `p` steps past an edge, some steps further on. -/
theorem place_on {x p : Int} {R : Nat} (hp : x % R = p) {k : Int} (hlow : 0 ≤ p + k)
    (hhigh : p + k < R) : (x + k) % R = p + k := by
  rw [← Int.emod_add_emod, hp]
  exact Int.emod_eq_of_lt hlow hhigh

/-- The same, over the next edge. -/
theorem place_round {x p : Int} {R : Nat} (hp : x % R = p) {k : Int} (hlow : R ≤ p + k)
    (hhigh : p + k < 2 * R) : (x + k) % R = p + k - R := by
  rw [← Int.emod_add_emod, hp, ← Int.sub_emod_right (p + k) R]
  exact Int.emod_eq_of_lt (by omega) (by omega)

/-- From outside the window the edge is `b` steps ahead. -/
theorem toEdge_window (guard : Nat) {R w b : Nat} {p : Int} {d : Drum} (hR : R ≤ 4075) (hw : 0 < w)
    (hplace : d.turned % R = p) (hout : w ≤ p) (hb : p + b = R) (hroom : guard + b ≤ SEEK_LIMIT) :
    ∃ d', toEdge (window R w) guard d = some (.none, d') ∧ Moved b d d' := by
  have hbefore : ∀ k, k < b → decide ((d.turned + (k : Nat)) % R < (w : Int)) = false := by
    intro k hk
    rw [place_on hplace (by omega) (by omega), decide_eq_false_iff_not]
    omega
  have hthere : decide ((d.turned + b) % R < (w : Int)) ≠ false := by
    rw [place_round hplace (by omega) (by omega), hb, Int.sub_self]
    rw [decide_eq_true (by omega : (0 : Int) < w)]
    exact Bool.noConfusion
  obtain ⟨d', hr, hmoved⟩ := stepWhile_changes guard hbefore hthere hroom
  refine ⟨d', ?_, hmoved⟩
  unfold toEdge
  rw [hr]
  rfl

/-- **The first phase ends at an entering edge**, wherever it began. -/
theorem approach_window {R w : Nat} (hR : R ≤ 4075) (hw : 0 < w) (hwR : w + 52 < R) (d : Drum) :
    ∃ n d', approach (window R w) d = some (.none, d') ∧ Moved n d d' ∧ d'.turned % R = 0 := by
  have hlim : SEEK_LIMIT = 6114 := rfl
  obtain ⟨p, hp⟩ : ∃ p : Nat, d.turned % R = p :=
    ⟨(d.turned % R).toNat, (Int.toNat_of_nonneg (Int.emod_nonneg _ (by omega))).symm⟩
  have hpR : (p : Int) < R := hp ▸ Int.emod_lt_of_pos _ (by omega)
  -- after `n` steps the place is `R`
  have hedge {n : Nat} {d' : Drum} (hmoved : Moved n d d') (hn : (p : Int) + n = R) :
      d'.turned % R = 0 := by
    rw [hmoved.turned, place_round hp (by omega) (by omega), hn, Int.sub_self]
  unfold approach
  by_cases hin : p < w
  · have hlow : readsLow (window R w) d = true := by
      rw [readsLow_window, hp]
      omega
    rw [hlow, if_pos rfl]
    obtain ⟨a, ha⟩ : ∃ a, p + a = w := ⟨w - p, by omega⟩
    have hbefore : ∀ k, k < a →
        decide (((looked d).turned + (k : Nat)) % R < (w : Int)) = true := by
      intro k hk
      show decide ((d.turned + k) % R < (w : Int)) = true
      rw [place_on hp (by omega) (by omega), decide_eq_true_iff]
      omega
    have hthere : decide (((looked d).turned + a) % R < (w : Int)) ≠ true := by
      show decide ((d.turned + a) % R < (w : Int)) ≠ true
      rw [place_on hp (by omega) (by omega), ne_eq, decide_eq_true_iff]
      omega
    obtain ⟨d₁, hout, hmoved⟩ := stepWhile_changes 0 hbefore hthere (by omega)
    have hclear : Moved (a + 50) d (stepCounted (ROTATIONDIRECTION * 50) d₁) :=
      hmoved.of_looked.steps 50
    have hplace : (stepCounted (ROTATIONDIRECTION * 50) d₁).turned % R = (w : Int) + 50 := by
      rw [hclear.turned, place_on hp (by omega) (by push_cast; omega)]
      push_cast
      omega
    obtain ⟨d', hto, hmoved'⟩ := toEdge_window (0 + a + 50) (b := R - (w + 50)) hR hw hplace
      (by omega) (by omega) (by omega)
    have hall := hclear.trans hmoved'
    rw [hout]
    exact ⟨_, d', hto, hall, hedge hall (by omega)⟩
  · have hhigh : readsLow (window R w) d = false := by
      rw [← Bool.not_eq_true, readsLow_window, hp]
      omega
    rw [hhigh, if_neg Bool.false_ne_true]
    obtain ⟨d', hto, hmoved⟩ := toEdge_window 0 (d := looked d) (b := R - p) hR hw hp
      (by omega) (by omega) (by omega)
    exact ⟨R - p, d', hto, hmoved.of_looked, hedge hmoved.of_looked (by omega)⟩

/-! ## §8. One revolution. -/

/-- How far round the counts are, `m.measuredSteps` past the edge. -/
inductive Round (R w : Nat) (m : Locals) : Prop where
  | inside (hsteps : m.measuredSteps < w) (hwindow : m.windowSteps = m.measuredSteps + 1)
      (hleft : m.leftWindow = false) (hstreak : m.streak = 0)
  | released (hsteps : m.measuredSteps = w) (hwindow : m.windowSteps = w)
      (hleft : m.leftWindow = false) (hstreak : m.streak = 1)
  | outside (hpast : w < m.measuredSteps) (hsteps : m.measuredSteps < R)
      (hwindow : m.windowSteps = w) (hleft : m.leftWindow = true) (hstreak : m.streak = 0)
  | back (hsteps : m.measuredSteps = R) (hwindow : m.windowSteps = w) (hleft : m.leftWindow = true)
      (hstreak : m.streak = 1)

/-- The pin is read `k` steps past the edge: low in the window, and at the next edge. -/
theorem Round.sampled {R w : Nat} {m : Locals} (h : Round R w m) (hR : w + 1 < R)
    (hsteps : m.measuredSteps < R) (d : Drum) :
    let low := decide (m.measuredSteps + 1 < w ∨ m.measuredSteps + 1 = R)
    let r := MeasuredDrum.sampled low { m with measuredSteps := m.measuredSteps + 1, drum := d }
    r.1 = false ∧ Round R w r.2 := by
  dsimp only
  cases h with
  | inside hk hwindow hleft hstreak =>
      unfold MeasuredDrum.sampled
      dsimp only
      rw [if_pos hleft]
      by_cases hlow : m.measuredSteps + 1 < w
      · rw [decide_eq_true (.inl hlow), if_pos rfl]
        exact ⟨rfl, .inside hlow (by dsimp only; omega) hleft rfl⟩
      · -- the first high reading
        have hhigh : ¬(m.measuredSteps + 1 < w ∨ m.measuredSteps + 1 = R) := by omega
        rw [decide_eq_false hhigh, if_neg Bool.false_ne_true, if_neg (by omega)]
        refine ⟨rfl, .released ?_ ?_ hleft ?_⟩
        · show m.measuredSteps + 1 = w
          omega
        · show m.windowSteps = w
          omega
        · show m.streak + 1 = 1
          omega
  | released hk hwindow hleft hstreak =>
      have hhigh : ¬(m.measuredSteps + 1 < w ∨ m.measuredSteps + 1 = R) := by omega
      unfold MeasuredDrum.sampled
      dsimp only
      rw [if_pos hleft, decide_eq_false hhigh, if_neg Bool.false_ne_true, if_pos (by omega)]
      refine ⟨rfl, .outside ?_ ?_ hwindow rfl rfl⟩
      · show w < m.measuredSteps + 1
        omega
      · show m.measuredSteps + 1 < R
        omega
  | outside hpast hk hwindow hleft hstreak =>
      unfold MeasuredDrum.sampled
      dsimp only
      rw [if_neg (fun hfalse => Bool.noConfusion (hleft.symm.trans hfalse))]
      by_cases hlow : m.measuredSteps + 1 = R
      · -- the first low reading, at the edge
        rw [decide_eq_true (.inr hlow), if_pos rfl]
        refine ⟨?_, .back hlow hwindow hleft ?_⟩
        · show decide (2 ≤ m.streak + 1) = false
          rw [hstreak]
          rfl
        · show m.streak + 1 = 1
          omega
      · have hhigh : ¬(m.measuredSteps + 1 < w ∨ m.measuredSteps + 1 = R) := by omega
        rw [decide_eq_false hhigh, if_neg Bool.false_ne_true]
        refine ⟨rfl, .outside ?_ ?_ hwindow hleft rfl⟩
        · show w < m.measuredSteps + 1
          omega
        · show m.measuredSteps + 1 < R
          omega
  | back hk => omega

/-- A step past the edge the second low reading confirms it. -/
theorem Round.confirmed {R w : Nat} {m : Locals} (h : Round R w m) (hR : w < R)
    (hsteps : m.measuredSteps = R) (d : Drum) :
    let r := MeasuredDrum.sampled true { m with measuredSteps := m.measuredSteps + 1, drum := d }
    r.1 = true ∧ r.2.windowSteps = w := by
  cases h with
  | inside hk => omega
  | released hk => omega
  | outside hpast hk => omega
  | back hk hwindow hleft hstreak =>
      unfold MeasuredDrum.sampled
      dsimp only
      rw [if_neg (fun hfalse => Bool.noConfusion (hleft.symm.trans hfalse)), if_pos rfl]
      refine ⟨?_, hwindow⟩
      show decide (2 ≤ m.streak + 1) = true
      rw [hstreak]
      rfl

/-- What is left of the revolution, from an entering edge. -/
structure Turning (R w : Nat) (d₀ : Drum) (n : Nat) (m : Locals) : Prop where
  left : m.measuredSteps + n = R
  counted : Round R w m
  moved : Moved m.measuredSteps d₀ m.drum

/-- The edge came back after `R` steps, `w` of them low. -/
structure Measured (R w : Nat) (d₀ : Drum) (r : Bool × Locals) : Prop where
  held : r.1 = false
  steps : r.2.measuredSteps = R + 1
  window : r.2.windowSteps = w
  moved : Moved (R + 1) d₀ r.2.drum

theorem turn_reads {R w n : Nat} {d₀ : Drum} {m : Locals} (h : Turning R w d₀ n m)
    (hedge : d₀.turned % R = 0) (hw : 2 ≤ w) (hwR : w + 1 < R) :
    readsLow (window R w) (stepCounted (ROTATIONDIRECTION * 1) m.drum) =
      if m.measuredSteps = R then true
      else decide (m.measuredSteps + 1 < w ∨ m.measuredSteps + 1 = R) := by
  have hleft := h.left
  unfold readsLow window
  rw [h.moved.step.turned]
  push_cast
  by_cases hback : m.measuredSteps = R
  · rw [if_pos hback, place_round hedge (by omega) (by omega), decide_eq_true_iff]
    omega
  · rw [if_neg hback]
    by_cases hlast : m.measuredSteps + 1 = R
    · rw [place_round hedge (by omega) (by omega), decide_eq_decide]
      omega
    · rw [place_on hedge (by omega) (by omega), decide_eq_decide]
      omega

theorem Turning.next {R w n : Nat} {d₀ : Drum} {m : Locals} (h : Turning R w d₀ (n + 1) m)
    (hedge : d₀.turned % R = 0) (hR : R ≤ 4075) (hw : 2 ≤ w) (hwR : w + 1 < R) :
    ∃ m', measureTurn (window R w) m = .inl m' ∧ Turning R w d₀ n m' := by
  have hleft := h.left
  rw [measureTurn_sampled _ (by omega)]
  dsimp only
  rw [turn_reads h hedge hw hwR, if_neg (show m.measuredSteps ≠ R by omega)]
  obtain ⟨hgoes, hround⟩ := h.counted.sampled hwR (by omega)
    (looked (stepCounted (ROTATIONDIRECTION * 1) m.drum))
  rw [if_neg (fun hback => Bool.noConfusion (hgoes.symm.trans hback))]
  refine ⟨_, rfl, ?_, hround, ?_⟩
  · rw [sampled_measuredSteps]
    show m.measuredSteps + 1 + n = R
    omega
  · rw [sampled_measuredSteps, sampled_drum]
    exact h.moved.step.looked

theorem Turning.last {R w : Nat} {d₀ : Drum} {m : Locals} (h : Turning R w d₀ 0 m)
    (hedge : d₀.turned % R = 0) (hR : R ≤ 4075) (hw : 2 ≤ w) (hwR : w + 1 < R) :
    ∃ r, measureTurn (window R w) m = .inr r ∧ Measured R w d₀ r := by
  have hleft : m.measuredSteps = R := h.left
  rw [measureTurn_sampled _ (by omega)]
  dsimp only
  rw [turn_reads h hedge hw hwR, if_pos hleft]
  obtain ⟨hends, hwindow⟩ := h.counted.confirmed (by omega) hleft
    (looked (stepCounted (ROTATIONDIRECTION * 1) m.drum))
  rw [if_pos hends]
  refine ⟨_, rfl, rfl, ?_, hwindow, ?_⟩
  · rw [sampled_measuredSteps]
    show m.measuredSteps + 1 = R + 1
    omega
  · rw [sampled_drum, ← hleft]
    exact h.moved.step.looked

/-- **The second phase measures the revolution and the window.** -/
theorem measure_window {R w : Nat} {d : Drum} (hedge : d.turned % R = 0) (hR : R ≤ 4075)
    (hw : 2 ≤ w) (hwR : w + 1 < R) :
    ∃ r, measure (window R w) d = some r ∧
      Measured R w { d with drift := driftMarkSynced d.drift } r := by
  refine loop_spec (n := R) (I := Turning R w { d with drift := driftMarkSynced d.drift })
    ?_ ?_ ⟨Nat.zero_add R, .inside (by dsimp only; omega) rfl rfl rfl, Moved.refl _⟩ (by omega)
  · intro n m m' h hturn
    cases n with
    | zero =>
        obtain ⟨r, hr, -⟩ := h.last hedge hR hw hwR
        rw [hr] at hturn
        cases hturn
    | succ n =>
        obtain ⟨m₁, hm₁, hnext⟩ := h.next hedge hR hw hwR
        rw [hm₁] at hturn
        cases hturn
        exact ⟨n, Nat.lt_succ_self n, hnext⟩
  · intro n m r h hturn
    cases n with
    | zero =>
        obtain ⟨r₁, hr, hmeasured⟩ := h.last hedge hR hw hwR
        rw [hr] at hturn
        cases hturn
        exact hmeasured
    | succ n =>
        obtain ⟨m₁, hm₁, -⟩ := h.next hedge hR hw hwR
        rw [hm₁] at hturn
        cases hturn

/-! ## §9. The whole test. -/

/-- The test passed with the drum's own numbers, and left it homed at its zero. -/
structure PassedWith (R w : Nat) (s s' : Tester) : Prop where
  ok : s'.selfTest.state = .ok
  stepsPerRev : s'.selfTest.stepsPerRev.toNat = R
  hallWindowSteps : s'.selfTest.hallWindowSteps.toNat = w
  homed : s'.drum.homed = true
  /-- No further than a step past `calOffset` steps from an entering edge. -/
  parked : (s'.drum.turned - s.drum.calOffset.toInt) % R ≤ 1

structure FailedWith (reason : SelfTestReason) (s' : Tester) : Prop where
  failed : s'.selfTest.state = .failed
  reason : s'.selfTest.reason = reason

/-- What the unit keeps for life. -/
def SameRecord (s s' : Tester) : Prop :=
  s'.record = s.record ∧ s'.drum.lifetime = s.drum.lifetime

theorem runSelfTest_fails {reason : SelfTestReason} {d' : Drum} (t : Times) {s : Tester}
    (happroach : approach pin (begun s).drum = some (reason, d')) (hreason : reason ≠ .none) :
    runSelfTest pin t s = some (ended t (failed t reason 0 d' (begun s))) := by
  unfold runSelfTest
  dsimp only
  rw [happroach]
  exact if_pos hreason

theorem runSelfTest_measures {d' : Drum} {r : Bool × Locals} (t : Times) {s : Tester}
    (happroach : approach pin (begun s).drum = some (.none, d'))
    (hmeasure : measure pin d' = some r) :
    runSelfTest pin t s = some (ended t
      (if r.1 then failed t .revIncomplete (UInt16.ofNat r.2.windowSteps) r.2.drum (begun s)
        else passed t r.2 (begun s))) := by
  unfold runSelfTest
  dsimp only
  rw [happroach, Option.bind_some]
  dsimp only
  rw [if_neg (fun hne => hne rfl), hmeasure]
  rfl

theorem ended_failed_record (t : Times) (reason : SelfTestReason) (hallWindowSteps : UInt16)
    {d : Drum} {s : Tester} (h : d.lifetime = s.drum.lifetime) :
    SameRecord s (ended t (failed t reason hallWindowSteps d (begun s))) := by
  refine ⟨?_, h⟩
  have hfailed : SelfTestState.failed ≠ .ok := by decide
  unfold ended failed
  dsimp only
  rw [if_neg hfailed]
  rfl

theorem runSelfTest_window {R w : Nat} (t : Times) (s : Tester) (hR : R ≤ 4075) (hw : 2 ≤ w)
    (hwR : w + 52 < R) : ∃ s', runSelfTest (window R w) t s = some s' ∧ PassedWith R w s s' := by
  obtain ⟨n, d', happroach, hmoved, hedge⟩ := approach_window hR (by omega) hwR (begun s).drum
  obtain ⟨⟨gaveUp, m⟩, hmeasure, hmeasured⟩ := measure_window hedge hR hw (by omega)
  have hheld := hmeasured.held
  have hsteps := hmeasured.steps
  have hwindow := hmeasured.window
  have hround := hmeasured.moved
  dsimp only at hheld hsteps hwindow hround
  subst hheld
  have hoffset : m.drum.calOffset = s.drum.calOffset :=
    hround.calOffset.trans hmoved.calOffset
  refine ⟨_, runSelfTest_measures (window R w) t happroach hmeasure, rfl, ?_, ?_, rfl, ?_⟩
  · show (UInt16.ofNat (m.measuredSteps - 1)).toNat = R
    rw [hsteps, UInt16.toNat_ofNat']
    omega
  · show (UInt16.ofNat m.windowSteps).toNat = w
    rw [hwindow, UInt16.toNat_ofNat']
    omega
  · show (m.drum.turned + 1 * m.drum.calOffset.toInt * 1 - s.drum.calOffset.toInt) % R ≤ 1
    have hturned : m.drum.turned = d'.turned + (R + 1 : Nat) := hround.turned
    rw [hoffset, hturned]
    have hone : d'.turned + (R + 1 : Nat) + 1 * s.drum.calOffset.toInt * 1 - s.drum.calOffset.toInt
        = d'.turned + ((R : Int) + 1) := by
      push_cast
      omega
    rw [hone, place_round hedge (by omega) (by omega)]
    omega

/-- **The self-test measures the drum**: a drum that turns true ends it with its
own numbers, a pin that never changes with the reason, and whatever the pin reads
it ends, with the unit's record changed by a test that passed only. -/
theorem self_test_measures (t : Times) (s : Tester) :
    (∀ R w : Nat, 1000 ≤ R → R ≤ 4075 → 2 ≤ w → w < R - 52 →
      ∃ s', runSelfTest (window R w) t s = some s' ∧ PassedWith R w s s') ∧
    (∀ pin : Pin, (∀ n x, pin n x = false) →
      ∃ s', runSelfTest pin t s = some s' ∧ FailedWith .hallNever s') ∧
    (∀ pin : Pin, (∀ n x, pin n x = true) →
      ∃ s', runSelfTest pin t s = some s' ∧ FailedWith .hallStuck s') ∧
    ∀ pin : Pin, ∃ s', runSelfTest pin t s = some s' ∧
      (s'.selfTest.state = .ok ∨ s'.selfTest.state = .failed) ∧
      (s'.selfTest.state ≠ .ok → SameRecord s s') := by
  refine ⟨?_, ?_, ?_, ?_⟩
  · intro R w _ hR hw hwR
    exact runSelfTest_window t s hR hw (by omega)
  · intro pin hpin
    obtain ⟨d', happroach⟩ := approach_never pin hpin (begun s).drum
    exact ⟨_, runSelfTest_fails pin t happroach (by decide), rfl, rfl⟩
  · intro pin hpin
    obtain ⟨d', happroach⟩ := approach_stuck pin hpin (begun s).drum
    exact ⟨_, runSelfTest_fails pin t happroach (by decide), rfl, rfl⟩
  · intro pin
    obtain ⟨reason, d', happroach, hwent⟩ := approach_returns pin (begun s).drum
    by_cases hreason : reason = .none
    · subst hreason
      obtain ⟨⟨gaveUp, m⟩, hmeasure, hlife⟩ := measure_returns pin hwent
      refine ⟨_, runSelfTest_measures pin t happroach hmeasure, ?_⟩
      cases gaveUp with
      | true => exact ⟨.inr rfl, fun _ => ended_failed_record t _ _ hlife⟩
      | false => exact ⟨.inl rfl, fun hne => absurd rfl hne⟩
    · exact ⟨_, runSelfTest_fails pin t happroach hreason, .inr rfl,
        fun _ => ended_failed_record t _ _ hwent.choose_spec.lifetime⟩

/-- The drums of the wall: 2038 steps, the pin low on 46 of them. -/
theorem self_test_measures_2038 :
    ∃ s', runSelfTest (window 2038 46) ⟨0, 5000, 5100⟩ { drum := { turned := 30 } } = some s' ∧
      PassedWith 2038 46 { drum := { turned := 30 } } s' :=
  (self_test_measures ⟨0, 5000, 5100⟩ { drum := { turned := 30 } }).1 2038 46 (by omega) (by omega)
    (by omega) (by omega)

end SplitFlap.MeasuredDrum
