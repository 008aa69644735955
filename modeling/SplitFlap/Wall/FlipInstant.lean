/-
  SplitFlap.Wall.FlipInstant — when a row board flips to the text it was given.

  The master names an instant in Unix milliseconds, a step later for each board
  of the table.  A row board (`FollowerCluster.cpp`) makes its own Unix
  milliseconds out of the second its clock is in and the last three digits of
  `millis()`, which started when the board did.  The two have nothing to do with
  each other: the flip is late or early by how far they are apart.
-/
import SplitFlap.Lib.Clock
import SplitFlap.Wall.Show

namespace SplitFlap.FlipInstant

open Clock

/-! ## §1. The row board. -/

inductive ClusterFollowerPhase where
  | standalone | clustered | grace | leaderLost
  deriving DecidableEq

inductive ClusterRenderVerdict where
  | apply | duplicate | notClustered
  deriving DecidableEq

structure ClusterFollowerState where
  phase : ClusterFollowerPhase := .standalone
  epoch : UInt32 := 0
  haveEpoch : Bool := false
  lastSeq : UInt32 := 0
  lastContactMs : UInt32 := 0

def clusterFollowerAcceptRender (st : ClusterFollowerState) (nowMs epoch seq : UInt32) :
    ClusterRenderVerdict × ClusterFollowerState :=
  if st.phase = .standalone then (.notClustered, st)
  else
    let st := { st with phase := .clustered, lastContactMs := nowMs }
    if st.haveEpoch ∧ epoch = st.epoch ∧ seq ≤ st.lastSeq then (.duplicate, st)
    else (.apply, { st with epoch, haveEpoch := true, lastSeq := seq })

/-- `nowEpochMs`, from `time()` and `millis()`, and whether the clock was set. -/
def nowEpochMs (time : UInt64) (millis : UInt32) : UInt64 × Bool :=
  (time * 1000 + (millis % 1000).toUInt64, 1000000000 < time)

/-- What a row board keeps of the text it was given. -/
structure Row where
  policyState : ClusterFollowerState := {}
  heldSpeed : Int32 := 80
  renderPending : Bool := false
  renderText : CStr := []
  renderSpeed : Int32 := 80
  renderDueMs : UInt32 := 0

def clusterHandleRender (time : UInt64) (millis epoch seq : UInt32) (text : CStr) (speed : Int32)
    (commitAtMs : UInt64) (r : Row) : ClusterRenderVerdict × Row :=
  let (verdict, policyState) := clusterFollowerAcceptRender r.policyState millis epoch seq
  let r := { r with policyState }
  if verdict = .apply then
    let (nowMs, synced) := nowEpochMs time millis
    (verdict, { r with
      heldSpeed := speed
      renderText := text
      renderSpeed := speed
      renderDueMs := millis + clusterRenderDelayMs commitAtMs nowMs synced
      renderPending := true })
  else (verdict, r)

/-- `clusterLoopTick` looks at the counter. -/
def renderDue (millis : UInt32) (r : Row) : Bool := r.renderPending && reached millis r.renderDueMs

/-! ## §2. A render, in true time. -/

/-- A Show as it reaches a row board that will take it: the true instant in Unix milliseconds,
what the board's counter reads in it, and the board. -/
structure Arrival where
  instant : Nat
  millis : UInt32
  epoch : UInt32
  seq : UInt32
  text : CStr
  speed : Int32
  row : Row
  fits : instant < 2 ^ 63
  taken : (clusterFollowerAcceptRender row.policyState millis epoch seq).1 = .apply

namespace Arrival

/-- The board has the second right. -/
def time (a : Arrival) : UInt64 := UInt64.ofNat (a.instant / 1000)

/-- The counter at a later instant. -/
def counter (a : Arrival) (instant : Nat) : UInt32 := a.millis + reading (instant - a.instant)

/-- The board once the Show is handled. -/
def rendered (a : Arrival) (commitAtMs : UInt64) : Row :=
  (clusterHandleRender a.time a.millis a.epoch a.seq a.text a.speed commitAtMs a.row).2

/-- The instant at which the counter reads `renderDueMs`. -/
def flips (a : Arrival) (commitAtMs : UInt64) : Nat :=
  a.instant + ((a.rendered commitAtMs).renderDueMs - a.millis).toNat

/-- How long before the named instant the Show is there. -/
def lead (a : Arrival) (commitAtMs : UInt64) : Int := commitAtMs.toNat - a.instant

/-- The counter's place in its thousand, less that of the true time in its second. -/
def skew (a : Arrival) : Int := (a.millis.toNat % 1000 : Nat) - (a.instant % 1000 : Nat)

def synced (a : Arrival) : Bool := 1000000000 < a.instant / 1000

end Arrival

/-! ## §3. When the row flips. -/

section Instant

variable {a : Arrival} {commitAtMs : UInt64}

theorem Arrival.time_toNat (a : Arrival) : a.time.toNat = a.instant / 1000 := by
  have hfits := a.fits
  show (UInt64.ofNat (a.instant / 1000)).toNat = _
  rw [UInt64.toNat_ofNat']
  omega

/-- The milliseconds the board makes: the second's, and the counter's. -/
theorem Arrival.nowEpochMs_toNat (a : Arrival) : (nowEpochMs a.time a.millis).1.toNat =
    a.instant / 1000 * 1000 + a.millis.toNat % 1000 := by
  have hfits := a.fits
  have htime := a.time_toNat
  have hmillis : (a.millis % 1000).toUInt64.toNat = a.millis.toNat % 1000 := by
    rw [UInt32.toNat_toUInt64, UInt32.toNat_mod]
    rfl
  show (a.time * 1000 + (a.millis % 1000).toUInt64).toNat = _
  rw [UInt64.toNat_add, UInt64.toNat_mul, hmillis, htime,
    show (1000 : UInt64).toNat = 1000 from rfl]
  omega

theorem Arrival.synced_iff (a : Arrival) : (nowEpochMs a.time a.millis).2 = a.synced := by
  have htime := a.time_toNat
  show decide ((1000000000 : UInt64) < a.time) = decide (1000000000 < a.instant / 1000)
  rw [decide_eq_decide, UInt64.lt_iff_toNat_lt, htime]
  rfl

/-- What the board waits. -/
def Arrival.delay (a : Arrival) (commitAtMs : UInt64) : UInt32 :=
  clusterRenderDelayMs commitAtMs (nowEpochMs a.time a.millis).1 (nowEpochMs a.time a.millis).2

theorem Arrival.rendered_due (a : Arrival) (commitAtMs : UInt64) :
    (a.rendered commitAtMs).renderDueMs = a.millis + a.delay commitAtMs ∧
      (a.rendered commitAtMs).renderPending = true := by
  have htaken := a.taken
  unfold Arrival.rendered clusterHandleRender
  dsimp only
  rw [if_pos htaken]
  exact ⟨rfl, rfl⟩

theorem Arrival.flips_eq (a : Arrival) (commitAtMs : UInt64) :
    a.flips commitAtMs = a.instant + (a.delay commitAtMs).toNat := by
  unfold Arrival.flips
  rw [(a.rendered_due commitAtMs).1, UInt32.add_comm, UInt32.add_sub_cancel]

theorem min_toNat (x y : UInt64) : (min x y).toNat = min x.toNat y.toNat := by
  show (if x ≤ y then x else y).toNat = _
  split
  · rename_i hle
    rw [UInt64.le_iff_toNat_le] at hle
    omega
  · rename_i hle
    rw [UInt64.le_iff_toNat_le] at hle
    omega

/-- The wait, in numbers. -/
theorem Arrival.delay_toNat (a : Arrival) (commitAtMs : UInt64) :
    (a.delay commitAtMs).toNat =
      if a.synced = false ∨
          commitAtMs.toNat ≤ a.instant / 1000 * 1000 + a.millis.toNat % 1000 then 0
      else min (commitAtMs.toNat - (a.instant / 1000 * 1000 + a.millis.toNat % 1000)) 5000 := by
  have hnow := a.nowEpochMs_toNat
  have hmax : CLUSTER_COMMIT_MAX_DELAY_MS.toNat = 5000 := rfl
  unfold Arrival.delay clusterRenderDelayMs
  rw [a.synced_iff]
  by_cases hwait : a.synced = false ∨ commitAtMs ≤ (nowEpochMs a.time a.millis).1
  · have hwait' := hwait
    rw [UInt64.le_iff_toNat_le, hnow] at hwait'
    rw [if_pos hwait, if_pos hwait']
    rfl
  · have hwait' := hwait
    rw [UInt64.le_iff_toNat_le, hnow] at hwait'
    rw [if_neg hwait, if_neg hwait', UInt64.toNat_toUInt32]
    rw [not_or, UInt64.not_le] at hwait
    have hdiff := UInt64.toNat_sub_of_le _ _ (UInt64.le_of_lt hwait.2)
    rw [hnow] at hdiff
    rw [min_toNat, hdiff, hmax]
    omega

theorem Arrival.delay_le (a : Arrival) (commitAtMs : UInt64) :
    (a.delay commitAtMs).toNat ≤ 5000 := by
  rw [a.delay_toNat]
  split
  · omega
  · exact Nat.min_le_right _ _

/-- **The board looks, and is due from that instant on**, for half a round of its counter. -/
theorem Arrival.due_iff {instant : Nat} (hlater : a.instant ≤ instant)
    (hnear : instant < a.instant + 2 ^ 31) :
    renderDue (a.counter instant) (a.rendered commitAtMs) = true ↔
      a.flips commitAtMs ≤ instant := by
  obtain ⟨hdue, hpending⟩ := a.rendered_due commitAtMs
  have hmillis : a.millis = reading a.millis.toNat := (UInt32.ofNat_toNat).symm
  have hcounter : a.counter instant = reading (a.millis.toNat + (instant - a.instant)) := by
    have hround : (reading (instant - a.instant)).toNat = instant - a.instant := by
      rw [reading_toNat]
      omega
    unfold Arrival.counter
    conv_lhs => rw [hmillis]
    rw [reading_add, hround]
  unfold renderDue
  rw [hpending, Bool.true_and, hdue, hcounter, a.flips_eq]
  have hdelay := a.delay_le commitAtMs
  conv_lhs => rw [show a.millis + a.delay commitAtMs
    = reading a.millis.toNat + a.delay commitAtMs from congrArg (· + _) hmillis]
  constructor
  · intro hreached
    have hpassed := reached_passed (Nat.le_add_right _ _) (by omega) hreached
    omega
  · intro hpassed
    exact reached_of_passed (by omega) (by omega)

end Instant

/-! ## §4. On time. -/

/-- The row flips within a millisecond of the instant it was given. -/
def OnTime (a : Arrival) (commitAtMs : UInt64) : Prop :=
  ((a.flips commitAtMs : Int) - commitAtMs.toNat).natAbs ≤ 1

/-- The counter's thousands fall on the seconds; or the wait is next to none and the counter is
ahead, or next to all a row waits and the counter is behind.  A board that has no time yet flips on
arrival. -/
def InPhase (a : Arrival) (commitAtMs : UInt64) : Prop :=
  (a.synced = true ∧ a.skew.natAbs ≤ 1) ∨
    (a.lead commitAtMs ≤ 1 ∧ (a.synced = false ∨ 0 ≤ a.skew)) ∨
    (a.synced = true ∧ 4999 ≤ a.lead commitAtMs ∧ a.skew ≤ 0)

/-- **One board.** -/
theorem onTime_iff {a : Arrival} {commitAtMs : UInt64} (hahead : a.instant ≤ commitAtMs.toNat)
    (hwait : commitAtMs.toNat ≤ a.instant + 5000) :
    OnTime a commitAtMs ↔ InPhase a commitAtMs := by
  have hdelay := a.delay_toNat commitAtMs
  unfold OnTime InPhase Arrival.skew Arrival.lead
  rw [a.flips_eq]
  cases hsynced : a.synced with
  | false =>
      rw [if_pos (.inl hsynced)] at hdelay
      rw [hdelay]
      simp only [Bool.false_eq_true, false_and, true_or, and_true, false_or, or_false]
      omega
  | true =>
      simp only [Bool.true_eq_false, false_or, true_and]
      by_cases hlate : commitAtMs.toNat ≤ a.instant / 1000 * 1000 + a.millis.toNat % 1000
      · rw [if_pos (.inr hlate)] at hdelay
        rw [hdelay]
        omega
      · rw [if_neg (by rw [hsynced]; tauto)] at hdelay
        rw [hdelay]
        omega

/-! ## §5. The wall. -/

/-- A text for the wall: each row board that is given it with its place in the table, and the
Show there no more than `CLUSTER_COMMIT_MAX_DELAY_MS` before its instant. -/
structure WallFlip where
  commitAtMs : UInt64
  named : commitAtMs ≠ 0
  fits : commitAtMs.toNat < 2 ^ 63
  boards : List (RowIx × Arrival)
  ahead : ∀ b ∈ boards, b.2.instant ≤ (wallRowFlipAtMs commitAtMs b.1).toNat
  within : ∀ b ∈ boards, (wallRowFlipAtMs commitAtMs b.1).toNat ≤ b.2.instant + 5000

/-- Every board flips at its instant, and two of them as far apart as the table has them. -/
def FlipsInOrder (w : WallFlip) : Prop :=
  (∀ b ∈ w.boards, OnTime b.2 (wallRowFlipAtMs w.commitAtMs b.1)) ∧
    ∀ b ∈ w.boards, ∀ d ∈ w.boards, b.1 < d.1 →
      ((d.2.flips (wallRowFlipAtMs w.commitAtMs d.1) : Int) -
        b.2.flips (wallRowFlipAtMs w.commitAtMs b.1) -
          (d.1.val - b.1.val : Int) * 150).natAbs ≤ 2

theorem wallRowFlipAtMs_toNat {commitAtMs : UInt64} (hnamed : commitAtMs ≠ 0)
    (hfits : commitAtMs.toNat < 2 ^ 63) (i : RowIx) :
    (wallRowFlipAtMs commitAtMs i).toNat = commitAtMs.toNat + i.val * 150 := by
  have hrow := i.isLt
  have hmost : WALL_LINK_MAX_ROWS = 8 := rfl
  unfold wallRowFlipAtMs
  by_cases hfirst : i = 0
  · rw [if_pos (.inr hfirst), hfirst]
    rfl
  · rw [if_neg (by tauto), UInt64.toNat_add, UInt64.toNat_mul,
      show WALL_ROW_STAGGER_MS.toNat = 150 from rfl]
    have hindex : i.val.toUInt64.toNat = i.val := by
      show (UInt64.ofNat i.val).toNat = _
      rw [UInt64.toNat_ofNat']
      omega
    rw [hindex]
    omega

/-- **A synced row flips at the named instant**, if and only if its counter is in phase. -/
theorem flips_in_order_iff (w : WallFlip) :
    FlipsInOrder w ↔ ∀ b ∈ w.boards, InPhase b.2 (wallRowFlipAtMs w.commitAtMs b.1) := by
  constructor
  · intro h b hb
    exact (onTime_iff (w.ahead b hb) (w.within b hb)).mp (h.1 b hb)
  · intro h
    have hontime : ∀ b ∈ w.boards, OnTime b.2 (wallRowFlipAtMs w.commitAtMs b.1) :=
      fun b hb => (onTime_iff (w.ahead b hb) (w.within b hb)).mpr (h b hb)
    refine ⟨hontime, fun b hb d hd _ => ?_⟩
    have hfirst := hontime b hb
    have hsecond := hontime d hd
    unfold OnTime at hfirst hsecond
    rw [wallRowFlipAtMs_toNat w.named w.fits] at hfirst hsecond
    push_cast at hfirst hsecond
    omega

/-- A paired board, half a second into its counter's thousand as a second begins. -/
def halfSecondOff : Arrival where
  instant := 1791223510000
  millis := 500
  epoch := 7
  seq := 1
  text := ascii "HI"
  speed := 80
  row := { policyState := { phase := .clustered } }
  fits := by decide
  taken := by decide

/-- Text that is to show now: named 400 ms ahead. -/
def nowOnHalfSecondOff : WallFlip where
  commitAtMs := wallCommitAtMs 1791223510000 true
  named := by decide
  fits := by decide
  boards := [(0, halfSecondOff)]
  ahead := by decide
  within := by decide

/-- It has passed already by the board's reckoning, and the row flips 400 ms early. -/
theorem flips_on_arrival : ¬FlipsInOrder nowOnHalfSecondOff := by
  intro h
  have hontime := h.1 (0, halfSecondOff) (List.mem_singleton.mpr rfl)
  revert hontime
  unfold OnTime
  decide

end SplitFlap.FlipInstant
