/-
  SplitFlap.Board.BootGuard — three crashes in a row start the rescue image.

  The count is a record in RAM that a reset keeps.  Each boot adds its own reset to it
  and decides; a boot that runs for half an hour forgives; so does a power-on, a record
  that was lost, and a start of the rescue image.  What happened on a board is a list,
  and the count there (`crashesInARow`) knows nothing of the record.

  Main result: `rescue_after_three_crashes`.
-/
import Mathlib.Algebra.Group.Nat.Defs
import SplitFlap.Lib.Clock
import SplitFlap.Lib.KeptCount
import SplitFlap.Lib.Log
import SplitFlap.Lib.Machine

namespace SplitFlap.BootGuard

open SplitFlap.Clock SplitFlap.Log SplitFlap.Machine

abbrev BOOT_GUARD_MAGIC : UInt32 := 0x44524742
abbrev BOOT_GUARD_CRASH_LIMIT : UInt8 := 3
abbrev BOOT_GUARD_HEALTHY_MS : UInt32 := 1800000

/-! ## §1. The rules. -/

/-- What `esp_reset_reason` answers. -/
abbrev CRASH_RESET_POWERON : Int := 1
abbrev CRASH_RESET_PANIC : Int := 4
abbrev CRASH_RESET_INT_WDT : Int := 5
abbrev CRASH_RESET_TASK_WDT : Int := 6
abbrev CRASH_RESET_WDT : Int := 7
abbrev CRASH_RESET_CPU_LOCKUP : Int := 15

def bootGuardEncode (crashes : UInt8) : KeptCount := KeptCount.encode BOOT_GUARD_MAGIC crashes

def bootGuardDecode (r : KeptCount) : UInt8 := KeptCount.decode BOOT_GUARD_MAGIC r

def bootGuardCountsAsCrash (resetReason : Int) : Bool :=
  resetReason = CRASH_RESET_PANIC || resetReason = CRASH_RESET_INT_WDT ||
    resetReason = CRASH_RESET_TASK_WDT || resetReason = CRASH_RESET_WDT ||
    resetReason = CRASH_RESET_CPU_LOCKUP

def bootGuardStep (crashes : UInt8) (resetReason : Int) : UInt8 :=
  if resetReason = CRASH_RESET_POWERON then 0
  else if !bootGuardCountsAsCrash resetReason then crashes
  else if crashes = 255 then crashes
  else crashes + 1

def bootGuardShouldTrip (crashes : UInt8) : Bool := crashes ≥ BOOT_GUARD_CRASH_LIMIT

def bootGuardHealthy (uptimeMs : UInt32) : Bool := uptimeMs ≥ BOOT_GUARD_HEALTHY_MS

/-! ## §2. A board and its boots. -/

/-- A reset and the boot after it: why, and what the board answers when the limit is reached. -/
structure Boot where
  reason : Int
  verified : Bool
  armed : Bool
  saved : Bool

/-- What happened on a board.  `lost` is RAM that held something else when a boot looked. -/
inductive Happening where
  | lost (memory : KeptCount)
  | reset (boot : Boot) (tripped : Bool)
  | healthy (uptime : Nat)

/-- `tripped`: the board is on its way into the rescue image.  `story` is read by no function. -/
structure Guard where
  guardRecord : KeptCount
  crashesNow : UInt8 := 0
  forgiven : Bool := false
  trips : UInt32 := 0
  tripped : Bool := false
  uptime : Nat := 0
  story : List Happening := []

inductive Event where
  | lose (memory : KeptCount)
  | reset (boot : Boot)
  | tick (uptime : Nat)

namespace Guard

/-- Does this boot restart into the rescue image? -/
def trips? (crashes : UInt8) (boot : Boot) : Bool :=
  bootGuardShouldTrip crashes && boot.verified && boot.armed

/-- `bootGuardBoot`; the flag of `bootGuardTick` is new with every boot. -/
def bootGuardBoot (boot : Boot) (s : Guard) : Guard :=
  let crashes := bootGuardStep (bootGuardDecode s.guardRecord) boot.reason
  let trip := trips? crashes boot
  { s with
    guardRecord := bootGuardEncode (if trip then 0 else crashes)
    crashesNow := crashes
    forgiven := false
    trips := if trip && boot.saved then s.trips + 1 else s.trips
    tripped := trip
    uptime := 0
    story := s.story ++ [.reset boot trip] }

def bootGuardTick (uptime : Nat) (s : Guard) : Guard :=
  if s.forgiven || !bootGuardHealthy (reading uptime) then { s with uptime := uptime }
  else
    { s with
      guardRecord := bootGuardEncode 0
      crashesNow := 0
      forgiven := true
      uptime := uptime
      story := s.story ++ [.healthy uptime] }

/-- A board on its way into the rescue image ticks no more. -/
def step (s : Guard) : Event → Option Guard
  | .lose memory => some { s with guardRecord := memory, story := s.story ++ [.lost memory] }
  | .reset boot => some (s.bootGuardBoot boot)
  | .tick uptime =>
      if s.tripped = false ∧ s.uptime ≤ uptime then some (s.bootGuardTick uptime) else none

end Guard

/-! ## §3. The count of a story. -/

/-- Crashes since the last time there were none, after a reset. -/
def afterReset (crashes : Nat) (reason : Int) : Nat :=
  if reason = CRASH_RESET_POWERON then 0
  else if bootGuardCountsAsCrash reason then crashes + 1
  else crashes

def Happening.count (crashes : Nat) : Happening → Nat
  | .lost memory => (bootGuardDecode memory).toNat
  | .reset boot tripped => if tripped then 0 else afterReset crashes boot.reason
  | .healthy _ => 0

def crashesInARow (story : List Happening) : Nat := story.foldl Happening.count 0

theorem crashesInARow_snoc (story : List Happening) (h : Happening) :
    crashesInARow (story ++ [h]) = h.count (crashesInARow story) := by
  unfold crashesInARow
  rw [List.foldl_append]
  rfl

/-- The record's count is the story's, as far as a byte goes. -/
theorem bootGuardStep_toNat {crashes : UInt8} {n : Nat} (h : crashes.toNat = min n 255)
    (reason : Int) : (bootGuardStep crashes reason).toNat = min (afterReset n reason) 255 := by
  unfold bootGuardStep afterReset
  by_cases hpower : reason = CRASH_RESET_POWERON
  · rw [if_pos hpower, if_pos hpower]
    rfl
  · rw [if_neg hpower, if_neg hpower]
    cases hcrash : bootGuardCountsAsCrash reason with
    | false =>
        simp only [Bool.not_false, if_true, Bool.false_eq_true, if_false]
        exact h
    | true =>
        simp only [Bool.not_true, Bool.false_eq_true, if_false, if_true]
        by_cases hfull : crashes = 255
        · rw [if_pos hfull, h]
          rw [hfull] at h
          have h255 : (255 : UInt8).toNat = 255 := rfl
          omega
        · have hne : crashes.toNat ≠ 255 := fun heq => hfull (UInt8.toNat_inj.mp heq)
          have hone : (1 : UInt8).toNat = 1 := rfl
          rw [if_neg hfull, UInt8.toNat_add, hone, h]
          omega

theorem bootGuardShouldTrip_iff {crashes : UInt8} {n : Nat} (h : crashes.toNat = min n 255) :
    bootGuardShouldTrip crashes = true ↔ 3 ≤ n := by
  unfold bootGuardShouldTrip
  rw [decide_eq_true_eq, ge_iff_le, UInt8.le_iff_toNat_le, h]
  have hlimit : BOOT_GUARD_CRASH_LIMIT.toNat = 3 := rfl
  omega

/-! ## §4. Runs. -/

/-- What a happening says of what was before it. -/
def Happening.Fits (before : List Happening) : Happening → Prop
  | .lost _ => True
  | .reset boot tripped =>
      tripped = true ↔
        3 ≤ afterReset (crashesInARow before) boot.reason ∧ boot.verified = true ∧
          boot.armed = true
  | .healthy uptime => 30 * 60 * 1000 ≤ uptime

def Happening.savedTrip : Happening → Bool
  | .lost _ => false
  | .reset boot tripped => tripped && boot.saved
  | .healthy _ => false

/-- The record is the story's count, and every happening of the story fits. -/
structure Counts (s : Guard) : Prop where
  record : (bootGuardDecode s.guardRecord).toNat = min (crashesInARow s.story) 255
  fits : Each (fun before h => h.Fits before) s.story
  trips : s.trips = UInt32.ofNat (s.story.countP Happening.savedTrip)

theorem trips_snoc {trips : UInt32} {story : List Happening}
    (h : trips = UInt32.ofNat (story.countP Happening.savedTrip)) (last : Happening) :
    (if last.savedTrip then trips + 1 else trips) =
      UInt32.ofNat ((story ++ [last]).countP Happening.savedTrip) := by
  rw [List.countP_append, List.countP_singleton, h]
  split
  · rw [UInt32.ofNat_add]
    rfl
  · rfl

theorem Counts.step {s : Guard} (h : Counts s) {e : Event} {s' : Guard}
    (hstep : s.step e = some s') : Counts s' := by
  cases e with
  | lose memory =>
      rw [← Option.some.inj hstep]
      refine ⟨?_, each_snoc.mpr ⟨h.fits, trivial⟩, trips_snoc h.trips (.lost memory)⟩
      rw [crashesInARow_snoc]
      have hbyte := (bootGuardDecode memory).toNat_lt
      show (bootGuardDecode memory).toNat = min (bootGuardDecode memory).toNat 255
      omega
  | reset boot =>
      rw [← Option.some.inj hstep]
      have hcrashes := bootGuardStep_toNat h.record boot.reason
      have htrip : Guard.trips? (bootGuardStep (bootGuardDecode s.guardRecord) boot.reason) boot =
          true ↔ 3 ≤ afterReset (crashesInARow s.story) boot.reason ∧ boot.verified = true ∧
            boot.armed = true := by
        unfold Guard.trips?
        rw [Bool.and_eq_true, Bool.and_eq_true, bootGuardShouldTrip_iff hcrashes, and_assoc]
      refine ⟨?_, each_snoc.mpr ⟨h.fits, htrip⟩, trips_snoc h.trips (.reset boot _)⟩
      show (bootGuardDecode (bootGuardEncode _)).toNat = min (crashesInARow (_ ++ [_])) 255
      rw [crashesInARow_snoc, bootGuardDecode, bootGuardEncode, KeptCount.decode_encode,
        Happening.count]
      split
      · rfl
      · exact hcrashes
  | tick uptime =>
      simp only [Guard.step] at hstep
      split at hstep
      · rw [← Option.some.inj hstep]
        unfold Guard.bootGuardTick
        split
        · exact ⟨h.record, h.fits, h.trips⟩
        · next hhealthy =>
            refine ⟨?_, each_snoc.mpr ⟨h.fits, ?_⟩, trips_snoc h.trips (.healthy uptime)⟩
            · rw [crashesInARow_snoc]
              show (bootGuardDecode (bootGuardEncode 0)).toNat = 0
              rw [bootGuardDecode, bootGuardEncode, KeptCount.decode_encode]
              rfl
            · simp only [Bool.or_eq_true, Bool.not_eq_true', not_or, Bool.not_eq_true,
                Bool.not_eq_false] at hhealthy
              have hlong := UInt32.le_iff_toNat_le.mp (of_decide_eq_true hhealthy.2)
              have hmin : BOOT_GUARD_HEALTHY_MS.toNat = 1800000 := rfl
              rw [reading_toNat, hmin] at hlong
              show 30 * 60 * 1000 ≤ uptime
              omega
      · cases hstep

/-- Whatever boots, resets and lost records there were: a boot restarts into the rescue image if and
only if its own reset is at least the third crash since the last forgiveness, the image verifies
and the start could be armed; forgiven is only after half an hour; the record holds the count; and
the trips that could be saved are counted. -/
theorem rescue_after_three_crashes (memory : KeptCount) (es : List Event) (s : Guard)
    (hrun : run Guard.step
      { guardRecord := memory, story := [.lost memory] } es = some s) :
    (∀ pre boot tripped post, s.story = pre ++ .reset boot tripped :: post →
      (tripped = true ↔
        3 ≤ afterReset (crashesInARow pre) boot.reason ∧ boot.verified = true ∧
          boot.armed = true)) ∧
      (∀ uptime, .healthy uptime ∈ s.story → 30 * 60 * 1000 ≤ uptime) ∧
      (bootGuardDecode s.guardRecord).toNat = min (crashesInARow s.story) 255 ∧
      s.trips = UInt32.ofNat (s.story.countP Happening.savedTrip) := by
  have hinit : Counts { guardRecord := memory, story := [.lost memory] } := by
    refine ⟨?_, ?_, rfl⟩
    · have hbyte := (bootGuardDecode memory).toNat_lt
      show (bootGuardDecode memory).toNat = min (bootGuardDecode memory).toNat 255
      omega
    · exact each_snoc.mpr ⟨each_nil _, trivial⟩
  have h := run_invariant (fun _ _ _ hc hstep => hc.step hstep) hinit hrun
  refine ⟨fun pre boot tripped post hsplit => h.fits pre _ post hsplit, ?_, h.record, h.trips⟩
  intro uptime hmem
  obtain ⟨pre, post, hsplit⟩ := List.append_of_mem hmem
  exact h.fits pre _ post hsplit

/-- A power-on with garbage in the RAM, and three panics; the rescue image verifies. -/
def threePanics : List Event :=
  [.reset ⟨CRASH_RESET_POWERON, true, true, true⟩, .reset ⟨CRASH_RESET_PANIC, true, true, true⟩,
    .reset ⟨CRASH_RESET_PANIC, true, true, true⟩, .reset ⟨CRASH_RESET_PANIC, true, true, true⟩]

theorem rescue_after_three_crashes_panics :
    ∃ s, run Guard.step { guardRecord := ⟨7, 7, 7⟩, story := [.lost ⟨7, 7, 7⟩] } threePanics =
        some s ∧
      s.tripped = true ∧ s.trips = 1 ∧
      (bootGuardDecode s.guardRecord).toNat = min (crashesInARow s.story) 255 := by
  have hran : (run Guard.step { guardRecord := ⟨7, 7, 7⟩, story := [.lost ⟨7, 7, 7⟩] }
      threePanics).map (fun s => (s.tripped, s.trips)) = some (true, 1) := by decide +kernel
  obtain ⟨s, hrun, hends⟩ := Option.map_eq_some_iff.mp hran
  rw [Prod.mk.injEq] at hends
  exact ⟨s, hrun, hends.1, hends.2,
    (rescue_after_three_crashes ⟨7, 7, 7⟩ threePanics s hrun).2.2.1⟩

end SplitFlap.BootGuard
