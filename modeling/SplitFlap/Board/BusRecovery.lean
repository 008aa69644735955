/-
  SplitFlap.Board.BusRecovery — when a row's unit bus is dead, and what is done about it.

  `FollowerBusRecovery.h` counts failed liveness reads and opens an episode when the row
  as a whole stops answering, or when a scan finds nobody; a good read closes it.  In
  between the bus is clocked free, less and less often.
-/
import SplitFlap.Lib.Machine
import SplitFlap.Lib.Clock

namespace SplitFlap.BusRecovery

open Machine Clock

abbrev BUS_DEAD_MIN_FAILS : UInt8 := 6
abbrev BUS_RECOVERY_BACKOFF_BASE_MS : UInt32 := 5000
abbrev BUS_RECOVERY_BACKOFF_MAX_MS : UInt32 := 300000

/-! ## §1. The policy. -/

inductive BusRecoveryEvent where
  | none
  | wentDead
  | recovered
  deriving DecidableEq

structure BusRecoveryState where
  failMask : UInt32 := 0
  consecutiveFails : UInt8 := 0
  dead : Bool := false
  deadSinceMs : UInt32 := 0
  nextAttemptMs : UInt32 := 0
  attemptsThisEpisode : UInt8 := 0
  attempts : UInt32 := 0
  episodes : UInt32 := 0
  recovered : UInt32 := 0
  lastDeadMs : UInt32 := 0
  lastStatus : Int8 := -1
  reprobeUnverified : Bool := false

/-- The loop of `busRecoveryBackoffMs`. -/
def doubled : Nat → UInt32 → UInt32
  | 0, ms => ms
  | i + 1, ms => if ms < BUS_RECOVERY_BACKOFF_MAX_MS then doubled i (ms * 2) else ms

def busRecoveryBackoffMs (attemptsSoFar : UInt8) : UInt32 :=
  let ms := doubled attemptsSoFar.toNat BUS_RECOVERY_BACKOFF_BASE_MS
  if ms > BUS_RECOVERY_BACKOFF_MAX_MS then BUS_RECOVERY_BACKOFF_MAX_MS else ms

def busRecoveryPopcount (v : UInt32) : UInt8 :=
  if v = 0 then 0 else busRecoveryPopcount (v &&& (v - 1)) + 1
termination_by v.toNat
decreasing_by
  have hpos : 0 < v.toNat := Nat.pos_of_ne_zero fun h => ‹¬v = 0› (UInt32.toNat_inj.mp h)
  have hone : (1 : UInt32) ≤ v := UInt32.le_iff_toNat_le.mpr hpos
  have hand : (v &&& (v - 1)).toNat ≤ (v - 1).toNat := by
    rw [UInt32.toNat_and]
    exact Nat.and_le_right
  have hsub : (v - 1).toNat = v.toNat - 1 := UInt32.toNat_sub_of_le _ _ hone
  omega

def bump8 (n : UInt8) : UInt8 := if n < 0xFF then n + 1 else n

def unitBit (unitIndex : Int) : UInt32 := 1 <<< UInt32.ofNat unitIndex.toNat

/-- Is this a read of a unit of a row? -/
def isRead (unitIndex rowWidth : Int) : Bool := 0 ≤ unitIndex ∧ unitIndex < 32 ∧ 0 < rowWidth

/-- An episode that opens. -/
def opens (s : BusRecoveryState) (nowMs : UInt32) : BusRecoveryState :=
  { s with
    dead := true
    deadSinceMs := nowMs
    nextAttemptMs := nowMs
    episodes := s.episodes + 1 }

/-- A good read: the run of failures is over, and with it an episode. -/
def observeGood (s : BusRecoveryState) (nowMs : UInt32) : BusRecoveryState × BusRecoveryEvent :=
  let s := { s with failMask := 0, consecutiveFails := 0, reprobeUnverified := false }
  if s.dead = false then (s, .none)
  else
    ({ s with
      dead := false
      attemptsThisEpisode := 0
      recovered := s.recovered + 1
      lastDeadMs := nowMs - s.deadSinceMs }, .recovered)

/-- A failed read is counted. -/
def counted (s : BusRecoveryState) (unitIndex : Int) : BusRecoveryState :=
  { s with
    failMask := s.failMask ||| unitBit unitIndex
    consecutiveFails := bump8 s.consecutiveFails }

def distinctNeeded (rowWidth : Int) : UInt8 := if rowWidth ≥ 2 then 2 else 1

def observeBad (s : BusRecoveryState) (unitIndex : Int) (nowMs : UInt32) (rowWidth : Int) :
    BusRecoveryState × BusRecoveryEvent :=
  let s := counted s unitIndex
  if s.dead then (s, .none)
  else if s.consecutiveFails < BUS_DEAD_MIN_FAILS ∨
      busRecoveryPopcount s.failMask < distinctNeeded rowWidth then (s, .none)
  else (opens s nowMs, .wentDead)

def busRecoveryObserve (s : BusRecoveryState) (unitIndex : Int) (ok : Bool) (nowMs : UInt32)
    (rowWidth : Int) : BusRecoveryState × BusRecoveryEvent :=
  if isRead unitIndex rowWidth = false then (s, .none)
  else if ok then observeGood s nowMs
  else observeBad s unitIndex nowMs rowWidth

def busRecoveryNoteEmptyRow (s : BusRecoveryState) (nowMs : UInt32) : BusRecoveryState :=
  if s.dead then s else opens s nowMs

def busRecoveryNoteReprobe (s : BusRecoveryState) (unitsFound : Int) : BusRecoveryState :=
  { s with reprobeUnverified := unitsFound > 0 }

def busRecoveryReprobeDue (s : BusRecoveryState) (unitsKnown : Int) : Bool :=
  unitsKnown = 0 || s.reprobeUnverified

def busRecoveryDue (s : BusRecoveryState) (nowMs : UInt32) : Bool :=
  s.dead && reached nowMs s.nextAttemptMs

def busRecoveryNoteAttempt (s : BusRecoveryState) (nowMs : UInt32) (wireStatus : UInt8) :
    BusRecoveryState :=
  { s with
    nextAttemptMs := nowMs + busRecoveryBackoffMs s.attemptsThisEpisode
    attemptsThisEpisode := bump8 s.attemptsThisEpisode
    attempts := s.attempts + 1
    lastStatus := wireStatus.toInt8 }

/-! ## §2. Calls. -/

inductive Call where
  | observe (unitIndex : Int) (ok : Bool) (rowWidth : Int)
  | noteEmptyRow
  | noteReprobe (unitsFound : Int)
  | noteAttempt (wireStatus : UInt8)
  | wait (ms : Nat)

/-- The policy's state, and what has been seen of it. -/
structure Watched where
  s : BusRecoveryState := {}
  now : Nat := 0
  /-- The units of the failed reads since the last good one. -/
  fails : List Int := []
  /-- The row's width, and those reads, when reads last opened an episode. -/
  opened : Option (Int × List Int) := none
  /-- When the attempts of this episode were made, the last one first. -/
  tried : List Nat := []

/-- What a read did, with the failed reads it leaves. -/
def Watched.took (w : Watched) (r : BusRecoveryState × BusRecoveryEvent) (fails : List Int)
    (rowWidth : Int) : Watched :=
  { w with
    s := r.1
    fails
    opened := if r.2 = .wentDead then some (rowWidth, fails) else w.opened
    tried := if r.2 = .recovered then [] else w.tried }

def Watched.observe (w : Watched) (unitIndex : Int) (ok : Bool) (rowWidth : Int) : Watched :=
  w.took (busRecoveryObserve w.s unitIndex ok (reading w.now) rowWidth)
    (if isRead unitIndex rowWidth = false then w.fails else if ok then [] else unitIndex :: w.fails)
    rowWidth

/-- An attempt is made only when it is due. -/
def Watched.step (w : Watched) : Call → Option Watched
  | .observe unitIndex ok rowWidth => some (w.observe unitIndex ok rowWidth)
  | .noteEmptyRow => some { w with s := busRecoveryNoteEmptyRow w.s (reading w.now) }
  | .noteReprobe unitsFound => some { w with s := busRecoveryNoteReprobe w.s unitsFound }
  | .noteAttempt wireStatus =>
      if busRecoveryDue w.s (reading w.now) then
        some
          { w with
            s := busRecoveryNoteAttempt w.s (reading w.now) wireStatus
            tried := w.now :: w.tried }
      else none
  | .wait ms => some { w with now := w.now + ms }

/-! ## §3. The policy's parts. -/

theorem bump8_toNat (n : UInt8) : (bump8 n).toNat = min 255 (n.toNat + 1) := by
  have hn := n.toNat_lt
  unfold bump8
  split
  · next hless =>
      have hless : n.toNat < 255 := UInt8.lt_iff_toNat_lt.mp hless
      rw [UInt8.toNat_add]
      show (n.toNat + 1) % 2 ^ 8 = _
      omega
  · next hfull =>
      have hfull : ¬n.toNat < 255 := fun h => hfull (UInt8.lt_iff_toNat_lt.mpr h)
      omega

theorem doubled_done {ms : UInt32} (h : ¬ms < BUS_RECOVERY_BACKOFF_MAX_MS) (i : Nat) :
    doubled i ms = ms := by
  cases i with
  | zero => rfl
  | succ i => exact if_neg h

/-- From the seventh attempt on the wait is the longest. -/
theorem busRecoveryBackoffMs_late {n : UInt8} (h : 6 ≤ n.toNat) :
    busRecoveryBackoffMs n = BUS_RECOVERY_BACKOFF_MAX_MS := by
  obtain ⟨k, hk⟩ := Nat.exists_eq_add_of_le h
  have hlong : doubled n.toNat BUS_RECOVERY_BACKOFF_BASE_MS = 320000 := by
    rw [hk, Nat.add_comm]
    show doubled k 320000 = 320000
    exact doubled_done (by decide) k
  unfold busRecoveryBackoffMs
  rw [hlong]
  rfl

theorem busRecoveryBackoffMs_le (n : UInt8) : (busRecoveryBackoffMs n).toNat ≤ 300000 := by
  unfold busRecoveryBackoffMs
  dsimp only
  split
  · exact Nat.le_refl _
  · next hle => exact UInt32.le_iff_toNat_le.mp (UInt32.not_lt.mp hle)

/-- The wait behind an attempt, of how many were made before it. -/
def waitMs (before : Nat) : Nat := (busRecoveryBackoffMs (UInt8.ofNat (min 255 before))).toNat

theorem waitMs_late {before : Nat} (h : 6 ≤ before) : waitMs before = 300000 := by
  have hn : 6 ≤ (UInt8.ofNat (min 255 before)).toNat := by
    rw [UInt8.toNat_ofNat']
    omega
  unfold waitMs
  rw [busRecoveryBackoffMs_late hn]
  rfl

/-- The units of these failed reads, a bit each. -/
def maskOf (fails : List Int) : UInt32 := fails.foldr (fun u mask => mask ||| unitBit u) 0

/-- One unit's reads set one bit. -/
theorem maskOf_same {fails : List Int} {u : Int} (h : ∀ v ∈ fails, v = u) (hsome : fails ≠ []) :
    maskOf fails = unitBit u := by
  induction fails with
  | nil => exact absurd rfl hsome
  | cons v fails ih =>
      obtain rfl := h v List.mem_cons_self
      show maskOf fails ||| unitBit v = unitBit v
      by_cases hnone : fails = []
      · rw [hnone]
        exact UInt32.zero_or
      · rw [ih (fun u hu => h u (List.mem_cons_of_mem _ hu)) hnone]
        exact UInt32.or_self

theorem busRecoveryPopcount_bit {u : Int} (hlow : 0 ≤ u) (hhigh : u < 32) :
    busRecoveryPopcount (unitBit u) = 1 := by
  have hbits : ∀ k : Fin 32, (1 : UInt32) <<< UInt32.ofNat k ≠ 0 ∧
      ((1 : UInt32) <<< UInt32.ofNat k) &&& ((1 <<< UInt32.ofNat k) - 1) = 0 := by decide
  obtain ⟨hsome, hclear⟩ := hbits ⟨u.toNat, by omega⟩
  unfold unitBit
  rw [busRecoveryPopcount, if_neg hsome, hclear, busRecoveryPopcount, if_pos rfl]
  rfl

/-- Two bits are two units. -/
theorem two_units {fails : List Int} (hunits : ∀ u ∈ fails, 0 ≤ u ∧ u < 32)
    (htwo : ¬busRecoveryPopcount (maskOf fails) < 2) : ∃ u ∈ fails, ∃ v ∈ fails, u ≠ v := by
  by_contra hno
  cases fails with
  | nil =>
      apply htwo
      rw [show maskOf [] = 0 from rfl, busRecoveryPopcount, if_pos rfl]
      decide
  | cons u fails =>
      have hsame : ∀ v ∈ u :: fails, v = u := by
        intro v hv
        by_contra hdiffers
        exact hno ⟨v, hv, u, List.mem_cons_self, hdiffers⟩
      obtain ⟨hlow, hhigh⟩ := hunits u List.mem_cons_self
      apply htwo
      rw [maskOf_same hsame (List.cons_ne_nil _ _), busRecoveryPopcount_bit hlow hhigh]
      decide

/-! ## §4. Episodes. -/

/-- Episodes are well formed: one is open while the bus is dead, reads opened it on
    enough failures of two units, and its attempts are apart. -/
structure Watched.WellFormed (w : Watched) : Prop where
  open_iff : w.s.dead = true ↔ w.s.episodes = w.s.recovered + 1
  closed : w.s.dead = false → w.s.episodes = w.s.recovered
  opened : ∀ width fails, w.opened = some (width, fails) → 2 ≤ width →
    BUS_DEAD_MIN_FAILS.toNat ≤ fails.length ∧ ∃ u ∈ fails, ∃ v ∈ fails, u ≠ v
  apart : ∀ later t t' rest, w.tried = later ++ t :: t' :: rest →
    t' + waitMs rest.length ≤ t ∧ (6 ≤ rest.length → t' + 300000 ≤ t)

structure Watched.Kept (w : Watched) : Prop where
  episodes : w.s.episodes = if w.s.dead then w.s.recovered + 1 else w.s.recovered
  mask : w.s.failMask = maskOf w.fails
  count : w.s.consecutiveFails.toNat = min 255 w.fails.length
  units : ∀ u ∈ w.fails, 0 ≤ u ∧ u < 32
  opened : ∀ width fails, w.opened = some (width, fails) → 2 ≤ width →
    BUS_DEAD_MIN_FAILS.toNat ≤ fails.length ∧ ∃ u ∈ fails, ∃ v ∈ fails, u ≠ v
  attempts : w.s.attemptsThisEpisode.toNat = min 255 w.tried.length
  none : w.s.dead = false → w.tried = []
  next : ∀ t rest, w.tried = t :: rest → t ≤ w.now ∧
    w.s.nextAttemptMs = reading t + busRecoveryBackoffMs (UInt8.ofNat (min 255 rest.length))
  apart : ∀ later t t' rest, w.tried = later ++ t :: t' :: rest → t' + waitMs rest.length ≤ t

variable {w w' : Watched}

theorem ne_succ (n : UInt32) : n ≠ n + 1 := by
  intro hsame
  have hnat := congrArg UInt32.toNat hsame
  have hn := n.toNat_lt
  have hone : (1 : UInt32).toNat = 1 := rfl
  rw [UInt32.toNat_add, hone] at hnat
  omega

theorem Watched.Kept.wellFormed (h : w.Kept) : w.WellFormed where
  open_iff := by
    rw [h.episodes]
    cases w.s.dead with
    | false =>
        constructor
        · intro hno
          cases hno
        · intro hsame
          exact absurd hsame (ne_succ _)
    | true => exact ⟨fun _ => rfl, fun _ => rfl⟩
  closed hdead := by
    rw [h.episodes, hdead]
    rfl
  opened := h.opened
  apart later t t' rest htried := by
    have hapart := h.apart later t t' rest htried
    refine ⟨hapart, ?_⟩
    intro hlate
    rwa [waitMs_late hlate] at hapart

theorem Watched.Kept.start : Watched.Kept {} where
  episodes := rfl
  mask := rfl
  count := rfl
  units u hu := by cases hu
  opened _ _ hopened := by cases hopened
  attempts := rfl
  none _ := rfl
  next _ _ htried := by cases htried
  apart later t t' rest htried := by simp at htried

/-- The failed reads as they are counted. -/
def Watched.Counts (s : BusRecoveryState) (fails : List Int) : Prop :=
  s.failMask = maskOf fails ∧ s.consecutiveFails.toNat = min 255 fails.length ∧
    ∀ u ∈ fails, 0 ≤ u ∧ u < 32

/-- A read that opens and closes nothing. -/
theorem Watched.Kept.read (h : w.Kept) {s : BusRecoveryState} {fails : List Int} {rowWidth : Int}
    (hcounts : Counts s fails) (hdead : s.dead = w.s.dead) (hepisodes : s.episodes = w.s.episodes)
    (hrecovered : s.recovered = w.s.recovered)
    (hattempts : s.attemptsThisEpisode = w.s.attemptsThisEpisode)
    (hnext : s.nextAttemptMs = w.s.nextAttemptMs) : (w.took (s, .none) fails rowWidth).Kept where
  episodes := by
    show s.episodes = if s.dead then s.recovered + 1 else s.recovered
    rw [hepisodes, hdead, hrecovered]
    exact h.episodes
  mask := hcounts.1
  count := hcounts.2.1
  units := hcounts.2.2
  opened := h.opened
  attempts := (congrArg UInt8.toNat hattempts).trans h.attempts
  none hno := h.none (hdead.symm.trans hno)
  next t rest htried := ⟨(h.next t rest htried).1, hnext.trans (h.next t rest htried).2⟩
  apart := h.apart

/-- A good read. -/
theorem Watched.Kept.good (h : w.Kept) {rowWidth : Int} :
    (w.took (observeGood w.s (reading w.now)) [] rowWidth).Kept := by
  have hcounts : ∀ s : BusRecoveryState, s.failMask = 0 → s.consecutiveFails = 0 → Counts s [] :=
    fun s hmask hcount => ⟨hmask, congrArg UInt8.toNat hcount, fun u hu => nomatch hu⟩
  unfold observeGood
  dsimp only
  split
  · exact h.read (hcounts _ rfl rfl) rfl rfl rfl rfl rfl
  · next hdead =>
      have hdead : w.s.dead = true := Bool.not_eq_false _ |>.mp hdead
      have hepisodes := h.episodes
      rw [hdead] at hepisodes
      exact
        { episodes := hepisodes
          mask := rfl
          count := rfl
          units := fun u hu => nomatch hu
          opened := h.opened
          attempts := rfl
          none := fun _ => rfl
          next := fun t rest htried => nomatch htried
          apart := fun later t t' rest htried => by simp [Watched.took] at htried }

theorem Watched.Kept.counted (h : w.Kept) {unitIndex rowWidth : Int}
    (hread : isRead unitIndex rowWidth = true) :
    Counts (counted w.s unitIndex) (unitIndex :: w.fails) := by
  refine ⟨?_, ?_, ?_⟩
  · show w.s.failMask ||| unitBit unitIndex = maskOf (unitIndex :: w.fails)
    rw [h.mask]
    rfl
  · show (bump8 w.s.consecutiveFails).toNat = min 255 (unitIndex :: w.fails).length
    rw [bump8_toNat, h.count, List.length_cons]
    omega
  · intro u hu
    rcases List.mem_cons.mp hu with rfl | hold
    · unfold isRead at hread
      rw [decide_eq_true_eq] at hread
      exact ⟨hread.1, hread.2.1⟩
    · exact h.units u hold

/-- An episode that opens has made no attempt yet. -/
theorem Watched.Kept.opens (h : w.Kept) (hdead : w.s.dead = false) {s : BusRecoveryState}
    {fails : List Int} (hcounts : Counts s fails) (hepisodes : s.episodes = w.s.episodes)
    (hrecovered : s.recovered = w.s.recovered)
    (hattempts : s.attemptsThisEpisode = w.s.attemptsThisEpisode)
    {opened : Option (Int × List Int)}
    (hopened : ∀ width fails, opened = some (width, fails) → 2 ≤ width →
      BUS_DEAD_MIN_FAILS.toNat ≤ fails.length ∧ ∃ u ∈ fails, ∃ v ∈ fails, u ≠ v) :
    Watched.Kept { w with s := opens s (reading w.now), fails := fails, opened := opened } where
  episodes := by
    have hclosed := h.episodes
    rw [hdead] at hclosed
    show s.episodes + 1 = s.recovered + 1
    rw [hepisodes, hrecovered, hclosed]
    rfl
  mask := hcounts.1
  count := hcounts.2.1
  units := hcounts.2.2
  opened := hopened
  attempts := (congrArg UInt8.toNat hattempts).trans h.attempts
  none hno := by cases hno
  next t rest htried := by
    have htried : w.tried = t :: rest := htried
    rw [h.none hdead] at htried
    cases htried
  apart := h.apart

/-- A failed read; it opens an episode on enough of them. -/
theorem Watched.Kept.bad (h : w.Kept) {unitIndex rowWidth : Int}
    (hread : isRead unitIndex rowWidth = true) :
    (w.took (observeBad w.s unitIndex (reading w.now) rowWidth) (unitIndex :: w.fails)
      rowWidth).Kept := by
  have hcounts := h.counted hread
  unfold observeBad
  dsimp only
  split
  · exact h.read hcounts rfl rfl rfl rfl rfl
  · next hdead =>
      split
      · exact h.read hcounts rfl rfl rfl rfl rfl
      · next hopens =>
          obtain ⟨hmany, hdistinct⟩ := not_or.mp hopens
          apply h.opens (Bool.eq_false_iff.mpr hdead) hcounts rfl rfl rfl
          intro width fails hopened hwide
          obtain ⟨rfl, rfl⟩ := Prod.mk.inj (Option.some.inj hopened)
          constructor
          · have hmany : ¬(BusRecovery.counted w.s unitIndex).consecutiveFails.toNat <
                BUS_DEAD_MIN_FAILS.toNat := fun hless => hmany (UInt8.lt_iff_toNat_lt.mpr hless)
            have hsix : BUS_DEAD_MIN_FAILS.toNat = 6 := rfl
            rw [hcounts.2.1] at hmany
            omega
          · unfold distinctNeeded at hdistinct
            rw [if_pos hwide, hcounts.1] at hdistinct
            exact two_units hcounts.2.2 hdistinct

theorem Watched.Kept.observe (h : w.Kept) (unitIndex : Int) (ok : Bool) (rowWidth : Int) :
    (w.observe unitIndex ok rowWidth).Kept := by
  unfold Watched.observe busRecoveryObserve
  cases hread : isRead unitIndex rowWidth with
  | true =>
      cases ok with
      | true => exact h.good
      | false => exact h.bad hread
  | false => exact h

theorem Watched.Kept.emptyRow (h : w.Kept) :
    Watched.Kept { w with s := busRecoveryNoteEmptyRow w.s (reading w.now) } := by
  unfold busRecoveryNoteEmptyRow
  split
  · exact h
  · next hdead =>
      exact h.opens (Bool.eq_false_iff.mpr hdead) ⟨h.mask, h.count, h.units⟩ rfl rfl rfl h.opened

/-- An attempt comes when the wait behind the one before is over. -/
theorem Watched.Kept.attempt (h : w.Kept) {wireStatus : UInt8}
    (hdue : busRecoveryDue w.s (reading w.now) = true) :
    Watched.Kept { w with s := busRecoveryNoteAttempt w.s (reading w.now) wireStatus
                          tried := w.now :: w.tried } := by
  obtain ⟨hdead, hreached⟩ := Bool.and_eq_true_iff.mp hdue
  refine { h with attempts := ?_, none := ?_, next := ?_, apart := ?_ }
  · show (bump8 w.s.attemptsThisEpisode).toNat = min 255 (w.now :: w.tried).length
    rw [bump8_toNat, h.attempts, List.length_cons]
    omega
  · intro hno
    have hno : w.s.dead = false := hno
    rw [hdead] at hno
    cases hno
  · intro t rest htried
    obtain ⟨rfl, rfl⟩ := List.cons.inj htried
    refine ⟨Nat.le_refl _, ?_⟩
    have hsame : UInt8.ofNat (min 255 w.tried.length) = w.s.attemptsThisEpisode := by
      rw [← h.attempts]
      exact UInt8.ofNat_toNat
    rw [hsame]
    rfl
  · intro later t t' rest htried
    have htried : w.now :: w.tried = later ++ t :: t' :: rest := htried
    cases later with
    | nil =>
        obtain ⟨rfl, hrest⟩ := List.cons.inj htried
        obtain ⟨hpast, hnext⟩ := h.next t' rest hrest
        rw [hnext] at hreached
        apply reached_passed hpast _ hreached
        have hshort := busRecoveryBackoffMs_le (UInt8.ofNat (min 255 rest.length))
        omega
    | cons _ later =>
        obtain ⟨_, hrest⟩ := List.cons.inj htried
        exact h.apart later t t' rest hrest

theorem Watched.Kept.step (h : w.Kept) {c : Call} (hstep : w.step c = some w') : w'.Kept := by
  cases c with
  | observe unitIndex ok rowWidth =>
      obtain rfl := Option.some.inj hstep
      exact h.observe unitIndex ok rowWidth
  | noteEmptyRow =>
      obtain rfl := Option.some.inj hstep
      exact h.emptyRow
  | noteReprobe unitsFound =>
      obtain rfl := Option.some.inj hstep
      exact { h with }
  | noteAttempt wireStatus =>
      obtain ⟨hdue, hs⟩ := Option.ite_none_right_eq_some.mp hstep
      obtain rfl := Option.some.inj hs
      exact h.attempt hdue
  | wait ms =>
      obtain rfl := Option.some.inj hstep
      refine { h with next := ?_ }
      intro t rest htried
      obtain ⟨hpast, hnext⟩ := h.next t rest htried
      exact ⟨Nat.le_add_right_of_le hpast, hnext⟩

/-- Every sequence of calls. -/
theorem Watched.run_kept {calls : List Call} (h : w.Kept)
    (hrun : run Watched.step w calls = some w') : w'.Kept :=
  run_invariant (fun _ _ _ h hstep => Watched.Kept.step h hstep) h hrun

end SplitFlap.BusRecovery
