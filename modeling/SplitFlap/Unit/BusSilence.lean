/-
  SplitFlap.Unit.BusSilence — a unit that stops being addressed.

  `UnitBusSilence.h`: when that counts as a silence, what the unit tries and what
  it writes down.  The unit's clock is 32 bits; a run is told with the true time
  of each pass of its loop, and the only thing asked of it is that no silence
  lasts until the clock has come round.
-/
import Mathlib.Algebra.Group.Nat.Defs
import SplitFlap.Lib.Log
import SplitFlap.Lib.Stretch
import SplitFlap.Unit.Facts

namespace SplitFlap.Silence

open Stretch
open Log (Each each_nil each_snoc)

/-! ## §1. The rules. -/

abbrev BUS_SILENCE_AFTER_MS : UInt32 := 180000
abbrev BUS_SILENCE_RESTART_MS : UInt32 := 1200000
abbrev BUS_SILENCE_CONTACT_FRAMES : UInt16 := 8
abbrev BUS_SILENCE_REINIT_HEARD_MS : UInt32 := 5000
abbrev BUS_SILENCE_TRAFFIC_OWN_MS : UInt32 := 1000

abbrev BUS_RECORD_FLAG_TRAFFIC : UInt8 := 0x01
abbrev BUS_RECORD_FLAG_LINE_LOW : UInt8 := 0x02
abbrev BUS_RECORD_FLAG_ENDED : UInt8 := 0x04
abbrev BUS_RECORD_FLAG_RESTARTED : UInt8 := 0x08

/-- What the glue does after a tick, any of them together: `BUS_SILENCE_DO_*`. -/
structure Todo where
  save : Bool := false
  reinit : Bool := false
  watchTraffic : Bool := false
  restart : Bool := false
  deriving DecidableEq

structure BusSilence where
  lastFrames : UInt16 := 0
  contactFrames : UInt16 := 0
  heardMs : UInt32 := 0
  silent : Bool := false
  savedMinutes : UInt8 := 0
  reinitMs : UInt32 := 0
  reinitOpen : Bool := false
  restarted : Bool := false
  trafficOpen : Bool := false
  trafficMs : UInt32 := 0
  deriving DecidableEq

def busSilenceMinutes (ms : UInt32) : UInt8 :=
  let minutes := ms / 60000
  if minutes > 0xFF then 0xFF else minutes.toUInt8

def busSilenceBump (counter : UInt8) : UInt8 := if counter < 0xFF then counter + 1 else counter

def atLeastOne (minutes : UInt8) : UInt8 := if minutes = 0 then 1 else minutes

/-- A length is written down, and is the longest if it is. -/
def withMinutes (record : UnitBusRecord) (minutes : UInt8) : UnitBusRecord :=
  { record with
    lastMinutes := minutes
    longestMinutes := if minutes > record.longestMinutes then minutes else record.longestMinutes }

/-- What a tick works on. -/
structure Watch where
  s : BusSilence := {}
  record : UnitBusRecord := {}
  todo : Todo := {}
  deriving DecidableEq

/-- One pass of the unit's loop, at its true time. -/
structure Pass where
  now : Nat
  frames : UInt16
  lineLow : Bool := false
  traffic : Bool := false
  restartAllowed : Bool := false
  deriving DecidableEq

/-- What the unit's clock shows. -/
def Pass.nowMs (p : Pass) : UInt32 := UInt32.ofNat p.now

/-- A silence that is over. -/
def silenceEnds (s : BusSilence) (record : UnitBusRecord) (nowMs : UInt32) : UnitBusRecord × Todo :=
  let record := withMinutes record (atLeastOne (busSilenceMinutes (nowMs - s.heardMs)))
  let record := { record with flags := record.flags ||| BUS_RECORD_FLAG_ENDED }
  let record :=
    if s.reinitOpen && nowMs - s.reinitMs ≤ BUS_SILENCE_REINIT_HEARD_MS then
      { record with reinitsHeard := busSilenceBump record.reinitsHeard }
    else record
  (record, { save := s.savedMinutes ≠ 0 })

/-- A frame for this unit. -/
def heard (s : BusSilence) (record : UnitBusRecord) (p : Pass) : Watch :=
  let arrived := p.frames - s.lastFrames
  let contact := s.contactFrames + arrived
  let ended := if s.silent then silenceEnds s record p.nowMs else (record, {})
  { s := { s with
      lastFrames := p.frames
      contactFrames :=
        if contact > BUS_SILENCE_CONTACT_FRAMES then BUS_SILENCE_CONTACT_FRAMES else contact
      heardMs := p.nowMs
      silent := false
      reinitOpen := false
      restarted := false
      trafficOpen := false }
    record := ended.1
    todo := ended.2 }

/-- A silence is one from here on; the first restart of the hardware is due. -/
def silenceBegins (w : Watch) (p : Pass) (quiet : UInt32) : Watch :=
  if !w.s.silent then
    { s := { w.s with
        silent := true
        savedMinutes := 0
        reinitOpen := false
        restarted := false
        trafficOpen := false
        reinitMs := p.nowMs - BUS_SILENCE_AFTER_MS }
      record := { withMinutes w.record (busSilenceMinutes quiet) with
        silences := busSilenceBump w.record.silences
        flags := if p.lineLow then BUS_RECORD_FLAG_LINE_LOW else 0 }
      todo := { w.todo with watchTraffic := true } }
  else w

/-- Traffic that no frame for this unit followed was for others. -/
def silenceTraffic (w : Watch) (p : Pass) : Watch :=
  let s :=
    if p.traffic && !w.s.trafficOpen && w.record.flags &&& BUS_RECORD_FLAG_TRAFFIC = 0 then
      { w.s with trafficOpen := true, trafficMs := p.nowMs }
    else w.s
  if s.trafficOpen && p.nowMs - s.trafficMs ≥ BUS_SILENCE_TRAFFIC_OWN_MS then
    { w with
      s := { s with trafficOpen := false }
      record := { w.record with flags := w.record.flags ||| BUS_RECORD_FLAG_TRAFFIC } }
  else { w with s := s }

/-- A held line is the other heal's. -/
def silenceReinit (w : Watch) (p : Pass) : Watch :=
  if !p.lineLow && p.nowMs - w.s.reinitMs ≥ BUS_SILENCE_AFTER_MS then
    { s := { w.s with reinitMs := p.nowMs, reinitOpen := true }
      record := { w.record with reinits := busSilenceBump w.record.reinits }
      todo := { w.todo with reinit := true } }
  else w

/-- The length at which a silence is written next. -/
def silenceMark (savedMinutes : UInt8) : UInt8 :=
  if savedMinutes = 0 then busSilenceMinutes (2 * BUS_SILENCE_AFTER_MS)
  else if savedMinutes < 0x80 then savedMinutes * 2
  else 0xFF

def silenceSave (w : Watch) (minutes : UInt8) : Watch :=
  if minutes ≥ silenceMark w.s.savedMinutes && minutes > w.s.savedMinutes then
    { s := { w.s with savedMinutes := minutes }
      record := withMinutes w.record minutes
      todo := { w.todo with save := true } }
  else w

/-- Once per silence, and only behind its gate. -/
def silenceRestart (w : Watch) (p : Pass) (quiet : UInt32) (minutes : UInt8) : Watch :=
  if p.restartAllowed && !w.s.restarted && quiet ≥ BUS_SILENCE_RESTART_MS then
    { s := { w.s with restarted := true, savedMinutes := atLeastOne minutes }
      record := { withMinutes w.record minutes with
        flags := w.record.flags ||| BUS_RECORD_FLAG_RESTARTED
        selfRestarts := busSilenceBump w.record.selfRestarts }
      todo := { w.todo with save := true, restart := true } }
  else w

/-- A pass of a silence. -/
def silencePass (s : BusSilence) (record : UnitBusRecord) (p : Pass) (quiet : UInt32) : Watch :=
  let minutes := busSilenceMinutes quiet
  let w := silenceBegins { s := s, record := record } p quiet
  let w := silenceTraffic w p
  let w := silenceReinit w p
  let w := silenceSave w minutes
  silenceRestart w p quiet minutes

def busSilenceTick (s : BusSilence) (record : UnitBusRecord) (p : Pass) : Watch :=
  if p.frames ≠ s.lastFrames then heard s record p
  else if s.contactFrames < BUS_SILENCE_CONTACT_FRAMES then
    -- nothing to lose yet
    { s := { s with heardMs := p.nowMs }, record := record }
  else
    let quiet := p.nowMs - s.heardMs
    if !s.silent && quiet < BUS_SILENCE_AFTER_MS then { s := s, record := record }
    else silencePass s record p quiet

/-! ## §2. A run. -/

/-- A pass and what it asked of the glue. -/
structure Step where
  pass : Pass
  /-- A frame for this unit had arrived. -/
  contact : Bool
  todo : Todo
  deriving DecidableEq

/-- The unit, with the true time of its last pass and of the pass `heardMs` was
last set in. -/
structure UnitState where
  s : BusSilence := {}
  record : UnitBusRecord
  now : Nat := 0
  heard : Nat := 0

def UnitState.contact (u : UnitState) (p : Pass) : Bool := p.frames ≠ u.s.lastFrames

def UnitState.tick (u : UnitState) (p : Pass) : Step × UnitState :=
  let w := busSilenceTick u.s u.record p
  ({ pass := p, contact := u.contact p, todo := w.todo },
    { s := w.s
      record := w.record
      now := p.now
      heard :=
        if u.contact p ∨ u.s.contactFrames < BUS_SILENCE_CONTACT_FRAMES then p.now else u.heard })

/-- The time of the passes does not go back, and the clock does not come round
within a silence of a unit that was in contact. -/
inductive Run (record : UnitBusRecord) : List Step → UnitState → Prop where
  | start : Run record [] { record := record }
  | pass {log : List Step} {u : UnitState} (p : Pass) (h : Run record log u) (hnow : u.now ≤ p.now)
      (hwrap : BUS_SILENCE_CONTACT_FRAMES ≤ u.s.contactFrames → p.now < u.heard + 2 ^ 32) :
      Run record (log ++ [(u.tick p).1]) (u.tick p).2

/-- What may be asked of the glue after `log`. -/
structure Fair (log : List Step) (e : Step) : Prop where
  saveLate : e.todo.save = true → (∃ c ∈ log, c.contact = true) ∧
    ∀ c ∈ log, c.contact = true → c.pass.now + 2 * BUS_SILENCE_AFTER_MS.toNat ≤ e.pass.now
  saveFew : (since Step.contact log ++ [e]).countP (·.todo.save) ≤ 9
  restart : e.todo.restart = true →
    e.pass.restartAllowed = true ∧ e.todo.save = true ∧ e.contact = false ∧
      (∀ c ∈ log, c.contact = true → c.pass.now + BUS_SILENCE_RESTART_MS.toNat ≤ e.pass.now) ∧
      ∀ r ∈ since Step.contact log, r.todo.restart = false
  reinit : e.todo.reinit = true → e.pass.lineLow = false ∧
    ∀ a ∈ log, a.todo.reinit = true → a.pass.now + BUS_SILENCE_AFTER_MS.toNat ≤ e.pass.now

/-! ## §3. The clock and the counters. -/

theorem elapsed_toNat {earlier now : Nat} (hpast : earlier ≤ now) (hwrap : now < earlier + 2 ^ 32) :
    (UInt32.ofNat now - UInt32.ofNat earlier).toNat = now - earlier := by
  rw [UInt32.toNat_sub, UInt32.toNat_ofNat', UInt32.toNat_ofNat']
  omega

theorem busSilenceMinutes_toNat (ms : UInt32) :
    (busSilenceMinutes ms).toNat = min (ms.toNat / 60000) 255 := by
  unfold busSilenceMinutes
  have hdiv : (ms / 60000).toNat = ms.toNat / 60000 := UInt32.toNat_div ms 60000
  dsimp only
  split
  · next hmore =>
      rw [gt_iff_lt, UInt32.lt_iff_toNat_lt, hdiv] at hmore
      replace hmore : 255 < ms.toNat / 60000 := hmore
      show 255 = min (ms.toNat / 60000) 255
      omega
  · next hfew =>
      rw [gt_iff_lt, UInt32.lt_iff_toNat_lt, hdiv, Nat.not_lt] at hfew
      replace hfew : ms.toNat / 60000 ≤ 255 := hfew
      rw [UInt32.toNat_toUInt8, hdiv]
      omega

theorem atLeastOne_of_pos {minutes : UInt8} (h : 0 < minutes.toNat) :
    atLeastOne minutes = minutes := by
  unfold atLeastOne
  rw [if_neg]
  rintro rfl
  exact absurd h (by decide)

/-- The writes that a silence of a written length has had on account of its
length. -/
def marks (saved : Nat) : Nat :=
  if saved = 0 then 0
  else if saved < 12 then 1
  else if saved < 24 then 2
  else if saved < 48 then 3
  else if saved < 96 then 4
  else if saved < 192 then 5
  else if saved < 255 then 6
  else 7

theorem marks_le (saved : Nat) : marks saved ≤ 7 := by
  unfold marks
  grind

theorem marks_mono {saved more : Nat} (h : saved ≤ more) : marks saved ≤ marks more := by
  unfold marks
  grind

theorem marks_first {minutes : Nat} (h : 6 ≤ minutes) : 1 ≤ marks minutes := by
  unfold marks
  grind

theorem marks_double {saved more : Nat} (hsaved : 6 ≤ saved) (hshort : saved < 128)
    (h : saved * 2 ≤ more) : marks saved + 1 ≤ marks more := by
  -- the marks fall where the length doubles
  have hmarks : ∀ first next, first ≤ saved → saved < next →
      marks (next - 1) + 1 ≤ marks (first * 2) → marks saved + 1 ≤ marks more := by
    intro first next hge hlt hdouble
    have hhere : marks saved ≤ marks (next - 1) := marks_mono (by omega)
    have hthere : marks (first * 2) ≤ marks more := marks_mono (by omega)
    omega
  by_cases h12 : saved < 12
  · exact hmarks 6 12 hsaved h12 (by decide)
  by_cases h24 : saved < 24
  · exact hmarks 12 24 (by omega) h24 (by decide)
  by_cases h48 : saved < 48
  · exact hmarks 24 48 (by omega) h48 (by decide)
  by_cases h96 : saved < 96
  · exact hmarks 48 96 (by omega) h96 (by decide)
  · exact hmarks 96 128 (by omega) hshort (by decide)

theorem marks_full {saved more : Nat} (hsaved : saved < 255) (h : 255 ≤ more) :
    marks saved + 1 ≤ marks more := by
  unfold marks
  grind

/-- Each mark reached is one more. -/
theorem marks_next {saved minutes : UInt8} (hsaved : saved ≠ 0 → 6 ≤ saved.toNat)
    (hmark : silenceMark saved ≤ minutes) (hmore : saved < minutes) :
    6 ≤ minutes.toNat ∧ marks saved.toNat + 1 ≤ marks minutes.toNat := by
  rw [UInt8.lt_iff_toNat_lt] at hmore
  unfold silenceMark at hmark
  split at hmark
  · next hzero =>
      subst hzero
      have hfirst : 6 ≤ minutes.toNat := UInt8.le_iff_toNat_le.mp hmark
      exact ⟨hfirst, marks_first hfirst⟩
  · next hwritten =>
      have hsix := hsaved hwritten
      split at hmark
      · next hshort =>
          replace hshort : saved.toNat < 128 := UInt8.lt_iff_toNat_lt.mp hshort
          have hdouble : saved.toNat * 2 ≤ minutes.toNat := by
            have htwice := UInt8.le_iff_toNat_le.mp hmark
            rw [UInt8.toNat_mul] at htwice
            replace htwice : saved.toNat * 2 % 256 ≤ minutes.toNat := htwice
            omega
          exact ⟨by omega, marks_double hsix hshort hdouble⟩
      · next hlong =>
          replace hlong : ¬saved.toNat < 128 := fun hno =>
            hlong (UInt8.lt_iff_toNat_lt.mpr hno)
          have hfull : 255 ≤ minutes.toNat := UInt8.le_iff_toNat_le.mp hmark
          have hmax := minutes.toNat_lt
          exact ⟨by omega, marks_full (by omega) hfull⟩

/-! ## §4. What a silence keeps. -/

/-- A unit in a silence at `now`, with what a pass has asked for so far: `heard`
is when the silence began, the log what was done before the pass. -/
structure Asleep (log : List Step) (heard now : Nat) (p : Pass) (w : Watch) : Prop where
  silent : w.s.silent = true
  contact : ¬w.s.contactFrames < BUS_SILENCE_CONTACT_FRAMES
  heardMs : w.s.heardMs = UInt32.ofNat heard
  written : w.s.savedMinutes ≠ 0 →
    6 ≤ w.s.savedMinutes.toNat ∧ heard + w.s.savedMinutes.toNat * 60000 ≤ now
  saves : (since Step.contact log).countP (·.todo.save) + w.todo.save.toNat ≤
    marks w.s.savedMinutes.toNat + w.s.restarted.toNat
  saveLate : w.todo.save = true → heard + 2 * BUS_SILENCE_AFTER_MS.toNat ≤ now
  restarts : w.s.restarted = false → ∀ r ∈ since Step.contact log, r.todo.restart = false
  restart : w.todo.restart = true → p.restartAllowed = true ∧ w.todo.save = true ∧
    w.s.restarted = true ∧ heard + BUS_SILENCE_RESTART_MS.toNat ≤ now ∧
      ∀ r ∈ since Step.contact log, r.todo.restart = false
  reinits : ∃ last, w.s.reinitMs = UInt32.ofNat last ∧ heard ≤ last ∧ last ≤ now ∧
    (∀ a ∈ log, a.todo.reinit = true → a.pass.now ≤ last) ∧
      (w.todo.reinit = true → last = now)
  reinit : w.todo.reinit = true → p.lineLow = false ∧
    ∀ a ∈ log, a.todo.reinit = true → a.pass.now + BUS_SILENCE_AFTER_MS.toNat ≤ now

section Pass

variable {log : List Step} {heard : Nat} {p : Pass} {w : Watch} {quiet : UInt32}

/-- Traffic is a matter of the watch and of one flag of the record. -/
theorem silenceTraffic_same (w : Watch) (p : Pass) : ∃ trafficOpen trafficMs flags,
    silenceTraffic w p =
      { s := { w.s with trafficOpen := trafficOpen, trafficMs := trafficMs }
        record := { w.record with flags := flags }
        todo := w.todo } := by
  unfold silenceTraffic
  split
  · dsimp only
    split
    · exact ⟨_, _, _, rfl⟩
    · exact ⟨_, _, w.record.flags, rfl⟩
  · dsimp only
    split
    · exact ⟨_, _, _, rfl⟩
    · exact ⟨w.s.trafficOpen, w.s.trafficMs, w.record.flags, rfl⟩

theorem Asleep.traffic (h : Asleep log heard p.now p w) :
    Asleep log heard p.now p (silenceTraffic w p) := by
  obtain ⟨trafficOpen, trafficMs, flags, hsame⟩ := silenceTraffic_same w p
  rw [hsame]
  obtain ⟨h1, h2, h3, h4, h5, h6, h7, h8, h9, h10⟩ := h
  exact ⟨h1, h2, h3, h4, h5, h6, h7, h8, h9, h10⟩

theorem Asleep.reinits_apart (h : Asleep log heard p.now p w) (hwrap : p.now < heard + 2 ^ 32) :
    Asleep log heard p.now p (silenceReinit w p) := by
  unfold silenceReinit
  split
  · next hdue =>
      rw [Bool.and_eq_true, Bool.not_eq_true', decide_eq_true_eq] at hdue
      obtain ⟨last, hlast, hheard, hnow, hbefore, _⟩ := h.reinits
      have helapsed : BUS_SILENCE_AFTER_MS.toNat ≤ p.now - last := by
        rw [← elapsed_toNat hnow (by omega), ← hlast]
        exact UInt32.le_iff_toNat_le.mp hdue.2
      have hafter : 180000 ≤ p.now - last := helapsed
      refine ⟨h.silent, h.contact, h.heardMs, h.written, h.saves, h.saveLate, h.restarts,
        h.restart, ⟨p.now, rfl, by omega, Nat.le_refl _, ?_, fun _ => rfl⟩, ?_⟩
      · intro a ha hreinit
        have := hbefore a ha hreinit
        omega
      · intro _
        refine ⟨hdue.1, ?_⟩
        intro a ha hreinit
        have hearlier := hbefore a ha hreinit
        show a.pass.now + 180000 ≤ p.now
        omega
  · exact h

/-- The minutes of a silence, as they are counted and as they are. -/
theorem minutes_of_quiet (hquiet : quiet.toNat = p.now - heard) :
    heard ≤ p.now → heard + (busSilenceMinutes quiet).toNat * 60000 ≤ p.now := by
  intro hpast
  rw [busSilenceMinutes_toNat, hquiet]
  omega

theorem Asleep.save (h : Asleep log heard p.now p w) (hpast : heard ≤ p.now)
    (hquiet : quiet.toNat = p.now - heard) (hnone : w.todo.save = false)
    (hnorestart : w.todo.restart = false) :
    Asleep log heard p.now p (silenceSave w (busSilenceMinutes quiet)) := by
  unfold silenceSave
  split
  · next hdue =>
      rw [Bool.and_eq_true, decide_eq_true_eq, decide_eq_true_eq] at hdue
      have hminutes := minutes_of_quiet hquiet hpast
      obtain ⟨hsix, hmark⟩ := marks_next (fun hwritten => (h.written hwritten).1) hdue.1 hdue.2
      refine ⟨h.silent, h.contact, h.heardMs, fun _ => ⟨hsix, hminutes⟩, ?_, fun _ => ?_,
        h.restarts, ?_, h.reinits, h.reinit⟩
      · have hsaves := h.saves
        rw [hnone] at hsaves
        show _ + 1 ≤ marks (busSilenceMinutes quiet).toNat + w.s.restarted.toNat
        replace hsaves : (since Step.contact log).countP (·.todo.save) + 0 ≤ _ := hsaves
        omega
      · show heard + 360000 ≤ p.now
        omega
      · intro hrestart
        exact absurd (hnorestart.symm.trans hrestart) Bool.false_ne_true
  · exact h

theorem Asleep.restarts_once (h : Asleep log heard p.now p w) (hpast : heard ≤ p.now)
    (hquiet : quiet.toNat = p.now - heard) :
    Asleep log heard p.now p (silenceRestart w p quiet (busSilenceMinutes quiet)) := by
  unfold silenceRestart
  split
  · next hdue =>
      rw [Bool.and_eq_true, Bool.and_eq_true, Bool.not_eq_true', decide_eq_true_eq] at hdue
      obtain ⟨⟨hallowed, hfirst⟩, hlong⟩ := hdue
      replace hlong : 1200000 ≤ quiet.toNat := UInt32.le_iff_toNat_le.mp hlong
      have hminutes := minutes_of_quiet hquiet hpast
      have htwenty : 20 ≤ (busSilenceMinutes quiet).toNat := by
        rw [busSilenceMinutes_toNat]
        omega
      have hsaved : atLeastOne (busSilenceMinutes quiet) = busSilenceMinutes quiet :=
        atLeastOne_of_pos (by omega)
      have hmore : w.s.savedMinutes.toNat ≤ (busSilenceMinutes quiet).toNat := by
        by_cases hzero : w.s.savedMinutes = 0
        · rw [hzero]
          exact Nat.zero_le _
        · have hwritten := (h.written hzero).2
          have hmax := w.s.savedMinutes.toNat_lt
          rw [busSilenceMinutes_toNat, hquiet]
          omega
      refine ⟨h.silent, h.contact, h.heardMs, ?_, ?_, ?_, fun hno => (nomatch hno), ?_,
        h.reinits, h.reinit⟩
      · intro _
        show 6 ≤ (atLeastOne (busSilenceMinutes quiet)).toNat ∧
          heard + (atLeastOne (busSilenceMinutes quiet)).toNat * 60000 ≤ p.now
        rw [hsaved]
        exact ⟨by omega, hminutes⟩
      · show _ + 1 ≤ marks (atLeastOne (busSilenceMinutes quiet)).toNat + 1
        rw [hsaved]
        have hsaves := h.saves
        rw [hfirst] at hsaves
        replace hsaves : _ ≤ marks w.s.savedMinutes.toNat + 0 := hsaves
        have hmarks := marks_mono hmore
        omega
      · intro _
        show heard + 360000 ≤ p.now
        omega
      · intro _
        refine ⟨hallowed, rfl, rfl, ?_, h.restarts hfirst⟩
        show heard + 1200000 ≤ p.now
        omega
  · exact h

/-- Between passes nothing is asked, and the time goes on. -/
theorem Asleep.later {now : Nat} {q : Pass} (h : Asleep log heard now q w) (hnow : now ≤ p.now)
    (hdone : w.todo = {}) : Asleep log heard p.now p w := by
  obtain ⟨last, hlast, hheard, hbefore, hreinits, _⟩ := h.reinits
  refine ⟨h.silent, h.contact, h.heardMs, ?_, h.saves, ?_, h.restarts, ?_, ?_, ?_⟩
  · intro hwritten
    obtain ⟨hsix, hminutes⟩ := h.written hwritten
    exact ⟨hsix, by omega⟩
  · intro hsave
    rw [hdone] at hsave
    exact (nomatch hsave)
  · intro hrestart
    rw [hdone] at hrestart
    exact (nomatch hrestart)
  · refine ⟨last, hlast, hheard, by omega, hreinits, ?_⟩
    intro hreinit
    rw [hdone] at hreinit
    exact (nomatch hreinit)
  · intro hreinit
    rw [hdone] at hreinit
    exact (nomatch hreinit)

/-- A pass that asked is part of the log. -/
theorem Asleep.logged (h : Asleep log heard p.now p w) :
    Asleep (log ++ [{ pass := p, contact := false, todo := w.todo }]) heard p.now p
      { s := w.s, record := w.record } := by
  have hsince : since Step.contact (log ++ [{ pass := p, contact := false, todo := w.todo }]) =
      since Step.contact log ++ [{ pass := p, contact := false, todo := w.todo }] :=
    since_other rfl log
  obtain ⟨last, hlast, hheard, hbefore, hreinits, hnow⟩ := h.reinits
  refine ⟨h.silent, h.contact, h.heardMs, h.written, ?_, fun hno => (nomatch hno), ?_,
    fun hno => (nomatch hno), ⟨last, hlast, hheard, hbefore, ?_, fun hno => (nomatch hno)⟩,
    fun hno => (nomatch hno)⟩
  · rw [hsince, List.countP_append]
    have hsaves := h.saves
    cases hsave : w.todo.save with
    | false =>
        rw [hsave] at hsaves
        simpa [hsave] using hsaves
    | true =>
        rw [hsave] at hsaves
        simpa [hsave] using hsaves
  · intro hnone r hr
    rw [hsince, List.mem_append, List.mem_singleton] at hr
    rcases hr with hr | rfl
    · exact h.restarts hnone r hr
    · rw [← Bool.not_eq_true]
      intro hrestart
      exact absurd (hnone.symm.trans (h.restart hrestart).2.2.1) Bool.false_ne_true
  · intro a ha hreinit
    rw [List.mem_append, List.mem_singleton] at ha
    rcases ha with ha | rfl
    · exact hreinits a ha hreinit
    · exact Nat.le_of_eq (hnow hreinit).symm

end Pass

/-- What holds of a unit after its log. -/
structure Kept (log : List Step) (u : UnitState) : Prop where
  heardMs : u.s.heardMs = UInt32.ofNat u.heard
  past : u.heard ≤ u.now
  contacts : ∀ c ∈ log, c.contact = true → c.pass.now ≤ u.heard
  met : u.s.contactFrames ≠ 0 → ∃ c ∈ log, c.contact = true
  awake : u.s.silent = false →
    (∀ e ∈ since Step.contact log, e.todo.save = false ∧ e.todo.restart = false) ∧
      ∀ a ∈ log, a.todo.reinit = true → a.pass.now ≤ u.heard
  asleep : u.s.silent = true → ∃ p, Asleep log u.heard u.now p { s := u.s, record := u.record }

section Kept

variable {log : List Step} {u : UnitState} {p : Pass}

theorem kept_start (record : UnitBusRecord) : Kept [] { record := record } := by
  refine ⟨rfl, Nat.le_refl 0, fun _ hno => (nomatch hno), fun hno => absurd rfl hno,
    fun _ => ⟨fun _ hno => (nomatch hno), fun _ hno => (nomatch hno)⟩, fun hno => (nomatch hno)⟩

/-- The hardware was last restarted in the past. -/
theorem Kept.reinits (h : Kept log u) : ∀ a ∈ log, a.todo.reinit = true → a.pass.now ≤ u.now := by
  intro a ha hreinit
  cases hsilent : u.s.silent with
  | false => exact Nat.le_trans ((h.awake hsilent).2 a ha hreinit) h.past
  | true =>
      obtain ⟨q, hasleep⟩ := h.asleep hsilent
      obtain ⟨last, _, _, hlast, hreinits, _⟩ := hasleep.reinits
      exact Nat.le_trans (hreinits a ha hreinit) hlast

/-- No more than eight writes since the last contact. -/
theorem Kept.saves (h : Kept log u) : (since Step.contact log).countP (·.todo.save) ≤ 8 := by
  cases hsilent : u.s.silent with
  | false =>
      have hnone : (since Step.contact log).countP (·.todo.save) = 0 := by
        rw [List.countP_eq_zero]
        intro e he
        rw [((h.awake hsilent).1 e he).1]
        exact Bool.false_ne_true
      omega
  | true =>
      obtain ⟨q, hasleep⟩ := h.asleep hsilent
      have hsaves := hasleep.saves
      have hmarks := marks_le u.s.savedMinutes.toNat
      have honce := Bool.toNat_le u.s.restarted
      dsimp only at hsaves
      omega

/-! ## §5. One pass. -/

/-- A pass in which a frame had arrived. -/
theorem Kept.contact_pass (h : Kept log u) (hnow : u.now ≤ p.now)
    (hframes : p.frames ≠ u.s.lastFrames) :
    Fair log (u.tick p).1 ∧ Kept (log ++ [(u.tick p).1]) (u.tick p).2 := by
  have hcontact : u.contact p = true := decide_eq_true hframes
  have htick : busSilenceTick u.s u.record p = heard u.s u.record p := by
    unfold busSilenceTick
    rw [if_pos hframes]
  have hstep : (u.tick p).1 =
      { pass := p, contact := true, todo := (heard u.s u.record p).todo } := by
    unfold UnitState.tick
    rw [htick, hcontact]
  have hnext : (u.tick p).2 =
      { s := (heard u.s u.record p).s, record := (heard u.s u.record p).record
        now := p.now, heard := p.now } := by
    unfold UnitState.tick
    rw [htick, hcontact, if_pos (Or.inl rfl)]
  have htodo : (heard u.s u.record p).todo.reinit = false ∧
      (heard u.s u.record p).todo.restart = false ∧
      ((heard u.s u.record p).todo.save = true →
        u.s.silent = true ∧ u.s.savedMinutes ≠ 0) := by
    unfold heard silenceEnds
    cases hsilent : u.s.silent with
    | false => exact ⟨rfl, rfl, fun hno => (nomatch hno)⟩
    | true => exact ⟨rfl, rfl, fun hsave => ⟨rfl, of_decide_eq_true hsave⟩⟩
  obtain ⟨hreinit, hrestart, hsave⟩ := htodo
  have hpast := h.past
  rw [hstep, hnext]
  constructor
  · constructor
    · intro hsaved
      obtain ⟨hsilent, hwritten⟩ := hsave hsaved
      obtain ⟨q, hasleep⟩ := h.asleep hsilent
      obtain ⟨hsix, hlong⟩ := hasleep.written hwritten
      replace hlong : u.heard + u.s.savedMinutes.toNat * 60000 ≤ u.now := hlong
      replace hsix : 6 ≤ u.s.savedMinutes.toNat := hsix
      constructor
      · apply h.met
        intro hzero
        refine hasleep.contact ?_
        rw [hzero]
        decide
      · intro c hc hcontact
        have hearlier := h.contacts c hc hcontact
        show c.pass.now + 360000 ≤ p.now
        omega
    · have hsaves := h.saves
      rw [List.countP_append]
      have hone := List.countP_le_length
        (p := fun e : Step => e.todo.save)
        (l := [{ pass := p, contact := true, todo := (heard u.s u.record p).todo }])
      rw [List.length_singleton] at hone
      omega
    · intro hno
      exact absurd (hrestart.symm.trans hno) Bool.false_ne_true
    · intro hno
      exact absurd (hreinit.symm.trans hno) Bool.false_ne_true
  · have hall : ∀ a ∈ log ++ [{ pass := p, contact := true
                                todo := (heard u.s u.record p).todo }],
        a.todo.reinit = true → a.pass.now ≤ p.now := by
      intro a ha hre
      rw [List.mem_append, List.mem_singleton] at ha
      rcases ha with ha | rfl
      · exact Nat.le_trans (h.reinits a ha hre) hnow
      · exact Nat.le_refl _
    refine ⟨rfl, Nat.le_refl _, ?_, ?_, ?_, fun hno => (nomatch hno)⟩
    · intro c hc hcontact
      rw [List.mem_append, List.mem_singleton] at hc
      rcases hc with hc | rfl
      · have hearlier := h.contacts c hc hcontact
        show c.pass.now ≤ p.now
        omega
      · exact Nat.le_refl _
    · intro _
      exact ⟨_, List.mem_append_right _ List.mem_cons_self, rfl⟩
    · intro _
      refine ⟨?_, hall⟩
      rw [since_mark rfl]
      exact fun _ hno => (nomatch hno)

/-- A pass that asks for nothing, outside a silence. -/
theorem Kept.idle_pass (h : Kept log u) (hsilent : u.s.silent = false)
    {u' : UnitState} (hs : u'.s.silent = false) (hframes : u'.s.contactFrames = u.s.contactFrames)
    (hheard : u'.s.heardMs = UInt32.ofNat u'.heard) (hlater : u.heard ≤ u'.heard)
    (hpast : u'.heard ≤ u'.now) :
    Fair log { pass := p, contact := false, todo := {} } ∧
      Kept (log ++ [{ pass := p, contact := false, todo := {} }]) u' := by
  have hsaves := h.saves
  constructor
  · refine ⟨fun hno => (nomatch hno), ?_, fun hno => (nomatch hno), fun hno => (nomatch hno)⟩
    rw [List.countP_append]
    show _ + 0 ≤ 9
    omega
  · refine ⟨hheard, hpast, ?_, ?_, ?_, fun hno => absurd (hs.symm.trans hno) Bool.false_ne_true⟩
    · intro c hc hcontact
      rw [List.mem_append, List.mem_singleton] at hc
      rcases hc with hc | rfl
      · exact Nat.le_trans (h.contacts c hc hcontact) hlater
      · exact (nomatch hcontact)
    · intro hmet
      rw [hframes] at hmet
      obtain ⟨c, hc, hcontact⟩ := h.met hmet
      exact ⟨c, List.mem_append_left _ hc, hcontact⟩
    · intro _
      obtain ⟨hnone, hreinits⟩ := h.awake hsilent
      constructor
      · rw [since_other rfl]
        intro e he
        rw [List.mem_append, List.mem_singleton] at he
        rcases he with he | rfl
        · exact hnone e he
        · exact ⟨rfl, rfl⟩
      · intro a ha hreinit
        rw [List.mem_append, List.mem_singleton] at ha
        rcases ha with ha | rfl
        · exact Nat.le_trans (hreinits a ha hreinit) hlater
        · exact (nomatch hreinit)

/-- A silence that is one already, or begins. -/
theorem Kept.begins (h : Kept log u) (hnow : u.now ≤ p.now)
    (hcontact : ¬u.s.contactFrames < BUS_SILENCE_CONTACT_FRAMES) {quiet : UInt32}
    (hquiet : quiet.toNat = p.now - u.heard)
    (hlong : u.s.silent = true ∨ BUS_SILENCE_AFTER_MS.toNat ≤ quiet.toNat) :
    Asleep log u.heard p.now p (silenceBegins { s := u.s, record := u.record } p quiet) := by
  have hpast := h.past
  unfold silenceBegins
  cases hsilent : u.s.silent with
  | true =>
      rw [if_neg (by simp)]
      obtain ⟨q, hasleep⟩ := h.asleep hsilent
      exact hasleep.later hnow rfl
  | false =>
      rw [if_pos (by simp)]
      have hafter : 180000 ≤ quiet.toNat := by
        rcases hlong with hno | hafter
        · exact absurd (hsilent.symm.trans hno) Bool.false_ne_true
        · exact hafter
      obtain ⟨hnone, hreinits⟩ := h.awake hsilent
      have hzero : (since Step.contact log).countP (·.todo.save) = 0 := by
        rw [List.countP_eq_zero]
        intro e he
        rw [(hnone e he).1]
        exact Bool.false_ne_true
      refine ⟨rfl, hcontact, h.heardMs, fun hno => absurd rfl hno, ?_, fun hno => (nomatch hno),
        fun _ r hr => (hnone r hr).2, fun hno => (nomatch hno), ?_, fun hno => (nomatch hno)⟩
      · rw [hzero]
        exact Nat.zero_le _
      · refine ⟨p.now - 180000, ?_, by omega, by omega, ?_, fun hno => (nomatch hno)⟩
        · show UInt32.ofNat p.now - 180000 = UInt32.ofNat (p.now - 180000)
          rw [UInt32.ofNat_sub (by omega)]
          rfl
        · intro a ha hreinit
          have hearlier := hreinits a ha hreinit
          omega

/-- A pass of a silence. -/
theorem Kept.silent_pass (h : Kept log u) (hnow : u.now ≤ p.now)
    (hcontact : ¬u.s.contactFrames < BUS_SILENCE_CONTACT_FRAMES) {quiet : UInt32}
    (hwrap : p.now < u.heard + 2 ^ 32) (hquiet : quiet.toNat = p.now - u.heard)
    (hlong : u.s.silent = true ∨ BUS_SILENCE_AFTER_MS.toNat ≤ quiet.toNat) :
    Asleep log u.heard p.now p (silencePass u.s u.record p quiet) := by
  have hpast := h.past
  have hbegun := h.begins hnow hcontact hquiet hlong
  have hreinited := hbegun.traffic.reinits_apart hwrap
  have hquiettodo : ∀ w : Watch, (silenceReinit (silenceTraffic w p) p).todo.save = w.todo.save ∧
      (silenceReinit (silenceTraffic w p) p).todo.restart = w.todo.restart := by
    intro w
    obtain ⟨trafficOpen, trafficMs, flags, hsame⟩ := silenceTraffic_same w p
    rw [hsame]
    unfold silenceReinit
    split
    · exact ⟨rfl, rfl⟩
    · exact ⟨rfl, rfl⟩
  have hfirst : (silenceBegins { s := u.s, record := u.record } p quiet).todo.save = false ∧
      (silenceBegins { s := u.s, record := u.record } p quiet).todo.restart = false := by
    unfold silenceBegins
    split
    · exact ⟨rfl, rfl⟩
    · exact ⟨rfl, rfl⟩
  have hsaved := hreinited.save (by omega) hquiet ((hquiettodo _).1.trans hfirst.1)
    ((hquiettodo _).2.trans hfirst.2)
  exact hsaved.restarts_once (by omega) hquiet

/-- What a pass of a silence asks for is fair, and is kept. -/
theorem Kept.asleep_pass (h : Kept log u) {w : Watch} (hpast : u.heard ≤ p.now)
    (hcontact : ¬u.s.contactFrames < BUS_SILENCE_CONTACT_FRAMES)
    (hasleep : Asleep log u.heard p.now p w) :
    Fair log { pass := p, contact := false, todo := w.todo } ∧
      Kept (log ++ [{ pass := p, contact := false, todo := w.todo }])
        { s := w.s, record := w.record, now := p.now, heard := u.heard } := by
  obtain ⟨c, hc, hmet⟩ : ∃ c ∈ log, c.contact = true := by
    apply h.met
    intro hzero
    rw [hzero] at hcontact
    exact hcontact (by decide)
  have hlogged := hasleep.logged
  constructor
  · constructor
    · intro hsave
      refine ⟨⟨c, hc, hmet⟩, ?_⟩
      intro c hc hcontact
      have hearlier := h.contacts c hc hcontact
      have hlate := hasleep.saveLate hsave
      show c.pass.now + _ ≤ p.now
      omega
    · have hsaves := hlogged.saves
      rw [since_other rfl] at hsaves
      have hmarks := marks_le w.s.savedMinutes.toNat
      have honce := Bool.toNat_le w.s.restarted
      dsimp only at hsaves
      omega
    · intro hrestart
      obtain ⟨hallowed, hsave, _, hlong, hfirst⟩ := hasleep.restart hrestart
      refine ⟨hallowed, hsave, rfl, ?_, hfirst⟩
      intro c hc hcontact
      have hearlier := h.contacts c hc hcontact
      show c.pass.now + _ ≤ p.now
      omega
    · exact hasleep.reinit
  · refine ⟨hasleep.heardMs, hpast, ?_, ?_, ?_, fun _ => ⟨p, hlogged⟩⟩
    · intro c hc hcontact
      rw [List.mem_append, List.mem_singleton] at hc
      rcases hc with hc | rfl
      · exact h.contacts c hc hcontact
      · exact (nomatch hcontact)
    · intro _
      exact ⟨c, List.mem_append_left _ hc, hmet⟩
    · intro hawake
      exact absurd (hawake.symm.trans hasleep.silent) Bool.false_ne_true

theorem Kept.tick (h : Kept log u) (hnow : u.now ≤ p.now)
    (hwrap : BUS_SILENCE_CONTACT_FRAMES ≤ u.s.contactFrames → p.now < u.heard + 2 ^ 32) :
    Fair log (u.tick p).1 ∧ Kept (log ++ [(u.tick p).1]) (u.tick p).2 := by
  by_cases hframes : p.frames ≠ u.s.lastFrames
  · exact h.contact_pass hnow hframes
  have hcontact : u.contact p = false := decide_eq_false hframes
  have hpast := h.past
  by_cases hfew : u.s.contactFrames < BUS_SILENCE_CONTACT_FRAMES
  · have htick : busSilenceTick u.s u.record p =
        { s := { u.s with heardMs := p.nowMs }, record := u.record } := by
      unfold busSilenceTick
      rw [if_neg hframes, if_pos hfew]
    have hsilent : u.s.silent = false := by
      rw [← Bool.not_eq_true]
      intro hsilent
      obtain ⟨q, hasleep⟩ := h.asleep hsilent
      exact hasleep.contact hfew
    unfold UnitState.tick
    rw [htick, hcontact, if_pos (Or.inr hfew)]
    exact h.idle_pass hsilent hsilent rfl rfl (Nat.le_trans hpast hnow) (Nat.le_refl _)
  · have hwrapped := hwrap (UInt16.not_lt.mp hfew)
    have hquiet : (p.nowMs - u.s.heardMs).toNat = p.now - u.heard := by
      rw [h.heardMs]
      exact elapsed_toNat (Nat.le_trans hpast hnow) hwrapped
    have hheard : ¬(u.contact p = true ∨ u.s.contactFrames < BUS_SILENCE_CONTACT_FRAMES) := by
      rw [hcontact]
      rintro (hno | hno)
      · exact (nomatch hno)
      · exact hfew hno
    by_cases hcalm : (!u.s.silent && decide (p.nowMs - u.s.heardMs < BUS_SILENCE_AFTER_MS)) = true
    · have htick : busSilenceTick u.s u.record p = { s := u.s, record := u.record } := by
        unfold busSilenceTick
        rw [if_neg hframes, if_neg hfew]
        dsimp only
        rw [if_pos hcalm]
      rw [Bool.and_eq_true, Bool.not_eq_true'] at hcalm
      unfold UnitState.tick
      rw [htick, hcontact]
      rw [hcontact] at hheard
      rw [if_neg hheard]
      exact h.idle_pass hcalm.1 hcalm.1 rfl h.heardMs (Nat.le_refl _) (Nat.le_trans hpast hnow)
    · have htick : busSilenceTick u.s u.record p =
          silencePass u.s u.record p (p.nowMs - u.s.heardMs) := by
        unfold busSilenceTick
        rw [if_neg hframes, if_neg hfew]
        dsimp only
        rw [if_neg hcalm]
      have hlong : u.s.silent = true ∨
          BUS_SILENCE_AFTER_MS.toNat ≤ (p.nowMs - u.s.heardMs).toNat := by
        rw [Bool.and_eq_true, Bool.not_eq_true', decide_eq_true_eq, not_and_or] at hcalm
        rcases hcalm with hsilent | hlong
        · exact Or.inl (Bool.not_eq_false _ ▸ hsilent)
        · exact Or.inr (UInt32.le_iff_toNat_le.mp (UInt32.not_lt.mp hlong))
      have hasleep := h.silent_pass hnow hfew hwrapped hquiet hlong
      unfold UnitState.tick
      rw [htick, hcontact]
      rw [hcontact] at hheard
      rw [if_neg hheard]
      exact h.asleep_pass (Nat.le_trans hpast hnow) hfew hasleep

end Kept

/-! ## §6. The record. -/

/-- The longest silence is no shorter than the last. -/
def Longest (record : UnitBusRecord) : Prop := record.lastMinutes ≤ record.longestMinutes

/-- A restart is heard at most once, and one still open is not heard yet. -/
def HeardLess (s : BusSilence) (record : UnitBusRecord) : Prop :=
  record.reinitsHeard ≤ record.reinits ∧
    (s.reinitOpen = true → record.reinitsHeard < record.reinits ∨ record.reinits = 0xFF)

section Record

variable {record : UnitBusRecord} {s : BusSilence}

theorem longest_withMinutes (record : UnitBusRecord) (minutes : UInt8) :
    Longest (withMinutes record minutes) := by
  unfold Longest withMinutes
  dsimp only
  split
  · exact UInt8.le_refl _
  · next hmore => exact UInt8.not_lt.mp hmore

theorem busSilenceBump_le (counter : UInt8) : counter ≤ busSilenceBump counter := by
  unfold busSilenceBump
  split
  · next hroom =>
      rw [UInt8.lt_iff_toNat_lt] at hroom
      replace hroom : counter.toNat < 255 := hroom
      rw [UInt8.le_iff_toNat_le, UInt8.toNat_add]
      show counter.toNat ≤ (counter.toNat + 1) % 256
      omega
  · exact UInt8.le_refl _

/-- A counter that was bumped is ahead, or full. -/
theorem busSilenceBump_open {heard counter : UInt8} (h : heard ≤ counter) :
    heard < busSilenceBump counter ∨ busSilenceBump counter = 0xFF := by
  have hle := UInt8.le_iff_toNat_le.mp h
  unfold busSilenceBump
  split
  · next hroom =>
      rw [UInt8.lt_iff_toNat_lt] at hroom
      replace hroom : counter.toNat < 255 := hroom
      refine Or.inl ?_
      rw [UInt8.lt_iff_toNat_lt, UInt8.toNat_add]
      show heard.toNat < (counter.toNat + 1) % 256
      omega
  · next hfull =>
      refine Or.inr ?_
      rw [UInt8.lt_iff_toNat_lt, Nat.not_lt] at hfull
      replace hfull : 255 ≤ counter.toNat := hfull
      apply UInt8.toNat_inj.mp
      show counter.toNat = 255
      have := counter.toNat_lt
      omega

/-- One that is ahead may be caught up with. -/
theorem busSilenceBump_within {heard counter : UInt8} (h : heard < counter ∨ counter = 0xFF) :
    busSilenceBump heard ≤ counter := by
  unfold busSilenceBump
  split
  · next hroom =>
      rw [UInt8.lt_iff_toNat_lt] at hroom
      replace hroom : heard.toNat < 255 := hroom
      rw [UInt8.le_iff_toNat_le, UInt8.toNat_add]
      show (heard.toNat + 1) % 256 ≤ counter.toNat
      rcases h with hless | rfl
      · have := UInt8.lt_iff_toNat_lt.mp hless
        omega
      · show (heard.toNat + 1) % 256 ≤ 255
        omega
  · next hfull =>
      rcases h with hless | rfl
      · exact UInt8.le_of_lt hless
      · rw [UInt8.le_iff_toNat_le]
        show heard.toNat ≤ 255
        have := heard.toNat_lt
        omega

theorem longest_ends (nowMs : UInt32) : Longest (silenceEnds s record nowMs).1 := by
  unfold silenceEnds
  dsimp only
  split
  · exact longest_withMinutes record _
  · exact longest_withMinutes record _

theorem longest_tick (h : Longest record) (p : Pass) :
    Longest (busSilenceTick s record p).record := by
  unfold busSilenceTick
  split
  · unfold heard
    dsimp only
    split
    · exact longest_ends p.nowMs
    · exact h
  · split
    · exact h
    · dsimp only
      split
      · exact h
      · have hbegins : ∀ (w : Watch) quiet, Longest w.record →
            Longest (silenceBegins w p quiet).record := by
          intro w quiet hw
          unfold silenceBegins
          split
          · exact longest_withMinutes w.record _
          · exact hw
        have htraffic : ∀ w : Watch, Longest w.record → Longest (silenceTraffic w p).record := by
          intro w hw
          obtain ⟨_, _, _, hsame⟩ := silenceTraffic_same w p
          rw [hsame]
          exact hw
        have hreinit : ∀ w : Watch, Longest w.record → Longest (silenceReinit w p).record := by
          intro w hw
          unfold silenceReinit
          split
          · exact hw
          · exact hw
        have hsave : ∀ (w : Watch) minutes, Longest w.record →
            Longest (silenceSave w minutes).record := by
          intro w minutes hw
          unfold silenceSave
          split
          · exact longest_withMinutes w.record _
          · exact hw
        have hrestart : ∀ (w : Watch) quiet minutes, Longest w.record →
            Longest (silenceRestart w p quiet minutes).record := by
          intro w quiet minutes hw
          unfold silenceRestart
          split
          · exact longest_withMinutes w.record _
          · exact hw
        exact hrestart _ _ _ (hsave _ _ (hreinit _ (htraffic _ (hbegins _ _ h))))

theorem heardLess_ends (h : HeardLess s record) (nowMs : UInt32) :
    (silenceEnds s record nowMs).1.reinitsHeard ≤ (silenceEnds s record nowMs).1.reinits := by
  unfold silenceEnds
  dsimp only
  split
  · next hheard =>
      rw [Bool.and_eq_true] at hheard
      exact busSilenceBump_within (h.2 hheard.1)
  · exact h.1

theorem heardLess_tick (h : HeardLess s record) (p : Pass) :
    HeardLess (busSilenceTick s record p).s (busSilenceTick s record p).record := by
  unfold busSilenceTick
  split
  · refine ⟨?_, fun hno => (nomatch hno)⟩
    unfold heard
    dsimp only
    split
    · exact heardLess_ends h p.nowMs
    · exact h.1
  · split
    · exact h
    · dsimp only
      split
      · exact h
      · have hbegins : ∀ (w : Watch) quiet, HeardLess w.s w.record →
            HeardLess (silenceBegins w p quiet).s (silenceBegins w p quiet).record := by
          intro w quiet hw
          unfold silenceBegins
          split
          · exact ⟨hw.1, fun hno => (nomatch hno)⟩
          · exact hw
        have htraffic : ∀ w : Watch, HeardLess w.s w.record →
            HeardLess (silenceTraffic w p).s (silenceTraffic w p).record := by
          intro w hw
          obtain ⟨_, _, _, hsame⟩ := silenceTraffic_same w p
          rw [hsame]
          exact hw
        have hreinit : ∀ w : Watch, HeardLess w.s w.record →
            HeardLess (silenceReinit w p).s (silenceReinit w p).record := by
          intro w hw
          unfold silenceReinit
          split
          · exact ⟨UInt8.le_trans hw.1 (busSilenceBump_le _), fun _ => busSilenceBump_open hw.1⟩
          · exact hw
        have hsave : ∀ (w : Watch) minutes, HeardLess w.s w.record →
            HeardLess (silenceSave w minutes).s (silenceSave w minutes).record := by
          intro w minutes hw
          unfold silenceSave
          split
          · exact hw
          · exact hw
        have hrestart : ∀ (w : Watch) quiet minutes, HeardLess w.s w.record →
            HeardLess (silenceRestart w p quiet minutes).s
              (silenceRestart w p quiet minutes).record := by
          intro w quiet minutes hw
          unfold silenceRestart
          split
          · exact hw
          · exact hw
        exact hrestart _ _ _ (hsave _ _ (hreinit _ (htraffic _ (hbegins _ _ h))))

end Record

/-! ## §7. Recovery is bounded. -/

theorem Run.kept {record : UnitBusRecord} {log : List Step} {u : UnitState} (h : Run record log u) :
    Each Fair log ∧ Kept log u := by
  induction h with
  | start => exact ⟨each_nil Fair, kept_start record⟩
  | pass p _ hnow hwrap ih =>
      obtain ⟨hfair, hkept⟩ := ih
      obtain ⟨hlast, hnext⟩ := hkept.tick hnow hwrap
      exact ⟨each_snoc.mpr ⟨hfair, hlast⟩, hnext⟩

/-- The record of a run that began with a sound one. -/
theorem Run.record {record : UnitBusRecord} {log : List Step} {u : UnitState} (h : Run record log u) :
    (Longest record → Longest u.record) ∧
      (record.reinitsHeard ≤ record.reinits → HeardLess u.s u.record) := by
  induction h with
  | start => exact ⟨id, fun hheard => ⟨hheard, fun hno => (nomatch hno)⟩⟩
  | pass p _ _ _ ih =>
      exact ⟨fun hlongest => longest_tick (ih.1 hlongest) p,
        fun hheard => heardLess_tick (ih.2 hheard) p⟩

/-- What recovery may ask for between two contacts, the second included. -/
theorem stretch_saves {log : List Step} (hfair : Each Fair log) {pre mid post : List Step}
    {last : Step} (hlog : log = pre ++ mid ++ last :: post)
    (hmid : ∀ e ∈ mid, e.contact = false) :
    (mid ++ [last]).countP (·.todo.save) ≤ 9 := by
  have hfew := (hfair (pre ++ mid) last post hlog).saveFew
  rw [since_stretch pre mid hmid, List.append_assoc, List.countP_append] at hfew
  omega

/-- **Bus-silence recovery is bounded**: between two contacts there are at most
nine writes, none before the silence has lasted twice its time-out; at most one
restart of the unit, behind its gate, late and with a write; and the restarts of
the hardware are spaced, with the line free.  The record stays sound. -/
theorem recovery_bounded {record : UnitBusRecord} {log : List Step} {u : UnitState}
    (h : Run record log u) :
    Each Fair log ∧
      (∀ pre mid last post, log = pre ++ mid ++ last :: post →
        (∀ e ∈ mid, e.contact = false) → (mid ++ [last]).countP (·.todo.save) ≤ 9) ∧
      (Longest record → Longest u.record) ∧
      (record.reinitsHeard ≤ record.reinits → u.record.reinitsHeard ≤ u.record.reinits) := by
  refine ⟨h.kept.1, fun pre mid last post => stretch_saves h.kept.1, h.record.1, ?_⟩
  intro hheard
  exact (h.record.2 hheard).1

/-- In contact, then silent: the hardware is restarted twice, and the second time
the length is written. -/
def quietPasses : List Pass :=
  [{ now := 1000, frames := 8 }, { now := 181000, frames := 8 }, { now := 361000, frames := 8 }]

def quietRun : List Step × UnitState :=
  quietPasses.foldl (fun acc p => (acc.1 ++ [(acc.2.tick p).1], (acc.2.tick p).2))
    ([], { record := {} })

theorem recovery_bounded_quiet : Each Fair quietRun.1 ∧ quietRun.2.record.lastMinutes = 6 ∧
    quietRun.2.record.lastMinutes ≤ quietRun.2.record.longestMinutes := by
  have hrun : Run {} quietRun.1 quietRun.2 :=
    .pass _ (.pass _ (.pass _ .start (by decide) (by decide)) (by decide) (by decide))
      (by decide) (by decide)
  obtain ⟨hfair, _, hlongest, _⟩ := recovery_bounded hrun
  exact ⟨hfair, by decide, hlongest (UInt8.le_refl _)⟩

end SplitFlap.Silence
