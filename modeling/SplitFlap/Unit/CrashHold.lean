/-
  SplitFlap.Unit.CrashHold — the bootloader stops starting a sketch that crashes.

  Two bytes of RAM outlive a watchdog reset.  Twiboot (`main.c`) counts in them the watchdog
  resets in a row and keeps the unit from the third on; the sketch (`Unit.ino`) clears them
  after 20 s and before a restart it asks for, and an order to start the sketch makes them
  unreadable.  The count is a function of the history: the watchdog resets since the last
  event that clears.
-/
import SplitFlap.Lib.Machine
import SplitFlap.Lib.Stretch
import Mathlib.Data.Fintype.Basic

namespace SplitFlap.CrashHold

open Machine Stretch

abbrev CRASH_REC_TAG : UInt8 := 0xA0
abbrev CRASH_REC_THRESHOLD : UInt8 := 3
abbrev PORF : UInt8 := 0
abbrev EXTRF : UInt8 := 1
abbrev BORF : UInt8 := 2
abbrev WDRF : UInt8 := 3
abbrev CMD_WAIT : UInt8 := 0x00
abbrev CMD_SWITCH_APPLICATION : UInt8 := 0x01
abbrev CMD_ACCESS_MEMORY : UInt8 := 0x02
abbrev CMD_ACCESS_CHIPINFO : UInt8 := 0x10 ||| CMD_ACCESS_MEMORY
abbrev CMD_ACCESS_FLASH : UInt8 := 0x20 ||| CMD_ACCESS_MEMORY
abbrev CMD_WRITE_FLASH_PAGE : UInt8 := 0x40 ||| CMD_ACCESS_MEMORY
abbrev CMD_BOOT_APPLICATION : UInt8 := 0x20 ||| CMD_SWITCH_APPLICATION
abbrev BOOTTYPE_APPLICATION : UInt8 := 0x80
abbrev MEMTYPE_CHIPINFO : UInt8 := 0x00
abbrev MEMTYPE_FLASH : UInt8 := 0x01
abbrev SPM_PAGESIZE : UInt8 := 128

/-! ## §1. The chip. -/

/-- What has the CPU; `spinning` is the sketch waiting for the watchdog it armed. -/
inductive Runs where
  | off
  | twiboot
  | sketch
  | spinning
  deriving DecidableEq

inductive Cause where
  | powerOn
  | external
  | brownout
  | watchdog
  deriving DecidableEq

/-- The cause's bit of MCUSR. -/
def Cause.flag : Cause → UInt8
  | .powerOn => 1 <<< PORF
  | .external => 1 <<< EXTRF
  | .brownout => 1 <<< BORF
  | .watchdog => 1 <<< WDRF

/-- `recA` and `recB` are the crash record, `word0` the first word of the flash. -/
structure Chip where
  runs : Runs := .off
  recA : UInt8 := 0
  recB : UInt8 := 0
  MCUSR : UInt8 := 0
  GPIOR0 : UInt8 := 0
  word0 : UInt16 := 0xFFFF
  app_installed : Bool := true
  cmd : UInt8 := CMD_WAIT
  crashRecCleared : Bool := false
  deriving DecidableEq

/-! ## §2. Twiboot. -/

def disable_wdt_timer (c : Chip) : Chip := { c with GPIOR0 := c.MCUSR, MCUSR := 0 }

/-- What a watchdog reset counts, from the record it finds. -/
def counted (a b : UInt8) : UInt8 :=
  if a ^^^ b ≠ 0xFF then 1
  else if a &&& 0xF0 ≠ CRASH_REC_TAG then 1
  else
    let count := a &&& 0x0F
    if count < 15 then count + 1 else count

/-- `main`, as far as its loop. -/
def main (c : Chip) : Chip :=
  let count := if c.GPIOR0 &&& (1 <<< WDRF) = 0 then 0 else counted c.recA c.recB
  let record := CRASH_REC_TAG ||| count
  { c with
    runs := .twiboot
    cmd := CMD_WAIT
    recA := record
    recB := ~~~record
    app_installed := c.word0 ≠ 0xFFFF && !(count ≥ CRASH_REC_THRESHOLD) }

/-- A byte of a transmission to the unit; true when the next is to be acknowledged. -/
def TWI_data_write (bcnt data : UInt8) (c : Chip) : Bool × Chip :=
  if bcnt = 0 then
    if data = CMD_SWITCH_APPLICATION ∨ data = CMD_ACCESS_MEMORY ∨ data = CMD_WAIT then
      (true, { c with cmd := data })
    else (false, { c with cmd := CMD_BOOT_APPLICATION })
  else if bcnt = 1 then
    if c.cmd = CMD_SWITCH_APPLICATION then
      if data = BOOTTYPE_APPLICATION then
        (false, { c with cmd := CMD_BOOT_APPLICATION, recA := 0 })
      else (false, c)
    else if c.cmd = CMD_ACCESS_MEMORY then
      if data = MEMTYPE_CHIPINFO then (true, { c with cmd := CMD_ACCESS_CHIPINFO })
      else if data = MEMTYPE_FLASH then (true, { c with cmd := CMD_ACCESS_FLASH })
      else (false, c)
    else (false, c)
  else if bcnt = 2 ∨ bcnt = 3 then (true, c)
  else if c.cmd = CMD_ACCESS_FLASH then
    if bcnt - 4 ≥ SPM_PAGESIZE - 1 then (false, { c with cmd := CMD_WRITE_FLASH_PAGE })
    else (true, c)
  else (false, c)

/-- The bytes of a transmission from number `bcnt` on. The loop of `main` ends with
`CMD_BOOT_APPLICATION`; of a byte that is not acknowledged the handler still hears. -/
def received (bcnt : UInt8) (c : Chip) : List UInt8 → Chip
  | [] => c
  | data :: rest =>
      let next := TWI_data_write bcnt data c
      if next.2.cmd = CMD_BOOT_APPLICATION then next.2
      else if next.1 then received (bcnt + 1) next.2 rest
      else
        match rest with
        | [] => next.2
        | last :: _ => (TWI_data_write (bcnt + 1) last next.2).2

/-- Byte 12 of `CMD_ACCESS_CHIPINFO`. -/
def crashReport (c : Chip) : UInt8 := c.recA &&& 0x0F

/-! ## §3. The sketch. -/

/-- `setup` reads the reset cause away. -/
def jump_to_app (c : Chip) : Chip :=
  { c with runs := .sketch, crashRecCleared := false, MCUSR := 0, GPIOR0 := 0 }

def crashRecordClear (c : Chip) : Chip :=
  { c with recA := CRASH_REC_TAG, recB := ~~~CRASH_REC_TAG }

/-- A pass of `loop`, as far as the restart. -/
def loop (c : Chip) (nowMs : UInt32) (pendingBootloader : Bool) : Chip :=
  let c :=
    if c.crashRecCleared = false ∧ nowMs ≥ 20000 then
      { crashRecordClear c with crashRecCleared := true }
    else c
  if pendingBootloader then { crashRecordClear c with runs := .spinning } else c

/-! ## §4. Histories. -/

/-- What can happen. A reset that is not the watchdog's leaves any two bytes in the record;
`word0` is what the flash holds at its first word then. A `loop` is a pass of the sketch's
loop `nowMs` after its start. -/
inductive Event where
  | reset (cause : Cause) (a b : UInt8) (word0 : UInt16)
  | timeout
  | write (bytes : List UInt8)
  | loop (nowMs : UInt32) (pendingBootloader : Bool)

/-- The watchdog is off while twiboot runs; a power-on leaves no other bit in MCUSR. -/
def step (c : Chip) : Event → Option Chip
  | .reset cause a b word0 =>
      if (cause = .watchdog → c.runs = .sketch ∨ c.runs = .spinning) ∧
          (c.runs = .off → cause = .powerOn) then
        let MCUSR := if cause = .powerOn then cause.flag else c.MCUSR ||| cause.flag
        let recA := if cause = .watchdog then c.recA else a
        let recB := if cause = .watchdog then c.recB else b
        some (main (disable_wdt_timer { c with MCUSR, recA, recB, word0 }))
      else none
  | .timeout =>
      if c.runs = .twiboot ∧ c.app_installed = true then some (jump_to_app c) else none
  | .write bytes =>
      if c.runs = .twiboot then
        let c := received 0 c bytes
        some (if c.cmd = CMD_BOOT_APPLICATION then jump_to_app c else c)
      else none
  | .loop nowMs pendingBootloader =>
      if c.runs = .sketch then some (loop c nowMs pendingBootloader) else none

def Event.isWatchdog : Event → Bool
  | .reset cause .. => cause = .watchdog
  | _ => false

/-- The order to start the sketch. -/
def isExit : List UInt8 → Bool
  | cmd :: boottype :: _ => cmd = CMD_SWITCH_APPLICATION && boottype = BOOTTYPE_APPLICATION
  | _ => false

/-- What ends a run of crashes: another reset, an order to start, 20 s of the sketch, a
restart it asks for. -/
def Event.breaks : Event → Bool
  | .reset cause .. => cause ≠ .watchdog
  | .timeout => false
  | .write bytes => isExit bytes
  | .loop nowMs pendingBootloader => nowMs ≥ 20000 || pendingBootloader

/-- The watchdog resets in a row. -/
def crashes (log : List Event) : Nat := (since Event.breaks log).countP Event.isWatchdog

theorem crashes_snoc (log : List Event) (e : Event) :
    crashes (log ++ [e]) = if e.breaks then 0 else crashes log + if e.isWatchdog then 1 else 0 := by
  unfold crashes
  rw [since_snoc]
  split
  · rfl
  · rw [List.countP_append, List.countP_singleton]

/-! ## §5. The record counts them. -/

/-- A record twiboot writes reads as its count, and as one more at the next crash. -/
theorem record_reads {count : UInt8} (h : count.toNat ≤ 15) :
    ((CRASH_REC_TAG ||| count) &&& 0x0F).toNat = count.toNat ∧
      (counted (CRASH_REC_TAG ||| count) (~~~(CRASH_REC_TAG ||| count))).toNat
        = min 15 (count.toNat + 1) := by
  have hall : ∀ i : Fin 16, ((CRASH_REC_TAG ||| UInt8.ofNat i) &&& 0x0F).toNat = i.val ∧
      (counted (CRASH_REC_TAG ||| UInt8.ofNat i) (~~~(CRASH_REC_TAG ||| UInt8.ofNat i))).toNat
        = min 15 (i.val + 1) := by
    decide
  have hcount := hall ⟨count.toNat, Nat.lt_succ_of_le h⟩
  rw [UInt8.ofNat_toNat] at hcount
  exact hcount

/-- A record the sketch cleared reads as no crash. -/
theorem cleared_reads : (CRASH_REC_TAG &&& 0x0F).toNat = 0 ∧
    (counted CRASH_REC_TAG (~~~CRASH_REC_TAG)).toNat = 1 := by
  decide

/-- So does one an order to start made unreadable. -/
theorem wiped_reads : ((0 : UInt8) &&& 0x0F).toNat = 0 ∧
    ∀ b, (counted 0 b).toNat = 1 := by
  refine ⟨by decide, ?_⟩
  intro b
  unfold counted
  have htag : (0 : UInt8) &&& 0xF0 ≠ CRASH_REC_TAG := by decide
  rw [if_pos htag]
  split <;> rfl

/-- After the history `log` the record holds its crashes, and twiboot holds the unit from the
third on. -/
structure Kept (log : List Event) (c : Chip) : Prop where
  reports : (crashReport c).toNat = min 15 (crashes log)
  counts : (counted c.recA c.recB).toNat = min 15 (crashes log + 1)
  held : c.runs = .twiboot → (c.app_installed = false ↔ c.word0 = 0xFFFF ∨ 3 ≤ crashes log)
  cleared : c.runs = .sketch → c.crashRecCleared = true → crashes log = 0
  cause : c.MCUSR = 0

theorem kept_start : Kept [] {} where
  reports := rfl
  counts := rfl
  held := fun h => nomatch h
  cleared := fun h => nomatch h
  cause := rfl

theorem jump_kept {log : List Event} {c : Chip}
    (hreports : (crashReport c).toNat = min 15 (crashes log))
    (hcounts : (counted c.recA c.recB).toNat = min 15 (crashes log + 1)) :
    Kept log (jump_to_app c) where
  reports := hreports
  counts := hcounts
  held := fun h => nomatch h
  cleared := fun _ h => nomatch h
  cause := rfl

/-- `main` writes and judges what it counted. -/
theorem main_kept {log : List Event} {c : Chip} (hcause : c.MCUSR = 0)
    (hcount : (if c.GPIOR0 &&& (1 <<< WDRF) = 0 then 0 else counted c.recA c.recB).toNat
      = min 15 (crashes log)) : Kept log (main c) := by
  generalize hn : (if c.GPIOR0 &&& (1 <<< WDRF) = 0 then 0 else counted c.recA c.recB) = count
    at hcount
  have hle : count.toNat ≤ 15 := by omega
  obtain ⟨hreads, hnext⟩ := record_reads hle
  constructor
  · unfold crashReport main
    dsimp only
    rw [hn, hreads, hcount]
  · unfold main
    dsimp only
    rw [hn, hnext, hcount]
    omega
  · intro _
    have hthree : CRASH_REC_THRESHOLD ≤ count ↔ 3 ≤ crashes log := by
      rw [UInt8.le_iff_toNat_le, hcount]
      show 3 ≤ min 15 _ ↔ _
      omega
    unfold main
    dsimp only
    rw [hn, ← hthree]
    by_cases hword : c.word0 = 0xFFFF <;> by_cases hheld : CRASH_REC_THRESHOLD ≤ count <;>
      simp [hword, hheld]
  · exact fun h => nomatch h
  · exact hcause

/-- A reset: only the watchdog's carries the history on. -/
theorem Kept.reset {log : List Event} {c c' : Chip} (h : Kept log c) {cause : Cause} {a b : UInt8}
    {word0 : UInt16} (hstep : step c (.reset cause a b word0) = some c') :
    Kept (log ++ [.reset cause a b word0]) c' := by
  obtain ⟨-, heq⟩ := Option.ite_none_right_eq_some.mp hstep
  cases heq
  apply main_kept rfl
  have hflag : (if cause = .powerOn then cause.flag else 0 ||| cause.flag) &&& (1 <<< WDRF) = 0 ↔
      cause ≠ .watchdog := by
    cases cause <;> decide
  rw [crashes_snoc]
  unfold disable_wdt_timer
  dsimp only
  rw [h.cause]
  by_cases hwatchdog : cause = .watchdog
  · subst hwatchdog
    rw [if_neg (fun hnone => hflag.mp hnone rfl), if_pos rfl, if_pos rfl]
    exact h.counts
  · have hbreaks : (Event.reset cause a b word0).breaks = true := decide_eq_true hwatchdog
    rw [if_pos (hflag.mpr hwatchdog), if_pos hbreaks]
    rfl

/-! ## §6. What is written to twiboot. -/

/-- Nothing but the command has changed. -/
def SameButCmd (c c' : Chip) : Prop := c' = { c with cmd := c'.cmd }

theorem SameButCmd.rfl' (c : Chip) : SameButCmd c c := rfl

theorem SameButCmd.trans {c c' c'' : Chip} (h : SameButCmd c c') (h' : SameButCmd c' c'') :
    SameButCmd c c'' := by
  unfold SameButCmd at h h' ⊢
  rw [h', h]

/-- Behind the two bytes of a command only the command changes. -/
theorem TWI_data_write_later (c : Chip) {bcnt : UInt8} (hbcnt : 2 ≤ bcnt.toNat) (data : UInt8) :
    SameButCmd c (TWI_data_write bcnt data c).2 ∧
      ((TWI_data_write bcnt data c).1 = true → bcnt.toNat < 131) := by
  have hzero : ¬bcnt = 0 := by
    rintro rfl
    exact absurd hbcnt (by decide)
  have hone : ¬bcnt = 1 := by
    rintro rfl
    exact absurd hbcnt (by decide)
  unfold TWI_data_write
  rw [if_neg hzero, if_neg hone]
  split
  · next haddr =>
      refine ⟨rfl, fun _ => ?_⟩
      rcases haddr with rfl | rfl <;> decide
  · next haddr =>
      split
      · split
        · exact ⟨rfl, fun h => nomatch h⟩
        · next hpos =>
            refine ⟨rfl, fun _ => ?_⟩
            have hfour : (4 : UInt8) ≤ bcnt := by
              rw [UInt8.le_iff_toNat_le]
              have htwo : bcnt.toNat ≠ 2 := fun h => haddr (.inl (UInt8.toNat_inj.mp h))
              have hthree : bcnt.toNat ≠ 3 := fun h => haddr (.inr (UInt8.toNat_inj.mp h))
              show 4 ≤ bcnt.toNat
              omega
            have hlt := UInt8.lt_iff_toNat_lt.mp (UInt8.not_le.mp hpos)
            rw [UInt8.toNat_sub_of_le _ _ hfour] at hlt
            have hpage : (SPM_PAGESIZE - 1).toNat = 127 := rfl
            have hoff : (4 : UInt8).toNat = 4 := rfl
            omega
      · exact ⟨rfl, fun h => nomatch h⟩

theorem received_later (c : Chip) {bcnt : UInt8} (hbcnt : 2 ≤ bcnt.toNat)
    (hpage : bcnt.toNat ≤ 131) (bytes : List UInt8) : SameButCmd c (received bcnt c bytes) := by
  induction bytes generalizing c bcnt with
  | nil => exact SameButCmd.rfl' c
  | cons data rest ih =>
      obtain ⟨hsame, hmore⟩ := TWI_data_write_later c hbcnt data
      -- the page ends long before the byte count would wrap
      have hnext : (bcnt + 1).toNat = bcnt.toNat + 1 := by
        rw [UInt8.toNat_add]
        show (bcnt.toNat + 1) % 256 = _
        omega
      have hbcnt' : 2 ≤ (bcnt + 1).toNat := by omega
      unfold received
      dsimp only
      split
      · exact hsame
      · split
        · next hack =>
            have hlt := hmore hack
            exact hsame.trans (ih _ hbcnt' (by omega))
        · cases rest with
          | nil => exact hsame
          | cons last rest => exact hsame.trans (TWI_data_write_later _ hbcnt' last).1

/-- The second byte: with `CMD_SWITCH_APPLICATION` before it the order, else nothing. -/
theorem received_second (c : Chip) (hboot : c.cmd ≠ CMD_BOOT_APPLICATION) (data : UInt8)
    (rest : List UInt8) :
    if c.cmd = CMD_SWITCH_APPLICATION ∧ data = BOOTTYPE_APPLICATION then
      received 1 c (data :: rest) = { c with cmd := CMD_BOOT_APPLICATION, recA := 0 }
    else SameButCmd c (received 1 c (data :: rest)) := by
  have htwo : ((1 : UInt8) + 1).toNat = 2 := rfl
  have hlast : ∀ c' : Chip, SameButCmd c c' →
      SameButCmd c (match rest with
        | [] => c'
        | last :: _ => (TWI_data_write (1 + 1) last c').2) := by
    intro c' hsame
    cases rest with
    | nil => exact hsame
    | cons last rest =>
        exact hsame.trans (TWI_data_write_later c' (Nat.le_of_eq htwo.symm) last).1
  have hrest : ∀ c' : Chip, SameButCmd c c' → SameButCmd c (received (1 + 1) c' rest) :=
    fun c' hsame => hsame.trans (received_later c' (by decide) (by decide) rest)
  have hone : ¬(1 : UInt8) = 0 := by decide
  unfold received TWI_data_write
  rw [if_neg hone, if_pos rfl]
  by_cases hswitch : c.cmd = CMD_SWITCH_APPLICATION
  · rw [if_pos hswitch]
    by_cases happ : data = BOOTTYPE_APPLICATION
    · rw [if_pos ⟨hswitch, happ⟩, if_pos happ]
      rfl
    · rw [if_neg fun h => happ h.2, if_neg happ]
      dsimp only
      rw [if_neg hboot]
      exact hlast c rfl
  · rw [if_neg fun h => hswitch h.1, if_neg hswitch]
    have hchip : ¬CMD_ACCESS_CHIPINFO = CMD_BOOT_APPLICATION := by decide
    have hflash : ¬CMD_ACCESS_FLASH = CMD_BOOT_APPLICATION := by decide
    split
    · split
      · dsimp only
        rw [if_neg hchip]
        exact hrest _ rfl
      · split
        · dsimp only
          rw [if_neg hflash]
          exact hrest _ rfl
        · dsimp only
          rw [if_neg hboot]
          exact hlast c rfl
    · dsimp only
      rw [if_neg hboot]
      exact hlast c rfl

/-- An order to start the sketch wipes the record's first byte; nothing else written to
twiboot touches the record. -/
theorem received_does (c : Chip) (bytes : List UInt8) :
    if isExit bytes then received 0 c bytes = { c with cmd := CMD_BOOT_APPLICATION, recA := 0 }
    else SameButCmd c (received 0 c bytes) := by
  cases bytes with
  | nil => exact SameButCmd.rfl' c
  | cons data rest =>
      unfold received TWI_data_write
      rw [if_pos rfl]
      by_cases hknown : data = CMD_SWITCH_APPLICATION ∨ data = CMD_ACCESS_MEMORY ∨ data = CMD_WAIT
      · rw [if_pos hknown]
        have hboot : data ≠ CMD_BOOT_APPLICATION := by
          rcases hknown with rfl | rfl | rfl <;> decide
        dsimp only
        rw [if_neg hboot, if_pos rfl]
        cases rest with
        | nil => exact SameButCmd.rfl' _
        | cons data' rest =>
            have hsecond := received_second { c with cmd := data } hboot data' rest
            have hexit : isExit (data :: data' :: rest) = true ↔
                data = CMD_SWITCH_APPLICATION ∧ data' = BOOTTYPE_APPLICATION := by
              unfold isExit
              rw [Bool.and_eq_true, decide_eq_true_eq, decide_eq_true_eq]
            by_cases horder : data = CMD_SWITCH_APPLICATION ∧ data' = BOOTTYPE_APPLICATION
            · rw [if_pos horder] at hsecond
              rw [if_pos (hexit.mpr horder)]
              exact hsecond
            · rw [if_neg horder] at hsecond
              rw [if_neg fun h => horder (hexit.mp h)]
              exact hsecond
      · -- any other first byte starts the sketch at once, and is no order
        have hexit : ¬isExit (data :: rest) = true := by
          cases rest with
          | nil => exact Bool.false_ne_true
          | cons data' rest =>
              unfold isExit
              rw [Bool.and_eq_true, decide_eq_true_eq]
              exact fun h => hknown (.inl h.1)
        rw [if_neg hknown, if_neg hexit]
        exact SameButCmd.rfl' _

/-! ## §7. Runs. -/

section Kept

variable {log : List Event} {c c' : Chip}

theorem Kept.timeout (h : Kept log c) (hstep : step c .timeout = some c') :
    Kept (log ++ [.timeout]) c' := by
  obtain ⟨-, heq⟩ := Option.ite_none_right_eq_some.mp hstep
  cases heq
  have hsame : crashes (log ++ [.timeout]) = crashes log := by
    rw [crashes_snoc]
    rfl
  apply jump_kept
  · rw [hsame]
    exact h.reports
  · rw [hsame]
    exact h.counts

theorem Kept.write (h : Kept log c) {bytes : List UInt8}
    (hstep : step c (.write bytes) = some c') : Kept (log ++ [.write bytes]) c' := by
  obtain ⟨hruns, heq⟩ := Option.ite_none_right_eq_some.mp hstep
  cases heq
  have hdoes := received_does c bytes
  have hcrashes : crashes (log ++ [.write bytes]) = if isExit bytes then 0 else crashes log := by
    rw [crashes_snoc]
    rfl
  by_cases hexit : isExit bytes = true
  · rw [if_pos hexit] at hdoes hcrashes
    rw [hdoes, if_pos rfl]
    -- the record without its tag: no crash to report, and the next one is the first
    apply jump_kept
    · rw [hcrashes]
      exact wiped_reads.1
    · rw [hcrashes]
      exact wiped_reads.2 c.recB
  · rw [if_neg hexit] at hdoes hcrashes
    rw [hdoes]
    split
    · apply jump_kept
      · rw [hcrashes]
        exact h.reports
      · rw [hcrashes]
        exact h.counts
    · constructor
      · rw [hcrashes]
        exact h.reports
      · rw [hcrashes]
        exact h.counts
      · rw [hcrashes]
        exact h.held
      · exact fun hsketch => nomatch hruns.symm.trans hsketch
      · exact h.cause

theorem Kept.loop (h : Kept log c) {nowMs : UInt32} {pendingBootloader : Bool}
    (hstep : step c (.loop nowMs pendingBootloader) = some c') :
    Kept (log ++ [.loop nowMs pendingBootloader]) c' := by
  obtain ⟨hruns, heq⟩ := Option.ite_none_right_eq_some.mp hstep
  cases heq
  have hcrashes : crashes (log ++ [.loop nowMs pendingBootloader])
      = if (decide (nowMs ≥ 20000) || pendingBootloader) = true then 0 else crashes log := by
    rw [crashes_snoc]
    rfl
  unfold CrashHold.loop
  dsimp only
  cases pendingBootloader with
  | true =>
      rw [Bool.or_true, if_pos rfl] at hcrashes
      rw [if_pos rfl]
      constructor
      · rw [hcrashes]
        exact cleared_reads.1
      · rw [hcrashes]
        exact cleared_reads.2
      · exact fun htwiboot => nomatch htwiboot
      · exact fun hsketch => nomatch hsketch
      · show Chip.MCUSR (if _ then _ else _) = 0
        split
        · exact h.cause
        · exact h.cause
  | false =>
      simp only [Bool.or_false, decide_eq_true_eq] at hcrashes
      rw [if_neg Bool.false_ne_true]
      split
      · next hclears =>
          rw [if_pos hclears.2] at hcrashes
          constructor
          · rw [hcrashes]
            exact cleared_reads.1
          · rw [hcrashes]
            exact cleared_reads.2
          · exact fun htwiboot => nomatch hruns.symm.trans htwiboot
          · exact fun _ _ => hcrashes
          · exact h.cause
      · next hstays =>
          -- a record that was cleared in this run of the sketch still is
          have hsame : crashes (log ++ [.loop nowMs false]) = crashes log := by
            rw [hcrashes]
            split
            · next hlate =>
                have hdone : c.crashRecCleared = true :=
                  (Bool.not_eq_false _).mp fun hnot => hstays ⟨hnot, hlate⟩
                exact (h.cleared hruns hdone).symm
            · rfl
          exact ⟨hsame ▸ h.reports, hsame ▸ h.counts, hsame ▸ h.held, hsame ▸ h.cleared, h.cause⟩

theorem Kept.step {e : Event} (h : Kept log c) (hstep : step c e = some c') :
    Kept (log ++ [e]) c' := by
  cases e with
  | reset cause a b word0 => exact h.reset hstep
  | timeout => exact h.timeout hstep
  | write bytes => exact h.write hstep
  | loop nowMs pendingBootloader => exact h.loop hstep

end Kept

theorem run_kept {log : List Event} {c : Chip} (hrun : run step {} log = some c) : Kept log c := by
  induction log using List.reverseRecOn generalizing c with
  | nil =>
      cases hrun
      exact kept_start
  | append_singleton log e ih =>
      rw [run_append, Option.bind_eq_some_iff] at hrun
      obtain ⟨m, hm, hlast⟩ := hrun
      rw [run_cons, Option.bind_eq_some_iff] at hlast
      obtain ⟨c', hstep, hend⟩ := hlast
      cases hend
      exact (ih hm).step hstep

/-- In its bootloader a unit with a sketch is kept there from the third watchdog reset in a
row, and reports how many there were. -/
theorem crash_hold {log : List Event} {c : Chip} (hrun : run step {} log = some c)
    (hboot : c.runs = .twiboot) :
    (c.app_installed = false ↔ c.word0 = 0xFFFF ∨ 3 ≤ crashes log) ∧
      (crashReport c).toNat = min 15 (crashes log) :=
  ⟨(run_kept hrun).held hboot, (run_kept hrun).reports⟩

/-- A sketch that hangs three times, the first time after 30 s. -/
def hangs : List Event :=
  [.reset .powerOn 0x5A 0xA5 0x0C94, .timeout, .loop 30000 false, .reset .watchdog 0 0 0x0C94,
    .timeout, .loop 40 false, .reset .watchdog 0 0 0x0C94, .timeout, .reset .watchdog 0 0 0x0C94]

theorem crash_hold_hangs :
    ∃ c, run step {} hangs = some c ∧ c.app_installed = false ∧ (crashReport c).toNat = 3 := by
  obtain ⟨c, hc, hboot, hword⟩ :
      ∃ c, run step {} hangs = some c ∧ c.runs = .twiboot ∧ c.word0 = 0x0C94 :=
    ⟨_, rfl, rfl, rfl⟩
  have hhold := crash_hold hc hboot
  have hthree : crashes hangs = 3 := by decide
  rw [hthree] at hhold
  exact ⟨c, hc, hhold.1.mpr (.inr (Nat.le_refl 3)), hhold.2⟩

/-- The watchdog resets in a row that the sketch did not ask for, in a history read from its
end. -/
def unasked : List Event → Nat
  | [] => 0
  | .reset .watchdog .. :: .loop _ true :: _ => 0
  | .reset .watchdog .. :: before => unasked before + 1
  | e :: before => if e.breaks then 0 else unasked before

/-- The restart a sketch asks for counts as the first of a run: the unit is kept after two
crashes. -/
theorem asked_restart_counts :
    ∃ log c, run step {} log = some c ∧ c.runs = .twiboot ∧ c.word0 = 0x0C94 ∧
      unasked log.reverse = 2 ∧ c.app_installed = false ∧ crashReport c = 3 :=
  ⟨[.reset .powerOn 0x5A 0xA5 0x0C94, .timeout, .loop 100 true, .reset .watchdog 0 0 0x0C94,
      .timeout, .loop 40 false, .reset .watchdog 0 0 0x0C94, .timeout, .loop 40 false,
      .reset .watchdog 0 0 0x0C94],
    _, rfl, rfl, rfl, by decide, by decide, by decide⟩

end SplitFlap.CrashHold
