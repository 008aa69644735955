/-
  SplitFlap.Unit.BootSection — what a unit's boot section is taken for.

  The boot section is eight pages.  `bootReadFacts` of `BootUpdateAvr.h` reads
  two CRC-32 and two instruction words of it, and `classifyBootSection` of
  `BootSectionClassify.h` says from these what it holds: an image that is known
  by its CRC-32, the `jmp 0x0000` that a half done rewrite boots from, or
  neither.
-/
import Mathlib.Data.List.FinRange
import Mathlib.Logic.Function.Basic
import SplitFlap.Lib.Numerals

namespace SplitFlap.Boot

abbrev BOOT_PAGE_SIZE : Nat := 128
abbrev BOOT_FIELDED_CRC32 : UInt32 := 0x18173add
abbrev BOOT_PREV_NEW_CRC32 : UInt32 := 0xe422a668
abbrev BOOT_PREV_NEW2_CRC32 : UInt32 := 0x081c2954
abbrev BOOT_PREV_NEW3_CRC32 : UInt32 := 0xc65e3dbf
abbrev BOOT_FIELDED_PAGES_0_6_CRC32 : UInt32 := 0x2524e944
abbrev NEW_TWIBOOT_CRC32 : UInt32 := 0x506b3970
abbrev NEW_TWIBOOT_PAGE7_INSTALLED_CRC32 : UInt32 := 0xb2f8b9ef
abbrev BOOT_TRAMPOLINE_WORD0 : UInt16 := 0x940C
abbrev BOOT_TRAMPOLINE_WORD1 : UInt16 := 0x0000
abbrev BOOT_LOCK_BLB11_MASK : UInt8 := 0x10

abbrev Page : Type := Vector UInt8 BOOT_PAGE_SIZE

abbrev Section : Type := Fin 8 → Page

/-- An erased page. -/
def blankPage : Page := Vector.replicate BOOT_PAGE_SIZE 0xFF

inductive BootSectionState where
  | UNKNOWN | OLD | PAGE7_INSTALLED | TRAMPOLINE | NEW | PREV_NEW
  deriving DecidableEq

structure BootSectionFacts where
  fullCrc32 : UInt32
  pages0_6Crc32 : UInt32
  page0Word0 : UInt16
  page0Word1 : UInt16

/-- `bootCrc32Update`. -/
def bootCrc32Update (crc : UInt32) (b : UInt8) : UInt32 :=
  Nat.repeat (fun crc => (crc >>> 1) ^^^ (0xEDB88320 &&& (0 - (crc &&& 1)))) 8
    (crc ^^^ b.toUInt32)

def bootCrc32Page (crc : UInt32) (page : Page) : UInt32 := page.toList.foldl bootCrc32Update crc

/-- The running CRC at the end of page 6. -/
def bootCrc32Snapshot (sec : Section) : UInt32 :=
  ([0, 1, 2, 3, 4, 5, 6] : List (Fin 8)).foldl (fun crc p => bootCrc32Page crc (sec p)) 0xFFFFFFFF

def pages0_6Crc32 (sec : Section) : UInt32 := ~~~bootCrc32Snapshot sec

def fullCrc32 (sec : Section) : UInt32 := ~~~bootCrc32Page (bootCrc32Snapshot sec) (sec 7)

def word (low high : UInt8) : UInt16 := low.toUInt16 ||| (high.toUInt16 <<< 8)

/-- `bootReadFacts`: one pass over the section. -/
def bootReadFacts (sec : Section) : BootSectionFacts where
  fullCrc32 := fullCrc32 sec
  pages0_6Crc32 := pages0_6Crc32 sec
  page0Word0 := word (sec 0)[0] (sec 0)[1]
  page0Word1 := word (sec 0)[2] (sec 0)[3]

/-- `classifyBootSection`. -/
def classifyBootSection (f : BootSectionFacts) (newFullCrc32 page7InstalledCrc32 : UInt32) :
    BootSectionState :=
  if f.fullCrc32 = newFullCrc32 then .NEW
  else if f.fullCrc32 = BOOT_PREV_NEW_CRC32 ∨ f.fullCrc32 = BOOT_PREV_NEW2_CRC32 ∨
      f.fullCrc32 = BOOT_PREV_NEW3_CRC32 then .PREV_NEW
  else if f.fullCrc32 = BOOT_FIELDED_CRC32 then .OLD
  else if f.fullCrc32 = page7InstalledCrc32 then .PAGE7_INSTALLED
  else if f.page0Word0 = BOOT_TRAMPOLINE_WORD0 ∧ f.page0Word1 = BOOT_TRAMPOLINE_WORD1 then
    .TRAMPOLINE
  -- the fielded core with a half done page 7
  else if f.pages0_6Crc32 = BOOT_FIELDED_PAGES_0_6_CRC32 then .OLD
  else .UNKNOWN

/-- `bootClassify` of what is read now. -/
def bootCurrentState (sec : Section) : BootSectionState :=
  classifyBootSection (bootReadFacts sec) NEW_TWIBOOT_CRC32 NEW_TWIBOOT_PAGE7_INSTALLED_CRC32

def bootPage0IsTrampoline (sec : Section) : Bool :=
  word (sec 0)[0] (sec 0)[1] = BOOT_TRAMPOLINE_WORD0 &&
    word (sec 0)[2] (sec 0)[3] = BOOT_TRAMPOLINE_WORD1

def bootLockPermitsBootWrite (lockByte : UInt8) : Bool := lockByte &&& BOOT_LOCK_BLB11_MASK ≠ 0

/-- The states of a complete image that holds `do_spm`. -/
def BootSectionState.complete : BootSectionState → Bool
  | .PAGE7_INSTALLED | .NEW | .PREV_NEW => true
  | .UNKNOWN | .OLD | .TRAMPOLINE => false

/-! ## Readings of the classifier. -/

variable {sec : Section}

/-- A section that is classified as a half done rewrite boots from its page 0. -/
theorem trampoline_of_state (h : bootCurrentState sec = .TRAMPOLINE) :
    bootPage0IsTrampoline sec = true := by
  unfold bootCurrentState classifyBootSection at h
  split at h
  · exact absurd h (by simp)
  split at h
  · exact absurd h (by simp)
  split at h
  · exact absurd h (by simp)
  split at h
  · exact absurd h (by simp)
  split at h
  · next hwords =>
      unfold bootPage0IsTrampoline
      rw [Bool.and_eq_true, decide_eq_true_eq, decide_eq_true_eq]
      exact hwords
  · split at h
    · exact absurd h (by simp)
    · exact absurd h (by simp)

theorem state_of_newCrc (h : fullCrc32 sec = NEW_TWIBOOT_CRC32) : bootCurrentState sec = .NEW := by
  simp only [bootCurrentState, classifyBootSection, bootReadFacts, h, if_true]

/-- Where no image has its CRC-32, it is page 0 that is looked at. -/
theorem state_of_trampoline (h : bootPage0IsTrampoline sec = true)
    (hcrc : fullCrc32 sec ∉ [NEW_TWIBOOT_CRC32, BOOT_PREV_NEW_CRC32, BOOT_PREV_NEW2_CRC32,
      BOOT_PREV_NEW3_CRC32, BOOT_FIELDED_CRC32, NEW_TWIBOOT_PAGE7_INSTALLED_CRC32]) :
    bootCurrentState sec = .TRAMPOLINE := by
  simp only [List.mem_cons, List.not_mem_nil, or_false, not_or] at hcrc
  obtain ⟨hnew, hprev, hprev2, hprev3, hfielded, hpage7⟩ := hcrc
  unfold bootPage0IsTrampoline at h
  rw [Bool.and_eq_true, decide_eq_true_eq, decide_eq_true_eq] at h
  simp only [bootCurrentState, classifyBootSection, bootReadFacts, hnew, hprev, hprev2, hprev3,
    hfielded, hpage7, h, or_self, and_self, if_false, if_true]

end SplitFlap.Boot
