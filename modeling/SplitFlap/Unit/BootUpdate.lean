/-
  SplitFlap.Unit.BootUpdate — a unit rewrites its own bootloader.

  Stage 2 of `BootUpdateAvr.h` and what starts it.  An erase and a write of a
  page ask the outside what became of the page; where the answers end the unit
  is reset.  `window` is open from an erase of page 0, which every reset goes
  through, to the next write of it that was read back as asked.
-/
import SplitFlap.Lib.Task
import SplitFlap.Lib.Machine
import SplitFlap.Unit.BootImages

namespace SplitFlap.Boot

open TaskM

abbrev BOOT_PAGE0_WRITE_ATTEMPTS : Nat := 3

inductive BootUpdateResult where
  | NONE | STAGE2_OK | VERIFY_FAILED | REFUSED_STATE | REFUSED_LOCK
  deriving DecidableEq

/-- What became of a page that was erased or written. -/
inductive PageOutcome where
  | asAsked
  | blank
  | wrong (page : Page)
  deriving DecidableEq

def PageOutcome.page (asked : Page) : PageOutcome → Page
  | .asAsked => asked
  | .blank => blankPage
  | .wrong page => page

/-- A page was written: what was asked for, and the section before. -/
structure PageWrite where
  page : Fin 8
  asked : Page
  before : Section

/-- The boot section, whether the application runs, and for the statements the
window and the writes so far, newest first. -/
structure BootUnit where
  boot : Section
  running : Bool := true
  window : Bool := false
  writes : List PageWrite := []

abbrev BootTask (β : Type) : Type := TaskM BootUnit PageOutcome β

def erased (p : Fin 8) (r : PageOutcome) (u : BootUnit) : BootUnit :=
  { u with
    boot := Function.update u.boot p (r.page blankPage)
    window := u.window || p == 0 }

def written (p : Fin 8) (asked : Page) (r : PageOutcome) (u : BootUnit) : BootUnit :=
  { u with
    boot := Function.update u.boot p (r.page asked)
    writes := ⟨p, asked, u.boot⟩ :: u.writes }

/-- `BOOT_DO_SPM` with PGERS. -/
def erasePage (p : Fin 8) : BootTask Unit := do
  let r ← ask
  modify (erased p r)

/-- `BOOT_DO_SPM` with PGWRT, on a buffer that was filled. -/
def writePage (p : Fin 8) (asked : Page) : BootTask Unit := do
  let r ← ask
  modify (written p asked r)

/-- A write of page 0 was read back as asked. -/
def verified : BootTask Unit := modify fun u => { u with window := false }

def bootPageMatchesImage (sec : Section) (p : Fin 8) : Bool := sec p = newTwibootImage p

def bootPage7HoldsDoSpm (sec : Section) : Bool := bootPageMatchesImage sec 7

/-- `jmp 0x0000`, and erased padding. -/
def trampolinePage : Page := Vector.ofFn fun i =>
  if i.val = 0 then BOOT_TRAMPOLINE_WORD0.toUInt8
  else if i.val = 1 then (BOOT_TRAMPOLINE_WORD0 >>> 8).toUInt8
  else if i.val = 2 then BOOT_TRAMPOLINE_WORD1.toUInt8
  else if i.val = 3 then (BOOT_TRAMPOLINE_WORD1 >>> 8).toUInt8
  else 0xFF

def bootWritePageFromImage (p : Fin 8) : BootTask Unit := do
  erasePage p
  writePage p (newTwibootImage p)

def bootWriteTrampolinePage : BootTask Unit := do
  erasePage 0
  writePage 0 trampolinePage

/-- `bootWriteTrampolineVerified`, with so many attempts left. -/
def bootWriteTrampolineVerified : Nat → BootTask Bool
  | 0 => pure false
  | attempts + 1 => do
      bootWriteTrampolinePage
      let u ← get
      if bootPage0IsTrampoline u.boot then
        verified
        pure true
      else bootWriteTrampolineVerified attempts

/-- Page 0 to the trampoline, unless it already is one (a resume). -/
def trampolineFirst (sec : Section) : BootTask Bool :=
  if bootPage0IsTrampoline sec then pure true
  else bootWriteTrampolineVerified BOOT_PAGE0_WRITE_ATTEMPTS

/-- Pages to the image, one after the other; those that match are skipped. -/
def rewritePages : List (Fin 8) → BootTask Bool
  | [] => pure true
  | p :: rest => do
      let u ← get
      if bootPageMatchesImage u.boot p then rewritePages rest
      else
        bootWritePageFromImage p
        let u ← get
        if bootPageMatchesImage u.boot p then rewritePages rest else pure false

/-- Page 0 to the image, or to the trampoline again. -/
def rewritePage0 : BootTask BootUpdateResult := do
  bootWritePageFromImage 0
  let u ← get
  if bootPageMatchesImage u.boot 0 then
    verified
    pure (if bootCurrentState u.boot = .NEW then .STAGE2_OK else .VERIFY_FAILED)
  else
    let _ ← bootWriteTrampolineVerified BOOT_PAGE0_WRITE_ATTEMPTS
    pure .VERIFY_FAILED

def bootStage2Rewrite : BootTask BootUpdateResult := do
  let u ← get
  if bootPage7HoldsDoSpm u.boot = false then pure .REFUSED_STATE
  else
    if ← trampolineFirst u.boot then
      if ← rewritePages [1, 2, 3, 4, 5, 6] then rewritePage0 else pure .VERIFY_FAILED
    else pure .VERIFY_FAILED

/-- Stage 1 drives the fielded twiboot's write handler on page 7, and the
watchdog resets the unit. -/
def bootStage1InstallDoSpm : BootTask BootUpdateResult := do
  bootWritePageFromImage 7
  fun u _ => (none, u)

def bootRunStage (stage lockByte : UInt8) : BootTask BootUpdateResult := do
  let u ← get
  if stage = 1 then
    if bootCurrentState u.boot ≠ .OLD then pure .REFUSED_STATE
    else if bootLockPermitsBootWrite lockByte = false then pure .REFUSED_LOCK
    else bootStage1InstallDoSpm
  else if stage = 2 then
    if bootCurrentState u.boot ≠ .PAGE7_INSTALLED ∧ bootCurrentState u.boot ≠ .TRAMPOLINE ∧
        bootCurrentState u.boot ≠ .PREV_NEW then pure .REFUSED_STATE
    else if bootLockPermitsBootWrite lockByte = false then pure .REFUSED_LOCK
    else bootStage2Rewrite
  else pure .REFUSED_STATE

def bootAutoResume : BootTask BootUpdateResult := do
  let u ← get
  if bootCurrentState u.boot ≠ .TRAMPOLINE then pure .NONE else bootStage2Rewrite

/-- A run of the application's, or what a reset in it leaves. -/
def ran {β : Type} (t : BootTask β) (u : BootUnit) (pages : List PageOutcome) : BootUnit :=
  match t u pages with
  | (some _, u') => u'
  | (none, u') => { u' with running := false }

inductive BootStep where
  /-- A stage is asked for on the bus. -/
  | command (stage lockByte : UInt8) (pages : List PageOutcome)
  | reset
  /-- The start of the application: nothing starts through an open window. -/
  | start (pages : List PageOutcome)

def step (u : BootUnit) : BootStep → Option BootUnit
  | .command stage lockByte pages =>
      if u.running then some (ran (bootRunStage stage lockByte) u pages) else none
  | .reset => some { u with running := false }
  | .start pages =>
      if u.running = false ∧ u.window = false then
        some (ran bootAutoResume { u with running := true } pages)
      else none

end SplitFlap.Boot
