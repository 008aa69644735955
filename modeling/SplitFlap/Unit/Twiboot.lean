/-
  SplitFlap.Unit.Twiboot — the sequences a row master runs against a unit's
  bootloader to flash it.

  `TwibootFlash.h` and `UnitBusTwiboot.h`, as programs over a bus that answers
  anything: ACKs or not, short reads, wrong data, any clock.  Whether the unit
  programs a page that was sent to it is the bus's choice too (`programs`), so
  a page write leaves the page either old or as sent.  Waiting loops run on
  the bus clock and carry fuel; one that runs out has not come back.
-/
import SplitFlap.Lib.Trace
import SplitFlap.Link.Wire

namespace SplitFlap.Unit

abbrev BOOT_SECTION_START : Nat := 0x7C00

abbrev TWIBOOT_CMD_WAIT : UInt8 := 0x00
abbrev TWIBOOT_CMD_SWITCH_APPLICATION : UInt8 := 0x01
abbrev TWIBOOT_CMD_ACCESS_MEMORY : UInt8 := 0x02
abbrev TWIBOOT_BOOTTYPE_APPLICATION : UInt8 := 0x80
abbrev TWIBOOT_MEMTYPE_CHIPINFO : UInt8 := 0x00
abbrev TWIBOOT_MEMTYPE_FLASH : UInt8 := 0x01
abbrev TWIBOOT_PAGE_SIZE : Nat := 128
abbrev TWIBOOT_LIVE_ATTEMPTS : Nat := 5
abbrev TWIBOOT_LIVE_INTERVAL_MS : UInt32 := 100
abbrev TWIBOOT_READY_BEFORE_MS : UInt32 := 100
abbrev TWIBOOT_READY_AFTER_MS : UInt32 := 50
abbrev TWIBOOT_PAGE_WRITE_ATTEMPTS : Nat := 2
abbrev TWIBOOT_PAGE_READ_ATTEMPTS : Nat := 3
abbrev TWIBOOT_SKETCH_ATTEMPTS : Nat := 5
abbrev TWIBOOT_SKETCH_INTERVAL_MS : UInt32 := 500
abbrev SFP_CMD_REBOOT : UInt8 := 0x92

/-! ## §1. The bus. -/

/-- One page of flash. -/
structure Page where
  bytes : Bytes
  size : bytes.length = TWIBOOT_PAGE_SIZE

/-- What happens on the bus, and what the caller's hooks are asked.  `sent` is
one transmission to an address with its status (0 when it was ACKed) and
whether the unit programmed the page in it. -/
inductive BusEvent where
  | sent (addr : UInt8) (bytes : Bytes) (stop : Bool) (status : Int) (programmed : Bool)
  | request (addr : UInt8) (qty : Nat) (got : Bytes)
  | readFailed
  | now (ms : UInt32)
  | sleep (ms : UInt32)
  | keepGoing (on : Bool)
  | pageRewritten (flashAddr : UInt16) (rewrites : Nat)
  deriving DecidableEq

/-- A bus, the unit on it and the caller's hooks: any answers to the log so
far.  `capacity` is how many bytes one transmission can queue. -/
structure Bus where
  capacity : Nat
  endTransmission : List BusEvent → Bytes → Bool → Int
  programs : List BusEvent → Bytes → Bool
  requestFrom : List BusEvent → Nat → Bytes
  nowMs : List BusEvent → UInt32
  keepGoing : List BusEvent → Bool

variable (B : Bus) (addr : UInt8)

/-- `beginTransmission`, a `write` for each byte, `endTransmission(stop)`. -/
def transmit (bytes : Bytes) (stop : Bool) : Trace BusEvent Int := do
  let sent := bytes.take B.capacity
  let answer ← Trace.ask (fun log => (B.endTransmission log sent stop, B.programs log sent))
    fun answer => .sent addr sent stop answer.1 answer.2
  Trace.ret answer.1

/-- `requestFrom`: the bytes that came. -/
def requestFrom (qty : Nat) : Trace BusEvent Bytes :=
  Trace.ask (fun log => B.requestFrom log qty) fun got => .request addr qty got

def nowMs : Trace BusEvent UInt32 := Trace.ask B.nowMs .now

def sleepMs (ms : UInt32) : Trace BusEvent Unit := Trace.say (.sleep ms)

/-! ## §2. The twiboot client. -/

/-- Where a chip check or page write stopped. -/
inductive TwibootStep where
  | ok
  | chipRequestFailed
  | chipShortRead
  | chipBadSignature
  | chipBadPageSize
  | pageNotReady
  | pageBurstTruncated
  | pageWriteFailed
  | pageStuckBusy
  | pageReadFailed
  | pageVerifyMismatch
  deriving Repr, DecidableEq

/-- An image reaching into the boot section would overwrite twiboot itself. -/
def twibootImageFits (len : Nat) : Bool := len ≤ BOOT_SECTION_START

def isAtmega328pSignature (sig0 sig1 sig2 : UInt8) : Bool :=
  sig0 == 0x1E && sig1 == 0x95 && sig2 == 0x0F

def twibootPing : Trace BusEvent Int := transmit B addr [TWIBOOT_CMD_WAIT] true

def exitCommand : Bytes := [TWIBOOT_CMD_SWITCH_APPLICATION, TWIBOOT_BOOTTYPE_APPLICATION]

def twibootExit : Trace BusEvent Int := transmit B addr exitCommand true

/-- The loop of `twibootWaitReady`. -/
def waitReadyLoop (deadline : UInt32) : (fuel : Nat) → Trace BusEvent Bool
  | 0 => Trace.stuck
  | fuel + 1 => do
      let now ← nowMs B
      -- the difference is negative as a 32-bit number
      if 0x80000000 ≤ now - deadline then
        let status ← twibootPing B addr
        if status = 0 then Trace.ret true
        else
          sleepMs 1
          waitReadyLoop deadline fuel
      else Trace.ret false

/-- `twibootWaitReady`: spin-poll until twiboot ACKs or the time is up. -/
def twibootWaitReady (fuel : Nat) (timeoutMs : UInt32) : Trace BusEvent Bool := do
  let now ← nowMs B
  waitReadyLoop B addr (now + timeoutMs) fuel

def awaitBootloaderLoop : (attempts : Nat) → Trace BusEvent Bool
  | 0 => Trace.ret false
  | attempts + 1 => do
      let status ← twibootPing B addr
      if status = 0 then Trace.ret true
      else
        sleepMs TWIBOOT_LIVE_INTERVAL_MS
        awaitBootloaderLoop attempts

def twibootAwaitBootloader : Trace BusEvent Bool := awaitBootloaderLoop B addr TWIBOOT_LIVE_ATTEMPTS

/-- Chipinfo must name the ATmega328P with the expected page size. -/
def twibootVerifyChip : Trace BusEvent TwibootStep := do
  let status ← transmit B addr [TWIBOOT_CMD_ACCESS_MEMORY, TWIBOOT_MEMTYPE_CHIPINFO, 0, 0] false
  if status ≠ 0 then Trace.ret .chipRequestFailed
  else
    let got ← requestFrom B addr 8
    if got.length ≠ 8 then
      Trace.say .readFailed
      Trace.ret .chipShortRead
    else if !isAtmega328pSignature (got.getD 0 0) (got.getD 1 0) (got.getD 2 0) then
      Trace.ret .chipBadSignature
    else if (got.getD 3 0).toNat ≠ TWIBOOT_PAGE_SIZE then Trace.ret .chipBadPageSize
    else Trace.ret .ok

/-- The sixteen bytes of the hold page: the watchdog on at its shortest
period, and wait for it. -/
def holdCode : Bytes :=
  [0xF8, 0x94, 0x88, 0xE1, 0x80, 0x93, 0x60, 0x00,
    0x88, 0xE0, 0x80, 0x93, 0x60, 0x00, 0xFF, 0xCF]

/-- `twibootFillHoldPage`: the page a flash puts at address 0 until the image
is whole. -/
def twibootFillHoldPage : Page where
  bytes := holdCode ++ List.replicate (TWIBOOT_PAGE_SIZE - holdCode.length) 0xFF
  size := by rw [List.length_append, List.length_replicate]; rfl

/-- The four bytes in front of a page access. -/
def pageCommand (flashAddr : UInt16) : Bytes :=
  [TWIBOOT_CMD_ACCESS_MEMORY, TWIBOOT_MEMTYPE_FLASH, (flashAddr >>> 8).toUInt8, flashAddr.toUInt8]

/-- `twibootReadFlashPage`: the page, when all of it came. -/
def twibootReadFlashPage (flashAddr : UInt16) : Trace BusEvent (Option Bytes) := do
  let status ← transmit B addr (pageCommand flashAddr) false
  if status ≠ 0 then Trace.ret none
  else
    let got ← requestFrom B addr TWIBOOT_PAGE_SIZE
    if got.length ≠ TWIBOOT_PAGE_SIZE then
      Trace.say .readFailed
      Trace.ret none
    else Trace.ret (some got)

/-- `twibootWriteFlashPage`: header and page in one transmission, or nothing. -/
def twibootWriteFlashPage (flashAddr : UInt16) (page : Page) : Trace BusEvent TwibootStep := do
  let burst := pageCommand flashAddr ++ page.bytes
  if (burst.take B.capacity).length ≠ TWIBOOT_PAGE_SIZE + 4 then Trace.ret .pageBurstTruncated
  else
    let status ← transmit B addr burst true
    Trace.ret (if status = 0 then .ok else .pageWriteFailed)

/-- The read-back attempts of `twibootFlashAndVerifyPage`. -/
def readBackLoop (flashAddr : UInt16) : (attempts : Nat) → Trace BusEvent (Option Bytes)
  | 0 => Trace.ret none
  | attempts + 1 => do
      let got ← twibootReadFlashPage B addr flashAddr
      match got with
      | some page => Trace.ret (some page)
      | none => readBackLoop flashAddr attempts

/-- The write attempts of `twibootFlashAndVerifyPage`, with the rewrites so
far. -/
def flashAndVerifyLoop (fuel : Nat) (flashAddr : UInt16) (page : Page) :
    (attempts : Nat) → (rewrites : Nat) → Trace BusEvent (TwibootStep × Nat)
  | 0, rewrites => Trace.ret (.pageVerifyMismatch, rewrites)
  | attempts + 1, rewrites => do
      let ready ← twibootWaitReady B addr fuel TWIBOOT_READY_BEFORE_MS
      if !ready then Trace.ret (.pageNotReady, rewrites)
      else
        let wrote ← twibootWriteFlashPage B addr flashAddr page
        if wrote ≠ .ok then Trace.ret (wrote, rewrites)
        else
          let free ← twibootWaitReady B addr fuel TWIBOOT_READY_AFTER_MS
          if !free then Trace.ret (.pageStuckBusy, rewrites)
          else
            let readBack ← readBackLoop B addr flashAddr TWIBOOT_PAGE_READ_ATTEMPTS
            match readBack with
            | none => Trace.ret (.pageReadFailed, rewrites)
            | some got =>
                if got = page.bytes then Trace.ret (.ok, rewrites)
                else flashAndVerifyLoop fuel flashAddr page attempts (rewrites + 1)

/-- `twibootFlashAndVerifyPage`: writes one page and reads it back, rewriting
on a mismatch; with the number of mismatches. -/
def twibootFlashAndVerifyPage (fuel : Nat) (flashAddr : UInt16) (page : Page) :
    Trace BusEvent (TwibootStep × Nat) :=
  flashAndVerifyLoop B addr fuel flashAddr page TWIBOOT_PAGE_WRITE_ATTEMPTS 0

def awaitSketchLoop : (attempts : Nat) → Trace BusEvent Bool
  | 0 => Trace.ret false
  | attempts + 1 => do
      sleepMs TWIBOOT_SKETCH_INTERVAL_MS
      let status ← transmit B addr [] true
      if status = 0 then Trace.ret true else awaitSketchLoop attempts

def twibootAwaitSketch : Trace BusEvent Bool := awaitSketchLoop B addr TWIBOOT_SKETCH_ATTEMPTS

/-- `unitRebootSketch`: a clean watchdog restart of a unit running its sketch. -/
def unitRebootSketch : Trace BusEvent Int :=
  transmit B addr [SFP_CMD_REBOOT, ~~~SFP_CMD_REBOOT] true

/-! ## §3. Flashing one unit. -/

inductive UnitFlashResult where
  | ok
  | imageTooLarge
  | bootloaderSilent
  | chipMismatch
  | pageFailed
  | exitFailed
  | postBootSilent
  | aborted
  deriving Repr, DecidableEq

structure UnitFlashReport where
  result : UnitFlashResult := .ok
  step : TwibootStep := .ok
  pageAddr : UInt16 := 0
  rebootStatus : Int := 0
  deriving Repr, DecidableEq

/-- The page of a step: the hold page first, then the image's pages after the
first, and the image's own first page last. -/
def stepPage (pageCount : Nat) (pages : Nat → Page) (step : Nat) : Nat × Page :=
  let pageIndex := if step = pageCount then 0 else step
  (pageIndex, if step = 0 then twibootFillHoldPage else pages pageIndex)

/-- `watch.pageRewritten`, for a page that verified wrong at least once. -/
def notePageRewritten (flashAddr : UInt16) (rewrites : Nat) : Trace BusEvent Unit :=
  if 0 < rewrites then Trace.say (.pageRewritten flashAddr rewrites) else Trace.ret ()

/-- The page loop of `unitFlashImage` from `step` on, `todo` steps; the answer
is the report so far and whether the loop ran to its end. -/
def pageLoop (fuel pageCount : Nat) (pages : Nat → Page) :
    (todo step : Nat) → UnitFlashReport → Trace BusEvent (UnitFlashReport × Bool)
  | 0, _, report => Trace.ret (report, true)
  | todo + 1, step, report => do
      let on ← Trace.ask B.keepGoing .keepGoing
      if !on then Trace.ret ({ report with result := .aborted }, false)
      else
        let (pageIndex, page) := stepPage pageCount pages step
        let flashAddr := UInt16.ofNat (pageIndex * TWIBOOT_PAGE_SIZE)
        let wrote ← twibootFlashAndVerifyPage B addr fuel flashAddr page
        notePageRewritten flashAddr wrote.2
        let report := { report with step := wrote.1 }
        if wrote.1 ≠ .ok then
          Trace.ret ({ report with result := .pageFailed, pageAddr := flashAddr }, false)
        else pageLoop fuel pageCount pages todo (step + 1) report

/-- `unitFlashImage`: streams a page-padded image to a unit in twiboot. -/
def unitFlashImage (fuel imageLen : Nat) (pages : Nat → Page) : Trace BusEvent UnitFlashReport := do
  if !twibootImageFits imageLen then Trace.ret { result := .imageTooLarge }
  else
    let alive ← twibootAwaitBootloader B addr
    if !alive then Trace.ret { result := .bootloaderSilent }
    else
      let chip ← twibootVerifyChip B addr
      if chip ≠ .ok then Trace.ret { result := .chipMismatch, step := chip }
      else
        let pageCount := imageLen / TWIBOOT_PAGE_SIZE
        let steps := if pageCount = 0 then 0 else pageCount + 1
        let (report, whole) ← pageLoop B addr fuel pageCount pages steps 0 { step := chip }
        if !whole then Trace.ret report
        else
          let exited ← twibootExit B addr
          if exited ≠ 0 then Trace.ret { report with result := .exitFailed }
          else
            let up ← twibootAwaitSketch B addr
            if !up then Trace.ret { report with result := .postBootSilent }
            else
              let status ← unitRebootSketch B addr
              Trace.ret { report with rebootStatus := status }

end SplitFlap.Unit
