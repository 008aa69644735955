/-
  SplitFlap.Rescue.FactorySlot — installing a rescue image.

  `FactorySlot.cpp` and `FactoryChunkPlan.h`, which hold one install at a time
  in static variables, under their two callers: the upload callbacks of
  `POST /firmware/rescue` and a release install through `RescueWriter`.

  A call asks the outside how each of its flash operations went.  Where the
  answers end the power goes: what a run has left on the flash at any of these
  moments is what the next start finds.
-/
import SplitFlap.Lib.Task
import SplitFlap.Lib.Machine
import Mathlib.Data.List.GetD

namespace SplitFlap.Rescue

open TaskM

abbrev SECTOR : Nat := 4096
abbrev INSTALL_STALE_MS : UInt32 := 30000
abbrev RELEASE_UPDATE_RUNNING : String :=
  "an update from a release is running, retry after the restart"

/-! ## §1. What is not the board's own. -/

/-- An image of a release, as its manifest has it. -/
structure ReleaseImage where
  size : Nat
  sha256 : List UInt8
  deriving DecidableEq

/-- The partition table, the digests, and what the SDK says of the bytes of a
slot: whether they start with an app descriptor. -/
structure Platform where
  factorySize : Option Nat
  md5 : List UInt8 → String
  sha256 : List UInt8 → List UInt8
  appDescriptor : (Nat → UInt8) → Bool

/-- How a flash operation went.  One that reports an error was done or not. -/
inductive FlashResult where
  | ok
  | error (name : String) (done : Bool)

def FlashResult.done : FlashResult → Bool
  | .ok => true
  | .error _ done => done

def FlashResult.name : FlashResult → Option String
  | .ok => none
  | .error name _ => some name

def eraseBytes (flash : Nat → UInt8) (first len : Nat) : Nat → UInt8 := fun a =>
  if first ≤ a ∧ a < first + len then 0xFF else flash a

/-- A write clears bits: only an erased byte takes the value asked for. -/
def programBytes (flash : Nat → UInt8) (first : Nat) (data : List UInt8) : Nat → UInt8 := fun a =>
  if first ≤ a ∧ a < first + data.length then flash a &&& data.getD (a - first) 0 else flash a

/-! ## §2. The board. -/

/-- Who an install is for. -/
inductive Party where
  | upload (request : Nat) (md5 : String)
  | release (image : ReleaseImage)
  deriving DecidableEq

/-- What happened to the slot: for the statements, nothing of the code reads it. -/
inductive SlotEvent where
  | started
  | began (party : Party)
  /-- Bytes that the writer took, from a request or from the release. -/
  | took (request : Option Nat) (data : List UInt8)
  | erase (first len : Nat) (done : Bool)
  | write (first : Nat) (data : List UInt8) (done : Bool)
  | failed
  deriving DecidableEq

/-- `OtaRejection`. -/
structure OtaRejection where
  status : Nat := 0
  reason : String := ""

def OtaRejection.rejected (r : OtaRejection) : Bool := r.status ≠ 0

/-- A `releaseInstall` under way: what it wrote, which is what it hashed, and
whether it failed and has to be given up. -/
structure ReleaseInstall where
  image : ReleaseImage
  hashed : List UInt8 := []
  failed : Bool := false

/-- The slot's flash, the statics of `FactorySlot.cpp`, those of the upload
route, the release worker, and the story so far, newest first. -/
structure SlotBoard where
  flash : Nat → UInt8
  target : Option Nat := none
  writeOffset : Nat := 0
  erasedUpTo : Nat := 0
  md5 : List UInt8 := []
  expectedMd5 : String := ""
  callerChecks : Bool := false
  lastError : String := ""
  installInProgress : Bool := false
  lastChunkMs : UInt32 := 0
  headerSector : Nat → UInt8 := fun _ => 0
  rescueOwnerRequest : Option Nat := none
  rescueRejection : OtaRejection := {}
  tempObject : Nat → Bool := fun _ => false
  updating : Bool := false
  install : Option ReleaseInstall := none
  story : List SlotEvent := []

abbrev SlotTask (β : Type) : Type := TaskM SlotBoard FlashResult β

def note (e : SlotEvent) : SlotTask Unit := modify fun s => { s with story := e :: s.story }

def afterErase (first len : Nat) (r : FlashResult) (s : SlotBoard) : SlotBoard :=
  { s with
    flash := if r.done then eraseBytes s.flash first len else s.flash
    story := .erase first len r.done :: s.story }

def afterWrite (first : Nat) (data : List UInt8) (r : FlashResult) (s : SlotBoard) : SlotBoard :=
  { s with
    flash := if r.done then programBytes s.flash first data else s.flash
    story := .write first data r.done :: s.story }

/-- `esp_partition_erase_range`. -/
def erase (first len : Nat) : SlotTask (Option String) := do
  let r ← ask
  modify (afterErase first len r)
  pure r.name

/-- `esp_partition_write`. -/
def write (first : Nat) (data : List UInt8) : SlotTask (Option String) := do
  let r ← ask
  modify (afterWrite first data r)
  pure r.name

/-! ## §3. The writer. -/

/-- `factoryInstallInProgress`. -/
def factoryInstallInProgress (s : SlotBoard) (now : UInt32) : Bool :=
  s.installInProgress && decide (now - s.lastChunkMs < INSTALL_STALE_MS)

/-- `fail`: flash is scrubbed only where the install touched it. -/
def fail (why : String) : SlotTask Bool := do
  modify fun s => { s with lastError := why }
  note .failed
  let s ← get
  if s.target ≠ none ∧ 0 < s.erasedUpTo then
    let _ ← erase 0 SECTOR
    modify fun s => { s with target := none, installInProgress := false }
    pure false
  else
    modify fun s => { s with target := none, installInProgress := false }
    pure false

/-- `beginInstall`, which touches no flash. -/
def beginInstall (P : Platform) (now : UInt32) (md5Param : String) (checkedByCaller : Bool)
    (s : SlotBoard) : Bool × SlotBoard :=
  if factoryInstallInProgress s now then
    (false, { s with lastError := "another rescue install is in flight" })
  else
    match P.factorySize with
    | none => (false, { s with
        callerChecks := checkedByCaller
        lastError := "no factory partition in the table"
        target := none
        installInProgress := false })
    | some size => (true, { s with
        callerChecks := checkedByCaller
        lastError := ""
        target := some size
        writeOffset := 0
        erasedUpTo := 0
        expectedMd5 := md5Param
        installInProgress := true
        lastChunkMs := now
        md5 := [] })

/-- `planFactoryChunk`. -/
structure FactoryChunkPlan where
  headerBytes : Nat
  flashOffset : Nat
  flashBytes : Nat
  eraseTo : Nat

def planFactoryChunk (writeOffset len sector : Nat) : FactoryChunkPlan :=
  let headerBytes :=
    if writeOffset < sector then min len (sector - writeOffset) else 0
  let flashBytes := len - headerBytes
  if 0 < flashBytes then
    { headerBytes
      flashOffset := writeOffset + headerBytes
      flashBytes
      eraseTo := (writeOffset + headerBytes + flashBytes + sector - 1) / sector * sector }
  else { headerBytes, flashOffset := 0, flashBytes, eraseTo := 0 }

/-- The install now owns the slot. -/
def ownSlot : SlotTask (Option String) := do
  match ← erase 0 SECTOR with
  | some err => pure (some err)
  | none =>
      modify fun s => { s with erasedUpTo := SECTOR }
      pure none

/-- Lazy erase, ahead of the write window. -/
def eraseAhead (eraseTo : Nat) : SlotTask (Option String) := do
  let s ← get
  if s.erasedUpTo < eraseTo then
    match ← erase s.erasedUpTo (eraseTo - s.erasedUpTo) with
    | some err => pure (some err)
    | none =>
        modify fun s => { s with erasedUpTo := eraseTo }
        pure none
  else pure none

/-- Bytes into a buffer. -/
def copyBytes (buffer : Nat → UInt8) (first : Nat) (data : List UInt8) : Nat → UInt8 := fun a =>
  if first ≤ a ∧ a < first + data.length then data.getD (a - first) 0 else buffer a

/-- A chunk that is in order and fits: its header bytes to the buffer, the
others to the flash. -/
def routeChunk (writeOffset : Nat) (data : List UInt8) : SlotTask Bool := do
  let plan := planFactoryChunk writeOffset data.length SECTOR
  modify fun s => { s with
    headerSector := copyBytes s.headerSector writeOffset (data.take plan.headerBytes) }
  if 0 < plan.flashBytes then
    match ← eraseAhead plan.eraseTo with
    | some err => fail ("flash erase: " ++ err)
    | none =>
        match ← write plan.flashOffset (data.drop plan.headerBytes) with
        | some err => fail ("flash write: " ++ err)
        | none =>
            modify fun s => { s with
              md5 := s.md5 ++ data
              writeOffset := s.writeOffset + data.length }
            pure true
  else
    modify fun s => { s with
      md5 := s.md5 ++ data
      writeOffset := s.writeOffset + data.length }
    pure true

def factoryWriteChunk (now : UInt32) (data : List UInt8) (streamOffset : Nat) : SlotTask Bool := do
  let s ← get
  match s.target with
  | none => pure false
  | some size =>
      if s.lastError ≠ "" then pure false
      else if data = [] then pure true
      else if streamOffset ≠ s.writeOffset then
        fail "out-of-order upload chunk (concurrent install?)"
      else do
        modify fun s => { s with lastChunkMs := now }
        if size < s.writeOffset + data.length then
          fail ("image larger than the factory slot (" ++ toString size ++ " bytes)")
        else if s.writeOffset = 0 then
          if data.head? ≠ some 0xE9 then fail "not an app image (bad magic byte)"
          else
            match ← ownSlot with
            | some err => fail ("flash erase: " ++ err)
            | none => routeChunk s.writeOffset data
        else routeChunk s.writeOffset data

/-- `factoryWriteEnd`. -/
def factoryWriteEnd (P : Platform) : SlotTask Bool := do
  let s ← get
  if s.target = none ∨ s.lastError ≠ "" then pure false
  else if s.writeOffset = 0 then fail "empty upload"
  else if s.callerChecks = false ∧ P.md5 s.md5 ≠ s.expectedMd5 then
    fail ("md5 mismatch (upload corrupted): got " ++ P.md5 s.md5)
  else
    match ← write 0 ((List.range (min s.writeOffset SECTOR)).map s.headerSector) with
    | some err => fail ("flash write (header commit): " ++ err)
    | none =>
        let s ← get
        if P.appDescriptor s.flash = false then
          fail "written image has no valid app descriptor"
        else
          modify fun s => { s with target := none, installInProgress := false }
          pure true

/-- `factoryWriteAbort`. -/
def factoryWriteAbort : SlotTask Unit := do
  let s ← get
  if s.target = none then pure ()
  else
    let _ ← fail "given up before the image was whole"
    pure ()

/-! ## §4. The upload route. -/

inductive OtaGate where
  | Pass | CrossOrigin | UnitReflashBusy | Md5Missing | Md5Malformed
  deriving DecidableEq

/-- `normalizeOtaMd5`: the lowered digest and whether it is one. -/
def normalizeOtaMd5 (md5 : String) : Bool × String :=
  let lowered := md5.toLower
  (lowered.length == 32 &&
    lowered.toList.all fun c => ('0' ≤ c && c ≤ '9') || ('a' ≤ c && c ≤ 'f'), lowered)

def otaUploadGate (crossOrigin unitReflashBusy : Bool) (md5 : String) : OtaGate × String :=
  if crossOrigin then (.CrossOrigin, md5)
  else if unitReflashBusy then (.UnitReflashBusy, md5)
  else if md5 = "" then (.Md5Missing, md5)
  else
    let (ok, lowered) := normalizeOtaMd5 md5
    if ok then (.Pass, lowered) else (.Md5Malformed, lowered)

def otaGateHttpStatus : OtaGate → Nat
  | .Pass => 200
  | .CrossOrigin => 403
  | .UnitReflashBusy => 409
  | _ => 400

def otaGateReason : OtaGate → String
  | .CrossOrigin => "Cross-origin firmware upload refused (CSRF guard)"
  | .UnitReflashBusy => "Unit reflash in progress — retry when it finishes"
  | .Md5Missing => "md5 query parameter is required (compute it over the .bin and pass ?md5=...)"
  | .Md5Malformed => "md5 must be exactly 32 hex characters"
  | .Pass => ""

def OtaRejection.ofGate (g : OtaGate) : OtaRejection := ⟨otaGateHttpStatus g, otaGateReason g⟩

/-- One call of the upload callback. -/
structure UploadChunk where
  request : Nat
  md5 : String
  crossOrigin : Bool
  index : Nat
  data : List UInt8
  final : Bool

/-- The first chunk of a request: true when the callback goes on with it. -/
def uploadBegins (P : Platform) (now : UInt32) (u : UploadChunk) (s : SlotBoard) :
    Bool × SlotBoard :=
  if factoryInstallInProgress s now then
    (false, { s with tempObject := fun r => r = u.request || s.tempObject r })
  else if s.updating then
    (false, { s with rescueRejection := ⟨409, RELEASE_UPDATE_RUNNING⟩ })
  else
    match otaUploadGate u.crossOrigin false u.md5 with
    | (.Pass, md5) =>
        match beginInstall P now md5 false { s with rescueRejection := {} } with
        | (false, s') => (false, { s' with rescueRejection :=
            ⟨500, "Rescue install could not start: " ++ s'.lastError⟩ })
        | (true, s') => (true, { s' with
            rescueOwnerRequest := some u.request
            story := .began (.upload u.request md5) :: s'.story })
    | (gate, _) => (false, { s with rescueRejection := .ofGate gate })

/-- The rest of the callback: only the request that began the install writes. -/
def uploadWrites (P : Platform) (now : UInt32) (u : UploadChunk) : SlotTask Unit := do
  let s ← get
  if s.rescueOwnerRequest ≠ some u.request ∨ s.rescueRejection.rejected = true then pure ()
  else if u.data = [] then
    if u.final then
      let _ ← factoryWriteEnd P
      pure ()
    else pure ()
  else
    if ← factoryWriteChunk now u.data u.index then
      note (.took (some u.request) u.data)
      if u.final then
        let _ ← factoryWriteEnd P
        pure ()
      else pure ()
    else pure ()

/-- The upload callback of `POST /firmware/rescue`. -/
def rescueUpload (P : Platform) (now : UInt32) (u : UploadChunk) : SlotTask Unit := do
  if u.index = 0 then
    let s ← get
    let begins := uploadBegins P now u s
    modify fun _ => begins.2
    if begins.1 then uploadWrites P now u else pure ()
  else uploadWrites P now u

/-- The completion handler: the marker of the install is cleared whenever it is
the request's own.  What it answers touches nothing. -/
def rescueCompleted (request : Nat) (s : SlotBoard) : SlotBoard :=
  if s.tempObject request then s
  else { s with
    rescueOwnerRequest :=
      if s.rescueOwnerRequest = some request then none else s.rescueOwnerRequest
    rescueRejection := {} }

/-- The request is gone, its marker and its object with it. -/
def rescueDisconnected (request : Nat) (s : SlotBoard) : SlotBoard :=
  { s with
    rescueOwnerRequest :=
      if s.rescueOwnerRequest = some request then none else s.rescueOwnerRequest
    tempObject := fun r => r ≠ request && s.tempObject r }

/-! ## §5. The release worker, call by call. -/

/-- `RescueWriter::begin`. -/
def releaseBegins (P : Platform) (now : UInt32) (image : ReleaseImage) (s : SlotBoard) :
    SlotBoard :=
  match beginInstall P now "" true s with
  | (false, s') => s'
  | (true, s') => { s' with
      install := some { image }
      story := .began (.release image) :: s'.story }

/-- A piece of the download, read and written. -/
def releasePiece (now : UInt32) (i : ReleaseInstall) (data : List UInt8) : SlotTask Unit := do
  if ← factoryWriteChunk now data i.hashed.length then
    note (.took none data)
    modify fun s => { s with install := some { i with hashed := i.hashed ++ data } }
  else modify fun s => { s with install := some { i with failed := true } }

/-- The whole image is read: committed when its hash is the manifest's. -/
def releaseFinish (P : Platform) (i : ReleaseInstall) : SlotTask Unit := do
  if P.sha256 i.hashed ≠ i.image.sha256 then
    modify fun s => { s with install := some { i with failed := true } }
  else if ← factoryWriteEnd P then modify fun s => { s with install := none }
  else modify fun s => { s with install := some { i with failed := true } }

def releaseGivesUp : SlotTask Unit := do
  factoryWriteAbort
  modify fun s => { s with install := none }

/-! ## §6. The system. -/

/-- The steps: the calls of the two tasks, each with how its flash operations
went.  Too few of these, and the power went before the next one. -/
inductive SlotStep where
  | upload (now : UInt32) (u : UploadChunk) (flash : List FlashResult)
  | completed (request : Nat)
  | disconnected (request : Nat)
  /-- `releaseAskUpdate`. -/
  | asked
  | begins (now : UInt32) (image : ReleaseImage)
  | piece (now : UInt32) (data : List UInt8) (flash : List FlashResult)
  /-- The download breaks off. -/
  | cutOff
  | finish (flash : List FlashResult)
  | givesUp (flash : List FlashResult)
  /-- The update has ended without a restart. -/
  | updated
  | power

/-- What the next start finds: the flash. -/
def powerOn (s : SlotBoard) : SlotBoard := { flash := s.flash, story := .started :: s.story }

/-- A call, or what is left of the board when the power goes in it. -/
def called {β : Type} (t : SlotTask β) (s : SlotBoard) (flash : List FlashResult) : SlotBoard :=
  match t s flash with
  | (some _, s') => s'
  | (none, s') => powerOn s'

def step (P : Platform) (s : SlotBoard) : SlotStep → Option SlotBoard
  | .upload now u flash => some (called (rescueUpload P now u) s flash)
  | .completed request => some (rescueCompleted request s)
  | .disconnected request => some (rescueDisconnected request s)
  | .asked => if s.updating then none else some { s with updating := true }
  | .begins now image =>
      if s.updating ∧ s.install.isNone then some (releaseBegins P now image s) else none
  | .piece now data flash =>
      match s.install with
      | some i =>
          if i.failed = false ∧ data ≠ [] ∧ i.hashed.length + data.length ≤ i.image.size then
            some (called (releasePiece now i data) s flash)
          else none
      | none => none
  | .cutOff =>
      match s.install with
      | some i =>
          if i.failed = false ∧ i.hashed.length < i.image.size then
            some { s with install := some { i with failed := true } }
          else none
      | none => none
  | .finish flash =>
      match s.install with
      | some i =>
          if i.failed = false ∧ i.hashed.length = i.image.size then
            some (called (releaseFinish P i) s flash)
          else none
      | none => none
  | .givesUp flash =>
      match s.install with
      | some i => if i.failed then some (called releaseGivesUp s flash) else none
      | none => none
  | .updated => if s.updating ∧ s.install.isNone then some { s with updating := false } else none
  | .power => some (powerOn s)

end SplitFlap.Rescue
