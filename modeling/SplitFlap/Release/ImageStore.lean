/-
  SplitFlap.Release.ImageStore — the row image the master keeps.

  `FollowerImageStore.cpp`: an image is uploaded into memory and checked; netTask then
  writes three files, the master rev it is held for, the image and the image's rev, one
  after another.  The power may go between any two of them, and the next start reads
  back what it finds.

  A pass of `followerImageFlushTick` is three steps (`Pass`), as an upload may end
  between them.
-/
import SplitFlap.Lib.Machine
import SplitFlap.Link.Wire

namespace SplitFlap.ImageStore

open Machine

abbrev FOLLOWER_IMAGE_MAX_BYTES : Nat := 640 * 1024
abbrev FACTS_REV_MAX : Nat := 40

/-! ## §1. Texts. -/

def isSpace (c : UInt8) : Bool := c = 32 ∨ 9 ≤ c ∧ c ≤ 13

/-- `String::trim`. -/
def trim (s : CStr) : CStr := ((s.dropWhile isSpace).reverse.dropWhile isSpace).reverse

def toLowerCase (s : CStr) : CStr := s.map fun c => if 65 ≤ c ∧ c ≤ 90 then c + 32 else c

def hexDigit (n : UInt8) : UInt8 := if n < 10 then 48 + n else 87 + n

/-- The digest as text. -/
def digestText (digest : List UInt8) : CStr :=
  digest.flatMap fun (b : UInt8) => [hexDigit (b >>> 4), hexDigit (b &&& 0x0F)]

/-- Is the image kept from the rows until the master runs this rev? -/
def followerImageHeld (heldFor runningRev : CStr) : Bool := heldFor ≠ [] ∧ heldFor ≠ runningRev

def followerImageHoldSpent (heldFor runningRev : CStr) : Bool :=
  heldFor ≠ [] ∧ heldFor = runningRev

def followerImageChunkOk (index accumulated len cap : Nat) : Bool :=
  index = accumulated ∧ accumulated + len ≤ cap

/-- gzip's two magic bytes. -/
def imageIsPacked (bytes : List UInt8) : Bool :=
  2 ≤ bytes.length ∧ bytes.getD 0 0 = 0x1F ∧ bytes.getD 1 0 = 0x8B

/-! ## §2. The files. -/

/-- An image as it was uploaded. -/
structure Upload where
  bytes : List UInt8
  rev : CStr
  heldFor : CStr
  deriving DecidableEq

/-- The three files.  The image's holds its bytes alone; whose image it is stands beside
    them for what is said of it. -/
structure Flash where
  image : Option Upload := none
  rev : Option CStr := none
  hold : Option CStr := none

/-- A write or a removal; each is done whole or not at all. -/
inductive FileOp where
  | writeHold (heldFor : CStr)
  | writeImage (u : Upload)
  | writeRev (rev : CStr)
  | removeHold
  | removeImage
  | removeRev
  deriving DecidableEq

def FileOp.apply : FileOp → Flash → Flash
  | .writeHold heldFor, f => { f with hold := some heldFor }
  | .writeImage u, f => { f with image := some u }
  | .writeRev rev, f => { f with rev := some rev }
  | .removeHold, f => { f with hold := none }
  | .removeImage, f => { f with image := none }
  | .removeRev, f => { f with rev := none }

def applyAll (ops : List FileOp) (f : Flash) : Flash := ops.foldl (fun f op => op.apply f) f

/-- Which writes the flash takes. -/
structure Writes where
  hold : Bool := true
  image : Bool := true
  rev : Bool := true

def holdOk (u : Upload) (w : Writes) : Bool := u.heldFor = [] ∨ w.hold = true

/-- Is the image written? -/
def written (u : Upload) (w : Writes) : Bool := holdOk u w ∧ w.image = true

/-- What the flush does to the files, in its order. -/
def flushOps (u : Upload) (w : Writes) : List FileOp :=
  (if u.heldFor ≠ [] ∧ w.hold = true then [.writeHold u.heldFor] else []) ++
  if written u w then
    [.writeImage u] ++
    (if u.heldFor = [] then [.removeHold] else []) ++
    (if w.rev then [.writeRev u.rev] else [.removeRev])
  else [.removeImage, .removeRev, .removeHold]

/-! ## §3. The store. -/

/-- What a row is told about the stored image. -/
structure FollowerImageFacts where
  rev : CStr := []
  size : Nat := 0
  md5 : List UInt8 := []
  packed : Bool := false
  deriving DecidableEq

def factsOf (md5 : List UInt8 → List UInt8) (bytes : List UInt8) (storedRev : CStr) :
    FollowerImageFacts :=
  { rev := storedRev.take FACTS_REV_MAX
    size := bytes.length
    md5 := md5 bytes
    packed := imageIsPacked bytes }

/-- An upload under way. -/
structure Accumulator where
  md5 : CStr
  rev : CStr
  heldFor : CStr
  bytes : List UInt8 := []

/-- What the pass of the flush tick does next. -/
inductive Pass where
  | dropHold
  | readFacts
  | flush
  deriving DecidableEq

/-- The flash, the revs this master has run, and its memory. -/
structure Store where
  flash : Flash := {}
  ran : List CStr := []
  gitRev : CStr := []
  available : Bool := false
  storedPresent : Bool := false
  storedRev : CStr := []
  storedHeldFor : CStr := []
  holdFileSpent : Bool := false
  relayClaims : Nat := 0
  facts : FollowerImageFacts := {}
  factsKnown : Bool := false
  factsOwed : Bool := false
  acc : Option Accumulator := none
  flush : Option Upload := none
  pass : Pass := .dropHold

/-- What is read of a file that may not be there. -/
def readTrimmed (present : Bool) (file : Option CStr) : CStr :=
  if present then trim (file.getD []) else []

/-- A start of the master on these files, running this rev. -/
def followerImageStoreInit (flash : Flash) (ran : List CStr) (gitRev : CStr) (mounted : Bool) :
    Store :=
  let storedPresent := mounted && flash.image.isSome
  let heldFor := readTrimmed storedPresent flash.hold
  let spent := followerImageHoldSpent heldFor gitRev
  { flash
    ran := gitRev :: ran
    gitRev
    available := mounted
    storedPresent
    factsOwed := storedPresent
    storedRev := readTrimmed storedPresent flash.rev
    storedHeldFor := if spent then [] else heldFor
    holdFileSpent := spent }

namespace Store

/-- The image the rows are offered. -/
def followerImageFacts (s : Store) : Option FollowerImageFacts :=
  if !s.storedPresent || !s.factsKnown then none
  else if followerImageHeld s.storedHeldFor s.gitRev then none
  else some s.facts

/-- `followerImageTryClaimRelay`; refused while the file is about to change. -/
def tryClaimRelay (s : Store) : Store :=
  if s.acc.isSome ∨ s.flush.isSome then s else { s with relayClaims := s.relayClaims + 1 }

def releaseRelay (s : Store) : Store := { s with relayClaims := s.relayClaims - 1 }

def writeBegin (s : Store) (expectedMd5 rev heldFor : CStr) (allocated : Bool) : Store :=
  if s.acc.isSome ∨ s.flush.isSome then s
  else if s.available = false then s
  else if expectedMd5.length ≠ 32 then s
  else if allocated then { s with acc := some { md5 := toLowerCase expectedMd5, rev, heldFor } }
  else s

def writeChunk (s : Store) (data : List UInt8) (streamOffset : Nat) : Store :=
  match s.acc with
  | none => s
  | some acc =>
      if followerImageChunkOk streamOffset acc.bytes.length data.length FOLLOWER_IMAGE_MAX_BYTES then
        { s with acc := some { acc with bytes := acc.bytes ++ data } }
      else { s with acc := none }

def writeAbort (s : Store) : Store := { s with acc := none }

variable (md5 : List UInt8 → List UInt8)

def writeEnd (s : Store) : Store :=
  match s.acc with
  | none => s
  | some acc =>
      if acc.bytes = [] then { s with acc := none }
      else if toLowerCase (digestText (md5 acc.bytes)) ≠ acc.md5 then { s with acc := none }
      else
        { s with
          acc := none
          flush := some { bytes := acc.bytes, rev := acc.rev, heldFor := acc.heldFor } }

/-- The head of a pass: an upload that stalled is given up, a spent hold removed. -/
def dropHold (s : Store) (stalled : Bool) : Store :=
  let s := if stalled then { s with acc := none } else s
  let spent := s.holdFileSpent && s.flush.isNone
  { s with
    holdFileSpent := false
    flash := if spent then FileOp.removeHold.apply s.flash else s.flash
    pass := .readFacts }

/-- Size and checksum of the image as it is on flash, where the read succeeds. -/
def readFactsOffFlash (s : Store) (ok : Bool) : Store :=
  let s := if s.storedPresent then s else { s with factsOwed := false }
  match s.flash.image with
  | none => s
  | some u =>
      if ok = false ∨ u.bytes = [] ∨ s.storedPresent = false then s
      else
        { s with
          factsOwed := false
          factsKnown := true
          facts := factsOf md5 u.bytes s.storedRev }

def readFacts (s : Store) (due ok : Bool) : Store :=
  let s := { s with pass := .flush }
  if s.factsOwed ∧ s.flush.isNone ∧ due then s.readFactsOffFlash md5 ok else s

/-- What the store knows once the files are written. -/
def stored (s : Store) (u : Upload) (w : Writes) : Store :=
  let ok := written u w
  let storedRev := if ok && w.rev then u.rev else []
  { s with
    flush := none
    storedPresent := ok
    storedRev
    storedHeldFor := if ok then u.heldFor else []
    facts := factsOf md5 u.bytes storedRev
    factsKnown := ok
    factsOwed := false }

/-- The image that is written in this pass. -/
def flushing (s : Store) : Option Upload := if s.relayClaims > 0 then none else s.flush

/-- The end of a pass. -/
def flushTick (s : Store) (w : Writes) : Store :=
  let s := { s with pass := .dropHold }
  match s.flushing with
  | none => s
  | some u => { s.stored md5 u w with flash := applyAll (flushOps u w) s.flash }

end Store

inductive StoreStep where
  | writeBegin (expectedMd5 rev heldFor : CStr) (allocated : Bool)
  | writeChunk (data : List UInt8) (streamOffset : Nat)
  | writeEnd
  | writeAbort
  | tryClaimRelay
  | releaseRelay
  | dropHold (stalled : Bool)
  | readFacts (due ok : Bool)
  | flush (w : Writes)
  /-- The power goes after this many of the flush's operations, and the master starts
      again, with this rev. -/
  | cut (w : Writes) (k : Nat) (gitRev : CStr) (mounted : Bool)
  /-- The master starts again at another time. -/
  | restart (gitRev : CStr) (mounted : Bool)

def Store.step (md5 : List UInt8 → List UInt8) (s : Store) : StoreStep → Option Store
  | .writeBegin expectedMd5 rev heldFor allocated =>
      some (s.writeBegin expectedMd5 rev heldFor allocated)
  | .writeChunk data streamOffset => some (s.writeChunk data streamOffset)
  | .writeEnd => some (s.writeEnd md5)
  | .writeAbort => some s.writeAbort
  | .tryClaimRelay => some s.tryClaimRelay
  | .releaseRelay => some s.releaseRelay
  | .dropHold stalled => if s.pass = .dropHold then some (s.dropHold stalled) else none
  | .readFacts due ok => if s.pass = .readFacts then some (s.readFacts md5 due ok) else none
  | .flush w => if s.pass = .flush then some (s.flushTick md5 w) else none
  | .cut w k gitRev mounted =>
      if s.pass = .flush then
        s.flushing.map fun u =>
          followerImageStoreInit (applyAll ((flushOps u w).take k) s.flash) s.ran gitRev mounted
      else none
  | .restart gitRev mounted => some (followerImageStoreInit s.flash s.ran gitRev mounted)

/-! ## §4. Files that belong together. -/

/-- The rev beside the image is the image's or blank, and an image that is held, for a
    rev the master has not run, has its hold beside it. -/
structure Flash.One (f : Flash) (ran : List CStr) : Prop where
  rev : ∀ u ∈ f.image, ∀ r ∈ f.rev, trim r = u.rev ∨ trim r = []
  hold : ∀ u ∈ f.image, u.heldFor = [] ∨ u.heldFor ∈ ran ∨ f.hold.map trim = some u.heldFor

variable {f : Flash} {ran : List CStr} {u : Upload} {w : Writes}

/-- A text that reads as it was written. -/
def Upload.Trimmed (u : Upload) : Prop := trim u.rev = u.rev ∧ trim u.heldFor = u.heldFor

theorem Flash.One.mono (h : f.One ran) {more : List CStr} (hmore : ∀ r ∈ ran, r ∈ more) :
    f.One more where
  rev := h.rev
  hold u hu := (h.hold u hu).imp_right fun hor => hor.imp_left (hmore _)

theorem Flash.One.without (hf : f.image = none) : f.One ran where
  rev u hu := by rw [hf] at hu; cases hu
  hold u hu := by rw [hf] at hu; cases hu

/-- What the whole flush leaves. -/
theorem applyAll_flushOps (f : Flash) (u : Upload) (w : Writes) :
    applyAll (flushOps u w) f =
      if written u w then
        { image := some u
          rev := if w.rev then some u.rev else none
          hold := if u.heldFor = [] then none else some u.heldFor }
      else {} := by
  obtain ⟨hold, image, rev⟩ := w
  obtain ⟨bytes, urev, heldFor⟩ := u
  unfold flushOps written holdOk
  by_cases hfree : heldFor = []
  · cases image <;> cases rev <;> simp [hfree, applyAll, FileOp.apply]
  · cases hold <;> cases image <;> cases rev <;> simp [hfree, applyAll, FileOp.apply]

/-- The power went between the hold and the image. -/
def CutsHold (u : Upload) (w : Writes) (k : Nat) : Prop :=
  let ops := (flushOps u w).take k
  .writeHold u.heldFor ∈ ops ∧ .writeImage u ∉ ops ∧ .removeImage ∉ ops

/-- The power went between the image and its rev. -/
def CutsRev (u : Upload) (w : Writes) (k : Nat) : Prop :=
  let ops := (flushOps u w).take k
  .writeImage u ∈ ops ∧ .writeRev u.rev ∉ ops ∧ .removeRev ∉ ops

instance (u : Upload) (w : Writes) (k : Nat) : Decidable (CutsHold u w k) :=
  inferInstanceAs (Decidable (_ ∧ _ ∧ _))

instance (u : Upload) (w : Writes) (k : Nat) : Decidable (CutsRev u w k) :=
  inferInstanceAs (Decidable (_ ∧ _ ∧ _))

/-- What a flush that is cut short leaves: what was there; that with the hold; no image;
    the image, with its hold, beside the old rev; or all of it. -/
theorem cut_cases (f : Flash) (u : Upload) (w : Writes) (k : Nat) :
    let f' := applyAll ((flushOps u w).take k) f
    f' = f ∨
    CutsHold u w k ∧ f' = { f with hold := some u.heldFor } ∨
    f'.image = none ∨
    CutsRev u w k ∧ f'.image = some u ∧ f'.rev = f.rev ∧
      (u.heldFor = [] ∨ f'.hold = some u.heldFor) ∨
    f' = applyAll (flushOps u w) f := by
  obtain ⟨hold, image, rev⟩ := w
  obtain ⟨bytes, urev, heldFor⟩ := u
  unfold CutsHold CutsRev flushOps written holdOk
  by_cases hfree : heldFor = []
  · cases image <;> cases rev <;> rcases k with _ | _ | _ | k <;>
      simp [hfree, applyAll, FileOp.apply]
  · cases hold <;> cases image <;> cases rev <;> rcases k with _ | _ | _ | _ | k <;>
      simp [hfree, applyAll, FileOp.apply]

/-- A whole flush leaves files that belong together, whatever was there. -/
theorem Flash.One.flush (hu : u.Trimmed) : (applyAll (flushOps u w) f).One ran := by
  rw [applyAll_flushOps]
  split
  · constructor
    · intro v hv r hr
      obtain rfl := Option.some.inj hv
      dsimp only at hr
      split at hr
      · obtain rfl := Option.some.inj hr
        exact .inl hu.1
      · cases hr
    · intro v hv
      obtain rfl := Option.some.inj hv
      by_cases hfree : u.heldFor = []
      · exact .inl hfree
      · right
        right
        dsimp only
        rw [if_neg hfree]
        exact congrArg some hu.2
  · exact .without rfl

/-- So does one that is cut short, where the cut leaves no file beside another's. -/
theorem Flash.One.cut (h : f.One ran) (hu : u.Trimmed) {k : Nat}
    (hhold : CutsHold u w k →
      ∀ v ∈ f.image, v.heldFor = [] ∨ v.heldFor ∈ ran ∨ v.heldFor = u.heldFor)
    (hrev : CutsRev u w k → ∀ r ∈ f.rev, trim r = u.rev ∨ trim r = []) :
    (applyAll ((flushOps u w).take k) f).One ran := by
  rcases cut_cases f u w k with hsame | ⟨hcut, hafter⟩ | hnone | ⟨hcut, himage, holdRev, hholds⟩ |
    hwhole
  · rw [hsame]
    exact h
  · rw [hafter]
    constructor
    · exact h.rev
    · intro v hv
      rcases hhold hcut v hv with hfree | hran | hsame
      · exact .inl hfree
      · exact .inr (.inl hran)
      · right
        right
        rw [hsame]
        exact congrArg some hu.2
  · exact .without hnone
  · constructor
    · intro v hv r hr
      rw [himage] at hv
      obtain rfl := Option.some.inj hv
      rw [holdRev] at hr
      exact hrev hcut r hr
    · intro v hv
      rw [himage] at hv
      obtain rfl := Option.some.inj hv
      rcases hholds with hfree | hheld
      · exact .inl hfree
      · right
        right
        rw [hheld]
        exact congrArg some hu.2
  · rw [hwhole]
    exact .flush hu

/-- Removing a hold that is spent keeps them together. -/
theorem Flash.One.dropHold (h : f.One ran) (hspent : ∀ r ∈ f.hold, trim r ∈ ran) :
    (FileOp.removeHold.apply f).One ran where
  rev := h.rev
  hold u hu := by
    rcases h.hold u hu with hfree | hran | hheld
    · exact .inl hfree
    · exact .inr (.inl hran)
    · obtain ⟨r, hr, hsame⟩ := Option.map_eq_some_iff.mp hheld
      have hin := hspent r hr
      rw [hsame] at hin
      exact .inr (.inl hin)

/-! ## §5. Runs. -/

variable {md5 : List UInt8 → List UInt8} {s s' : Store}

/-- The stored image's rev is its own or blank, and what the rows are offered is the
    stored image, held for nothing or for a rev this master has run. -/
structure Store.One (md5 : List UInt8 → List UInt8) (s : Store) : Prop where
  rev : ∀ u ∈ s.flash.image, s.storedRev = u.rev ∨ s.storedRev = []
  offer : ∀ facts ∈ s.followerImageFacts, ∃ u ∈ s.flash.image,
    (u.heldFor = [] ∨ u.heldFor ∈ s.ran) ∧
      (facts = factsOf md5 u.bytes u.rev ∨ facts = factsOf md5 u.bytes [])

/-- Texts come without spaces around them, and the power does not go while a file stands
    beside another image's. -/
def Store.InOrder (s : Store) : StoreStep → Prop
  | .writeBegin _ rev heldFor _ => trim rev = rev ∧ trim heldFor = heldFor
  | .cut w k _ _ => ∀ u ∈ s.flushing,
      (CutsHold u w k → ∀ v ∈ s.flash.image,
        v.heldFor = [] ∨ v.heldFor ∈ s.ran ∨ v.heldFor = u.heldFor) ∧
      (CutsRev u w k → ∀ r ∈ s.flash.rev, trim r = u.rev ∨ trim r = [])
  | _ => True

structure Store.Kept (md5 : List UInt8 → List UInt8) (s : Store) : Prop where
  files : s.flash.One s.ran
  running : s.gitRev ∈ s.ran
  acc : ∀ a ∈ s.acc, trim a.rev = a.rev ∧ trim a.heldFor = a.heldFor
  flush : ∀ u ∈ s.flush, u.Trimmed
  /-- A spent hold is removed before another one is written. -/
  spent : s.holdFileSpent = true → s.pass = .dropHold ∧ ∀ r ∈ s.flash.hold, trim r ∈ s.ran
  rev : ∀ u ∈ s.flash.image, s.storedRev = u.rev ∨ s.storedRev = []
  held : s.storedPresent = true → ∃ u ∈ s.flash.image,
    u.heldFor = [] ∨ u.heldFor ∈ s.ran ∨ s.storedHeldFor = u.heldFor
  facts : s.factsKnown = true → ∀ u ∈ s.flash.image, s.facts = factsOf md5 u.bytes s.storedRev

/-- A start knows the image as it is on the files. -/
theorem Store.Kept.start (h : f.One ran) (gitRev : CStr) (mounted : Bool) :
    (followerImageStoreInit f ran gitRev mounted).Kept md5 := by
  have hmore : ∀ r ∈ ran, r ∈ gitRev :: ran := fun r hr => List.mem_cons_of_mem _ hr
  constructor
  · exact h.mono hmore
  · exact List.mem_cons_self
  · intro a ha
    cases ha
  · intro u hu
    cases hu
  · intro hspent
    refine ⟨rfl, ?_⟩
    intro r hr
    have hr : f.hold = some r := hr
    have hread : followerImageHoldSpent (readTrimmed (mounted && f.image.isSome) f.hold) gitRev =
        true := hspent
    unfold followerImageHoldSpent readTrimmed at hread
    rw [decide_eq_true_eq] at hread
    split at hread
    · rw [hr] at hread
      show trim r ∈ gitRev :: ran
      rw [← hread.2]
      exact List.mem_cons_self
    · exact absurd rfl hread.1
  · intro u hu
    show readTrimmed _ f.rev = u.rev ∨ readTrimmed _ f.rev = []
    unfold readTrimmed
    split
    · cases hrev : f.rev with
      | none => exact .inr rfl
      | some r => exact h.rev u hu r hrev
    · exact .inr rfl
  · intro hpresent
    have hboth : mounted = true ∧ f.image.isSome = true := Bool.and_eq_true_iff.mp hpresent
    obtain ⟨u, hu⟩ := Option.isSome_iff_exists.mp hboth.2
    refine ⟨u, hu, ?_⟩
    rcases h.hold u hu with hfree | hran | hheld
    · exact .inl hfree
    · exact .inr (.inl (hmore _ hran))
    · obtain ⟨r, hr, hsame⟩ := Option.map_eq_some_iff.mp hheld
      have hread : readTrimmed (mounted && f.image.isSome) f.hold = u.heldFor := by
        have hpresent : (mounted && f.image.isSome) = true := hpresent
        unfold readTrimmed
        rw [hpresent, hr]
        exact hsame
      right
      show _ ∈ gitRev :: ran ∨ (if followerImageHoldSpent _ _ then _ else _) = _
      rw [hread]
      split
      · next hspent =>
          unfold followerImageHoldSpent at hspent
          rw [decide_eq_true_eq] at hspent
          rw [hspent.2]
          exact .inl List.mem_cons_self
      · exact .inr rfl
  · intro hknown
    cases hknown

theorem Store.flushing_flush {u : Upload} (hu : u ∈ s.flushing) : u ∈ s.flush := by
  unfold Store.flushing at hu
  split at hu
  · cases hu
  · exact hu

section Steps

variable (h : s.Kept md5)
include h

/-- Another upload under way, or none. -/
theorem Store.Kept.accumulate {acc : Option Accumulator}
    (hacc : ∀ a ∈ acc, trim a.rev = a.rev ∧ trim a.heldFor = a.heldFor) :
    Store.Kept md5 { s with acc := acc } :=
  { h with acc := hacc }

theorem Store.Kept.writeBegin {expectedMd5 rev heldFor : CStr} {allocated : Bool}
    (hrev : trim rev = rev) (hheld : trim heldFor = heldFor) :
    (s.writeBegin expectedMd5 rev heldFor allocated).Kept md5 := by
  unfold Store.writeBegin
  split
  · exact h
  · split
    · exact h
    · split
      · exact h
      · split
        · apply h.accumulate
          intro a ha
          obtain rfl := Option.some.inj ha
          exact ⟨hrev, hheld⟩
        · exact h

theorem Store.Kept.writeChunk {data : List UInt8} {streamOffset : Nat} :
    (s.writeChunk data streamOffset).Kept md5 := by
  unfold Store.writeChunk
  cases hacc : s.acc with
  | none => exact h
  | some acc =>
      dsimp only
      split
      · apply h.accumulate
        intro a ha
        obtain rfl := Option.some.inj ha
        exact h.acc acc hacc
      · exact h.accumulate fun a ha => nomatch ha

theorem Store.Kept.writeEnd : (s.writeEnd md5).Kept md5 := by
  unfold Store.writeEnd
  cases hacc : s.acc with
  | none => exact h
  | some acc =>
      dsimp only
      have hnone := h.accumulate fun a (ha : a ∈ (none : Option Accumulator)) => nomatch ha
      split
      · exact hnone
      · split
        · exact hnone
        · refine { hnone with flush := ?_ }
          intro u hu
          obtain rfl := Option.some.inj hu
          exact h.acc acc hacc

theorem Store.Kept.claims (relayClaims : Nat) :
    Store.Kept md5 { s with relayClaims := relayClaims } :=
  { h with }

theorem Store.Kept.dropHold {stalled : Bool} : (s.dropHold stalled).Kept md5 := by
  have hacc : Store.Kept md5 (if stalled then { s with acc := none } else s) := by
    split
    · exact h.accumulate fun a ha => nomatch ha
    · exact h
  unfold Store.dropHold
  generalize (if stalled then { s with acc := none } else s) = m at hacc
  refine { hacc with files := ?_, spent := ?_, rev := ?_, held := ?_, facts := ?_ }
  · dsimp only
    split
    · next hspent => exact hacc.files.dropHold (hacc.spent (Bool.and_eq_true_iff.mp hspent).1).2
    · exact hacc.files
  · intro hno
    cases hno
  all_goals
    dsimp only
    split
  · exact hacc.rev
  · exact hacc.rev
  · exact hacc.held
  · exact hacc.held
  · exact hacc.facts
  · exact hacc.facts

/-- Past the head of a pass no hold is spent. -/
theorem Store.Kept.later {pass : Pass} (hpass : s.pass ≠ .dropHold) :
    Store.Kept md5 { s with pass := pass } :=
  { h with spent := fun hspent => absurd (h.spent hspent).1 hpass }

theorem Store.Kept.readFacts {due ok : Bool} (hpass : s.pass = .readFacts) :
    (s.readFacts md5 due ok).Kept md5 := by
  have hnext : Store.Kept md5 { s with pass := .flush } := h.later (by rw [hpass]; decide)
  unfold Store.readFacts
  dsimp only
  split
  · unfold Store.readFactsOffFlash
    generalize ({ s with pass := .flush } : Store) = m at hnext
    have howed : Store.Kept md5 (if m.storedPresent then m else { m with factsOwed := false }) := by
      split
      · exact hnext
      · exact { hnext with }
    dsimp only
    generalize (if m.storedPresent then m else { m with factsOwed := false }) = m at howed
    cases himage : m.flash.image with
    | none => exact howed
    | some u =>
        dsimp only
        split
        · exact howed
        · refine { howed with facts := ?_ }
          intro _ v hv
          have hv : m.flash.image = some v := hv
          rw [himage] at hv
          obtain rfl := Option.some.inj hv
          rfl
  · exact hnext

theorem Store.Kept.flushTick {w : Writes} (hpass : s.pass = .flush) :
    (s.flushTick md5 w).Kept md5 := by
  have hnext : Store.Kept md5 { s with pass := .dropHold } := h.later (by rw [hpass]; decide)
  unfold Store.flushTick
  dsimp only
  cases hflush : ({ s with pass := .dropHold } : Store).flushing with
  | none => exact hnext
  | some u =>
      have hu : u.Trimmed := h.flush u (Store.flushing_flush hflush)
      have himage : ∀ v ∈ (applyAll (flushOps u w) s.flash).image, v = u ∧ written u w = true := by
        intro v hv
        rw [applyAll_flushOps] at hv
        split at hv
        · next hwritten => exact ⟨(Option.some.inj hv).symm, hwritten⟩
        · cases hv
      have hunspent : s.holdFileSpent = false := by
        cases hspent : s.holdFileSpent with
        | false => rfl
        | true =>
            have hhead := (h.spent hspent).1
            rw [hpass] at hhead
            cases hhead
      constructor
      · exact .flush hu
      · exact h.running
      · exact h.acc
      · intro v hv
        cases hv
      · intro hspent
        exact absurd (hunspent.symm.trans hspent) (by decide)
      · intro v hv
        obtain ⟨rfl, hwritten⟩ := himage v hv
        show (if written v w && w.rev then v.rev else []) = v.rev ∨ (if _ then _ else _) = _
        split
        · exact .inl rfl
        · exact .inr rfl
      · intro hpresent
        have hwritten : written u w = true := hpresent
        refine ⟨u, ?_, ?_⟩
        · show (applyAll (flushOps u w) s.flash).image = some u
          rw [applyAll_flushOps, if_pos hwritten]
        · right
          right
          show (if written u w then u.heldFor else []) = u.heldFor
          rw [if_pos hwritten]
      · intro _ v hv
        obtain ⟨rfl, _⟩ := himage v hv
        rfl

end Steps

theorem Store.Kept.step (h : s.Kept md5) {a : StoreStep} (hok : s.InOrder a)
    (hstep : s.step md5 a = some s') : s'.Kept md5 := by
  cases a with
  | writeBegin expectedMd5 rev heldFor allocated =>
      obtain rfl := Option.some.inj hstep
      exact h.writeBegin hok.1 hok.2
  | writeChunk data streamOffset =>
      obtain rfl := Option.some.inj hstep
      exact h.writeChunk
  | writeEnd =>
      obtain rfl := Option.some.inj hstep
      exact h.writeEnd
  | writeAbort =>
      obtain rfl := Option.some.inj hstep
      exact h.accumulate fun a ha => nomatch ha
  | tryClaimRelay =>
      obtain rfl := Option.some.inj hstep
      unfold Store.tryClaimRelay
      split
      · exact h
      · exact h.claims _
  | releaseRelay =>
      obtain rfl := Option.some.inj hstep
      exact h.claims _
  | dropHold stalled =>
      obtain ⟨_, hs⟩ := Option.ite_none_right_eq_some.mp hstep
      obtain rfl := Option.some.inj hs
      exact h.dropHold
  | readFacts due ok =>
      obtain ⟨hpass, hs⟩ := Option.ite_none_right_eq_some.mp hstep
      obtain rfl := Option.some.inj hs
      exact h.readFacts hpass
  | flush w =>
      obtain ⟨hpass, hs⟩ := Option.ite_none_right_eq_some.mp hstep
      obtain rfl := Option.some.inj hs
      exact h.flushTick hpass
  | cut w k gitRev mounted =>
      obtain ⟨_, hcut⟩ := Option.ite_none_right_eq_some.mp hstep
      obtain ⟨u, hu, rfl⟩ := Option.map_eq_some_iff.mp hcut
      have hcond := hok u hu
      have htrimmed := h.flush u (Store.flushing_flush hu)
      exact .start (h.files.cut htrimmed hcond.1 hcond.2) gitRev mounted
  | restart gitRev mounted =>
      obtain rfl := Option.some.inj hstep
      exact .start h.files gitRev mounted


theorem Store.Kept.one (h : s.Kept md5) : s.One md5 where
  rev := h.rev
  offer facts hfacts := by
    have hfacts : s.followerImageFacts = some facts := hfacts
    unfold followerImageFacts at hfacts
    split at hfacts
    · cases hfacts
    · next hknown =>
        split at hfacts
        · cases hfacts
        · next hfree =>
            obtain rfl := Option.some.inj hfacts
            rw [Bool.or_eq_true, not_or, Bool.not_eq_true', Bool.not_eq_true'] at hknown
            rw [Bool.not_eq_false, Bool.not_eq_false] at hknown
            obtain ⟨u, hu, hheld⟩ := h.held hknown.1
            refine ⟨u, hu, ?_, ?_⟩
            · rcases hheld with hnone | hran | hsame
              · exact .inl hnone
              · exact .inr hran
              · -- Not held: no hold, or the master runs what it waits for.
                unfold followerImageHeld at hfree
                rw [decide_eq_true_eq, hsame, not_and_or, not_not, not_not] at hfree
                rcases hfree with hnone | hruns
                · exact .inl hnone
                · rw [hruns]
                  exact .inr h.running
            · rw [h.facts hknown.2 u hu]
              rcases h.rev u hu with hsame | hblank
              · rw [hsame]
                exact .inl rfl
              · rw [hblank]
                exact .inr rfl

instance (s : Store) : ∀ a, Decidable (s.InOrder a)
  | .writeBegin _ _ _ _ => inferInstanceAs (Decidable (_ ∧ _))
  | .cut _ _ _ _ => inferInstanceAs (Decidable (∀ u ∈ s.flushing, (_ → _) ∧ (_ → _)))
  | .writeChunk _ _ | .writeEnd | .writeAbort | .tryClaimRelay | .releaseRelay | .dropHold _
  | .readFacts _ _ | .flush _ | .restart _ _ => inferInstanceAs (Decidable True)

/-- **The stored image, its rev and its hold stay one** in every run, from empty files,
    in which the power does not go while a file stands beside another image's. -/
theorem image_rev_and_hold_stay_one (md5 : List UInt8 → List UInt8) (gitRev : CStr)
    (mounted : Bool) (steps : List StoreStep) (s : Store)
    (hok : AllMeet Store.InOrder (Store.step md5)
      (followerImageStoreInit {} [] gitRev mounted) steps)
    (hrun : run (Store.step md5) (followerImageStoreInit {} [] gitRev mounted) steps = some s) :
    s.One md5 := by
  have hstart : (followerImageStoreInit {} [] gitRev mounted).Kept md5 := .start (.without rfl) _ _
  have hkept : s.Kept md5 :=
    run_invariant_of_meets (fun _ _ _ h hok hstep => h.step hok hstep) hstart hok hrun
  exact hkept.one

/-- MD5 of "a" and of "b". -/
def digestOf (bytes : List UInt8) : List UInt8 :=
  if bytes = [97] then
    [0x0C, 0xC1, 0x75, 0xB9, 0xC0, 0xF1, 0xB6, 0xA8, 0x31, 0xC3, 0x99, 0xE2, 0x69, 0x77, 0x26, 0x61]
  else
    [0x92, 0xEB, 0x5F, 0xFE, 0xE6, 0xAE, 0x2F, 0xEC, 0x3A, 0xD7, 0x1C, 0x77, 0x75, 0x31, 0x57, 0x8F]

/-- A rev: seven times this digit. -/
def revOf (digit : UInt8) : CStr := List.replicate 7 digit

/-- A whole upload of one byte. -/
def uploadOf (byte : UInt8) (rev heldFor : CStr) : List StoreStep :=
  [.writeBegin (digestText (digestOf [byte])) rev heldFor true, .writeChunk [byte] 0, .writeEnd,
    .dropHold false, .readFacts true true]

/-- An image held for a release, put on offer by a restart into it. -/
theorem image_rev_and_hold_stay_one_held :
    ∃ s, run (Store.step digestOf) (followerImageStoreInit {} [] (revOf 49) true)
      (uploadOf 97 (revOf 97) (revOf 50) ++ [.flush {}, .restart (revOf 49) true, .restart (revOf 50) true,
        .dropHold false, .readFacts true true]) = some s ∧ s.One digestOf := by
  refine ⟨_, rfl, ?_⟩
  apply image_rev_and_hold_stay_one digestOf (revOf 49) true
    (uploadOf 97 (revOf 97) (revOf 50) ++ [.flush {}, .restart (revOf 49) true, .restart (revOf 50) true,
      .dropHold false, .readFacts true true])
  · exact AllMeet.of_decide (by decide +kernel)
  · rfl

/-- **A cut leaves an image beside another's rev, or under another's hold**: the power
    goes before the second image's rev is written, or behind its hold, and the master
    then runs what that hold waits for. -/
theorem cut_mixes_the_files :
    (∃ s, run (Store.step digestOf) (followerImageStoreInit {} [] (revOf 49) true)
      (uploadOf 97 (revOf 97) [] ++ [.flush {}] ++ uploadOf 98 (revOf 98) [] ++ [.cut {} 1 (revOf 49) true]) =
        some s ∧ ¬s.One digestOf) ∧
    ∃ s, run (Store.step digestOf) (followerImageStoreInit {} [] (revOf 49) true)
      (uploadOf 97 (revOf 97) (revOf 50) ++ [.flush {}] ++ uploadOf 98 (revOf 98) (revOf 51) ++ [.cut {} 1 (revOf 49) true,
        .restart (revOf 51) true, .dropHold false, .readFacts true true]) =
        some s ∧ ¬s.One digestOf := by
  refine ⟨⟨_, rfl, ?_⟩, ⟨_, rfl, ?_⟩⟩
  · intro h
    exact absurd (h.rev { bytes := [98], rev := revOf 98, heldFor := [] } rfl) (by decide +kernel)
  · intro h
    obtain ⟨u, hu, hfree, _⟩ := h.offer (factsOf digestOf [97] (revOf 97))
      (Option.mem_def.mpr (by decide +kernel))
    obtain rfl : { bytes := [97], rev := revOf 97, heldFor := revOf 50 } = u := Option.some.inj hu
    exact absurd hfree (by decide +kernel)

end SplitFlap.ImageStore
