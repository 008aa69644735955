/-
  SplitFlap.Release.Fetch — looking for a release and installing an image of it.

  `ReleaseFetch.h` over its hooks: the site, the signature check, the hash and
  the writer may answer anything at any time.  Everything they are told and all
  they answer is written down; what a look hands out and what an install may
  count are facts about that record (`release_whole_and_checked`).
-/
import SplitFlap.Release.Manifest
import SplitFlap.Lib.Trace

namespace SplitFlap.Release

open Trace

abbrev RELEASE_SIGNATURE_MAX : Nat := 128

/-! ## §1. The hooks. -/

/-- What the hooks were told, with their answers. -/
inductive Event
  | got (url : CStr) (n : Int32) (bytes : List UInt8)
  | verified (message signature : List UInt8) (ok : Bool)
  | opened (url : CStr) (announced : Int32)
  | read (want : Nat) (n : Int32)
  | closed
  | hashStarted
  | hashed (data : List UInt8)
  | digest (sha256 : Vector UInt8 32)
  | progress (done size : UInt32)
  | began (e : ReleaseError)
  | wrote (data : List UInt8) (offset : UInt32) (ok : Bool)
  | committed (ok : Bool)
  | aborted
  deriving DecidableEq

/-- `ReleaseHooks`: what was read is the first bytes of the buffer.  `long` and
`int` are 32 bits on the boards. -/
structure Hooks where
  get : List Event → Int32 × (Nat → UInt8)
  signatureOk : List Event → Bool
  announced : List Event → Int32
  read : List Event → Int32 × (Nat → UInt8)
  hashEnd : List Event → Vector UInt8 32

structure Writer where
  beginAnswer : List Event → ReleaseError
  write : List Event → Bool
  commit : List Event → Bool

def firstBytes (n : Int32) (buffer : Nat → UInt8) : List UInt8 :=
  (List.range n.toInt.toNat).map buffer

variable (hooks : Hooks) (writer : Writer)

abbrev Fetch (α : Type) := Trace Event α

/-! ## §2. A look. -/

def getFile (url : CStr) : Fetch (Int32 × List UInt8) := do
  let got ← ask hooks.get fun got => .got url got.1 (firstBytes got.1 got.2)
  pure (got.1, firstBytes got.1 got.2)

def releaseLook (deserializeJson : List UInt8 → Option Json) (channel : CStr) :
    Fetch (ReleaseError × ReleaseManifest) := do
  match releaseUrl RELEASE_URL_MAX channel (ascii "latest.json") with
  | none => pure (.channel, {})
  | some url =>
      let json ← getFile hooks url
      if json.1 = -2 then pure (.tooLarge, {})
      else if json.1 ≤ 0 then pure (.noAnswer, {})
      else
        match releaseUrl RELEASE_URL_MAX channel (ascii "latest.json.sig") with
        | none => pure (.channel, {})
        | some url =>
            let sig ← getFile hooks url
            if sig.1 = -2 then pure (.signature, {})
            else if sig.1 ≤ 0 then pure (.noAnswer, {})
            else
              let ok ← ask hooks.signatureOk (.verified json.2 sig.2 ·)
              if !ok then pure (.signature, {})
              else pure (releaseManifestRead deserializeJson json.2 channel)

/-! ## §3. An install. -/

variable (image : ReleaseImage) (bufferLen : Nat)

/-- The download, `done` bytes of it written. -/
def download : Nat → UInt32 → Fetch ReleaseError
  | 0, done => if done < image.size then stuck else pure .ok
  | rounds + 1, done =>
      if done < image.size then do
        let want := min (image.size - done).toNat bufferLen
        let got ← ask hooks.read fun got => .read want got.1
        if got.1 ≤ 0 || decide (want < got.1.toInt.toNat) then pure .cutOff
        else
          let ok ← ask writer.write (.wrote (firstBytes got.1 got.2) done ·)
          if !ok then pure .write
          else
            say (.hashed (firstBytes got.1 got.2))
            let done := done + UInt32.ofNat got.1.toInt.toNat
            say (.progress done image.size)
            download rounds done
      else pure .ok

/-- The error of another digest. -/
def compareDigest (e : ReleaseError) (digest : Vector UInt8 32) : ReleaseError :=
  if e = .ok ∧ digest ≠ image.sha256 then .hash else e

def commitIfOk (e : ReleaseError) : Fetch ReleaseError :=
  if e = .ok then do
    let ok ← ask writer.commit .committed
    pure (if ok then e else .write)
  else pure e

def abortUnlessOk (e : ReleaseError) : Fetch ReleaseError :=
  if e ≠ .ok then do
    say .aborted
    pure e
  else pure e

/-- The end of an install whose writer has begun. -/
def installEnd (e : ReleaseError) : Fetch ReleaseError := do
  say .closed
  let digest ← ask hooks.hashEnd .digest
  let e ← commitIfOk writer (compareDigest image e digest)
  abortUnlessOk e

def releaseInstall (channel : CStr) : Fetch ReleaseError := do
  match (if releasePathOk image.path then releaseUrl RELEASE_URL_MAX channel image.path else none) with
  | none => pure .path
  | some url =>
      let announced ← ask hooks.announced (.opened url ·)
      if announced < 0 then
        say .closed
        pure .noAnswer
      else if announced.toUInt32 ≠ image.size then
        say .closed
        pure .length
      else
        let e ← ask writer.beginAnswer .began
        if e ≠ .ok then
          say .closed
          pure e
        else
          say .hashStarted
          let e ← download hooks writer image bufferLen image.size.toNat 0
          installEnd hooks writer image e

/-! ## §4. What the record has to say. -/

/-- The bytes the writer took. -/
def written (log : List Event) : List UInt8 :=
  log.flatMap fun
    | .wrote data _ true => data
    | _ => []

/-- The bytes that went into the hash. -/
def hashedBytes (log : List Event) : List UInt8 :=
  log.flatMap fun
    | .hashed data => data
    | _ => []

/-- The length announced is the image's. -/
def AnnouncedSize (log : List Event) : Prop :=
  ∃ url a, Event.opened url a ∈ log ∧ a.toInt = image.size.toNat

/-- What each event needs before it: a write goes where the last one ended, a
commit comes once and over the whole image with the digest its manifest names,
an abort comes once and after no commit that was answered true. -/
def InOrder (log : List Event) : Event → Prop
  | .wrote _ offset _ =>
      AnnouncedSize image log ∧ .began .ok ∈ log ∧ offset.toNat = (written log).length
  | .committed _ =>
      AnnouncedSize image log ∧ .began .ok ∈ log ∧ (written log).length = image.size.toNat ∧
        hashedBytes log = written log ∧ .digest image.sha256 ∈ log ∧ .aborted ∉ log ∧
          ∀ ok, .committed ok ∉ log
  | .aborted => .began .ok ∈ log ∧ .aborted ∉ log ∧ .committed true ∉ log
  | _ => True

/-- The writer has begun and its end is still to come. -/
structure Writing (log : List Event) : Prop where
  announced : AnnouncedSize image log
  began : .began .ok ∈ log
  hashed : hashedBytes log = written log
  unaborted : .aborted ∉ log
  uncommitted : ∀ ok, .committed ok ∉ log

section Record

variable {image} {log : List Event}

theorem written_snoc (e : Event) : written (log ++ [e]) = written log ++ written [e] := by
  unfold written
  rw [List.flatMap_append]

theorem hashedBytes_snoc (e : Event) :
    hashedBytes (log ++ [e]) = hashedBytes log ++ hashedBytes [e] := by
  unfold hashedBytes
  rw [List.flatMap_append]

theorem AnnouncedSize.snoc (h : AnnouncedSize image log) (e : Event) :
    AnnouncedSize image (log ++ [e]) := by
  obtain ⟨url, a, hmem, hsize⟩ := h
  exact ⟨url, a, List.mem_append_left _ hmem, hsize⟩

/-- An event that is no end and whose bytes are hashed as written. -/
theorem Writing.snoc (h : Writing image log) {e : Event} (hbytes : hashedBytes [e] = written [e])
    (habort : e ≠ .aborted) (hcommit : ∀ ok, e ≠ .committed ok) : Writing image (log ++ [e]) where
  announced := h.announced.snoc e
  began := List.mem_append_left _ h.began
  hashed := by rw [written_snoc, hashedBytes_snoc, h.hashed, hbytes]
  unaborted := by
    rw [List.mem_append, List.mem_singleton]
    exact not_or.mpr ⟨h.unaborted, habort.symm⟩
  uncommitted := by
    intro ok
    rw [List.mem_append, List.mem_singleton]
    exact not_or.mpr ⟨h.uncommitted ok, (hcommit ok).symm⟩

/-- A piece written, and then hashed. -/
theorem Writing.piece (h : Writing image log) (data : List UInt8) (offset : UInt32) :
    Writing image (log ++ [.wrote data offset true] ++ [.hashed data]) := by
  have hwritten : written (log ++ [.wrote data offset true] ++ [.hashed data]) =
      written log ++ data := by
    rw [written_snoc, written_snoc]
    simp [written]
  have hhashed : hashedBytes (log ++ [.wrote data offset true] ++ [.hashed data]) =
      hashedBytes log ++ data := by
    rw [hashedBytes_snoc, hashedBytes_snoc]
    simp [hashedBytes]
  exact {
    announced := (h.announced.snoc _).snoc _
    began := List.mem_append_left _ (List.mem_append_left _ h.began)
    hashed := by rw [hwritten, hhashed, h.hashed]
    unaborted := by simp [h.unaborted]
    uncommitted := by simp [h.uncommitted] }

end Record

/-! ## §5. The download. -/

theorem firstBytes_length (n : Int32) (buffer : Nat → UInt8) :
    (firstBytes n buffer).length = n.toInt.toNat := by
  unfold firstBytes
  rw [List.length_map, List.length_range]

/-- What is left after a piece, in 32 bits. -/
theorem left_after {size done : UInt32} {n : Nat} (hle : done ≤ size)
    (hn : n ≤ (size - done).toNat) :
    (done + UInt32.ofNat n).toNat = done.toNat + n ∧
      (size - (done + UInt32.ofNat n)).toNat = (size - done).toNat - n ∧
        done + UInt32.ofNat n ≤ size := by
  rw [UInt32.le_iff_toNat_le] at hle ⊢
  have hsize := size.toNat_lt
  simp only [UInt32.toNat_sub, UInt32.toNat_add, UInt32.toNat_ofNat'] at hn ⊢
  omega

theorem left_zero {size done : UInt32} (hle : done ≤ size) (hleft : (size - done).toNat ≤ 0) :
    done = size := by
  rw [UInt32.le_iff_toNat_le] at hle
  have hsize := size.toNat_lt
  rw [UInt32.toNat_sub] at hleft
  apply UInt32.toNat_inj.mp
  omega

/-- A piece that came: between one byte and what was asked. -/
theorem piece_bounds {n : Int32} {want : Nat}
    (h : ¬(n ≤ 0 || decide (want < n.toInt.toNat)) = true) :
    0 < n.toInt.toNat ∧ n.toInt.toNat ≤ want := by
  rw [Bool.or_eq_true, decide_eq_true_eq, decide_eq_true_eq, not_or, Int32.not_le,
    Int32.lt_iff_toInt_lt] at h
  have hzero : (0 : Int32).toInt = 0 := rfl
  omega

theorem download_ends (rounds : Nat) : ∀ done : UInt32, done ≤ image.size →
    (image.size - done).toNat ≤ rounds → Ends (download hooks writer image bufferLen rounds done) := by
  induction rounds with
  | zero =>
      intro done hle hleft
      have hdone := left_zero hle hleft
      unfold download
      rw [if_neg (by rw [hdone]; exact UInt32.lt_irrefl _)]
      exact ends_ret _
  | succ rounds ih =>
      intro done hle hleft
      unfold download
      split
      · refine ends_bind (ends_ask _ _) fun got => ?_
        split
        · exact ends_ret _
        · next hpiece =>
            obtain ⟨hpos, hwant⟩ := piece_bounds hpiece
            have hn := Nat.le_trans hwant (Nat.min_le_left _ _)
            obtain ⟨_, hrest, hle'⟩ := left_after hle hn
            refine ends_bind (ends_ask _ _) fun ok => ?_
            split
            · exact ends_ret _
            · refine ends_bind (ends_say _) fun _ => ends_bind (ends_say _) fun _ => ?_
              refine ih _ hle' ?_
              rw [hrest]
              omega
      · exact ends_ret _

theorem download_does (rounds : Nat) : ∀ (done : UInt32) (log : List Event), done ≤ image.size →
    (image.size - done).toNat ≤ rounds → Writing image log → (written log).length = done.toNat →
      Does (InOrder image) (download hooks writer image bufferLen rounds done) log fun e log' =>
        Writing image log' ∧ (e = .ok → (written log').length = image.size.toNat) := by
  induction rounds with
  | zero =>
      intro done log hle hleft hwriting hdone
      have heq := left_zero hle hleft
      unfold download
      rw [if_neg (by rw [heq]; exact UInt32.lt_irrefl _)]
      refine does_ret ⟨hwriting, fun _ => ?_⟩
      rw [hdone, heq]
  | succ rounds ih =>
      intro done log hle hleft hwriting hdone
      unfold download
      split
      · refine does_ask_bind trivial ?_
        have hread := hwriting.snoc (e := .read (min (image.size - done).toNat bufferLen)
          (hooks.read log).1) rfl (fun h => (nomatch h)) fun _ h => (nomatch h)
        split
        · exact does_ret ⟨hread, fun h => (nomatch h)⟩
        · next hpiece =>
            obtain ⟨hpos, hwant⟩ := piece_bounds hpiece
            have hn := Nat.le_trans hwant (Nat.min_le_left _ _)
            obtain ⟨hnext, hrest, hle'⟩ := left_after hle hn
            have hlength : (written (log ++ [.read (min (image.size - done).toNat bufferLen)
                (hooks.read log).1])).length = done.toNat := by
              rw [written_snoc, List.length_append, hdone]
              rfl
            refine does_ask_bind ⟨hread.announced, hread.began, hlength.symm⟩ ?_
            split
            · next hrefused =>
                rw [Bool.not_eq_true'] at hrefused
                rw [hrefused]
                refine does_ret ⟨hread.snoc rfl (fun h => (nomatch h)) fun _ h => (nomatch h), ?_⟩
                exact fun h => (nomatch h)
            · next htaken =>
                rw [Bool.not_eq_true', Bool.not_eq_false] at htaken
                rw [htaken]
                refine does_say_bind trivial (does_say_bind trivial ?_)
                have hpieced := hread.piece (firstBytes (hooks.read log).1 (hooks.read log).2) done
                refine ih _ _ hle' (by rw [hrest]; omega) ?_ ?_
                · exact hpieced.snoc rfl (fun h => (nomatch h)) fun _ h => (nomatch h)
                · rw [written_snoc, written_snoc, written_snoc, hnext]
                  simp only [List.length_append, hlength]
                  simp [written, firstBytes_length]
      · next hwhole =>
          refine does_ret ⟨hwriting, fun _ => ?_⟩
          rw [UInt32.lt_iff_toNat_lt] at hwhole
          rw [UInt32.le_iff_toNat_le] at hle
          omega

/-! ## §6. The end of an install. -/

/-- How an install whose writer has begun must end. -/
def Settled (e : ReleaseError) (log : List Event) : Prop :=
  (e = .ok ↔ .committed true ∈ log) ∧ (.aborted ∈ log ↔ .committed true ∉ log)

/-- What the digest and the commit make of a download. -/
def Graded (e : ReleaseError) (log : List Event) : Prop :=
  .began .ok ∈ log ∧ .aborted ∉ log ∧ (e = .ok ↔ .committed true ∈ log)

theorem compareDigest_ok {e : ReleaseError} {digest : Vector UInt8 32}
    (hok : compareDigest image e digest = .ok) : e = .ok ∧ digest = image.sha256 := by
  unfold compareDigest at hok
  split at hok
  · exact nomatch hok
  · next hmatch => exact ⟨hok, not_not.mp fun hother => hmatch ⟨hok, hother⟩⟩

theorem commitIfOk_does {log : List Event} {e : ReleaseError} (h : Writing image log)
    (hwhole : e = .ok →
      (written log).length = image.size.toNat ∧ .digest image.sha256 ∈ log) :
    Does (InOrder image) (commitIfOk writer e) log Graded := by
  unfold commitIfOk
  split
  · next hok =>
      obtain ⟨hsize, hdigest⟩ := hwhole hok
      refine does_ask_bind ⟨h.announced, h.began, hsize, h.hashed, hdigest, h.unaborted,
        h.uncommitted⟩ ?_
      refine does_ret ⟨List.mem_append_left _ h.began, by simp [h.unaborted], ?_⟩
      have huncommitted := h.uncommitted true
      cases writer.commit log with
      | true => simp [hok]
      | false => simp [huncommitted]
  · next hfailed =>
      refine does_ret ⟨h.began, h.unaborted, ?_⟩
      simp [hfailed, h.uncommitted true]

theorem abortUnlessOk_does {log : List Event} {e : ReleaseError} (h : Graded e log) :
    Does (InOrder image) (abortUnlessOk e) log Settled := by
  obtain ⟨hbegan, hunaborted, hcommitted⟩ := h
  unfold abortUnlessOk
  split
  · next hfailed =>
      have huncommitted : .committed true ∉ log := fun hno => hfailed (hcommitted.mpr hno)
      refine does_say_bind ⟨hbegan, hunaborted, huncommitted⟩ (does_ret ⟨?_, ?_⟩)
      · simp [hfailed, huncommitted]
      · simp [huncommitted]
  · next hok =>
      rw [not_not] at hok
      refine does_ret ⟨hcommitted, ?_⟩
      simp [hunaborted, hcommitted.mp hok]

theorem installEnd_does {log : List Event} {e : ReleaseError} (h : Writing image log)
    (hwhole : e = .ok → (written log).length = image.size.toNat) :
    Does (InOrder image) (installEnd hooks writer image e) log Settled := by
  unfold installEnd
  have hclosed := h.snoc (e := .closed) rfl (fun h => (nomatch h)) fun _ h => (nomatch h)
  refine does_say_bind trivial (does_ask_bind trivial ?_)
  have hdigest := hclosed.snoc (e := .digest (hooks.hashEnd (log ++ [.closed]))) rfl
    (fun h => (nomatch h)) fun _ h => (nomatch h)
  have hbytes : written (log ++ [.closed] ++ [.digest (hooks.hashEnd (log ++ [.closed]))]) =
      written log := by
    rw [written_snoc, written_snoc]
    simp [written]
  refine does_bind (commitIfOk_does writer image hdigest ?_) fun e' said hgraded =>
    abortUnlessOk_does image hgraded
  intro hok
  obtain ⟨hwas, hsame⟩ := compareDigest_ok image hok
  rw [hbytes, ← hsame]
  exact ⟨hwhole hwas, List.mem_append_right _ List.mem_cons_self⟩

theorem installEnd_ends (e : ReleaseError) : Ends (installEnd hooks writer image e) := by
  unfold installEnd
  refine ends_bind (ends_say _) fun _ => ends_bind (ends_ask _ _) fun digest => ?_
  refine ends_bind ?_ fun e' => ?_
  · unfold commitIfOk
    split
    · exact ends_bind (ends_ask _ _) fun ok => ends_ret _
    · exact ends_ret _
  · unfold abortUnlessOk
    split
    · exact ends_bind (ends_say _) fun _ => ends_ret _
    · exact ends_ret _

/-! ## §7. An install. -/

theorem releaseInstall_ends (channel : CStr) :
    Ends (releaseInstall hooks writer image bufferLen channel) := by
  unfold releaseInstall
  split
  · exact ends_ret _
  · refine ends_bind (ends_ask _ _) fun announced => ?_
    split
    · exact ends_bind (ends_say _) fun _ => ends_ret _
    · split
      · exact ends_bind (ends_say _) fun _ => ends_ret _
      · refine ends_bind (ends_ask _ _) fun e => ?_
        split
        · exact ends_bind (ends_say _) fun _ => ends_ret _
        · refine ends_bind (ends_say _) fun _ => ?_
          refine ends_bind (download_ends hooks writer image bufferLen _ 0 ?_ ?_)
            fun e => installEnd_ends hooks writer image e
          · exact UInt32.zero_le
          · rw [UInt32.sub_zero]

/-- An install that the writer did not begin leaves the writer alone. -/
theorem unbegun_does {log : List Event} {e : ReleaseError} (he : e ≠ .ok)
    (hbegan : .began .ok ∉ log) (huncommitted : .committed true ∉ log) :
    Does (InOrder image) (do say .closed; pure e : Fetch ReleaseError) log fun e log =>
      (e = .ok ↔ .committed true ∈ log) ∧
        (.began .ok ∈ log → (.aborted ∈ log ↔ .committed true ∉ log)) := by
  refine does_say_bind trivial (does_ret ⟨?_, ?_⟩)
  · simp [he, huncommitted]
  · simp [hbegan]

theorem announced_size {announced : Int32} (hpos : ¬announced < 0)
    (hsize : announced.toUInt32 = image.size) : announced.toInt = image.size.toNat := by
  rw [Int32.not_lt, Int32.le_iff_toInt_le] at hpos
  have hzero : (0 : Int32).toInt = 0 := rfl
  have hcond := BitVec.toInt_eq_toNat_cond announced.toBitVec
  have hint : announced.toInt = announced.toBitVec.toInt := rfl
  have hnat : announced.toUInt32.toNat = announced.toBitVec.toNat := rfl
  rw [← hsize, hnat]
  split at hcond
  · omega
  · have hlt := announced.toBitVec.isLt
    omega

theorem releaseInstall_does (channel : CStr) :
    Does (InOrder image) (releaseInstall hooks writer image bufferLen channel) [] fun e log =>
      (e = .ok ↔ .committed true ∈ log) ∧
        (.began .ok ∈ log → (.aborted ∈ log ↔ .committed true ∉ log)) := by
  unfold releaseInstall
  split
  · exact does_ret (by simp)
  · next url _ =>
      refine does_ask_bind trivial ?_
      split
      · exact unbegun_does image (by decide) (by simp) (by simp)
      · next hpos =>
          split
          · exact unbegun_does image (by decide) (by simp) (by simp)
          · next hsize =>
              rw [not_not] at hsize
              refine does_ask_bind trivial ?_
              split
              · next hrefused =>
                  refine unbegun_does image hrefused ?_ (by simp)
                  intro hno
                  simp only [List.nil_append, List.cons_append, List.mem_cons, reduceCtorEq,
                    Event.began.injEq, List.not_mem_nil, or_false, false_or] at hno
                  exact hrefused hno.symm
              · next hbegan =>
                  rw [not_not] at hbegan
                  refine does_say_bind trivial ?_
                  have hwriting : Writing image ([] ++ [.opened url (hooks.announced [])] ++
                      [.began (writer.beginAnswer ([] ++ [.opened url (hooks.announced [])]))] ++
                        [.hashStarted]) := {
                    announced := ⟨url, _, by simp, announced_size image hpos hsize⟩
                    began := by
                      rw [hbegan]
                      simp
                    hashed := rfl
                    unaborted := by simp
                    uncommitted := by simp }
                  refine does_bind (download_does hooks writer image bufferLen _ 0 _
                    UInt32.zero_le (by rw [UInt32.sub_zero]) hwriting rfl)
                    fun e said hdone => ?_
                  refine does_imp (installEnd_does hooks writer image hdone.1 hdone.2) ?_
                  exact fun e' more hsettled => ⟨hsettled.1, fun _ => hsettled.2⟩

/-! ## §8. A look. -/

/-- What a look hands out: nothing, or what was read from bytes that came and
whose signature was accepted. -/
def HandedOut (deserializeJson : List UInt8 → Option Json) (channel : CStr)
    (m : ReleaseManifest) (log : List Event) : Prop :=
  m ≠ {} → ∃ url n json signature, .got url n json ∈ log ∧ .verified json signature true ∈ log ∧
    ReadFrom deserializeJson channel json m

theorem getFile_comes (url : CStr) (log : List Event) :
    Comes (getFile hooks url) log fun r said => .got url r.1 r.2 ∈ said := by
  unfold getFile
  exact comes_ask_bind (comes_ret List.mem_cons_self)

theorem releaseLook_comes (deserializeJson : List UInt8 → Option Json) (channel : CStr) :
    Comes (releaseLook hooks deserializeJson channel) [] fun r log =>
      HandedOut deserializeJson channel r.2 log := by
  have hnothing : ∀ {e : ReleaseError} {log : List Event} {f : List Event → List Event},
      Comes (pure (e, {}) : Fetch (ReleaseError × ReleaseManifest)) log fun r more =>
        HandedOut deserializeJson channel r.2 (f more) :=
    comes_ret fun hsome => absurd rfl hsome
  unfold releaseLook
  split
  · exact hnothing (f := id)
  · next url _ =>
      refine comes_bind (getFile_comes hooks url []) fun json said hgot => ?_
      split
      · exact hnothing
      · split
        · exact hnothing
        · split
          · exact hnothing
          · refine comes_bind (getFile_comes hooks _ _) fun sig more _ => ?_
            split
            · exact hnothing
            · split
              · exact hnothing
              · refine comes_ask_bind ?_
                split
                · exact hnothing
                · next haccepted =>
                    rw [Bool.not_eq_true', Bool.not_eq_false] at haccepted
                    refine comes_ret fun hsome => ⟨url, json.1, json.2, sig.2, ?_, ?_, ?_⟩
                    · exact List.mem_append_left _ hgot
                    · rw [haccepted]
                      simp
                    · exact releaseManifestRead_readFrom hsome

/-! ## §9. A release counts when whole and checked. -/

/-- **A release image counts only when whole and checked.**  An install comes back;
it writes nothing unless the length announced is the image's, and then end to
end; it commits at most once, and then the whole image with its digest; once
the writer has begun, either a commit was answered true or there is one abort;
and it answers ok exactly when the commit did.  A look hands out what was read
from bytes whose signature was accepted, and which name the channel. -/
theorem release_whole_and_checked (deserializeJson : List UInt8 → Option Json) (channel : CStr) :
    (∃ e log, releaseInstall hooks writer image bufferLen channel [] = (some e, log) ∧
      Says (InOrder image) [] log ∧ (e = .ok ↔ .committed true ∈ log) ∧
        (.began .ok ∈ log → (.aborted ∈ log ↔ .committed true ∉ log))) ∧
      ∃ e m log, releaseLook hooks deserializeJson channel [] = (some (e, m), log) ∧
        HandedOut deserializeJson channel m log := by
  constructor
  · obtain ⟨log, hlog, hspoken, hpost⟩ := releaseInstall_does hooks writer image bufferLen channel
    have hends := releaseInstall_ends hooks writer image bufferLen channel []
    obtain ⟨e, he⟩ := Option.isSome_iff_exists.mp hends
    refine ⟨e, log, Prod.ext he hlog, hspoken, ?_⟩
    exact hpost e he
  · obtain ⟨⟨e, m⟩, log, hrun, hpost⟩ := releaseLook_comes hooks deserializeJson channel
    exact ⟨e, m, log, hrun, hpost⟩

/-- A site with one file of one byte. -/
def oneByteSite : Hooks where
  get := fun _ => (-1, fun _ => 0)
  signatureOk := fun _ => false
  announced := fun _ => 1
  read := fun _ => (1, fun _ => 7)
  hashEnd := fun _ => Vector.replicate 32 7

/-- A writer whose commit fails. -/
def refusingWriter : Writer where
  beginAnswer := fun _ => .ok
  write := fun _ => true
  commit := fun _ => false

def oneByteImage : ReleaseImage :=
  { path := ascii "t1/m.bin", size := 1, sha256 := Vector.replicate 32 7 }

/-- **A commit that fails is followed by an abort**: both are called. -/
theorem commit_then_abort :
    ∃ e log, releaseInstall oneByteSite refusingWriter oneByteImage 4 (ascii "test") [] =
      (some e, log) ∧ .began .ok ∈ log ∧ .committed false ∈ log ∧ .aborted ∈ log := by
  refine ⟨_, _, rfl, ?_⟩
  decide +kernel

end SplitFlap.Release
