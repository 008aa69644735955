/-
  SplitFlap.Release.PackedUpload — a packed image that cannot overwrite itself.

  `FollowerOtaImage.h` and its two callers: a packed upload lies in the last `reserved`
  bytes of the app area and is unpacked from address 0 upward.  It is let through only where
  the whole sectors of the unpacked image end below it.  The lengths are 32-bit words from
  outside; the callers turn away those whose sectors do not fit in a word.
-/
import SplitFlap.Lib.MaskedXor
import SplitFlap.Lib.Sectors

namespace SplitFlap.PackedUpload

open MaskedXor Sectors

/-! ## §1. The last four bytes. -/

abbrev TAIL_LEN : Nat := 4

structure OtaGzipTail where
  last : Vector UInt8 TAIL_LEN := Vector.replicate TAIL_LEN 0
  seen : UInt32 := 0

def shift (last : Vector UInt8 TAIL_LEN) (byte : UInt8) : Vector UInt8 TAIL_LEN :=
  #v[last[1], last[2], last[3], byte]

/-- The chunk's last four bytes are shifted in. -/
def OtaGzipTail.feed (t : OtaGzipTail) (data : List UInt8) : OtaGzipTail where
  last := (data.drop (data.length - 4)).foldl shift t.last
  seen := t.seen + UInt32.ofNat data.length

def OtaGzipTail.unpackedLen (t : OtaGzipTail) : UInt32 :=
  word32 t.last[0] t.last[1] t.last[2] t.last[3]

/-- The tail of an upload, cut into chunks. -/
def tailOf (chunks : List (List UInt8)) : OtaGzipTail := chunks.foldl OtaGzipTail.feed {}

/-- A file's last four bytes; a shorter one stands behind zeros. -/
def lastFour (file : List UInt8) : List UInt8 := (List.replicate 4 0 ++ file).drop file.length

theorem shift_toList (last : Vector UInt8 4) (byte : UInt8) :
    (shift last byte).toList = (last.toList ++ [byte]).drop 1 := by
  obtain ⟨⟨l⟩, hl⟩ := last
  match l, hl with
  | [_, _, _, _], _ => rfl

theorem shifts_toList (last : Vector UInt8 4) (bytes : List UInt8) :
    (bytes.foldl shift last).toList = (last.toList ++ bytes).drop bytes.length := by
  induction bytes generalizing last with
  | nil => simp
  | cons byte bytes ih =>
      have hlen : 1 ≤ (last.toList ++ [byte]).length := by simp
      rw [List.foldl_cons, ih, shift_toList, ← List.drop_append_of_le_length hlen, List.drop_drop,
        ← List.append_cons, List.length_cons, Nat.add_comm bytes.length]

/-- The bytes of a chunk before its last four make no difference. -/
theorem feed_last (t : OtaGzipTail) (data : List UInt8) :
    (t.feed data).last.toList = (t.last.toList ++ data).drop data.length := by
  have hfour : t.last.toList.length = 4 := by simp
  unfold OtaGzipTail.feed
  rw [shifts_toList, List.length_drop]
  by_cases hshort : data.length ≤ 4
  · rw [Nat.sub_eq_zero_of_le hshort, List.drop_zero, Nat.sub_zero]
  · have hlast : data.length - (data.length - 4) = t.last.toList.length := by omega
    have hall : data.length = t.last.toList.length + (data.length - 4) := by omega
    rw [hlast, List.drop_left, hall, ← List.drop_drop, List.drop_left]
    congr 1
    omega

/-- However the upload is cut. -/
theorem feeds_last (t : OtaGzipTail) (chunks : List (List UInt8)) :
    (chunks.foldl OtaGzipTail.feed t).last.toList
      = (t.last.toList ++ chunks.flatten).drop chunks.flatten.length := by
  induction chunks generalizing t with
  | nil => simp
  | cons data chunks ih =>
      have hlen : data.length ≤ (t.last.toList ++ data).length := by simp
      rw [List.foldl_cons, ih, feed_last, ← List.drop_append_of_le_length hlen, List.drop_drop,
        List.append_assoc, List.flatten_cons, List.length_append]

theorem tailOf_last (chunks : List (List UInt8)) :
    (tailOf chunks).last.toList = lastFour chunks.flatten :=
  feeds_last {} chunks

/-! ## §2. Sectors. -/

abbrev OTA_IMAGE_HEADER_LEN : UInt32 := 4
abbrev OTA_FLASH_SECTOR : UInt32 := 0x1000

def otaSectorCeil (n : UInt32) : UInt32 := (n + OTA_FLASH_SECTOR - 1) &&& ~~~(OTA_FLASH_SECTOR - 1)

def otaGzipReserve (contentLen maxSpace : UInt32) : UInt32 :=
  if contentLen = 0 then maxSpace
  else
    let need := otaSectorCeil contentLen
    if need < maxSpace then need else maxSpace

def otaGzipUnpackFits (tail : OtaGzipTail) (appArea reserved : UInt32) : Bool :=
  let n := tail.unpackedLen
  if tail.seen < 4 ∨ n < OTA_IMAGE_HEADER_LEN then false
  else if reserved > appArea ∨ n > appArea then false
  else otaSectorCeil n ≤ appArea - reserved

/-- The largest length whose sectors fit in a word. -/
abbrev WHOLE : UInt32 := 0xFFFFF000

/-- The unpacked image of `n` bytes ends, in whole sectors, below the packed copy. -/
def Clear (n appArea reserved : Nat) : Prop :=
  reserved ≤ appArea ∧ ∀ sector, sector * 4096 < n → (sector + 1) * 4096 ≤ appArea - reserved

theorem otaSectorCeil_toNat {n : UInt32} (h : n ≤ WHOLE) :
    (otaSectorCeil n).toNat = roundUp 4096 n.toNat := by
  have hn : n.toNat ≤ 4294963200 := UInt32.le_iff_toNat_le.mp h
  have hsum : (n + OTA_FLASH_SECTOR - 1).toNat = n.toNat + 4096 - 1 := by
    have hsector : OTA_FLASH_SECTOR.toNat = 4096 := rfl
    have hone : (1 : UInt32).toNat = 1 := rfl
    -- the largest `n` wraps with the sector and wraps back with the 1
    rw [UInt32.toNat_sub, UInt32.toNat_add, hsector, hone]
    omega
  unfold otaSectorCeil
  rw [toNat_and_high (k := 12) _ (by decide) rfl, hsum]
  rfl

/-- The smaller of the two is reserved, at least. -/
theorem otaGzipReserve_le {contentLen : UInt32} (h : contentLen ≤ WHOLE) (maxSpace : UInt32) :
    min contentLen.toNat maxSpace.toNat ≤ (otaGzipReserve contentLen maxSpace).toNat := by
  unfold otaGzipReserve
  split
  · exact Nat.min_le_right ..
  · dsimp only
    split
    · have hneed := le_roundUp (s := 4096) (by decide) contentLen.toNat
      rw [otaSectorCeil_toNat h]
      exact Nat.le_trans (Nat.min_le_left ..) hneed
    · exact Nat.min_le_right ..

theorem otaGzipUnpackFits_clear {tail : OtaGzipTail} (h : tail.unpackedLen ≤ WHOLE)
    {appArea reserved : UInt32} (hfits : otaGzipUnpackFits tail appArea reserved = true) :
    Clear tail.unpackedLen.toNat appArea.toNat reserved.toNat := by
  unfold otaGzipUnpackFits at hfits
  dsimp only at hfits
  split at hfits
  · exact absurd hfits Bool.false_ne_true
  · split at hfits
    · exact absurd hfits Bool.false_ne_true
    · next hsane =>
        have hle : reserved ≤ appArea := UInt32.not_lt.mp fun hlt => hsane (.inl hlt)
        have hceil := UInt32.le_iff_toNat_le.mp (of_decide_eq_true hfits)
        rw [otaSectorCeil_toNat h, UInt32.toNat_sub_of_le _ _ hle] at hceil
        refine ⟨UInt32.le_iff_toNat_le.mp hle, ?_⟩
        intro sector hsector
        exact Nat.le_trans ((sector_iff (by decide) sector).mp hsector) hceil

/-- What unpacks into the app area is no longer than it. -/
theorem otaGzipUnpackFits_le {tail : OtaGzipTail} {appArea reserved : UInt32}
    (hfits : otaGzipUnpackFits tail appArea reserved = true) : tail.unpackedLen ≤ appArea := by
  unfold otaGzipUnpackFits at hfits
  dsimp only at hfits
  split at hfits
  · exact absurd hfits Bool.false_ne_true
  · split at hfits
    · exact absurd hfits Bool.false_ne_true
    · next hsane => exact UInt32.not_lt.mp fun hlt => hsane (.inr hlt)

/-! ## §3. The two callers. -/

/-- `POST /firmware/master`: what is reserved for a packed upload, `none` where it is turned
away for its length. -/
def uploadReserves (freeSpace contentLen : UInt32) : Option UInt32 :=
  if freeSpace < 0x1000 then none
  else
    let maxSketchSpace := (freeSpace - 0x1000) &&& 0xFFFFF000
    if contentLen > 0 ∧ contentLen > maxSketchSpace then none
    else some (otaGzipReserve contentLen maxSketchSpace)

def followerUpdateMaxSpace (freeSketchSpace : UInt32) : UInt32 :=
  if freeSketchSpace < OTA_FLASH_SECTOR then 0
  else (freeSketchSpace - OTA_FLASH_SECTOR) &&& ~~~(OTA_FLASH_SECTOR - 1)

/-- The link: an offer is admitted, and fetched; each asks for the free space. -/
def offerReserves (freeAtOffer freeAtFetch size : UInt32) : Option UInt32 :=
  if size = 0 then none
  else if size > followerUpdateMaxSpace freeAtOffer then none
  else some (otaGzipReserve size (followerUpdateMaxSpace freeAtFetch))

/-- The end of the app area is the build's, an address in the mapped flash. -/
def appAreaBytes (FS_start : UInt32) : UInt32 := FS_start - 0x40200000

/-- Free space in whole sectors. -/
theorem masked_le (n : UInt32) : n &&& WHOLE ≤ WHOLE := by
  rw [UInt32.le_iff_toNat_le, UInt32.toNat_and]
  exact Nat.and_le_right

theorem followerUpdateMaxSpace_le (freeSketchSpace : UInt32) :
    followerUpdateMaxSpace freeSketchSpace ≤ WHOLE := by
  unfold followerUpdateMaxSpace
  split
  · decide
  · exact masked_le _

theorem uploadReserves_short {freeSpace contentLen reserved : UInt32}
    (h : uploadReserves freeSpace contentLen = some reserved) : contentLen ≤ WHOLE := by
  unfold uploadReserves at h
  split at h
  · exact nomatch h
  · dsimp only at h
    split at h
    · exact nomatch h
    · next hshort =>
        by_cases hzero : 0 < contentLen
        · exact UInt32.le_trans (UInt32.not_lt.mp fun hlt => hshort ⟨hzero, hlt⟩) (masked_le _)
        · exact UInt32.le_trans (UInt32.not_lt.mp hzero) (by decide)

theorem offerReserves_short {freeAtOffer freeAtFetch size reserved : UInt32}
    (h : offerReserves freeAtOffer freeAtFetch size = some reserved) : size ≤ WHOLE := by
  unfold offerReserves at h
  split at h
  · exact nomatch h
  · split at h
    · exact nomatch h
    · next hshort => exact UInt32.le_trans (UInt32.not_lt.mp hshort) (followerUpdateMaxSpace_le _)

theorem appAreaBytes_le {FS_start : UInt32} (h : 0x40200000 ≤ FS_start) :
    appAreaBytes FS_start ≤ WHOLE := by
  have hstart : 1075838976 ≤ FS_start.toNat := UInt32.le_iff_toNat_le.mp h
  have hmax := FS_start.toNat_lt
  have hbase : (0x40200000 : UInt32).toNat = 1075838976 := rfl
  have hwhole : WHOLE.toNat = 4294963200 := rfl
  unfold appAreaBytes
  rw [UInt32.le_iff_toNat_le, UInt32.toNat_sub_of_le _ _ h, hbase, hwhole]
  omega

/-- However an upload is cut, its last four bytes are held. Up to `WHOLE` the sectors do not
wrap: at least the smaller of length and free space is reserved, and what fits ends below the
packed copy. Neither caller hands on a longer one. -/
theorem packed_upload_clear (chunks : List (List UInt8)) :
    (tailOf chunks).last.toList = lastFour chunks.flatten ∧
      (∀ contentLen maxSpace : UInt32, contentLen ≤ WHOLE →
        min contentLen.toNat maxSpace.toNat ≤ (otaGzipReserve contentLen maxSpace).toNat) ∧
      (∀ appArea reserved, (tailOf chunks).unpackedLen ≤ WHOLE →
        otaGzipUnpackFits (tailOf chunks) appArea reserved = true →
        Clear (tailOf chunks).unpackedLen.toNat appArea.toNat reserved.toNat) ∧
      (∀ freeSpace contentLen reserved, uploadReserves freeSpace contentLen = some reserved →
        contentLen ≤ WHOLE) ∧
      (∀ freeAtOffer freeAtFetch size reserved,
        offerReserves freeAtOffer freeAtFetch size = some reserved → size ≤ WHOLE) ∧
      (∀ FS_start reserved, 0x40200000 ≤ FS_start →
        otaGzipUnpackFits (tailOf chunks) (appAreaBytes FS_start) reserved = true →
        (tailOf chunks).unpackedLen ≤ WHOLE) :=
  ⟨tailOf_last chunks, fun _ maxSpace h => otaGzipReserve_le h maxSpace,
    fun _ _ h => otaGzipUnpackFits_clear h, fun _ _ _ => uploadReserves_short,
    fun _ _ _ _ => offerReserves_short,
    fun _ _ hstart hfits => UInt32.le_trans (otaGzipUnpackFits_le hfits) (appAreaBytes_le hstart)⟩

/-- Two chunks of a file that unpacks to 453776 bytes, below a copy in the last 78 sectors. -/
theorem packed_upload_clear_split :
    Clear 453776 0xFB000 (78 * 4096) ∧
      lastFour [1, 2, 3, 0x90, 0xEC, 0x06, 0x00] = [0x90, 0xEC, 0x06, 0x00] :=
  ⟨(packed_upload_clear [[1, 2, 3, 0x90, 0xEC], [0x06, 0x00]]).2.2.1 0xFB000 (78 * 4096)
    (by decide) (by decide), by decide⟩

/-- Past `WHOLE` the sectors wrap to none: nothing is reserved for a length of all ones, and
an image that fills the address space passes for one that fits. -/
theorem sectors_wrap :
    otaGzipReserve 0xFFFFFFFF (139 * 4096) = 0 ∧
      otaGzipUnpackFits (tailOf [[0xFF, 0xFF, 0xFF, 0xFF]]) 0xFFFFFFFF 0x1000 = true ∧
      ¬Clear (tailOf [[0xFF, 0xFF, 0xFF, 0xFF]]).unpackedLen.toNat (0xFFFFFFFF : UInt32).toNat
        (0x1000 : UInt32).toNat := by
  refine ⟨by decide, by decide, ?_⟩
  intro hclear
  have htop := hclear.2 0xFFFFF (by decide)
  exact absurd htop (by decide)

end SplitFlap.PackedUpload
