/-
  SplitFlap.Rescue.SlotRecord — what the master writes down of a slot it ran from.

  `SlotRecord.h` formats and parses the record, `RescueSlotRecord.h` is a copy of
  the parser in a program of its own: `1|<seq>|<sha256 hex>|<git rev>`.  A record
  that was formatted is parsed as what went into it.
-/
import Mathlib.Algebra.Group.Nat.Defs
import SplitFlap.Link.Names

namespace SplitFlap.SlotRecords

/-! ## §1. The record. -/

abbrev SLOT_RECORD_SHA_HEX_LEN : Nat := 64
abbrev SLOT_RECORD_REV_MAX_LEN : Nat := 32
abbrev SLOT_RECORD_BUF_LEN : Nat :=
  2 + 10 + 1 + SLOT_RECORD_SHA_HEX_LEN + 1 + SLOT_RECORD_REV_MAX_LEN + 1

/-- A SHA-256 digest. -/
abbrev Sha := Vector UInt8 32

/-- The record once it is parsed; one that is not `ok` is none. -/
structure SlotRecord where
  seq : UInt32
  sha : CStr
  rev : CStr
  deriving DecidableEq

def hexDigit (n : UInt8) : UInt8 := if n < 10 then 48 + n else 87 + n

def hexText (bytes : List UInt8) : CStr :=
  bytes.flatMap fun (b : UInt8) => [hexDigit (b >>> 4), hexDigit (b &&& 0x0F)]

def isHex (c : UInt8) : Bool := 48 ≤ c && c ≤ 57 || 97 ≤ c && c ≤ 102

/-- Printable, and neither a quote, a backslash nor the separator. -/
def isRevChar (c : UInt8) : Bool :=
  !(c < 0x20 || 0x7E < c || c = 34 || c = 92 || c = 124)

/-- What the record keeps of a rev. -/
def keptRev (rev : CStr) : CStr :=
  let kept := (rev.filter isRevChar).take SLOT_RECORD_REV_MAX_LEN
  if kept = [] then [63] else kept

/-- `formatSlotRecord`, into a buffer of this length. -/
def formatSlotRecord (bufLen : Nat) (seq : UInt32) (sha : Sha) (rev : CStr) : Option CStr :=
  if bufLen < SLOT_RECORD_BUF_LEN then none
  else some ([49, 124] ++ decimal seq.toNat ++ [124] ++ hexText sha.toList ++ [124] ++ keptRev rev)

/-- `parseSlotRecord`, its loop over the digits: the number, how many there were, and what comes
behind. -/
def parseSeq : (seq digits : Nat) → CStr → Option (Nat × Nat × CStr)
  | seq, digits, c :: rest =>
      if isDigit c then
        let seq := seq * 10 + (c.toNat - 48)
        if 10 < digits + 1 ∨ 0xFFFFFFFF < seq then none else parseSeq seq (digits + 1) rest
      else some (seq, digits, c :: rest)
  | seq, digits, [] => some (seq, digits, [])

/-- `parseSlotRecord`, the rev. -/
def parseRev (seq : Nat) (sha : CStr) (rev : CStr) : Option SlotRecord :=
  if rev.all isRevChar = false ∨ SLOT_RECORD_REV_MAX_LEN < rev.length ∨ rev = [] then none
  else some { seq := UInt32.ofNat seq, sha, rev }

/-- `parseSlotRecord`, the digest and what is behind it. -/
def parseSha (seq : Nat) (raw : CStr) : Option SlotRecord :=
  let sha := raw.take SLOT_RECORD_SHA_HEX_LEN
  if sha.length ≠ SLOT_RECORD_SHA_HEX_LEN ∨ sha.all isHex = false then none
  else
    match raw.drop SLOT_RECORD_SHA_HEX_LEN with
    | c :: rev => if c = 124 then parseRev seq sha rev else none
    | [] => none

def parseSlotRecord (raw : CStr) : Option SlotRecord :=
  match raw with
  | version :: bar :: rest =>
      if version ≠ 49 ∨ bar ≠ 124 then none
      else
        match parseSeq 0 0 rest with
        | none => none
        | some (seq, digits, behind) =>
            if digits = 0 then none
            else
              match behind with
              | c :: raw => if c = 124 then parseSha seq raw else none
              | [] => none
  | _ => none

/-- The copy that the rescue image was built with. -/
def Rescue.parseSlotRecord (raw : CStr) : Option SlotRecord := SlotRecords.parseSlotRecord raw

/-- The record is of this very image. -/
def slotRecordShaMatches (r : Option SlotRecord) (sha : Sha) : Bool :=
  match r with
  | none => false
  | some r => r.sha = hexText sha.toList

/-! ## §2. Numbers. -/

/-- Digits that make a number of at most `0xFFFFFFFF` are read to their end. -/
theorem parseSeq_digits {ds rest : CStr} {c : UInt8} (hds : ∀ d ∈ ds, isDigit d = true)
    (hc : isDigit c = false) {seq digits : Nat} (hcount : digits + ds.length ≤ 10)
    (hfits : digitsValue seq ds ≤ 0xFFFFFFFF) :
    parseSeq seq digits (ds ++ c :: rest) =
      some (digitsValue seq ds, digits + ds.length, c :: rest) := by
  induction ds generalizing seq digits with
  | nil =>
      show parseSeq seq digits (c :: rest) = _
      unfold parseSeq
      rw [if_neg (by rw [hc]; exact Bool.false_ne_true)]
      rfl
  | cons d ds ih =>
      have hgrows (ds : CStr) : ∀ seq : Nat, seq ≤ digitsValue seq ds := by
        induction ds with
        | nil => exact fun _ => Nat.le_refl _
        | cons d ds ih =>
            intro seq
            exact Nat.le_trans (by omega) (ih (seq * 10 + (d.toNat - 48)))
      have hd := hds d List.mem_cons_self
      have hsmall : seq * 10 + (d.toNat - 48) ≤ 0xFFFFFFFF := Nat.le_trans (hgrows ds _) hfits
      rw [List.length_cons] at hcount
      show parseSeq seq digits (d :: (ds ++ c :: rest)) = _
      unfold parseSeq
      dsimp only
      rw [if_pos hd, if_neg (by omega), ih (fun e he => hds e (List.mem_cons_of_mem _ he))
        (by omega) hfits, List.length_cons, Nat.add_assoc, Nat.add_comm 1]
      rfl

/-! ## §3. Digests. -/

/-- Both halves of a byte are written as hex digits, from which it is had back. -/
theorem hexDigit_halves (b : UInt8) :
    (isHex (hexDigit (b >>> 4)) = true ∧ isHex (hexDigit (b &&& 0x0F)) = true) ∧
      ∀ b' : UInt8, hexDigit (b >>> 4) = hexDigit (b' >>> 4) →
        hexDigit (b &&& 0x0F) = hexDigit (b' &&& 0x0F) → b = b' := by
  let nibble (c : UInt8) : UInt8 := if c < 58 then c - 48 else c - 87
  have hall : ∀ i : Fin 256,
      (isHex (hexDigit (UInt8.ofNat i.val >>> 4)) = true ∧
        isHex (hexDigit (UInt8.ofNat i.val &&& 0x0F)) = true) ∧
      (nibble (hexDigit (UInt8.ofNat i.val >>> 4)) <<< 4) |||
        nibble (hexDigit (UInt8.ofNat i.val &&& 0x0F)) = UInt8.ofNat i.val := by
    decide +kernel
  have hback (b : UInt8) : (isHex (hexDigit (b >>> 4)) = true ∧
      isHex (hexDigit (b &&& 0x0F)) = true) ∧
      (nibble (hexDigit (b >>> 4)) <<< 4) ||| nibble (hexDigit (b &&& 0x0F)) = b := by
    have hb := hall ⟨b.toNat, b.toNat_lt⟩
    rwa [UInt8.ofNat_toNat] at hb
  refine ⟨(hback b).1, fun b' hhigh hlow => ?_⟩
  rw [← (hback b).2, hhigh, hlow, (hback b').2]

theorem hexText_length (bytes : List UInt8) : (hexText bytes).length = 2 * bytes.length := by
  induction bytes with
  | nil => rfl
  | cons b bytes ih =>
      show (hexText bytes).length + 2 = 2 * (bytes.length + 1)
      omega

theorem hexText_hex (bytes : List UInt8) : (hexText bytes).all isHex = true := by
  induction bytes with
  | nil => rfl
  | cons b bytes ih =>
      obtain ⟨⟨hhigh, hlow⟩, -⟩ := hexDigit_halves b
      show (isHex _ && (isHex _ && (hexText bytes).all isHex)) = true
      rw [hhigh, hlow, ih]
      rfl

theorem hexText_inj {as bs : List UInt8} (h : hexText as = hexText bs) : as = bs := by
  induction as generalizing bs with
  | nil =>
      cases bs with
      | nil => rfl
      | cons b bs => cases h
  | cons a as ih =>
      cases bs with
      | nil => cases h
      | cons b bs =>
          have h : hexDigit (a >>> 4) :: hexDigit (a &&& 0x0F) :: hexText as =
              hexDigit (b >>> 4) :: hexDigit (b &&& 0x0F) :: hexText bs := h
          obtain ⟨hhigh, hrest⟩ := List.cons.inj h
          obtain ⟨hlow, hrest⟩ := List.cons.inj hrest
          rw [(hexDigit_halves a).2 b hhigh hlow, ih hrest]

/-! ## §4. The round trip. -/

theorem keptRev_ok (rev : CStr) : (keptRev rev).all isRevChar = true ∧
    (keptRev rev).length ≤ SLOT_RECORD_REV_MAX_LEN ∧ keptRev rev ≠ [] := by
  unfold keptRev
  dsimp only
  split
  · exact ⟨by decide, by decide, by decide⟩
  · rename_i hsome
    refine ⟨?_, List.length_take_le _ _, hsome⟩
    rw [List.all_eq_true]
    intro c hc
    exact (List.mem_filter.mp (List.mem_of_mem_take hc)).2

/-- A rev that the record can hold is kept as it is. -/
theorem keptRev_eq {rev : CStr} (hchars : rev.all isRevChar = true)
    (hlength : rev.length ≤ SLOT_RECORD_REV_MAX_LEN) (hsome : rev ≠ []) : keptRev rev = rev := by
  unfold keptRev
  rw [List.filter_eq_self.mpr (List.all_eq_true.mp hchars), List.take_of_length_le hlength]
  exact if_neg hsome

/-- A number of 32 bits has at most ten digits. -/
theorem decimal_seq (seq : UInt32) : (decimal seq.toNat).length ≤ 10 := by
  have hseq : seq.toNat < 2 ^ 32 := seq.toNat_lt
  rw [decimal, List.length_map]
  exact (Nat.length_toDigits_le_iff (by decide) (by decide)).mpr (by omega)

/-- The record fits the buffer that is asked for, its terminator too. -/
theorem formatSlotRecord_fits {bufLen : Nat} {seq : UInt32} {sha : Sha} {rev raw : CStr}
    (h : formatSlotRecord bufLen seq sha rev = some raw) : raw.length + 1 ≤ bufLen := by
  unfold formatSlotRecord at h
  split at h
  · cases h
  · rename_i hbuf
    cases h
    have hseq := decimal_seq seq
    have hsha := hexText_length sha.toList
    have hrev : (keptRev rev).length ≤ 32 := (keptRev_ok rev).2.1
    have hlength : SLOT_RECORD_BUF_LEN = 111 := rfl
    rw [Vector.length_toList] at hsha
    simp only [List.length_append, List.length_cons, List.length_nil]
    omega

/-- **What was formatted is parsed as what went into it.** -/
theorem parse_format (seq : UInt32) (sha : Sha) (rev : CStr) {bufLen : Nat}
    (hbuf : SLOT_RECORD_BUF_LEN ≤ bufLen) :
    ∃ raw, formatSlotRecord bufLen seq sha rev = some raw ∧
      parseSlotRecord raw = some { seq, sha := hexText sha.toList, rev := keptRev rev } := by
  have hseq : seq.toNat < 2 ^ 32 := seq.toNat_lt
  refine ⟨_, if_neg (Nat.not_lt.mpr hbuf), ?_⟩
  have hsha : (hexText sha.toList).length = SLOT_RECORD_SHA_HEX_LEN := by
    rw [hexText_length, Vector.length_toList]
  have hparsed : parseSeq 0 0
      (decimal seq.toNat ++ 124 :: (hexText sha.toList ++ 124 :: keptRev rev)) =
        some (seq.toNat, 0 + (decimal seq.toNat).length,
          124 :: (hexText sha.toList ++ 124 :: keptRev rev)) := by
    have hread := digitsValue_decimal seq.toNat
    rw [parseSeq_digits (decimal_digits seq.toNat) (by decide)
      (by rw [Nat.zero_add]; exact decimal_seq seq) (by omega), hread]
  have hsome : 0 + (decimal seq.toNat).length ≠ 0 := by
    rw [Nat.zero_add]
    exact fun hzero => decimal_ne_nil _ (List.eq_nil_of_length_eq_zero hzero)
  have hrev : parseRev seq.toNat (hexText sha.toList) (keptRev rev) =
      some { seq, sha := hexText sha.toList, rev := keptRev rev } := by
    obtain ⟨hchars, hlength, hne⟩ := keptRev_ok rev
    unfold parseRev
    rw [if_neg, UInt32.ofNat_toNat]
    rintro (hno | hno | hno)
    · rw [hchars] at hno
      cases hno
    · exact absurd hlength (Nat.not_le.mpr hno)
    · exact hne hno
  have hdigest : parseSha seq.toNat (hexText sha.toList ++ 124 :: keptRev rev) =
      some { seq, sha := hexText sha.toList, rev := keptRev rev } := by
    unfold parseSha
    rw [List.take_left' hsha, List.drop_left' hsha]
    dsimp only
    rw [if_neg (by simp [hsha, hexText_hex]), if_pos rfl, hrev]
  rw [List.append_assoc, List.append_assoc, List.append_assoc, List.append_assoc]
  show (if (49 : UInt8) ≠ 49 ∨ (124 : UInt8) ≠ 124 then none
    else match parseSeq 0 0
        (decimal seq.toNat ++ 124 :: (hexText sha.toList ++ 124 :: keptRev rev)) with
      | none => none
      | some (seq, digits, behind) => _) = _
  rw [if_neg (by decide), hparsed]
  dsimp only
  rw [if_neg hsome, if_pos rfl, hdigest]

end SplitFlap.SlotRecords
