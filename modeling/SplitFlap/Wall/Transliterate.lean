/-
  SplitFlap.Wall.Transliterate — what a text becomes before the drum is asked for it.

  `transliterateForFlaps` works on the bytes of a text, a byte or two at a time.  The
  abstract side is a rule for one character (`shownAs`): the base letter of a letter
  with a diacritic, the drum's own flap for ä ö ü, two letters for ß æ œ þ, the capital
  of a small letter, and the character itself otherwise.

  Main results: `transliterates_by_character` and `transliterates_once`.
-/
import SplitFlap.Lib.Bytes
import SplitFlap.Wall.Layout

namespace SplitFlap.Transliterate

/-! ## §1. The flaps. -/

/-- `SFP_ALPHABET`, with the wire's `$ & #` for ä ö ü. -/
def SFP_ALPHABET : CStr := ascii " ABCDEFGHIJKLMNOPQRSTUVWXYZ$&#0123456789:.!?-"

/-- `c - ('a' - 'A')` of a small letter. -/
def upper (c : UInt8) : UInt8 := if 97 ≤ c ∧ c ≤ 122 then c - 32 else c

/-- `none` is the source's -1. -/
def flapLetterIndex (c : UInt8) : Option Nat := SFP_ALPHABET.findIdx? (· == upper c)

/-! ## §2. The text's bytes. -/

def upperLatin1 : List (Option CStr) :=
  [some (ascii "A"), some (ascii "A"), some (ascii "A"), some (ascii "A"),
    some (ascii "$"), some (ascii "A"), some (ascii "AE"), some (ascii "C"),
    some (ascii "E"), some (ascii "E"), some (ascii "E"), some (ascii "E"),
    some (ascii "I"), some (ascii "I"), some (ascii "I"), some (ascii "I"),
    some (ascii "D"), some (ascii "N"), some (ascii "O"), some (ascii "O"),
    some (ascii "O"), some (ascii "O"), some (ascii "&"), none,
    some (ascii "O"), some (ascii "U"), some (ascii "U"), some (ascii "U"),
    some (ascii "#"), some (ascii "Y"), some (ascii "TH"), some (ascii "SS")]

def lowerLatin1 : List (Option CStr) :=
  [some (ascii "A"), some (ascii "A"), some (ascii "A"), some (ascii "A"),
    some (ascii "$"), some (ascii "A"), some (ascii "AE"), some (ascii "C"),
    some (ascii "E"), some (ascii "E"), some (ascii "E"), some (ascii "E"),
    some (ascii "I"), some (ascii "I"), some (ascii "I"), some (ascii "I"),
    some (ascii "D"), some (ascii "N"), some (ascii "O"), some (ascii "O"),
    some (ascii "O"), some (ascii "O"), some (ascii "&"), none,
    some (ascii "O"), some (ascii "U"), some (ascii "U"), some (ascii "U"),
    some (ascii "#"), some (ascii "Y"), some (ascii "TH"), some (ascii "Y")]

/-- The replacement of the code point `0xC0 + index`. -/
def transliterateLatin1 (index : UInt8) : Option CStr :=
  if index < 32 then upperLatin1.getD index.toNat none
  else if index < 64 then lowerLatin1.getD (index.toNat - 32) none
  else none

def transliterateLatinExtended (codePoint : UInt16) : Option CStr :=
  if codePoint = 0x0152 ∨ codePoint = 0x0153 then some (ascii "OE")
  else if codePoint = 0x0160 ∨ codePoint = 0x0161 then some (ascii "S")
  else if codePoint = 0x0178 then some (ascii "Y")
  else if codePoint = 0x017D ∨ codePoint = 0x017E then some (ascii "Z")
  else if codePoint = 0x0132 ∨ codePoint = 0x0133 then some (ascii "IJ")
  else none

/-- The code point of a two-byte sequence. -/
def codePointOf (c d : UInt8) : UInt16 := ((c.toUInt16 &&& 0x1F) <<< 6) ||| (d.toUInt16 &&& 0x3F)

def isLead (c : UInt8) : Bool := c &&& 0xE0 == 0xC0

def isContinuation (d : UInt8) : Bool := d &&& 0xC0 == 0x80

/-- What a two-byte sequence is replaced by. -/
def replacement (c d : UInt8) : Option CStr :=
  if isLead c && isContinuation d then
    if 0xC0 ≤ codePointOf c d ∧ codePointOf c d ≤ 0xFF then
      transliterateLatin1 (codePointOf c d - 0xC0).toUInt8
    else transliterateLatinExtended (codePointOf c d)
  else none

def transliterateForFlaps : CStr → CStr
  | [] => []
  | [c] => [upper c]
  | c :: d :: rest =>
      match replacement c d with
      | some text => text ++ transliterateForFlaps rest
      | none => upper c :: transliterateForFlaps (d :: rest)

/-- A byte of a text that `unsupportedFlapCount` counts. -/
def isUnsupported (c : UInt8) : Bool :=
  !isContinuation c && c != 10 && (flapLetterIndex c).isNone

def unsupportedFlapCount (text : CStr) : Nat := text.countP isUnsupported

/-! ## §3. The rule for a character. -/

/-- The letters that are not shown as they are. -/
def letterRules : List (List Char × List Char) :=
  [(['À', 'Á', 'Â', 'Ã', 'Å', 'à', 'á', 'â', 'ã', 'å'], ['A']),
    (['Ä', 'ä'], ['$']), (['Ö', 'ö'], ['&']), (['Ü', 'ü'], ['#']),
    (['Æ', 'æ'], ['A', 'E']), (['Ç', 'ç'], ['C']),
    (['È', 'É', 'Ê', 'Ë', 'è', 'é', 'ê', 'ë'], ['E']),
    (['Ì', 'Í', 'Î', 'Ï', 'ì', 'í', 'î', 'ï'], ['I']),
    (['Ð', 'ð'], ['D']), (['Ñ', 'ñ'], ['N']),
    (['Ò', 'Ó', 'Ô', 'Õ', 'Ø', 'ò', 'ó', 'ô', 'õ', 'ø'], ['O']),
    (['Ù', 'Ú', 'Û', 'ù', 'ú', 'û'], ['U']),
    (['Ý', 'ý', 'ÿ', 'Ÿ'], ['Y']), (['Þ', 'þ'], ['T', 'H']), (['ß'], ['S', 'S']),
    (['Œ', 'œ'], ['O', 'E']), (['Š', 'š'], ['S']), (['Ž', 'ž'], ['Z']),
    (['Ĳ', 'ĳ'], ['I', 'J'])]

def shownAs (c : Char) : List Char :=
  ((letterRules.find? fun rule => rule.1.contains c).map (·.2)).getD [c.toUpper]

/-- The drum has a flap for the character, or for the capital of it. -/
def hasFlap (c : Char) : Bool :=
  [' ', '$', '&', '#', ':', '.', '!', '?', '-'].contains c || c.isAlphanum

def utf8 (text : List Char) : CStr := text.flatMap String.utf8EncodeChar

/-! ## §4. The bytes of a character. -/

/-- A byte that begins no pair and is no small letter. -/
structure Plain (b : UInt8) : Prop where
  lead : isLead b = false
  upper : upper b = b

theorem transliterate_single {c : UInt8} (h : isLead c = false) (rest : CStr) :
    transliterateForFlaps (c :: rest) = upper c :: transliterateForFlaps rest := by
  cases rest with
  | nil => rfl
  | cons d rest =>
      have hnone : replacement c d = none := by
        unfold replacement
        rw [h, Bool.false_and, if_neg Bool.false_ne_true]
      rw [transliterateForFlaps, hnone]

theorem transliterate_plain {c : UInt8} (h : Plain c) (rest : CStr) :
    transliterateForFlaps (c :: rest) = c :: transliterateForFlaps rest := by
  rw [transliterate_single h.lead, h.upper]

theorem transliterate_plains {text : CStr} (h : ∀ b ∈ text, Plain b) (rest : CStr) :
    transliterateForFlaps (text ++ rest) = text ++ transliterateForFlaps rest := by
  induction text with
  | nil => rfl
  | cons c text ih =>
      rw [List.cons_append, transliterate_plain (h c List.mem_cons_self),
        ih fun b hb => h b (List.mem_cons_of_mem c hb), List.cons_append]

theorem transliterate_replaced {c d : UInt8} {text : CStr} (h : replacement c d = some text)
    (rest : CStr) :
    transliterateForFlaps (c :: d :: rest) = text ++ transliterateForFlaps rest := by
  rw [transliterateForFlaps, h]

theorem transliterate_kept {c d : UInt8} (h : replacement c d = none) (rest : CStr) :
    transliterateForFlaps (c :: d :: rest) = upper c :: transliterateForFlaps (d :: rest) := by
  rw [transliterateForFlaps, h]

/-- What a byte is, by the numbers that UTF-8 builds it from. -/
structure ByteKinds : Prop where
  continuation : ∀ k, k < 64 → isLead (UInt8.ofNat (k + 0x80)) = false ∧
    upper (UInt8.ofNat (k + 0x80)) = UInt8.ofNat (k + 0x80) ∧
    isContinuation (UInt8.ofNat (k + 0x80)) = true
  longLead : ∀ k, k < 24 → isLead (UInt8.ofNat (k + 0xe0)) = false ∧
    upper (UInt8.ofNat (k + 0xe0)) = UInt8.ofNat (k + 0xe0) ∧
    isUnsupported (UInt8.ofNat (k + 0xe0)) = true
  lead : ∀ l, l < 32 → isLead (UInt8.ofNat (l + 0xc0)) = true ∧
    upper (UInt8.ofNat (l + 0xc0)) = UInt8.ofNat (l + 0xc0) ∧
    isUnsupported (UInt8.ofNat (l + 0xc0)) = true
  high : ∀ l, l < 32 →
    ((UInt8.ofNat (l + 0xc0)).toUInt16 &&& 0x1F) <<< 6 = UInt16.ofNat (2 ^ 6 * l)
  low : ∀ k, k < 64 → (UInt8.ofNat (k + 0x80)).toUInt16 &&& 0x3F = UInt16.ofNat k

theorem byteKinds : ByteKinds := by
  constructor
  · decide +kernel
  · decide +kernel
  · decide +kernel
  · decide +kernel
  · decide +kernel

theorem continuation_plain {k : Nat} (hk : k < 64) :
    Plain (UInt8.ofNat (k + 0x80)) ∧ isContinuation (UInt8.ofNat (k + 0x80)) = true := by
  have hall := byteKinds.continuation k hk
  exact ⟨⟨hall.1, hall.2.1⟩, hall.2.2⟩

/-- The first byte of a character of three or four. -/
theorem longLead_plain {k : Nat} (hk : k < 24) :
    Plain (UInt8.ofNat (k + 0xe0)) ∧ isUnsupported (UInt8.ofNat (k + 0xe0)) = true := by
  have hall := byteKinds.longLead k hk
  exact ⟨⟨hall.1, hall.2.1⟩, hall.2.2⟩

/-- The first byte of a character of two. -/
theorem lead_byte {l : Nat} (hl : l < 32) :
    isLead (UInt8.ofNat (l + 0xc0)) = true ∧
      upper (UInt8.ofNat (l + 0xc0)) = UInt8.ofNat (l + 0xc0) ∧
      isUnsupported (UInt8.ofNat (l + 0xc0)) = true :=
  byteKinds.lead l hl

theorem continuation_supported {k : Nat} (hk : k < 64) :
    isUnsupported (UInt8.ofNat (k + 0x80)) = false := by
  unfold isUnsupported
  rw [(continuation_plain hk).2]
  rfl

theorem codePointOf_bytes {l k : Nat} (hl : l < 32) (hk : k < 64) :
    codePointOf (UInt8.ofNat (l + 0xc0)) (UInt8.ofNat (k + 0x80)) = UInt16.ofNat (l * 64 + k) := by
  unfold codePointOf
  rw [byteKinds.high l hl, byteKinds.low k hk]
  apply UInt16.toNat_inj.mp
  rw [UInt16.toNat_or, UInt16.toNat_ofNat', UInt16.toNat_ofNat', UInt16.toNat_ofNat',
    Nat.mod_eq_of_lt (by omega), Nat.mod_eq_of_lt (by omega), Nat.mod_eq_of_lt (by omega),
    ← Nat.two_pow_add_eq_or_of_lt hk]
  omega

/-! ## §5. A text is transliterated character by character. -/

/-- What the tables make of a code point of two bytes. -/
def latin (codePoint : UInt16) : Option CStr :=
  if 0xC0 ≤ codePoint ∧ codePoint ≤ 0xFF then
    transliterateLatin1 (codePoint - 0xC0).toUInt8
  else transliterateLatinExtended codePoint

/-- A wide character stands after every ASCII one. -/
theorem wide_not_le {c x : Char} (h : 0x80 ≤ c.toNat) (hx : x.toNat < 0x80) : ¬ c.val ≤ x.val := by
  intro hle
  have hnat : c.toNat ≤ x.toNat := UInt32.le_iff_toNat_le.mp hle
  omega

theorem toUpper_wide {c : Char} (h : 0x80 ≤ c.toNat) : c.toUpper = c := by
  unfold Char.toUpper
  rw [dif_neg]
  intro hlower
  exact wide_not_le (x := 'z') h (by decide) hlower.2

theorem isAlphanum_wide {c : Char} (h : 0x80 ≤ c.toNat) : c.isAlphanum = false := by
  rw [Bool.eq_false_iff]
  intro halnum
  have hsome : ((c.isUpper || c.isLower) || c.isDigit) = true := halnum
  rw [Bool.or_eq_true, Bool.or_eq_true] at hsome
  -- each of the three ranges ends in ASCII
  rcases hsome with (hupper | hlower) | hdigit
  · exact wide_not_le (x := 'Z') h (by decide) (of_decide_eq_true hupper).2
  · have hle := of_decide_eq_true (Bool.and_eq_true_iff.mp hlower).2
    exact wide_not_le (x := 'z') h (by decide) hle
  · have hle := of_decide_eq_true (Bool.and_eq_true_iff.mp hdigit).2
    exact wide_not_le (x := '9') h (by decide) hle

/-- The tables and the rules, letter by letter. -/
structure LetterTables : Prop where
  -- by `List.all`, so that it is a walk over the rules and not over all characters
  rules : (letterRules.all fun rule => rule.1.all fun x =>
    decide (0xC0 ≤ x.toNat ∧ x.toNat < 0x180)) = true
  letters : ∀ n, n < 0x180 → 0xC0 ≤ n →
    latin (UInt16.ofNat n) = some (utf8 (shownAs (Char.ofNat n))) ∨
      latin (UInt16.ofNat n) = none ∧ shownAs (Char.ofNat n) = [Char.ofNat n]
  others : ∀ n, n < 0xC0 → 0x80 ≤ n →
    latin (UInt16.ofNat n) = none ∧ (Char.ofNat n).toNat = n
  ascii : ∀ n, n < 0x80 → isLead (UInt8.ofNat n) = false ∧
    utf8 [(Char.ofNat n).toUpper] = [upper (UInt8.ofNat n)]

theorem letterTables : LetterTables := by
  constructor
  · decide +kernel
  · decide +kernel
  · decide +kernel
  · decide +kernel

/-- Characters no rule is about. -/
theorem shownAs_other {c : Char} (h : c.toNat < 0xC0 ∨ 0x180 ≤ c.toNat) :
    shownAs c = [c.toUpper] := by
  have hnone : (letterRules.find? fun rule => rule.1.contains c) = none := by
    rw [List.find?_eq_none]
    intro rule hrule hmem
    have hbounds := List.all_eq_true.mp (List.all_eq_true.mp letterTables.rules rule hrule) c
      (List.contains_iff_mem.mp hmem)
    rw [decide_eq_true_eq] at hbounds
    omega
  rw [shownAs, hnone]
  rfl

theorem shownAs_far {c : Char} (h : 0x180 ≤ c.toNat) : shownAs c = [c] := by
  rw [shownAs_other (Or.inr h), toUpper_wide (by omega)]

theorem latin_near {n : Nat} (h : n < 0x180) (hwide : 0x80 ≤ n) :
    latin (UInt16.ofNat n) = some (utf8 (shownAs (Char.ofNat n))) ∨
      latin (UInt16.ofNat n) = none ∧ shownAs (Char.ofNat n) = [Char.ofNat n] := by
  by_cases hletter : 0xC0 ≤ n
  · exact letterTables.letters n h hletter
  · have hn := letterTables.others n (Nat.not_le.mp hletter) hwide
    refine Or.inr ⟨hn.1, ?_⟩
    rw [shownAs_other (Or.inl (by omega)), toUpper_wide (by omega)]

theorem latin_far {n : Nat} (h : n < 0x800) (hfar : 0x180 ≤ n) : latin (UInt16.ofNat n) = none := by
  have hne : ∀ m, m < 0x180 → UInt16.ofNat n ≠ UInt16.ofNat m := by
    intro m hm heq
    have hnat := congrArg UInt16.toNat heq
    rw [UInt16.toNat_ofNat', UInt16.toNat_ofNat'] at hnat
    omega
  have hwide : ¬ (0xC0 ≤ UInt16.ofNat n ∧ UInt16.ofNat n ≤ 0xFF) := by
    rintro ⟨-, hle⟩
    have hnat := UInt16.le_iff_toNat_le.mp hle
    rw [UInt16.toNat_ofNat'] at hnat
    have hff : (0xFF : UInt16).toNat = 255 := rfl
    omega
  unfold latin transliterateLatinExtended
  rw [if_neg hwide, if_neg, if_neg, if_neg, if_neg, if_neg]
  · exact fun h => h.elim (hne 0x132 (by decide)) (hne 0x133 (by decide))
  · exact fun h => h.elim (hne 0x17D (by decide)) (hne 0x17E (by decide))
  · exact hne 0x178 (by decide)
  · exact fun h => h.elim (hne 0x160 (by decide)) (hne 0x161 (by decide))
  · exact fun h => h.elim (hne 0x152 (by decide)) (hne 0x153 (by decide))

theorem utf8_single (c : Char) : utf8 [c] = String.utf8EncodeChar c := List.append_nil _

/-- A character of one byte. -/
theorem transliterates_ascii {c : Char} (h : c.toNat < 0x80) (rest : CStr) :
    transliterateForFlaps (String.utf8EncodeChar c ++ rest) =
      utf8 (shownAs c) ++ transliterateForFlaps rest := by
  have hbyte := letterTables.ascii c.toNat h
  rw [Char.ofNat_toNat, ← shownAs_other (Or.inl (by omega))] at hbyte
  have hencode : String.utf8EncodeChar c = [UInt8.ofNat c.toNat] := by
    have hle : c.val.toNat ≤ 0x7f := Nat.le_of_lt_succ h
    unfold String.utf8EncodeChar
    exact if_pos hle
  rw [hencode, hbyte.2]
  exact transliterate_single hbyte.1 rest

/-- A character of two bytes: the tables know it, or it passes. -/
theorem transliterates_two {c : Char} (hwide : 0x80 ≤ c.toNat) (h : c.toNat < 0x800) (rest : CStr) :
    transliterateForFlaps (String.utf8EncodeChar c ++ rest) =
      utf8 (shownAs c) ++ transliterateForFlaps rest := by
  have hl : c.toNat / 64 < 32 := by omega
  have hk : c.toNat % 64 < 64 := Nat.mod_lt _ (by decide)
  have hencode : String.utf8EncodeChar c =
      [UInt8.ofNat (c.toNat / 64 + 0xc0), UInt8.ofNat (c.toNat % 64 + 0x80)] := by
    have hlong : ¬ c.val.toNat ≤ 0x7f := by
      show ¬ c.toNat ≤ 0x7f
      omega
    have htwo : c.val.toNat ≤ 0x7ff := Nat.le_of_lt_succ h
    unfold String.utf8EncodeChar
    rw [if_neg hlong, if_pos htwo]
    show [UInt8.ofNat (c.toNat / 64 % 32 + 0xc0), _] = _
    rw [Nat.mod_eq_of_lt hl]
    rfl
  obtain ⟨hlead, hupper, -⟩ := lead_byte hl
  obtain ⟨hplain, hcont⟩ := continuation_plain hk
  have hpoint : replacement (UInt8.ofNat (c.toNat / 64 + 0xc0))
      (UInt8.ofNat (c.toNat % 64 + 0x80)) = latin (UInt16.ofNat c.toNat) := by
    unfold replacement
    rw [hlead, hcont, codePointOf_bytes hl hk, Nat.div_add_mod']
    rfl
  have hkept : latin (UInt16.ofNat c.toNat) = none → shownAs c = [c] →
      transliterateForFlaps (String.utf8EncodeChar c ++ rest) =
        utf8 (shownAs c) ++ transliterateForFlaps rest := by
    intro hnone hsame
    rw [hsame, utf8_single, hencode, List.cons_append, List.cons_append, List.nil_append,
      transliterate_kept (hpoint.trans hnone), transliterate_plain hplain, hupper]
    rfl
  by_cases hfar : 0x180 ≤ c.toNat
  · exact hkept (latin_far h hfar) (shownAs_far hfar)
  · have hnear := latin_near (Nat.not_le.mp hfar) hwide
    rw [Char.ofNat_toNat] at hnear
    obtain hknown | ⟨hnone, hsame⟩ := hnear
    · rw [hencode]
      exact transliterate_replaced (hpoint.trans hknown) rest
    · exact hkept hnone hsame

/-- A character of more bytes passes: none of its bytes begins a pair. -/
theorem encode_long {c : Char} (h : 0x800 ≤ c.toNat) :
    ∃ k conts, k < 24 ∧ String.utf8EncodeChar c = UInt8.ofNat (k + 0xe0) :: conts ∧
      ∀ b ∈ conts, ∃ n, n < 64 ∧ b = UInt8.ofNat (n + 0x80) := by
  have hnot : ¬ c.val.toNat ≤ 0x7f ∧ ¬ c.val.toNat ≤ 0x7ff := by
    show ¬ c.toNat ≤ 0x7f ∧ ¬ c.toNat ≤ 0x7ff
    omega
  have hmod : ∀ n : Nat, n % 64 < 64 := fun n => Nat.mod_lt n (by decide)
  unfold String.utf8EncodeChar
  by_cases hthree : c.val.toNat ≤ 0xffff
  · rw [if_neg hnot.1, if_neg hnot.2, if_pos hthree]
    refine ⟨_, _, ?_, rfl, ?_⟩
    · have hlt := Nat.mod_lt (c.val.toNat / 4096) (show 0 < 16 by decide)
      omega
    · intro b hb
      rw [List.mem_cons, List.mem_singleton] at hb
      obtain rfl | rfl := hb
      · exact ⟨_, hmod _, rfl⟩
      · exact ⟨_, hmod _, rfl⟩
  · rw [if_neg hnot.1, if_neg hnot.2, if_neg hthree]
    refine ⟨c.val.toNat / 262144 % 8 + 16, _, ?_, rfl, ?_⟩
    · have hlt := Nat.mod_lt (c.val.toNat / 262144) (show 0 < 8 by decide)
      omega
    · intro b hb
      rw [List.mem_cons, List.mem_cons, List.mem_singleton] at hb
      obtain rfl | rfl | rfl := hb
      · exact ⟨_, hmod _, rfl⟩
      · exact ⟨_, hmod _, rfl⟩
      · exact ⟨_, hmod _, rfl⟩

theorem transliterates_long {c : Char} (h : 0x800 ≤ c.toNat) (rest : CStr) :
    transliterateForFlaps (String.utf8EncodeChar c ++ rest) =
      utf8 (shownAs c) ++ transliterateForFlaps rest := by
  obtain ⟨k, conts, hk, hencode, hconts⟩ := encode_long h
  rw [shownAs_far (by omega), utf8_single]
  apply transliterate_plains
  intro b hb
  rw [hencode, List.mem_cons] at hb
  obtain rfl | hb := hb
  · exact (longLead_plain hk).1
  · obtain ⟨n, hn, rfl⟩ := hconts b hb
    exact (continuation_plain hn).1

theorem transliterates_char (c : Char) (rest : CStr) :
    transliterateForFlaps (String.utf8EncodeChar c ++ rest) =
      utf8 (shownAs c) ++ transliterateForFlaps rest := by
  by_cases hascii : c.toNat < 0x80
  · exact transliterates_ascii hascii rest
  · by_cases htwo : c.toNat < 0x800
    · exact transliterates_two (Nat.not_lt.mp hascii) htwo rest
    · exact transliterates_long (Nat.not_lt.mp htwo) rest

theorem transliterates_text (text : List Char) :
    transliterateForFlaps (utf8 text) = utf8 (text.flatMap shownAs) := by
  unfold utf8
  induction text with
  | nil => rfl
  | cons c text ih =>
      rw [List.flatMap_cons, transliterates_char, ih, List.flatMap_cons, List.flatMap_append]
      rfl

/-! ## §6. What the drum has no flap for. -/

/-- A character that is counted: a line break is none. -/
def missing (c : Char) : Bool := c != '\n' && !hasFlap c

structure FlapTables : Prop where
  flaps : ([' ', '$', '&', '#', ':', '.', '!', '?', '-'].all fun x =>
    decide (x.toNat < 0x80)) = true
  counts : ∀ n, n < 0x80 → unsupportedFlapCount (String.utf8EncodeChar (Char.ofNat n)) =
    if missing (Char.ofNat n) then 1 else 0

theorem flapTables : FlapTables := by
  constructor
  · decide +kernel
  · decide +kernel

theorem missing_wide {c : Char} (h : 0x80 ≤ c.toNat) : missing c = true := by
  have hflap : [' ', '$', '&', '#', ':', '.', '!', '?', '-'].contains c = false := by
    rw [List.contains_eq_any_beq, List.any_eq_false]
    intro x hx heq
    rw [beq_iff_eq] at heq
    have hlt := List.all_eq_true.mp flapTables.flaps x hx
    rw [decide_eq_true_eq] at hlt
    rw [← heq] at hlt
    omega
  have hbreak : (c != '\n') = true := by
    rw [bne_iff_ne]
    intro heq
    rw [heq] at h
    exact absurd h (by decide)
  rw [missing, hasFlap, hflap, isAlphanum_wide h, hbreak]
  rfl

theorem count_single (c : Char) :
    unsupportedFlapCount (String.utf8EncodeChar c) = if missing c then 1 else 0 := by
  have hconts : ∀ conts : CStr, (∀ b ∈ conts, ∃ n, n < 64 ∧ b = UInt8.ofNat (n + 0x80)) →
      conts.countP isUnsupported = 0 := by
    intro conts h
    rw [List.countP_eq_zero]
    intro b hb
    obtain ⟨n, hn, rfl⟩ := h b hb
    rw [continuation_supported hn]
    exact Bool.false_ne_true
  by_cases hascii : c.toNat < 0x80
  · have hc := flapTables.counts c.toNat hascii
    rw [Char.ofNat_toNat] at hc
    exact hc
  · -- one for the first byte, none for those that continue it
    rw [missing_wide (Nat.not_lt.mp hascii), if_pos rfl]
    unfold unsupportedFlapCount
    by_cases htwo : c.toNat < 0x800
    · have hl : c.toNat / 64 < 32 := by omega
      have hencode : String.utf8EncodeChar c =
          [UInt8.ofNat (c.toNat / 64 + 0xc0), UInt8.ofNat (c.toNat % 64 + 0x80)] := by
        have hlong : ¬ c.val.toNat ≤ 0x7f := by
          show ¬ c.toNat ≤ 0x7f
          omega
        have hle : c.val.toNat ≤ 0x7ff := Nat.le_of_lt_succ htwo
        unfold String.utf8EncodeChar
        rw [if_neg hlong, if_pos hle]
        show [UInt8.ofNat (c.toNat / 64 % 32 + 0xc0), _] = _
        rw [Nat.mod_eq_of_lt hl]
        rfl
      rw [hencode, List.countP_cons_of_pos (lead_byte hl).2.2,
        hconts _ fun b hb => ⟨_, Nat.mod_lt _ (by decide), List.mem_singleton.mp hb⟩]
    · obtain ⟨k, conts, hk, hencode, hb⟩ := encode_long (Nat.not_lt.mp htwo)
      rw [hencode, List.countP_cons_of_pos (longLead_plain hk).2, hconts conts hb]

theorem count_text (text : List Char) :
    unsupportedFlapCount (utf8 text) = text.countP missing := by
  induction text with
  | nil => rfl
  | cons c text ih =>
      have hsplit : unsupportedFlapCount (utf8 (c :: text)) =
          unsupportedFlapCount (String.utf8EncodeChar c) + unsupportedFlapCount (utf8 text) := by
        unfold unsupportedFlapCount utf8
        rw [List.flatMap_cons, List.countP_append]
      rw [hsplit, ih, count_single, List.countP_cons]
      omega

/-- On any text in UTF-8 the bytes come out as the text's characters do, each by its own rule and
wherever it stands, and the count is of the characters left over that the drum has no flap for. -/
theorem transliterates_by_character (text : List Char) :
    transliterateForFlaps (utf8 text) = utf8 (text.flatMap shownAs) ∧
      unsupportedFlapCount (transliterateForFlaps (utf8 text)) =
        (text.flatMap shownAs).countP missing := by
  rw [transliterates_text]
  exact ⟨rfl, count_text _⟩

/-! ## §7. A text that was transliterated stays as it is. -/

/-- The tables write plain ASCII, two bytes at most. -/
structure Written (text : CStr) : Prop where
  ascii : ∀ b ∈ text, Plain b ∧ isContinuation b = false
  short : text.length ≤ 2
  some : text ≠ []

/-- What the tables write, and the capitals. -/
structure WrittenTables : Prop where
  latin1 : ∀ n, n < 256 → (transliterateLatin1 (UInt8.ofNat n)).all fun text =>
    text.all (fun b => !isLead b && upper b == b && !isContinuation b) &&
      decide (text.length ≤ 2) && !text.isEmpty
  extended : ∀ text ∈ [ascii "OE", ascii "S", ascii "Y", ascii "Z", ascii "IJ"],
    (∀ b ∈ text, isLead b = false ∧ upper b = b ∧ isContinuation b = false) ∧
      text.length ≤ 2 ∧ text ≠ []
  capitals : ∀ n, n < 256 → upper (upper (UInt8.ofNat n)) = upper (UInt8.ofNat n) ∧
    (isLead (upper (UInt8.ofNat n)) = true → upper (UInt8.ofNat n) = UInt8.ofNat n) ∧
    (isContinuation (upper (UInt8.ofNat n)) = true → upper (UInt8.ofNat n) = UInt8.ofNat n)

theorem writtenTables : WrittenTables := by
  constructor
  · decide +kernel
  · decide +kernel
  · decide +kernel

theorem latin1_written {index : UInt8} {text : CStr} (h : transliterateLatin1 index = some text) :
    Written text := by
  have hone := forall_byte (P := fun b => (transliterateLatin1 b).all fun text =>
      text.all (fun b => !isLead b && upper b == b && !isContinuation b) &&
        decide (text.length ≤ 2) && !text.isEmpty) writtenTables.latin1 index
  rw [h] at hone
  simp only [Option.all_some, Bool.and_eq_true, List.all_eq_true, Bool.not_eq_true', beq_iff_eq,
    decide_eq_true_eq, List.isEmpty_eq_false_iff] at hone
  exact ⟨fun b hb => ⟨⟨(hone.1.1 b hb).1.1, (hone.1.1 b hb).1.2⟩, (hone.1.1 b hb).2⟩, hone.1.2,
    hone.2⟩

theorem extended_written {codePoint : UInt16} {text : CStr}
    (h : transliterateLatinExtended codePoint = some text) : Written text := by
  have hmem : text ∈ [ascii "OE", ascii "S", ascii "Y", ascii "Z", ascii "IJ"] := by
    unfold transliterateLatinExtended at h
    split at h
    · exact List.mem_of_getElem? (i := 0) h
    · split at h
      · exact List.mem_of_getElem? (i := 1) h
      · split at h
        · exact List.mem_of_getElem? (i := 2) h
        · split at h
          · exact List.mem_of_getElem? (i := 3) h
          · split at h
            · exact List.mem_of_getElem? (i := 4) h
            · cases h
  have hone := writtenTables.extended text hmem
  exact ⟨fun b hb => ⟨⟨(hone.1 b hb).1, (hone.1 b hb).2.1⟩, (hone.1 b hb).2.2⟩, hone.2.1, hone.2.2⟩

theorem replacement_written {c d : UInt8} {text : CStr} (h : replacement c d = some text) :
    Written text := by
  unfold replacement at h
  split at h
  · split at h
    · exact latin1_written h
    · exact extended_written h
  · cases h

theorem upper_upper (c : UInt8) : upper (upper c) = upper c :=
  forall_byte (P := fun c => upper (upper c) = upper c)
    (fun n hn => (writtenTables.capitals n hn).1) c

/-- Capitals are no leads and no continuations but those the text had. -/
theorem upper_marks (c : UInt8) :
    (isLead (upper c) = true → upper c = c) ∧ (isContinuation (upper c) = true → upper c = c) :=
  forall_byte (P := fun c => (isLead (upper c) = true → upper c = c) ∧
    (isContinuation (upper c) = true → upper c = c))
    (fun n hn => (writtenTables.capitals n hn).2) c

/-- A continuation byte at the head of what comes out stood at the head of what went in. -/
theorem head_continuation {d e : UInt8} {rest more : CStr}
    (h : transliterateForFlaps (d :: rest) = e :: more) (he : isContinuation e = true) : e = d := by
  have hkept : ∀ more', upper d :: more' = e :: more → e = d := by
    intro more' heq
    have hhead := (List.cons.inj heq).1
    rw [← hhead] at he ⊢
    exact (upper_marks d).2 he
  cases rest with
  | nil => exact hkept [] h
  | cons x rest =>
      cases hr : replacement d x with
      | none => exact hkept _ ((transliterate_kept hr rest).symm.trans h)
      | some text =>
          rw [transliterate_replaced hr] at h
          have hwritten := replacement_written hr
          cases text with
          | nil => exact absurd rfl hwritten.some
          | cons b text =>
              rw [List.cons_append] at h
              have hplain := (hwritten.ascii b List.mem_cons_self).2
              rw [(List.cons.inj h).1, he] at hplain
              cases hplain

theorem transliterate_idem (text : CStr) :
    transliterateForFlaps (transliterateForFlaps text) = transliterateForFlaps text := by
  induction text using transliterateForFlaps.induct with
  | case1 => rfl
  | case2 c =>
      show [upper (upper c)] = [upper c]
      rw [upper_upper]
  | case3 c d rest text hr ih =>
      rw [transliterate_replaced hr,
        transliterate_plains fun b hb => ((replacement_written hr).ascii b hb).1, ih]
  | case4 c d rest hr ih =>
      rw [transliterate_kept hr]
      cases hout : transliterateForFlaps (d :: rest) with
      | nil =>
          show [upper (upper c)] = [upper c]
          rw [upper_upper]
      | cons e more =>
          rw [hout] at ih
          by_cases hpair : isLead (upper c) = true ∧ isContinuation e = true
          · -- the pair stood there before, and the tables did not know it
            have hc := (upper_marks c).1 hpair.1
            have he := head_continuation hout hpair.2
            rw [hc, transliterate_kept (by rw [he]; exact hr), ih, hc]
          · have hnone : replacement (upper c) e = none := by
              unfold replacement
              rw [if_neg]
              rw [Bool.and_eq_true]
              exact hpair
            rw [transliterate_kept hnone, ih, upper_upper]

theorem transliterate_length (text : CStr) :
    (transliterateForFlaps text).length ≤ text.length := by
  induction text using transliterateForFlaps.induct with
  | case1 => exact le_rfl
  | case2 c => exact le_rfl
  | case3 c d rest text hr ih =>
      have hshort := (replacement_written hr).short
      rw [transliterate_replaced hr, List.length_append, List.length_cons, List.length_cons]
      omega
  | case4 c d rest hr ih =>
      rw [transliterate_kept hr, List.length_cons, List.length_cons]
      exact Nat.succ_le_succ ih

/-- Any bytes, UTF-8 or not: what was transliterated once is not changed by a second time, and no
text grows. -/
theorem transliterates_once (text : CStr) :
    transliterateForFlaps (transliterateForFlaps text) = transliterateForFlaps text ∧
      (transliterateForFlaps text).length ≤ text.length :=
  ⟨transliterate_idem text, transliterate_length text⟩

end SplitFlap.Transliterate
