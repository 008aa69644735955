/-
  SplitFlap.Link.LanOrigin — which hosts and browser origins count as inside the LAN.

  The CSRF gate of every board (`lanCsrfReject`) rests on two parsers, of a dotted quad
  and of an IPv6 literal.  What each accepts is stated here as a spelling: a list of
  groups and the text they are written as.

  Main results: `lanPrivateIpv4_iff`, `lanParseIpv6_iff` and `csrf_gate_iff`.
-/
import Mathlib.Data.List.TakeWhile
import SplitFlap.Lib.Bytes
import SplitFlap.Link.Names
import SplitFlap.Wall.Layout

namespace SplitFlap.LanOrigin

/-! ## §1. The dotted quad. -/

/-- A `.`, or the end of the text, behind an octet. -/
def closeOctet (octets : List Nat) (value digits : Nat) : Option (List Nat) :=
  if digits = 0 ∨ digits > 3 ∨ octets.length ≥ 4 then none else some (octets ++ [value])

/-- The loop of `lanPrivateIpv4`. -/
def scanOctets : CStr → List Nat → Nat → Nat → Option (List Nat)
  | [], octets, value, digits => closeOctet octets value digits
  | c :: rest, octets, value, digits =>
      if c = 46 then
        (closeOctet octets value digits).bind fun octets => scanOctets rest octets 0 0
      else if isDigit c then
        if value * 10 + (c.toNat - 48) > 255 then none
        else scanOctets rest octets (value * 10 + (c.toNat - 48)) (digits + 1)
      else none

def privateOctets (octets : List Nat) : Bool :=
  if octets.length ≠ 4 then false
  else
    octets.getD 0 0 = 10 || octets.getD 0 0 = 127 ||
      (octets.getD 0 0 = 192 && octets.getD 1 0 = 168) ||
      (octets.getD 0 0 = 172 && 16 ≤ octets.getD 1 0 && octets.getD 1 0 ≤ 31)

def lanPrivateIpv4 (host : CStr) : Bool := (scanOctets host [] 0 0).any privateOctets

/-! ## §2. The IPv6 literal. -/

def hexDigit (c : UInt8) : Option Nat :=
  if 48 ≤ c ∧ c ≤ 57 then some (c.toNat - 48)
  else if 97 ≤ c ∧ c ≤ 102 then some (c.toNat - 97 + 10)
  else if 65 ≤ c ∧ c ≤ 70 then some (c.toNat - 65 + 10)
  else none

def isHexDigit (c : UInt8) : Bool := (hexDigit c).isSome

/-- The inner loop of `lanParseIpv6`: four digits at most. -/
def hexGroup (t : CStr) : CStr := (t.takeWhile isHexDigit).take 4

def hexValue (group : CStr) : Nat :=
  group.foldl (fun value c => value * 16 + (hexDigit c).getD 0) 0

theorem hexGroup_le (t : CStr) : (hexGroup t).length ≤ t.length :=
  ((List.take_sublist _ _).trans (List.takeWhile_sublist _)).length_le

/-- The outer loop: the groups read, and where the `::` stood. -/
def scanGroups (t : CStr) (groups : List Nat) (gap : Option Nat) :
    Option (List Nat × Option Nat) :=
  if t = [] then some (groups, gap)
  else if hgroup : hexGroup t = [] ∨ groups.length ≥ 8 then none
  else
    let groups := groups ++ [hexValue (hexGroup t)]
    match hrest : t.drop (hexGroup t).length with
    | [] => some (groups, gap)
    | c :: rest =>
        if c ≠ 58 then none
        else if rest = [] then none
        else if rest.head? = some 58 then
          if gap.isSome then none else scanGroups rest.tail groups (some groups.length)
        else scanGroups rest groups gap
termination_by t.length
decreasing_by
  all_goals
    have hlen := congrArg List.length hrest
    rw [List.length_drop, List.length_cons] at hlen
    have hpos : 0 < (hexGroup t).length := List.length_pos_of_ne_nil (not_or.mp hgroup).1
    have htail : rest.tail.length ≤ rest.length := by
      rw [List.length_tail]
      omega
    omega

/-- The groups as the sixteen bytes. -/
def groupBytes (groups : List Nat) : List UInt8 :=
  groups.flatMap fun g => [UInt8.ofNat (g / 256), UInt8.ofNat g]

/-- The groups with zeros where the `::` stood. -/
def fillGap (groups : List Nat) : Option Nat → List Nat
  | none => groups
  | some gap => groups.take gap ++ List.replicate (8 - groups.length) 0 ++ groups.drop gap

def beforeZone (text : CStr) : CStr := text.takeWhile (· != 37)

def lanParseIpv6 (text : CStr) : Option (List UInt8) :=
  let t := beforeZone text
  if t = [] then none
  else
    let scanned :=
      if [58, 58].isPrefixOf t then scanGroups (t.drop 2) [] (some 0)
      else if t.head? = some 58 then none
      else scanGroups t [] none
    scanned.bind fun (groups, gap) =>
      if gap.isNone ∧ groups.length ≠ 8 then none
      else if gap.isSome ∧ groups.length ≥ 8 then none
      else if (groupBytes (fillGap groups gap)).length = 16 then
        some (groupBytes (fillGap groups gap))
      else none

def lanPrivateIpv6 (a : List UInt8) : Bool :=
  (a.getD 0 0 == 0xfe && a.getD 1 0 &&& 0xc0 == 0x80) || (a.getD 0 0 &&& 0xfe == 0xfc) ||
    ((a.take 15).all (· == 0) && a.getD 15 0 == 1)

def lanIpv6Local (literal : CStr) : Bool :=
  (lanParseIpv6 literal).any fun a => lanPrivateIpv6 a || a.getD 0 0 &&& 0xe0 == 0x20

/-! ## §3. Hosts and origins. -/

/-- `tolower`. -/
def lower (c : UInt8) : UInt8 := if 65 ≤ c ∧ c ≤ 90 then c + 32 else c

def lowerText (text : CStr) : CStr := text.map lower

def lanHostIsLocal (host : CStr) : Bool :=
  if host = [] then false
  else if lowerText host = ascii "localhost" then true
  else if host.head? = some 91 then
    [93].isSuffixOf host && lanIpv6Local ((host.drop 1).take (host.length - 2))
  else if (ascii ".local").isSuffixOf (lowerText host) ∧ host.length > 6 then true
  else lanPrivateIpv4 host

/-- `String::indexOf`. -/
def indexOf (text : CStr) (c : UInt8) : Int := (text.findIdx? (· == c)).elim (-1) Int.ofNat

/-- What `lanOriginAllowed` takes for the host of what is behind `http://`. -/
def originHost (rest : CStr) : CStr :=
  let cut := if rest.head? = some 91 then indexOf rest 93 + 1 else indexOf rest 58
  let cut := if cut ≤ 0 then indexOf rest 47 else cut
  if cut ≥ 0 then rest.take cut.toNat else rest

def lanOriginAllowed (origin : CStr) : Bool :=
  (ascii "http://").isPrefixOf origin && lanHostIsLocal (originHost (origin.drop 7))

def lanHostPort (hostPort : CStr) : CStr :=
  let out := lowerText hostPort
  if (ascii ":80").isSuffixOf out then out.take (out.length - 3) else out

def lanSameOrigin (origin host : CStr) : Bool :=
  if !(ascii "http://").isPrefixOf origin || host = [] then false
  else lanHostPort (origin.drop 7) == lanHostPort host

def lanCsrfReject (changes hasOrigin : Bool) (origin host : CStr) : Bool :=
  if !changes || !hasOrigin then false
  else !(lanOriginAllowed origin && lanSameOrigin origin host)

/-! ## §4. What a dotted quad is. -/

/-- One to three decimal digits of a value that fits a byte. -/
structure IsOctet (text : CStr) : Prop where
  digits : ∀ c ∈ text, isDigit c = true
  some : 1 ≤ text.length
  few : text.length ≤ 3
  byte : digitsValue 0 text ≤ 255

theorem digitsValue_cons (value : Nat) (c : UInt8) (text : CStr) :
    digitsValue value (c :: text) = digitsValue (value * 10 + (c.toNat - 48)) text := by
  unfold digitsValue
  rw [List.foldl_cons]

theorem digitsValue_le (value : Nat) (text : CStr) : value ≤ digitsValue value text := by
  induction text generalizing value with
  | nil => exact le_rfl
  | cons c text ih =>
      rw [digitsValue_cons]
      exact le_trans (by omega) (ih _)

theorem closeOctet_eq_some {octets os : List Nat} {value digits : Nat} :
    closeOctet octets value digits = some os ↔
      (1 ≤ digits ∧ digits ≤ 3) ∧ octets.length < 4 ∧ os = octets ++ [value] := by
  unfold closeOctet
  split
  · next hbad =>
      constructor
      · intro h
        cases h
      · rintro ⟨hdigits, hroom, -⟩
        omega
  · next hgood =>
      rw [Option.some.injEq]
      constructor
      · intro h
        exact ⟨by omega, by omega, h.symm⟩
      · exact fun h => h.2.2.symm

/-- What the rest of the text must be, with an octet begun. -/
structure Continues (s : CStr) (octets : List Nat) (value digits : Nat) (os : List Nat)
    (t : CStr) (ts : List CStr) : Prop where
  text : s = t ++ ts.flatMap fun t => 46 :: t
  isDigits : ∀ c ∈ t, isDigit c = true
  byte : digitsValue value t ≤ 255
  some : 1 ≤ digits + t.length
  few : digits + t.length ≤ 3
  later : ∀ x ∈ ts, IsOctet x
  room : octets.length + 1 + ts.length ≤ 4
  octets : os = octets ++ [digitsValue value t] ++ ts.map (digitsValue 0)

theorem scanOctets_iff (s : CStr) (octets : List Nat) (value digits : Nat) (os : List Nat)
    (hvalue : value ≤ 255) :
    scanOctets s octets value digits = some os ↔
      ∃ t ts, Continues s octets value digits os t ts := by
  induction s generalizing octets value digits with
  | nil =>
      rw [scanOctets, closeOctet_eq_some]
      constructor
      · rintro ⟨hdigits, hroom, hos⟩
        exact ⟨[], [], rfl, fun c hc => absurd hc List.not_mem_nil, hvalue, hdigits.1, hdigits.2,
          fun x hx => absurd hx List.not_mem_nil, hroom, by simp [hos, digitsValue]⟩
      · rintro ⟨t, ts, h⟩
        have hnil := List.append_eq_nil_iff.mp h.text.symm
        cases ts with
        | cons x ts => cases hnil.2
        | nil =>
            have ht := hnil.1
            subst ht
            exact ⟨⟨h.some, h.few⟩, h.room, by simpa [digitsValue] using h.octets⟩
  | cons c rest ih =>
      rw [scanOctets]
      by_cases hdot : c = 46
      · -- the octet ends here, and the next one begins
        subst hdot
        rw [if_pos rfl, Option.bind_eq_some_iff]
        constructor
        · rintro ⟨more, hclose, hrest⟩
          obtain ⟨hdigits, hroom, rfl⟩ := closeOctet_eq_some.mp hclose
          obtain ⟨t, ts, h⟩ := (ih _ 0 0 (Nat.zero_le _)).mp hrest
          refine ⟨[], t :: ts, by rw [h.text]; rfl, fun c hc => absurd hc List.not_mem_nil, hvalue,
            hdigits.1, hdigits.2, ?_, ?_, ?_⟩
          · intro x hx
            obtain rfl | hx := List.mem_cons.mp hx
            · exact ⟨h.isDigits, by simpa using h.some, by simpa using h.few, h.byte⟩
            · exact h.later x hx
          · have hfew := h.room
            rw [List.length_append, List.length_singleton] at hfew
            rw [List.length_cons]
            omega
          · rw [h.octets]
            simp [digitsValue]
        · rintro ⟨t, ts, h⟩
          have htext := h.text
          cases t with
          | cons d t =>
              rw [List.cons_append, List.cons.injEq] at htext
              have hd := h.isDigits d List.mem_cons_self
              rw [← htext.1] at hd
              exact absurd hd (by decide)
          | nil =>
              cases ts with
              | nil => cases htext
              | cons x ts =>
                  rw [List.nil_append, List.flatMap_cons, List.cons_append, List.cons.injEq]
                    at htext
                  have hroom := h.room
                  rw [List.length_cons] at hroom
                  have hx := h.later x List.mem_cons_self
                  refine ⟨octets ++ [value], closeOctet_eq_some.mpr
                    ⟨⟨h.some, h.few⟩, by omega, rfl⟩, (ih _ 0 0 (Nat.zero_le _)).mpr
                    ⟨x, ts, htext.2, hx.digits, hx.byte, by simpa using hx.some,
                      by simpa using hx.few, fun y hy => h.later y (List.mem_cons_of_mem x hy),
                      ?_, ?_⟩⟩
                  · rw [List.length_append, List.length_singleton]
                    omega
                  · rw [h.octets]
                    simp [digitsValue]
      · rw [if_neg hdot]
        have hsplit : ∀ t ts, Continues (c :: rest) octets value digits os t ts →
            ∃ t', t = c :: t' ∧ rest = t' ++ ts.flatMap fun t => 46 :: t := by
          intro t ts h
          have htext := h.text
          cases t with
          | nil =>
              cases ts with
              | nil => cases htext
              | cons x ts =>
                  rw [List.nil_append, List.flatMap_cons, List.cons_append, List.cons.injEq]
                    at htext
                  exact absurd htext.1 hdot
          | cons d t =>
              rw [List.cons_append, List.cons.injEq] at htext
              exact ⟨t, by rw [htext.1], htext.2⟩
        by_cases hdigit : isDigit c = true
        · rw [if_pos hdigit]
          by_cases hbig : value * 10 + (c.toNat - 48) > 255
          · -- past a byte already, and it only grows
            rw [if_pos hbig]
            constructor
            · intro h
              cases h
            · rintro ⟨t, ts, h⟩
              obtain ⟨t', rfl, -⟩ := hsplit t ts h
              have hbyte := h.byte
              have hgrows := digitsValue_le (value * 10 + (c.toNat - 48)) t'
              rw [digitsValue_cons] at hbyte
              omega
          · rw [if_neg hbig, ih _ _ _ (Nat.not_lt.mp hbig)]
            constructor
            · rintro ⟨t, ts, h⟩
              refine ⟨c :: t, ts, by rw [h.text]; rfl, ?_, h.byte, ?_, ?_, h.later, h.room,
                h.octets⟩
              · intro d hd
                obtain rfl | hd := List.mem_cons.mp hd
                · exact hdigit
                · exact h.isDigits d hd
              · rw [List.length_cons]
                omega
              · have hfew := h.few
                rw [List.length_cons]
                omega
            · rintro ⟨t, ts, h⟩
              obtain ⟨t', rfl, hrest⟩ := hsplit t ts h
              have hfew := h.few
              rw [List.length_cons] at hfew
              exact ⟨t', ts, hrest, fun d hd => h.isDigits d (List.mem_cons_of_mem c hd), h.byte,
                by omega, by omega, h.later, h.room, h.octets⟩
        · rw [if_neg hdigit]
          constructor
          · intro h
            cases h
          · rintro ⟨t, ts, h⟩
            obtain ⟨t', rfl, -⟩ := hsplit t ts h
            exact absurd (h.isDigits c List.mem_cons_self) hdigit

/-- 10/8, 127/8, 192.168/16 and 172.16/12. -/
def PrivateQuad (a b : Nat) : Prop :=
  a = 10 ∨ a = 127 ∨ (a = 192 ∧ b = 168) ∨ (a = 172 ∧ 16 ≤ b ∧ b ≤ 31)

/-- Accepted are exactly four octets and three dots, of a private network. -/
theorem lanPrivateIpv4_iff (host : CStr) :
    lanPrivateIpv4 host = true ↔
      ∃ a b c d, (IsOctet a ∧ IsOctet b ∧ IsOctet c ∧ IsOctet d) ∧
        host = a ++ [46] ++ b ++ [46] ++ c ++ [46] ++ d ∧
        PrivateQuad (digitsValue 0 a) (digitsValue 0 b) := by
  unfold lanPrivateIpv4
  rw [Option.any_eq_true]
  constructor
  · rintro ⟨os, hscan, hprivate⟩
    obtain ⟨a, ts, h⟩ := (scanOctets_iff host [] 0 0 os (Nat.zero_le _)).mp hscan
    have hfour : os.length = 4 := by
      unfold privateOctets at hprivate
      split at hprivate
      · cases hprivate
      · omega
    have hos := h.octets
    rw [hos, List.nil_append, List.length_append, List.length_singleton, List.length_map] at hfour
    obtain ⟨b, c, d, rfl⟩ : ∃ b c d, ts = [b, c, d] := List.length_eq_three.mp (by omega)
    refine ⟨a, b, c, d, ⟨⟨h.isDigits, by simpa using h.some, by simpa using h.few, h.byte⟩,
      h.later b (by simp), h.later c (by simp), h.later d (by simp)⟩, ?_, ?_⟩
    · rw [h.text]
      simp
    · rw [hos] at hprivate
      simpa [privateOctets, PrivateQuad, or_assoc, and_assoc] using hprivate
  · rintro ⟨a, b, c, d, ⟨ha, hb, hc, hd⟩, rfl, hquad⟩
    refine ⟨[digitsValue 0 a, digitsValue 0 b, digitsValue 0 c, digitsValue 0 d],
      (scanOctets_iff _ [] 0 0 _ (Nat.zero_le _)).mpr ⟨a, [b, c, d], by simp, ha.digits, ha.byte,
        by simpa using ha.some, by simpa using ha.few, ?_, by simp, by simp⟩, ?_⟩
    · intro x hx
      simp only [List.mem_cons, List.not_mem_nil, or_false] at hx
      obtain rfl | rfl | rfl := hx
      · exact hb
      · exact hc
      · exact hd
    · simpa [privateOctets, PrivateQuad, or_assoc, and_assoc] using hquad

/-! ## §5. What an IPv6 literal is. -/

/-- One to four hex digits. -/
structure IsGroup (text : CStr) : Prop where
  digits : ∀ c ∈ text, isHexDigit c = true
  some : text ≠ []
  few : text.length ≤ 4

/-- Groups with colons between them. -/
def joined (groups : List CStr) : CStr := [58].intercalate groups

/-- The eight groups a text stands for: all of them written, or some of them around one `::`. -/
inductive Spells : CStr → List Nat → Prop where
  | full (groups : List CStr) (hgroups : ∀ g ∈ groups, IsGroup g) (height : groups.length = 8) :
      Spells (joined groups) (groups.map hexValue)
  | gap (before behind : List CStr) (hbefore : ∀ g ∈ before, IsGroup g)
      (hbehind : ∀ g ∈ behind, IsGroup g) (hfew : before.length + behind.length < 8) :
      Spells (joined before ++ [58, 58] ++ joined behind)
        (before.map hexValue ++ List.replicate (8 - (before.length + behind.length)) 0 ++
          behind.map hexValue)

theorem hexGroup_prefix (t : CStr) : hexGroup t <+: t :=
  (List.take_prefix _ _).trans (List.takeWhile_prefix _)

theorem hexGroup_isGroup {t : CStr} (h : hexGroup t ≠ []) : IsGroup (hexGroup t) where
  digits := fun _ hc => List.mem_takeWhile_imp (List.mem_of_mem_take hc)
  some := h
  few := by
    rw [hexGroup, List.length_take]
    exact min_le_left _ _

theorem hexGroup_split (t : CStr) : hexGroup t ++ t.drop (hexGroup t).length = t := by
  obtain ⟨rest, hrest⟩ := hexGroup_prefix t
  have hdrop : t.drop (hexGroup t).length = rest := by
    have hleft : (hexGroup t ++ rest).drop (hexGroup t).length = rest := List.drop_left
    rwa [hrest] at hleft
  rw [hdrop, hrest]

/-- A group and something that is no digit behind it. -/
theorem hexGroup_append {g rest : CStr} (h : IsGroup g)
    (hrest : rest.head?.all fun c => !isHexDigit c) : hexGroup (g ++ rest) = g := by
  have hwhole : (g ++ rest).takeWhile isHexDigit = g := by
    rw [List.takeWhile_append_of_pos h.digits]
    cases rest with
    | nil => exact List.append_nil g
    | cons c rest =>
        rw [List.head?_cons, Option.all_some, Bool.not_eq_true'] at hrest
        rw [List.takeWhile_cons_of_neg (by rw [hrest]; exact Bool.false_ne_true), List.append_nil]
  rw [hexGroup, hwhole, List.take_of_length_le h.few]

theorem scanGroups_nil (groups : List Nat) (gap : Option Nat) :
    scanGroups [] groups gap = some (groups, gap) := by
  unfold scanGroups
  rw [if_pos rfl]

/-- The loop on a text that begins with a group: it ends there, a colon follows, or the gap. -/
theorem scanGroups_group {g rest : CStr} (h : IsGroup g)
    (hrest : rest.head?.all fun c => !isHexDigit c) (groups : List Nat) (gap : Option Nat)
    (hroom : groups.length < 8) :
    (rest = [] → scanGroups (g ++ rest) groups gap = some (groups ++ [hexValue g], gap)) ∧
      (∀ more, rest = 58 :: more → more ≠ [] → more.head? ≠ some 58 →
        scanGroups (g ++ rest) groups gap = scanGroups more (groups ++ [hexValue g]) gap) ∧
      ∀ more, rest = 58 :: 58 :: more → gap = none → scanGroups (g ++ rest) groups gap =
        scanGroups more (groups ++ [hexValue g]) (some (groups.length + 1)) := by
  have hgroup := hexGroup_append h hrest
  have hdrop : (g ++ rest).drop (hexGroup (g ++ rest)).length = rest := by
    rw [hgroup]
    exact List.drop_left
  have hne : g ++ rest ≠ [] := fun hnil => h.some (List.append_eq_nil_iff.mp hnil).1
  have hok : ¬ (hexGroup (g ++ rest) = [] ∨ groups.length ≥ 8) := by
    rw [hgroup]
    exact not_or.mpr ⟨h.some, Nat.not_le.mpr hroom⟩
  rw [scanGroups, if_neg hne, dif_neg hok]
  simp only
  split
  · next hnil =>
      rw [hdrop] at hnil
      subst hnil
      rw [hgroup]
      exact ⟨fun _ => rfl, fun _ heq => (by cases heq), fun _ heq => (by cases heq)⟩
  · next c more hcons =>
      rw [hdrop] at hcons
      subst hcons
      rw [hgroup]
      refine ⟨fun heq => (by cases heq), ?_, ?_⟩
      · intro more' heq hsome hhead
        obtain ⟨rfl, rfl⟩ := List.cons.inj heq
        rw [if_neg (not_not.mpr rfl), if_neg hsome, if_neg hhead]
      · intro more' heq hnone
        obtain ⟨rfl, rfl⟩ := List.cons.inj heq
        rw [if_neg (not_not.mpr rfl), if_neg (List.cons_ne_nil _ _),
          if_pos List.head?_cons, hnone, if_neg (by decide), List.length_append,
          List.length_singleton, List.tail_cons]

theorem colon_not_hex : isHexDigit 58 = false := by decide

/-- What the loop accepted: nothing more, a last group, a group and a colon, a group and the gap. -/
theorem scanGroups_cases {t : CStr} {groups : List Nat} {gap : Option Nat}
    {r : List Nat × Option Nat} (h : scanGroups t groups gap = some r) :
    (t = [] ∧ r = (groups, gap)) ∨
      ∃ g, IsGroup g ∧ groups.length < 8 ∧
        ((t = g ∧ r = (groups ++ [hexValue g], gap)) ∨
          (∃ rest, t = g ++ 58 :: rest ∧ rest ≠ [] ∧
            scanGroups rest (groups ++ [hexValue g]) gap = some r) ∨
          ∃ rest, t = g ++ 58 :: 58 :: rest ∧ gap = none ∧
            scanGroups rest (groups ++ [hexValue g]) (some (groups.length + 1)) = some r) := by
  rw [scanGroups] at h
  split at h
  · next hnil => exact Or.inl ⟨hnil, (Option.some.inj h).symm⟩
  · split at h
    · cases h
    · next hok =>
        rw [not_or] at hok
        refine Or.inr ⟨hexGroup t, hexGroup_isGroup hok.1, Nat.not_le.mp hok.2, ?_⟩
        have hsplit := hexGroup_split t
        simp only at h
        split at h
        · next hrest =>
            rw [hrest, List.append_nil] at hsplit
            exact Or.inl ⟨hsplit.symm, (Option.some.inj h).symm⟩
        · next c rest hrest =>
            rw [hrest] at hsplit
            split at h
            · cases h
            · next hcolon =>
                rw [Decidable.not_not] at hcolon
                subst hcolon
                split at h
                · cases h
                · next hsome =>
                    split at h
                    · next hgap =>
                        split at h
                        · cases h
                        · next hnone =>
                            cases rest with
                            | nil => exact absurd rfl hsome
                            | cons d rest =>
                                rw [List.head?_cons, Option.some.injEq] at hgap
                                subst hgap
                                rw [List.length_append, List.length_singleton] at h
                                exact Or.inr (Or.inr ⟨rest, hsplit.symm,
                                  Option.not_isSome_iff_eq_none.mp hnone, h⟩)
                    · exact Or.inr (Or.inl ⟨rest, hsplit.symm, hsome, h⟩)

theorem joined_cons (g : CStr) {groups : List CStr} (h : groups ≠ []) :
    joined (g :: groups) = g ++ 58 :: joined groups := by
  cases groups with
  | nil => exact absurd rfl h
  | cons g' groups =>
      unfold joined
      rw [List.intercalate_cons_cons, List.append_assoc]
      rfl

theorem joined_one (g : CStr) : joined [g] = g := List.intercalate_singleton

/-- Behind the gap: the rest is groups with colons between them. -/
theorem scanGroups_behind {t : CStr} {groups : List Nat} {k : Nat} {r : List Nat × Option Nat}
    (h : scanGroups t groups (some k) = some r) :
    ∃ texts, t = joined texts ∧ (∀ g ∈ texts, IsGroup g) ∧
      r = (groups ++ texts.map hexValue, some k) := by
  induction hlen : t.length using Nat.strong_induction_on generalizing t groups with
  | _ n ih =>
      obtain ⟨rfl, rfl⟩ | ⟨g, hg, -, hcase⟩ := scanGroups_cases h
      · exact ⟨[], rfl, fun g hg => absurd hg List.not_mem_nil, by simp⟩
      · obtain ⟨rfl, rfl⟩ | ⟨rest, rfl, hrest, hmore⟩ | ⟨rest, -, hnone, -⟩ := hcase
        · exact ⟨[t], (joined_one t).symm, fun x hx => List.mem_singleton.mp hx ▸ hg, rfl⟩
        · have hshort : rest.length < n := by
            rw [← hlen, List.length_append, List.length_cons]
            omega
          obtain ⟨texts, rfl, htexts, rfl⟩ := ih _ hshort hmore rfl
          have hne : texts ≠ [] := by
            intro hnil
            rw [hnil] at hrest
            exact hrest rfl
          refine ⟨g :: texts, (joined_cons g hne).symm, ?_, by simp⟩
          intro x hx
          obtain rfl | hx := List.mem_cons.mp hx
          · exact hg
          · exact htexts x hx
        · cases hnone

/-- Before the gap: all of it is groups, or groups, the gap and groups. -/
theorem scanGroups_before {t : CStr} {groups : List Nat} {r : List Nat × Option Nat}
    (h : scanGroups t groups none = some r) :
    (∃ texts, t = joined texts ∧ (∀ g ∈ texts, IsGroup g) ∧
      r = (groups ++ texts.map hexValue, none)) ∨
      ∃ before behind, t = joined before ++ [58, 58] ++ joined behind ∧ before ≠ [] ∧
        (∀ g ∈ before, IsGroup g) ∧ (∀ g ∈ behind, IsGroup g) ∧
        r = (groups ++ before.map hexValue ++ behind.map hexValue,
          some (groups.length + before.length)) := by
  induction hlen : t.length using Nat.strong_induction_on generalizing t groups with
  | _ n ih =>
      obtain ⟨rfl, rfl⟩ | ⟨g, hg, -, hcase⟩ := scanGroups_cases h
      · exact Or.inl ⟨[], rfl, fun g hg => absurd hg List.not_mem_nil, by simp⟩
      · obtain ⟨rfl, rfl⟩ | ⟨rest, rfl, hrest, hmore⟩ | ⟨rest, rfl, -, hmore⟩ := hcase
        · exact Or.inl ⟨[t], (joined_one t).symm, fun x hx => List.mem_singleton.mp hx ▸ hg, rfl⟩
        · have hshort : rest.length < n := by
            rw [← hlen, List.length_append, List.length_cons]
            omega
          have hcons : ∀ texts : List CStr, (∀ x ∈ texts, IsGroup x) →
              ∀ x ∈ g :: texts, IsGroup x := by
            intro texts htexts x hx
            obtain rfl | hx := List.mem_cons.mp hx
            · exact hg
            · exact htexts x hx
          obtain ⟨texts, rfl, htexts, rfl⟩ | ⟨before, behind, rfl, hne, hbefore, hbehind, rfl⟩ :=
            ih _ hshort hmore rfl
          · have hne : texts ≠ [] := by
              intro hnil
              rw [hnil] at hrest
              exact hrest rfl
            exact Or.inl ⟨g :: texts, (joined_cons g hne).symm, hcons texts htexts, by simp⟩
          · refine Or.inr ⟨g :: before, behind, ?_, List.cons_ne_nil _ _, hcons before hbefore,
              hbehind, ?_⟩
            · rw [joined_cons g hne]
              simp
            · simp
              omega
        · obtain ⟨texts, rfl, htexts, rfl⟩ := scanGroups_behind hmore
          refine Or.inr ⟨[g], texts, ?_, List.cons_ne_nil _ _,
            fun x hx => List.mem_singleton.mp hx ▸ hg, htexts, ?_⟩
          · rw [joined_one]
            simp
          · simp

theorem head_not_hex (rest : CStr) :
    ((58 :: rest : CStr).head?.all fun c => !isHexDigit c) = true := by
  rw [List.head?_cons, Option.all_some, colon_not_hex]
  rfl

theorem group_head {g rest : CStr} (h : IsGroup g) : (g ++ rest).head? ≠ some 58 := by
  cases g with
  | nil => exact absurd rfl h.some
  | cons c g =>
      intro heq
      rw [List.cons_append, List.head?_cons, Option.some.injEq] at heq
      have hc := h.digits c List.mem_cons_self
      rw [heq, colon_not_hex] at hc
      cases hc

theorem joined_head {texts : List CStr} (h : ∀ g ∈ texts, IsGroup g) :
    (joined texts).head? ≠ some 58 := by
  cases texts with
  | nil => exact fun heq => by cases heq
  | cons g texts =>
      have hg := h g List.mem_cons_self
      cases texts with
      | nil =>
          rw [joined_one]
          have hhead : (g ++ []).head? ≠ some 58 := group_head hg
          rwa [List.append_nil] at hhead
      | cons g' texts =>
          rw [joined_cons g (List.cons_ne_nil _ _)]
          exact group_head hg

theorem joined_ne_nil {texts : List CStr} (h : ∀ g ∈ texts, IsGroup g) (hne : texts ≠ []) :
    joined texts ≠ [] := by
  cases texts with
  | nil => exact absurd rfl hne
  | cons g texts =>
      have hg := (h g List.mem_cons_self).some
      intro hnil
      cases texts with
      | nil => exact hg ((joined_one g).symm.trans hnil)
      | cons g' texts =>
          rw [joined_cons g (List.cons_ne_nil _ _)] at hnil
          exact hg (List.append_eq_nil_iff.mp hnil).1

/-- The loop reads groups with colons between them to the end. -/
theorem scanGroups_joined {texts : List CStr} (h : ∀ g ∈ texts, IsGroup g) (groups : List Nat)
    (gap : Option Nat) (hroom : groups.length + texts.length ≤ 8) :
    scanGroups (joined texts) groups gap = some (groups ++ texts.map hexValue, gap) := by
  induction texts generalizing groups with
  | nil =>
      rw [List.map_nil, List.append_nil]
      exact scanGroups_nil groups gap
  | cons g texts ih =>
      have hg := h g List.mem_cons_self
      have htexts : ∀ x ∈ texts, IsGroup x := fun x hx => h x (List.mem_cons_of_mem g hx)
      rw [List.length_cons] at hroom
      by_cases hlast : texts = []
      · subst hlast
        have hend : scanGroups (g ++ []) groups gap = some (groups ++ [hexValue g], gap) :=
          (scanGroups_group hg rfl groups gap (by omega)).1 rfl
        rw [List.append_nil] at hend
        rw [joined_one, hend]
        rfl
      · have hnext := (scanGroups_group hg (head_not_hex (joined texts)) groups gap (by omega)).2.1
          _ rfl (joined_ne_nil htexts hlast) (joined_head htexts)
        rw [joined_cons g hlast, hnext, ih htexts _ (by
          rw [List.length_append, List.length_singleton]
          omega), List.append_assoc]
        rfl

/-- And to the gap. -/
theorem scanGroups_gap {before : List CStr} (h : ∀ g ∈ before, IsGroup g) (hne : before ≠ [])
    (groups : List Nat) (hroom : groups.length + before.length ≤ 8) (rest : CStr) :
    scanGroups (joined before ++ [58, 58] ++ rest) groups none =
      scanGroups rest (groups ++ before.map hexValue) (some (groups.length + before.length)) := by
  induction before generalizing groups with
  | nil => exact absurd rfl hne
  | cons g before ih =>
      have hg := h g List.mem_cons_self
      have hbefore : ∀ x ∈ before, IsGroup x := fun x hx => h x (List.mem_cons_of_mem g hx)
      rw [List.length_cons] at hroom
      by_cases hlast : before = []
      · subst hlast
        have hgap := (scanGroups_group hg (head_not_hex (58 :: rest)) groups none (by omega)).2.2
          rest rfl rfl
        rw [joined_one, List.append_assoc]
        exact hgap
      · have hmore : joined before ++ [58, 58] ++ rest ≠ [] := by
          rw [List.append_assoc]
          exact fun hnil => joined_ne_nil hbefore hlast (List.append_eq_nil_iff.mp hnil).1
        have hhead : (joined before ++ [58, 58] ++ rest).head? ≠ some 58 := by
          cases hjoined : joined before with
          | nil => exact absurd hjoined (joined_ne_nil hbefore hlast)
          | cons c text =>
              have hc := joined_head hbefore
              rw [hjoined] at hc
              exact hc
        have hnext := (scanGroups_group hg (head_not_hex (joined before ++ [58, 58] ++ rest)) groups
          none (by omega)).2.1 _ rfl hmore hhead
        have hlater := ih hbefore hlast (groups ++ [hexValue g]) (by
          rw [List.length_append, List.length_singleton]
          omega)
        rw [joined_cons g hlast, List.append_assoc, List.append_assoc, List.cons_append,
          ← List.append_assoc (joined before), hnext, hlater]
        simp only [List.length_append, List.length_cons, List.length_nil, List.map_cons,
          List.append_assoc, List.cons_append, List.nil_append]
        congr 2
        omega

theorem fillGap_length {groups : List Nat} {gap : Nat} (h : groups.length < 8)
    (hgap : gap ≤ groups.length) : (fillGap groups (some gap)).length = 8 := by
  simp only [fillGap, List.length_append, List.length_take, List.length_replicate,
    List.length_drop]
  omega

theorem groupBytes_length (groups : List Nat) :
    (groupBytes groups).length = 2 * groups.length := by
  induction groups with
  | nil => rfl
  | cons g groups ih =>
      unfold groupBytes at ih ⊢
      rw [List.flatMap_cons, List.length_append, ih, List.length_cons]
      simp only [List.length_cons, List.length_nil]
      omega

/-- What `lanParseIpv6` does with the groups it read. -/
def finished (groups : List Nat) (gap : Option Nat) : Option (List UInt8) :=
  if gap.isNone ∧ groups.length ≠ 8 then none
  else if gap.isSome ∧ groups.length ≥ 8 then none
  else if (groupBytes (fillGap groups gap)).length = 16 then
    some (groupBytes (fillGap groups gap))
  else none

theorem finished_none {groups : List Nat} {out : List UInt8} :
    finished groups none = some out ↔ groups.length = 8 ∧ out = groupBytes groups := by
  unfold finished
  by_cases height : groups.length = 8
  · have hbytes : (groupBytes groups).length = 16 := by
      rw [groupBytes_length, height]
    simp [height, hbytes, fillGap, eq_comm]
  · simp [height]

theorem finished_some {groups : List Nat} {gap : Nat} (hgap : gap ≤ groups.length)
    {out : List UInt8} :
    finished groups (some gap) = some out ↔
      groups.length < 8 ∧ out = groupBytes (fillGap groups (some gap)) := by
  unfold finished
  by_cases hfew : groups.length < 8
  · have hbytes : (groupBytes (fillGap groups (some gap))).length = 16 := by
      rw [groupBytes_length, fillGap_length hfew hgap]
    have hnot : ¬ 8 ≤ groups.length := Nat.not_le.mpr hfew
    simp [hfew, hbytes, hnot, eq_comm]
  · have hmany : 8 ≤ groups.length := Nat.not_lt.mp hfew
    simp [hfew, hmany]

theorem lanParseIpv6_eq (text : CStr) :
    lanParseIpv6 text =
      if beforeZone text = [] then none
      else
        (if [58, 58].isPrefixOf (beforeZone text) then
            scanGroups ((beforeZone text).drop 2) [] (some 0)
          else if (beforeZone text).head? = some 58 then none
          else scanGroups (beforeZone text) [] none).bind fun r => finished r.1 r.2 := rfl

theorem parsed_spells {text : CStr} {out : List UInt8} (h : lanParseIpv6 text = some out) :
    ∃ groups, Spells (beforeZone text) groups ∧ out = groupBytes groups := by
  rw [lanParseIpv6_eq] at h
  split at h
  · cases h
  · rw [Option.bind_eq_some_iff] at h
    obtain ⟨r, hscan, hfin⟩ := h
    split at hscan
    · next hgap =>
        -- the gap comes first
        obtain ⟨texts, hrest, htexts, rfl⟩ := scanGroups_behind hscan
        obtain ⟨hfew, rfl⟩ := (finished_some (Nat.zero_le _)).mp hfin
        rw [List.nil_append, List.length_map] at hfew
        have hspells := Spells.gap [] texts (fun g hg => absurd hg List.not_mem_nil) htexts
          (by rwa [List.length_nil, Nat.zero_add])
        obtain ⟨more, hmore⟩ := List.isPrefixOf_iff_prefix.mp hgap
        refine ⟨_, ?_, rfl⟩
        have hdrop : ([58, 58] ++ more).drop 2 = more := rfl
        rw [← hmore, hdrop] at hrest
        rw [← hmore, hrest]
        simpa [fillGap, joined] using hspells
    · split at hscan
      · cases hscan
      · obtain ⟨texts, hrest, htexts, rfl⟩ | ⟨before, behind, hrest, -, hbefore, hbehind, rfl⟩ :=
          scanGroups_before hscan
        · obtain ⟨height, rfl⟩ := finished_none.mp hfin
          rw [List.nil_append, List.length_map] at height
          exact ⟨_, hrest ▸ Spells.full texts htexts height, rfl⟩
        · have hle : ([] : List Nat).length + before.length ≤
              ([] ++ before.map hexValue ++ behind.map hexValue).length := by
            simp
          obtain ⟨hfew, rfl⟩ := (finished_some hle).mp hfin
          simp only [List.nil_append, List.length_append, List.length_map] at hfew
          refine ⟨_, hrest ▸ Spells.gap before behind hbefore hbehind hfew, ?_⟩
          simp [fillGap]

theorem spells_parsed {text : CStr} {groups : List Nat} (h : Spells (beforeZone text) groups) :
    lanParseIpv6 text = some (groupBytes groups) := by
  rw [lanParseIpv6_eq]
  generalize beforeZone text = t at h
  cases h with
  | full texts htexts height =>
      have hne : texts ≠ [] := by
        intro hnil
        rw [hnil] at height
        cases height
      have hnogap : ¬ [58, 58].isPrefixOf (joined texts) = true := by
        intro hgap
        obtain ⟨more, hmore⟩ := List.isPrefixOf_iff_prefix.mp hgap
        exact joined_head htexts (by rw [← hmore]; rfl)
      have hscan := scanGroups_joined htexts [] none (by
        rw [List.length_nil]
        omega)
      have hfin : finished (texts.map hexValue) none = some (groupBytes (texts.map hexValue)) :=
        finished_none.mpr ⟨by rw [List.length_map, height], rfl⟩
      rw [if_neg (joined_ne_nil htexts hne), if_neg hnogap, if_neg (joined_head htexts), hscan]
      exact hfin
  | gap before behind hbefore hbehind hfew =>
      have hne : joined before ++ [58, 58] ++ joined behind ≠ [] := by
        simp
      rw [if_neg hne]
      by_cases hfirst : before = []
      · subst hfirst
        rw [List.length_nil, Nat.zero_add] at hfew
        have hgap : [58, 58].isPrefixOf (joined [] ++ [58, 58] ++ joined behind) = true :=
          List.isPrefixOf_iff_prefix.mpr ⟨joined behind, rfl⟩
        have hscan := scanGroups_joined hbehind [] (some 0) (by
          rw [List.length_nil]
          omega)
        have hfin : finished (behind.map hexValue) (some 0) = some _ :=
          (finished_some (Nat.zero_le _)).mpr ⟨by rwa [List.length_map], rfl⟩
        rw [if_pos hgap]
        show (scanGroups (joined behind) [] (some 0)).bind _ = _
        rw [hscan]
        refine hfin.trans ?_
        simp [fillGap]
      · have hhead : (joined before ++ [58, 58] ++ joined behind).head? ≠ some 58 := by
          cases hjoined : joined before with
          | nil => exact absurd hjoined (joined_ne_nil hbefore hfirst)
          | cons c text =>
              have hc := joined_head hbefore
              rw [hjoined] at hc
              exact hc
        have hnogap :
            ¬ [58, 58].isPrefixOf (joined before ++ [58, 58] ++ joined behind) = true := by
          intro hgap
          obtain ⟨more, hmore⟩ := List.isPrefixOf_iff_prefix.mp hgap
          exact hhead (by rw [← hmore]; rfl)
        have hscan := scanGroups_gap hbefore hfirst [] (by
          rw [List.length_nil]
          omega) (joined behind)
        rw [List.nil_append, List.length_nil, Nat.zero_add] at hscan
        have hrest := scanGroups_joined hbehind (before.map hexValue) (some before.length) (by
          rw [List.length_map]
          omega)
        have hfin : finished (before.map hexValue ++ behind.map hexValue) (some before.length) =
            some _ := (finished_some (by simp)).mpr ⟨by simpa using hfew, rfl⟩
        rw [if_neg hnogap, if_neg hhead, hscan, hrest]
        refine hfin.trans ?_
        simp [fillGap]

/-- Accepted are exactly the eight groups written out and the groups around one gap, with a zone
behind them or none, and the bytes are the groups'. -/
theorem lanParseIpv6_iff (text : CStr) (out : List UInt8) :
    lanParseIpv6 text = some out ↔
      ∃ groups, Spells (beforeZone text) groups ∧ out = groupBytes groups := by
  constructor
  · exact parsed_spells
  · rintro ⟨groups, hspells, rfl⟩
    exact spells_parsed hspells

/-! ## §6. Which addresses are a board's own. -/

/-- Link-local `fe80::/10`, unique-local `fc00::/7`, the loopback `::1` or global unicast
`2000::/3`. -/
def OwnAddress (groups : List Nat) : Prop :=
  groups.headD 0 / 64 = 0x3FA ∨ groups.headD 0 / 512 = 0x7E ∨ groups = [0, 0, 0, 0, 0, 0, 0, 1] ∨
    groups.headD 0 / 8192 = 1

/-- Eight groups of sixteen bits. -/
structure IsAddress (groups : List Nat) : Prop where
  eight : groups.length = 8
  wide : ∀ g ∈ groups, g < 65536

theorem hexValue_lt {text : CStr} (h : IsGroup text) : hexValue text < 65536 := by
  have hdigit : ∀ c : UInt8, (hexDigit c).getD 0 < 16 :=
    forall_byte (P := fun c => (hexDigit c).getD 0 < 16) (by decide +kernel)
  have hfold : ∀ (text : CStr) (value : Nat),
      text.foldl (fun value c => value * 16 + (hexDigit c).getD 0) value <
        (value + 1) * 16 ^ text.length := by
    intro text
    induction text with
    | nil =>
        intro value
        simp
    | cons c text ih =>
        intro value
        have hc := hdigit c
        rw [List.foldl_cons, List.length_cons, Nat.pow_succ]
        refine lt_of_lt_of_le (ih _) ?_
        rw [Nat.mul_comm (16 ^ text.length) 16, ← Nat.mul_assoc]
        exact Nat.mul_le_mul_right _ (by omega)
  have hvalue := hfold text 0
  rw [Nat.zero_add, Nat.one_mul] at hvalue
  exact lt_of_lt_of_le hvalue (Nat.pow_le_pow_right (by decide) h.few)

theorem Spells.isAddress {text : CStr} {groups : List Nat} (h : Spells text groups) :
    IsAddress groups := by
  have hvalues : ∀ texts : List CStr, (∀ g ∈ texts, IsGroup g) →
      ∀ v ∈ texts.map hexValue, v < 65536 := by
    intro texts htexts v hv
    obtain ⟨g, hg, rfl⟩ := List.mem_map.mp hv
    exact hexValue_lt (htexts g hg)
  cases h with
  | full texts htexts height => exact ⟨by rw [List.length_map, height], hvalues texts htexts⟩
  | gap before behind hbefore hbehind hfew =>
      constructor
      · simp only [List.length_append, List.length_map, List.length_replicate]
        omega
      · intro g hg
        rw [List.mem_append, List.mem_append] at hg
        obtain (hg | hg) | hg := hg
        · exact hvalues before hbefore g hg
        · rw [List.eq_of_mem_replicate hg]
          decide
        · exact hvalues behind hbehind g hg

theorem byte_masks (b : UInt8) :
    (b &&& 0xc0 = 0x80 ↔ b.toNat / 64 = 2) ∧ (b &&& 0xfe = 0xfc ↔ b.toNat / 2 = 126) ∧
      (b &&& 0xe0 = 0x20 ↔ b.toNat / 32 = 1) :=
  forall_byte (P := fun b => (b &&& 0xc0 = 0x80 ↔ b.toNat / 64 = 2) ∧
    (b &&& 0xfe = 0xfc ↔ b.toNat / 2 = 126) ∧ (b &&& 0xe0 = 0x20 ↔ b.toNat / 32 = 1))
    (by decide +kernel) b

theorem byte_eq {n m : Nat} (hm : m < 256) : UInt8.ofNat n = UInt8.ofNat m ↔ n % 256 = m := by
  rw [← UInt8.toNat_inj, UInt8.toNat_ofNat', UInt8.toNat_ofNat', Nat.mod_eq_of_lt hm]

/-- A group is zero if and only if both of its bytes are. -/
theorem group_zero {g : Nat} (h : g < 65536) :
    (UInt8.ofNat (g / 256) = 0 ∧ UInt8.ofNat g = 0) ↔ g = 0 := by
  rw [show (0 : UInt8) = UInt8.ofNat 0 from rfl, byte_eq (by decide), byte_eq (by decide)]
  omega

theorem group_one {g : Nat} (h : g < 65536) :
    (UInt8.ofNat (g / 256) = 0 ∧ UInt8.ofNat g = 1) ↔ g = 1 := by
  rw [show (0 : UInt8) = UInt8.ofNat 0 from rfl, show (1 : UInt8) = UInt8.ofNat 1 from rfl,
    byte_eq (by decide), byte_eq (by decide)]
  omega

theorem IsAddress.eight_groups {groups : List Nat} (h : groups.length = 8) :
    ∃ g0 g1 g2 g3 g4 g5 g6 g7, groups = [g0, g1, g2, g3, g4, g5, g6, g7] := by
  obtain ⟨g0, t, rfl⟩ := List.exists_cons_of_length_eq_add_one h
  obtain ⟨g1, t, rfl⟩ := List.exists_cons_of_length_eq_add_one (Nat.succ.inj h)
  obtain ⟨g2, t, rfl⟩ := List.exists_cons_of_length_eq_add_one (Nat.succ.inj (Nat.succ.inj h))
  have hfive : t.length = 5 := by
    simp only [List.length_cons] at h
    omega
  obtain ⟨g3, t, rfl⟩ := List.exists_cons_of_length_eq_add_one hfive
  have hfour : t.length = 4 := Nat.succ.inj hfive
  obtain ⟨g4, t, rfl⟩ := List.exists_cons_of_length_eq_add_one hfour
  obtain ⟨g5, g6, g7, rfl⟩ := List.length_eq_three.mp (Nat.succ.inj hfour)
  exact ⟨g0, g1, g2, g3, g4, g5, g6, g7, rfl⟩

theorem lanPrivateIpv6_eq (g0 g1 g2 g3 g4 g5 g6 g7 : Nat) :
    lanPrivateIpv6 (groupBytes [g0, g1, g2, g3, g4, g5, g6, g7]) = true ↔
      (UInt8.ofNat (g0 / 256) = 0xfe ∧ UInt8.ofNat g0 &&& 0xc0 = 0x80) ∨
        UInt8.ofNat (g0 / 256) &&& 0xfe = 0xfc ∨
        (UInt8.ofNat (g0 / 256) = 0 ∧ UInt8.ofNat g0 = 0) ∧
        (UInt8.ofNat (g1 / 256) = 0 ∧ UInt8.ofNat g1 = 0) ∧
        (UInt8.ofNat (g2 / 256) = 0 ∧ UInt8.ofNat g2 = 0) ∧
        (UInt8.ofNat (g3 / 256) = 0 ∧ UInt8.ofNat g3 = 0) ∧
        (UInt8.ofNat (g4 / 256) = 0 ∧ UInt8.ofNat g4 = 0) ∧
        (UInt8.ofNat (g5 / 256) = 0 ∧ UInt8.ofNat g5 = 0) ∧
        (UInt8.ofNat (g6 / 256) = 0 ∧ UInt8.ofNat g6 = 0) ∧
        (UInt8.ofNat (g7 / 256) = 0 ∧ UInt8.ofNat g7 = 1) := by
  simp [lanPrivateIpv6, groupBytes, or_assoc, and_assoc]

theorem lanIpv6_own {groups : List Nat} (h : IsAddress groups) :
    (lanPrivateIpv6 (groupBytes groups) ||
      (groupBytes groups).getD 0 0 &&& 0xe0 == 0x20) = true ↔ OwnAddress groups := by
  obtain ⟨g0, g1, g2, g3, g4, g5, g6, g7, rfl⟩ := IsAddress.eight_groups h.eight
  have hwide := h.wide
  simp only [List.mem_cons, List.not_mem_nil, or_false, forall_eq_or_imp, forall_eq] at hwide
  obtain ⟨h0, h1, h2, h3, h4, h5, h6, h7⟩ := hwide
  have hhigh : (UInt8.ofNat (g0 / 256)).toNat = g0 / 256 := by
    rw [UInt8.toNat_ofNat']
    omega
  have hlow : (UInt8.ofNat g0).toNat = g0 % 256 := UInt8.toNat_ofNat'
  have hlink : (UInt8.ofNat (g0 / 256) = 0xfe ∧ UInt8.ofNat g0 &&& 0xc0 = 0x80) ↔
      g0 / 64 = 0x3FA := by
    rw [(byte_masks _).1, hlow, show (0xfe : UInt8) = UInt8.ofNat 254 from rfl,
      byte_eq (by decide)]
    omega
  have hlocal : UInt8.ofNat (g0 / 256) &&& 0xfe = 0xfc ↔ g0 / 512 = 0x7E := by
    rw [(byte_masks _).2.1, hhigh]
    omega
  have hglobal : UInt8.ofNat (g0 / 256) &&& 0xe0 = 0x20 ↔ g0 / 8192 = 1 := by
    rw [(byte_masks _).2.2, hhigh]
    omega
  rw [Bool.or_eq_true, beq_iff_eq, lanPrivateIpv6_eq, hlink, hlocal, group_zero h0, group_zero h1,
    group_zero h2, group_zero h3, group_zero h4, group_zero h5, group_zero h6, group_one h7]
  show _ ∨ UInt8.ofNat (g0 / 256) &&& 0xe0 = 0x20 ↔ _
  rw [hglobal]
  simp only [OwnAddress, List.headD_cons, List.cons.injEq, and_true, or_assoc]

/-! ## §7. The gate. -/

/-- A host that can only be inside the LAN, or a board's own address. -/
inductive LocalHost : CStr → Prop where
  | name (host : CStr) (h : lowerText host = ascii "localhost") : LocalHost host
  | mdns (host label : CStr) (hlabel : label ≠ [])
      (h : lowerText host = label ++ ascii ".local") (hplain : host.head? ≠ some 91) :
      LocalHost host
  | quad (a b c d : CStr) (h : IsOctet a ∧ IsOctet b ∧ IsOctet c ∧ IsOctet d)
      (hprivate : PrivateQuad (digitsValue 0 a) (digitsValue 0 b)) :
      LocalHost (a ++ [46] ++ b ++ [46] ++ c ++ [46] ++ d)
  | literal (inner : CStr) (groups : List Nat) (h : Spells (beforeZone inner) groups)
      (hown : OwnAddress groups) : LocalHost ([91] ++ inner ++ [93])

theorem lanIpv6Local_iff (literal : CStr) :
    lanIpv6Local literal = true ↔
      ∃ groups, Spells (beforeZone literal) groups ∧ OwnAddress groups := by
  unfold lanIpv6Local
  rw [Option.any_eq_true]
  constructor
  · rintro ⟨out, hparse, hown⟩
    obtain ⟨groups, hspells, rfl⟩ := (lanParseIpv6_iff literal out).mp hparse
    exact ⟨groups, hspells, (lanIpv6_own hspells.isAddress).mp hown⟩
  · rintro ⟨groups, hspells, hown⟩
    exact ⟨_, spells_parsed hspells, (lanIpv6_own hspells.isAddress).mpr hown⟩

theorem lowerText_length (text : CStr) : (lowerText text).length = text.length := List.length_map _

/-- A text between brackets, as `lanHostIsLocal` takes them off. -/
theorem bracketed_iff (rest : CStr) :
    [93].isSuffixOf (91 :: rest) = true ↔ ∃ inner, rest = inner ++ [93] := by
  rw [List.isSuffixOf_iff_suffix]
  constructor
  · rintro ⟨front, hfront⟩
    cases front with
    | nil => cases hfront
    | cons c inner =>
        rw [List.cons_append, List.cons.injEq] at hfront
        exact ⟨inner, hfront.2.symm⟩
  · rintro ⟨inner, rfl⟩
    exact ⟨91 :: inner, rfl⟩

theorem bracketed_inner (inner : CStr) :
    ((91 :: (inner ++ [93])).drop 1).take ((91 :: (inner ++ [93])).length - 2) = inner := by
  have hlen : (91 :: (inner ++ [93])).length - 2 = inner.length := by
    rw [List.length_cons, List.length_append, List.length_singleton]
    omega
  rw [hlen, List.drop_one, List.tail_cons]
  exact List.take_left

/-- An octet begins with a digit, no bracket. -/
theorem quad_head {a rest : CStr} (h : IsOctet a) : (a ++ rest).head? ≠ some 91 := by
  cases a with
  | nil => exact absurd h.some (by decide)
  | cons c a =>
      intro heq
      rw [List.cons_append, List.head?_cons, Option.some.injEq] at heq
      have hc := h.digits c List.mem_cons_self
      rw [heq] at hc
      exact absurd hc (by decide)

theorem localHost_bracket {rest : CStr} (hname : lowerText (91 :: rest) ≠ ascii "localhost") :
    LocalHost (91 :: rest) ↔ ∃ inner, rest = inner ++ [93] ∧ lanIpv6Local inner = true := by
  constructor
  · intro h
    generalize hhost : (91 :: rest : CStr) = host at h hname
    cases h with
    | name host h => exact absurd h hname
    | mdns host label hlabel h hplain =>
        rw [← hhost] at hplain
        exact absurd List.head?_cons hplain
    | quad a b c d h hprivate =>
        have hhead : (a ++ ([46] ++ b ++ [46] ++ c ++ [46] ++ d)).head? ≠ some 91 :=
          quad_head h.1
        simp only [List.append_assoc] at hhead hhost
        rw [← hhost] at hhead
        exact absurd List.head?_cons hhead
    | literal inner groups h hown =>
        rw [List.append_assoc, List.singleton_append, List.cons.injEq] at hhost
        exact ⟨inner, hhost.2, (lanIpv6Local_iff inner).mpr ⟨groups, h, hown⟩⟩
  · rintro ⟨inner, rfl, hlocal⟩
    obtain ⟨groups, hspells, hown⟩ := (lanIpv6Local_iff inner).mp hlocal
    exact LocalHost.literal inner groups hspells hown

theorem localHost_plain {host : CStr} (hname : lowerText host ≠ ascii "localhost")
    (hplain : host.head? ≠ some 91) :
    LocalHost host ↔
      ((ascii ".local").isSuffixOf (lowerText host) = true ∧ host.length > 6) ∨
        lanPrivateIpv4 host = true := by
  have hsix : (ascii ".local").length = 6 := by decide
  constructor
  · intro h
    cases h with
    | name host h => exact absurd h hname
    | mdns host label hlabel h hplain =>
        have hlen := lowerText_length host
        rw [h, List.length_append, hsix] at hlen
        have hpos := List.length_pos_of_ne_nil hlabel
        exact Or.inl ⟨List.isSuffixOf_iff_suffix.mpr ⟨label, h.symm⟩, by omega⟩
    | quad a b c d h hprivate =>
        exact Or.inr ((lanPrivateIpv4_iff _).mpr ⟨a, b, c, d, h, rfl, hprivate⟩)
    | literal inner groups h hown => exact absurd rfl hplain
  · rintro (⟨hsuffix, hlong⟩ | hquad)
    · obtain ⟨label, hlabel⟩ := List.isSuffixOf_iff_suffix.mp hsuffix
      refine LocalHost.mdns host label ?_ hlabel.symm hplain
      intro hnil
      have hlen := lowerText_length host
      rw [← hlabel, hnil, List.nil_append, hsix] at hlen
      omega
    · obtain ⟨a, b, c, d, h, rfl, hprivate⟩ := (lanPrivateIpv4_iff host).mp hquad
      exact LocalHost.quad a b c d h hprivate

theorem lanHostIsLocal_iff (host : CStr) : lanHostIsLocal host = true ↔ LocalHost host := by
  unfold lanHostIsLocal
  by_cases hname : lowerText host = ascii "localhost"
  · have hne : host ≠ [] := by
      intro hnil
      rw [hnil] at hname
      exact absurd hname (by decide)
    rw [if_neg hne, if_pos hname]
    exact ⟨fun _ => LocalHost.name host hname, fun _ => rfl⟩
  · cases host with
    | nil =>
        rw [if_pos rfl, localHost_plain hname (by decide)]
        decide
    | cons c rest =>
        rw [if_neg (List.cons_ne_nil c rest), if_neg hname, List.head?_cons]
        by_cases hbracket : c = 91
        · subst hbracket
          rw [if_pos rfl, Bool.and_eq_true, bracketed_iff, localHost_bracket hname]
          constructor
          · rintro ⟨⟨inner, rfl⟩, hlocal⟩
            rw [bracketed_inner] at hlocal
            exact ⟨inner, rfl, hlocal⟩
          · rintro ⟨inner, rfl, hlocal⟩
            rw [bracketed_inner]
            exact ⟨⟨inner, rfl⟩, hlocal⟩
        · have hplain : (c :: rest).head? ≠ some 91 := fun heq =>
            hbracket (Option.some.inj heq)
          rw [if_neg fun heq => hbracket (Option.some.inj heq), localHost_plain hname hplain]
          split
          · next hmdns => exact ⟨fun _ => Or.inl hmdns, fun _ => rfl⟩
          · next hmdns => exact ⟨Or.inr, fun h => h.resolve_left hmdns⟩

theorem findIdx_behind {text rest : CStr} {c : UInt8} (h : c ∉ text) :
    indexOf (text ++ c :: rest) c = text.length := by
  have hfind : (text ++ c :: rest).findIdx? (· == c) = some text.length := by
    rw [List.findIdx?_append]
    have hnone : text.findIdx? (· == c) = none := by
      rw [List.findIdx?_eq_none_iff]
      intro x hx
      rw [beq_eq_false_iff_ne]
      intro heq
      exact h (heq ▸ hx)
    have hhere : (c :: rest).findIdx? (· == c) = some 0 := by
      rw [List.findIdx?_cons, if_pos (beq_self_eq_true c)]
    rw [hnone, hhere, Option.none_or, Option.map_some, Nat.zero_add]
  rw [indexOf, hfind]
  rfl

theorem indexOf_none {text : CStr} {c : UInt8} (h : c ∉ text) : indexOf text c = -1 := by
  have hfind : text.findIdx? (· == c) = none := by
    rw [List.findIdx?_eq_none_iff]
    intro x hx
    rw [beq_eq_false_iff_ne]
    intro heq
    exact h (heq ▸ hx)
  rw [indexOf, hfind]
  rfl

/-- Host and port as a browser writes them in an `Origin`: a name or a dotted quad, or an IPv6
literal in brackets, and a port or none. -/
inductive BrowserHost : CStr → CStr → Prop where
  | plain (host port : CStr) (hne : host ≠ []) (hbracket : host.head? ≠ some 91)
      (hcolon : 58 ∉ host) (hslash : 47 ∉ host) (hport : port = [] ∨ ∃ p, port = 58 :: p) :
      BrowserHost host port
  | literal (inner port : CStr) (hinner : 93 ∉ inner) : BrowserHost ([91] ++ inner ++ [93]) port

/-- Where the host ends, when a colon or a bracket says so. -/
theorem originHost_cut {rest : CStr} {cut : Int}
    (h : (if rest.head? = some 91 then indexOf rest 93 + 1 else indexOf rest 58) = cut)
    (hpos : 0 < cut) : originHost rest = rest.take cut.toNat := by
  have hcut : ¬ cut ≤ 0 := Int.not_le.mpr hpos
  have hfound : cut ≥ 0 := Int.le_of_lt hpos
  unfold originHost
  simp only [h, hcut, hfound, if_true, if_false]

theorem originHost_whole {rest : CStr}
    (h : (if rest.head? = some 91 then indexOf rest 93 + 1 else indexOf rest 58) = -1)
    (hslash : indexOf rest 47 = -1) : originHost rest = rest := by
  unfold originHost
  simp only
  rw [h, hslash]
  rfl

theorem originHost_browser {host port : CStr} (h : BrowserHost host port) :
    originHost (host ++ port) = host := by
  cases h with
  | plain host port hne hbracket hcolon hslash hport =>
      have hhead : (host ++ port).head? ≠ some 91 := by
        cases host with
        | nil => exact absurd rfl hne
        | cons c host => exact hbracket
      obtain rfl | ⟨p, rfl⟩ := hport
      · rw [List.append_nil] at hhead ⊢
        exact originHost_whole (by rw [if_neg hhead, indexOf_none hcolon]) (indexOf_none hslash)
      · have hpos := List.length_pos_of_ne_nil hne
        rw [originHost_cut (by rw [if_neg hhead, findIdx_behind hcolon]) (by omega),
          Int.toNat_natCast]
        exact List.take_left
  | literal inner port hinner =>
      have hfind : indexOf ([91] ++ inner ++ [93] ++ port) 93 = inner.length + 1 := by
        have hnot : (93 : UInt8) ∉ 91 :: inner := by
          rw [List.mem_cons, not_or]
          exact ⟨by decide, hinner⟩
        have hbracket : indexOf (91 :: inner ++ 93 :: port) 93 = (91 :: inner).length :=
          findIdx_behind hnot
        simpa using hbracket
      have hcut : ((inner.length : Int) + 1 + 1).toNat = ([91] ++ inner ++ [93]).length := by
        rw [List.length_append, List.length_append, List.length_singleton, List.length_singleton]
        omega
      have hhead : ([91] ++ inner ++ [93] ++ port).head? = some 91 := rfl
      rw [originHost_cut (by rw [if_pos hhead, hfind]) (by omega), hcut]
      exact List.take_left

/-- The gate lets a request through exactly when it changes nothing, names no origin, or names one
that is this board's own page, over http, on a host of the LAN.  And of every origin a browser can
write the host that is judged is the host that is named. -/
theorem csrf_gate_iff (changes hasOrigin : Bool) (origin host : CStr) :
    (lanCsrfReject changes hasOrigin origin host = false ↔
      changes = false ∨ hasOrigin = false ∨
        ∃ rest, origin = ascii "http://" ++ rest ∧ LocalHost (originHost rest) ∧ host ≠ [] ∧
          lanHostPort rest = lanHostPort host) ∧
      ∀ name port, BrowserHost name port → originHost (name ++ port) = name := by
  refine ⟨?_, fun _ _ => originHost_browser⟩
  have hseven : (ascii "http://").length = 7 := by decide
  unfold lanCsrfReject lanOriginAllowed lanSameOrigin
  cases changes with
  | false => simp
  | true =>
      cases hasOrigin with
      | false => simp
      | true =>
          simp only [Bool.not_true, Bool.or_self, Bool.false_eq_true, if_false, false_or,
            Bool.not_eq_false', Bool.and_eq_true, lanHostIsLocal_iff, reduceCtorEq]
          constructor
          · rintro ⟨⟨hhttp, hlocal⟩, hsame⟩
            obtain ⟨rest, rfl⟩ := List.isPrefixOf_iff_prefix.mp hhttp
            have hdrop : (ascii "http://" ++ rest).drop 7 = rest := by
              rw [← hseven]
              exact List.drop_left
            rw [hdrop] at hlocal hsame
            rw [hhttp] at hsame
            by_cases hhost : host = []
            · simp [hhost] at hsame
            · simp only [Bool.not_true, hhost, decide_false, Bool.or_self, Bool.false_eq_true,
                if_false, beq_iff_eq] at hsame
              exact ⟨rest, rfl, hlocal, hhost, hsame⟩
          · rintro ⟨rest, rfl, hlocal, hhost, hsame⟩
            have hdrop : (ascii "http://" ++ rest).drop 7 = rest := by
              rw [← hseven]
              exact List.drop_left
            have hhttp : (ascii "http://").isPrefixOf (ascii "http://" ++ rest) = true :=
              List.isPrefixOf_iff_prefix.mpr ⟨rest, rfl⟩
            rw [hdrop, hhttp]
            simp [hlocal, hhost, hsame]

end SplitFlap.LanOrigin
