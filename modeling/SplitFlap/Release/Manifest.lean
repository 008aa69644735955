/-
  SplitFlap.Release.Manifest — what a release says about itself.

  `ReleaseManifest.h`: the fields of a latest.json and what a board refuses.
  The text is parsed by ArduinoJson; what of a parsed document is asked here
  (`is`, `as`, a member by its name) is below, the parser itself is a parameter.
-/
import SplitFlap.Wall.Layout

namespace SplitFlap.Release

abbrev RELEASE_MANIFEST_MAX : Nat := 2048
abbrev RELEASE_MANIFEST_FORMAT : Int := 1
abbrev RELEASE_REV_MAX : Nat := 40
abbrev RELEASE_PATH_MAX : Nat := 95
abbrev RELEASE_TAG_MAX : Nat := 31
abbrev RELEASE_NOTES_MAX : Nat := 127
abbrev RELEASE_UNIT_REVS_MAX : Nat := 127
abbrev RELEASE_URL_MAX : Nat := 192
abbrev RELEASE_HOST : String := "split-flap.vanschouwen.nl"

inductive ReleaseError
  | ok | noClock | noAnswer | tooLarge | signature | notJson | format | channel | field | path
  | length | cutOff | hash | write | busy | memory
  deriving DecidableEq

structure ReleaseImage where
  rev : CStr := []
  path : CStr := []
  size : UInt32 := 0
  sha256 : Vector UInt8 32 := Vector.replicate 32 0
  deriving DecidableEq

structure ReleaseManifest where
  channel : CStr := []
  tag : CStr := []
  notes : CStr := []
  commitTime : UInt32 := 0
  master : ReleaseImage := {}
  row : ReleaseImage := {}
  rescue : ReleaseImage := {}
  rowMd5 : Vector UInt8 16 := Vector.replicate 16 0
  unitRevs : CStr := []
  deriving DecidableEq

/-! ## §1. Names. -/

/-- The directory of a channel on the site. -/
def releaseChannelDir (channel : CStr) : Option CStr :=
  if channel = ascii "stable" then some (ascii "releases")
  else if channel = ascii "test" then some (ascii "test")
  else none

def isPathChar (c : UInt8) : Bool :=
  (97 ≤ c && c ≤ 122) || (65 ≤ c && c ≤ 90) || (48 ≤ c && c ≤ 57) || c = 45 || c = 95 || c = 46 ||
    c = 47

/-- From here on nothing but plain names, none of them hidden or empty. -/
def pathRestOk : CStr → Bool
  | [] => true
  | c :: rest =>
      isPathChar c && !(c = 46 && rest.head? = some 46) &&
        !(c = 47 && (rest.head? = some 47 || rest.head? = some 46 || rest.head? = none)) &&
          pathRestOk rest

/-- Relative, inside its directory, and of nothing a URL gives meaning to. -/
def releasePathOk (path : CStr) : Bool :=
  !(path.length = 0 || path.length > RELEASE_PATH_MAX || path.head? = some 47 ||
    path.head? = some 46) && pathRestOk path

/-- The address of a file, when it fits. -/
def releaseUrl (cap : Nat) (channel name : CStr) : Option CStr :=
  match releaseChannelDir channel with
  | none => none
  | some dir =>
      let url := ascii "https://" ++ ascii RELEASE_HOST ++ ascii "/" ++ dir ++ ascii "/" ++ name
      if url.length < cap then some url else none

/-! ## §2. A parsed document. -/

/-- A JSON value, as far as it is asked. -/
inductive Json
  | null
  | int (n : Int)
  | str (text : List UInt8)
  | arr (items : List Json)
  | obj (members : List (List UInt8 × Json))
  | other

def Json.member (v : Json) (name : String) : Json :=
  match v with
  | .obj members => ((members.find? (·.1 = ascii name)).map (·.2)).getD .null
  | _ => .null

/-- `as<const char*>`: a string up to its first NUL. -/
def Json.asText : Json → Option CStr
  | .str text => some (text.takeWhile (· ≠ 0))
  | _ => none

/-- `is<int>` and the number. -/
def Json.asInt : Json → Option Int
  | .int n => if -2 ^ 31 ≤ n ∧ n < 2 ^ 31 then some n else none
  | _ => none

/-- `is<uint32_t>` and the number. -/
def Json.asUInt32 : Json → Option UInt32
  | .int n => if 0 ≤ n ∧ n < 2 ^ 32 then some (UInt32.ofNat n.toNat) else none
  | _ => none

def Json.items : Json → List Json
  | .arr items => items
  | _ => []

/-! ## §3. The fields. -/

def hexNibble (c : UInt8) : Option UInt8 :=
  if 48 ≤ c && c ≤ 57 then some (c - 48)
  else if 97 ≤ c && c ≤ 102 then some (c - 97 + 10)
  else none

/-- Exactly `2 * n` lowercase hex digits. -/
def hexBytes (text : Option CStr) (n : Nat) : Option (Vector UInt8 n) :=
  match text with
  | none => none
  | some digits =>
      if digits.length ≠ 2 * n then none
      else if digits.all fun c => (hexNibble c).isSome then
        some (Vector.ofFn fun i : Fin n =>
          ((hexNibble (digits.getD (2 * i) 0)).getD 0) <<< 4 |||
            (hexNibble (digits.getD (2 * i + 1) 0)).getD 0)
      else none

/-- A string that is there, not empty and fits. -/
def text (v : Json) (cap : Nat) : Option CStr :=
  match v.asText with
  | none => none
  | some s => if s = [] ∨ cap ≤ s.length then none else some s

/-- Not zero. -/
def positive (v : Json) : Option UInt32 :=
  match v.asUInt32 with
  | none => none
  | some n => if n = 0 then none else some n

def require {α : Type} (field : Option α) (e : ReleaseError) : Except ReleaseError α :=
  match field with
  | none => .error e
  | some a => .ok a

/-- `image`. -/
def readImage (v : Json) : Except ReleaseError ReleaseImage := do
  let rev ← require (text (v.member "rev") (RELEASE_REV_MAX + 1)) .field
  let path ← require (v.member "path").asText .field
  if releasePathOk path then
    let size ← require (positive (v.member "size")) .field
    let sha256 ← require (hexBytes (v.member "sha256").asText 32) .field
    pure { rev, path, size, sha256 }
  else throw .path

/-- The revs as "a,b,c"; a list that does not fit is left empty. -/
def unitRevs (used : CStr) : List Json → CStr
  | [] => used
  | rev :: rest =>
      let s := rev.asText.getD []
      if s.length = 0 ∨ used.length + s.length + 1 > RELEASE_UNIT_REVS_MAX then []
      else unitRevs ((if 0 < used.length then used ++ [44] else []) ++ s) rest

/-! ## §4. The manifest. -/

/-- `root` names the channel that was asked for. -/
def namesChannel (root : Json) (channel : CStr) : Except ReleaseError Unit := do
  let signedFor ← require (root.member "channel").asText .field
  if signedFor ≠ channel ∨ 8 ≤ channel.length then throw .channel else pure ()

/-- The object the bytes are, in a format this firmware knows. -/
def readDocument (deserializeJson : List UInt8 → Option Json) (json : List UInt8) :
    Except ReleaseError Json :=
  if json.length > RELEASE_MANIFEST_MAX then throw .tooLarge
  else
    match deserializeJson json with
    | some (.obj members) =>
        if ((Json.obj members).member "format").asInt ≠ some RELEASE_MANIFEST_FORMAT then
          throw .format
        else pure (.obj members)
    | _ => throw .notJson

def readFields (root : Json) (channel : CStr) : Except ReleaseError ReleaseManifest := do
  let tag ← require (text (root.member "tag") (RELEASE_TAG_MAX + 1)) .field
  let notes ← require (text (root.member "notes") (RELEASE_NOTES_MAX + 1)) .field
  let commitTime ← require (positive (root.member "commitTime")) .field
  let master ← readImage (root.member "master")
  let row ← readImage (root.member "row")
  let rescue ← readImage (root.member "rescue")
  let rowMd5 ← require (hexBytes ((root.member "row").member "md5").asText 16) .field
  pure { channel, tag, notes, commitTime, master, row, rescue, rowMd5
         unitRevs := unitRevs [] ((root.member "units").member "revs").items }

/-- `releasemanifest::read`, with the parser of the bytes. -/
def readManifest (deserializeJson : List UInt8 → Option Json) (json : List UInt8)
    (channel : CStr) : Except ReleaseError ReleaseManifest := do
  let root ← readDocument deserializeJson json
  namesChannel root channel
  readFields root channel

/-- Nothing of a refused manifest is handed on. -/
def releaseManifestRead (deserializeJson : List UInt8 → Option Json) (json : List UInt8)
    (channel : CStr) : ReleaseError × ReleaseManifest :=
  match readManifest deserializeJson json channel with
  | .ok read => (.ok, read)
  | .error e => (e, {})

/-! ## §5. What a manifest that was read says. -/

/-- Steps in sequence come through when each does. -/
theorem bind_ok {ε α β : Type} {x : Except ε α} {f : α → Except ε β} {b : β}
    (h : (x >>= f) = .ok b) : ∃ a, x = .ok a ∧ f a = .ok b := by
  cases x with
  | error e => exact nomatch h
  | ok a => exact ⟨a, rfl, h⟩

theorem require_ok {α : Type} {field : Option α} {e : ReleaseError} {a : α}
    (h : require field e = .ok a) : field = some a := by
  cases field with
  | none => exact nomatch h
  | some a' =>
      injection h with h
      rw [h]

theorem readDocument_ok {deserializeJson : List UInt8 → Option Json} {json : List UInt8}
    {root : Json} (h : readDocument deserializeJson json = .ok root) :
    deserializeJson json = some root := by
  unfold readDocument at h
  split at h
  · exact nomatch h
  · split at h
    · next members hparsed =>
        split at h
        · exact nomatch h
        · injection h with h
          rw [hparsed, h]
    · exact nomatch h

theorem namesChannel_ok {root : Json} {channel : CStr}
    (h : namesChannel root channel = .ok ()) :
    (root.member "channel").asText = some channel := by
  obtain ⟨signedFor, hsigned, hsame⟩ := bind_ok h
  rw [require_ok hsigned]
  split at hsame
  · exact nomatch hsame
  · next hcompared =>
      rw [not_or, not_not] at hcompared
      rw [hcompared.1]

theorem readFields_channel {root : Json} {channel : CStr} {m : ReleaseManifest}
    (h : readFields root channel = .ok m) : m.channel = channel := by
  obtain ⟨tag, _, h⟩ := bind_ok h
  obtain ⟨notes, _, h⟩ := bind_ok h
  obtain ⟨commitTime, _, h⟩ := bind_ok h
  obtain ⟨master, _, h⟩ := bind_ok h
  obtain ⟨row, _, h⟩ := bind_ok h
  obtain ⟨rescue, _, h⟩ := bind_ok h
  obtain ⟨rowMd5, _, h⟩ := bind_ok h
  injection h with h
  rw [← h]

/-- The manifest is of these bytes, which name the channel. -/
def ReadFrom (deserializeJson : List UInt8 → Option Json) (channel : CStr)
    (json : List UInt8) (m : ReleaseManifest) : Prop :=
  ∃ root, deserializeJson json = some root ∧
    (root.member "channel").asText = some channel ∧ m.channel = channel

/-- What is handed on was read from these bytes. -/
theorem releaseManifestRead_readFrom {deserializeJson : List UInt8 → Option Json}
    {json : List UInt8} {channel : CStr}
    (h : (releaseManifestRead deserializeJson json channel).2 ≠ {}) :
    ReadFrom deserializeJson channel json (releaseManifestRead deserializeJson json channel).2 := by
  unfold releaseManifestRead at h ⊢
  cases hread : readManifest deserializeJson json channel with
  | error e =>
      rw [hread] at h
      exact absurd rfl h
  | ok m =>
      obtain ⟨root, hroot, hrest⟩ := bind_ok hread
      obtain ⟨_, hnames, hfields⟩ := bind_ok hrest
      exact ⟨root, readDocument_ok hroot, namesChannel_ok hnames, readFields_channel hfields⟩

end SplitFlap.Release
