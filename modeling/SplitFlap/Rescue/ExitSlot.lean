/-
  SplitFlap.Rescue.ExitSlot — out of rescue, into the image that ran last.

  A boot that gets its network up writes the record of the slot it runs from,
  unless the record that is there is of this image and the newer of the two
  (`ensureSlotRecord`).  The rescue image reads both records and exits to the
  newest that is still of its slot's image (`pickExitSlot`).
-/
import SplitFlap.Rescue.SlotRecord

namespace SplitFlap.ExitSlot

open SlotRecords

/-! ## §1. The two programs. -/

inductive Slot where
  | app0 | app1
  deriving DecidableEq

def Slot.other : Slot → Slot
  | .app0 => .app1
  | .app1 => .app0

/-- The slot's number. -/
def Slot.index : Slot → Int
  | .app0 => 0
  | .app1 => 1

def slotRecordStands (mine other : Option SlotRecord) (sha : Sha) : Bool :=
  if slotRecordShaMatches mine sha = false then false
  else
    match mine, other with
    | some mine, some other => decide (other.seq < mine.seq)
    | _, _ => true

/-- `nextSlotRecordSeq`, one record: the highest number so far. -/
def raisedBy (maxSeq : UInt32) : Option SlotRecord → UInt32
  | some r => if maxSeq < r.seq then r.seq else maxSeq
  | none => maxSeq

def nextSlotRecordSeq (a b : Option SlotRecord) : UInt32 := raisedBy (raisedBy 0 a) b + 1

structure ExitSlotCandidate where
  valid : Bool := false
  stamp : UInt64 := 0
  confirmed : Bool := false
  seq : UInt32 := 0

def pickExitSlot (s0 s1 : ExitSlotCandidate) : Int :=
  if s0.valid && s1.valid then
    if s0.confirmed && s1.confirmed then if s0.seq < s1.seq then 1 else 0
    else if s0.confirmed ≠ s1.confirmed then if s1.confirmed then 1 else 0
    else if s0.stamp < s1.stamp then 1 else 0
  else if s0.valid then 0
  else if s1.valid then 1
  else -1

/-! ## §2. A history. -/

/-- Images, told apart by their digests. -/
structure Images (Image : Type) where
  sha : Image → Sha
  gitRev : Image → CStr
  distinct : ∀ x y, sha x = sha y → x = y

/-- The slots and the records in NVS.  Beside them stands what was confirmed last, and last in each
slot. -/
structure Slots (Image : Type) where
  image : Slot → Option Image := fun _ => none
  record : Slot → CStr := fun _ => []
  lastConfirmed : Option (Slot × Image) := none
  confirmedThere : Slot → Option Image := fun _ => none

inductive Event (Image : Type) where
  | install (slot : Slot) (x : Image)
  | boots (slot : Slot)

variable {Image : Type}

namespace Slots

/-- `ensureSlotRecord`, its record written. -/
def ensureSlotRecord (images : Images Image) (slot : Slot) (x : Image) (s : Slots Image) :
    Slots Image :=
  let rec0 := parseSlotRecord (s.record .app0)
  let rec1 := parseSlotRecord (s.record .app1)
  let mine := if slot = .app0 then rec0 else rec1
  let other := if slot = .app0 then rec1 else rec0
  if slotRecordStands mine other (images.sha x) then s
  else
    match formatSlotRecord SLOT_RECORD_BUF_LEN (nextSlotRecordSeq rec0 rec1) (images.sha x)
        (images.gitRev x) with
    | some buf => { s with record := Function.update s.record slot buf }
    | none => s

/-- An install writes the slot; a boot of the image in a slot confirms it. -/
def step (images : Images Image) (s : Slots Image) : Event Image → Slots Image
  | .install slot x => { s with image := Function.update s.image slot (some x) }
  | .boots slot =>
      match s.image slot with
      | none => s
      | some x =>
          { s.ensureSlotRecord images slot x with
            lastConfirmed := some (slot, x)
            confirmedThere := Function.update s.confirmedThere slot (some x) }

/-- `pinSlotRecord` and `exitCandidate`. -/
def exitCandidate (images : Images Image) (stamp : Slot → UInt64) (s : Slots Image) (slot : Slot) :
    ExitSlotCandidate :=
  let slotRec := Rescue.parseSlotRecord (s.record slot)
  match s.image slot with
  | none => { valid := false, stamp := 0, confirmed := false, seq := (slotRec.map (·.seq)).getD 0 }
  | some x =>
      { valid := true
        stamp := stamp slot
        confirmed := slotRecordShaMatches slotRec (images.sha x)
        seq := (slotRec.map (·.seq)).getD 0 }

def exitSlot (images : Images Image) (stamp : Slot → UInt64) (s : Slots Image) : Int :=
  pickExitSlot (s.exitCandidate images stamp .app0) (s.exitCandidate images stamp .app1)

end Slots

def isBoot : Event Image → Bool
  | .boots _ => true
  | .install .. => false

/-- A device from new on, with fewer than `2^32 - 1` confirms. -/
structure History (Image : Type) where
  images : Images Image
  events : List (Event Image)
  few : events.countP isBoot < 2 ^ 32 - 1

def History.slots (h : History Image) : Slots Image := h.events.foldl (Slots.step h.images) {}

/-! ## §3. What is asked. -/

/-- The slot confirmed last, while it holds that image; else the one that holds what was last
confirmed there. -/
def ExitsToLast (images : Images Image) (s : Slots Image) : Prop :=
  ∀ stamp,
    (∀ slot x, s.lastConfirmed = some (slot, x) → s.image slot = some x →
      s.exitSlot images stamp = slot.index) ∧
    ((∀ slot x, s.lastConfirmed = some (slot, x) → s.image slot ≠ some x) →
      ∀ slot x, s.confirmedThere slot = some x → s.image slot = some x →
        s.exitSlot images stamp = slot.index)

/-- What the master formats the rescue image parses, and knows the image by it; a rev that the
record can hold is kept. -/
def RoundTrips (seq : UInt32) (sha : Sha) (rev : CStr) : Prop :=
  ∃ raw, formatSlotRecord SLOT_RECORD_BUF_LEN seq sha rev = some raw ∧
    Rescue.parseSlotRecord raw =
      some { seq, sha := hexText sha.toList, rev := keptRev rev } ∧
    (∀ sha', slotRecordShaMatches (Rescue.parseSlotRecord raw) sha' = true ↔ sha' = sha) ∧
    (rev.all isRevChar = true → rev.length ≤ SLOT_RECORD_REV_MAX_LEN → rev ≠ [] →
      keptRev rev = rev)

theorem shaMatches_iff (seq : UInt32) (sha sha' : Sha) (rev : CStr) :
    slotRecordShaMatches (some { seq, sha := hexText sha.toList, rev }) sha' = true ↔
      sha' = sha := by
  unfold slotRecordShaMatches
  rw [decide_eq_true_iff]
  constructor
  · intro htext
    exact (Vector.toList_inj.mp (hexText_inj htext)).symm
  · rintro rfl
    rfl

theorem round_trips (seq : UInt32) (sha : Sha) (rev : CStr) : RoundTrips seq sha rev := by
  obtain ⟨raw, hraw, hparsed⟩ := parse_format seq sha rev (Nat.le_refl _)
  refine ⟨raw, hraw, hparsed, fun sha' => ?_, keptRev_eq⟩
  show slotRecordShaMatches (parseSlotRecord raw) sha' = true ↔ _
  rw [hparsed]
  exact shaMatches_iff seq sha sha' _

/-! ## §4. The records through a history. -/

/-- Each slot's record is of the image last confirmed there, and that of the slot confirmed last
has the highest number. -/
structure Kept (images : Images Image) (confirms : Nat) (s : Slots Image) : Prop where
  unconfirmed : ∀ slot, s.confirmedThere slot = none → parseSlotRecord (s.record slot) = none
  confirmed : ∀ slot x, s.confirmedThere slot = some x → ∃ r,
    parseSlotRecord (s.record slot) = some r ∧ r.sha = hexText (images.sha x).toList
  few : ∀ slot r, parseSlotRecord (s.record slot) = some r → r.seq.toNat ≤ confirms
  there : ∀ slot x, s.lastConfirmed = some (slot, x) → s.confirmedThere slot = some x
  top : ∀ slot x, s.lastConfirmed = some (slot, x) → ∀ r o,
    parseSlotRecord (s.record slot) = some r → parseSlotRecord (s.record slot.other) = some o →
      o.seq < r.seq
  first : s.lastConfirmed = none → ∀ slot, s.confirmedThere slot = none

theorem Kept.start (images : Images Image) : Kept images 0 ({} : Slots Image) where
  unconfirmed := fun _ _ => rfl
  confirmed := fun _ _ hnone => nomatch hnone
  few := fun _ _ hnone => nomatch hnone
  there := fun _ _ hnone => nomatch hnone
  top := fun _ _ hnone => nomatch hnone
  first := fun _ _ => rfl

theorem raisedBy_spec {maxSeq : UInt32} {r : Option SlotRecord} {n : Nat}
    (hmax : maxSeq.toNat ≤ n) (hr : ∀ x, r = some x → x.seq.toNat ≤ n) :
    (raisedBy maxSeq r).toNat ≤ n ∧ maxSeq.toNat ≤ (raisedBy maxSeq r).toNat ∧
      ∀ x, r = some x → x.seq.toNat ≤ (raisedBy maxSeq r).toNat := by
  cases r with
  | none => exact ⟨hmax, Nat.le_refl _, fun _ hnone => nomatch hnone⟩
  | some r =>
      have hle := hr r rfl
      unfold raisedBy
      dsimp only
      split
      · rename_i hlt
        rw [UInt32.lt_iff_toNat_lt] at hlt
        refine ⟨hle, Nat.le_of_lt hlt, ?_⟩
        rintro x ⟨⟩
        exact Nat.le_refl _
      · rename_i hnlt
        rw [UInt32.lt_iff_toNat_lt, Nat.not_lt] at hnlt
        refine ⟨hmax, Nat.le_refl _, ?_⟩
        rintro x ⟨⟩
        exact hnlt

/-- The next number is above both. -/
theorem nextSlotRecordSeq_spec {a b : Option SlotRecord} {n : Nat} (hn : n < 2 ^ 32 - 1)
    (ha : ∀ r, a = some r → r.seq.toNat ≤ n) (hb : ∀ r, b = some r → r.seq.toNat ≤ n) :
    (nextSlotRecordSeq a b).toNat ≤ n + 1 ∧
      (∀ r, a = some r → r.seq < nextSlotRecordSeq a b) ∧
      ∀ r, b = some r → r.seq < nextSlotRecordSeq a b := by
  obtain ⟨hafits, -, hamax⟩ := raisedBy_spec (show (0 : UInt32).toNat ≤ n from Nat.zero_le n) ha
  obtain ⟨hfits, hgrows, hbmax⟩ := raisedBy_spec hafits hb
  have hnext : (nextSlotRecordSeq a b).toNat = (raisedBy (raisedBy 0 a) b).toNat + 1 := by
    unfold nextSlotRecordSeq
    rw [UInt32.toNat_add, show (1 : UInt32).toNat = 1 from rfl, Nat.mod_eq_of_lt (by omega)]
  refine ⟨by omega, fun r hr => ?_, fun r hr => ?_⟩
  · have hr := hamax r hr
    rw [UInt32.lt_iff_toNat_lt]
    omega
  · have hr := hbmax r hr
    rw [UInt32.lt_iff_toNat_lt]
    omega

section Confirming

variable {images : Images Image} {confirms : Nat} {s : Slots Image}

/-- `ensureSlotRecord` in terms of the slot's own record and the other's. -/
theorem Kept.ensure_eq (h : Kept images confirms s) (hfew : confirms < 2 ^ 32 - 1) (slot : Slot)
    (x : Image) : ∃ seq : UInt32, seq.toNat ≤ confirms + 1 ∧
      (∀ o, parseSlotRecord (s.record slot.other) = some o → o.seq < seq) ∧
      s.ensureSlotRecord images slot x =
        if slotRecordStands (parseSlotRecord (s.record slot))
          (parseSlotRecord (s.record slot.other)) (images.sha x) then s
        else
          match formatSlotRecord SLOT_RECORD_BUF_LEN seq (images.sha x) (images.gitRev x) with
          | some buf => { s with record := Function.update s.record slot buf }
          | none => s := by
  obtain ⟨hle, hbelow0, hbelow1⟩ := nextSlotRecordSeq_spec hfew (h.few .app0) (h.few .app1)
  cases slot with
  | app0 => exact ⟨_, hle, hbelow1, rfl⟩
  | app1 => exact ⟨_, hle, hbelow0, rfl⟩

/-- What a confirm leaves: a record of the image, above the other's; the other as it was. -/
theorem Kept.ensured (h : Kept images confirms s) (hfew : confirms < 2 ^ 32 - 1) (slot : Slot)
    (x : Image) : ∃ record, s.ensureSlotRecord images slot x = { s with record } ∧
      record slot.other = s.record slot.other ∧
      ∃ r, parseSlotRecord (record slot) = some r ∧ r.sha = hexText (images.sha x).toList ∧
        r.seq.toNat ≤ confirms + 1 ∧
        ∀ o, parseSlotRecord (s.record slot.other) = some o → o.seq < r.seq := by
  obtain ⟨seq, hle, habove, heq⟩ := h.ensure_eq hfew slot x
  rw [heq]
  split
  · -- the record that is there stays
    rename_i hstands
    refine ⟨s.record, rfl, rfl, ?_⟩
    unfold slotRecordStands at hstands
    split at hstands
    · cases hstands
    · rename_i hmatches
      cases hmine : parseSlotRecord (s.record slot) with
      | none =>
          rw [hmine] at hmatches
          exact absurd rfl hmatches
      | some r =>
          rw [hmine] at hmatches hstands
          have hsha : r.sha = hexText (images.sha x).toList :=
            of_decide_eq_true (Bool.not_eq_false _ ▸ hmatches)
          refine ⟨r, rfl, hsha, Nat.le_succ_of_le (h.few slot r hmine), fun o ho => ?_⟩
          rw [ho] at hstands
          exact of_decide_eq_true hstands
  · obtain ⟨raw, hraw, hparsed⟩ :=
      parse_format seq (images.sha x) (images.gitRev x) (Nat.le_refl _)
    have hother : slot.other ≠ slot := by cases slot <;> decide
    rw [hraw]
    refine ⟨_, rfl, Function.update_of_ne hother _ _,
      { seq, sha := hexText (images.sha x).toList, rev := keptRev (images.gitRev x) }, ?_, rfl, hle,
      habove⟩
    rw [Function.update_self]
    exact hparsed

/-- A boot that is confirmed. -/
theorem Kept.boots (h : Kept images confirms s) (hfew : confirms < 2 ^ 32 - 1) (slot : Slot)
    (x : Image) : Kept images (confirms + 1)
      { s.ensureSlotRecord images slot x with
        lastConfirmed := some (slot, x)
        confirmedThere := Function.update s.confirmedThere slot (some x) } := by
  obtain ⟨record, heq, hother, r, hr, hsha, hle, habove⟩ := h.ensured hfew slot x
  rw [heq]
  have hslots (t : Slot) : t = slot ∨ t = slot.other := by
    cases t <;> cases slot <;> simp [Slot.other]
  have hne : slot.other ≠ slot := by cases slot <;> decide
  have hback : slot.other.other = slot := by cases slot <;> rfl
  refine ⟨?_, ?_, ?_, ?_, ?_, ?_⟩
  · intro t ht
    dsimp only at ht
    obtain rfl | rfl := hslots t
    · rw [Function.update_self] at ht
      cases ht
    · rw [Function.update_of_ne hne] at ht
      show parseSlotRecord (record slot.other) = none
      rw [hother]
      exact h.unconfirmed _ ht
  · intro t y hy
    dsimp only at hy
    obtain rfl | rfl := hslots t
    · rw [Function.update_self] at hy
      cases hy
      exact ⟨r, hr, hsha⟩
    · rw [Function.update_of_ne hne] at hy
      obtain ⟨o, ho, hosha⟩ := h.confirmed _ y hy
      exact ⟨o, (congrArg parseSlotRecord hother).trans ho, hosha⟩
  · intro t o ho
    obtain rfl | rfl := hslots t
    · rw [Option.some.inj (ho.symm.trans hr)]
      exact hle
    · have ho : parseSlotRecord (record slot.other) = some o := ho
      rw [hother] at ho
      exact Nat.le_succ_of_le (h.few _ o ho)
  · rintro t y hlast
    cases hlast
    exact Function.update_self ..
  · rintro t y hlast r' o hr' ho
    cases hlast
    have ho : parseSlotRecord (record slot.other) = some o := ho
    rw [hother] at ho
    rw [Option.some.inj (hr'.symm.trans hr)]
    exact habove o ho
  · intro hnone
    cases hnone

theorem Kept.mono {confirms' : Nat} (h : Kept images confirms s) (hle : confirms ≤ confirms') :
    Kept images confirms' s :=
  { h with few := fun slot r hr => Nat.le_trans (h.few slot r hr) hle }

/-- An event counts as a confirm at the most when it is a boot. -/
theorem Kept.step (h : Kept images confirms s) (e : Event Image)
    (hfew : isBoot e = true → confirms < 2 ^ 32 - 1) :
    Kept images (confirms + if isBoot e then 1 else 0) (s.step images e) := by
  cases e with
  | install slot x => exact ⟨h.unconfirmed, h.confirmed, h.few, h.there, h.top, h.first⟩
  | boots slot =>
      show Kept images (confirms + 1) _
      unfold Slots.step
      dsimp only
      split
      · exact h.mono (Nat.le_succ confirms)
      · exact h.boots (hfew rfl) slot _

theorem Kept.run {events : List (Event Image)} (h : Kept images confirms s)
    (hfew : confirms + events.countP isBoot < 2 ^ 32 - 1) :
    Kept images (confirms + events.countP isBoot) (events.foldl (Slots.step images) s) := by
  induction events generalizing confirms s with
  | nil => exact h
  | cons e events ih =>
      rw [List.countP_cons] at hfew ⊢
      have hstep := h.step e fun _ => by omega
      have hrun := ih hstep (by omega)
      rw [show confirms + (events.countP isBoot + if isBoot e then 1 else 0) =
        confirms + (if isBoot e then 1 else 0) + events.countP isBoot by omega]
      exact hrun

end Confirming

/-! ## §5. The exit. -/

section Exiting

variable {images : Images Image} {confirms : Nat} {s : Slots Image} {stamp : Slot → UInt64}

/-- Rescue takes a slot for confirmed exactly when it holds the image last confirmed there. -/
theorem Kept.confirmed_iff (h : Kept images confirms s) (slot : Slot) :
    (s.exitCandidate images stamp slot).confirmed = true ↔
      ∃ x, s.confirmedThere slot = some x ∧ s.image slot = some x := by
  unfold Slots.exitCandidate
  dsimp only
  cases himage : s.image slot with
  | none => simp
  | some x =>
      show slotRecordShaMatches (parseSlotRecord (s.record slot)) (images.sha x) = true ↔ _
      cases hthere : s.confirmedThere slot with
      | none =>
          rw [h.unconfirmed slot hthere]
          simp [slotRecordShaMatches]
      | some y =>
          obtain ⟨r, hr, hsha⟩ := h.confirmed slot y hthere
          rw [hr]
          unfold slotRecordShaMatches
          rw [decide_eq_true_iff, hsha]
          constructor
          · intro htext
            have hsame := images.distinct y x (Vector.toList_inj.mp (hexText_inj htext))
            exact ⟨x, congrArg some hsame, rfl⟩
          · rintro ⟨z, hy, hx⟩
            rw [Option.some.inj hy, Option.some.inj hx]

theorem exitCandidate_valid (images : Images Image) (stamp : Slot → UInt64) {s : Slots Image}
    {slot : Slot} {x : Image} (himage : s.image slot = some x) :
    (s.exitCandidate images stamp slot).valid = true := by
  unfold Slots.exitCandidate
  rw [himage]

theorem exitCandidate_seq (images : Images Image) (stamp : Slot → UInt64) (s : Slots Image)
    (slot : Slot) : (s.exitCandidate images stamp slot).seq =
      ((parseSlotRecord (s.record slot)).map (·.seq)).getD 0 := by
  unfold Slots.exitCandidate
  dsimp only
  split <;> rfl

/-- What `pickExitSlot` needs to take the first slot: it is confirmed, and the second is not, or
earlier. -/
theorem pickExitSlot_first {s0 s1 : ExitSlotCandidate} (hvalid : s0.valid = true)
    (hconfirmed : s0.confirmed = true) (hother : s1.confirmed = true → s1.seq < s0.seq) :
    pickExitSlot s0 s1 = 0 := by
  unfold pickExitSlot
  rw [hvalid, hconfirmed]
  cases hvalid1 : s1.valid with
  | false => rfl
  | true =>
      cases hconfirmed1 : s1.confirmed with
      | false => rfl
      | true =>
          have hlater := UInt32.not_lt.mpr (UInt32.le_of_lt (hother hconfirmed1))
          simp [hlater]

theorem pickExitSlot_second {s0 s1 : ExitSlotCandidate} (hvalid : s1.valid = true)
    (hconfirmed : s1.confirmed = true) (hother : s0.confirmed = true → s0.seq < s1.seq) :
    pickExitSlot s0 s1 = 1 := by
  unfold pickExitSlot
  rw [hvalid, hconfirmed]
  cases hvalid0 : s0.valid with
  | false => rfl
  | true =>
      cases hconfirmed0 : s0.confirmed with
      | false => rfl
      | true =>
          have hlater := hother hconfirmed0
          simp [hlater]

theorem exitSlot_eq {slot : Slot} (hvalid : (s.exitCandidate images stamp slot).valid = true)
    (hconfirmed : (s.exitCandidate images stamp slot).confirmed = true)
    (hother : (s.exitCandidate images stamp slot.other).confirmed = true →
      (s.exitCandidate images stamp slot.other).seq < (s.exitCandidate images stamp slot).seq) :
    s.exitSlot images stamp = slot.index := by
  cases slot with
  | app0 => exact pickExitSlot_first hvalid hconfirmed hother
  | app1 => exact pickExitSlot_second hvalid hconfirmed hother

theorem Kept.exits (h : Kept images confirms s) : ExitsToLast images s := by
  intro stamp
  constructor
  · intro slot x hlast himage
    have hthere := h.there slot x hlast
    refine exitSlot_eq (exitCandidate_valid images stamp himage)
      ((h.confirmed_iff slot).mpr ⟨x, hthere, himage⟩) fun hother => ?_
    -- both records are of their images: the later is that of the slot confirmed last
    obtain ⟨y, hy, -⟩ := (h.confirmed_iff slot.other).mp hother
    obtain ⟨r, hr, -⟩ := h.confirmed slot x hthere
    obtain ⟨o, ho, -⟩ := h.confirmed slot.other y hy
    rw [exitCandidate_seq, exitCandidate_seq, hr, ho]
    exact h.top slot x hlast r o hr ho
  · intro hgone slot x hthere himage
    refine exitSlot_eq (exitCandidate_valid images stamp himage)
      ((h.confirmed_iff slot).mpr ⟨x, hthere, himage⟩) fun hother => ?_
    -- one of the two slots was confirmed last, and would hold that image
    obtain ⟨y, hy, hyimage⟩ := (h.confirmed_iff slot.other).mp hother
    cases hlast : s.lastConfirmed with
    | none =>
        rw [h.first hlast slot] at hthere
        cases hthere
    | some last =>
        obtain ⟨t, z⟩ := last
        have htz := h.there t z hlast
        have hslots : t = slot ∨ t = slot.other := by
          cases t <;> cases slot <;> simp [Slot.other]
        obtain rfl | rfl := hslots
        · exact absurd (Option.some.inj (hthere.symm.trans htz) ▸ himage) (hgone t z hlast)
        · exact absurd (Option.some.inj (hy.symm.trans htz) ▸ hyimage) (hgone _ z hlast)

end Exiting

/-- **After every history rescue exits to the slot confirmed last while that holds its image, else
to the one that holds what was last confirmed there; and every record round-trips.** -/
theorem exits_to_last (h : History Image) (seq : UInt32) (sha : Sha) (rev : CStr) :
    ExitsToLast h.images h.slots ∧ RoundTrips seq sha rev := by
  have hfew := h.few
  have hkept : Kept h.images (0 + h.events.countP isBoot) h.slots :=
    (Kept.start h.images).run (by omega)
  exact ⟨hkept.exits, round_trips seq sha rev⟩

/-- Two images, and one of them installed into its slot again after the other was confirmed. -/
def againInApp0 : History Bool where
  images :=
    { sha := fun x => Vector.replicate 32 (if x then 1 else 0)
      gitRev := fun _ => [97]
      distinct := by decide }
  events := [.install .app0 true, .boots .app0, .install .app1 false, .boots .app1,
    .install .app0 true, .boots .app0]
  few := by decide

example : againInApp0.slots.exitSlot againInApp0.images (fun _ => 0) = 0 := by decide +kernel

end SplitFlap.ExitSlot
