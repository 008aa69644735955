/-
  SplitFlap.Rescue.SlotStory — what the flash operations of a slot may be.

  A story is what happened to the slot, newest first, and every end of it is a
  moment at which the power may have gone.  `EventOk` says of each flash
  operation, by what came before it, that it is one the slot survives: a write
  goes to bytes the install in hand has erased, a write into the header's sector
  only follows the whole check of the one stream the slot then holds, and an
  install that failed before its first erase has none.
-/
import SplitFlap.Rescue.FactorySlot

namespace SplitFlap.Rescue

/-! ## §1. Reading a story. -/

/-- The flash after a story. -/
def replay (flash0 : Nat → UInt8) : List SlotEvent → Nat → UInt8
  | [] => flash0
  | .erase first len true :: earlier => eraseBytes (replay flash0 earlier) first len
  | .write first data true :: earlier => programBytes (replay flash0 earlier) first data
  | _ :: earlier => replay flash0 earlier

/-- Erased since the install in hand began, and not written since. -/
def fresh : List SlotEvent → Nat → Bool
  | [], _ => false
  | .started :: _, _ => false
  | .began _ :: _, _ => false
  | .erase first len true :: earlier, a =>
      decide (first ≤ a ∧ a < first + len) || fresh earlier a
  | .write first data true :: earlier, a =>
      !decide (first ≤ a ∧ a < first + data.length) && fresh earlier a
  | _ :: earlier, a => fresh earlier a

def Party.request : Party → Option Nat
  | .upload request _ => some request
  | .release _ => none

/-- Whose install is in hand, and the bytes of theirs that were taken. -/
def installOf : List SlotEvent → Option (Party × List UInt8)
  | [] => none
  | .started :: _ => none
  | .began party :: _ => some (party, [])
  | .took request data :: earlier =>
      (installOf earlier).map fun install =>
        if install.1.request = request then (install.1, install.2 ++ data) else install
  | _ :: earlier => installOf earlier

/-- An erase was asked for since the install began. -/
def touched : List SlotEvent → Bool
  | [] => false
  | .started :: _ => false
  | .began _ :: _ => false
  | .erase _ _ _ :: _ => true
  | _ :: earlier => touched earlier

/-- The install has failed. -/
def gaveUp : List SlotEvent → Bool
  | [] => false
  | .started :: _ => false
  | .began _ :: _ => false
  | .failed :: _ => true
  | _ :: earlier => gaveUp earlier

/-- The header's sector was erased, and no header has been written since. -/
def headerErased : List SlotEvent → Bool
  | [] => false
  | .erase first len true :: earlier => decide (first = 0 ∧ SECTOR ≤ len) || headerErased earlier
  | .write first _ true :: earlier => !decide (first < SECTOR) && headerErased earlier
  | _ :: earlier => headerErased earlier

/-- The story before the install in hand. -/
def beforeInstall : List SlotEvent → List SlotEvent
  | [] => []
  | .started :: earlier => earlier
  | .began _ :: earlier => earlier
  | _ :: earlier => beforeInstall earlier

/-- The check of the whole stream: its MD5 for an upload, the SHA-256 and the
size of the manifest for a release. -/
def CheckedWhole (P : Platform) : Party → List UInt8 → Prop
  | .upload _ md5, stream => P.md5 stream = md5
  | .release image, stream => P.sha256 stream = image.sha256 ∧ stream.length = image.size

def EventOk (P : Platform) (flash0 : Nat → UInt8) (e : SlotEvent) (earlier : List SlotEvent) :
    Prop :=
  match e with
  | .erase _ _ _ => gaveUp earlier = true → touched earlier = true
  | .write first data done =>
      (∀ i < data.length, fresh earlier (first + i) = true) ∧
        (first < SECTOR → ∃ party stream, installOf earlier = some (party, stream) ∧
          stream ≠ [] ∧ CheckedWhole P party stream ∧
            (done = true → ∀ i < stream.length,
              replay flash0 (.write first data done :: earlier) i = stream.getD i 0))
  | _ => True

/-- Every event of the story is one the slot survives. -/
def StoryOk (P : Platform) (flash0 : Nat → UInt8) (story : List SlotEvent) : Prop :=
  ∀ e earlier, e :: earlier <:+ story → EventOk P flash0 e earlier

variable {P : Platform} {flash0 : Nat → UInt8} {story : List SlotEvent} {e : SlotEvent}

theorem storyOk_nil : StoryOk P flash0 [] := fun _ _ h =>
  absurd (List.suffix_nil.mp h) (List.cons_ne_nil _ _)

theorem StoryOk.cons (h : StoryOk P flash0 story) (he : EventOk P flash0 e story) :
    StoryOk P flash0 (e :: story) := by
  intro e' earlier hsuffix
  rcases List.suffix_cons_iff.mp hsuffix with heq | hold
  · rw [List.cons.injEq] at heq
    rw [heq.1, heq.2]
    exact he
  · exact h e' earlier hold

theorem StoryOk.suffix {story' : List SlotEvent} (h : StoryOk P flash0 story)
    (hsuffix : story' <:+ story) : StoryOk P flash0 story' :=
  fun e earlier h' => h e earlier (h'.trans hsuffix)

/-! ## §2. What a story says of the flash. -/

/-- A fresh byte is an erased one. -/
theorem replay_fresh {a : Nat} (h : fresh story a = true) : replay flash0 story a = 0xFF := by
  induction story with
  | nil => exact absurd h (by simp [fresh])
  | cons e earlier ih =>
      cases e with
      | started => exact absurd h (by simp [fresh])
      | began party => exact absurd h (by simp [fresh])
      | took request data => exact ih h
      | failed => exact ih h
      | erase first len done =>
          cases done with
          | false => exact ih h
          | true =>
              simp only [fresh, Bool.or_eq_true, decide_eq_true_eq] at h
              simp only [replay, eraseBytes]
              split
              · rfl
              · next hout => exact ih (h.resolve_left hout)
      | write first data done =>
          cases done with
          | false => exact ih h
          | true =>
              simp only [fresh, Bool.and_eq_true, Bool.not_eq_true', decide_eq_false_iff_not] at h
              simp only [replay, programBytes, if_neg h.1]
              exact ih h.2

/-- **An erased header stays erased** until one is written. -/
theorem replay_headerErased (h : headerErased story = true) {a : Nat} (ha : a < SECTOR) :
    replay flash0 story a = 0xFF := by
  induction story with
  | nil => exact absurd h (by simp [headerErased])
  | cons e earlier ih =>
      cases e with
      | started => exact ih h
      | began party => exact ih h
      | took request data => exact ih h
      | failed => exact ih h
      | erase first len done =>
          cases done with
          | false => exact ih h
          | true =>
              simp only [headerErased, Bool.or_eq_true, decide_eq_true_eq] at h
              simp only [replay, eraseBytes]
              split
              · rfl
              · next hout =>
                  rcases h with ⟨hfirst, hlen⟩ | hold
                  · omega
                  · exact ih hold
      | write first data done =>
          cases done with
          | false => exact ih h
          | true =>
              simp only [headerErased, Bool.and_eq_true, Bool.not_eq_true',
                decide_eq_false_iff_not] at h
              have hout : ¬(first ≤ a ∧ a < first + data.length) := by omega
              simp only [replay, programBytes, if_neg hout]
              exact ih h.2

theorem fresh_touched {a : Nat} (h : fresh story a = true) : touched story = true := by
  induction story with
  | nil => exact absurd h (by simp [fresh])
  | cons e earlier ih =>
      cases e with
      | started => exact absurd h (by simp [fresh])
      | began party => exact absurd h (by simp [fresh])
      | took request data => exact ih h
      | failed => exact ih h
      | erase first len done => rfl
      | write first data done =>
          cases done with
          | false => exact ih h
          | true =>
              simp only [fresh, Bool.and_eq_true] at h
              exact ih h.2

/-- **An install without an erase leaves the slot as it was.** -/
theorem replay_untouched (hok : StoryOk P flash0 story) (h : touched story = false) :
    replay flash0 story = replay flash0 (beforeInstall story) := by
  induction story with
  | nil => rfl
  | cons e earlier ih =>
      have hearlier := hok.suffix (List.suffix_cons e earlier)
      cases e with
      | started => rfl
      | began party => rfl
      | took request data => exact ih hearlier h
      | failed => exact ih hearlier h
      | erase first len done => exact absurd h (by simp [touched])
      | write first data done =>
          have hsame := ih hearlier h
          cases done with
          | false => exact hsame
          | true =>
              -- nothing is erased, so nothing can be written
              have hwrites := (hok _ _ (List.suffix_refl _)).1
              have hempty : data = [] := by
                cases data with
                | nil => rfl
                | cons b rest =>
                    have htouched := fresh_touched (hwrites 0 (Nat.succ_pos _))
                    have hnot : touched earlier = false := h
                    rw [hnot] at htouched
                    exact absurd htouched (by simp)
              subst hempty
              rw [show beforeInstall (.write first [] true :: earlier) = beforeInstall earlier
                from rfl, ← hsame]
              funext a
              simp only [replay, programBytes, List.length_nil, Nat.add_zero]
              rw [if_neg (by omega)]

end SplitFlap.Rescue
