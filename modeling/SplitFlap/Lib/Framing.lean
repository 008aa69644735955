/-
  SplitFlap.Lib.Framing — items in front of a stream, and why the cuts do not
  matter.

  A framing looks at the front of a list and answers `more` (not enough to
  say), `bad` (no item can start here) or `item size value`.  Its two laws are
  that an item has a size within what was looked at, and that a verdict other
  than `more` stands whatever follows.  From these alone:

    • `frames` — the items of a whole stream — is total,
    • `frames_append` — a stream may be read up to any point, its rest kept,
      and continued with what arrives later,
    • `frames_items` — items written one after the other are read back.
-/
import Mathlib.Data.List.Basic

namespace SplitFlap.Framing

variable {α β : Type*}

/-! ## §1. Verdicts. -/

/-- What the front of a stream is. -/
inductive Look (β : Type*) where
  | more
  | bad
  | item (size : Nat) (value : β)

/-- A framing: a verdict on every list, with its laws. -/
structure Frame (α β : Type*) where
  look : List α → Look β
  item_pos : ∀ {xs n v}, look xs = .item n v → 0 < n
  item_le : ∀ {xs n v}, look xs = .item n v → n ≤ xs.length
  item_append : ∀ {xs n v} (ys), look xs = .item n v → look (xs ++ ys) = .item n v
  bad_append : ∀ {xs} (ys), look xs = .bad → look (xs ++ ys) = .bad

/-- What reading a stream came to: its items, whether it ended on something
that is no item, and how much of it the items took. -/
structure Frames (β : Type*) where
  items : List β
  bad : Bool
  used : Nat
  deriving DecidableEq

/-- An item of `size` read before `fs`. -/
def Frames.after (fs : Frames β) (size : Nat) (value : β) : Frames β :=
  { items := value :: fs.items, bad := fs.bad, used := size + fs.used }

/-- What `fs` and then `gs` come to. -/
def Frames.append (fs gs : Frames β) : Frames β :=
  { items := fs.items ++ gs.items, bad := gs.bad, used := fs.used + gs.used }

@[simp] theorem Frames.after_bad (fs : Frames β) (n : Nat) (v : β) :
    (fs.after n v).bad = fs.bad := rfl

@[simp] theorem Frames.after_used (fs : Frames β) (n : Nat) (v : β) :
    (fs.after n v).used = n + fs.used := rfl

theorem Frames.after_append (fs gs : Frames β) (n : Nat) (v : β) :
    (fs.after n v).append gs = (fs.append gs).after n v := by
  simp only [Frames.after, Frames.append, List.cons_append, Nat.add_assoc]

/-! ## §2. The items of a whole stream. -/

variable (F : Frame α β)

/-- The items of `xs`, up to where no whole item is in front. -/
def frames (xs : List α) : Frames β :=
  match _h : F.look xs with
  | .more => { items := [], bad := false, used := 0 }
  | .bad => { items := [], bad := true, used := 0 }
  | .item n v => (frames (xs.drop n)).after n v
termination_by xs.length
decreasing_by
  have hpos := F.item_pos _h
  have hle := F.item_le _h
  rw [List.length_drop]
  omega

variable {F}

theorem frames_more {xs : List α} (h : F.look xs = .more) :
    frames F xs = { items := [], bad := false, used := 0 } := by
  unfold frames
  split
  · rfl
  · next h' => rw [h] at h'; cases h'
  · next h' => rw [h] at h'; cases h'

theorem frames_bad {xs : List α} (h : F.look xs = .bad) :
    frames F xs = { items := [], bad := true, used := 0 } := by
  unfold frames
  split
  · next h' => rw [h] at h'; cases h'
  · rfl
  · next h' => rw [h] at h'; cases h'

theorem frames_item {xs : List α} {n : Nat} {v : β} (h : F.look xs = .item n v) :
    frames F xs = (frames F (xs.drop n)).after n v := by
  conv_lhs => unfold frames
  split
  · next h' => rw [h] at h'; cases h'
  · next h' => rw [h] at h'; cases h'
  · next n' v' h' =>
      rw [h, Look.item.injEq] at h'
      rw [← h'.1, ← h'.2]

/-- The items never take more than there is. -/
theorem frames_used_le (xs : List α) : (frames F xs).used ≤ xs.length := by
  induction xs using frames.induct (F := F) with
  | case1 xs h => rw [frames_more h]; exact Nat.zero_le _
  | case2 xs h => rw [frames_bad h]; exact Nat.zero_le _
  | case3 xs k v h ih =>
      have hle := F.item_le h
      rw [List.length_drop] at ih
      rw [frames_item h, Frames.after_used]
      omega

/-- **A stream may be read up to any point and continued later**: a bad end
stands, and otherwise the rest that was kept is read on with what follows. -/
theorem frames_append (xs ys : List α) :
    frames F (xs ++ ys) =
      if (frames F xs).bad then frames F xs
      else (frames F xs).append (frames F (xs.drop (frames F xs).used ++ ys)) := by
  induction xs using frames.induct (F := F) with
  | case1 xs h =>
      rw [frames_more h]
      simp [Frames.append]
  | case2 xs h =>
      rw [frames_bad h, frames_bad (F.bad_append ys h)]
      rfl
  | case3 xs k v h ih =>
      rw [frames_item h, frames_item (F.item_append ys h),
          List.drop_append_of_le_length (F.item_le h), ih]
      by_cases hbad : (frames F (xs.drop k)).bad = true
      · rw [if_pos hbad, if_pos (by rw [Frames.after_bad]; exact hbad)]
      · rw [if_neg hbad, if_neg (by rw [Frames.after_bad]; exact hbad), Frames.after_append,
            Frames.after_used, List.drop_drop]

/-- After a good end there is no whole item in front of the rest. -/
theorem look_rest {xs : List α} (h : (frames F xs).bad = false) :
    F.look (xs.drop (frames F xs).used) = .more := by
  induction xs using frames.induct (F := F) with
  | case1 xs hl => rw [frames_more hl]; exact hl
  | case2 xs hl => rw [frames_bad hl] at h; cases h
  | case3 xs k v hl ih =>
      rw [frames_item hl] at h ⊢
      rw [Frames.after_used, ← List.drop_drop]
      exact ih h

/-! ## §3. Items written one after the other. -/

/-- **What is written is read back**: when `enc v` is looked at as the item
`v` of its own length, a concatenation of encodings is exactly its items. -/
theorem frames_items {enc : β → List α} {vs : List β}
    (henc : ∀ v ∈ vs, F.look (enc v) = .item (enc v).length v)
    (hnil : F.look [] = .more) :
    frames F (vs.flatMap enc) =
      { items := vs, bad := false, used := (vs.flatMap enc).length } := by
  induction vs with
  | nil => rw [List.flatMap_nil, frames_more hnil]; rfl
  | cons v vs ih =>
      have hv := henc v List.mem_cons_self
      have hrest := ih fun w hw => henc w (List.mem_cons_of_mem _ hw)
      rw [List.flatMap_cons, frames_item (F.item_append _ hv), List.drop_left, hrest]
      simp only [Frames.after, List.length_append]

end SplitFlap.Framing
