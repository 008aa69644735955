/-
  SplitFlap.Lib.SkipBack — reading a numbered log from its end.

  A log is slots, some of which hold an entry; entries are numbered upwards.  A reader
  that wants what lies below a number skips as many slots from the end as the newest
  number is beyond it.  That loses nothing exactly when every entry has as many slots
  behind it as numbers (`reaches_iff`), which holds when entries keep in stride with
  their slots (`InStride`).  Page after page, each from the last number read, gives
  every entry once (`pages_all`).
-/
import Mathlib.Data.List.Pairwise
import Mathlib.Data.List.Basic

namespace SplitFlap.SkipBack

variable {α : Type*} (num : α → Nat)

/-! ## §1. The walk back. -/

/-- The entries, oldest first. -/
def stored (slots : List (Option α)) : List α := slots.filterMap id

def newest (slots : List (Option α)) : Option α := (stored slots).getLast?

/-- Is the entry below `before`, where 0 is no bound? -/
def wanted (before : Nat) (x : α) : Bool := before = 0 ∨ num x < before

/-- How many slots the reader looks at. -/
def reach (slots : List (Option α)) (before : Nat) : Nat :=
  if before = 0 then slots.length
  else
    match newest slots with
    | none => 0
    | some last =>
        if before ≤ num last then slots.length - (num last - before + 1) else slots.length

/-- What it finds, newest first. -/
def found (slots : List (Option α)) (before : Nat) : List α :=
  ((stored (slots.take (reach num slots before))).filter (wanted num before)).reverse

/-- What it should find. -/
def below (slots : List (Option α)) (before : Nat) : List α :=
  ((stored slots).filter (wanted num before)).reverse

/-- Every entry has as many slots behind it as numbers. -/
def Reaches (slots : List (Option α)) : Prop :=
  ∀ last, newest slots = some last → ∀ (i : Nat) (x : α), slots[i]? = some (some x) →
    num last - num x + i < slots.length

variable {num} {slots : List (Option α)} {before : Nat}

@[simp] theorem stored_nil : stored ([] : List (Option α)) = [] := rfl

@[simp] theorem stored_append (slots more : List (Option α)) :
    stored (slots ++ more) = stored slots ++ stored more := List.filterMap_append

@[simp] theorem stored_map_some (xs : List α) : stored (xs.map some) = xs := by
  unfold stored
  rw [List.filterMap_map]
  exact List.filterMap_some

theorem mem_stored {x : α} : x ∈ stored slots ↔ ∃ i : Nat, slots[i]? = some (some x) := by
  unfold stored
  rw [List.mem_filterMap]
  constructor
  · rintro ⟨slot, hmem, hslot⟩
    obtain ⟨i, hi⟩ := List.mem_iff_getElem?.mp hmem
    exact ⟨i, hi.trans (congrArg some hslot)⟩
  · rintro ⟨i, hi⟩
    exact ⟨some x, List.mem_iff_getElem?.mpr ⟨i, hi⟩, rfl⟩

theorem newest_none (h : newest slots = none) : stored slots = [] := List.getLast?_eq_none_iff.mp h

/-- What a shorter walk leaves out lies beyond it. -/
theorem found_all (h : ∀ (i : Nat) (x : α), slots[i]? = some (some x) →
    wanted num before x = true → i < reach num slots before) : found num slots before = below num slots before := by
  have hsplit : stored slots = stored (slots.take (reach num slots before)) ++
      stored (slots.drop (reach num slots before)) := by
    rw [← stored_append, List.take_append_drop]
  have hrest : (stored (slots.drop (reach num slots before))).filter (wanted num before) = [] := by
    rw [List.filter_eq_nil_iff]
    intro x hx hwanted
    obtain ⟨i, hi⟩ := mem_stored.mp hx
    rw [List.getElem?_drop] at hi
    have hless := h _ x hi hwanted
    omega
  unfold found below
  rw [hsplit, List.filter_append, hrest, List.append_nil]

theorem Reaches.found (h : Reaches num slots) :
    found num slots before = below num slots before := by
  apply found_all
  intro i x hi hwanted
  have hinside : i < slots.length := (List.getElem?_eq_some_iff.mp hi).1
  unfold reach
  split
  · exact hinside
  · next hbefore =>
      have hless : num x < before := by
        have hor : before = 0 ∨ num x < before := of_decide_eq_true hwanted
        exact hor.resolve_left hbefore
      split
      · next hnone =>
          have hmem : x ∈ stored slots := mem_stored.mpr ⟨i, hi⟩
          rw [newest_none hnone] at hmem
          exact (nomatch hmem)
      · next last hlast =>
          have hfar := h last hlast i x hi
          split
          · omega
          · exact hinside

/-- An entry that is out of reach is not found by whoever asks for what is below the
    next number. -/
theorem reaches_of_found (h : ∀ before, found num slots before = below num slots before) :
    Reaches num slots := by
  intro last hlast i x hi
  by_contra hfar
  have hinside : i < slots.length := (List.getElem?_eq_some_iff.mp hi).1
  have hless : num x + 1 ≤ num last := by omega
  have hreach : reach num slots (num x + 1) ≤ i := by
    unfold reach
    rw [if_neg (Nat.succ_ne_zero _), hlast]
    dsimp only
    rw [if_pos hless]
    omega
  -- The walk ends before the entry, so it finds fewer.
  have hsplit : stored slots = stored (slots.take (reach num slots (num x + 1))) ++
      stored (slots.drop (reach num slots (num x + 1))) := by
    rw [← stored_append, List.take_append_drop]
  have hmem : x ∈ (stored (slots.drop (reach num slots (num x + 1)))).filter
      (wanted num (num x + 1)) := by
    rw [List.mem_filter]
    refine ⟨mem_stored.mpr ⟨i - reach num slots (num x + 1), ?_⟩, ?_⟩
    · rw [List.getElem?_drop, Nat.add_sub_cancel' hreach]
      exact hi
    · exact decide_eq_true (.inr (Nat.lt_succ_self _))
  have hlength := congrArg List.length (h (num x + 1))
  unfold found below at hlength
  rw [hsplit, List.filter_append, List.length_reverse, List.length_reverse, List.length_append]
    at hlength
  have hpositive := List.length_pos_of_mem hmem
  omega

/-- **Skipping is exact** where every entry has as many slots behind it as numbers. -/
theorem reaches_iff :
    (∀ before, found num slots before = below num slots before) ↔ Reaches num slots :=
  ⟨reaches_of_found, fun h _ => h.found⟩

/-! ## §2. In stride. -/

variable (num) in
/-- Numbers go up, and by no more than the slots between. -/
def InStride (slots : List (Option α)) : Prop :=
  ∀ (i j : Nat) (x y : α), i < j → slots[i]? = some (some x) → slots[j]? = some (some y) →
    num x < num y ∧ num y - num x ≤ j - i

variable (num) in
/-- The next slot may hold the entry of this number. -/
def Next (slots : List (Option α)) (n : Nat) : Prop :=
  ∀ (i : Nat) (x : α), slots[i]? = some (some x) → num x < n ∧ n - num x ≤ slots.length - i

instance (slots : List (Option α)) (n : Nat) : Decidable (Next num slots n) :=
  decidable_of_iff
    (∀ i : Fin slots.length, ∀ x ∈ slots[i], num x < n ∧ n - num x ≤ slots.length - i)
    ⟨fun h i x hi =>
      have ⟨hlt, hslot⟩ := List.getElem?_eq_some_iff.mp hi
      h ⟨i, hlt⟩ x hslot,
    fun h i x hslot => h i x ((List.getElem?_eq_getElem i.isLt).trans (congrArg some hslot))⟩

theorem inStride_nil : InStride num ([] : List (Option α)) := by
  intro i j x y _ hi
  rw [List.getElem?_nil] at hi
  exact (nomatch hi)

theorem getElem?_snoc {slot : Option α} {i : Nat} {x : α}
    (h : (slots ++ [slot])[i]? = some (some x)) :
    slots[i]? = some (some x) ∨ i = slots.length ∧ slot = some x := by
  by_cases hi : i < slots.length
  · rw [List.getElem?_append_left hi] at h
    exact .inl h
  · rw [List.getElem?_append_right (Nat.not_lt.mp hi)] at h
    have hzero : i - slots.length = 0 := by
      by_contra hpositive
      rw [List.getElem?_eq_none (by simp; omega)] at h
      exact (nomatch h)
    rw [hzero] at h
    exact .inr ⟨by omega, Option.some.inj h⟩

theorem InStride.snoc (h : InStride num slots) {x : α} (hnext : Next num slots (num x)) :
    InStride num (slots ++ [some x]) := by
  intro i j y z hij hi hj
  rcases getElem?_snoc hj with hold | ⟨rfl, hx⟩
  · rcases getElem?_snoc hi with hold' | ⟨rfl, _⟩
    · exact h i j y z hij hold' hold
    · have hinside := (List.getElem?_eq_some_iff.mp hold).1
      omega
  · obtain rfl := Option.some.inj hx
    rcases getElem?_snoc hi with hold | ⟨rfl, _⟩
    · exact hnext i y hold
    · exact absurd hij (Nat.lt_irrefl _)

theorem InStride.hole (h : InStride num slots) : InStride num (slots ++ [none]) := by
  intro i j x y hij hi hj
  rcases getElem?_snoc hi with hold | ⟨_, hno⟩
  · rcases getElem?_snoc hj with hold' | ⟨_, hno⟩
    · exact h i j x y hij hold hold'
    · exact (nomatch hno)
  · exact (nomatch hno)

theorem Next.snoc {x : α} (h : Next num slots (num x)) :
    Next num (slots ++ [some x]) (num x + 1) := by
  intro i y hi
  rw [List.length_append, List.length_singleton]
  rcases getElem?_snoc hi with hold | ⟨rfl, hx⟩
  · have hnext := h i y hold
    have hinside := (List.getElem?_eq_some_iff.mp hold).1
    omega
  · obtain rfl := Option.some.inj hx
    omega

/-- Entries of consecutive numbers keep in stride. -/
theorem InStride.entries {xs : List α} {n : Nat} (h : InStride num slots)
    (hnext : Next num slots n) (hxs : ∀ k (hk : k < xs.length), num xs[k] = n + k) :
    InStride num (slots ++ xs.map some) := by
  induction xs generalizing slots n with
  | nil => rwa [List.map_nil, List.append_nil]
  | cons x xs ih =>
      have hx : num x = n := hxs 0 (Nat.succ_pos _)
      have hmore : slots ++ (x :: xs).map some = (slots ++ [some x]) ++ xs.map some := by simp
      rw [hmore]
      subst hx
      refine ih (h.snoc hnext) hnext.snoc ?_
      intro k hk
      have hlater := hxs (k + 1) (Nat.succ_lt_succ hk)
      rw [List.getElem_cons_succ] at hlater
      omega

theorem InStride.increasing (h : InStride num slots) :
    (stored slots).Pairwise fun x y => num x < num y := by
  unfold stored
  rw [List.pairwise_filterMap]
  rw [List.pairwise_iff_getElem]
  intro i j hi hj hij x hx y hy
  have hx' : slots[i]? = some (some x) := (List.getElem?_eq_getElem hi).trans (congrArg some hx)
  have hy' : slots[j]? = some (some y) := (List.getElem?_eq_getElem hj).trans (congrArg some hy)
  exact (h i j x y hij hx' hy').1

theorem InStride.reaches (h : InStride num slots) : Reaches num slots := by
  intro last hlast i x hi
  have hinside := (List.getElem?_eq_some_iff.mp hi).1
  have hmem : last ∈ stored slots := List.mem_of_getLast? hlast
  obtain ⟨j, hj⟩ := mem_stored.mp hmem
  have hjnside := (List.getElem?_eq_some_iff.mp hj).1
  rcases Nat.lt_trichotomy i j with hlt | rfl | hgt
  · have hstride := h i j x last hlt hi hj
    omega
  · rw [hi] at hj
    obtain rfl := Option.some.inj (Option.some.inj hj)
    omega
  · have hstride := h j i last x hgt hj hi
    omega

/-! ## §3. Two logs, one behind the other. -/

variable (num) in
/-- Both keep in stride, and the newer one continues the older. -/
structure Ordered (old new : List (Option α)) : Prop where
  newer : InStride num new
  older : InStride num old
  across : ∀ x ∈ stored old, ∀ y ∈ stored new, num x < num y

variable (num) in
/-- The newer log's next slot may hold the entry of this number. -/
def Follows (old new : List (Option α)) (n : Nat) : Prop :=
  Next num new n ∧ ∀ x ∈ stored old, num x < n

instance (old new : List (Option α)) (n : Nat) : Decidable (Follows num old new n) :=
  inferInstanceAs (Decidable (_ ∧ _))

variable {old new : List (Option α)}

/-- The newer log takes the place of the older. -/
theorem Ordered.turn (h : Ordered num old new) : Ordered num new [] where
  newer := inStride_nil
  older := h.newer
  across _ _ y hy := by cases hy

theorem Ordered.forget (h : Ordered num old new) : Ordered num [] new where
  newer := h.newer
  older := inStride_nil
  across x hx := by cases hx

theorem Ordered.hole (h : Ordered num old new) : Ordered num old (new ++ [none]) where
  newer := h.newer.hole
  older := h.older
  across x hx y hy := by
    rw [stored_append] at hy
    rcases List.mem_append.mp hy with hold | hno
    · exact h.across x hx y hold
    · cases hno

theorem Ordered.entries (h : Ordered num old new) {xs : List α} {n : Nat}
    (hfollows : Follows num old new n) (hxs : ∀ k (hk : k < xs.length), num xs[k] = n + k) :
    Ordered num old (new ++ xs.map some) where
  newer := h.newer.entries hfollows.1 hxs
  older := h.older
  across x hx y hy := by
    rw [stored_append, stored_map_some] at hy
    rcases List.mem_append.mp hy with hold | hlast
    · exact h.across x hx y hold
    · obtain ⟨k, hk, rfl⟩ := List.mem_iff_getElem.mp hlast
      have hless := hfollows.2 x hx
      have hnum := hxs k hk
      omega

theorem Ordered.snoc (h : Ordered num old new) {x : α} (hfollows : Follows num old new (num x)) :
    Ordered num old (new ++ [some x]) := by
  have hone : ∀ k (hk : k < [x].length), num [x][k] = num x + k := by
    intro k hk
    obtain rfl := Nat.lt_one_iff.mp hk
    rfl
  exact h.entries hfollows hone

theorem Ordered.increasing (h : Ordered num old new) :
    (stored old ++ stored new).Pairwise fun x y => num x < num y :=
  List.pairwise_append.mpr ⟨h.older.increasing, h.newer.increasing, h.across⟩

/-- The walks back over both find what lies below. -/
theorem Ordered.found (h : Ordered num old new) (before : Nat) :
    found num new before ++ found num old before =
      (stored old ++ stored new).reverse.filter (wanted num before) := by
  rw [h.newer.reaches.found, h.older.reaches.found]
  unfold below
  rw [List.filter_reverse, List.filter_append, List.reverse_append]

/-! ## §4. Page after page. -/

variable (num) in
/-- Pages until an empty one, each from the last number read; 0 starts at the newest. -/
def pages (read : Nat → List α) : Nat → Nat → List α
  | 0, _ => []
  | fuel + 1, before =>
      match (read before).getLast? with
      | none => []
      | some last => read before ++ pages read fuel (num last)

/-- Below an entry's number lie the entries behind it. -/
theorem filter_below {front back : List α} {x : α}
    (h : (front ++ x :: back).Pairwise fun a b => num b < num a) (hx : 0 < num x) :
    (front ++ x :: back).filter (wanted num (num x)) = back := by
  obtain ⟨_, hback, hcross⟩ := List.pairwise_append.mp h
  have hfront : front.filter (wanted num (num x)) = [] := by
    rw [List.filter_eq_nil_iff]
    intro y hy hwanted
    have hless : num x < num y := hcross y hy x List.mem_cons_self
    have hor : num x = 0 ∨ num y < num x := of_decide_eq_true hwanted
    omega
  have hself : wanted num (num x) x = false := decide_eq_false (by omega)
  have hrest : back.filter (wanted num (num x)) = back := by
    rw [List.filter_eq_self]
    intro y hy
    exact decide_eq_true (.inr ((List.pairwise_cons.mp hback).1 y hy))
  rw [List.filter_append, hfront, List.filter_cons, hself, hrest]
  rfl

/-- Every entry is on one page. -/
theorem pages_all {xs : List α} (horder : xs.Pairwise fun a b => num b < num a)
    (hpositive : ∀ x ∈ xs, 0 < num x) {cap : Nat} (hcap : 0 < cap) {read : Nat → List α}
    (hread : ∀ before, (before = 0 ∨ ∃ x ∈ xs, num x = before) →
      read before = (xs.filter (wanted num before)).take cap) {fuel : Nat}
    (hfuel : xs.length < fuel) : pages num read fuel 0 = xs := by
  -- What is behind the last page read is what lies below its last number.
  have hmore : ∀ fuel front back before, (before = 0 ∨ ∃ x ∈ xs, num x = before) →
      xs = front ++ back → xs.filter (wanted num before) = back → back.length < fuel →
      pages num read fuel before = back := by
    intro fuel
    induction fuel with
    | zero => exact fun _ _ _ _ _ _ hno => absurd hno (Nat.not_lt_zero _)
    | succ fuel ih =>
        intro front back before hbefore hxs hback hlength
        have hpage : read before = back.take cap := by rw [hread before hbefore, hback]
        rw [pages, hpage]
        cases hlast : (back.take cap).getLast? with
        | none =>
            have hnone := List.getLast?_eq_none_iff.mp hlast
            rcases List.take_eq_nil_iff.mp hnone with hzero | hnil
            · omega
            · exact hnil.symm
        | some last =>
            obtain ⟨page, hpages⟩ := List.getLast?_eq_some_iff.mp hlast
            have hsplit : xs = (front ++ page) ++ last :: back.drop cap := by
              rw [hxs]
              calc front ++ back = front ++ (back.take cap ++ back.drop cap) := by
                    rw [List.take_append_drop]
                _ = _ := by rw [hpages]; simp
            have hmem : last ∈ xs := by
              rw [hsplit]
              simp
            have hbelow : xs.filter (wanted num (num last)) = back.drop cap := by
              rw [hsplit]
              rw [hsplit] at horder
              exact filter_below horder (hpositive last hmem)
            have hshorter : (back.drop cap).length < fuel := by
              have hsome : back ≠ [] := by
                rintro rfl
                rw [List.take_nil] at hlast
                exact (nomatch hlast)
              have hlong := List.length_pos_of_ne_nil hsome
              rw [List.length_drop]
              omega
            have hnext := ih (front ++ page ++ [last]) (back.drop cap) (num last)
              (.inr ⟨last, hmem, rfl⟩) (by rw [hsplit]; simp) hbelow hshorter
            dsimp only
            rw [hnext, List.take_append_drop]
  have hall : xs.filter (wanted num 0) = xs := by
    rw [List.filter_eq_self]
    intro x _
    exact decide_eq_true (.inl rfl)
  exact hmore fuel [] xs 0 (.inl rfl) rfl hall hfuel

end SplitFlap.SkipBack
