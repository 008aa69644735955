/-
  SplitFlap.Lib.Words — the words of a text.

  A word is a maximal run of letters, whatever counts as one.  The words of a
  text, in order and put together, are its letters (`flatten_words`).
-/
import Mathlib.Data.List.TakeWhile

namespace SplitFlap.Words

variable {α : Type*}

/-- The maximal runs of letters of a text. -/
def words (letter : α → Bool) : List α → List (List α)
  | [] => []
  | c :: rest =>
      if letter c then (c :: rest.takeWhile letter) :: words letter (rest.dropWhile letter)
      else words letter rest
termination_by text => text.length
decreasing_by
  · exact Nat.lt_succ_of_le (List.dropWhile_sublist _).length_le
  · exact Nat.lt_succ_self _

variable {letter : α → Bool} {c : α}

@[simp] theorem words_nil : words letter [] = [] := by
  unfold words
  rfl

theorem words_skip (hc : letter c = false) (rest : List α) :
    words letter (c :: rest) = words letter rest := by
  rw [words, hc]
  rfl

theorem words_cons (hc : letter c = true) (rest : List α) :
    words letter (c :: rest) =
      (c :: rest.takeWhile letter) :: words letter (rest.dropWhile letter) := by
  rw [words, hc]
  rfl

/-- What holds no letter may be left out in front. -/
theorem words_dropWhile {q : α → Bool} (hq : ∀ c, q c = true → letter c = false)
    (text : List α) : words letter (text.dropWhile q) = words letter text := by
  induction text with
  | nil => rfl
  | cons c rest ih =>
      rw [List.dropWhile_cons]
      split
      · next hc => rw [ih, words_skip (hq c hc)]
      · rfl

/-- The words of a text are its letters. -/
theorem flatten_words (text : List α) : (words letter text).flatten = text.filter letter := by
  induction hn : text.length using Nat.strongRecOn generalizing text with
  | _ n ih =>
      cases text with
      | nil => rw [words_nil]; rfl
      | cons c rest =>
          subst hn
          cases hc : letter c with
          | false =>
              rw [words_skip hc, List.filter_cons_of_neg (by simp [hc])]
              exact ih rest.length (Nat.lt_succ_self _) rest rfl
          | true =>
              have hshorter : (rest.dropWhile letter).length < (c :: rest).length :=
                Nat.lt_succ_of_le (List.dropWhile_sublist _).length_le
              have hparts : rest.filter letter =
                  (rest.takeWhile letter).filter letter ++
                    (rest.dropWhile letter).filter letter := by
                rw [← List.filter_append, List.takeWhile_append_dropWhile]
              have hall : (rest.takeWhile letter).filter letter = rest.takeWhile letter :=
                List.filter_eq_self.mpr fun d hd => List.mem_takeWhile_imp hd
              rw [words_cons hc, List.flatten_cons, ih _ hshorter _ rfl,
                List.filter_cons_of_pos hc, List.cons_append, hparts, hall]

end SplitFlap.Words
