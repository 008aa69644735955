/-
  SplitFlap.Lib.Machine — partial step machines, their runs and invariants.

  A system here is a step function `σ → α → Option σ` over labels `α`: `none`
  is a label the state does not offer.  Everything proved about "every run"
  goes through the two induction rules of this file:

    • `run_invariant`   — what every step keeps, every run keeps,
    • `run_invariant_of_meets` — the same, where each step of the run is
      taken in a state that meets a side condition.

  The third part is for code that is a sequence of small moves: a relation
  `r` between states, its finite paths, and what a path keeps.
-/
import Mathlib.Logic.Relation

namespace SplitFlap.Machine

variable {σ α : Type*}

/-! ## §1. Runs. -/

/-- The state after the labels `as`, `none` when one of them is not offered. -/
def run (step : σ → α → Option σ) : σ → List α → Option σ
  | s, [] => some s
  | s, a :: as => (step s a).bind fun s' => run step s' as

@[simp] theorem run_nil (step : σ → α → Option σ) (s : σ) :
    run step s [] = some s := rfl

theorem run_cons (step : σ → α → Option σ) (s : σ) (a : α) (as : List α) :
    run step s (a :: as) = (step s a).bind fun s' => run step s' as := rfl

theorem run_append (step : σ → α → Option σ) (s : σ) (as bs : List α) :
    run step s (as ++ bs) = (run step s as).bind fun s' => run step s' bs := by
  induction as generalizing s with
  | nil => rfl
  | cons a as ih =>
      rw [List.cons_append, run_cons, run_cons]
      cases step s a with
      | none => rfl
      | some s' => exact ih s'

/-- What every step keeps, every run keeps. -/
theorem run_invariant {step : σ → α → Option σ} {P : σ → Prop}
    (hstep : ∀ s a s', P s → step s a = some s' → P s')
    {s s' : σ} {as : List α} (hs : P s) (hrun : run step s as = some s') : P s' := by
  induction as generalizing s with
  | nil =>
      rw [run_nil, Option.some.injEq] at hrun
      exact hrun ▸ hs
  | cons a as ih =>
      rw [run_cons, Option.bind_eq_some_iff] at hrun
      obtain ⟨m, hm, hrest⟩ := hrun
      exact ih (hstep s a m hs hm) hrest

/-! ## §2. Runs whose steps meet a condition. -/

/-- Every step of the run is taken in a state that meets `ok`. -/
def AllMeet (ok : σ → α → Prop) (step : σ → α → Option σ) : σ → List α → Prop
  | _, [] => True
  | s, a :: as => ok s a ∧ ∀ s', step s a = some s' → AllMeet ok step s' as

theorem run_invariant_of_meets {step : σ → α → Option σ} {ok : σ → α → Prop} {P : σ → Prop}
    (hstep : ∀ s a s', P s → ok s a → step s a = some s' → P s')
    {s s' : σ} {as : List α} (hs : P s) (hok : AllMeet ok step s as)
    (hrun : run step s as = some s') : P s' := by
  induction as generalizing s with
  | nil =>
      rw [run_nil, Option.some.injEq] at hrun
      exact hrun ▸ hs
  | cons a as ih =>
      rw [run_cons, Option.bind_eq_some_iff] at hrun
      obtain ⟨m, hm, hrest⟩ := hrun
      exact ih (hstep s a m hs hok.1 hm) (hok.2 m hm) hrest

theorem AllMeet.mono {step : σ → α → Option σ} {ok ok' : σ → α → Prop}
    (himp : ∀ s a, ok s a → ok' s a) {as : List α} {s : σ} (h : AllMeet ok step s as) :
    AllMeet ok' step s as := by
  induction as generalizing s with
  | nil => exact trivial
  | cons a as ih => exact ⟨himp s a h.1, fun s' hs' => ih (h.2 s' hs')⟩

theorem AllMeet.and {step : σ → α → Option σ} {ok ok' : σ → α → Prop} {as : List α} {s : σ}
    (h : AllMeet ok step s as) (h' : AllMeet ok' step s as) :
    AllMeet (fun s a => ok s a ∧ ok' s a) step s as := by
  induction as generalizing s with
  | nil => exact trivial
  | cons a as ih => exact ⟨⟨h.1, h'.1⟩, fun m hm => ih (h.2 m hm) (h'.2 m hm)⟩

/-- What an invariant gives in every state, every step of a run meets. -/
theorem AllMeet.of_invariant {step : σ → α → Option σ} {ok : σ → α → Prop} {P : σ → Prop}
    (hstep : ∀ s a s', P s → step s a = some s' → P s') (hok : ∀ s a, P s → ok s a) {s : σ}
    (hs : P s) (as : List α) : AllMeet ok step s as := by
  induction as generalizing s with
  | nil => exact trivial
  | cons a as ih => exact ⟨hok s a hs, fun s' hs' => ih (hstep s a s' hs hs')⟩

/-- Conditions that agree in every step of a run. -/
theorem AllMeet.iff_of {step : σ → α → Option σ} {ok ok' : σ → α → Prop} {as : List α} {s : σ}
    (h : AllMeet (fun s a => ok s a ↔ ok' s a) step s as) :
    AllMeet ok step s as ↔ AllMeet ok' step s as := by
  constructor
  · intro hok
    exact (hok.and h).mono fun _ _ hboth => hboth.2.mp hboth.1
  · intro hok
    exact (hok.and h).mono fun _ _ hboth => hboth.2.mpr hboth.1

theorem AllMeet.append {step : σ → α → Option σ} {ok : σ → α → Prop} {as bs : List α} {s : σ}
    (h : AllMeet ok step s as) (h' : ∀ m, run step s as = some m → AllMeet ok step m bs) :
    AllMeet ok step s (as ++ bs) := by
  induction as generalizing s with
  | nil => exact h' s rfl
  | cons a as ih =>
      refine ⟨h.1, fun s' hs' => ih (h.2 s' hs') fun m hm => h' m ?_⟩
      rw [run_cons, hs']
      exact hm

/-- A run in two parts. -/
theorem AllMeet.split {step : σ → α → Option σ} {ok : σ → α → Prop} {as bs : List α} {s m : σ}
    (h : AllMeet ok step s (as ++ bs)) (hrun : run step s as = some m) :
    AllMeet ok step s as ∧ AllMeet ok step m bs := by
  induction as generalizing s with
  | nil =>
      rw [run_nil, Option.some.injEq] at hrun
      subst hrun
      exact ⟨trivial, h⟩
  | cons a as ih =>
      rw [run_cons, Option.bind_eq_some_iff] at hrun
      obtain ⟨s', hs', hrest⟩ := hrun
      have hparts := ih (h.2 s' hs') hrest
      refine ⟨⟨h.1, ?_⟩, hparts.2⟩
      intro s'' hs''
      rw [hs', Option.some.injEq] at hs''
      subst hs''
      exact hparts.1

/-- The same, computed. -/
def allMeet (ok : σ → α → Bool) (step : σ → α → Option σ) : σ → List α → Bool
  | _, [] => true
  | s, a :: as =>
      ok s a &&
        match step s a with
        | some s' => allMeet ok step s' as
        | none => true

theorem AllMeet.of_allMeet {ok : σ → α → Bool} {step : σ → α → Option σ} {as : List α} {s : σ}
    (h : allMeet ok step s as = true) : AllMeet (fun s a => ok s a = true) step s as := by
  induction as generalizing s with
  | nil => exact trivial
  | cons a as ih =>
      unfold allMeet at h
      rw [Bool.and_eq_true] at h
      refine ⟨h.1, ?_⟩
      intro s' hs'
      rw [hs'] at h
      exact ih h.2

theorem AllMeet.of_decide {ok : σ → α → Prop} [∀ s a, Decidable (ok s a)]
    {step : σ → α → Option σ} {as : List α} {s : σ}
    (h : allMeet (fun s a => decide (ok s a)) step s as = true) : AllMeet ok step s as :=
  (AllMeet.of_allMeet h).mono fun _ _ => of_decide_eq_true

/-! ## §3. Paths of small moves. -/

/-- A finite path of moves. -/
abbrev Path (r : σ → σ → Prop) : σ → σ → Prop := Relation.ReflTransGen r

/-- What every move keeps, every path keeps. -/
theorem Path.keeps {r : σ → σ → Prop} {P : σ → Prop}
    (hmove : ∀ a b, P a → r a b → P b) {a b : σ} (hpath : Path r a b) (ha : P a) : P b := by
  induction hpath with
  | refl => exact ha
  | tail _ hlast ih => exact hmove _ _ ih hlast

/-- A loop over a list is a path when each turn of it is. -/
theorem Path.foldl {r : σ → σ → Prop} {f : σ → α → σ}
    (hturn : ∀ s a, Path r s (f s a)) (as : List α) (s : σ) : Path r s (as.foldl f s) := by
  induction as generalizing s with
  | nil => exact Relation.ReflTransGen.refl
  | cons a as ih => exact (hturn s a).trans (ih (f s a))

end SplitFlap.Machine
