/-
  SplitFlap.Lib.Log — logs that grow at the end.

  A system that writes down what it does has an invariant about its log: each
  event is in order given what came before it (`Each`), or the log is a word
  of an automaton (`accepts`).  Both are kept one event at a time
  (`each_snoc`, `accepts_snoc`).  `spent_le` bounds how often an automaton can
  do what costs it something.
-/
import Mathlib.Data.List.Basic

namespace SplitFlap.Log

variable {ε τ : Type*}

/-! ## §1. Every event in order. -/

/-- Every event is `ok` given what came before it. -/
def Each (ok : List ε → ε → Prop) (log : List ε) : Prop :=
  ∀ pre e post, log = pre ++ e :: post → ok pre e

theorem each_nil (ok : List ε → ε → Prop) : Each ok [] := by
  intro pre e post h
  simp at h

theorem each_snoc {ok : List ε → ε → Prop} {log : List ε} {e : ε} :
    Each ok (log ++ [e]) ↔ Each ok log ∧ ok log e := by
  constructor
  · intro h
    refine ⟨?_, h log e [] rfl⟩
    intro pre e' post hlog
    exact h pre e' (post ++ [e]) (by rw [hlog]; simp)
  · rintro ⟨hall, hlast⟩ pre e' post hlog
    rcases List.eq_nil_or_concat post with hpost | ⟨front, last, hpost⟩
    · subst hpost
      have hsplit := List.append_inj' hlog rfl
      rw [← hsplit.1, ← (List.cons.inj hsplit.2).1]
      exact hlast
    · rw [hpost, List.concat_eq_append, ← List.cons_append, ← List.append_assoc] at hlog
      exact hall pre e' front (List.append_inj' hlog rfl).1

/-! ## §2. Words of an automaton. -/

/-- The state an automaton reaches over a log; `none` when it refuses. -/
def accepts (step : τ → ε → Option τ) (init : τ) (log : List ε) : Option τ :=
  log.foldlM step init

@[simp] theorem accepts_nil (step : τ → ε → Option τ) (init : τ) :
    accepts step init [] = some init := rfl

theorem accepts_append (step : τ → ε → Option τ) (init : τ) (log more : List ε) :
    accepts step init (log ++ more) =
      (accepts step init log).bind fun q => accepts step q more := by
  unfold accepts
  rw [List.foldlM_append]
  rfl

theorem accepts_cons (step : τ → ε → Option τ) (init : τ) (e : ε) (log : List ε) :
    accepts step init (e :: log) = (step init e).bind fun q => accepts step q log := rfl

theorem accepts_snoc {step : τ → ε → Option τ} {init q q' : τ} {log : List ε} {e : ε}
    (h : accepts step init log = some q) (he : step q e = some q') :
    accepts step init (log ++ [e]) = some q' := by
  rw [accepts_append, h, Option.bind_some, accepts_cons, he]
  rfl

/-- What each step pays for out of `left`, a run pays for altogether. -/
theorem spent_le {step : τ → ε → Option τ} {left : τ → Nat} {cost : ε → Bool}
    {free : ε → Prop}
    (hpay : ∀ q e q', free e → step q e = some q' → (if cost e then 1 else 0) + left q' ≤ left q)
    {log : List ε} (hfree : ∀ e ∈ log, free e) {q q' : τ} (h : accepts step q log = some q') :
    log.countP cost + left q' ≤ left q := by
  induction log generalizing q with
  | nil =>
      rw [accepts_nil, Option.some.injEq] at h
      rw [h, List.countP_nil]
      omega
  | cons e log ih =>
      rw [accepts_cons, Option.bind_eq_some_iff] at h
      obtain ⟨m, hm, hrest⟩ := h
      have hstep := hpay q e m (hfree e List.mem_cons_self) hm
      have hlog := ih (fun e' he' => hfree e' (List.mem_cons_of_mem e he')) hrest
      rw [List.countP_cons]
      omega

end SplitFlap.Log
