/-
  SplitFlap.Lib.Trace — programs that talk to a world and write down what was
  said.

  A `Trace ε α` reads the log so far and returns an answer with the longer
  log.  The world is whatever functions of the log the program asks: an answer
  may depend on everything that was said before it, so a fixed world stands
  for any behaviour.  `none` is a program that has not come back (its loop ran
  out of fuel); the log it has written is there all the same.

  `Does ok m log post` is the one judgement: what `m` says after `log` is `ok`
  event by event, and if it comes back, `post` holds of the answer and the log.
-/
import Mathlib.Data.List.Basic

namespace SplitFlap

/-- A program over logs of `ε`. -/
def Trace (ε α : Type) : Type := List ε → Option α × List ε

namespace Trace

variable {ε α β : Type}

/-! ## §1. Programs. -/

def ret (a : α) : Trace ε α := fun log => (some a, log)

def andThen (m : Trace ε α) (f : α → Trace ε β) : Trace ε β := fun log =>
  match m log with
  | (some a, log) => f a log
  | (none, log) => (none, log)

instance : Monad (Trace ε) where
  pure := ret
  bind := andThen

/-- One event. -/
def say (e : ε) : Trace ε Unit := fun log => (some (), log ++ [e])

/-- A question to the world, written down with its answer. -/
def ask (world : List ε → α) (event : α → ε) : Trace ε α := fun log =>
  (some (world log), log ++ [event (world log)])

/-- A look at the world that leaves no mark. -/
def look (world : List ε → α) : Trace ε α := fun log => (some (world log), log)

/-- A loop that has run out of fuel. -/
def stuck : Trace ε α := fun log => (none, log)

/-! ## §2. The judgement. -/

/-- Every event of `said` is `ok` after `log` and what was said before it. -/
def Says (ok : List ε → ε → Prop) (log said : List ε) : Prop :=
  ∀ pre e post, said = pre ++ e :: post → ok (log ++ pre) e

def Does (ok : List ε → ε → Prop) (m : Trace ε α) (log : List ε)
    (post : α → List ε → Prop) : Prop :=
  ∃ said, (m log).2 = log ++ said ∧ Says ok log said ∧
    ∀ a, (m log).1 = some a → post a (log ++ said)

variable {ok : List ε → ε → Prop} {log : List ε}

theorem says_nil : Says ok log [] := by
  intro pre e post h
  simp at h

theorem says_one {e : ε} (h : ok log e) : Says ok log [e] := by
  intro pre e' post hsplit
  cases pre with
  | nil =>
      rw [List.nil_append, List.cons.injEq] at hsplit
      rw [← hsplit.1, List.append_nil]
      exact h
  | cons p pre => simp at hsplit

theorem Says.append {said more : List ε} (h : Says ok log said)
    (hmore : Says ok (log ++ said) more) : Says ok log (said ++ more) := by
  intro pre e post hsplit
  rcases List.append_eq_append_iff.mp hsplit with ⟨front, hpre, hmoresplit⟩ | ⟨front, hsaid, hrest⟩
  · rw [hpre, ← List.append_assoc]
    exact hmore front e post hmoresplit
  · cases front with
    | nil =>
        rw [List.append_nil] at hsaid
        rw [List.nil_append] at hrest
        subst hsaid
        have hfirst := hmore [] e post hrest.symm
        rwa [List.append_nil] at hfirst
    | cons f front =>
        rw [List.cons_append, List.cons.injEq] at hrest
        rw [← hrest.1] at hsaid
        exact h pre e front hsaid

theorem does_ret {a : α} {post : α → List ε → Prop} (h : post a log) :
    Does ok (ret a) log post := by
  refine ⟨[], (List.append_nil _).symm, says_nil, ?_⟩
  intro a' ha
  injection ha with ha
  rw [← ha, List.append_nil]
  exact h

theorem does_stuck {post : α → List ε → Prop} : Does ok (stuck : Trace ε α) log post :=
  ⟨[], (List.append_nil _).symm, says_nil, fun _ h => (nomatch h)⟩

theorem does_say {e : ε} {post : Unit → List ε → Prop} (he : ok log e)
    (h : post () (log ++ [e])) : Does ok (say e) log post :=
  ⟨[e], rfl, says_one he, fun _ _ => h⟩

theorem does_ask {world : List ε → α} {event : α → ε} {post : α → List ε → Prop}
    (he : ok log (event (world log))) (h : post (world log) (log ++ [event (world log)])) :
    Does ok (ask world event) log post := by
  refine ⟨[event (world log)], rfl, says_one he, ?_⟩
  intro a ha
  injection ha with ha
  rw [← ha]
  exact h

theorem does_look {world : List ε → α} {post : α → List ε → Prop} (h : post (world log) log) :
    Does ok (look world) log post := by
  refine ⟨[], (List.append_nil _).symm, says_nil, ?_⟩
  intro a ha
  injection ha with ha
  rw [← ha, List.append_nil]
  exact h

/-- Programs in sequence: the second starts from a longer log. -/
theorem does_bind {m : Trace ε α} {f : α → Trace ε β} {p : α → List ε → Prop}
    {post : β → List ε → Prop} (hm : Does ok m log p)
    (hf : ∀ a said, p a (log ++ said) → Does ok (f a) (log ++ said) post) :
    Does ok (m >>= f) log post := by
  obtain ⟨said, hlog, hspeech, hpost⟩ := hm
  show Does ok (andThen m f) log post
  unfold Does andThen
  rcases hrun : m log with ⟨answer, log'⟩
  rw [hrun] at hlog hpost
  dsimp only at hlog hpost ⊢
  subst hlog
  cases answer with
  | none => exact ⟨said, rfl, hspeech, fun _ h => (nomatch h)⟩
  | some a =>
      obtain ⟨more, hlog', hspeech', hpost'⟩ := hf a said (hpost a rfl)
      dsimp only
      refine ⟨said ++ more, ?_, hspeech.append hspeech', ?_⟩
      · rw [hlog', List.append_assoc]
      · intro b hb
        rw [← List.append_assoc]
        exact hpost' b hb

/-- Programs in sequence, when nothing need be known of the first. -/
theorem does_seq {m : Trace ε α} {f : α → Trace ε β} {post : β → List ε → Prop}
    (hm : Does ok m log fun _ _ => True) (hf : ∀ a said, Does ok (f a) (log ++ said) post) :
    Does ok (m >>= f) log post :=
  does_bind hm fun a said _ => hf a said

theorem does_ask_bind {world : List ε → α} {event : α → ε} {f : α → Trace ε β}
    {post : β → List ε → Prop} (he : ok log (event (world log)))
    (h : Does ok (f (world log)) (log ++ [event (world log)]) post) :
    Does ok (ask world event >>= f) log post := by
  refine does_bind (p := fun a log' => a = world log ∧ log' = log ++ [event (world log)])
    (does_ask he ⟨rfl, rfl⟩) ?_
  rintro a said ⟨rfl, hsaid⟩
  rw [hsaid]
  exact h

theorem does_say_bind {e : ε} {f : Unit → Trace ε β} {post : β → List ε → Prop}
    (he : ok log e) (h : Does ok (f ()) (log ++ [e]) post) :
    Does ok (say e >>= f) log post := by
  refine does_bind (p := fun _ log' => log' = log ++ [e]) (does_say he rfl) ?_
  intro a said hsaid
  rw [hsaid]
  exact h

theorem does_imp {m : Trace ε α} {post post' : α → List ε → Prop} (h : Does ok m log post)
    (himp : ∀ a said, post a (log ++ said) → post' a (log ++ said)) : Does ok m log post' := by
  obtain ⟨said, hlog, hspeech, hpost⟩ := h
  exact ⟨said, hlog, hspeech, fun a ha => himp a said (hpost a ha)⟩

/-- A program that says only what is `quiet`. -/
theorem does_weaken {ok' : List ε → ε → Prop} {m : Trace ε α} {post : α → List ε → Prop}
    (h : Does ok m log post) (hok : ∀ said e, ok (log ++ said) e → ok' (log ++ said) e) :
    Does ok' m log post := by
  obtain ⟨said, hlog, hspeech, hpost⟩ := h
  exact ⟨said, hlog, fun pre e post hsplit => hok pre e (hspeech pre e post hsplit), hpost⟩

/-! ## §3. Programs that come back. -/

/-- The program answers, whatever the log. -/
def Ends (m : Trace ε α) : Prop := ∀ log, (m log).1.isSome

theorem ends_ret (a : α) : Ends (ret a : Trace ε α) := fun _ => rfl

theorem ends_say (e : ε) : Ends (say e) := fun _ => rfl

theorem ends_ask (world : List ε → α) (event : α → ε) : Ends (ask world event) := fun _ => rfl

theorem ends_bind {m : Trace ε α} {f : α → Trace ε β} (hm : Ends m) (hf : ∀ a, Ends (f a)) :
    Ends (m >>= f) := by
  intro log
  show (andThen m f log).1.isSome
  unfold andThen
  have hsome := hm log
  rcases hrun : m log with ⟨answer, log'⟩
  rw [hrun] at hsome
  cases answer with
  | none => cases hsome
  | some a => exact hf a log'

/-! ## §4. What a program that comes back has said. -/

/-- After `log` the program answers, and `post` holds of the answer and of what
it said. -/
def Comes (m : Trace ε α) (log : List ε) (post : α → List ε → Prop) : Prop :=
  ∃ a said, m log = (some a, log ++ said) ∧ post a said

theorem comes_ret {a : α} {log : List ε} {post : α → List ε → Prop} (h : post a []) :
    Comes (ret a) log post :=
  ⟨a, [], by rw [List.append_nil]; rfl, h⟩

theorem comes_say {e : ε} {log : List ε} {post : Unit → List ε → Prop} (h : post () [e]) :
    Comes (say e) log post :=
  ⟨(), [e], rfl, h⟩

theorem comes_ask {world : List ε → α} {event : α → ε} {log : List ε}
    {post : α → List ε → Prop} (h : post (world log) [event (world log)]) :
    Comes (ask world event) log post :=
  ⟨world log, [event (world log)], rfl, h⟩

theorem comes_look {world : List ε → α} {log : List ε} {post : α → List ε → Prop}
    (h : post (world log) []) : Comes (look world) log post :=
  ⟨world log, [], by rw [List.append_nil]; rfl, h⟩

theorem comes_bind {m : Trace ε α} {f : α → Trace ε β} {log : List ε} {p : α → List ε → Prop}
    {post : β → List ε → Prop} (hm : Comes m log p)
    (hf : ∀ a said, p a said → Comes (f a) (log ++ said) fun b more => post b (said ++ more)) :
    Comes (m >>= f) log post := by
  obtain ⟨a, said, hrun, hp⟩ := hm
  obtain ⟨b, more, hrest, hpost⟩ := hf a said hp
  refine ⟨b, said ++ more, ?_, hpost⟩
  show andThen m f log = _
  unfold andThen
  rw [hrun]
  dsimp only
  rw [hrest, List.append_assoc]

theorem comes_ask_bind {world : List ε → α} {event : α → ε} {f : α → Trace ε β}
    {log : List ε} {post : β → List ε → Prop}
    (h : Comes (f (world log)) (log ++ [event (world log)]) fun b more =>
      post b (event (world log) :: more)) :
    Comes (ask world event >>= f) log post := by
  refine comes_bind (p := fun a said => a = world log ∧ said = [event (world log)])
    (comes_ask ⟨rfl, rfl⟩) ?_
  rintro a said ⟨rfl, rfl⟩
  exact h

theorem comes_say_bind {e : ε} {f : Unit → Trace ε β} {log : List ε}
    {post : β → List ε → Prop}
    (h : Comes (f ()) (log ++ [e]) fun b more => post b (e :: more)) :
    Comes (say e >>= f) log post := by
  refine comes_bind (p := fun _ said => said = [e]) (comes_say rfl) ?_
  rintro _ said rfl
  exact h

theorem comes_imp {m : Trace ε α} {log : List ε} {post post' : α → List ε → Prop}
    (h : Comes m log post) (himp : ∀ a said, post a said → post' a said) :
    Comes m log post' := by
  obtain ⟨a, said, hrun, hpost⟩ := h
  exact ⟨a, said, hrun, himp a said hpost⟩

end Trace

end SplitFlap
