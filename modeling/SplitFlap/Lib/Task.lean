/-
  SplitFlap.Lib.Task — blocking code that runs against an outside.

  A task is straight code with loops.  What it waits for (a reply on a bus, the
  time that goes by, the next command of a queue) it asks for, and a run is
  given a list of answers.  When the answers are used up the run stops where it
  is: a list of answers is a run up to some moment, and "for every list" is
  "at every moment of every run", loops that never end included.

    • `Sat`   — a Hoare triple whose last part holds wherever a run stops;
    • `Keeps` — an invariant: it holds before, after and wherever a run stops.
-/
import Mathlib.Init

namespace SplitFlap

/-- A task over the state `σ` that asks for answers `α` and ends with a `β`. -/
def TaskM (σ α β : Type) : Type := σ → List α → Option (β × List α) × σ

namespace TaskM

variable {σ α β γ : Type}

/-! ## §1. The code of a task. -/

instance : Monad (TaskM σ α) where
  pure b := fun s as => (some (b, as), s)
  bind t f := fun s as =>
    match t s as with
    | (some (b, rest), s') => f b s' rest
    | (none, s') => (none, s')

def get : TaskM σ α σ := fun s as => (some (s, as), s)

def modify (f : σ → σ) : TaskM σ α Unit := fun s as => (some ((), as), f s)

/-- The next answer of the outside. -/
def ask : TaskM σ α α := fun s as =>
  match as with
  | [] => (none, s)
  | a :: rest => (some (a, rest), s)

/-- At most `n` turns of a loop. -/
def turns (body : γ → TaskM σ α (γ ⊕ β)) : Nat → γ → TaskM σ α β
  | 0, _ => fun s _ => (none, s)
  | n + 1, c => do
      match ← body c with
      | .inl c' => turns body n c'
      | .inr b => pure b

/-- A loop: `.inl` goes round again, `.inr` leaves.  Each turn asks at least
once, so a run has no more turns than answers. -/
def iter (body : γ → TaskM σ α (γ ⊕ β)) (c : γ) : TaskM σ α β := fun s as =>
  turns body (as.length + 1) c s as

/-- The body again and again while it says so. -/
def whileTrue (body : TaskM σ α Bool) : TaskM σ α Unit :=
  iter (fun _ => do
    let again ← body
    pure (if again then .inl () else .inr ())) ()

/-- A loop that counts: `n` turns, each with what the one before it left. -/
def fold (body : γ → TaskM σ α γ) : Nat → γ → TaskM σ α γ
  | 0, c => pure c
  | n + 1, c => do
      let c' ← body c
      fold body n c'

def each (f : γ → TaskM σ α Unit) : List γ → TaskM σ α Unit
  | [] => pure ()
  | c :: cs => do
      f c
      each f cs

@[simp] theorem run_pure (b : β) (s : σ) (as : List α) :
    (pure b : TaskM σ α β) s as = (some (b, as), s) := rfl

@[simp] theorem run_bind (t : TaskM σ α β) (f : β → TaskM σ α γ) (s : σ) (as : List α) :
    (t >>= f) s as = match t s as with
      | (some (b, rest), s') => f b s' rest
      | (none, s') => (none, s') := rfl

@[simp] theorem run_get (s : σ) (as : List α) :
    (get : TaskM σ α σ) s as = (some (s, as), s) := rfl

@[simp] theorem run_modify (f : σ → σ) (s : σ) (as : List α) :
    (modify f : TaskM σ α Unit) s as = (some ((), as), f s) := rfl

@[simp] theorem run_ask (a : α) (s : σ) (as : List α) :
    (ask : TaskM σ α α) s (a :: as) = (some (a, as), s) := rfl

@[simp] theorem run_ask_nil (s : σ) : (ask : TaskM σ α α) s [] = (none, s) := rfl

/-- One turn of a loop that goes round again. -/
theorem turns_again {body : γ → TaskM σ α (γ ⊕ β)} {c c' : γ} {s s' : σ} {as rest : List α}
    (h : body c s as = (some (.inl c', rest), s')) (n : Nat) :
    turns body (n + 1) c s as = turns body n c' s' rest := by
  rw [turns, run_bind, h]

/-- The last turn of a run that stops in a loop. -/
theorem turns_stop {body : γ → TaskM σ α (γ ⊕ β)} {c : γ} {s s' : σ} {as : List α}
    (h : body c s as = (none, s')) (n : Nat) : turns body (n + 1) c s as = (none, s') := by
  rw [turns, run_bind, h]

/-- A run that came to its end. -/
theorem run_ended {r : Option (β × List α) × σ} {b : β} {rest : List α}
    (h : r.1 = some (b, rest)) : r = (some (b, rest), r.2) := by rw [← h]

/-- The state where the run stops. -/
def after (t : TaskM σ α β) (s : σ) (as : List α) : σ := (t s as).2

/-! ## §2. Triples. -/

/-- From a state with `P` the task ends with `Q`; where a run stops before
that, `C` holds. -/
def Sat (P : σ → Prop) (t : TaskM σ α β) (Q : β → σ → Prop) (C : σ → Prop) : Prop :=
  ∀ s as, P s →
    match t s as with
    | (some (b, _), s') => Q b s'
    | (none, s') => C s'

section Rules

variable {P P' C C' : σ → Prop} {Q Q' : β → σ → Prop} {t : TaskM σ α β}

theorem Sat.mono (h : Sat P t Q C) (hpre : ∀ s, P' s → P s) (hpost : ∀ b s, Q b s → Q' b s)
    (hcut : ∀ s, C s → C' s) : Sat P' t Q' C' := by
  intro s as hs
  have hrun := h s as (hpre s hs)
  revert hrun
  rcases t s as with ⟨_ | ⟨b, rest⟩, s'⟩
  · exact hcut s'
  · exact hpost b s'

/-- One run of a triple. -/
theorem Sat.run (h : Sat P t Q C) {s : σ} (hs : P s) (as : List α) :
    match t s as with
    | (some (b, _), s') => Q b s'
    | (none, s') => C s' := h s as hs

/-- A triple about the result alone, where every result will do. -/
theorem Sat.any (hpost : ∀ b s, Q b s) (hcut : ∀ s, C s) : Sat P t Q C := by
  intro s as _
  rcases t s as with ⟨_ | ⟨b, rest⟩, s'⟩
  · exact hcut s'
  · exact hpost b s'

theorem Sat.and (h : Sat P t Q C) (h' : Sat P t Q' C') :
    Sat P t (fun b s => Q b s ∧ Q' b s) (fun s => C s ∧ C' s) := by
  intro s as hs
  have hrun := h s as hs
  have hrun' := h' s as hs
  revert hrun hrun'
  rcases t s as with ⟨_ | ⟨b, rest⟩, s'⟩
  · exact fun hc hc' => ⟨hc, hc'⟩
  · exact fun hq hq' => ⟨hq, hq'⟩

/-- What is only owed where `φ` holds, of a task that never makes it hold. -/
theorem Sat.when {φ : σ → Prop} (h : Sat P t Q C)
    (hfalse : Sat (fun s => ¬φ s) t (fun _ s => ¬φ s) fun s => ¬φ s) :
    Sat (fun s => φ s → P s) t (fun b s => φ s → Q b s) (fun s => φ s → C s) := by
  intro s as hs
  have hrun := h s as
  have hrun' := hfalse s as
  revert hrun hrun'
  rcases t s as with ⟨_ | ⟨b, rest⟩, s'⟩
  · intro hrun hrun' hφ
    by_cases h0 : φ s
    · exact hrun (hs h0)
    · exact absurd hφ (hrun' h0)
  · intro hrun hrun' hφ
    by_cases h0 : φ s
    · exact hrun (hs h0)
    · exact absurd hφ (hrun' h0)

/-- What holds at the end and wherever a run stops. -/
theorem Sat.after {R : σ → Prop} (h : Sat P t Q C) (hpost : ∀ b s, Q b s → R s)
    (hcut : ∀ s, C s → R s) {s : σ} (hs : P s) (as : List α) : R (t.after s as) := by
  have hrun := h s as hs
  unfold TaskM.after
  revert hrun
  rcases t s as with ⟨_ | ⟨b, rest⟩, s'⟩
  · exact hcut s'
  · exact hpost b s'

theorem Sat.pre (h : Sat P t Q C) (hpre : ∀ s, P' s → P s) : Sat P' t Q C :=
  h.mono hpre (fun _ _ hq => hq) fun _ hc => hc

/-- A triple, one state at a time. -/
theorem Sat.each_state (h : ∀ s, P s → Sat (· = s) t Q C) : Sat P t Q C :=
  fun s as hs => h s hs s as rfl

theorem Sat.pure (b : β) (h : ∀ s, P s → Q b s) : Sat P (pure b : TaskM σ α β) Q C :=
  fun s _ hs => h s hs

theorem Sat.bind {R : β → σ → Prop} {Q : γ → σ → Prop} {f : β → TaskM σ α γ}
    (ht : Sat P t R C) (hf : ∀ b, Sat (R b) (f b) Q C) : Sat P (t >>= f) Q C := by
  intro s as hs
  have hrun := ht s as hs
  show match (match t s as with
    | (some (b, rest), s') => f b s' rest
    | (none, s') => (none, s')) with
    | (some (b, _), s') => Q b s'
    | (none, s') => C s'
  revert hrun
  rcases t s as with ⟨_ | ⟨b, rest⟩, s'⟩
  · exact id
  · exact hf b s' rest

theorem Sat.get {Q : σ → σ → Prop} (h : ∀ s, P s → Q s s) :
    Sat P (TaskM.get : TaskM σ α σ) Q C := fun s _ hs => h s hs

theorem Sat.modify {f : σ → σ} {Q : Unit → σ → Prop} (h : ∀ s, P s → Q () (f s)) :
    Sat P (TaskM.modify f : TaskM σ α Unit) Q C := fun s _ hs => h s hs

theorem Sat.ask {Q : α → σ → Prop} (hans : ∀ a s, P s → Q a s) (hcut : ∀ s, P s → C s) :
    Sat P (TaskM.ask : TaskM σ α α) Q C := by
  intro s as hs
  cases as with
  | nil => exact hcut s hs
  | cons a rest => exact hans a s hs

/-- A fact that is not about the state is there for the rest. -/
theorem Sat.fact {φ : Prop} (h : φ → Sat P t Q C) : Sat (fun s => P s ∧ φ) t Q C :=
  fun s as hs => h hs.2 s as hs.1

theorem Sat.ite {c : Prop} [Decidable c] {u : TaskM σ α β} (ht : c → Sat P t Q C)
    (hu : ¬c → Sat P u Q C) : Sat P (if c then t else u) Q C := by
  split
  · next h => exact ht h
  · next h => exact hu h

/-- A loop keeps its invariant, whatever the number of its turns. -/
theorem Sat.iter {I : γ → σ → Prop} {body : γ → TaskM σ α (γ ⊕ β)}
    (hbody : ∀ c, Sat (I c) (body c) (fun r s => Sum.elim (I · s) (Q · s) r) C)
    (hcut : ∀ c s, I c s → C s) (c : γ) : Sat (I c) (iter body c) Q C := by
  have hturns : ∀ n c, Sat (I c) (turns body n c) Q C := by
    intro n
    induction n with
    | zero => exact fun c s _ hs => hcut c s hs
    | succ n ih =>
        intro c
        refine Sat.bind (hbody c) ?_
        rintro (c' | b)
        · exact ih c'
        · exact Sat.pure b fun _ hs => hs
  exact fun s as hs => hturns _ c s as hs

/-- A counting loop, with what holds when so many turns are left. -/
theorem Sat.fold {I : Nat → γ → σ → Prop} {body : γ → TaskM σ α γ}
    (hbody : ∀ n c, Sat (I (n + 1) c) (body c) (fun c' => I n c') C) :
    ∀ n c, Sat (I n c) (fold body n c) (fun c' => I 0 c') C := by
  intro n
  induction n with
  | zero => exact fun c => Sat.pure c fun _ hs => hs
  | succ n ih => exact fun c => Sat.bind (hbody n c) ih

theorem Sat.whileTrue {I Q : σ → Prop} {body : TaskM σ α Bool}
    (hbody : Sat I body (fun again s => if again then I s else Q s) C)
    (hcut : ∀ s, I s → C s) : Sat I (whileTrue body) (fun _ => Q) C := by
  refine Sat.iter (I := fun _ => I) (fun _ => ?_) (fun _ => hcut) ()
  refine Sat.bind hbody fun again => Sat.pure _ fun s hs => ?_
  cases again with
  | true => exact hs
  | false => exact hs

end Rules

theorem Sat.each {J C : σ → Prop} {f : γ → TaskM σ α Unit} {cs : List γ}
    (hf : ∀ c ∈ cs, Sat J (f c) (fun _ => J) C) : Sat J (each f cs) (fun _ => J) C := by
  induction cs with
  | nil => exact Sat.pure () fun _ hs => hs
  | cons c cs ih =>
      refine Sat.bind (hf c (List.mem_cons_self ..)) fun _ => ih ?_
      intro c' hc'
      exact hf c' (List.mem_cons_of_mem c hc')

/-! ## §3. Invariants. -/

/-- `J` holds before, after and wherever a run stops. -/
def Keeps (J : σ → Prop) (t : TaskM σ α β) : Prop := Sat J t (fun _ => J) J

section Invariants

variable {J : σ → Prop} {t : TaskM σ α β}

theorem Keeps.after (h : Keeps J t) {s : σ} (hs : J s) (as : List α) : J (t.after s as) :=
  Sat.after h (fun _ _ hJ => hJ) (fun _ hJ => hJ) hs as

/-- A result that carries a fact. -/
theorem Keeps.bind_sat {φ : β → Prop} {f : β → TaskM σ α γ}
    (ht : Sat J t (fun b s => J s ∧ φ b) J) (hf : ∀ b, φ b → Keeps J (f b)) :
    Keeps J (t >>= f) := Sat.bind ht fun b => Sat.fact (hf b)

theorem Keeps.pure (b : β) : Keeps J (pure b : TaskM σ α β) := Sat.pure b fun _ hs => hs

theorem Keeps.bind {f : β → TaskM σ α γ} (ht : Keeps J t) (hf : ∀ b, Keeps J (f b)) :
    Keeps J (t >>= f) := Sat.bind ht hf

/-- What a task reads has the invariant. -/
theorem Keeps.bind_get {f : σ → TaskM σ α γ} (hf : ∀ s, J s → Keeps J (f s)) :
    Keeps J (TaskM.get >>= f) :=
  Sat.bind (Sat.get fun _ hs => ⟨hs, hs⟩) fun s => Sat.fact (hf s)

theorem Keeps.get : Keeps J (TaskM.get : TaskM σ α σ) := Sat.get fun _ hs => hs

theorem Keeps.modify {f : σ → σ} (h : ∀ s, J s → J (f s)) :
    Keeps J (TaskM.modify f : TaskM σ α Unit) := Sat.modify h

theorem Keeps.ask : Keeps J (TaskM.ask : TaskM σ α α) :=
  Sat.ask (fun _ _ hs => hs) fun _ hs => hs

theorem Keeps.ite {c : Prop} [Decidable c] {u : TaskM σ α β} (ht : c → Keeps J t)
    (hu : ¬c → Keeps J u) : Keeps J (if c then t else u) := Sat.ite ht hu

theorem Keeps.iter {body : γ → TaskM σ α (γ ⊕ β)} (hbody : ∀ c, Keeps J (body c)) (c : γ) :
    Keeps J (iter body c) := by
  refine Sat.iter (I := fun _ => J) (fun c => (hbody c).mono (fun _ hs => hs) ?_ fun _ hs => hs)
    (fun _ _ hs => hs) c
  rintro (c' | b) s hs
  · exact hs
  · exact hs

theorem Keeps.fold {body : γ → TaskM σ α γ} (hbody : ∀ c, Keeps J (body c)) (n : Nat) (c : γ) :
    Keeps J (fold body n c) :=
  Sat.fold (I := fun _ _ => J) (fun _ c => hbody c) n c

theorem Keeps.whileTrue {body : TaskM σ α Bool} (hbody : Keeps J body) :
    Keeps J (whileTrue body) :=
  Keeps.iter (fun _ => Keeps.bind hbody fun _ => Keeps.pure _) ()

theorem Keeps.each {f : γ → TaskM σ α Unit} {cs : List γ} (hf : ∀ c ∈ cs, Keeps J (f c)) :
    Keeps J (each f cs) := Sat.each hf

end Invariants

-- the rules above are the interface: a triple is not unfolded into its run
attribute [irreducible] Sat

end TaskM

end SplitFlap
