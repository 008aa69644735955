/-
  SplitFlap.Board.Discipline — how the code of a board treats its window.

  Four things are known of a board at a moment of its run:

    • `calm`        — between two jobs: whatever acted, the window is armed;
    • `clear`       — a look let its task by: nothing sits in its bootloader;
    • `clearOf`     — a job began for these units outside their window;
    • `loose`       — a unit may have acted and the window is not armed yet.

  A `Discipline` says how they follow from one another; the code of both boards
  is run through it once, and each property of a run is one discipline.
-/
import SplitFlap.Board.UnitBus

namespace SplitFlap.Bus

open TaskM

variable {ρ κ β γ : Type}

@[simp] theorem Board.pass_millis (b : Board ρ) (ms : Nat) :
    (b.pass ms).millis = UInt32.ofNat (b.now + ms) := rfl

@[simp] theorem Board.note_now (b : Board ρ) (e : Nat → BoardEvent) : (b.note e).now = b.now := rfl

@[simp] theorem Board.note_log (b : Board ρ) (e : Nat → BoardEvent) :
    (b.note e).log = e b.now :: b.log := rfl

@[simp] theorem Board.note_until (b : Board ρ) (e : Nat → BoardEvent) :
    (b.note e).inhibitUntilMs = b.inhibitUntilMs := rfl

@[simp] theorem Board.note_millis (b : Board ρ) (e : Nat → BoardEvent) :
    (b.note e).millis = b.millis := rfl

theorem Board.pass_pass (b : Board ρ) (m n : Nat) : (b.pass m).pass n = b.pass (m + n) := by
  unfold Board.pass
  rw [Nat.add_assoc]

/-- The delay asked for, and the time it came late. -/
theorem delay_passes (b : Board ρ) (ms : Nat) :
    Sat (· = b) (delay ms : BoardTask ρ κ Unit) (fun _ b' => ∃ late, b' = b.pass (late + ms))
      (· = b) := by
  have hout : Sat (· = b) (outside : BoardTask ρ κ (Answer κ))
      (fun _ b' => ∃ late, b' = b.pass late) (· = b) := by
    refine Sat.bind (R := fun _ => (· = b)) (Sat.ask (fun _ _ h => h) fun _ h => h) fun a => ?_
    refine Sat.bind (R := fun _ b' => b' = b.pass a.ms) (Sat.modify ?_) fun _ =>
      Sat.pure _ fun b' h => ⟨a.ms, h⟩
    intro b' h
    rw [h]
  refine Sat.bind hout fun _ => Sat.modify ?_
  rintro b' ⟨late, rfl⟩
  exact ⟨late, Board.pass_pass b late ms⟩

/-- A look, as an event of the log. -/
theorem look_notes (held : UInt32 → UInt32 → Bool) (what : Waiting) (b : Board ρ) :
    Sat (· = b) (look held what : BoardTask ρ κ Bool)
      (fun v b' => v = held b.inhibitUntilMs b.millis ∧ b' = b.note (.looked what v)) (· = b) := by
  refine Sat.bind (R := fun c b' => c = b ∧ b' = b) (Sat.get fun _ h => ⟨h, h⟩) fun c => ?_
  refine Sat.bind (R := fun _ b' => c = b ∧
    b' = b.note (.looked what (held b.inhibitUntilMs b.millis))) (Sat.modify ?_) fun _ =>
      Sat.pure _ ?_
  · rintro b' ⟨hc, hb⟩
    rw [hc, hb]
    exact ⟨rfl, rfl⟩
  · rintro b' ⟨hc, hb⟩
    rw [hc]
    exact ⟨rfl, hb⟩

/-- How a look at the window divides the code. -/
structure Guard (ρ : Type) (held : UInt32 → UInt32 → Bool) where
  calm : Board ρ → Prop
  clear : Board ρ → Prop
  calm_bears : Bears held (fun _ => False) calm
  clear_bears : Bears held (fun _ => True) clear
  clear_calm : ∀ b, clear b → calm b
  /-- a look that does not hold -/
  passed : ∀ b what, calm b → held b.inhibitUntilMs b.millis = false →
    clear (b.note (.looked what false))

structure Discipline (ρ : Type) (held : UInt32 → UInt32 → Bool) extends Guard ρ held where
  clearOf : List Nat → Board ρ → Prop
  loose : Board ρ → Prop
  clearOf_bears : ∀ addrs, Bears held (· ∈ addrs) (clearOf addrs)
  loose_bears : Bears held (fun _ => False) loose
  calm_learns : Learns calm
  clear_learns : Learns clear
  clearOf_learns : ∀ addrs, Learns (clearOf addrs)
  loose_learns : Learns loose
  calm_clearOf : ∀ b, calm b → clearOf [] b
  clear_clearOf : ∀ addrs b, clear b → clearOf addrs b
  clearOf_calm : ∀ addrs b, clearOf addrs b → calm b
  clearOf_mono : ∀ addrs addrs' b, (∀ a ∈ addrs', a ∈ addrs) → clearOf addrs b → clearOf addrs' b
  calm_loose : ∀ b, calm b → loose b
  /-- what is left of the window, waited out -/
  settled : ∀ b ms, calm b → (b.inhibitUntilMs - b.millis).toNat ≤ ms → clear (b.pass ms)
  began : ∀ b addrs addrs', clearOf addrs b → clearOf (addrs ++ addrs') (b.note (.began addrs'))
  /-- a unit acts on an order -/
  acted : ∀ b dump addrs acked, calm b → loose (b.note (.acted dump addrs acked))
  armed : ∀ b, loose b → calm b.arm

/-- No acknowledgement of an order is lost, or nothing is said of the run. -/
def Discipline.Hears {held : UInt32 → UInt32 → Bool} (D : Discipline ρ held) : Prop :=
  ∀ b addrs, D.calm b → D.calm (b.note (.acted false addrs false))

/-- A discipline that does not depend on what the board keeps for itself. -/
structure FreeDiscipline (ρ : Type) (held : UInt32 → UInt32 → Bool) extends Discipline ρ held where
  calm_owns : Owns calm
  clear_owns : Owns clear
  clearOf_owns : ∀ addrs, Owns (clearOf addrs)
  loose_owns : Owns loose

/-! ## §1. Looks. -/

namespace Guard

variable {held : UInt32 → UInt32 → Bool} (G : Guard ρ held)

theorem look_sat (what : Waiting) :
    Sat G.calm (look held what : BoardTask ρ κ Bool)
      (fun v b => if v then G.calm b else G.clear b) G.calm := by
  refine Sat.each_state fun b hb => (look_notes held what b).mono (fun _ h => h) ?_ ?_
  · rintro v b' ⟨hv, rfl⟩
    cases v with
    | true =>
        have hlook := G.calm_bears.look b what hb
        rw [← hv] at hlook
        exact hlook
    | false => exact G.passed b what hb hv.symm
  · rintro _ rfl
    exact hb

/-- A look at the window and what follows on its two sides. -/
theorem look_guards {P : β → Board ρ → Prop} {C : Board ρ → Prop} (hcut : ∀ b, G.calm b → C b)
    (what : Waiting) {t u : BoardTask ρ κ β} (ht : Sat G.calm t P C) (hu : Sat G.clear u P C) :
    Sat G.calm (look held what >>= fun v => if v = true then t else u) P C := by
  refine Sat.bind ((G.look_sat what).mono (fun _ hb => hb) (fun _ _ hb => hb) hcut) fun v => ?_
  cases v with
  | true => exact ht
  | false => exact hu

theorem clear_calm_sat {t : BoardTask ρ κ β} (h : Keeps G.clear t) :
    Sat G.clear t (fun _ => G.calm) G.calm :=
  h.mono (fun _ hb => hb) (fun _ => G.clear_calm) G.clear_calm

end Guard

/-! ## §2. Orders. -/

namespace Discipline

variable {held : UInt32 → UInt32 → Bool} (D : Discipline ρ held)

/-- The code of a job, from calm to calm. -/
def Runs (t : BoardTask ρ κ β) : Prop := Sat D.calm t (fun _ => D.calm) D.loose

variable {D} {t : BoardTask ρ κ β} {f : β → BoardTask ρ κ γ}

theorem Runs.of_calm (h : Keeps D.calm t) : D.Runs t :=
  h.mono (fun _ hb => hb) (fun _ _ hb => hb) D.calm_loose

theorem of_clear (h : Keeps D.clear t) : Sat D.clear t (fun _ => D.calm) D.loose :=
  h.mono (fun _ hb => hb) (fun _ => D.clear_calm) fun b hb => D.calm_loose b (D.clear_calm b hb)

theorem of_clearOf {addrs : List Nat} (h : Keeps (D.clearOf addrs) t) :
    Sat (D.clearOf addrs) t (fun _ => D.calm) D.loose :=
  h.mono (fun _ hb => hb) (fun _ => D.clearOf_calm addrs)
    fun b hb => D.calm_loose b (D.clearOf_calm addrs b hb)

theorem clear_bind {P : γ → Board ρ → Prop} (ht : Keeps D.clear t)
    (hf : ∀ b, Sat D.clear (f b) P D.loose) : Sat D.clear (t >>= f) P D.loose :=
  Sat.bind (ht.mono (fun _ hb => hb) (fun _ _ hb => hb)
    fun b hb => D.calm_loose b (D.clear_calm b hb)) hf

theorem clearOf_bind {addrs : List Nat} {P : γ → Board ρ → Prop} (ht : Keeps (D.clearOf addrs) t)
    (hf : ∀ b, Sat (D.clearOf addrs) (f b) P D.loose) : Sat (D.clearOf addrs) (t >>= f) P D.loose :=
  Sat.bind (ht.mono (fun _ hb => hb) (fun _ _ hb => hb)
    fun b hb => D.calm_loose b (D.clearOf_calm addrs b hb)) hf

theorem Runs.bind (ht : D.Runs t) (hf : ∀ b, D.Runs (f b)) : D.Runs (t >>= f) := Sat.bind ht hf

theorem Runs.pure (b : β) : D.Runs (pure b : BoardTask ρ κ β) := Sat.pure b fun _ hb => hb

theorem Runs.ite {c : Prop} [Decidable c] {u : BoardTask ρ κ β} (ht : c → D.Runs t)
    (hu : ¬c → D.Runs u) : D.Runs (if c then t else u) := Sat.ite ht hu

theorem look_guards {P : β → Board ρ → Prop} (what : Waiting) {u : BoardTask ρ κ β}
    (ht : Sat D.calm t P D.loose) (hu : Sat D.clear u P D.loose) :
    Sat D.calm (look held what >>= fun v => if v = true then t else u) P D.loose :=
  D.toGuard.look_guards D.calm_loose what ht hu

/-- The job begins, and is outside the windows of the units it goes to. -/
theorem began_sat (addrs : List Nat) {P : β → Board ρ → Prop} {t : BoardTask ρ κ β}
    (ht : Sat (D.clearOf addrs) t P D.loose) :
    Sat D.calm (note (.began addrs) >>= fun _ => t) P D.loose :=
  Sat.bind (Sat.modify fun b hb => D.began b [] addrs (D.calm_clearOf b hb)) fun _ => ht

theorem unitActs_sat (dump : Bool) (a : Answer κ) :
    Sat D.calm (unitActs dump a : BoardTask ρ κ Unit) (fun _ => D.loose) D.loose := by
  unfold unitActs
  cases a.acts with
  | none => exact Sat.pure _ D.calm_loose
  | some addrs => exact Sat.modify fun b hb => D.acted b dump addrs a.ok hb

/-- After an order the window has to be armed. -/
theorem order_sat (opcode : UInt8) (addr : Nat) :
    Sat (D.clearOf [addr]) (order opcode addr : BoardTask ρ κ Bool) (fun _ => D.loose)
      D.loose := by
  have hsend := transact_keeps (D.clearOf_bears [addr]) (κ := κ) (.command opcode)
    (List.mem_singleton.mpr rfl)
  refine Sat.bind (of_clearOf hsend) fun a => Sat.bind (unitActs_sat false a) fun _ => ?_
  exact Sat.pure _ fun _ hb => hb

/-- Where no acknowledgement is lost, only after one. -/
theorem order_heard_sat (hears : D.Hears) (opcode : UInt8) (addr : Nat) :
    Sat (D.clearOf [addr]) (order opcode addr : BoardTask ρ κ Bool)
      (fun ok b => if ok then D.loose b else D.calm b) D.loose := by
  have hsend := transact_keeps (D.clearOf_bears [addr]) (κ := κ) (.command opcode)
    (List.mem_singleton.mpr rfl)
  refine Sat.bind (of_clearOf hsend) fun a => ?_
  refine Sat.bind (R := fun _ b => if a.ok then D.loose b else D.calm b) ?_ fun _ =>
    Sat.pure _ fun _ hb => hb
  cases hok : a.ok with
  | true => exact unitActs_sat false a
  | false =>
      unfold unitActs
      cases a.acts with
      | none => exact Sat.pure _ fun _ hb => hb
      | some addrs =>
          refine Sat.modify fun b hb => ?_
          rw [hok]
          exact hears b addrs hb

theorem arm_sat : Sat D.loose (armWindow : BoardTask ρ κ Unit) (fun _ => D.calm) D.loose :=
  Sat.modify D.armed

/-- Waiting out what is left of the window. -/
theorem settle_sat (what : Waiting) :
    Sat D.calm (do
      let b ← get
      if ← look held what then delay (b.inhibitUntilMs - b.millis).toNat else pure () :
      BoardTask ρ κ Unit) (fun _ => D.clear) D.loose := by
  refine Sat.each_state fun b hb => ?_
  have hcut : ∀ b', b' = b → D.loose b' := by
    rintro _ rfl
    exact D.calm_loose _ hb
  refine Sat.bind (R := fun c b' => c = b ∧ b' = b) (Sat.get fun _ h => ⟨h, h⟩) fun c => ?_
  refine Sat.each_state fun start hc => ?_
  obtain ⟨rfl, rfl⟩ := hc
  refine Sat.bind ((look_notes held what start).mono (fun _ h => h) (fun _ _ h => h) hcut) fun v => ?_
  refine Sat.each_state fun b' hv => ?_
  obtain ⟨hv, rfl⟩ := hv
  cases v with
  | false => exact Sat.pure _ fun b' h => h ▸ D.passed start what hb hv.symm
  | true =>
      have hnote : D.calm (start.note (.looked what true)) := by
        have hlook := D.calm_bears.look start what hb
        rw [← hv] at hlook
        exact hlook
      refine (delay_passes _ _).mono (fun _ h => h) ?_ ?_
      · rintro _ b' ⟨late, rfl⟩
        exact D.settled _ _ hnote (Nat.le_add_left _ late)
      · rintro _ rfl
        exact D.calm_loose _ hnote

end Discipline

/-! ## §3. Disciplines made of one another. -/

theorem Board.note_own (b : Board ρ) (e : Nat → BoardEvent) : (b.note e).own = b.own := rfl

theorem Board.arm_own (b : Board ρ) : b.arm.own = b.own := by
  unfold Board.arm
  rw [Board.note_own]

theorem Board.arm_units (b : Board ρ) : b.arm.units = b.units := by
  unfold Board.arm Board.note
  rfl

theorem Board.pass_own (b : Board ρ) (ms : Nat) : (b.pass ms).own = b.own := rfl

theorem Bears.also {held : UInt32 → UInt32 → Bool} {S : Nat → Prop} {J : Board ρ → Prop}
    (hJ : Bears held S J) (F : ρ → Prop) : Bears held S fun b => J b ∧ F b.own where
  data b b' hnow huntil hlog hunits hown h := by
    rw [hown]
    exact ⟨hJ.data b b' hnow huntil hlog hunits hown h.1, h.2⟩
  pass b ms h := by
    rw [Board.pass_own]
    exact ⟨hJ.pass b ms h.1, h.2⟩
  arm b h := by
    rw [Board.arm_own]
    exact ⟨hJ.arm b h.1, h.2⟩
  look b what h := by
    rw [Board.note_own]
    exact ⟨hJ.look b what h.1, h.2⟩
  send b msg addr haddr h := by
    rw [Board.note_own]
    exact ⟨hJ.send b msg addr haddr h.1, h.2⟩
  own b h := by
    rw [Board.note_own]
    exact ⟨hJ.own b h.1, h.2⟩

theorem Learns.also {J : Board ρ → Prop} (hJ : Learns J) (F : ρ → Prop) :
    Learns fun b => J b ∧ F b.own := fun b units h => ⟨hJ b units h.1, h.2⟩

theorem Bears.fewer {held : UInt32 → UInt32 → Bool} {S S' : Nat → Prop} {J : Board ρ → Prop}
    (hJ : Bears held S J) (hsub : ∀ addr, S' addr → S addr) : Bears held S' J where
  data := hJ.data
  pass := hJ.pass
  arm := hJ.arm
  look := hJ.look
  send := fun b msg addr haddr => hJ.send b msg addr (hsub addr haddr)
  own := hJ.own

/-- A discipline, and a fact about what the board keeps for itself. -/
def Discipline.within {held : UInt32 → UInt32 → Bool} (D : Discipline ρ held) (F : ρ → Prop) :
    Discipline ρ held where
  calm b := D.calm b ∧ F b.own
  clear b := D.clear b ∧ F b.own
  clearOf addrs b := D.clearOf addrs b ∧ F b.own
  loose b := D.loose b ∧ F b.own
  calm_bears := D.calm_bears.also F
  clear_bears := D.clear_bears.also F
  clearOf_bears addrs := (D.clearOf_bears addrs).also F
  loose_bears := D.loose_bears.also F
  calm_learns := D.calm_learns.also F
  clear_learns := D.clear_learns.also F
  clearOf_learns addrs := (D.clearOf_learns addrs).also F
  loose_learns := D.loose_learns.also F
  clear_calm b h := ⟨D.clear_calm b h.1, h.2⟩
  calm_clearOf b h := ⟨D.calm_clearOf b h.1, h.2⟩
  clear_clearOf addrs b h := ⟨D.clear_clearOf addrs b h.1, h.2⟩
  clearOf_calm addrs b h := ⟨D.clearOf_calm addrs b h.1, h.2⟩
  clearOf_mono addrs addrs' b hsub h := ⟨D.clearOf_mono addrs addrs' b hsub h.1, h.2⟩
  calm_loose b h := ⟨D.calm_loose b h.1, h.2⟩
  passed b what h hheld := by
    rw [Board.note_own]
    exact ⟨D.passed b what h.1 hheld, h.2⟩
  settled b ms h hms := by
    rw [Board.pass_own]
    exact ⟨D.settled b ms h.1 hms, h.2⟩
  began b addrs addrs' h := by
    rw [Board.note_own]
    exact ⟨D.began b addrs addrs' h.1, h.2⟩
  acted b dump addrs acked h := by
    rw [Board.note_own]
    exact ⟨D.acted b dump addrs acked h.1, h.2⟩
  armed b h := by
    rw [Board.arm_own]
    exact ⟨D.armed b h.1, h.2⟩

/-- The looks of a discipline while some units are known to be outside their
windows. -/
def Discipline.guardOf {held : UInt32 → UInt32 → Bool} (D : Discipline ρ held)
    (addrs : List Nat) : Guard ρ held where
  calm := D.clearOf addrs
  clear := D.clear
  calm_bears := (D.clearOf_bears addrs).fewer fun _ h => h.elim
  clear_bears := D.clear_bears
  clear_calm := D.clear_clearOf addrs
  passed b what h hheld := D.passed b what (D.clearOf_calm addrs b h) hheld

end SplitFlap.Bus
