/-
  SplitFlap.Board.Untouched — nothing reaches a unit inside its window.

  A unit that acted on an order sits in its bootloader for a while.  The boards
  arm their window for it and wait it out before they scan the row, write a
  frame or read on schedule.  Two ways past the window are left, and
  `bootloader_window_untouched` says that there is no third: on the master an
  order whose acknowledgement was lost, which arms nothing; on both boards the
  jobs that go to a unit without a look at the window (on a row board the
  segments among them).
-/
import SplitFlap.Board.HeldBack

namespace SplitFlap.Bus

open TaskM

variable {ρ κ : Type} {held : UInt32 → UInt32 → Bool}

/-! ## §1. Windows in a log. -/

/-- The unit at `addr` acted on an order less than UNIT_PROBE_INHIBIT_MS before
`t`. -/
def InWindow (log : List BoardEvent) (addr t : Nat) : Prop :=
  ∃ dump addrs acked s, .acted dump addrs acked s ∈ log ∧ addr ∈ addrs ∧
    t < s + UNIT_PROBE_INHIBIT_MS

/-- No transaction goes to a unit in its window. -/
def Untouched (log : List BoardEvent) : Prop :=
  ∀ msg addr t rest, .sent msg addr t :: rest <:+ log → ¬InWindow rest addr t

/-- What goes to a unit without a look begins outside its window. -/
def BeginsOutside (log : List BoardEvent) : Prop :=
  ∀ addrs t rest, .began addrs t :: rest <:+ log → ∀ addr ∈ addrs, ¬InWindow rest addr t

/-- Every order that a unit acted on was acknowledged, the dump's apart. -/
def Heard (log : List BoardEvent) : Prop :=
  ∀ addrs acked t, .acted false addrs acked t ∈ log → acked = true

/-- What is asked of a run, event by event. -/
structure Condition (M : List BoardEvent → Prop) : Prop where
  tail : ∀ e log, M (e :: log) → M log
  began : ∀ addrs t log, M (.began addrs t :: log) → ∀ addr ∈ addrs, ¬InWindow log addr t

theorem BeginsOutside.tail {e : BoardEvent} {log : List BoardEvent}
    (h : BeginsOutside (e :: log)) : BeginsOutside log :=
  fun addrs t rest hsuffix => h addrs t rest (hsuffix.trans (List.suffix_cons e log))

theorem BeginsOutside.head {addrs : List Nat} {t : Nat} {log : List BoardEvent}
    (h : BeginsOutside (.began addrs t :: log)) : ∀ addr ∈ addrs, ¬InWindow log addr t :=
  h addrs t log (List.suffix_refl _)

theorem rowCondition : Condition BeginsOutside where
  tail _ _ h := h.tail
  began _ _ _ h := h.head

theorem displayCondition : Condition fun log => Heard log ∧ BeginsOutside log where
  tail e _ h :=
    ⟨fun addrs acked t hmem => h.1 addrs acked t (List.mem_cons_of_mem e hmem), h.2.tail⟩
  began _ _ _ h := h.2.head

theorem InWindow.earlier {log : List BoardEvent} {addr t t' : Nat} (h : InWindow log addr t')
    (hle : t ≤ t') : InWindow log addr t := by
  obtain ⟨dump, addrs, acked, s, hmem, haddr, hlt⟩ := h
  exact ⟨dump, addrs, acked, s, hmem, haddr, Nat.lt_of_le_of_lt hle hlt⟩

theorem InWindow.of_cons {e : BoardEvent} {log : List BoardEvent} {addr t : Nat}
    (h : InWindow (e :: log) addr t) (he : ∀ dump addrs acked s, e ≠ .acted dump addrs acked s) :
    InWindow log addr t := by
  obtain ⟨dump, addrs, acked, s, hmem, haddr, hlt⟩ := h
  rcases List.mem_cons.mp hmem with heq | hmem
  · exact absurd heq.symm (he dump addrs acked s)
  · exact ⟨dump, addrs, acked, s, hmem, haddr, hlt⟩

/-! ## §2. What is known of a board. -/

/-- The orders acted on are past, and if the run met the condition no
transaction went astray. -/
structure Kept (held : UInt32 → UInt32 → Bool) (M : List BoardEvent → Prop) (b : Board ρ) :
    Prop where
  sound : Sound held b
  acted_le : ∀ dump addrs acked s, .acted dump addrs acked s ∈ b.log → s ≤ b.now
  untouched : M b.log → Untouched b.log

/-- What acted is past its window, or the window was armed since. -/
def Covered (b : Board ρ) : Prop :=
  ∀ dump addrs acked s, .acted dump addrs acked s ∈ b.log →
    s + UNIT_PROBE_INHIBIT_MS ≤ b.now ∨ ∃ a, lastArmed b.log = some a ∧ s ≤ a

/-- What acted is past its window. -/
def Past (b : Board ρ) : Prop :=
  ∀ dump addrs acked s, .acted dump addrs acked s ∈ b.log → s + UNIT_PROBE_INHIBIT_MS ≤ b.now

/-- These units are outside their windows. -/
def ClearOf (addrs : List Nat) (b : Board ρ) : Prop :=
  ∀ addr ∈ addrs, ¬InWindow b.log addr b.now

/-- Time passed, no unit acted, and the window was armed again or not at all. -/
structure Passes (b b' : Board ρ) : Prop where
  now_le : b.now ≤ b'.now
  acted : ∀ dump addrs acked s, .acted dump addrs acked s ∈ b'.log →
    .acted dump addrs acked s ∈ b.log
  armed : ∀ a, lastArmed b.log = some a → ∃ a', lastArmed b'.log = some a' ∧ a ≤ a'

def Steady (Q : Board ρ → Prop) : Prop := ∀ b b', Passes b b' → Q b → Q b'

theorem steady_true : Steady fun _ : Board ρ => True := fun _ _ _ _ => trivial

theorem Steady.and {Q R : Board ρ → Prop} (hQ : Steady Q) (hR : Steady R) :
    Steady fun b => Q b ∧ R b := fun b b' hp h => ⟨hQ b b' hp h.1, hR b b' hp h.2⟩

theorem covered_steady : Steady (Covered (ρ := ρ)) := by
  intro b b' hp h dump addrs acked s hmem
  rcases h dump addrs acked s (hp.acted _ _ _ _ hmem) with hpast | ⟨a, ha, hle⟩
  · exact .inl (Nat.le_trans hpast hp.now_le)
  · obtain ⟨a', ha', hle'⟩ := hp.armed a ha
    exact .inr ⟨a', ha', Nat.le_trans hle hle'⟩

theorem past_steady : Steady (Past (ρ := ρ)) :=
  fun _ _ hp h dump addrs acked s hmem =>
    Nat.le_trans (h dump addrs acked s (hp.acted _ _ _ _ hmem)) hp.now_le

theorem clearOf_steady (addrs : List Nat) : Steady (ClearOf (ρ := ρ) addrs) := by
  rintro b b' hp h addr haddr ⟨dump, addrs', acked, s, hmem, hin, hlt⟩
  refine h addr haddr ⟨dump, addrs', acked, s, hp.acted _ _ _ _ hmem, hin, ?_⟩
  exact Nat.lt_of_le_of_lt hp.now_le hlt

theorem Past.not_inWindow {b : Board ρ} (h : Past b) (addr : Nat) :
    ¬InWindow b.log addr b.now := by
  rintro ⟨dump, addrs, acked, s, hmem, -, hlt⟩
  exact absurd (h dump addrs acked s hmem) (Nat.not_le_of_lt hlt)

theorem Passes.pass (b : Board ρ) (ms : Nat) : Passes b (b.pass ms) where
  now_le := Nat.le_add_right b.now ms
  acted _ _ _ _ hmem := hmem
  armed a ha := ⟨a, ha, Nat.le_refl a⟩

theorem Passes.of_eq {b b' : Board ρ} (hnow : b'.now = b.now) (hlog : b'.log = b.log) :
    Passes b b' where
  now_le := Nat.le_of_eq hnow.symm
  acted _ _ _ _ hmem := hlog ▸ hmem
  armed a ha := ⟨a, hlog ▸ ha, Nat.le_refl a⟩

/-- One more event that is no act and no arming. -/
theorem Passes.note (b : Board ρ) {e : Nat → BoardEvent}
    (hacted : ∀ dump addrs acked s, e b.now ≠ .acted dump addrs acked s)
    (harmed : lastArmed (e b.now :: b.log) = lastArmed b.log) : Passes b (b.note e) where
  now_le := Nat.le_refl _
  acted dump addrs acked s hmem := by
    rw [Board.note_log] at hmem
    rcases List.mem_cons.mp hmem with heq | hmem
    · exact absurd heq.symm (hacted dump addrs acked s)
    · exact hmem
  armed a ha := ⟨a, by rw [Board.note_log, harmed, ha], Nat.le_refl a⟩

theorem Board.arm_log (b : Board ρ) : b.arm.log = .armed b.now :: b.log := by
  unfold Board.arm
  rw [Board.note_log]

theorem Board.arm_now (b : Board ρ) : b.arm.now = b.now := by
  unfold Board.arm
  rw [Board.note_now]

theorem Passes.arm {b : Board ρ} (h : Sound held b) : Passes b b.arm where
  now_le := Nat.le_of_eq b.arm_now.symm
  acted dump addrs acked s hmem := by
    rw [Board.arm_log] at hmem
    rcases List.mem_cons.mp hmem with heq | hmem
    · cases heq
    · exact hmem
  armed a ha := by
    rw [Board.arm_log]
    exact ⟨b.now, rfl, h.armed_le a ha⟩

/-! ## §3. A discipline that guards the windows. -/

/-- `Q`, as long as the run met the condition. -/
def Given (held : UInt32 → UInt32 → Bool) (M : List BoardEvent → Prop) (Q : Board ρ → Prop)
    (b : Board ρ) : Prop := Kept held M b ∧ (M b.log → Q b)

section Given

variable {M : List BoardEvent → Prop} {Q : Board ρ → Prop}

theorem Given.of_eq {b b' : Board ρ} (hQ : Steady Q) (hsound : Sound held b')
    (hnow : b'.now = b.now) (hlog : b'.log = b.log) (h : Given held M Q b) : Given held M Q b' := by
  refine ⟨⟨hsound, ?_, ?_⟩, ?_⟩
  · rw [hlog, hnow]
    exact h.1.acted_le
  · rw [hlog]
    exact h.1.untouched
  · intro hcond
    rw [hlog] at hcond
    exact hQ b b' (Passes.of_eq hnow hlog) (h.2 hcond)

theorem given_learns (hQ : Steady Q) : Learns (Given held M Q) :=
  fun b _ h => Given.of_eq (b := b) hQ (sound_learns b _ h.1.sound) rfl rfl h

theorem given_owns (hQ : Steady Q) : Owns (Given held M Q) :=
  fun b _ h => Given.of_eq (b := b) hQ (sound_owns b _ h.1.sound) rfl rfl h

theorem Given.pass {b : Board ρ} (hQ : Steady Q) (h : Given held M Q b) (ms : Nat) :
    Given held M Q (b.pass ms) where
  left :=
    { sound := h.1.sound.pass ms
      acted_le := fun dump addrs acked s hmem =>
        Nat.le_trans (h.1.acted_le dump addrs acked s hmem) (Nat.le_add_right b.now ms)
      untouched := h.1.untouched }
  right hcond := hQ b _ (Passes.pass b ms) (h.2 hcond)

theorem Given.mono {b : Board ρ} {R : Board ρ → Prop} (h : Given held M Q b)
    (himp : Q b → R b) : Given held M R b := ⟨h.1, fun hcond => himp (h.2 hcond)⟩

/-- A look that does not hold: the window is over. -/
theorem passed_past {edge : Nat} (hcompares : Compares held edge) {b : Board ρ}
    (hsound : Sound held b) (hcovered : Covered b)
    (hheld : held b.inhibitUntilMs b.millis = false) : Past b := by
  intro dump addrs acked s hmem
  rcases hcovered dump addrs acked s hmem with hpast | ⟨a, ha, hle⟩
  · exact hpast
  · have hiff := hcompares (lastArmed b.log) b.now hsound.armed_le
    rw [← hsound.until_eq, ha] at hiff
    have hopen : ¬(sinceArmed (some a) b.now % 2 ^ 32 < UNIT_PROBE_INHIBIT_MS ∨
        edge ≤ sinceArmed (some a) b.now % 2 ^ 32) :=
      fun h => Bool.noConfusion (hheld.symm.trans (hiff.mpr h))
    have hnow := hsound.armed_le a ha
    have hms : UNIT_PROBE_INHIBIT_MS = 3000 := rfl
    simp only [sinceArmed] at hopen
    omega

/-- What is left of the window, waited out. -/
theorem settled_past {b : Board ρ} (hsound : Sound held b) (hcovered : Covered b) {ms : Nat}
    (hms : (b.inhibitUntilMs - b.millis).toNat ≤ ms) : Past (b.pass ms) := by
  intro dump addrs acked s hmem
  show s + UNIT_PROBE_INHIBIT_MS ≤ b.now + ms
  rcases hcovered dump addrs acked s hmem with hpast | ⟨a, ha, hle⟩
  · exact Nat.le_trans hpast (Nat.le_add_right b.now ms)
  · have hsub := deadline_sub hsound.armed_le
    have hnow := hsound.armed_le a ha
    unfold Board.millis at hms
    rw [hsound.until_eq, hsub, ha] at hms
    have hinhibit : UNIT_PROBE_INHIBIT_MS = 3000 := rfl
    simp only [sinceArmed] at hms
    omega

variable (hM : Condition M)
include hM

/-- One more event, with what it must not be. -/
theorem Kept.cons {b b' : Board ρ} (h : Kept held M b) (hsound : Sound held b') {e : BoardEvent}
    (hnow : b'.now = b.now) (hlog : b'.log = e :: b.log)
    (hacted : ∀ dump addrs acked s, e = .acted dump addrs acked s → s = b.now)
    (hsent : M b'.log → ∀ msg addr t, e = .sent msg addr t → ¬InWindow b.log addr t) :
    Kept held M b' where
  sound := hsound
  acted_le dump addrs acked s hmem := by
    rw [hlog] at hmem
    rw [hnow]
    rcases List.mem_cons.mp hmem with heq | hmem
    · exact Nat.le_of_eq (hacted dump addrs acked s heq.symm)
    · exact h.acted_le dump addrs acked s hmem
  untouched hcond msg addr t rest hsuffix := by
    have htail := h.untouched (hM.tail e b.log (hlog ▸ hcond))
    rw [hlog, List.suffix_cons_iff] at hsuffix
    rcases hsuffix with heq | hsuffix
    · obtain ⟨hevent, hrest⟩ := List.cons.inj heq
      rw [hrest]
      exact hsent hcond msg addr t hevent.symm
    · exact htail msg addr t rest hsuffix

/-- An event that is no act and no transaction. -/
theorem Given.quiet {b b' : Board ρ} (hQ : Steady Q) (h : Given held M Q b)
    (hsound : Sound held b') {e : BoardEvent} (hpass : Passes b b') (hnow : b'.now = b.now)
    (hlog : b'.log = e :: b.log) (hacted : ∀ dump addrs acked s, e ≠ .acted dump addrs acked s)
    (hsent : ∀ msg addr t, e ≠ .sent msg addr t) : Given held M Q b' := by
  refine ⟨h.1.cons hM hsound hnow hlog ?_ ?_, fun hcond => ?_⟩
  · exact fun dump addrs acked s heq => absurd heq (hacted dump addrs acked s)
  · exact fun _ msg addr t heq => absurd heq (hsent msg addr t)
  · exact hQ b b' hpass (h.2 (hM.tail e b.log (hlog ▸ hcond)))

theorem Given.look {b : Board ρ} (hQ : Steady Q) (h : Given held M Q b) (what : Waiting) :
    Given held M Q (b.note (.looked what (held b.inhibitUntilMs b.millis))) :=
  h.quiet hM hQ (h.1.sound.noteLook what)
    (Passes.note b (fun _ _ _ _ => BoardEvent.noConfusion) rfl) rfl (Board.note_log b _)
    (fun _ _ _ _ => BoardEvent.noConfusion) fun _ _ _ => BoardEvent.noConfusion

theorem Given.arm {b : Board ρ} (hQ : Steady Q) (h : Given held M Q b) : Given held M Q b.arm :=
  h.quiet hM hQ h.1.sound.arm (Passes.arm h.1.sound) b.arm_now b.arm_log
    (fun _ _ _ _ => BoardEvent.noConfusion) fun _ _ _ => BoardEvent.noConfusion

theorem given_bears {S : Nat → Prop} (hQ : Steady Q)
    (hS : ∀ b addr, S addr → Q b → ¬InWindow b.log addr b.now) : Bears held S (Given held M Q) where
  data b b' hnow huntil hlog _ _ h := h.of_eq hQ (h.1.sound.of_eq hnow huntil hlog) hnow hlog
  pass _ ms h := h.pass hQ ms
  arm _ h := h.arm hM hQ
  look _ what h := h.look hM hQ what
  send b msg addr haddr h := by
    have hpass := Passes.note b (e := .sent msg addr) (fun _ _ _ _ => BoardEvent.noConfusion) rfl
    have hsound : Sound held (b.note (.sent msg addr)) :=
      h.1.sound.note rfl fun _ _ _ => BoardEvent.noConfusion
    have htail : M (b.note (.sent msg addr)).log → M b.log := fun hcond => hM.tail _ _ hcond
    refine ⟨h.1.cons hM hsound rfl (Board.note_log b _)
      (fun _ _ _ _ => BoardEvent.noConfusion) ?_, fun hcond => hQ b _ hpass (h.2 (htail hcond))⟩
    intro hcond msg' addr' t heq
    injection heq with _ haddr' ht
    rw [← haddr', ← ht]
    exact hS b addr haddr (h.2 (htail hcond))
  own b h := h.quiet hM hQ (h.1.sound.note rfl fun _ _ _ => BoardEvent.noConfusion)
    (Passes.note b (fun _ _ _ _ => BoardEvent.noConfusion) rfl) rfl (Board.note_log b _)
    (fun _ _ _ _ => BoardEvent.noConfusion) fun _ _ _ => BoardEvent.noConfusion

end Given

/-- The boards guard the windows of the units that acted, as long as the run
meets the condition. -/
def windowDiscipline (ρ : Type) {held : UInt32 → UInt32 → Bool} {M : List BoardEvent → Prop}
    (hM : Condition M) {edge : Nat} (hcompares : Compares held edge) : FreeDiscipline ρ held where
  calm := Given held M Covered
  clear := Given held M Past
  clearOf addrs := Given held M fun b => Covered b ∧ ClearOf addrs b
  loose := Given held M fun _ => True
  calm_bears := given_bears hM covered_steady fun _ _ hS => hS.elim
  clear_bears := given_bears hM past_steady fun _ addr _ h => h.not_inWindow addr
  clearOf_bears addrs := given_bears hM (covered_steady.and (clearOf_steady addrs))
    fun _ addr hS h => h.2 addr hS
  loose_bears := given_bears hM steady_true fun _ _ hS => hS.elim
  calm_learns := given_learns covered_steady
  clear_learns := given_learns past_steady
  clearOf_learns addrs := given_learns (covered_steady.and (clearOf_steady addrs))
  loose_learns := given_learns steady_true
  calm_owns := given_owns covered_steady
  clear_owns := given_owns past_steady
  clearOf_owns addrs := given_owns (covered_steady.and (clearOf_steady addrs))
  loose_owns := given_owns steady_true
  clear_calm _ h := h.mono fun hpast dump addrs acked s hmem =>
    .inl (hpast dump addrs acked s hmem)
  calm_clearOf _ h := h.mono fun hcovered => ⟨hcovered, fun _ haddr => absurd haddr List.not_mem_nil⟩
  clear_clearOf _ _ h := h.mono fun hpast =>
    ⟨fun dump addrs acked s hmem => .inl (hpast dump addrs acked s hmem),
      fun addr _ => hpast.not_inWindow addr⟩
  clearOf_calm _ _ h := h.mono fun h => h.1
  clearOf_mono _ _ _ hsub h := h.mono fun h => ⟨h.1, fun addr haddr => h.2 addr (hsub addr haddr)⟩
  calm_loose _ h := h.mono fun _ => trivial
  passed b what h hheld := by
    have hlook := h.look hM covered_steady what
    rw [hheld] at hlook
    refine ⟨hlook.1, fun hcond => ?_⟩
    have hpast := passed_past hcompares h.1.sound (h.2 (hM.tail _ _ hcond)) hheld
    exact past_steady b _ (Passes.note b (fun _ _ _ _ => BoardEvent.noConfusion) rfl) hpast
  settled b ms h hms :=
    ⟨(h.pass covered_steady ms).1, fun hcond => settled_past h.1.sound (h.2 hcond) hms⟩
  began b addrs addrs' h := by
    have hquiet : Given held M (fun b => Covered b ∧ ClearOf addrs b) (b.note (.began addrs')) :=
      h.quiet hM (covered_steady.and (clearOf_steady addrs))
      (h.1.sound.note rfl fun _ _ _ => BoardEvent.noConfusion)
      (Passes.note b (fun _ _ _ _ => BoardEvent.noConfusion) rfl) rfl (Board.note_log b _)
      (fun _ _ _ _ => BoardEvent.noConfusion) fun _ _ _ => BoardEvent.noConfusion
    refine ⟨hquiet.1, fun hcond => ⟨(hquiet.2 hcond).1, fun addr haddr => ?_⟩⟩
    rcases List.mem_append.mp haddr with haddr | haddr
    · exact (hquiet.2 hcond).2 addr haddr
    · exact fun hin => hM.began addrs' b.now b.log hcond addr haddr
        (hin.of_cons fun _ _ _ _ => BoardEvent.noConfusion)
  acted b dump addrs acked h := by
    refine ⟨h.1.cons hM (h.1.sound.note rfl fun _ _ _ => BoardEvent.noConfusion) rfl
      (Board.note_log b _) ?_ fun _ _ _ _ => BoardEvent.noConfusion, fun _ => trivial⟩
    intro _ _ _ s heq
    injection heq with _ _ _ hs
    exact hs.symm
  armed b h := by
    refine ⟨(h.arm hM steady_true).1, fun _ dump addrs acked s hmem => .inr ⟨b.now, ?_, ?_⟩⟩
    · rw [Board.arm_log]
      rfl
    · have hle := (h.arm hM steady_true).1.acted_le dump addrs acked s hmem
      rwa [Board.arm_now] at hle

/-! ## §4. The runs of both boards. -/

theorem Starts.given {b : Board ρ} (hb : Starts held b) {M : List BoardEvent → Prop}
    {Q : Board ρ → Prop} (hQ : (∀ dump addrs acked s, .acted dump addrs acked s ∉ b.log) → Q b) :
    Given held M Q b := by
  have hacted : ∀ dump addrs acked s, .acted dump addrs acked s ∉ b.log := by
    intro dump addrs acked s hmem
    obtain ⟨t, ht⟩ := hb.armings _ hmem
    cases ht
  refine ⟨⟨hb.sound, fun dump addrs acked s hmem => absurd hmem (hacted dump addrs acked s), ?_⟩,
    fun _ => hQ hacted⟩
  intro _ msg addr t rest hsuffix
  obtain ⟨t', ht'⟩ := hb.armings _ (hsuffix.subset List.mem_cons_self)
  cases ht'

theorem Starts.calm {b : Board ρ} (hb : Starts held b) {M : List BoardEvent → Prop}
    (hM : Condition M) {edge : Nat} (hcompares : Compares held edge) :
    (windowDiscipline ρ hM hcompares).calm b :=
  hb.given fun hacted dump addrs acked s hmem => absurd hmem (hacted dump addrs acked s)

/-- Nothing reaches a unit in its bootloader window, at any moment of any run: on
the master if every order a unit acted on was acknowledged and no job began in
its unit's window, on a row board if no job and no segment did. -/
theorem bootloader_window_untouched (as : List (Answer DisplayCommand))
    (rowAs : List (Answer RowWork)) :
    (∀ b, Starts twibootRiskHeld b →
      Heard (displayTaskMain.after b as).log → BeginsOutside (displayTaskMain.after b as).log →
        Untouched (displayTaskMain.after b as).log) ∧
    (∀ b, Starts probeInhibitHeld b → b.own.opSlotBusy = false →
      BeginsOutside (rowLoop.after b rowAs).log → Untouched (rowLoop.after b rowAs).log) := by
  constructor
  · intro b hb hheard hbegins
    let D := windowDiscipline Display displayCondition twibootRisk_compares
    have hhears : D.Hears := by
      intro b addrs h
      have hloose := D.acted b false addrs false h
      refine ⟨hloose.1, fun hcond => ?_⟩
      exact Bool.noConfusion (hcond.1 addrs false b.now List.mem_cons_self)
    have hend := (D.displayTaskMain_runs hhears).after (fun _ b' hb' => D.calm_loose b' hb')
      (fun _ hb' => hb') (hb.calm displayCondition twibootRisk_compares) as
    exact hend.1.untouched ⟨hheard, hbegins⟩
  · intro b hb hfree hbegins
    let D := windowDiscipline Row rowCondition probeInhibit_compares
    have hidle := D.idle_of_free (hb.calm rowCondition probeInhibit_compares) hfree
    have hend := D.rowLoop_runs.after (fun _ _ hb' => D.idle_loose hb') (fun _ hb' => hb') hidle
      rowAs
    exact hend.1.untouched hbegins

/-! ## §5. Two boards, one unit. -/

/-- One unit runs its sketch at address 1. -/
def oneUnit : Vector UnitFacts UNITS_AMOUNT :=
  (Vector.replicate UNITS_AMOUNT ({} : UnitFacts)).set 0 { state := 1 }

/-- The unit is sent through its bootloader, and a text is asked for 10 ms
later; `acked` says whether the board saw the acknowledgement. -/
def restartThenText (acked : Bool) : List (Answer DisplayCommand) :=
  [{ next := some (.rebootToBootloader 1) }, { ok := acked, acts := some [1] },
    { ms := 10, next := some (.showText (fun _ => 0) 80) }]

/-- A row board is sent the same job, and a segment is due 10 ms later. -/
def restartThenSegment : List (Answer RowWork) :=
  [{}, {}, { next := some (.stage (.rebootToBootloader 1)) }, {}, {}, {}, { acts := some [1] }, {},
    { ms := 10, next := some (.segment (fun _ => 0) 80 true) }, {}]

theorem lostAck_log :
    (displayTaskMain.after { own := {}, units := oneUnit } (restartThenText false ++ [{ ms := 0 }])).log =
      [.sent .rotation 1 10, .looked .frame false 10, .began [] 10, .acted false [1] false 0,
        .sent (.command SFP_CMD_ENTER_BOOTLOADER) 1 0, .began [1] 0] := by
  decide +kernel

theorem segment_log :
    (rowLoop.after { own := {}, units := oneUnit } restartThenSegment).log =
      [.sent .rotation 1 10, .began [1] 10, .looked .rescan true 0, .armed 0,
        .acted false [1] true 0, .sent (.command SFP_CMD_ENTER_BOOTLOADER) 1 0, .began [1] 0] := by
  decide +kernel

/-- The master polls the unit 10 ms after it acted on an order whose
acknowledgement was lost; a row board polls it for a segment although its window
is armed. -/
theorem unit_reached_in_window :
    ¬Untouched (displayTaskMain.after { own := {}, units := oneUnit }
      (restartThenText false ++ [{ ms := 0 }])).log ∧
    ¬Untouched (rowLoop.after { own := {}, units := oneUnit } restartThenSegment).log := by
  rw [lostAck_log, segment_log]
  constructor
  · intro h
    refine h .rotation 1 10 _ (List.suffix_refl _) ⟨false, [1], false, 0, ?_, by decide, by decide⟩
    simp
  · intro h
    refine h .rotation 1 10 _ (List.suffix_refl _) ⟨false, [1], true, 0, ?_, by decide, by decide⟩
    simp

theorem restart_log :
    (displayTaskMain.after { own := {}, units := oneUnit }
      (restartThenText true ++ [{ ms := 3000 }, { ms := 0 }])).log =
      [.sent .rotation 1 3030, .looked .frame false 3030, .looked .frame true 10, .began [] 10,
        .armed 0, .acted false [1] true 0, .sent (.command SFP_CMD_ENTER_BOOTLOADER) 1 0,
        .began [1] 0] := by
  decide +kernel

theorem rowRestart_log :
    (rowLoop.after { own := {}, units := oneUnit } (restartThenSegment.take 8)).log =
      [.looked .rescan true 0, .armed 0, .acted false [1] true 0,
        .sent (.command SFP_CMD_ENTER_BOOTLOADER) 1 0, .began [1] 0] := by
  decide +kernel

/-- The restart of a unit whose acknowledgement arrives: the text waits until the
window is over, and so does the scan a row board owes. -/
theorem bootloader_window_untouched_restart :
    Untouched (displayTaskMain.after { own := {}, units := oneUnit }
      (restartThenText true ++ [{ ms := 3000 }, { ms := 0 }])).log ∧
    Untouched (rowLoop.after { own := {}, units := oneUnit } (restartThenSegment.take 8)).log := by
  constructor
  · refine (bootloader_window_untouched _ []).1 _ (Starts.fresh rfl rfl) ?_ ?_
    · rw [restart_log]
      intro addrs acked t hmem
      simp at hmem
      exact hmem.2.1
    · rw [restart_log]
      intro addrs t rest hsuffix addr haddr
      simp [List.suffix_cons_iff] at hsuffix
      rcases hsuffix with ⟨⟨rfl, rfl⟩, rfl⟩ | ⟨⟨rfl, rfl⟩, rfl⟩
      · exact absurd haddr List.not_mem_nil
      · simp [InWindow]
  · refine (bootloader_window_untouched [] _).2 _ (Starts.fresh rfl rfl) rfl ?_
    rw [rowRestart_log]
    intro addrs t rest hsuffix addr haddr
    simp [List.suffix_cons_iff] at hsuffix
    obtain ⟨⟨rfl, rfl⟩, rfl⟩ := hsuffix
    simp [InWindow]

end SplitFlap.Bus
