/-
  SplitFlap.Board.HeldBack — when a bootloader window ends.

  A frame, a heartbeat read, a re-show and the scan owed after a restart wait
  for the window.  The window is over UNIT_PROBE_INHIBIT_MS after the arming,
  but its deadline stays in 32 bits for ever: 2^31 ms later the signed
  difference turns, and they wait again until the clock has gone round.
  `heldOnlyInWindow_iff` says at which looks that happens.
-/
import SplitFlap.Board.DisplayRuns
import SplitFlap.Board.RowRuns

namespace SplitFlap.Bus

open TaskM

variable {ρ κ : Type} {held : UInt32 → UInt32 → Bool}

/-! ## §1. Every look compares the deadline of the last arming. -/

theorem Sound.note {b : Board ρ} (h : Sound held b) {e : Nat → BoardEvent}
    (harmed : lastArmed (e b.now :: b.log) = lastArmed b.log)
    (hlooked : ∀ what v t, e b.now ≠ .looked what v t) : Sound held (b.note e) where
  until_eq := by
    rw [Board.note_until, Board.note_log, harmed]
    exact h.until_eq
  armed_le a ha := by
    rw [Board.note_log, harmed] at ha
    exact h.armed_le a ha
  looked what v t rest hsuffix := by
    rw [Board.note_log, List.suffix_cons_iff] at hsuffix
    rcases hsuffix with heq | hsuffix
    · exact absurd (List.cons.inj heq).1.symm (hlooked what v t)
    · exact h.looked what v t rest hsuffix

theorem Sound.noteLook {b : Board ρ} (h : Sound held b) (what : Waiting) :
    Sound held (b.note (.looked what (held b.inhibitUntilMs b.millis))) where
  until_eq := h.until_eq
  armed_le := h.armed_le
  looked what' v t rest hsuffix := by
    rw [Board.note_log, List.suffix_cons_iff] at hsuffix
    rcases hsuffix with heq | hsuffix
    · injection heq with hevent hrest
      injection hevent with _ hv ht
      rw [hv, ht, hrest, h.until_eq]
      exact ⟨rfl, h.armed_le⟩
    · exact h.looked what' v t rest hsuffix

theorem Sound.arm {b : Board ρ} (h : Sound held b) : Sound held b.arm where
  until_eq := by
    unfold Board.arm
    rw [Board.note_until, Board.note_log]
    rfl
  armed_le a ha := by
    unfold Board.arm at ha ⊢
    rw [Board.note_log] at ha
    exact Nat.le_of_eq (Option.some.inj ha).symm
  looked what v t rest hsuffix := by
    unfold Board.arm at hsuffix
    rw [Board.note_log, List.suffix_cons_iff] at hsuffix
    rcases hsuffix with heq | hsuffix
    · injection heq with hevent
      cases hevent
    · exact h.looked what v t rest hsuffix

theorem Sound.pass {b : Board ρ} (h : Sound held b) (ms : Nat) : Sound held (b.pass ms) where
  until_eq := h.until_eq
  armed_le a ha := Nat.le_trans (h.armed_le a ha) (Nat.le_add_right b.now ms)
  looked := h.looked

theorem Sound.of_eq {b b' : Board ρ} (hnow : b'.now = b.now)
    (huntil : b'.inhibitUntilMs = b.inhibitUntilMs) (hlog : b'.log = b.log) (h : Sound held b) :
    Sound held b' where
  until_eq := by
    rw [huntil, hlog]
    exact h.until_eq
  armed_le := by
    rw [hlog, hnow]
    exact h.armed_le
  looked := by
    rw [hlog]
    exact h.looked

theorem sound_bears (S : Nat → Prop) : Bears held S (Sound (ρ := ρ) held) where
  data _ _ hnow huntil hlog _ _ h := h.of_eq hnow huntil hlog
  pass _ ms h := h.pass ms
  arm _ h := h.arm
  look _ what h := h.noteLook what
  send _ _ _ _ h := h.note rfl (fun _ _ _ => BoardEvent.noConfusion)
  own _ h := h.note rfl (fun _ _ _ => BoardEvent.noConfusion)

theorem sound_learns : Learns (Sound (ρ := ρ) held) :=
  fun b _ h => Sound.of_eq (b := b) rfl rfl rfl h

theorem sound_owns : Owns (Sound (ρ := ρ) held) :=
  fun b _ h => Sound.of_eq (b := b) rfl rfl rfl h

/-- The discipline in which every moment is alike. -/
def soundDiscipline (ρ : Type) (held : UInt32 → UInt32 → Bool) : FreeDiscipline ρ held where
  calm := Sound held
  clear := Sound held
  clearOf _ := Sound held
  loose := Sound held
  calm_bears := sound_bears _
  clear_bears := sound_bears _
  clearOf_bears _ := sound_bears _
  loose_bears := sound_bears _
  calm_learns := sound_learns
  clear_learns := sound_learns
  clearOf_learns _ := sound_learns
  loose_learns := sound_learns
  calm_owns := sound_owns
  clear_owns := sound_owns
  clearOf_owns _ := sound_owns
  loose_owns := sound_owns
  clear_calm _ h := h
  calm_clearOf _ h := h
  clear_clearOf _ _ h := h
  clearOf_calm _ _ h := h
  clearOf_mono _ _ _ _ h := h
  calm_loose _ h := h
  passed _ what h hheld := hheld ▸ h.noteLook what
  settled _ ms h _ := h.pass ms
  began _ _ _ h := h.note rfl fun _ _ _ => BoardEvent.noConfusion
  acted _ _ _ _ h := h.note rfl fun _ _ _ => BoardEvent.noConfusion
  armed _ h := h.arm

theorem soundDiscipline_hears : (soundDiscipline ρ held).Hears :=
  fun _ _ h => h.note rfl fun _ _ _ => BoardEvent.noConfusion

/-- A board as its loop finds it: whatever armed the window during the start-up,
and nothing else, is in its log. -/
structure Starts (held : UInt32 → UInt32 → Bool) (b : Board ρ) : Prop where
  sound : Sound held b
  armings : ∀ e ∈ b.log, ∃ t, e = .armed t

theorem Sound.fresh {b : Board ρ} (huntil : b.inhibitUntilMs = 0) (hlog : b.log = []) :
    Sound held b where
  until_eq := by
    rw [huntil, hlog]
    rfl
  armed_le a ha := by
    rw [hlog] at ha
    exact absurd ha.symm (Option.some_ne_none a)
  looked what v t rest hsuffix := by
    rw [hlog, List.suffix_nil] at hsuffix
    exact absurd hsuffix (List.cons_ne_nil _ _)

theorem Starts.fresh {b : Board ρ} (huntil : b.inhibitUntilMs = 0) (hlog : b.log = []) :
    Starts held b where
  sound := Sound.fresh huntil hlog
  armings e he := by
    rw [hlog] at he
    exact absurd he List.not_mem_nil

theorem display_sound {b : Board Display} (hb : Sound twibootRiskHeld b)
    (as : List (Answer DisplayCommand)) : Sound twibootRiskHeld (displayTaskMain.after b as) := by
  have hrun := (soundDiscipline Display twibootRiskHeld).displayTaskMain_runs soundDiscipline_hears
  exact hrun.after (fun _ _ h => h) (fun _ h => h) hb as

theorem FreeDiscipline.idle_of_free (D : FreeDiscipline Row probeInhibitHeld) {b : Board Row}
    (hb : D.calm b) (hfree : b.own.opSlotBusy = false) : D.Idle b := by
  simp only [Row.opSlotBusy, Bool.or_eq_false_iff, Option.isSome_eq_false_iff,
    Option.isNone_iff_eq_none] at hfree
  obtain ⟨⟨⟨hop, hself⟩, hhome⟩, -⟩ := hfree
  have hnot : b.own.polled = [] := by
    unfold Row.polled
    rw [hself, hhome]
    rfl
  refine ⟨?_, fun _ => hnot⟩
  rw [hnot]
  exact D.calm_clearOf b hb

theorem row_sound {b : Board Row} (hb : Sound probeInhibitHeld b)
    (hfree : b.own.opSlotBusy = false) (as : List (Answer RowWork)) :
    Sound probeInhibitHeld (rowLoop.after b as) := by
  have hidle := (soundDiscipline Row probeInhibitHeld).idle_of_free hb hfree
  have hrun := (soundDiscipline Row probeInhibitHeld).rowLoop_runs
  exact hrun.after (fun _ _ h => h.1) (fun _ h => h) hidle as

/-! ## §2. Held back in the window, and long after it. -/

/-- What the window holds back for the wall's sake. -/
def Waiting.holdsBack : Waiting → Bool
  | .frame => true
  | .heartbeat => true
  | .reshow => true
  | .rescan => true
  | .probe => false
  | .settleRead => false
  | .rowMoving => false

/-- Nothing is held back but while the last arming is less than
UNIT_PROBE_INHIBIT_MS ago. -/
def HeldOnlyInWindow (log : List BoardEvent) : Prop :=
  ∀ what t rest, what.holdsBack = true → .looked what true t :: rest <:+ log →
    ∃ a, lastArmed rest = some a ∧ t < a + UNIT_PROBE_INHIBIT_MS

/-- The signed difference has not turned, or the window is open. -/
def LooksInTime (edge : Nat) (log : List BoardEvent) : Prop :=
  ∀ what v t rest, what.holdsBack = true → .looked what v t :: rest <:+ log →
    (∃ a, lastArmed rest = some a ∧ t < a + UNIT_PROBE_INHIBIT_MS) ∨
      (UNIT_PROBE_INHIBIT_MS ≤ sinceArmed (lastArmed rest) t % 2 ^ 32 ∧
        sinceArmed (lastArmed rest) t % 2 ^ 32 < edge)

theorem heldOnlyInWindow_iff {edge : Nat} (hcompares : Compares held edge) {b : Board ρ}
    (hb : Sound held b) : HeldOnlyInWindow b.log ↔ LooksInTime edge b.log := by
  constructor
  · intro hheld what v t rest hwhat hlook
    obtain ⟨hv, hle⟩ := hb.looked what v t rest hlook
    have hiff := hcompares (lastArmed rest) t hle
    rw [← hv] at hiff
    cases v with
    | true => exact .inl (hheld what t rest hwhat hlook)
    | false =>
        refine .inr ?_
        have hpast : ¬(sinceArmed (lastArmed rest) t % 2 ^ 32 < UNIT_PROBE_INHIBIT_MS ∨
            edge ≤ sinceArmed (lastArmed rest) t % 2 ^ 32) := fun h => Bool.noConfusion (hiff.mpr h)
        omega
  · intro htime what t rest hwhat hlook
    obtain ⟨hv, hle⟩ := hb.looked what true t rest hlook
    rcases htime what true t rest hwhat hlook with hopen | ⟨hpast, hedge⟩
    · exact hopen
    · have hheld := (hcompares (lastArmed rest) t hle).mp hv.symm
      omega

/-- The windows of both boards: from whatever start and at every moment of every
run, nothing is held back past the end of a window exactly when every look comes
before the signed difference turns. -/
theorem bootloader_window_ends_iff (as : List (Answer DisplayCommand))
    (rowAs : List (Answer RowWork)) :
    (∀ b, Starts twibootRiskHeld b →
      (HeldOnlyInWindow (displayTaskMain.after b as).log ↔
        LooksInTime (2 ^ 31 + UNIT_PROBE_INHIBIT_MS + 1) (displayTaskMain.after b as).log)) ∧
    (∀ b, Starts probeInhibitHeld b → b.own.opSlotBusy = false →
      (HeldOnlyInWindow (rowLoop.after b rowAs).log ↔
        LooksInTime (2 ^ 31 + UNIT_PROBE_INHIBIT_MS) (rowLoop.after b rowAs).log)) := by
  constructor
  · intro b hb
    exact heldOnlyInWindow_iff twibootRisk_compares (display_sound hb.sound as)
  · intro b hb hfree
    exact heldOnlyInWindow_iff probeInhibit_compares (row_sound hb.sound hfree rowAs)

/-- The answers of one idle wait on a row without units. -/
def idleTick : List (Answer DisplayCommand) := [{ ms := 3000 }, { value := 16 }, { value := 4 }]

theorem idleTick_log :
    (displayTaskMain.after { own := {} } idleTick).log = [.looked .heartbeat false 3000] := by
  decide +kernel

/-- One idle wait after the start: the master's heartbeat is not held back; nor
does a row board hold anything back before its first pass. -/
theorem bootloader_window_ends_idle :
    HeldOnlyInWindow (displayTaskMain.after { own := {} } idleTick).log ∧
      HeldOnlyInWindow (rowLoop.after { own := {} } []).log := by
  constructor
  · refine ((bootloader_window_ends_iff idleTick []).1 { own := {} } (Starts.fresh rfl rfl)).mpr ?_
    rw [idleTick_log]
    intro what v t rest _ hsuffix
    rw [List.suffix_cons_iff, List.suffix_nil] at hsuffix
    rcases hsuffix with heq | heq
    · injection heq with hevent hrest
      injection hevent with _ _ ht
      rw [ht, hrest]
      exact .inr (by decide)
    · exact absurd heq (List.cons_ne_nil _ _)
  · refine ((bootloader_window_ends_iff idleTick []).2 { own := {} } (Starts.fresh rfl rfl) rfl).mpr ?_
    intro what v t rest _ hsuffix
    exact absurd (List.suffix_nil.mp hsuffix) (List.cons_ne_nil _ _)

/-! ## §3. A master left alone for 25 days. -/

/-- A master that never armed its window and found no unit. -/
structure Deserted (b : Board Display) : Prop where
  none : ∀ i (h : i < UNITS_AMOUNT), b.units[i].state = 0
  width : b.displayWidth = 16
  until_zero : b.inhibitUntilMs = 0
  unarmed : lastArmed b.log = .none
  owed : b.own.probeOwedAfterRiskWindow = false

theorem idle_turn {b : Board Display} (hb : Deserted b)
    (hopen : twibootRiskHeld 0 (UInt32.ofNat (b.now + 3000)) = false)
    (rest : List (Answer DisplayCommand)) :
    ∃ b', displayTurn b (idleTick ++ rest) = (some ((), rest), b') ∧ Deserted b' ∧
      b'.now = b.now + 3000 := by
  have hslot := hb.none b.own.slot.val b.own.slot.isLt
  simp [-UInt32.ofNat_add, idleTick, displayTurn, outside, heartbeatTick, hb.width, hb.until_zero,
    hb.owed, look, note, setOwn, Board.note, Board.pass, Board.millis, hopen, unitBusPollHealthOne,
    setUnit, unitDrivable, hslot, millis, displayApplyUnitFacts, motionBudgetFold, rescueTick,
    setRescue, units_get, unitHeldRecheckDue, unitRescueDue, unitRescueObserve, unitIsLost, heartbeatApply]
  refine ⟨fun i hi => ?_, rfl, rfl, hb.unarmed, rfl⟩
  show (b.units.set b.own.slot.val _)[i].state = 0
  rw [Vector.getElem_set]
  split
  · rfl
  · exact hb.none i hi

/-- One turn of displayTask's loop. -/
def displayBody : Unit → DTask (Unit ⊕ Unit) := fun _ =>
  (displayTurn >>= fun _ => pure true) >>= fun again =>
    pure (if again then .inl () else .inr ())

theorem displayBody_again {b b' : Board Display} {as rest : List (Answer DisplayCommand)}
    (h : displayTurn b as = (some ((), rest), b')) :
    displayBody () b as = (some (.inl (), rest), b') := by
  simp [displayBody, h]

/-- The deadline is 0, and the clock not yet at 2^31. -/
theorem unarmed_open {t : Nat} (h : t ≤ 2 ^ 31) : twibootRiskHeld 0 (UInt32.ofNat t) = false := by
  have hiff := twibootRisk_compares none t fun _ ha => absurd ha (Option.some_ne_none _).symm
  rw [← Bool.not_eq_true, show (0 : UInt32) = deadline none from rfl, hiff]
  have hms : UNIT_PROBE_INHIBIT_MS = 3000 := rfl
  simp only [sinceArmed]
  omega

theorem unarmed_held : twibootRiskHeld 0 (UInt32.ofNat 2147484000) = true := by
  decide +kernel

theorem idle_turns (k m : Nat) {b : Board Display} (hb : Deserted b)
    (hlow : b.now + 3000 * k ≤ 2 ^ 31) (rest : List (Answer DisplayCommand)) :
    ∃ b', turns displayBody (m + k) () b ((List.replicate k idleTick).flatten ++ rest) =
      turns displayBody m () b' rest ∧ Deserted b' ∧ b'.now = b.now + 3000 * k := by
  induction k generalizing b with
  | zero => exact ⟨b, rfl, hb, rfl⟩
  | succ k ih =>
      have hopen : b.now + 3000 ≤ 2 ^ 31 := by grind
      obtain ⟨b₁, hturn, hb₁, hnow₁⟩ := idle_turn hb (unarmed_open hopen)
        ((List.replicate k idleTick).flatten ++ rest)
      obtain ⟨b', hrest, hb', hnow'⟩ := ih hb₁ (by grind)
      refine ⟨b', ?_, hb', by grind⟩
      rw [List.replicate_succ, List.flatten_cons, List.append_assoc, ← hrest]
      exact turns_again (displayBody_again hturn) (m + k)

/-- At the first wait past 2^31 ms the heartbeat holds itself back, and goes on
to. -/
theorem idle_held {b : Board Display} (hb : Deserted b) (hnow : b.now + 3000 = 2147484000)
    (n : Nat) : (turns displayBody (n + 2) () b [{ ms := 3000 }]).2.log =
      .looked .heartbeat true 2147484000 :: b.log := by
  have hturn : displayTurn b [{ ms := 3000 }] =
      (some ((), []), (b.pass 3000).note (.looked .heartbeat true)) := by
    have hheld := unarmed_held
    rw [← hnow] at hheld
    simp [-UInt32.ofNat_add, displayTurn, outside, heartbeatTick, hb.width, hb.until_zero, look,
      note, Board.note, Board.pass, Board.millis, hheld]
  have hstop : ∀ b', displayBody () b' [] = (none, b') := by
    intro b'
    simp [displayBody, displayTurn, outside]
  rw [turns_again (displayBody_again hturn) (n + 1), turns_stop (hstop _) n]
  show BoardEvent.looked .heartbeat true (b.now + 3000) :: b.log = _
  rw [hnow]

theorem displayTaskMain_log (b : Board Display) (as : List (Answer DisplayCommand)) :
    (displayTaskMain.after b as).log = (turns displayBody (as.length + 1) () b as).2.log := rfl

theorem idleTicks_length (k : Nat) (last : Answer DisplayCommand) :
    ((List.replicate k idleTick).flatten ++ [last]).length + 1 = 2 * k + 2 + k := by
  rw [List.length_append, List.length_flatten, List.map_replicate,
    List.sum_replicate_nat]
  show k * 3 + 1 + 1 = 2 * k + 2 + k
  omega

/-- A master whose units are all away and whose window was never armed: 2^31 ms
after its start the heartbeat holds itself back. -/
theorem heartbeat_held_without_window :
    ¬HeldOnlyInWindow (displayTaskMain.after { own := {} }
      ((List.replicate 715827 idleTick).flatten ++ [{ ms := 3000 }])).log := by
  have hstart : Deserted { own := {} } := ⟨fun _ _ => by simp, rfl, rfl, rfl, rfl⟩
  have hzero : (0 : Nat) + 3000 * 715827 ≤ 2 ^ 31 := by omega
  obtain ⟨b, hrun, hb, hnow⟩ := idle_turns 715827 (2 * 715827 + 2) hstart hzero [{ ms := 3000 }]
  have hnow : b.now + 3000 = 2147484000 := by
    rw [hnow]
  intro hheld
  rw [displayTaskMain_log, idleTicks_length, hrun, idle_held hb hnow] at hheld
  obtain ⟨a, harmed, -⟩ := hheld .heartbeat 2147484000 b.log rfl (List.suffix_refl _)
  rw [hb.unarmed] at harmed
  exact Option.some_ne_none a harmed.symm

end SplitFlap.Bus
