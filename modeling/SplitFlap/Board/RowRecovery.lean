/-
  SplitFlap.Board.RowRecovery — a row whose unit bus died.

  `FollowerBus.cpp`: the heartbeat feeds the policy of `Board/BusRecovery`, and each
  attempt to bring the bus back probes the row anew where nobody has answered, or where
  what the last such probe found is still to be confirmed.  A probe anew forgets what
  the row knew, so it is made of no row of which somebody has answered, as long as a
  unit becomes known by a heartbeat (`InStep`).
-/
import SplitFlap.Board.BusRecovery
import SplitFlap.Board.Snapshot

namespace SplitFlap.BusRecovery

open Machine Clock
open Bus (UNITS_AMOUNT)

/-! ## §1. The row. -/

/-- What the row knows of a unit. -/
structure RowUnit where
  state : UInt8 := 0
  protocolKnown : Bool := false
  protocolSupported : Bool := false
  statusValid : Bool := false
  deriving DecidableEq

/-- What a scan finds at an address; a version that was read is one this row speaks, or
    not. -/
inductive Found where
  | silent
  | bootloader
  | sketch (version : Option Bool)

def Found.fact : Found → RowUnit
  | .silent => {}
  | .bootloader => { state := 2 }
  | .sketch none => { state := 1 }
  | .sketch (some supported) =>
      { state := 1, protocolKnown := true, protocolSupported := supported }

def followerUnitHasAnswered (f : RowUnit) : Bool :=
  f.state = 2 ∨ f.state = 1 ∧ (f.protocolKnown ∨ f.statusValid)

def followerUnitsAnswering (facts : List RowUnit) : Nat := facts.countP followerUnitHasAnswered

def unitDrivable (u : RowUnit) : Bool := u.state = 1 ∧ ¬(u.protocolKnown ∧ ¬u.protocolSupported)

/-- `busPollHealthOne`: the unit as a status read leaves it. -/
def polled (u : RowUnit) (ok : Bool) : RowUnit := { u with statusValid := unitDrivable u && ok }

/-- `busPollHealth`: every unit's. -/
def swept (facts : List RowUnit) (oks : List Bool) : List RowUnit :=
  (facts.zip oks).map fun u => polled u.1 u.2

structure Row where
  busRecovery : BusRecoveryState := {}
  unitFacts : List RowUnit := List.replicate UNITS_AMOUNT {}
  displayWidth : Nat := 0
  detectedUnitCount : Nat := 0
  now : Nat := 0
  /-- Has a unit answered since the last scan in which none did? -/
  answered : Bool := false
  /-- Did the recovery probe the row anew while one had? -/
  forgot : Bool := false

namespace Row

def millis (s : Row) : UInt32 := reading s.now

/-- `observeLiveness`. -/
def observeLiveness (s : Row) (i : Nat) (ok : Bool) : Row :=
  { s with busRecovery := (busRecoveryObserve s.busRecovery i ok s.millis s.displayWidth).1 }

/-- `busProbe`: every unit's facts are made anew. -/
def busProbe (s : Row) (found : List Found) : Row :=
  let facts := found.map Found.fact
  { s with
    unitFacts := facts
    detectedUnitCount := facts.countP fun f => f.state ≠ 0
    displayWidth := Shown.computeDisplayWidth (facts.map (·.state))
    answered := 0 < followerUnitsAnswering facts }

/-- `busPollHealth`, of a settled frame or a job. -/
def busPollHealth (s : Row) (oks : List Bool) : Row :=
  let facts := swept s.unitFacts oks
  { s with
    unitFacts := facts
    answered := s.answered || facts.any (·.statusValid) }

/-- The head of a heartbeat: a row of which nobody has answered is a dead bus. -/
def heartbeatHead (s : Row) : Row :=
  if followerUnitsAnswering s.unitFacts = 0 then
    { s with busRecovery := busRecoveryNoteEmptyRow s.busRecovery s.millis }
  else s

/-- What a probe anew leads to. -/
def reprobe (s : Row) (found : List Found) : Row :=
  let s := { s with forgot := s.forgot || s.answered }.busProbe found
  if s.unitFacts.any fun f => f.state = 2 ∨ f.protocolKnown then s.observeLiveness 0 true
  else { s with busRecovery := busRecoveryNoteReprobe s.busRecovery s.detectedUnitCount }

/-- `followerBusRecoveryTick`, behind the frame it may show again. -/
def followerBusRecoveryTick (s : Row) (wireStatus : UInt8) (found : List Found) : Row :=
  if busRecoveryDue s.busRecovery s.millis then
    let answering := followerUnitsAnswering s.unitFacts
    let s := { s with busRecovery := busRecoveryNoteAttempt s.busRecovery s.millis wireStatus }
    if busRecoveryReprobeDue s.busRecovery answering then s.reprobe found else s
  else s

/-- The rest of a heartbeat: one unit's status is read. -/
def heartbeatPoll (s : Row) (i : Nat) (ok : Bool) : Row :=
  match s.unitFacts[i]? with
  | none => s
  | some u =>
      if s.displayWidth = 0 ∨ s.detectedUnitCount = 0 then s
      else
        let ok := unitDrivable u && ok
        let s :=
          { s with
            unitFacts := s.unitFacts.set i (polled u ok)
            answered := s.answered || ok }
        if unitDrivable u then s.observeLiveness i ok else s

/-- `busInvalidateUnitReads`. -/
def busInvalidateUnitReads (s : Row) (i : Nat) : Row :=
  match s.unitFacts[i]? with
  | none => s
  | some u => { s with unitFacts := s.unitFacts.set i { u with statusValid := false } }

/-- The rescue of a lost unit finds it held in its bootloader; on a dead bus there is
    none. -/
def heldInBootloader (s : Row) (i : Nat) : Row :=
  if s.busRecovery.dead then s
  else
    match s.unitFacts[i]? with
    | none => s
    | some _ => { s with unitFacts := s.unitFacts.set i { state := 2 }, answered := true }

end Row

inductive RowStep where
  | busProbe (found : List Found)
  | busPollHealth (oks : List Bool)
  | heartbeatHead
  | recoveryTick (wireStatus : UInt8) (found : List Found)
  | heartbeatPoll (i : Nat) (ok : Bool)
  | invalidate (i : Nat)
  | held (i : Nat)
  | wait (ms : Nat)

def Row.step (s : Row) : RowStep → Option Row
  | .busProbe found => if found.length = UNITS_AMOUNT then some (s.busProbe found) else none
  | .busPollHealth oks =>
      if oks.length = UNITS_AMOUNT then some (s.busPollHealth oks) else none
  | .heartbeatHead => some s.heartbeatHead
  | .recoveryTick wireStatus found =>
      if found.length = UNITS_AMOUNT then some (s.followerBusRecoveryTick wireStatus found) else none
  | .heartbeatPoll i ok => some (s.heartbeatPoll i ok)
  | .invalidate i => some (s.busInvalidateUnitReads i)
  | .held i => some (s.heldInBootloader i)
  | .wait ms => some { s with now := s.now + ms }

/-! ## §2. Never probed anew. -/

/-- Outside the recovery no scan or sweep finds a unit that answers while a probe anew is
    still to be confirmed, and no failed read takes the row's last answer. -/
def Row.InStep (s : Row) : RowStep → Prop
  | .busProbe found => s.busRecovery.reprobeUnverified = true →
      followerUnitsAnswering (found.map Found.fact) = 0
  | .busPollHealth oks =>
      (s.busRecovery.reprobeUnverified = true →
        (swept s.unitFacts oks).any (·.statusValid) = false) ∧
      (0 < followerUnitsAnswering s.unitFacts →
        0 < followerUnitsAnswering (swept s.unitFacts oks))
  | .heartbeatPoll i ok => ∀ u ∈ s.unitFacts[i]?, 0 < followerUnitsAnswering s.unitFacts →
      0 < followerUnitsAnswering (s.unitFacts.set i (polled u ok))
  | .invalidate i => ∀ u ∈ s.unitFacts[i]?, 0 < followerUnitsAnswering s.unitFacts →
      0 < followerUnitsAnswering (s.unitFacts.set i { u with statusValid := false })
  | _ => True

instance (s : Row) : ∀ a, Decidable (s.InStep a)
  | .busProbe _ => inferInstanceAs (Decidable (_ → _))
  | .busPollHealth _ => inferInstanceAs (Decidable ((_ → _) ∧ (_ → _)))
  | .heartbeatPoll i _ => inferInstanceAs (Decidable (∀ u ∈ s.unitFacts[i]?, _ → _))
  | .invalidate i => inferInstanceAs (Decidable (∀ u ∈ s.unitFacts[i]?, _ → _))
  | .heartbeatHead | .recoveryTick _ _ | .held _ | .wait _ => inferInstanceAs (Decidable True)

structure Row.Kept (s : Row) : Prop where
  length : s.unitFacts.length = UNITS_AMOUNT
  known : s.answered = true → 0 < followerUnitsAnswering s.unitFacts
  unverified : s.busRecovery.reprobeUnverified = true →
    s.answered = false ∧ s.busRecovery.dead = true
  forgot : s.forgot = false

variable {s s' : Row} {w w' : Watched}

theorem answering_pos {facts : List RowUnit} :
    0 < followerUnitsAnswering facts ↔ ∃ f ∈ facts, followerUnitHasAnswered f = true :=
  List.countP_pos_iff

theorem valid_drivable {u : RowUnit} {ok : Bool} (h : (polled u ok).statusValid = true) :
    followerUnitHasAnswered (polled u ok) = true := by
  obtain ⟨hdrivable, _⟩ := Bool.and_eq_true_iff.mp h
  unfold unitDrivable at hdrivable
  rw [decide_eq_true_eq] at hdrivable
  exact decide_eq_true (.inr ⟨hdrivable.1, .inr h⟩)

/-- A failed read keeps what is unverified, and a dead bus dead. -/
theorem observe_bad (r : BusRecoveryState) (unitIndex : Int) (nowMs : UInt32) (rowWidth : Int) :
    (busRecoveryObserve r unitIndex false nowMs rowWidth).1.reprobeUnverified =
        r.reprobeUnverified ∧
      (r.dead = true → (busRecoveryObserve r unitIndex false nowMs rowWidth).1.dead = true) := by
  unfold busRecoveryObserve
  split
  · exact ⟨rfl, id⟩
  · show (observeBad r unitIndex nowMs rowWidth).1.reprobeUnverified = _ ∧
      (_ → (observeBad r unitIndex nowMs rowWidth).1.dead = true)
    unfold observeBad
    dsimp only
    split
    · exact ⟨rfl, id⟩
    · split
      · exact ⟨rfl, id⟩
      · exact ⟨rfl, fun _ => rfl⟩

/-- A good read leaves nothing unverified. -/
theorem observe_good (r : BusRecoveryState) {unitIndex rowWidth : Int} (nowMs : UInt32)
    (hread : isRead unitIndex rowWidth = true) :
    (busRecoveryObserve r unitIndex true nowMs rowWidth).1.reprobeUnverified = false := by
  unfold busRecoveryObserve
  rw [hread]
  show (observeGood r nowMs).1.reprobeUnverified = false
  unfold observeGood
  dsimp only
  split
  · rfl
  · rfl

theorem width_pos {states : List UInt8} (h : states ≠ []) :
    0 < Shown.computeDisplayWidth states := by
  have hlength := List.length_pos_of_ne_nil h
  unfold Shown.computeDisplayWidth
  dsimp only
  split
  · exact hlength
  · next hwidth => exact Nat.pos_of_ne_zero hwidth

theorem Row.Kept.start : Row.Kept {} where
  length := rfl
  known h := by cases h
  unverified h := by cases h
  forgot := rfl

theorem Row.Kept.busProbe (h : s.Kept) {found : List Found} (hlength : found.length = UNITS_AMOUNT)
    (hok : s.busRecovery.reprobeUnverified = true →
      followerUnitsAnswering (found.map Found.fact) = 0) : (s.busProbe found).Kept where
  length := by
    show (found.map Found.fact).length = UNITS_AMOUNT
    rw [List.length_map, hlength]
  known hanswered := of_decide_eq_true hanswered
  unverified hflag := by
    refine ⟨?_, (h.unverified hflag).2⟩
    show decide (0 < followerUnitsAnswering (found.map Found.fact)) = false
    rw [hok hflag]
    rfl
  forgot := h.forgot

theorem Row.Kept.busPollHealth (h : s.Kept) {oks : List Bool} (hlength : oks.length = UNITS_AMOUNT)
    (hok : s.InStep (.busPollHealth oks)) : (s.busPollHealth oks).Kept where
  length := by
    show ((s.unitFacts.zip oks).map _).length = UNITS_AMOUNT
    rw [List.length_map, List.length_zip, h.length, hlength, Nat.min_self]
  known hanswered := by
    rcases Bool.or_eq_true_iff.mp hanswered with hold | hnew
    · exact hok.2 (h.known hold)
    · obtain ⟨f, hf, hvalid⟩ := List.any_eq_true.mp hnew
      obtain ⟨u, _, rfl⟩ := List.mem_map.mp hf
      exact answering_pos.mpr ⟨_, hf, valid_drivable hvalid⟩
  unverified hflag := by
    obtain ⟨hnobody, hdead⟩ := h.unverified hflag
    refine ⟨?_, hdead⟩
    show (s.answered || _) = false
    rw [hnobody, hok.1 hflag]
    rfl
  forgot := h.forgot

theorem Row.Kept.heartbeatHead (h : s.Kept) : s.heartbeatHead.Kept := by
  unfold Row.heartbeatHead
  split
  · have hsame : (busRecoveryNoteEmptyRow s.busRecovery s.millis).reprobeUnverified =
          s.busRecovery.reprobeUnverified ∧
        (s.busRecovery.dead = true →
          (busRecoveryNoteEmptyRow s.busRecovery s.millis).dead = true) := by
      unfold busRecoveryNoteEmptyRow
      split
      · exact ⟨rfl, id⟩
      · exact ⟨rfl, fun _ => rfl⟩
    refine { h with unverified := ?_ }
    intro hflag
    obtain ⟨hnobody, hdead⟩ := h.unverified (hsame.1.symm.trans hflag)
    exact ⟨hnobody, hsame.2 hdead⟩
  · exact h

/-- Nobody has answered on a row that is probed anew. -/
theorem Row.Kept.nobody (h : s.Kept)
    (hdue : busRecoveryReprobeDue s.busRecovery (followerUnitsAnswering s.unitFacts) = true) :
    s.answered = false := by
  rcases Bool.or_eq_true_iff.mp hdue with hempty | hflag
  · have hempty : followerUnitsAnswering s.unitFacts = 0 := Int.ofNat_eq_zero.mp (of_decide_eq_true hempty)
    cases hanswered : s.answered with
    | false => rfl
    | true =>
        have hsome := h.known hanswered
        omega
  · exact (h.unverified hflag).1

theorem Row.Kept.reprobe (h : s.Kept) {found : List Found} (hlength : found.length = UNITS_AMOUNT)
    (hnobody : s.answered = false) (hdead : s.busRecovery.dead = true) :
    (s.reprobe found).Kept := by
  have hforgot : (s.forgot || s.answered) = false := by
    rw [h.forgot, hnobody]
    rfl
  have hfacts : (found.map Found.fact).length = UNITS_AMOUNT := by rw [List.length_map, hlength]
  unfold Row.reprobe
  dsimp only
  split
  · next hreplied =>
      obtain ⟨f, hf, _⟩ := List.any_eq_true.mp hreplied
      have hf : f ∈ found.map Found.fact := hf
      have hsome : (found.map Found.fact).map (·.state) ≠ [] :=
        List.ne_nil_of_mem (List.mem_map_of_mem hf)
      have hwide := width_pos hsome
      have hread : isRead (0 : Nat)
          (Shown.computeDisplayWidth ((found.map Found.fact).map (·.state)) : Nat) = true := by
        unfold isRead
        rw [decide_eq_true_eq]
        omega
      refine ⟨hfacts, fun hanswered => of_decide_eq_true hanswered, ?_, hforgot⟩
      intro hflag
      have hclear := observe_good s.busRecovery s.millis hread
      exact absurd (hflag.symm.trans hclear) (by decide)
  · next hsilent =>
      have hnone : followerUnitsAnswering (found.map Found.fact) = 0 := by
        by_contra hsome
        obtain ⟨f, hf, hanswers⟩ := answering_pos.mp (Nat.pos_of_ne_zero hsome)
        apply hsilent
        apply List.any_eq_true.mpr
        refine ⟨f, hf, ?_⟩
        obtain ⟨g, _, rfl⟩ := List.mem_map.mp hf
        cases g with
        | silent => cases hanswers
        | bootloader => rfl
        | sketch version =>
            cases version with
            | none => cases hanswers
            | some supported => rfl
      have hfalse : decide (0 < followerUnitsAnswering (found.map Found.fact)) = false := by
        rw [hnone]
        rfl
      exact ⟨hfacts, fun hanswered => of_decide_eq_true hanswered, fun _ => ⟨hfalse, hdead⟩, hforgot⟩

theorem Row.Kept.recoveryTick (h : s.Kept) {wireStatus : UInt8} {found : List Found}
    (hlength : found.length = UNITS_AMOUNT) :
    (s.followerBusRecoveryTick wireStatus found).Kept := by
  unfold Row.followerBusRecoveryTick
  dsimp only
  split
  · next hdue =>
      have hdead : s.busRecovery.dead = true := (Bool.and_eq_true_iff.mp hdue).1
      have hattempt : Row.Kept { s with
          busRecovery := busRecoveryNoteAttempt s.busRecovery s.millis wireStatus } :=
        { h with }
      split
      · next hreprobe => exact hattempt.reprobe hlength (h.nobody hreprobe) hdead
      · exact hattempt
  · exact h

theorem Row.Kept.heartbeatPoll (h : s.Kept) {i : Nat} {ok : Bool}
    (hok : s.InStep (.heartbeatPoll i ok)) : (s.heartbeatPoll i ok).Kept := by
  unfold Row.heartbeatPoll
  cases hu : s.unitFacts[i]? with
  | none => exact h
  | some u =>
      dsimp only
      split
      · exact h
      · next hrow =>
          have hinside : i < UNITS_AMOUNT := by
            rw [← h.length]
            exact (List.getElem?_eq_some_iff.mp hu).1
          have hlength : (s.unitFacts.set i (polled u (unitDrivable u && ok))).length =
              UNITS_AMOUNT := by rw [List.length_set, h.length]
          have hsame : polled u (unitDrivable u && ok) = polled u ok := by
            unfold polled
            rw [← Bool.and_assoc, Bool.and_self]
          have hknown : (s.answered || (unitDrivable u && ok)) = true →
              0 < followerUnitsAnswering (s.unitFacts.set i (polled u (unitDrivable u && ok))) := by
            intro hanswered
            rw [hsame]
            rcases Bool.or_eq_true_iff.mp hanswered with hold | hnew
            · exact hok u hu (h.known hold)
            · apply answering_pos.mpr
              have hmem : polled u ok ∈ s.unitFacts.set i (polled u ok) :=
                List.mem_set (by rw [h.length]; exact hinside) _
              exact ⟨_, hmem, valid_drivable hnew⟩
          by_cases hdrivable : unitDrivable u = true
          · rw [if_pos hdrivable]
            cases hgood : unitDrivable u && ok with
            | true =>
                rw [hgood] at hlength hknown
                refine ⟨hlength, hknown, ?_, h.forgot⟩
                intro hflag
                have hread : isRead i s.displayWidth = true := by
                  have hunits : UNITS_AMOUNT = 16 := rfl
                  unfold isRead
                  rw [decide_eq_true_eq]
                  omega
                have hclear := observe_good s.busRecovery s.millis hread
                exact absurd (hflag.symm.trans hclear) (by decide)
            | false =>
                rw [hgood] at hlength hknown
                refine ⟨hlength, hknown, ?_, h.forgot⟩
                intro hflag
                have hbad := observe_bad s.busRecovery i s.millis s.displayWidth
                obtain ⟨hnobody, hdead⟩ := h.unverified (hbad.1.symm.trans hflag)
                refine ⟨?_, hbad.2 hdead⟩
                show (s.answered || false) = false
                rw [hnobody]
                rfl
          · have hfalse : (unitDrivable u && ok) = false := by
              rw [Bool.not_eq_true] at hdrivable
              rw [hdrivable]
              rfl
            rw [if_neg hdrivable]
            refine ⟨hlength, hknown, ?_, h.forgot⟩
            intro hflag
            obtain ⟨hnobody, hdead⟩ := h.unverified hflag
            refine ⟨?_, hdead⟩
            show (s.answered || (unitDrivable u && ok)) = false
            rw [hnobody, hfalse]
            rfl

theorem Row.Kept.invalidate (h : s.Kept) {i : Nat} (hok : s.InStep (.invalidate i)) :
    (s.busInvalidateUnitReads i).Kept := by
  unfold Row.busInvalidateUnitReads
  cases hu : s.unitFacts[i]? with
  | none => exact h
  | some u =>
      refine { h with length := ?_, known := ?_ }
      · show (s.unitFacts.set i _).length = UNITS_AMOUNT
        rw [List.length_set, h.length]
      · intro hanswered
        exact hok u hu (h.known hanswered)

theorem Row.Kept.held (h : s.Kept) (i : Nat) : (s.heldInBootloader i).Kept := by
  unfold Row.heldInBootloader
  split
  · exact h
  · next halive =>
      cases hu : s.unitFacts[i]? with
      | none => exact h
      | some u =>
          have hinside := (List.getElem?_eq_some_iff.mp hu).1
          refine ⟨?_, ?_, ?_, h.forgot⟩
          · show (s.unitFacts.set i _).length = UNITS_AMOUNT
            rw [List.length_set, h.length]
          · intro _
            exact answering_pos.mpr ⟨_, List.mem_set hinside _, rfl⟩
          · intro hflag
            exact absurd (h.unverified hflag).2 halive

theorem Row.Kept.step (h : s.Kept) {a : RowStep} (hok : s.InStep a) (hstep : s.step a = some s') :
    s'.Kept := by
  cases a with
  | busProbe found =>
      obtain ⟨hlength, hs⟩ := Option.ite_none_right_eq_some.mp hstep
      obtain rfl := Option.some.inj hs
      exact h.busProbe hlength hok
  | busPollHealth oks =>
      obtain ⟨hlength, hs⟩ := Option.ite_none_right_eq_some.mp hstep
      obtain rfl := Option.some.inj hs
      exact h.busPollHealth hlength hok
  | heartbeatHead =>
      obtain rfl := Option.some.inj hstep
      exact h.heartbeatHead
  | recoveryTick wireStatus found =>
      obtain ⟨hlength, hs⟩ := Option.ite_none_right_eq_some.mp hstep
      obtain rfl := Option.some.inj hs
      exact h.recoveryTick hlength
  | heartbeatPoll i ok =>
      obtain rfl := Option.some.inj hstep
      exact h.heartbeatPoll hok
  | invalidate i =>
      obtain rfl := Option.some.inj hstep
      exact h.invalidate hok
  | held i =>
      obtain rfl := Option.some.inj hstep
      exact h.held i
  | wait ms =>
      obtain rfl := Option.some.inj hstep
      exact { h with }

/-! ## §3. Both together. -/

/-- These calls lead from what is watched to this state of the policy, at this time. -/
def Watched.Leads (w : Watched) (r : BusRecoveryState) (now : Nat) : Prop :=
  ∃ calls w', run Watched.step w calls = some w' ∧ w'.s = r ∧ w'.now = now

theorem Watched.Leads.refl (w : Watched) : w.Leads w.s w.now := ⟨[], w, rfl, rfl, rfl⟩

/-- One more call. -/
theorem Watched.Leads.call {c : Call} (hstep : w.step c = some w') {r : BusRecoveryState}
    {now : Nat} (h : w'.Leads r now) : w.Leads r now := by
  obtain ⟨calls, m, hrun, hs, hnow⟩ := h
  refine ⟨c :: calls, m, ?_, hs, hnow⟩
  rw [run_cons, hstep]
  exact hrun

theorem Watched.step_attempt (hdue : busRecoveryDue w.s (reading w.now) = true)
    (wireStatus : UInt8) : w.step (.noteAttempt wireStatus) =
      some { w with s := busRecoveryNoteAttempt w.s (reading w.now) wireStatus
                    tried := w.now :: w.tried } := if_pos hdue

/-- A probe anew leads to what the row makes of it. -/
theorem Row.reprobe_leads (s : Row) (found : List Found) (hs : w.s = s.busRecovery)
    (hnow : w.now = s.now) : w.Leads (s.reprobe found).busRecovery (s.reprobe found).now := by
  unfold Row.reprobe
  dsimp only
  split
  · apply Watched.Leads.call (c := .observe (0 : Nat) true
      (Shown.computeDisplayWidth ((found.map Found.fact).map (·.state)) : Nat)) rfl
    refine ⟨[], _, rfl, ?_, hnow⟩
    show (busRecoveryObserve w.s _ _ (reading w.now) _).1 = _
    rw [hs, hnow]
    rfl
  · apply Watched.Leads.call (c := .noteReprobe
      ((found.map Found.fact).countP fun f => f.state ≠ 0 : Nat)) rfl
    refine ⟨[], _, rfl, ?_, hnow⟩
    show busRecoveryNoteReprobe w.s _ = _
    rw [hs]
    rfl

/-- **A row feeds the policy by calls alone.** -/
theorem Row.step_leads {a : RowStep} (hstep : s.step a = some s') (hs : w.s = s.busRecovery)
    (hnow : w.now = s.now) : w.Leads s'.busRecovery s'.now := by
  have hnone : w.Leads s.busRecovery s.now := by
    rw [← hs, ← hnow]
    exact .refl w
  cases a with
  | busProbe found =>
      obtain ⟨_, hprobe⟩ := Option.ite_none_right_eq_some.mp hstep
      obtain rfl := Option.some.inj hprobe
      exact hnone
  | busPollHealth oks =>
      obtain ⟨_, hpoll⟩ := Option.ite_none_right_eq_some.mp hstep
      obtain rfl := Option.some.inj hpoll
      exact hnone
  | heartbeatHead =>
      obtain rfl := Option.some.inj hstep
      unfold Row.heartbeatHead
      split
      · refine ⟨[.noteEmptyRow], _, rfl, ?_, hnow⟩
        show busRecoveryNoteEmptyRow w.s (reading w.now) = _
        rw [hs, hnow]
        rfl
      · exact hnone
  | recoveryTick wireStatus found =>
      obtain ⟨_, htick⟩ := Option.ite_none_right_eq_some.mp hstep
      obtain rfl := Option.some.inj htick
      unfold Row.followerBusRecoveryTick
      dsimp only
      split
      · next hdue =>
          have hdue : busRecoveryDue w.s (reading w.now) = true := by
            rw [hs, hnow]
            exact hdue
          have hattempt : busRecoveryNoteAttempt w.s (reading w.now) wireStatus =
              busRecoveryNoteAttempt s.busRecovery s.millis wireStatus := by
            rw [hs, hnow]
            rfl
          have hcall := Watched.step_attempt hdue wireStatus
          apply Watched.Leads.call hcall
          split
          · exact Row.reprobe_leads _ found hattempt hnow
          · exact ⟨[], _, rfl, hattempt, hnow⟩
      · exact hnone
  | heartbeatPoll i ok =>
      obtain rfl := Option.some.inj hstep
      unfold Row.heartbeatPoll
      cases s.unitFacts[i]? with
      | none => exact hnone
      | some u =>
          dsimp only
          split
          · exact hnone
          · split
            · refine ⟨[.observe i (unitDrivable u && ok) s.displayWidth], _, rfl, ?_, hnow⟩
              show (busRecoveryObserve w.s _ _ (reading w.now) _).1 = _
              rw [hs, hnow]
              rfl
            · exact hnone
  | invalidate i =>
      obtain rfl := Option.some.inj hstep
      unfold Row.busInvalidateUnitReads
      cases s.unitFacts[i]? with
      | none => exact hnone
      | some u => exact hnone
  | held i =>
      obtain rfl := Option.some.inj hstep
      unfold Row.heldInBootloader
      split
      · exact hnone
      · cases s.unitFacts[i]? with
        | none => exact hnone
        | some u => exact hnone
  | wait ms =>
      obtain rfl := Option.some.inj hstep
      refine ⟨[.wait ms], _, rfl, hs, ?_⟩
      show w.now + ms = s.now + ms
      rw [hnow]

/-- **Episodes of a dead bus** are well formed for every sequence of calls, and in every
    run of a row in step no row of which somebody has answered is probed anew. -/
theorem bus_episodes (calls : List Call) (w : Watched) (hcalls : run Watched.step {} calls = some w)
    (steps : List RowStep) (s : Row) (hok : AllMeet Row.InStep Row.step {} steps)
    (hrun : run Row.step {} steps = some s) : w.WellFormed ∧ s.forgot = false := by
  constructor
  · exact (Watched.run_kept .start hcalls).wellFormed
  · have hkept : s.Kept :=
      run_invariant_of_meets (fun _ _ _ h hok hstep => h.step hok hstep) .start hok hrun
    exact hkept.forgot

/-- Nothing at any address but this at the first. -/
def onlyFirst (f : Found) : List Found := f :: List.replicate 15 .silent

/-- An empty row, attempted twice, and a unit that answers the second probe. -/
theorem bus_episodes_empty :
    ∃ w s, run Watched.step {} [.noteEmptyRow, .noteAttempt 3, .wait 5000, .noteAttempt 0,
        .observe 0 true 1] = some w ∧
      run Row.step {} [.heartbeatHead, .recoveryTick 3 (onlyFirst .silent), .wait 6000,
        .recoveryTick 0 (onlyFirst (.sketch (some true)))] = some s ∧
      w.WellFormed ∧ s.forgot = false := by
  refine ⟨_, _, rfl, rfl, ?_⟩
  apply bus_episodes [.noteEmptyRow, .noteAttempt 3, .wait 5000, .noteAttempt 0, .observe 0 true 1]
    _ rfl [.heartbeatHead, .recoveryTick 3 (onlyFirst .silent), .wait 6000,
      .recoveryTick 0 (onlyFirst (.sketch (some true)))]
  · exact AllMeet.of_decide (by decide +kernel)
  · rfl

/-- **A rescan leaves the probe anew unconfirmed**: a unit that only acknowledged it gives
    its version to a rescan and a status to the sweep behind it, and the recovery still
    probes the row anew, now silent, and forgets it. -/
theorem rescan_is_forgotten :
    ∃ s, run Row.step {} [.heartbeatHead, .recoveryTick 0 (onlyFirst (.sketch none)),
      .heartbeatPoll 0 false, .wait 5500, .busProbe (onlyFirst (.sketch (some true))),
      .busPollHealth (List.replicate 16 true), .wait 500, .heartbeatHead,
      .recoveryTick 0 (onlyFirst .silent)] = some s ∧ s.forgot = true := by
  exact ⟨_, rfl, by decide +kernel⟩

end SplitFlap.BusRecovery
