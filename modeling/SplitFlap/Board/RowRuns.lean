/-
  SplitFlap.Board.RowRuns — a row board's loop under a discipline.

  A self-test and a home search go on over many passes.  Their unit is outside
  its window when they begin, and stays there: while they are polled no job is
  staged, so nothing sends a unit through its bootloader.  `Idle` says so
  between the parts of a pass.
-/
import SplitFlap.Board.Discipline
import SplitFlap.Board.RowLoop

namespace SplitFlap.Bus

open TaskM

/-! ## §1. What the parts of a pass keep. -/

/-- The units a job of an earlier pass still polls. -/
def Row.polled (r : Row) : List Nat :=
  (r.selfTest.map (·.addr)).toList ++ (r.homePoll.map (·.addr)).toList

/-- A change that begins no poll and leaves the staged job. -/
def KeepsSlots (f : Row → Row) : Prop :=
  ∀ r, (∀ a ∈ (f r).polled, a ∈ r.polled) ∧ (f r).stagedOp = r.stagedOp

theorem KeepsSlots.of_eq {f : Row → Row} (hself : ∀ r, (f r).selfTest = r.selfTest)
    (hhome : ∀ r, (f r).homePoll = r.homePoll) (hop : ∀ r, (f r).stagedOp = r.stagedOp) :
    KeepsSlots f := by
  intro r
  refine ⟨fun a ha => ?_, hop r⟩
  unfold Row.polled at ha ⊢
  rwa [hself, hhome] at ha

def RowOwns (J : Board Row → Prop) : Prop :=
  ∀ b f, KeepsSlots f → J b → J { b with own := f b.own }

theorem unitDrivable_heartbeatApply (u : UnitFacts) (ok : Bool) (nowMs : UInt32)
    (threshold : UInt8) : unitDrivable (heartbeatApply u ok nowMs threshold) = unitDrivable u := by
  unfold heartbeatApply
  split <;> rfl

section Keeps

variable {S : Nat → Prop} {J : Board Row → Prop} (hJ : Bears probeInhibitHeld S J)

theorem noAbort_keeps : Keeps J noAbort := Keeps.pure _

theorem setRow_keeps (hown : RowOwns J) {f : Row → Row} (hf : KeepsSlots f) :
    Keeps J (setRow f) :=
  Keeps.modify fun b hb => hown b f hf hb

theorem busReshowLastFrame_keeps (hown : RowOwns J) : Keeps J busReshowLastFrame :=
  Keeps.bind Keeps.get fun _ =>
    setRow_keeps hown (KeepsSlots.of_eq (fun _ => rfl) (fun _ => rfl) fun _ => rfl)

include hJ

theorem busMove_keeps (opcode : UInt8) {addr : Nat} (haddr : S addr) :
    Keeps J (busMove opcode addr) :=
  Keeps.bind (admitMotion_keeps hJ noAbort_keeps) fun _ => unitSend_keeps hJ _ haddr

theorem rowOwnExchanges_keeps (hlearn : Learns J) : Keeps J rowOwnExchanges := by
  refine Keeps.whileTrue (Keeps.bind (outside_keeps hJ) fun a => ?_)
  refine Keeps.ite (fun _ => Keeps.pure _) fun _ => ?_
  cases a.units with
  | none =>
      refine Keeps.ite (fun _ => ?_) fun _ => ?_
      · exact Keeps.bind (Keeps.modify hJ.own) fun _ => Keeps.pure _
      · exact Keeps.bind (armWindow_keeps hJ) fun _ => Keeps.pure _
  | some units =>
      have hlearned : Keeps J (modify fun b => { b with units } : RTask Unit) :=
        Keeps.modify fun b hb => hlearn b units hb
      refine Keeps.ite (fun _ => ?_) fun _ => ?_
      · exact Keeps.bind (Keeps.modify hJ.own) fun _ => Keeps.bind hlearned fun _ => Keeps.pure _
      · exact Keeps.bind (armWindow_keeps hJ) fun _ => Keeps.bind hlearned fun _ => Keeps.pure _

omit hJ in
theorem busInvalidateUnitReads_keeps (hlearn : Learns J) (addr : Nat) :
    Keeps J (busInvalidateUnitReads addr) :=
  Keeps.modify fun b hb => hlearn b _ hb

section Drives

variable (hnote : Notes J) (hown : RowOwns J)
variable (hdrive : ∀ units : List (Fin UNITS_AMOUNT), DrivesOnly S J units)
include hnote hdrive

theorem busPollHealthOne_keeps (i : Fin UNITS_AMOUNT) : Keeps J (busPollHealthOne i) := by
  refine Keeps.bind_get fun b hb => Keeps.ite (fun h => ?_) fun _ => ?_
  · exact unitPollHealth_keeps hJ hnote (hdrive [i] b hb i (List.mem_singleton.mpr rfl) h)
  · exact Keeps.bind (setUnit_notes hnote i fun _ => rfl) fun _ => Keeps.pure _

theorem busPollHealth_keeps : Keeps J busPollHealth := by
  refine Keeps.bind millis_keeps fun now => Keeps.each fun i _ => ?_
  refine Keeps.bind (busPollHealthOne_keeps hJ hnote hdrive i) fun ok => ?_
  exact setUnit_notes hnote i fun u => unitDrivable_heartbeatApply u ok now _

include hown

theorem settleReadTick_keeps : Keeps J settleReadTick := by
  refine Keeps.bind Keeps.get fun b => Keeps.ite (fun _ => ?_) fun _ => Keeps.pure _
  refine Keeps.bind (look_keeps hJ _) fun _ => Keeps.ite (fun _ => Keeps.pure _) fun _ => ?_
  refine Keeps.bind (setRow_keeps hown ?_) fun _ => busPollHealth_keeps hJ hnote hdrive
  exact KeepsSlots.of_eq (fun _ => rfl) (fun _ => rfl) fun _ => rfl

/-- A segment talks to the drivable units of the row. -/
theorem busShowSegment_keeps (letters : Letters) (unitSpeed : UInt8) :
    Keeps J (busShowSegment letters unitSpeed) := by
  refine Keeps.bind (Keeps.modify fun b hb => ?_) fun _ => Keeps.bind Keeps.get fun b => ?_
  · have hset := hown b (fun r => { r with lastFrame := letters, lastFrameSpeed := unitSpeed })
      (KeepsSlots.of_eq (fun _ => rfl) (fun _ => rfl) fun _ => rfl) hb
    exact hJ.data { b with own := { b.own with lastFrame := letters, lastFrameSpeed := unitSpeed } }
      _ rfl rfl rfl rfl rfl hset
  · refine Keeps.bind (writeFrame_keeps hJ noAbort_keeps letters unitSpeed (hdrive _) (hdrive _))
      fun _ => ?_
    refine Keeps.bind (setRow_keeps hown ?_) fun _ => settleReadTick_keeps hJ hnote hown hdrive
    exact KeepsSlots.of_eq (fun _ => rfl) (fun _ => rfl) fun _ => rfl

theorem busHomeAll_keeps (dashes dots : Letters) : Keeps J (busHomeAll dashes dots) := by
  have hshow := busShowSegment_keeps hJ hnote hown hdrive
  refine Keeps.bind Keeps.get fun b => Keeps.bind (hshow _ _) fun _ => ?_
  refine Keeps.bind (delay_keeps hJ _) fun _ => Keeps.bind (hshow _ _) fun _ => ?_
  exact Keeps.ite (fun _ => hshow _ _) fun _ => hJ.modify fun _ => ⟨rfl, rfl, rfl, rfl, rfl⟩

omit hnote hown in
theorem busGradeHomeAll_keeps : Keeps J busGradeHomeAll := by
  refine Keeps.bind Keeps.get fun b => Keeps.each fun i _ => Keeps.bind_get fun b hb => ?_
  refine Keeps.ite (fun h => ?_) fun _ => Keeps.pure _
  have haddr := hdrive [i] b hb i (List.mem_singleton.mpr rfl) h
  exact Keeps.bind (unitQuery_keeps hJ _ haddr) fun _ => Keeps.pure _

end Drives

/-! ## §2. Outside every window. -/

variable (hall : ∀ addr, S addr) (hlearn : Learns J) (hown : RowOwns J)

omit hJ in
include hall in
theorem drives_all (units : List (Fin UNITS_AMOUNT)) : DrivesOnly S J units :=
  fun _ _ i _ _ => hall (toI2cAddress i)

include hall

theorem busRowMoving_keeps : Keeps J busRowMoving := by
  refine Keeps.bind (look_keeps hJ _) fun _ => Keeps.ite (fun _ => Keeps.pure _) fun _ => ?_
  exact anyMoving_keeps hJ (drives_all hall _)

include hlearn

theorem busProbeOne_keeps (i : Fin UNITS_AMOUNT) : Keeps J (busProbeOne i) := by
  refine Keeps.bind (transact_keeps hJ _ (hall _)) fun ping => ?_
  refine Keeps.bind (setUnit_keeps hlearn i _) fun _ => Keeps.ite (fun _ => ?_) fun _ => Keeps.pure _
  refine Keeps.bind (twibootIsBootloader_keeps hJ (hall _)) fun _ => Keeps.ite (fun _ => ?_)
    fun _ => ?_
  · exact Keeps.bind (twibootReadIdentity_keeps hJ (hall _)) fun _ => setUnit_keeps hlearn i _
  · exact Keeps.bind (setUnit_keeps hlearn i _) fun _ => unitProbeSketchUnit_keeps hJ hlearn (hall _)

theorem busProbe_keeps : Keeps J busProbe :=
  Keeps.bind (Keeps.each fun i _ => busProbeOne_keeps hJ hall hlearn i) fun _ =>
    hJ.modify fun _ => ⟨rfl, rfl, rfl, rfl, rfl⟩

include hown

theorem busRescueTick_keeps (i : Fin UNITS_AMOUNT) : Keeps J (busRescueTick i) := by
  have hset : ∀ f, Keeps J (setRowRescue i f) := fun f =>
    setRow_keeps hown (KeepsSlots.of_eq (fun _ => rfl) (fun _ => rfl) fun _ => rfl)
  have hpoll := busPollHealth_keeps hJ hlearn.notes (drives_all hall)
  refine Keeps.bind Keeps.get fun b => Keeps.bind (hset _) fun _ => ?_
  refine Keeps.bind (outside_keeps hJ) fun bus => Keeps.ite (fun _ => ?_) fun _ => ?_
  · exact busReshowLastFrame_keeps hown
  refine Keeps.ite (fun _ => Keeps.pure _) fun _ => Keeps.ite (fun _ => ?_) fun _ =>
    Keeps.ite (fun _ => ?_) fun _ => Keeps.pure _
  · refine Keeps.bind (hset _) fun _ => Keeps.bind (twibootIsBootloader_keeps hJ (hall _)) fun _ => ?_
    refine Keeps.ite (fun _ => Keeps.pure _) fun _ => ?_
    exact Keeps.bind (busProbe_keeps hJ hall hlearn) fun _ => hpoll
  · refine Keeps.bind (unitRescueProbe_keeps hJ (hall _)) fun found => ?_
    refine Keeps.bind millis_keeps fun now => Keeps.bind (hset _) fun _ => ?_
    cases found with
    | bootloader => exact armWindow_keeps hJ
    | exitRefused => exact armWindow_keeps hJ
    | crashHeld id => exact setUnit_keeps hlearn i _
    | noAck => exact Keeps.pure _
    | sketchSilent => exact Keeps.pure _

theorem followerBusRecoveryTick_keeps : Keeps J followerBusRecoveryTick := by
  have hshow := busShowSegment_keeps hJ hlearn.notes hown (drives_all hall)
  have hreshow := busReshowLastFrame_keeps hown
  have hreprobe : Keeps J (do
      let reprobe ← outside
      if reprobe.stop then
        busProbe
        let recovered ← outside
        if recovered.stop then busReshowLastFrame else pure ()
      else pure () : RTask Unit) := by
    refine Keeps.bind (outside_keeps hJ) fun _ => Keeps.ite (fun _ => ?_) fun _ => Keeps.pure _
    refine Keeps.bind (busProbe_keeps hJ hall hlearn) fun _ => Keeps.bind (outside_keeps hJ) fun _ => ?_
    exact Keeps.ite (fun _ => hreshow) fun _ => Keeps.pure _
  have hdue : Keeps J (do
      let due ← outside
      if due.stop then
        let first ← outside
        if first.stop then
          each (fun i => do
              let _ ← transact .empty (toI2cAddress i))
            (List.finRange UNITS_AMOUNT)
        else pure ()
        let reprobe ← outside
        if reprobe.stop then
          busProbe
          let recovered ← outside
          if recovered.stop then busReshowLastFrame else pure ()
        else pure ()
      else pure () : RTask Unit) := by
    refine Keeps.bind (outside_keeps hJ) fun _ => Keeps.ite (fun _ => ?_) fun _ => Keeps.pure _
    refine Keeps.bind (outside_keeps hJ) fun _ => Keeps.ite (fun _ => ?_) fun _ => hreprobe
    refine Keeps.bind (Keeps.each fun i _ => ?_) fun _ => hreprobe
    exact Keeps.bind (transact_keeps hJ _ (hall _)) fun _ => Keeps.pure _
  refine Keeps.bind Keeps.get fun b => Keeps.ite (fun _ => ?_) fun _ => hdue
  refine Keeps.bind (setRow_keeps hown ?_) fun _ => Keeps.bind (hshow _ _) fun _ => hdue
  exact KeepsSlots.of_eq (fun _ => rfl) (fun _ => rfl) fun _ => rfl

theorem heartbeatRead_keeps : Keeps J heartbeatRead := by
  have hslots : ∀ f : Row → Fin UNITS_AMOUNT, KeepsSlots fun r => { r with slot := f r } :=
    fun f => KeepsSlots.of_eq (fun _ => rfl) (fun _ => rfl) fun _ => rfl
  have hrest : ∀ i, Keeps J (do
      rowMotionBudgetFold
      busRescueTick i : RTask Unit) := fun i =>
    Keeps.bind (Keeps.bind (outside_keeps hJ) fun _ => hJ.modify fun _ => ⟨rfl, rfl, rfl, rfl, rfl⟩)
      fun _ => busRescueTick_keeps hJ hall hlearn hown i
  refine Keeps.bind Keeps.get fun b => Keeps.ite (fun _ => Keeps.pure _) fun _ => ?_
  refine Keeps.bind (setRow_keeps hown (hslots _)) fun _ => ?_
  refine Keeps.bind (busPollHealthOne_keeps hJ hlearn.notes (drives_all hall) _) fun _ => ?_
  refine Keeps.bind millis_keeps fun _ => Keeps.bind (setUnit_keeps hlearn _ _) fun _ => ?_
  refine Keeps.bind (outside_keeps hJ) fun _ => Keeps.ite (fun _ => ?_) fun _ => hrest _
  exact Keeps.bind (busReshowLastFrame_keeps hown) fun _ => hrest _

end Keeps

/-! ## §3. What a pass leaves of the jobs. -/

/-- Of the units of an earlier pass the polls go to these at most, and this job
is staged. -/
def Slots (A : List Nat) (s : Option FollowerOp) (r : Row) : Prop :=
  (∀ a ∈ r.polled, a ∈ A) ∧ r.stagedOp = s

theorem KeepsSlots.slots {f : Row → Row} (hf : KeepsSlots f) {A : List Nat}
    {s : Option FollowerOp} {r : Row} (h : Slots A s r) : Slots A s (f r) := by
  obtain ⟨hpolled, hop⟩ := hf r
  exact ⟨fun a ha => h.1 a (hpolled a ha), hop.trans h.2⟩

section Slots

variable {A : List Nat} {s : Option FollowerOp}

theorem Slots.selfTest {r : Row} (h : Slots A s r) {p : SelfTestPolling} (hp : p.addr ∈ A) :
    Slots A s { r with selfTest := some p } := by
  refine ⟨fun a ha => ?_, h.2⟩
  rcases List.mem_cons.mp ha with rfl | ha
  · exact hp
  · exact h.1 a (List.mem_append_right _ ha)

theorem Slots.homePoll {r : Row} (h : Slots A s r) {p : HomePoll} (hp : p.addr ∈ A) :
    Slots A s { r with homePoll := some p } := by
  refine ⟨fun a ha => ?_, h.2⟩
  rcases List.mem_append.mp ha with ha | ha
  · exact h.1 a (List.mem_append_left _ ha)
  · rw [List.mem_singleton.mp ha]
    exact hp

theorem Slots.selfTest_over {r : Row} (h : Slots A s r) : Slots A s { r with selfTest := none } :=
  ⟨fun a ha => h.1 a (List.mem_append_right _ ha), h.2⟩

theorem Slots.homePoll_over {r : Row} (h : Slots A s r) : Slots A s { r with homePoll := none } := by
  refine ⟨fun a ha => h.1 a (List.mem_append_left _ ?_), h.2⟩
  rcases List.mem_append.mp ha with ha | ha
  · exact ha
  · exact absurd ha List.not_mem_nil

end Slots

theorem Owns.row {J : Board Row → Prop} (hJ : Owns J) (A : List Nat) (s : Option FollowerOp) :
    RowOwns fun b => J b ∧ Slots A s b.own :=
  fun b f hf h => ⟨hJ b (f b.own) h.1, hf.slots h.2⟩

namespace FreeDiscipline

variable (D : FreeDiscipline Row probeInhibitHeld)

/-- Between the parts of a pass: the polled units are outside their windows, and
while there are any no job is staged. -/
def Idle (b : Board Row) : Prop :=
  D.clearOf b.own.polled b ∧ (b.own.stagedOp ≠ none → b.own.polled = [])

/-- The slots are as they are, and the units they poll outside their windows. -/
def looks (A : List Nat) (s : Option FollowerOp) : Guard Row probeInhibitHeld :=
  (D.within (Slots A s)).guardOf A

theorem looks_calm_owns (A : List Nat) (s : Option FollowerOp) : RowOwns (D.looks A s).calm :=
  (D.clearOf_owns A).row A s

theorem looks_clear_owns (A : List Nat) (s : Option FollowerOp) : RowOwns (D.looks A s).clear :=
  D.clear_owns.row A s

theorem looks_clear_learns (A : List Nat) (s : Option FollowerOp) :
    Learns (D.looks A s).clear :=
  D.clear_learns.also (Slots A s)

theorem idle_of_slots {A : List Nat} {s : Option FollowerOp} (hs : s ≠ none → A = [])
    {b : Board Row} (hb : (D.looks A s).calm b) : D.Idle b := by
  obtain ⟨hclear, hpolled, hop⟩ := hb
  refine ⟨D.clearOf_mono A _ b hpolled hclear, fun hne => ?_⟩
  rw [hop] at hne
  rw [hs hne] at hpolled
  exact List.eq_nil_iff_forall_not_mem.mpr fun a ha => List.not_mem_nil (hpolled a ha)

theorem idle_loose {b : Board Row} (hb : D.Idle b) : D.loose b :=
  D.calm_loose b (D.clearOf_calm _ b hb.1)

/-- A part of a pass that leaves the slots. -/
theorem idle_keeps {β : Type} {t : RTask β}
    (h : ∀ A s, Keeps (D.looks A s).calm t) : Sat D.Idle t (fun _ => D.Idle) D.loose := by
  refine Sat.each_state fun b hb => ?_
  have hslots := h b.own.polled b.own.stagedOp
  refine hslots.mono ?_ (fun _ _ hcalm => D.idle_of_slots hb.2 hcalm)
    fun b' hcalm => D.idle_loose (D.idle_of_slots hb.2 hcalm)
  rintro b' rfl
  exact ⟨hb.1, fun a ha => ha, rfl⟩

section Parts

variable {D} {A : List Nat} {s : Option FollowerOp} {β : Type}

/-- Behind a look that does not hold, the whole row. -/
theorem look_keeps_slots (what : Waiting) {t : RTask Unit} (ht : Keeps (D.looks A s).clear t) :
    Keeps (D.looks A s).calm (do if ← look probeInhibitHeld what then pure () else t) :=
  (D.looks A s).look_guards (fun _ hb => hb) what (Keeps.pure ())
    ((D.looks A s).clear_calm_sat ht)

theorem all_addrs (addr : Nat) : (fun _ : Nat => True) addr := trivial

theorem settleReadTick_slots : Keeps (D.looks A s).calm settleReadTick := by
  refine Keeps.bind Keeps.get fun b => Keeps.ite (fun _ => ?_) fun _ => Keeps.pure _
  refine look_keeps_slots .settleRead ?_
  refine Keeps.bind (setRow_keeps (D.looks_clear_owns A s) ?_) fun _ => ?_
  · exact KeepsSlots.of_eq (fun _ => rfl) (fun _ => rfl) fun _ => rfl
  · exact busPollHealth_keeps (D.looks A s).clear_bears (D.looks_clear_learns A s).notes
      (drives_all all_addrs)

theorem busRowMoving_slots : Keeps (D.looks A s).calm busRowMoving := by
  refine (D.looks A s).look_guards (fun _ hb => hb) .rowMoving (Keeps.pure true) ?_
  exact (D.looks A s).clear_calm_sat
    (anyMoving_keeps (D.looks A s).clear_bears (drives_all all_addrs _))

/-- One scheduled read, behind its look. -/
theorem followerHeartbeatTick_slots : Keeps (D.looks A s).calm followerHeartbeatTick := by
  have hbears := (D.looks A s).clear_bears
  have hlearn := D.looks_clear_learns A s
  have hown := D.looks_clear_owns A s
  refine Keeps.bind settleReadTick_slots fun _ => Keeps.bind Keeps.get fun b => ?_
  refine Keeps.ite (fun _ => Keeps.pure _) fun _ => ?_
  refine Keeps.bind (setRow_keeps (D.looks_calm_owns A s) ?_) fun _ => look_keeps_slots .heartbeat ?_
  · exact KeepsSlots.of_eq (fun _ => rfl) (fun _ => rfl) fun _ => rfl
  refine Keeps.bind (followerBusRecoveryTick_keeps hbears all_addrs hlearn hown) fun _ => ?_
  refine Keeps.bind ?_ fun _ => heartbeatRead_keeps hbears all_addrs hlearn hown
  refine Keeps.bind (outside_keeps hbears) fun _ => Keeps.ite (fun _ => ?_) fun _ => Keeps.pure _
  exact Keeps.bind (busRowMoving_keeps hbears all_addrs) fun _ => Keeps.pure _

theorem followerTxTick_slots : Keeps (D.looks A s).calm followerTxTick := by
  refine Keeps.bind (outside_keeps (D.looks A s).calm_bears) fun _ => Keeps.ite (fun _ => ?_)
    fun _ => Keeps.pure _
  exact Keeps.bind busRowMoving_slots fun _ => Keeps.pure _

/-- The scan owed after the window. -/
theorem owedScan_slots : Keeps (D.looks A s).calm owedScan := by
  have hbears := (D.looks A s).clear_bears
  have hlearn := D.looks_clear_learns A s
  have hset : ∀ f, KeepsSlots f → Keeps (D.looks A s).clear (setRow f) := fun f hf =>
    setRow_keeps (D.looks_clear_owns A s) hf
  refine Keeps.bind Keeps.get fun b => Keeps.ite (fun _ => ?_) fun _ => Keeps.pure _
  refine look_keeps_slots .rescan (Keeps.bind (hset _ ?_) fun _ => ?_)
  · exact KeepsSlots.of_eq (fun _ => rfl) (fun _ => rfl) fun _ => rfl
  refine Keeps.bind (busProbe_keeps hbears all_addrs hlearn) fun _ => ?_
  refine Keeps.bind (busReshowLastFrame_keeps (D.looks_clear_owns A s)) fun _ => ?_
  refine Keeps.bind (busPollHealth_keeps hbears hlearn.notes (drives_all all_addrs)) fun _ => ?_
  exact hset _ (KeepsSlots.of_eq (fun _ => rfl) (fun _ => rfl) fun _ => rfl)

/-- A change of the polls that goes on with a unit already polled. -/
theorem setRow_slots {f : Row → Row} (hf : ∀ r, Slots A s r → Slots A s (f r)) :
    Keeps (D.looks A s).calm (setRow f) :=
  Keeps.modify fun b hb => ⟨D.clearOf_owns A b _ hb.1, hf b.own hb.2⟩

theorem pollSelfTest_slots : Keeps (D.looks A s).calm pollSelfTest := by
  refine Keeps.bind_get fun b hb => ?_
  cases hself : b.own.selfTest with
  | none => exact Keeps.pure _
  | some p =>
      have haddr : p.addr ∈ A := by
        refine hb.2.1 p.addr (List.mem_append_left _ ?_)
        rw [hself]
        exact List.mem_singleton.mpr rfl
      refine Keeps.ite (fun _ => Keeps.pure _) fun _ => ?_
      refine Keeps.bind (setRow_slots fun r hr => hr.selfTest haddr) fun _ => ?_
      refine Keeps.bind (unitQuery_keeps ((D.clearOf_bears A).also _) _ haddr) fun reading => ?_
      refine Keeps.ite (fun _ => Keeps.pure _) fun _ => ?_
      refine Keeps.bind (setRow_slots fun r hr => hr.selfTest_over) fun _ => ?_
      exact Keeps.ite (fun _ => busReshowLastFrame_keeps (D.looks_calm_owns A s)) fun _ =>
        Keeps.pure _

theorem pollHome_slots : Keeps (D.looks A s).calm pollHome := by
  refine Keeps.bind_get fun b hb => ?_
  cases hhome : b.own.homePoll with
  | none => exact Keeps.pure _
  | some p =>
      have haddr : p.addr ∈ A := by
        refine hb.2.1 p.addr (List.mem_append_right _ ?_)
        rw [hhome]
        exact List.mem_singleton.mpr rfl
      refine Keeps.ite (fun _ => Keeps.pure _) fun _ => ?_
      refine Keeps.bind (unitQuery_keeps ((D.clearOf_bears A).also _) _ haddr) fun status => ?_
      refine Keeps.ite (fun _ => setRow_slots fun r hr => hr.homePoll haddr) fun _ => ?_
      refine Keeps.bind (setRow_slots fun r hr => hr.homePoll_over) fun _ => ?_
      exact busReshowLastFrame_keeps (D.looks_calm_owns A s)

end Parts

/-! ## §4. What drives the row. -/

/-- Outside the windows of these units, among them every drivable one. -/
def Driving (A addrs : List Nat) (s : Option FollowerOp) (b : Board Row) : Prop :=
  (D.clearOf addrs b ∧ Slots A s b.own) ∧
    ∀ i : Fin UNITS_AMOUNT, unitDrivable (b.units.get i) = true → toI2cAddress i ∈ addrs

section Drives

variable {D} {A B : List Nat} {s : Option FollowerOp}

theorem driving_bears : Bears probeInhibitHeld (· ∈ B) (D.Driving A B s) where
  data b b' hnow huntil hlog hunits hown h := by
    refine ⟨((D.clearOf_bears B).also _).data b b' hnow huntil hlog hunits hown h.1, ?_⟩
    rw [hunits]
    exact h.2
  pass b ms h := ⟨((D.clearOf_bears B).also _).pass b ms h.1, h.2⟩
  arm b h := by
    refine ⟨((D.clearOf_bears B).also _).arm b h.1, ?_⟩
    rw [Board.arm_units]
    exact h.2
  look b what h := ⟨((D.clearOf_bears B).also _).look b what h.1, h.2⟩
  send b msg addr haddr h := ⟨((D.clearOf_bears B).also _).send b msg addr haddr h.1, h.2⟩
  own b h := ⟨((D.clearOf_bears B).also _).own b h.1, h.2⟩

theorem driving_notes : Notes (D.Driving A B s) := by
  intro b units hsame h
  refine ⟨((D.clearOf_learns B).also _) b units h.1, fun i hi => h.2 i ?_⟩
  exact (hsame i).symm.trans hi

theorem driving_owns : RowOwns (D.Driving A B s) :=
  fun b f hf h => ⟨(D.clearOf_owns B).row A s b f hf h.1, h.2⟩

theorem driving_drives (units : List (Fin UNITS_AMOUNT)) :
    DrivesOnly (· ∈ B) (D.Driving A B s) units :=
  fun _ hb i _ hdrive => hb.2 i hdrive

theorem drivableAddrs_mem {b : Board Row} {i : Fin UNITS_AMOUNT}
    (h : unitDrivable (b.units.get i) = true) : toI2cAddress i ∈ drivableAddrs b := by
  refine List.mem_map.mpr ⟨i, List.mem_filter.mpr ⟨List.mem_finRange i, ?_⟩, rfl⟩
  exact h

/-- A segment that begins outside the windows of the row's drivable units. -/
theorem busShowSegment_idle (letters : Letters) (unitSpeed : UInt8) (b : Board Row)
    (hb : D.Idle b) :
    Sat (· = b) (do
        note (.began (drivableAddrs b))
        busShowSegment letters unitSpeed) (fun _ => D.Idle) D.loose := by
  have hshow := busShowSegment_keeps driving_bears driving_notes driving_owns
    (driving_drives (D := D) (A := b.own.polled) (B := b.own.polled ++ drivableAddrs b)
      (s := b.own.stagedOp)) letters unitSpeed
  have hslots : ∀ b', D.Driving b.own.polled (b.own.polled ++ drivableAddrs b) b.own.stagedOp b' →
      D.Idle b' := by
    intro b' h
    refine D.idle_of_slots hb.2 ⟨?_, h.1.2⟩
    exact D.clearOf_mono _ _ b' (fun a ha => List.mem_append_left _ ha) h.1.1
  refine Sat.bind (R := fun _ b' => b' = b.note (.began (drivableAddrs b))) ?_ fun _ => ?_
  · exact Sat.modify fun b' hb' => hb' ▸ rfl
  refine hshow.mono ?_ (fun _ b' h => hslots b' h) fun b' h => D.idle_loose (hslots b' h)
  rintro _ rfl
  refine ⟨⟨D.began b _ _ hb.1, fun a ha => ha, rfl⟩, fun i hi => ?_⟩
  exact List.mem_append_right _ (drivableAddrs_mem hi)

end Drives

/-! ## §5. The staged job. -/

/-- While a job runs nothing is polled. -/
abbrev alone : Discipline Row probeInhibitHeld := D.within fun r => r.polled = []

section Jobs

variable {D} {β : Type}

/-- The slot is given back; a poll that begins goes to a unit of the job. -/
theorem setRow_idle {A : List Nat} {f : Row → Row}
    (hf : ∀ r, r.polled = [] → (∀ a ∈ (f r).polled, a ∈ A) ∧ (f r).stagedOp = none) :
    Sat (D.alone.clearOf A) (setRow f) (fun _ => D.Idle) D.loose := by
  refine Sat.modify fun b hb => ?_
  obtain ⟨hpolled, hop⟩ := hf b.own hb.2
  refine D.idle_of_slots (A := A) (s := none) (fun h => absurd rfl h) ⟨?_, hpolled, hop⟩
  exact D.clearOf_owns A b _ hb.1

/-- The slot is given back, and nothing is polled. -/
theorem setRow_rests {f : Row → Row}
    (hf : ∀ r, r.polled = [] → (f r).polled = [] ∧ (f r).stagedOp = none) :
    Sat D.alone.calm (setRow f) (fun _ => D.Idle) D.loose := by
  refine (setRow_idle (A := []) fun r hr => ?_).pre D.alone.calm_clearOf
  obtain ⟨hpolled, hop⟩ := hf r hr
  rw [hpolled]
  exact ⟨fun a ha => ha, hop⟩

theorem clearSlot_rests : Sat D.alone.calm clearSlot (fun _ => D.Idle) D.loose :=
  setRow_rests fun _ hr => ⟨hr, rfl⟩

theorem awaitScan_rests (await : Bool) :
    Sat D.alone.calm (awaitScan await) (fun _ => D.Idle) D.loose :=
  setRow_rests fun _ hr => ⟨hr, rfl⟩

theorem alone_loose (b : Board Row) (h : D.alone.loose b) : D.loose b := h.1

/-- A part of a job, and the rest of it. -/
theorem job_bind {γ : Type} {P : Board Row → Prop} {R : β → Board Row → Prop}
    {t : RTask β} {f : β → RTask γ} (ht : Sat P t R D.alone.loose)
    (hf : ∀ b, Sat (R b) (f b) (fun _ => D.Idle) D.loose) :
    Sat P (t >>= f) (fun _ => D.Idle) D.loose :=
  Sat.bind (ht.mono (fun _ hb => hb) (fun _ _ hb => hb) alone_loose) hf

/-- A job of one transaction sequence with its unit. -/
theorem unitJob_rests {addr : Nat} {t : RTask β} (ht : Keeps (D.alone.clearOf [addr]) t) :
    Sat (D.alone.clearOf [addr]) (do
      let _ ← t
      clearSlot) (fun _ => D.Idle) D.loose :=
  job_bind (Discipline.of_clearOf ht) fun _ => clearSlot_rests

/-- A job that begins a poll of its unit when the unit takes it. -/
theorem pollJob_rests {addr : Nat} (opcode : UInt8) {f : UInt32 → Row → Row}
    (hf : ∀ now r, r.polled = [] → (f now r).polled = [addr] ∧ (f now r).stagedOp = none) :
    Sat (D.alone.clearOf [addr]) (do
      let ok ← busMove opcode addr
      let now ← millis
      if ok then setRow (f now) else clearSlot) (fun _ => D.Idle) D.loose := by
  have hcut : ∀ b, D.alone.clearOf [addr] b → D.loose b := fun b hb =>
    D.calm_loose b (D.clearOf_calm _ b hb.1)
  have hmove := busMove_keeps (D.alone.clearOf_bears [addr]) opcode (List.mem_singleton.mpr rfl)
  refine Sat.bind (hmove.mono (fun _ hb => hb) (fun _ _ hb => hb) hcut) fun ok => ?_
  refine Sat.bind (millis_keeps.mono (fun _ hb => hb) (fun _ _ hb => hb) hcut) fun now => ?_
  refine Sat.ite (fun _ => setRow_idle fun r hr => ?_) fun _ =>
    clearSlot_rests.pre (D.alone.clearOf_calm [addr])
  obtain ⟨hpolled, hop⟩ := hf now r hr
  exact ⟨fun a ha => hpolled ▸ ha, hop⟩

theorem arm_then_rests (await : Bool) :
    Sat D.alone.loose (do
      busArmProbeInhibit
      awaitScan await) (fun _ => D.Idle) D.loose :=
  job_bind Discipline.arm_sat fun _ => awaitScan_rests await

/-- The window is armed whether the order was acknowledged or not. -/
theorem orderJob_rests (opcode : UInt8) (addr : Nat) (await : Bool → Bool) :
    Sat (D.alone.clearOf [addr]) (do
      let ok ← order opcode addr
      if ok then busInvalidateUnitReads addr else pure ()
      busArmProbeInhibit
      awaitScan (await ok)) (fun _ => D.Idle) D.loose := by
  refine job_bind (Discipline.order_sat opcode addr) fun ok => ?_
  refine Sat.ite (fun _ => ?_) fun _ => arm_then_rests _
  exact job_bind (busInvalidateUnitReads_keeps D.alone.loose_learns addr) fun _ => arm_then_rests _

theorem executeSetAddress_rests (addr target : Nat) :
    Sat (D.alone.clearOf [addr]) (executeSetAddress addr target) (fun _ => D.Idle) D.loose := by
  refine job_bind (R := fun _ => D.alone.clearOf [addr]) (Sat.get fun _ hb => hb) fun b => ?_
  refine Sat.ite (fun _ => ?_) fun _ => clearSlot_rests.pre (D.alone.clearOf_calm [addr])
  exact orderJob_rests SFP_CMD_SET_I2C_ADDRESS addr id

/-- The dump arms the window however its order went. -/
theorem executeBootDump_rests (addr : Nat) :
    Sat D.alone.calm (executeBootDump addr) (fun _ => D.Idle) D.loose := by
  have hbears := D.alone.calm_bears
  refine job_bind (Discipline.Runs.of_calm (outside_keeps hbears)) fun a => ?_
  refine job_bind (Discipline.Runs.of_calm (Keeps.modify hbears.own)) fun _ => ?_
  refine job_bind (Discipline.unitActs_sat true a) fun _ => ?_
  refine Sat.ite (fun _ => ?_) fun _ => arm_then_rests false
  refine job_bind (busInvalidateUnitReads_keeps D.alone.loose_learns addr) fun _ => ?_
  refine job_bind (rowOwnExchanges_keeps D.alone.loose_bears D.alone.loose_learns) fun _ => ?_
  exact arm_then_rests false

/-- The whole row homes, outside the windows of its drivable units. -/
theorem executeHomeAll_rests (dashes dots : Letters) (b : Board Row) :
    Sat (fun b' => D.alone.clearOf (drivableAddrs b) b' ∧ b'.units = b.units)
      (executeHomeAll dashes dots) (fun _ => D.Idle) D.loose := by
  refine Sat.each_state fun start hstart => ?_
  obtain ⟨⟨hclear, hpolled⟩, hunits⟩ := hstart
  have hbears := driving_bears (D := D) (A := []) (B := drivableAddrs b) (s := start.own.stagedOp)
  have hstart : D.Driving [] (drivableAddrs b) start.own.stagedOp start := by
    refine ⟨⟨hclear, ?_, rfl⟩, fun i hi => drivableAddrs_mem ?_⟩
    · rw [hpolled]
      exact fun a ha => ha
    · rw [hunits] at hi
      exact hi
  have halone : ∀ b', D.Driving [] (drivableAddrs b) start.own.stagedOp b' →
      D.alone.calm b' := by
    intro b' h
    refine ⟨D.clearOf_calm _ b' h.1.1, List.eq_nil_iff_forall_not_mem.mpr fun a ha => ?_⟩
    exact List.not_mem_nil (h.1.2.1 a ha)
  have hcut : ∀ b', D.Driving [] (drivableAddrs b) start.own.stagedOp b' → D.alone.loose b' :=
    fun b' h => D.alone.calm_loose b' (halone b' h)
  have hhome := busHomeAll_keeps hbears driving_notes driving_owns driving_drives dashes dots
  refine job_bind (hhome.mono ?_ (fun _ _ h => h) hcut) fun _ => ?_
  · rintro _ rfl
    exact hstart
  have hgrade := busGradeHomeAll_keeps hbears driving_drives
  exact job_bind (hgrade.mono (fun _ h => h) (fun _ b' h => halone b' h) hcut) fun _ =>
    clearSlot_rests

/-- One case for each kind of job: it runs outside its units' windows, arms the
window for what it sends through the bootloader, and gives its slot back. -/
theorem executeOp_rests (b : Board Row) (op : FollowerOp) :
    Sat (fun b' => D.alone.clearOf (op.goesTo b) b' ∧ b'.units = b.units) (executeOp op)
      (fun _ => D.Idle) D.loose := by
  have hone : ∀ {addr : Nat} {t : RTask Unit},
      Sat (D.alone.clearOf [addr]) t (fun _ => D.Idle) D.loose →
      Sat (fun b' => D.alone.clearOf [addr] b' ∧ b'.units = b.units) t (fun _ => D.Idle) D.loose :=
    fun h => h.pre fun _ hb => hb.1
  have hcalm : ∀ {t : RTask Unit}, Sat D.alone.calm t (fun _ => D.Idle) D.loose →
      Sat (fun b' => D.alone.clearOf [] b' ∧ b'.units = b.units) t (fun _ => D.Idle) D.loose :=
    fun h => h.pre fun b' hb => D.alone.clearOf_calm [] b' hb.1
  have hJ := fun addr => D.alone.clearOf_bears [addr]
  have hin : ∀ addr : Nat, addr ∈ [addr] := fun _ => List.mem_singleton.mpr rfl
  have hnone : ∀ r : Row, r.polled = [] → r.selfTest = none ∧ r.homePoll = none := by
    intro r hr
    obtain ⟨hself, hhome⟩ := List.append_eq_nil_iff.mp hr
    constructor
    · cases h : r.selfTest with
      | none => rfl
      | some p => rw [h] at hself; cases hself
    · cases h : r.homePoll with
      | none => rfl
      | some p => rw [h] at hhome; cases hhome
  cases op with
  | writeOffset addr =>
      exact hone (unitJob_rests (unitSetAndRead_keeps (hJ addr) _ _ _ (hin addr)))
  | jog addr => exact hone (unitJob_rests (busMove_keeps (hJ addr) _ (hin addr)))
  | home addr =>
      refine hone (pollJob_rests SFP_CMD_HOME fun now r hr => ⟨?_, rfl⟩)
      unfold Row.polled
      rw [(hnone r hr).1]
      rfl
  | identify addr => exact hone (unitJob_rests (unitSend_keeps (hJ addr) _ (hin addr)))
  | resetOdometer addr => exact hone (unitJob_rests (unitSend_keeps (hJ addr) _ (hin addr)))
  | setGates addr =>
      exact hone (unitJob_rests (unitSetAndRead_keeps (hJ addr) _ _ _ (hin addr)))
  | reflashUnit =>
      refine hcalm (job_bind (R := fun _ => D.alone.calm) (Discipline.Runs.of_calm ?_) fun _ =>
        clearSlot_rests)
      exact rowOwnExchanges_keeps D.alone.calm_bears D.alone.calm_learns
  | rebootToBootloader addr =>
      exact hone (orderJob_rests SFP_CMD_ENTER_BOOTLOADER addr fun _ => false)
  | selfTest addr =>
      refine hone (pollJob_rests SFP_CMD_START_SELF_TEST fun now r hr => ⟨?_, rfl⟩)
      unfold Row.polled
      rw [(hnone r hr).2]
      rfl
  | bootUpdate =>
      refine hcalm (job_bind (R := fun _ => D.alone.calm) (Discipline.Runs.of_calm ?_) fun _ =>
        awaitScan_rests false)
      exact rowOwnExchanges_keeps D.alone.calm_bears D.alone.calm_learns
  | bootDump addr => exact hcalm (executeBootDump_rests addr)
  | probe => exact hcalm (awaitScan_rests true)
  | setAddress addr target => exact hone (executeSetAddress_rests addr target)
  | clearAddress addr => exact hone (orderJob_rests SFP_CMD_CLEAR_I2C_ADDRESS addr id)
  | homeAll dashes dots => exact executeHomeAll_rests dashes dots b
  | bootInfo addr => exact hone (unitJob_rests (unitQuery_keeps (hJ addr) _ (hin addr)))

theorem executeStagedOp_runs : Sat D.Idle executeStagedOp (fun _ => D.Idle) D.loose := by
  refine Sat.each_state fun b hb => ?_
  refine Sat.bind (R := fun c b' => c = b ∧ b' = b) (Sat.get fun _ h => ⟨h, h⟩) fun c => ?_
  refine Sat.each_state fun start hstart => ?_
  obtain ⟨rfl, rfl⟩ := hstart
  cases hop : start.own.stagedOp with
  | none => exact Sat.pure _ fun b' h => h ▸ hb
  | some op =>
      have hnot : start.own.polled = [] := hb.2 (by rw [hop]; exact Option.some_ne_none op)
      refine Sat.bind (R := fun _ b' => b' = start.note (.began (op.goesTo start))) ?_ fun _ => ?_
      · exact Sat.modify fun b' hb' => hb' ▸ rfl
      refine (executeOp_rests start op).pre ?_
      rintro _ rfl
      have hclear := D.began start start.own.polled (op.goesTo start) hb.1
      rw [hnot] at hclear
      exact ⟨⟨hclear, hnot⟩, rfl⟩

end Jobs

/-! ## §6. The loop. -/

theorem unitJobsLoopTick_runs : Sat D.Idle unitJobsLoopTick (fun _ => D.Idle) D.loose :=
  Sat.bind executeStagedOp_runs fun _ =>
    Sat.bind (D.idle_keeps fun _ _ => pollSelfTest_slots) fun _ =>
    Sat.bind (D.idle_keeps fun _ _ => pollHome_slots) fun _ =>
    D.idle_keeps fun _ _ => owedScan_slots

theorem outside_idle : Sat D.Idle (outside : RTask (Answer RowWork)) (fun _ => D.Idle) D.loose :=
  D.idle_keeps fun A s => outside_keeps (D.looks A s).calm_bears

/-- A job is staged only into a free slot. -/
theorem unitOpStage_runs (op : FollowerOp) :
    Sat D.Idle (unitOpStage op) (fun _ => D.Idle) D.loose := by
  refine Sat.modify fun b hb => ?_
  cases hbusy : b.own.opSlotBusy with
  | true =>
      simp only [hbusy, if_true]
      exact hb
  | false =>
      simp only [hbusy, Bool.false_eq_true, if_false]
      simp only [Row.opSlotBusy, Bool.or_eq_false_iff, Option.isSome_eq_false_iff,
        Option.isNone_iff_eq_none] at hbusy
      obtain ⟨⟨⟨-, hself⟩, hhome⟩, -⟩ := hbusy
      have hnot : ({ b.own with stagedOp := some op } : Row).polled = [] := by
        show (b.own.selfTest.map (·.addr)).toList ++ (b.own.homePoll.map (·.addr)).toList = []
        rw [hself, hhome]
        rfl
      refine ⟨?_, fun _ => hnot⟩
      refine D.clearOf_owns _ b _ (D.clearOf_mono _ _ b (fun a ha => ?_) hb.1)
      rw [hnot] at ha
      exact absurd ha List.not_mem_nil

theorem linkLoopTick_runs : Sat D.Idle linkLoopTick (fun _ => D.Idle) D.loose := by
  refine Sat.bind D.outside_idle fun a => ?_
  match a.next with
  | none => exact Sat.pure _ fun _ hb => hb
  | some (.stage op) => exact D.unitOpStage_runs op
  | some (.segment ..) => exact Sat.pure _ fun _ hb => hb

theorem clusterLoopTick_runs : Sat D.Idle clusterLoopTick (fun _ => D.Idle) D.loose := by
  refine Sat.bind D.outside_idle fun a => ?_
  match a.next with
  | none => exact Sat.pure _ fun _ hb => hb
  | some (.stage op) => exact Sat.pure _ fun _ hb => hb
  | some (.segment letters unitSpeed content) =>
      refine Sat.each_state fun b hb => ?_
      refine Sat.bind (R := fun c b' => c = b ∧ b' = b) (Sat.get fun _ h => ⟨h, h⟩) fun c => ?_
      refine Sat.each_state fun start hstart => ?_
      obtain ⟨rfl, rfl⟩ := hstart
      exact Sat.ite (fun _ => Sat.pure _ fun b' h => h ▸ hb) fun _ =>
        busShowSegment_idle letters unitSpeed start hb

theorem rowTurn_runs : Sat D.Idle rowTurn (fun _ => D.Idle) D.loose := by
  refine Sat.bind D.outside_idle fun rescue => Sat.ite (fun _ => D.linkLoopTick_runs) fun _ => ?_
  refine Sat.bind (D.idle_keeps fun _ _ => followerTxTick_slots) fun _ => ?_
  refine Sat.bind D.unitJobsLoopTick_runs fun _ => ?_
  refine Sat.bind (D.idle_keeps fun _ _ => followerHeartbeatTick_slots) fun _ => ?_
  exact Sat.bind D.linkLoopTick_runs fun _ => D.clusterLoopTick_runs

/-- The row's loop goes from one idle state to the next, pass after pass. -/
theorem rowLoop_runs : Sat D.Idle rowLoop (fun _ => D.Idle) D.loose := by
  refine Sat.whileTrue (Q := D.Idle) ?_ fun _ => D.idle_loose
  exact Sat.bind D.rowTurn_runs fun _ => Sat.pure _ fun _ hb => hb

end FreeDiscipline

end SplitFlap.Bus
