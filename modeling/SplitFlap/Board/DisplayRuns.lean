/-
  SplitFlap.Board.DisplayRuns — the master's code under a discipline.

  One lemma for each function of `DisplayTask`: a job that waits the window out
  runs from `calm`, a job that goes to one unit without a look runs in
  `clearOf` that unit, and displayTask as a whole runs from `calm` to `calm`.
-/
import SplitFlap.Board.Discipline
import SplitFlap.Board.DisplayTask

namespace SplitFlap.Bus

open TaskM

section Keeps

variable {S : Nat → Prop} {J : Board Display → Prop} (hJ : Bears twibootRiskHeld S J)
include hJ

omit hJ in
theorem setOwn_keeps (hown : Owns J) (f : Display → Display) : Keeps J (setOwn f) :=
  Keeps.modify fun b hb => hown b _ hb

theorem unitBusAbortRequested_keeps : Keeps J unitBusAbortRequested :=
  Keeps.bind (outside_keeps hJ) fun _ => Keeps.pure _

theorem displayApplyFrame_keeps (hown : Owns J) (letters : Letters) :
    Keeps J (displayApplyFrame letters) := by
  refine Keeps.modify fun b hb => ?_
  exact hJ.data { b with own := { b.own with lastFrameLetters := letters } } _ rfl rfl rfl rfl rfl
    (hown b _ hb)

theorem displayApplyUnitFacts_keeps : Keeps J displayApplyUnitFacts :=
  Keeps.bind (outside_keeps hJ) fun _ => hJ.modify fun _ => ⟨rfl, rfl, rfl, rfl, rfl⟩

theorem motionBudgetFold_keeps : Keeps J motionBudgetFold :=
  Keeps.bind (outside_keeps hJ) fun _ => hJ.modify fun _ => ⟨rfl, rfl, rfl, rfl, rfl⟩

omit hJ in
theorem displayInvalidateUnitReads_keeps (hlearn : Learns J) (addr : Nat) :
    Keeps J (displayInvalidateUnitReads addr) :=
  Keeps.modify fun b hb => hlearn b _ hb

/-- The exchanges that are not followed here. -/
theorem ownExchanges_keeps (hlearn : Learns J) : Keeps J ownExchanges := by
  refine Keeps.whileTrue (Keeps.bind (outside_keeps hJ) fun a => ?_)
  refine Keeps.ite (fun _ => Keeps.pure _) fun _ => ?_
  cases a.units with
  | none =>
      refine Keeps.ite (fun _ => ?_) fun _ => ?_
      · exact Keeps.bind (Keeps.modify hJ.own) fun _ => Keeps.pure _
      · exact Keeps.bind (armWindow_keeps hJ) fun _ => Keeps.pure _
  | some units =>
      have hlearned : Keeps J (modify fun b => { b with units } : DTask Unit) :=
        Keeps.modify fun b hb => hlearn b units hb
      refine Keeps.ite (fun _ => ?_) fun _ => ?_
      · exact Keeps.bind (Keeps.modify hJ.own) fun _ => Keeps.bind hlearned fun _ => Keeps.pure _
      · exact Keeps.bind (armWindow_keeps hJ) fun _ => Keeps.bind hlearned fun _ => Keeps.pure _

/-! ## §1. Jobs that go to one unit. -/

theorem unitBusMove_keeps (opcode : UInt8) {addr : Nat} (haddr : S addr) :
    Keeps J (unitBusMove opcode addr) := by
  refine Keeps.bind (admitMotion_keeps hJ (unitBusAbortRequested_keeps hJ)) fun _ => ?_
  exact Keeps.ite (fun _ => unitSend_keeps hJ _ haddr) fun _ => Keeps.pure _

theorem waitForHome_keeps {addr : Nat} (haddr : S addr) : Keeps J (waitForHome addr) := by
  refine Keeps.bind millis_keeps fun start => Keeps.iter (fun w => ?_) _
  refine Keeps.bind (unitBusAbortRequested_keeps hJ) fun _ => Keeps.ite (fun _ => Keeps.pure _)
    fun _ => ?_
  refine Keeps.bind (delay_keeps hJ _) fun _ => Keeps.bind (unitQuery_keeps hJ _ haddr) fun _ => ?_
  exact Keeps.bind millis_keeps fun _ => Keeps.pure _

/-! ## §2. Jobs that go to the whole row. -/

variable (hall : ∀ addr, S addr) (hlearn : Learns J) (hown : Owns J)

omit hJ in
include hall in
theorem drivesOnly_all (units : List (Fin UNITS_AMOUNT)) : DrivesOnly S J units :=
  fun _ _ i _ _ => hall (toI2cAddress i)

include hall

theorem unitBusShowFrame_keeps (letters : Letters) (unitSpeed : UInt8) :
    Keeps J (unitBusShowFrame letters unitSpeed) :=
  Keeps.bind Keeps.get fun _ => writeFrame_keeps hJ (unitBusAbortRequested_keeps hJ) letters
    unitSpeed (drivesOnly_all hall _) (drivesOnly_all hall _)

theorem gradeHomeAll_keeps : Keeps J gradeHomeAll := by
  refine Keeps.bind Keeps.get fun b => Keeps.each fun i _ => Keeps.bind Keeps.get fun b => ?_
  exact Keeps.ite (fun _ => Keeps.bind (unitQuery_keeps hJ _ (hall _)) fun _ => Keeps.pure _)
    fun _ => Keeps.pure _

include hlearn

theorem unitBusProbeOne_keeps (i : Fin UNITS_AMOUNT) : Keeps J (unitBusProbeOne i) := by
  refine Keeps.bind (setUnit_keeps hlearn i _) fun _ => ?_
  refine Keeps.bind (transact_keeps hJ _ (hall _)) fun ping => Keeps.ite (fun _ => ?_) fun _ =>
    Keeps.pure _
  refine Keeps.bind (twibootIsBootloader_keeps hJ (hall _)) fun _ => Keeps.ite (fun _ => ?_)
    fun _ => ?_
  · refine Keeps.bind (setUnit_keeps hlearn i _) fun _ => ?_
    exact Keeps.bind (twibootReadIdentity_keeps hJ (hall _)) fun _ => setUnit_keeps hlearn i _
  · refine Keeps.bind (unitMovingStatus_keeps hJ (hall _)) fun active => ?_
    cases active with
    | none => exact Keeps.pure _
    | some _ =>
        exact Keeps.bind (setUnit_keeps hlearn i _) fun _ =>
          unitProbeSketchUnit_keeps hJ hlearn (hall _)

theorem unitBusProbe_keeps : Keeps J unitBusProbe := by
  refine Keeps.bind ?_ fun _ => Keeps.ite (fun _ => ?_) fun _ => ?_
  · refine Keeps.bind (transact_keeps hJ _ (hall _)) fun _ => ?_
    exact Keeps.bind (transact_keeps hJ _ (hall _)) fun _ => Keeps.pure _
  · exact Keeps.each fun i _ => setUnit_keeps hlearn i _
  · exact Keeps.each fun i _ => unitBusProbeOne_keeps hJ hall hlearn i

theorem unitBusPollHealthOne_keeps (i : Fin UNITS_AMOUNT) :
    Keeps J (unitBusPollHealthOne i) := by
  refine Keeps.bind (setUnit_keeps hlearn i _) fun _ => Keeps.bind Keeps.get fun b => ?_
  exact Keeps.ite (fun _ => unitPollHealth_keeps hJ hlearn.notes (hall _)) fun _ => Keeps.pure _

theorem reprobe_keeps : Keeps J reprobe := by
  refine Keeps.bind (unitBusProbe_keeps hJ hall hlearn) fun _ => ?_
  refine Keeps.bind ?_ fun _ => displayApplyUnitFacts_keeps hJ
  refine Keeps.bind (Keeps.each fun i _ => ?_) fun _ => Keeps.bind millis_keeps fun now => ?_
  · exact Keeps.bind (unitBusPollHealthOne_keeps hJ hall hlearn i) fun _ => Keeps.pure _
  · exact Keeps.each fun i _ => setUnit_keeps hlearn i _

include hown in
/-- The rescue of a lost unit runs outside every window, and so does the frame
that shows the row again. -/
theorem rescueTick_keeps (i : Fin UNITS_AMOUNT) : Keeps J (rescueTick i) := by
  have hset : ∀ f, Keeps J (setRescue i f) := fun f => setOwn_keeps hown _
  have hframe := unitBusShowFrame_keeps hJ hall
  refine Keeps.bind Keeps.get fun b => Keeps.bind (hset _) fun _ => Keeps.ite (fun _ => ?_) fun _ => ?_
  · refine Keeps.bind Keeps.get fun b => Keeps.ite (fun _ => ?_) fun _ => Keeps.pure _
    refine Keeps.bind (look_keeps hJ _) fun _ => ?_
    exact Keeps.ite (fun _ => setOwn_keeps hown _) fun _ => hframe _ _
  refine Keeps.ite (fun _ => ?_) fun _ => Keeps.ite (fun _ => ?_) fun _ => Keeps.pure _
  · refine Keeps.bind (hset _) fun _ => Keeps.bind (twibootIsBootloader_keeps hJ (hall _)) fun _ => ?_
    exact Keeps.ite (fun _ => Keeps.pure _) fun _ => reprobe_keeps hJ hall hlearn
  · refine Keeps.bind (unitRescueProbe_keeps hJ (hall _)) fun found => ?_
    refine Keeps.bind millis_keeps fun now => Keeps.bind (hset _) fun _ => ?_
    cases found with
    | bootloader => exact armWindow_keeps hJ
    | exitRefused => exact armWindow_keeps hJ
    | crashHeld id => exact setUnit_keeps hlearn i _
    | noAck => exact Keeps.pure _
    | sketchSilent => exact Keeps.pure _

end Keeps

/-! ## §3. From calm to calm. -/

namespace FreeDiscipline

open Discipline

variable (D : FreeDiscipline Display twibootRiskHeld)

theorem all_clear : ∀ addr : Nat, (fun _ => True) addr := fun _ => trivial

/-- A frame waits the window out. -/
theorem showFrame_clears (letters : Letters) (unitSpeed : UInt8) :
    Sat D.calm (showFrameOutsideBootloaderWindow letters unitSpeed) (fun _ => D.clear)
      D.loose := by
  refine Sat.bind (R := fun _ => D.clear) (Sat.whileTrue ?_ D.calm_loose) fun _ => ?_
  · refine look_guards .frame ?_ (Sat.pure _ fun _ hb => hb)
    refine Sat.bind (Runs.of_calm (delay_keeps D.calm_bears 20)) fun _ => Sat.pure _ fun _ hb => hb
  · have hframe := unitBusShowFrame_keeps D.clear_bears all_clear letters unitSpeed
    exact hframe.mono (fun _ hb => hb) (fun _ _ hb => hb)
      fun b hb => D.calm_loose b (D.clear_calm b hb)

theorem showFrame_runs (letters : Letters) (unitSpeed : UInt8) :
    D.Runs (showFrameOutsideBootloaderWindow letters unitSpeed) :=
  (D.showFrame_clears letters unitSpeed).mono (fun _ hb => hb) (fun _ => D.clear_calm)
    fun _ hb => hb

theorem reshowLastFrame_runs : D.Runs reshowLastFrame := by
  refine Runs.bind (Runs.of_calm Keeps.get) fun b => Runs.ite (fun _ => ?_) fun _ => Runs.pure _
  refine look_guards .reshow (Runs.of_calm (setOwn_keeps D.calm_owns _)) ?_
  exact of_clear (unitBusShowFrame_keeps D.clear_bears all_clear _ _)

theorem reprobe_clear : Keeps D.clear reprobe :=
  reprobe_keeps D.clear_bears all_clear D.clear_learns

/-- The heartbeat holds itself back in a window, and everything it does after
its look it does outside of every window. -/
theorem heartbeatTick_runs : D.Runs heartbeatTick := by
  refine Runs.bind (Runs.of_calm Keeps.get) fun b => Runs.ite (fun _ => Runs.pure _) fun _ => ?_
  refine look_guards .heartbeat (Runs.pure _) ?_
  have hown : ∀ f, Keeps D.clear (setOwn f) := setOwn_keeps D.clear_owns
  refine Sat.ite (fun _ => ?_) fun _ => ?_
  · refine clear_bind (hown _) fun _ => Sat.bind (of_clear D.reprobe_clear) fun _ => ?_
    exact D.reshowLastFrame_runs
  · refine of_clear (Keeps.bind (hown _) fun _ => ?_)
    refine Keeps.bind (unitBusPollHealthOne_keeps D.clear_bears all_clear D.clear_learns _) fun _ => ?_
    refine Keeps.bind millis_keeps fun _ => Keeps.bind (setUnit_keeps D.clear_learns _ _) fun _ => ?_
    refine Keeps.bind (displayApplyUnitFacts_keeps D.clear_bears) fun _ => ?_
    refine Keeps.bind (motionBudgetFold_keeps D.clear_bears) fun _ => ?_
    exact rescueTick_keeps D.clear_bears all_clear D.clear_learns D.clear_owns _

theorem settleBeforeProbe_clears :
    Sat D.calm settleBeforeProbe (fun _ => D.clear) D.loose := settle_sat .probe

theorem execProbe_runs : D.Runs execProbe := by
  refine Sat.bind D.settleBeforeProbe_clears fun _ => of_clear ?_
  exact Keeps.bind (setOwn_keeps D.clear_owns _) fun _ => D.reprobe_clear

/-- A job that goes to one unit, begun outside that unit's window. -/
abbrev RunsOf (addr : Nat) (t : DTask Unit) : Prop :=
  Sat (D.clearOf [addr]) t (fun _ => D.calm) D.loose

theorem own_addr (addr : Nat) : addr ∈ [addr] := List.mem_singleton.mpr rfl

theorem execHome_runs (addr : Nat) : D.RunsOf addr (execHome addr) := by
  have hJ := D.clearOf_bears [addr]
  refine clearOf_bind (unitBusMove_keeps hJ _ (own_addr addr)) fun _ =>
    Sat.ite (fun _ => ?_) fun _ => ?_
  · exact Sat.bind (of_clearOf (waitForHome_keeps hJ (own_addr addr))) fun _ =>
      D.reshowLastFrame_runs
  · exact Sat.pure _ fun b hb => D.clearOf_calm _ b hb

theorem execSelfTest_runs (addr : Nat) : D.RunsOf addr (execSelfTest addr) := by
  have hJ := D.clearOf_bears [addr]
  refine clearOf_bind (unitBusMove_keeps hJ _ (own_addr addr)) fun _ =>
    Sat.ite (fun _ => ?_) fun _ => ?_
  · refine Sat.bind (of_clearOf (Keeps.whileTrue ?_)) fun _ => ?_
    · refine Keeps.bind (unitBusAbortRequested_keeps hJ) fun _ => Keeps.ite (fun _ => Keeps.pure _)
        fun _ => ?_
      refine Keeps.bind (delay_keeps hJ _) fun _ => ?_
      exact Keeps.bind (unitQuery_keeps hJ _ (own_addr addr)) fun _ => Keeps.pure _
    · refine Runs.bind (Runs.of_calm (outside_keeps D.calm_bears)) fun _ => ?_
      exact Runs.ite (fun _ => D.reshowLastFrame_runs) fun _ => Runs.pure _
  · exact Sat.pure _ fun b hb => D.clearOf_calm _ b hb

section Orders

variable (hears : D.Hears)
include hears

/-- After an acknowledged order the window is armed; an order whose
acknowledgement was lost ends the job. -/
theorem order_then_runs (opcode : UInt8) (addr : Nat) {t : DTask Unit}
    (ht : Sat D.loose t (fun _ => D.calm) D.loose) :
    D.RunsOf addr (do if ← order opcode addr then t else pure ()) := by
  refine Sat.bind (order_heard_sat hears opcode addr) fun ok => ?_
  cases ok with
  | true => exact ht
  | false => exact Sat.pure _ fun _ hb => hb

omit hears in
theorem armTwibootRiskWindow_sat :
    Sat D.loose armTwibootRiskWindow (fun _ => D.calm) D.loose := arm_sat

theorem execRebootToBootloader_runs (addr : Nat) :
    D.RunsOf addr (execRebootToBootloader addr) := by
  refine D.order_then_runs hears _ addr ?_
  refine Sat.bind (displayInvalidateUnitReads_keeps D.loose_learns addr) fun _ => ?_
  exact Sat.bind D.armTwibootRiskWindow_sat fun _ => Runs.of_calm (setOwn_keeps D.calm_owns _)

theorem orderAndSettle_runs (opcode : UInt8) (addr : Nat) :
    D.RunsOf addr (orderAndSettle opcode addr) := by
  refine D.order_then_runs hears opcode addr ?_
  refine Sat.bind D.armTwibootRiskWindow_sat fun _ => ?_
  exact Sat.bind D.settleBeforeProbe_clears fun _ => of_clear D.reprobe_clear

theorem execSetAddress_runs (addr target : Nat) : D.RunsOf addr (execSetAddress addr target) := by
  refine clearOf_bind Keeps.get fun b => Sat.ite (fun _ => ?_) fun _ => ?_
  · exact D.orderAndSettle_runs hears _ addr
  · exact Sat.pure _ fun b hb => D.clearOf_calm _ b hb

end Orders

/-- The dump arms the window however its order went. -/
theorem execBootDump_runs (addr : Nat) : D.Runs (execBootDump addr) := by
  have hend : Sat D.loose (do
      armTwibootRiskWindow
      setOwn fun d => { d with probeOwedAfterRiskWindow := true } : DTask Unit) (fun _ => D.calm)
      D.loose :=
    Sat.bind D.armTwibootRiskWindow_sat fun _ => Runs.of_calm (setOwn_keeps D.calm_owns _)
  refine Sat.bind (R := fun _ => D.calm) (Runs.of_calm (outside_keeps D.calm_bears)) fun a => ?_
  refine Sat.bind (Runs.of_calm (Keeps.modify D.calm_bears.own)) fun _ => ?_
  refine Sat.bind (unitActs_sat true a) fun _ => Sat.ite (fun _ => ?_) fun _ => hend
  refine Sat.bind (displayInvalidateUnitReads_keeps D.loose_learns addr) fun _ => ?_
  exact Sat.bind (ownExchanges_keeps D.loose_bears D.loose_learns) fun _ => hend

theorem ownExchanges_runs : D.Runs ownExchanges :=
  Runs.of_calm (ownExchanges_keeps D.calm_bears D.calm_learns)

theorem displayApplyFrame_runs (letters : Letters) : D.Runs (displayApplyFrame letters) :=
  Runs.of_calm (displayApplyFrame_keeps D.calm_bears D.calm_owns letters)

theorem execResetUnits_runs (dashes dots letters : Letters) (unitSpeed : UInt8) :
    D.Runs (execResetUnits dashes dots letters unitSpeed) := by
  refine Runs.bind (D.showFrame_runs dashes unitSpeed) fun _ => ?_
  refine Runs.bind (Runs.of_calm (delay_keeps D.calm_bears 2000)) fun _ => ?_
  refine Runs.bind (D.showFrame_runs dots unitSpeed) fun _ => ?_
  refine Sat.bind (D.showFrame_clears letters unitSpeed) fun _ => of_clear ?_
  exact Keeps.bind (displayApplyFrame_keeps D.clear_bears D.clear_owns letters) fun _ =>
    gradeHomeAll_keeps D.clear_bears all_clear

theorem execReflashUnits_runs (letters : Letters) (unitSpeed : UInt8) :
    D.Runs (execReflashUnits letters unitSpeed) := by
  refine Runs.bind D.ownExchanges_runs fun _ => ?_
  refine Runs.bind (Runs.of_calm (unitBusAbortRequested_keeps D.calm_bears)) fun _ => ?_
  refine Runs.ite (fun _ => Runs.pure _) fun _ => ?_
  exact Runs.bind (D.showFrame_runs letters unitSpeed) fun _ => D.displayApplyFrame_runs letters

section Commands

variable (hears : D.Hears)
include hears

/-- One case for each opcode. -/
theorem execCommand_runs (cmd : DisplayCommand) :
    Sat (D.clearOf cmd.goesTo) (execCommand cmd) (fun _ => D.calm) D.loose := by
  have hcalm : ∀ {t : DTask Unit}, D.Runs t →
      Sat (D.clearOf []) t (fun _ => D.calm) D.loose := fun h => h.pre (D.clearOf_calm [])
  have hone : ∀ {addr : Nat} {t : DTask Bool}, Keeps (D.clearOf [addr]) t →
      D.RunsOf addr (do let _ ← t) :=
    fun h => of_clearOf (Keeps.bind h fun _ => Keeps.pure _)
  have hJ := fun addr => D.clearOf_bears [addr]
  cases cmd with
  | showText letters speed =>
      refine hcalm (Runs.bind (Runs.of_calm (setOwn_keeps D.calm_owns _)) fun _ => ?_)
      exact Runs.bind (D.showFrame_runs letters speed) fun _ => D.displayApplyFrame_runs letters
  | probe => exact hcalm D.execProbe_runs
  | writeOffset addr => exact hone (unitSetAndRead_keeps (hJ addr) _ _ _ (own_addr addr))
  | jog addr => exact hone (unitBusMove_keeps (hJ addr) _ (own_addr addr))
  | home addr => exact D.execHome_runs addr
  | identify addr => exact hone (unitSend_keeps (hJ addr) _ (own_addr addr))
  | selfTest addr => exact D.execSelfTest_runs addr
  | bootDump addr => exact hcalm (D.execBootDump_runs addr)
  | bootUpdate => exact hcalm D.ownExchanges_runs
  | bootInfo addr =>
      exact of_clearOf (Keeps.bind (unitQuery_keeps (hJ addr) _ (own_addr addr)) fun _ =>
        Keeps.pure _)
  | setGates addr => exact hone (unitSetAndRead_keeps (hJ addr) _ _ _ (own_addr addr))
  | resetOdometer addr => exact hone (unitSend_keeps (hJ addr) _ (own_addr addr))
  | rebootToBootloader addr => exact D.execRebootToBootloader_runs hears addr
  | setAddress addr target => exact D.execSetAddress_runs hears addr target
  | clearAddress addr => exact D.orderAndSettle_runs hears _ addr
  | resetUnits dashes dots letters speed => exact hcalm (D.execResetUnits_runs _ _ _ _)
  | stop =>
      refine hcalm (Runs.bind (Runs.of_calm Keeps.get) fun b => ?_)
      exact Runs.bind (D.showFrame_runs _ _) fun _ => D.displayApplyFrame_runs _
  | reflashUnits letters speed => exact hcalm (D.execReflashUnits_runs letters speed)

theorem displayTurn_runs : D.Runs displayTurn := by
  refine Runs.bind (Runs.of_calm (outside_keeps D.calm_bears)) fun a => ?_
  cases a.next with
  | none => exact D.heartbeatTick_runs
  | some cmd => exact began_sat cmd.goesTo (D.execCommand_runs hears cmd)

/-- displayTask goes from calm to calm, turn after turn. -/
theorem displayTaskMain_runs : D.Runs displayTaskMain := by
  refine Sat.whileTrue (Q := D.calm) ?_ D.calm_loose
  exact Sat.bind (D.displayTurn_runs hears) fun _ => Sat.pure _ fun _ hb => hb

end Commands

end FreeDiscipline

end SplitFlap.Bus
