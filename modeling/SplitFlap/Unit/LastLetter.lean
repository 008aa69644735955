/-
  SplitFlap.Unit.LastLetter — when the last letter wins on a unit.

  What a unit owes is read off what it heard: the last letter frame, unless a
  HOME that was not refused came after it, or a self-test that failed began
  after it (`standing`).  What `receivedNumber` holds is read off the same
  history: the last letter frame, unless it was blanked since (`commanded`).
  The two part where the blanking comes after a letter that stands, a frame
  that came in while the unit was homing or testing (`letterErased`).
-/
import SplitFlap.Unit.UnitLoop

namespace SplitFlap

namespace Motion

open TaskM

/-! ## §1. The history of a letter. -/

/-- The letter the frames command, newest event first.  `refused` and `failed`
are what the HOME's and the self-test's own end, met on the way back, said;
`taken` is whether a HOME frame from here back was acted on. -/
def standing (refused taken failed : Bool) : List Event → Nat
  | [] => 0
  | .letter k :: _ => k
  | .home :: h => if taken then 0 else standing refused taken failed h
  | .homeTaken :: h => standing false (!refused) failed h
  | .homeRefused :: h => standing true taken failed h
  | .testBegun :: h => if failed then 0 else standing refused taken failed h
  | .testFailed :: h => standing refused taken true h
  | .blanked :: h => standing refused taken failed h

/-- What `receivedNumber` holds: the last that wrote it, a frame or the blanking. -/
def commanded : List Event → Nat
  | [] => 0
  | .letter k :: _ => k
  | .blanked :: _ => 0
  | .home :: h => commanded h
  | .homeTaken :: h => commanded h
  | .homeRefused :: h => commanded h
  | .testBegun :: h => commanded h
  | .testFailed :: h => commanded h

/-- The blanking was the last that wrote `receivedNumber`. -/
def blankedLast : List Event → Bool
  | [] => false
  | .letter _ :: _ => false
  | .blanked :: _ => true
  | .home :: h => blankedLast h
  | .homeTaken :: h => blankedLast h
  | .homeRefused :: h => blankedLast h
  | .testBegun :: h => blankedLast h
  | .testFailed :: h => blankedLast h

/-- The last letter frame names a flap, the letter was blanked since, and yet
no HOME that was acted on and no start of a failed self-test came in between. -/
def letterErased (blanked refused taken failed : Bool) : List Event → Bool
  | [] => false
  | .letter k :: _ => blanked && k ≠ 0
  | .home :: h => if taken then false else letterErased blanked refused taken failed h
  | .homeTaken :: h => letterErased blanked false (!refused) failed h
  | .homeRefused :: h => letterErased blanked true taken failed h
  | .testBegun :: h => if failed then false else letterErased blanked refused taken failed h
  | .testFailed :: h => letterErased blanked refused taken true h
  | .blanked :: h => letterErased true refused taken failed h

theorem commanded_of_blankedLast {h : List Event} (hb : blankedLast h = true) :
    commanded h = 0 := by
  induction h with
  | nil => rfl
  | cons e h ih =>
      cases e with
      | letter k => cases hb
      | blanked => rfl
      | home => exact ih hb
      | homeTaken => exact ih hb
      | homeRefused => exact ih hb
      | testBegun => exact ih hb
      | testFailed => exact ih hb

/-- After a blanking, erased is what stands without being blank. -/
theorem letterErased_blanked (h : List Event) (refused taken failed : Bool) :
    letterErased true refused taken failed h = true ↔ standing refused taken failed h ≠ 0 := by
  induction h generalizing refused taken failed with
  | nil => simp [letterErased, standing]
  | cons e h ih =>
      cases e with
      | letter k => simp [letterErased, standing]
      | home => cases taken <;> simp [letterErased, standing, ih]
      | testBegun => cases failed <;> simp [letterErased, standing, ih]
      | homeTaken => exact ih _ _ _
      | homeRefused => exact ih _ _ _
      | testFailed => exact ih _ _ _
      | blanked => exact ih _ _ _

/-- Erased, the blanking being the last that wrote. -/
theorem letterErased_iff (h : List Event) (refused taken failed : Bool) :
    letterErased false refused taken failed h = true ↔
      blankedLast h = true ∧ standing refused taken failed h ≠ 0 := by
  induction h generalizing refused taken failed with
  | nil => simp [letterErased, blankedLast]
  | cons e h ih =>
      cases e with
      | letter k => simp [letterErased, blankedLast]
      | home => cases taken <;> simp [letterErased, standing, blankedLast, ih]
      | testBegun => cases failed <;> simp [letterErased, standing, blankedLast, ih]
      | homeTaken => exact ih _ _ _
      | homeRefused => exact ih _ _ _
      | testFailed => exact ih _ _ _
      | blanked =>
          rw [letterErased, letterErased_blanked, blankedLast, standing]
          simp

/-! ## §2. What every pass keeps. -/

/-- Unless the blanking wrote last, what is commanded is what stands; `refused`
for the moment in which a HOME that was taken may still be refused. -/
def Sound (refused : Bool) (h : List Event) : Prop :=
  blankedLast h = false → standing refused false false h = commanded h

/-- The commanded letter is a flap, and the history's. -/
structure Commanded (s : UnitState) : Prop where
  flap : s.receivedNumber < 45
  history : s.receivedNumber = commanded s.history

theorem receiveLetter_cases (s : UnitState) (frame : List UInt8) :
    (∃ k, k < 45 ∧ (receiveLetter s frame).receivedNumber = k ∧
      (receiveLetter s frame).unread = true ∧
      (receiveLetter s frame).history = .letter k :: s.history) ∨
    ((receiveLetter s frame).receivedNumber = s.receivedNumber ∧
      (receiveLetter s frame).unread = s.unread ∧
      ((receiveLetter s frame).history = s.history ∨
        (receiveLetter s frame).history = .home :: s.history)) := by
  unfold receiveLetter
  dsimp only
  split
  · exact .inr ⟨rfl, rfl, .inl rfl⟩
  · next firstByte args =>
    split
    · refine .inr ⟨rfl, rfl, ?_⟩
      unfold receiveCommand
      dsimp only
      split
      · exact .inr rfl
      · exact .inl rfl
    · next hflap =>
      split
      · refine .inl ⟨firstByte.toNat, ?_, rfl, rfl, rfl⟩
        have : firstByte < 45 := UInt8.not_le.mp hflap
        exact UInt8.lt_iff_toNat_lt.mp this
      · exact .inr ⟨rfl, rfl, .inl rfl⟩

theorem commanded_stable : Stable Commanded where
  frame := fun s frame hs => by
    rcases receiveLetter_cases s frame with ⟨k, hk, hr, -, hh⟩ | ⟨hr, -, hh | hh⟩
    · exact ⟨by rw [hr]; exact hk, by rw [hr, hh]; rfl⟩
    · exact ⟨by rw [hr]; exact hs.flap, by rw [hr, hh]; exact hs.history⟩
    · exact ⟨by rw [hr]; exact hs.flap, by rw [hr, hh]; exact hs.history⟩
  silent := fun s s' hsilent hs =>
    ⟨by rw [hsilent.receivedNumber]; exact hs.flap,
      by rw [hsilent.receivedNumber, hsilent.history]; exact hs.history⟩

theorem sound_stable (refused : Bool) : Stable fun s => Sound refused s.history where
  frame := fun s frame hs => by
    rcases receiveLetter_cases s frame with ⟨k, -, -, -, hh⟩ | ⟨-, -, hh | hh⟩
    · rw [hh]
      exact fun _ => rfl
    · rw [hh]
      exact hs
    · rw [hh]
      exact hs
  silent := fun s s' hsilent hs => by
    rw [hsilent.history]
    exact hs

theorem Stable.and {J K : UnitState → Prop} (hJ : Stable J) (hK : Stable K) :
    Stable fun s => J s ∧ K s where
  frame := fun s frame hs => ⟨hJ.frame s frame hs.1, hK.frame s frame hs.2⟩
  silent := fun s s' h hs => ⟨hJ.silent s s' h hs.1, hK.silent s s' h hs.2⟩

/-- Between passes. -/
def Kept (s : UnitState) : Prop := Commanded s ∧ Sound false s.history

theorem kept_stable : Stable Kept := commanded_stable.and (sound_stable false)

/-- The letter is blank and the blanking wrote last. -/
theorem Commanded.blank {s : UnitState} : Kept (blank s) := by
  refine ⟨⟨?_, rfl⟩, fun h => by cases h⟩
  show (0 : Nat) < 45
  omega

variable {low : Int → Outside → Bool}

theorem keepAwake_stable {J : UnitState → Prop} (hJ : Stable J) : Keeps J keepAwake :=
  Keeps.bind hJ.millis fun _ =>
    hJ.modify_same (fun _ => rfl) (fun _ => rfl) (fun _ => rfl) fun _ => rfl

theorem drain_keeps {asked : Pending → Bool} {take : UnitState → UnitState}
    {work : UnitState → UnitTask Unit} (htake : ∀ s, Silent s (take s))
    (hwork : ∀ s, Keeps Kept (work s)) : Keeps Kept (drain asked take work) := by
  unfold drain
  refine Keeps.bind kept_stable.window fun _ => Keeps.bind Keeps.get fun s => ?_
  refine Keeps.ite (fun _ => ?_) fun _ => Keeps.pure ()
  refine Keeps.bind kept_stable.window fun _ => Keeps.bind Keeps.get fun s => ?_
  exact Keeps.bind (kept_stable.modify htake) fun _ => hwork s

theorem reboot_keeps : Keeps Kept reboot :=
  Keeps.whileTrue (Keeps.bind kept_stable.window fun _ => Keeps.pure true)

theorem runBootUpdate_keeps : Keeps Kept runBootUpdate :=
  Keeps.whileTrue (Keeps.bind kept_stable.window fun _ => Keeps.pure _)

/-- A seek, and the letter blanked after it. -/
theorem homeAndBlank_sat : Sat Commanded (homeAndBlank low) (fun _ => Kept) Commanded := by
  unfold homeAndBlank
  refine Sat.bind (commanded_stable.calibrate true) fun _ =>
    Sat.bind commanded_stable.window fun _ => ?_
  refine Sat.bind (R := fun _ => Kept) (Sat.modify fun s _ => Commanded.blank) fun _ => ?_
  exact Sat.modify fun s hs => ⟨⟨hs.1.flap, hs.1.history⟩, hs.2⟩

/-- The HOME's answer: taken up and blanked, or refused and as if never sent. -/
theorem homeRequested_sat :
    Sat (fun s => Commanded s ∧ Sound true s.history) (homeRequested low) (fun _ => Kept)
      Commanded := by
  have hJ := commanded_stable.and (sound_stable true)
  have hcut : ∀ s, Commanded s ∧ Sound true s.history → Commanded s := fun _ hs => hs.1
  unfold homeRequested
  refine Sat.bind (Sat.mono hJ.millis (fun _ hs => hs) (fun _ _ hs => hs) hcut) fun now => ?_
  refine Sat.bind (R := fun _ s => Commanded s ∧ Sound true s.history)
    (Sat.get fun _ hs => hs) fun s => ?_
  refine Sat.ite (fun _ => homeAndBlank_sat.pre hcut) fun _ => ?_
  exact Sat.modify fun s hs => ⟨⟨hs.1.flap, hs.1.history⟩, hs.2⟩

theorem drainHome_sat : Sat Kept (drainHome low) (fun _ => Kept) Commanded := by
  have hcut : ∀ s, Kept s → Commanded s := fun _ hs => hs.1
  have hwindow : Sat Kept window (fun _ => Kept) Commanded :=
    Sat.mono kept_stable.window (fun _ hs => hs) (fun _ _ hs => hs) hcut
  unfold drainHome drain
  refine Sat.bind hwindow fun _ => Sat.bind (R := fun _ => Kept) (Sat.get fun _ hs => hs) fun s => ?_
  refine Sat.ite (fun _ => ?_) fun _ => Sat.pure () fun _ hs => hs
  refine Sat.bind hwindow fun _ => Sat.bind (R := fun _ => Kept) (Sat.get fun _ hs => hs) fun s => ?_
  refine Sat.bind (R := fun _ s => Commanded s ∧ Sound true s.history)
    (Sat.modify fun s hs => ⟨⟨hs.1.flap, hs.1.history⟩, hs.2⟩) fun _ => ?_
  refine Sat.bind homeRequested_sat fun _ => ?_
  exact Sat.mono (keepAwake_stable kept_stable) (fun _ hs => hs) (fun _ _ hs => hs) hcut

/-! ## §3. The self-test. -/

section SelfTest

variable {J : UnitState → Prop} (hJ : Stable J)

include hJ

theorem testStepOut_stable (guard : Nat) : Keeps J (testStepOut low guard) := by
  unfold testStepOut
  refine Keeps.bind hJ.hallReadsLow fun _ => Keeps.ite (fun _ => Keeps.pure _) fun _ => ?_
  exact Keeps.bind (hJ.stepCounted _) fun _ => Keeps.pure _

theorem testSeekEdge_stable (guard : Nat) : Keeps J (testSeekEdge low guard) := by
  unfold testSeekEdge
  refine Keeps.bind hJ.hallReadsLow fun _ => Keeps.ite (fun _ => Keeps.pure _) fun _ => ?_
  exact Keeps.bind (hJ.stepCounted _) fun _ => Keeps.pure _

theorem testApproach_stable : Keeps J (testApproach low) := by
  have hseek (guard : Nat) : Keeps J (iter (testSeekEdge low) guard) :=
    Keeps.iter (fun guard => testSeekEdge_stable hJ guard) guard
  unfold testApproach
  refine Keeps.bind hJ.hallReadsLow fun _ => Keeps.ite (fun _ => ?_) fun _ => hseek 0
  refine Keeps.bind (Keeps.iter (fun guard => testStepOut_stable hJ guard) 0) fun out => ?_
  cases out with
  | none => exact Keeps.pure false
  | some guard => exact Keeps.bind (hJ.stepCounted _) fun _ => hseek _

theorem testRevolutionStep_stable (r : Revolution) : Keeps J (testRevolutionStep low r) := by
  unfold testRevolutionStep
  refine Keeps.bind (hJ.stepCounted _) fun _ => Keeps.ite (fun _ => Keeps.pure _) fun _ => ?_
  exact Keeps.bind hJ.hallReadsLow fun _ => Keeps.pure _

theorem testMeasure_stable : Keeps J (testMeasure low) := by
  unfold testMeasure
  refine Keeps.bind (testApproach_stable hJ) fun _ => Keeps.ite (fun _ => ?_) fun _ => Keeps.pure _
  refine Keeps.bind ?_ fun _ => Keeps.iter (fun r => testRevolutionStep_stable hJ r) _
  exact hJ.modify_same (fun _ => rfl) (fun _ => rfl) (fun _ => rfl) fun _ => rfl

theorem testPass_stable (windowSteps : Nat) : Keeps J (testPass windowSteps) := by
  have hsame {f : UnitState → UnitState} (hf : ∀ s, Silent s (f s)) :
      Keeps J (TaskM.modify f : UnitTask Unit) := hJ.modify hf
  unfold testPass
  refine Keeps.bind (hsame fun _ => ⟨rfl, rfl, rfl, List.suffix_refl _⟩) fun _ =>
    Keeps.bind Keeps.get fun s => Keeps.bind (hJ.stepCounted _) fun _ => ?_
  refine Keeps.bind (hsame fun _ => ⟨rfl, rfl, rfl, List.suffix_refl _⟩) fun _ =>
    Keeps.bind (hJ.noteHome true) fun _ => ?_
  exact hsame fun _ => ⟨rfl, rfl, rfl, List.suffix_refl _⟩

end SelfTest

/-- A failed test blanks the letter, whatever came in while it ran. -/
theorem testFail_sat : Sat Kept testFail (fun _ => Kept) Commanded := by
  have hcut : ∀ s, Kept s → Commanded s := fun _ hs => hs.1
  unfold testFail
  refine Sat.bind (R := fun _ => Commanded)
    (Sat.modify fun s hs => ⟨hs.1.flap, hs.1.history⟩) fun _ =>
      Sat.bind commanded_stable.window fun _ => ?_
  refine Sat.bind (R := fun _ => Kept) (Sat.modify fun s _ => Commanded.blank) fun _ => ?_
  refine Sat.bind (R := fun _ => Kept)
    (Sat.modify fun s hs => ⟨⟨hs.1.flap, hs.1.history⟩, hs.2⟩) fun _ => ?_
  exact Sat.mono (kept_stable.noteHome false) (fun _ hs => hs) (fun _ _ hs => hs) hcut

theorem runSelfTest_sat : Sat Kept (runSelfTest low) (fun _ => Kept) Commanded := by
  have hcut : ∀ s, Kept s → Commanded s := fun _ hs => hs.1
  have hkeeps {β : Type} {t : UnitTask β} (h : Keeps Kept t) : Sat Kept t (fun _ => Kept) Commanded :=
    Sat.mono h (fun _ hs => hs) (fun _ _ hs => hs) hcut
  unfold runSelfTest
  -- a test that has begun is nothing yet
  refine Sat.bind (R := fun _ => Kept)
    (Sat.modify fun s hs => ⟨⟨hs.1.flap, hs.1.history⟩, hs.2⟩) fun _ => ?_
  refine Sat.bind (hkeeps kept_stable.startMotor) fun _ =>
    Sat.bind (hkeeps (testMeasure_stable kept_stable)) fun measured => ?_
  refine Sat.bind (R := fun _ => Kept) ?_ fun _ => ?_
  · cases measured with
    | some windowSteps => exact hkeeps (testPass_stable kept_stable windowSteps)
    | none => exact testFail_sat
  · refine Sat.bind (hkeeps kept_stable.millis) fun now => Sat.bind (R := fun _ => Kept) ?_ fun _ =>
      hkeeps kept_stable.stopMotor
    exact hkeeps (kept_stable.modify_same (fun _ => rfl) (fun _ => rfl) (fun _ => rfl) fun _ => rfl)

/-! ## §4. A pass. -/

/-- The letter shown is the one commanded, unless a letter came that was not
looked at, or the move to it is still owed. -/
def Shown (s : UnitState) : Prop :=
  s.unread = false → s.currentlyrotating = false → s.homeBackoff.consecutiveFails = 0 →
    s.displayedLetter = s.receivedNumber

/-- The call for letter `n` is over: it is there, or the unit says busy, or a
retry is owed. -/
def Reached (n : Nat) (s : UnitState) : Prop :=
  s.currentlyrotating = false → s.homeBackoff.consecutiveFails = 0 → s.displayedLetter = n

/-- The letter that was looked at, as long as no other has come. -/
def Asked (n : Nat) (s : UnitState) : Prop := s.unread = false → s.receivedNumber = n

theorem asked_stable (n : Nat) : Stable (Asked n) where
  frame := fun s frame hs => by
    unfold Asked
    rcases receiveLetter_cases s frame with ⟨k, -, -, hu, -⟩ | ⟨hr, hu, -⟩
    · rw [hu]
      exact fun h => Bool.noConfusion h
    · rw [hu, hr]
      exact hs
  silent := fun s s' h hs => by
    unfold Asked
    rw [h.unread, h.receivedNumber]
    exact hs

/-- Anything may happen first. -/
theorem sat_any {β : Type} (t : UnitTask β) :
    Sat (fun _ => True) t (fun _ _ => True) fun _ => True :=
  Sat.any (fun _ _ => trivial) fun _ => trivial

theorem noteHome_fails :
    Sat (fun _ => True) (noteHome false) (fun _ s => s.homeBackoff.consecutiveFails ≠ 0)
      fun _ => True := by
  unfold noteHome
  refine Sat.bind (sat_any _) fun now => Sat.modify fun s _ => ?_
  show (if s.homeBackoff.consecutiveFails < 0xFF then s.homeBackoff.consecutiveFails + 1
    else s.homeBackoff.consecutiveFails) ≠ 0
  generalize s.homeBackoff.consecutiveFails = fails
  -- the count saturates, so it never comes round to 0
  split
  · next h =>
    intro h0
    have h1 := congrArg UInt8.toNat h0
    have h2 : fails.toNat < 255 := UInt8.lt_iff_toNat_lt.mp h
    rw [UInt8.toNat_add] at h1
    have h3 : (fails.toNat + 1) % 256 = 0 := h1
    omega
  · next h =>
    rintro rfl
    exact h (by decide)

theorem giveUpOr_fails (i : Nat) :
    Sat (fun _ => True) (giveUpOr i) (fun r s => Sum.elim (fun _ => True)
      (fun o => o = none → s.homeBackoff.consecutiveFails ≠ 0) r) fun _ => True := by
  refine Sat.ite (fun _ => ?_) fun _ => Sat.pure _ fun _ _ => trivial
  refine Sat.bind (sat_any _) fun _ => Sat.bind (sat_any _) fun _ => Sat.bind noteHome_fails fun _ => ?_
  exact Sat.pure _ fun s hs _ => hs

/-- A seek that finds nothing leaves a retry owed. -/
theorem calibrate_fails (initialCalibration : Bool) :
    Sat (fun _ => True) (calibrate low initialCalibration)
      (fun o s => o = none → s.homeBackoff.consecutiveFails ≠ 0) fun _ => True := by
  unfold calibrate
  refine Sat.bind (sat_any _) fun _ => Sat.iter (I := fun _ _ => True) (fun i => ?_)
    (fun _ _ _ => trivial) 0
  unfold seekTurn
  refine Sat.bind (sat_any _) fun isLow => Sat.ite (fun _ => ?_) fun _ => Sat.ite (fun _ => ?_)
    fun _ => Sat.ite (fun _ => ?_) fun _ => ?_
  · exact Sat.bind (sat_any _) fun _ => Sat.bind (sat_any _) fun i => giveUpOr_fails i
  · exact Sat.bind (sat_any _) fun _ => Sat.pure _ fun _ _ h => by cases h
  · exact Sat.bind (sat_any _) fun _ => giveUpOr_fails 50
  · exact Sat.bind (sat_any _) fun _ => giveUpOr_fails i

theorem arrive_reached (n : Nat) :
    Sat (fun _ => True) (arrive n) (fun _ => Reached n) fun _ => True := by
  have hwindow : Sat (fun s => s.displayedLetter = n) window (fun _ s => s.displayedLetter = n)
      fun _ => True :=
    Sat.mono (window_heard fun s s' h hs => h.displayedLetter.trans hs) (fun _ hs => hs)
      (fun _ _ hs => hs) fun _ _ => trivial
  unfold arrive stopMotor
  refine Sat.bind (R := fun _ s => s.displayedLetter = n) (Sat.modify fun _ _ => rfl) fun _ =>
    Sat.bind hwindow fun _ => ?_
  refine Sat.bind (R := fun _ s => s.displayedLetter = n) (Sat.modify fun _ hs => hs) fun _ =>
    Sat.bind hwindow fun _ => Sat.pure () fun s hs => ?_
  exact fun _ _ => hs

theorem startMotor_reached (n : Nat) :
    Sat (fun _ => True) startMotor (fun _ => Reached n) fun _ => True :=
  Sat.modify fun _ _ h => by cases h

theorem rotateToLetter_reached {n : Nat} (hn : n < 45) :
    Sat (fun _ => True) (rotateToLetter low n) (fun _ => Reached n) fun _ => True := by
  have hflap : ¬AMOUNTFLAPS.toNat ≤ n := by
    have : AMOUNTFLAPS.toNat = 45 := rfl
    omega
  unfold rotateToLetter
  rw [if_neg hflap]
  refine Sat.bind (sat_any _) fun now =>
    Sat.bind (R := fun s s' => s' = s) (Sat.get fun _ _ => rfl) fun s => ?_
  refine Sat.ite (fun hwait => Sat.pure () fun s' hs' _ hfails => ?_) fun _ => ?_
  · -- the gap after a failure is not over, so a failure there was
    have hwait := hwait.2
    rw [hs'] at hfails
    unfold homeAttemptAllowed at hwait
    rw [decide_eq_true hfails] at hwait
    cases hwait
  unfold moveGated
  refine Sat.bind ((sat_any _).pre fun _ _ => trivial) fun now =>
    Sat.bind (sat_any _) fun s => Sat.ite (fun _ => ?_) fun _ => startMotor_reached n
  refine Sat.bind (sat_any _) fun holds => Sat.ite (fun _ => startMotor_reached n) fun _ => ?_
  unfold move
  refine Sat.bind (sat_any _) fun now => Sat.bind (sat_any _) fun _ => Sat.bind (sat_any _) fun s => ?_
  refine Sat.ite (fun _ => ?_) fun _ => ?_
  · exact Sat.bind (sat_any _) fun _ => Sat.bind (sat_any _) fun s => Sat.bind (sat_any _) fun _ =>
      arrive_reached n
  · unfold moveRound
    refine Sat.bind (calibrate_fails false) fun o => Sat.ite (fun ho => ?_) fun _ => ?_
    · refine Sat.pure () fun s hs _ hfails => absurd hfails (hs ?_)
      exact Option.isNone_iff_eq_none.mp ho
    · exact Sat.bind ((sat_any _).pre fun _ _ => trivial) fun _ => arrive_reached n

theorem look_sat : Sat Kept (look) (fun s s' => Kept s' ∧ s' = s ∧ s.unread = false) Commanded := by
  unfold look
  refine Sat.bind (Sat.mono kept_stable.window (fun _ hs => hs) (fun _ _ hs => hs)
    fun _ hs => hs.1) fun _ => ?_
  refine Sat.bind (R := fun _ s => Kept s ∧ s.unread = false)
    (Sat.modify fun s hs => ⟨⟨⟨hs.1.flap, hs.1.history⟩, hs.2⟩, rfl⟩) fun _ => ?_
  exact Sat.get fun s hs => ⟨hs.1, rfl, hs.2⟩

/-- The last thing in a pass: what was looked at is shown, or owed. -/
theorem letterCheck_sat :
    Sat Kept (letterCheck low) (fun _ s => Kept s ∧ Shown s) Commanded := by
  unfold letterCheck
  refine Sat.bind look_sat fun s => Sat.ite (fun _ => ?_) fun hsame => ?_
  · refine Sat.bind (look_sat.pre fun _ hs => hs.1) fun s => Sat.each_state fun s' hs' => ?_
    obtain ⟨hkept, rfl, hread⟩ := hs'
    have hstable := kept_stable.and (asked_stable s'.receivedNumber)
    have hkeeps : Keeps _ (rotateToLetter low s'.receivedNumber) := hstable.rotateToLetter _
    have hmove := Sat.and hkeeps ((rotateToLetter_reached hkept.1.flap).pre fun _ _ => trivial)
    refine hmove.mono (fun s hs => ?_) (fun _ s hs => ⟨hs.1.1, ?_⟩) fun s hs => hs.1.1.1
    · rw [hs]
      exact ⟨hkept, fun _ => rfl⟩
    · intro hunread hstill hfails
      rw [hs.1.2 hunread]
      exact hs.2 hstill hfails
  · refine Sat.modify fun s' hs' => ?_
    obtain ⟨hkept, rfl, hread⟩ := hs'
    have heq : s'.displayedLetter = s'.receivedNumber := by
      by_cases h : s'.displayedLetter = s'.receivedNumber
      · exact h
      · exact absurd (.inl h) hsame
    unfold letterWithdrawn
    split
    · exact ⟨⟨⟨hkept.1.flap, hkept.1.history⟩, hkept.2⟩, fun _ _ _ => heq⟩
    · exact ⟨hkept, fun _ _ _ => heq⟩

/-- What keeps the letters between passes, wherever it stops. -/
theorem keeps_sat {β : Type} {t : UnitTask β} (h : Keeps Kept t) :
    Sat Kept t (fun _ => Kept) Commanded :=
  Sat.mono h (fun _ hs => hs) (fun _ _ hs => hs) fun _ hs => hs.1

theorem silent_of_same {s s' : UnitState} (hr : s'.receivedNumber = s.receivedNumber)
    (hh : s'.history = s.history) (hu : s'.unread = s.unread) (hm : s'.homings = s.homings) :
    Silent s s' := ⟨hr, hh, hu, hm ▸ List.suffix_refl _⟩

theorem keepAwake_keeps : Keeps Kept keepAwake := keepAwake_stable kept_stable

theorem silenceCheck_keeps : Keeps Kept silenceCheck :=
  Keeps.bind kept_stable.window fun _ =>
    kept_stable.modify fun _ => silent_of_same rfl rfl rfl rfl

theorem drainBootloader_keeps : Keeps Kept drainBootloader :=
  drain_keeps (fun _ => silent_of_same rfl rfl rfl rfl) fun _ => reboot_keeps

theorem drainOffsetWrite_keeps : Keeps Kept drainOffsetWrite :=
  drain_keeps (fun _ => silent_of_same rfl rfl rfl rfl) fun _ => keepAwake_keeps

theorem drainGatesWrite_keeps : Keeps Kept drainGatesWrite :=
  drain_keeps (fun _ => silent_of_same rfl rfl rfl rfl) fun _ =>
    Keeps.bind (kept_stable.modify fun _ => silent_of_same rfl rfl rfl rfl) fun _ => keepAwake_keeps

theorem drainBootUpdate_keeps : Keeps Kept drainBootUpdate :=
  drain_keeps (fun _ => silent_of_same rfl rfl rfl rfl) fun _ =>
    Keeps.bind runBootUpdate_keeps fun _ => keepAwake_keeps

theorem drainJog_keeps : Keeps Kept drainJog := by
  refine drain_keeps (fun _ => silent_of_same rfl rfl rfl rfl) fun asked => ?_
  refine Keeps.bind kept_stable.startMotor fun _ => Keeps.bind (kept_stable.stepCounted _) fun _ =>
    Keeps.bind kept_stable.stopMotor fun _ => Keeps.bind kept_stable.millis fun now => ?_
  exact Keeps.bind (kept_stable.modify fun _ => silent_of_same rfl rfl rfl rfl) fun _ =>
    keepAwake_keeps

theorem drainSetAddress_keeps : Keeps Kept drainSetAddress := by
  refine drain_keeps (fun _ => silent_of_same rfl rfl rfl rfl) fun asked => ?_
  refine kept_stable.modify fun s => ?_
  unfold addressTaken
  split
  · exact silent_of_same rfl rfl rfl rfl
  · exact silent_of_same rfl rfl rfl rfl

theorem drainClearAddress_keeps : Keeps Kept drainClearAddress :=
  drain_keeps (fun _ => silent_of_same rfl rfl rfl rfl) fun _ =>
    kept_stable.modify fun _ => silent_of_same rfl rfl rfl rfl

theorem drainOdometerReset_keeps : Keeps Kept drainOdometerReset :=
  drain_keeps (fun _ => silent_of_same rfl rfl rfl rfl) fun _ => keepAwake_keeps

theorem drainIdentify_keeps : Keeps Kept drainIdentify :=
  drain_keeps (fun _ => silent_of_same rfl rfl rfl rfl) fun _ =>
    Keeps.bind kept_stable.millis fun _ =>
      kept_stable.modify fun _ => silent_of_same rfl rfl rfl rfl

/-- The self-test's drain: taken, and run to its end. -/
theorem drainSelfTest_sat : Sat Kept (drainSelfTest low) (fun _ => Kept) Commanded := by
  unfold drainSelfTest drain
  refine Sat.bind (keeps_sat kept_stable.window) fun _ =>
    Sat.bind (R := fun _ => Kept) (Sat.get fun _ hs => hs) fun s => ?_
  refine Sat.ite (fun _ => ?_) fun _ => Sat.pure () fun _ hs => hs
  refine Sat.bind (keeps_sat kept_stable.window) fun _ =>
    Sat.bind (R := fun _ => Kept) (Sat.get fun _ hs => hs) fun s => ?_
  refine Sat.bind (keeps_sat (kept_stable.modify fun _ => silent_of_same rfl rfl rfl rfl)) fun _ =>
    Sat.bind runSelfTest_sat fun _ => keeps_sat keepAwake_keeps

theorem identifyBlink_silent (now : UInt32) (s : UnitState) : Silent s (identifyBlink now s) := by
  unfold identifyBlink
  dsimp only
  split
  · exact silent_of_same rfl rfl rfl rfl
  · exact silent_of_same rfl rfl rfl rfl

theorem bootSelfHome_sat (now : UInt32) : Sat Kept (bootSelfHome low now) (fun _ => Kept) Commanded := by
  unfold bootSelfHome
  refine Sat.bind (keeps_sat kept_stable.window) fun _ =>
    Sat.bind (R := fun _ => Kept) (Sat.get fun _ hs => hs) fun s => ?_
  refine Sat.ite (fun _ => ?_) fun _ => Sat.pure () fun _ hs => hs
  exact Sat.bind (homeAndBlank_sat.pre fun _ hs => hs.1) fun _ => keeps_sat keepAwake_keeps

theorem idleSample_keeps (now : UInt32) : Keeps Kept (idleSample now) := by
  refine Keeps.bind kept_stable.window fun o => kept_stable.modify fun s => ?_
  split
  · exact silent_of_same rfl rfl rfl rfl
  · exact silent_of_same rfl rfl rfl rfl

theorem idleHallCheck_keeps (now : UInt32) : Keeps Kept (idleHallCheck low now) := by
  unfold idleHallCheck
  refine Keeps.bind kept_stable.window fun _ => Keeps.bind Keeps.get fun s => ?_
  refine Keeps.ite (fun _ => ?_) fun _ => Keeps.ite (fun _ => ?_) fun _ => Keeps.pure ()
  · exact kept_stable.modify fun _ => silent_of_same rfl rfl rfl rfl
  · exact Keeps.bind kept_stable.hallReadsLow fun isLow =>
      kept_stable.modify fun _ => silent_of_same rfl rfl rfl rfl

theorem rehomeJudged_silent (before s : UnitState) : Silent s (rehomeJudged before s) := by
  unfold rehomeJudged
  dsimp only
  split
  · exact silent_of_same rfl rfl rfl rfl
  · split
    · exact silent_of_same rfl rfl rfl rfl
    · exact silent_of_same rfl rfl rfl rfl

theorem driftRehome_keeps (now : UInt32) : Keeps Kept (driftRehome low now) := by
  unfold driftRehome
  refine Keeps.bind kept_stable.window fun _ => Keeps.bind Keeps.get fun s => ?_
  refine Keeps.ite (fun _ => ?_) fun _ => Keeps.pure ()
  refine Keeps.bind (kept_stable.modify fun _ => silent_of_same rfl rfl rfl rfl) fun _ =>
    Keeps.bind (kept_stable.calibrate true) fun _ => ?_
  exact Keeps.bind (kept_stable.modify (rehomeJudged_silent s)) fun _ => keepAwake_keeps

theorem sleepGate_keeps (now : UInt32) : Keeps Kept (sleepGate now) := by
  refine Keeps.bind kept_stable.window fun o => kept_stable.modify fun s => ?_
  split
  · exact silent_of_same rfl rfl rfl rfl
  · exact silent_of_same rfl rfl rfl rfl

/-- A pass keeps the letters, and shows what it looked at. -/
theorem loop_sat : Sat Kept (loop low) (fun _ s => Kept s ∧ Shown s) Commanded := by
  unfold loop
  refine Sat.bind (keeps_sat silenceCheck_keeps) fun _ =>
    Sat.bind (keeps_sat drainBootloader_keeps) fun _ =>
    Sat.bind (keeps_sat drainOffsetWrite_keeps) fun _ =>
    Sat.bind (keeps_sat drainGatesWrite_keeps) fun _ =>
    Sat.bind (keeps_sat drainBootUpdate_keeps) fun _ => Sat.bind drainHome_sat fun _ => ?_
  refine Sat.bind (keeps_sat drainJog_keeps) fun _ =>
    Sat.bind (keeps_sat drainSetAddress_keeps) fun _ =>
    Sat.bind (keeps_sat drainClearAddress_keeps) fun _ =>
    Sat.bind (keeps_sat drainOdometerReset_keeps) fun _ => Sat.bind drainSelfTest_sat fun _ => ?_
  refine Sat.bind (keeps_sat drainIdentify_keeps) fun _ =>
    Sat.bind (keeps_sat kept_stable.millis) fun now =>
    Sat.bind (keeps_sat (kept_stable.modify (identifyBlink_silent now))) fun _ =>
    Sat.bind (bootSelfHome_sat now) fun _ => ?_
  refine Sat.bind (keeps_sat (idleSample_keeps now)) fun _ =>
    Sat.bind (keeps_sat (idleHallCheck_keeps now)) fun _ =>
    Sat.bind (keeps_sat (driftRehome_keeps now)) fun _ =>
    Sat.bind (keeps_sat (sleepGate_keeps now)) fun _ => letterCheck_sat

theorem passes_sat (n : Nat) :
    Sat (fun s => Kept s ∧ Shown s) (passes low n) (fun _ s => Kept s ∧ Shown s) Commanded := by
  induction n with
  | zero => exact Sat.pure () fun _ hs => hs
  | succ n ih => exact Sat.bind (loop_sat.pre fun _ hs => hs.1) fun _ => ih

theorem setup_kept (e : Stored) (turned : Int) : Kept (setup e turned) := by
  refine ⟨⟨?_, rfl⟩, fun _ => rfl⟩
  show (0 : Nat) < 45
  omega

/-! ## §5. The last letter. -/

/-- Nothing that a frame asked for is left to do. -/
def Pending.None (p : Pending) : Prop :=
  p.bootloader = false ∧ p.offsetWrite = false ∧ p.gatesWrite = false ∧ p.bootUpdate = false ∧
    p.home = false ∧ p.jogSteps = 0 ∧ p.setAddress = false ∧ p.clearAddress = false ∧
    p.odometerReset = false ∧ p.selfTest = false ∧ p.identify = false

/-- At rest between two passes: no command pending, a letter that was not
looked at being one, the drum still and no retry owed. -/
structure AtRest (s : UnitState) : Prop where
  pending : s.pending.None
  looked : s.unread = false
  still : s.currentlyrotating = false
  noRetry : homeRetryOwed s.homeBackoff = false

/-- The letter by the frames, everything that was heard and done behind it. -/
def lastWord (s : UnitState) : Nat := standing false false false s.history

/-- The frame that is the last word came in while the unit was homing, or
failing a self-test, and the end of that blanked it. -/
def Erased (s : UnitState) : Prop := letterErased false false false false s.history = true

/-- A magnet at step 50, and nothing else in the outside's hands. -/
def magnetAt50 (turned : Int) (_ : Outside) : Bool := turned = 50

def quietFor (n : Nat) : List Outside := List.replicate n {}

/-- A unit that boots to a letter frame seeks the marker and shows the letter. -/
def letterRun : Option (Unit × List Outside) × UnitState :=
  passes magnetAt50 1 (setup {} 0) ({ frames := [[1, 8]] } :: quietFor 200)

/-- A HOME, and a letter frame while its seek is under way. -/
def homeRun : Option (Unit × List Outside) × UnitState :=
  passes magnetAt50 1 (setup {} 0)
    ({ frames := [[0x90, 0x6F]] } :: quietFor 8 ++ { frames := [[5, 8]] } :: quietFor 40)

instance (p : Pending) : Decidable p.None := by
  unfold Pending.None
  infer_instance

theorem atRest_iff (s : UnitState) : AtRest s ↔ s.pending.None ∧ s.unread = false ∧
    s.currentlyrotating = false ∧ homeRetryOwed s.homeBackoff = false :=
  ⟨fun h => ⟨h.pending, h.looked, h.still, h.noRetry⟩, fun h => ⟨h.1, h.2.1, h.2.2.1, h.2.2.2⟩⟩

instance (s : UnitState) : Decidable (AtRest s) := decidable_of_iff' _ (atRest_iff s)

instance (s : UnitState) : Decidable (Erased s) := inferInstanceAs (Decidable (_ = _))

end Motion

end SplitFlap
