/-
  SplitFlap.Board.Verdict — what a wrong-letter verdict is about.

  Frames, re-shows, reads and folds come in any order.  A fold judges the units
  read since the last frame and leaves the others the verdict they had; which
  is which goes by two 32-bit stamps.  A verdict comes from a read after the
  last frame that changed the unit's letter and after the last re-show, and a
  unit read since the last frame carries the verdict of its latest read
  (`verdict_about_last_frame`), where every unit judged with a letter other
  than the frame's had its status read as well.  A read that missed the status
  alone judges a drum that turns (`verdict_of_turning_drum`).
-/
import SplitFlap.Board.Snapshot
import SplitFlap.Lib.Machine

namespace SplitFlap.Shown

open Bus (UNITS_AMOUNT Letters UNIT_FLAG_MOVING heartbeatApply)
open Machine (run AllMeet)

/-! ## §1. The row. -/

/-- A unit's facts, and when its status was last read since they were rebuilt. -/
structure Reading where
  fact : UnitFacts := {}
  seenAt : Option Nat := none

/-- A read at `now`: a status that came is stamped; without one the stamp stays,
or is none where a scan rebuilt the facts. -/
def Reading.next (r : Reading) (now : Nat) (fact : UnitFacts) (rebuilt : Bool) : Reading :=
  if fact.statusValid then
    { fact := { fact with lastSeenMs := UInt32.ofNat now }, seenAt := some now }
  else if rebuilt then { fact := { fact with lastSeenMs := 0 }, seenAt := none }
  else { fact := { fact with lastSeenMs := r.fact.lastSeenMs }, seenAt := r.seenAt }

/-- displayTask's facts and snapshot.  The last five fields are history: when
the row was shown last, shown the same again, shown another letter of a unit,
and what the folds saw of a unit, newest first, in all and since it was shown. -/
structure Row where
  now : Nat := 0
  readings : Fin UNITS_AMOUNT → Reading := fun _ => {}
  snap : DisplaySnapshot := {}
  shownAt : Option Nat := none
  reshownAt : Option Nat := none
  changedAt : Fin UNITS_AMOUNT → Option Nat := fun _ => none
  folded : Fin UNITS_AMOUNT → List Reading := fun _ => []
  foldedSince : Fin UNITS_AMOUNT → List Reading := fun _ => []

inductive RowOp
  | pass (ms : Nat)
  | read (i : Fin UNITS_AMOUNT) (fact : UnitFacts) (rebuilt : Bool)
  | frame (letters : Letters)
  | reshow
  | fold (maxUnits widthOverride : Nat)

def Row.read (r : Row) (i : Fin UNITS_AMOUNT) (fact : UnitFacts) (rebuilt : Bool) : Row :=
  { r with
    readings := Function.update r.readings i ((r.readings i).next r.now fact rebuilt) }

def Row.frame (r : Row) (letters : Letters) : Row :=
  { r with
    snap := displayApplyFrame r.snap letters (UInt32.ofNat r.now)
    shownAt := some r.now
    changedAt := fun i =>
      if !r.snap.lastFrameValid || r.snap.lastFrameLetters i ≠ letters i then some r.now
      else r.changedAt i
    foldedSince := fun _ => [] }

def Row.reshow (r : Row) : Row :=
  { r with
    snap := displayApplyReshow r.snap (UInt32.ofNat r.now)
    shownAt := some r.now
    reshownAt := some r.now
    foldedSince := fun _ => [] }

def Row.fold (r : Row) (maxUnits widthOverride : Nat) : Row :=
  { r with
    snap := displayApplyUnitFacts r.snap (fun i => (r.readings i).fact) maxUnits widthOverride
    folded := fun i =>
      if i.val < maxUnits then r.readings i :: r.folded i else r.folded i
    foldedSince := fun i =>
      if i.val < maxUnits then r.readings i :: r.foldedSince i else r.foldedSince i }

def rowStep (r : Row) : RowOp → Option Row
  | .pass ms => some { r with now := r.now + ms }
  | .read i fact rebuilt => some (r.read i fact rebuilt)
  | .frame letters => some (r.frame letters)
  | .reshow => some r.reshow
  | .fold maxUnits widthOverride => some (r.fold maxUnits widthOverride)

/-- Of the status nothing is learnt, and of when it came. -/
def SameRead (u u' : PolledUnit) : Prop :=
  u'.fact.statusValid = u.fact.statusValid ∧ u'.fact.lastSeenMs = u.fact.lastSeenMs

theorem SameRead.trans {u u' u'' : PolledUnit} (h : SameRead u u') (h' : SameRead u' u'') :
    SameRead u u'' := ⟨h'.1.trans h.1, h'.2.trans h.2⟩

theorem learnt_sameRead (expectedCrc32 : UInt32) (u : PolledUnit) (o : Learnt) :
    SameRead u (learnt expectedCrc32 u o) := by
  have hodometer (u : PolledUnit) o : SameRead u (withOdometer u o) := ⟨rfl, rfl⟩
  have hdiag (u : PolledUnit) o : SameRead u (withDiag u o) := ⟨rfl, rfl⟩
  have hvitals (u : PolledUnit) o : SameRead u (withVitals u o) := ⟨rfl, rfl⟩
  have hext (u : PolledUnit) d l : SameRead u (withExt u d l) := ⟨rfl, rfl⟩
  have hlifetime (u : PolledUnit) o : SameRead u (withLifetime u o) := ⟨rfl, rfl⟩
  have hbus (u : PolledUnit) o : SameRead u (withBusRecord u o) := ⟨rfl, rfl⟩
  have hboot (u : PolledUnit) o : SameRead u (withBoot expectedCrc32 u o) := ⟨rfl, rfl⟩
  unfold learnt
  exact ((((((hodometer _ _).trans (hdiag _ _)).trans (hvitals _ _)).trans (hext _ _ _)).trans
    (hlifetime _ _)).trans (hbus _ _)).trans (hboot _ _)

/-- A heartbeat's poll, stamped, is a read. -/
theorem heartbeat_reads (expectedCrc32 : UInt32) (u : PolledUnit) (status : Option UnitStatus)
    (o : Learnt) (now : Nat) (threshold : UInt8) (r : Reading) (hr : r.fact = u.fact)
    (hstate : u.fact.state = 1) :
    ∃ fact, heartbeatApply (learnt expectedCrc32 (withStatus u status) o).fact status.isSome
      (UInt32.ofNat now) threshold = (r.next now fact false).fact := by
  refine ⟨heartbeatApply (learnt expectedCrc32 (withStatus u status) o).fact status.isSome
    (UInt32.ofNat now) threshold, ?_⟩
  have hrunning : (learnt expectedCrc32 (withStatus u status) o).fact.state = 1 := hstate
  obtain ⟨hvalid, hseen⟩ := learnt_sameRead expectedCrc32 (withStatus u status) o
  -- which replies came is of no account from here on
  generalize (learnt expectedCrc32 (withStatus u status) o).fact = fact at *
  have hseen : fact.lastSeenMs = u.fact.lastSeenMs := hseen
  unfold heartbeatApply
  rw [if_neg (not_not.mpr hrunning), show status.isSome = fact.statusValid from hvalid.symm]
  unfold Reading.next
  dsimp only
  cases hok : fact.statusValid with
  | true => rfl
  | false =>
      rw [hr, ← hseen]
      rfl

/-! ## §2. What is promised. -/

/-- Read after `t`, when there was such a time. -/
def ReadAfter (f : Reading) (t : Option Nat) : Prop :=
  ∃ s, f.seenAt = some s ∧ ∀ t', t = some t' → t' < s

/-- A read with its status in it, which says the drum stands. -/
def AtRest (u : UnitFacts) : Prop :=
  u.statusValid = true ∧ u.status.flags &&& UNIT_FLAG_MOVING = 0

/-- Found at rest, its position known, on another letter. -/
def FoundWrong (u : UnitFacts) (letter : UInt8) : Prop :=
  AtRest u ∧ physKnown u = true ∧ u.physLetter ≠ letter

/-- A fold saw unit `i` read after the row was shown; a stamp of 0 is a unit
never read. -/
def Row.ReadSinceShown (r : Row) (i : Fin UNITS_AMOUNT) : Prop :=
  ∃ f ∈ r.foldedSince i, f.fact.lastSeenMs ≠ 0 ∧ ReadAfter f r.shownAt

/-- Less than 2^31 ms apart, either way round. -/
def Near (s t : Nat) : Prop := s < t + 2 ^ 31 ∧ t < s + 2 ^ 31

/-- The two stamps a fold compares are near. -/
def OneClock (r : Row) : RowOp → Prop
  | .fold maxUnits _ => ∀ i : Fin UNITS_AMOUNT, i.val < maxUnits →
      ∀ s ∈ (r.readings i).seenAt, ∀ t ∈ r.shownAt, Near s t
  | _ => True

/-- Every unit the fold judges to stand on another letter had its status read. -/
def StatusRead (r : Row) : RowOp → Prop
  | .fold maxUnits _ => ∀ i : Fin UNITS_AMOUNT, i.val < maxUnits →
      r.snap.lastFrameValid = true → stillUnread r.snap (r.readings i).fact i = false →
        physKnown (r.readings i).fact = true →
          (r.readings i).fact.physLetter ≠ r.snap.lastFrameLetters i →
            (r.readings i).fact.statusValid = true
  | _ => True

instance (s t : Nat) : Decidable (Near s t) := inferInstanceAs (Decidable (_ ∧ _))

instance (r : Row) (op : RowOp) : Decidable (OneClock r op) :=
  match op with
  | .fold maxUnits _ => inferInstanceAs (Decidable (∀ i : Fin UNITS_AMOUNT, i.val < maxUnits →
      ∀ s ∈ (r.readings i).seenAt, ∀ t ∈ r.shownAt, Near s t))
  | .pass _ => isTrue trivial
  | .read _ _ _ => isTrue trivial
  | .frame _ => isTrue trivial
  | .reshow => isTrue trivial

instance (r : Row) (op : RowOp) : Decidable (StatusRead r op) :=
  match op with
  | .fold maxUnits _ => inferInstanceAs (Decidable (∀ i : Fin UNITS_AMOUNT, i.val < maxUnits →
      r.snap.lastFrameValid = true → stillUnread r.snap (r.readings i).fact i = false →
        physKnown (r.readings i).fact = true →
          (r.readings i).fact.physLetter ≠ r.snap.lastFrameLetters i →
            (r.readings i).fact.statusValid = true))
  | .pass _ => isTrue trivial
  | .read _ _ _ => isTrue trivial
  | .frame _ => isTrue trivial
  | .reshow => isTrue trivial

/-! ## §3. Stamps. -/

theorem stamp_after_iff {s t : Nat} (h : Near s t) :
    0 < (UInt32.ofNat s - UInt32.ofNat t).toInt32 ↔ t < s := by
  obtain ⟨hbelow, habove⟩ := h
  rw [Bus.toInt32_pos]
  simp only [UInt32.toNat_sub, UInt32.toNat_ofNat']
  omega

/-- The reading's stamp is of its time. -/
def Reading.Stamped (r : Reading) (now : Nat) : Prop :=
  match r.seenAt with
  | none => r.fact.lastSeenMs = 0 ∧ r.fact.statusValid = false
  | some s => r.fact.lastSeenMs = UInt32.ofNat s ∧ s ≤ now

theorem Reading.next_stamped {r : Reading} {now : Nat} (h : r.Stamped now) (fact : UnitFacts)
    (rebuilt : Bool) : (r.next now fact rebuilt).Stamped now := by
  unfold Reading.next
  split
  · exact ⟨rfl, Nat.le_refl now⟩
  · next hmissed =>
      rw [Bool.not_eq_true] at hmissed
      split
      · exact ⟨rfl, hmissed⟩
      · unfold Reading.Stamped at h ⊢
        cases hseen : r.seenAt with
        | none =>
            rw [hseen] at h
            exact ⟨h.1, hmissed⟩
        | some s =>
            rw [hseen] at h
            exact h

/-- A reading is no older than those folded before. -/
def Reading.NotBefore (r : Reading) (earlier : List Reading) : Prop :=
  ∀ s, r.seenAt = some s → ∀ f ∈ earlier, ∀ s', f.seenAt = some s' → s' ≤ s

theorem Reading.next_notBefore {r : Reading} {now : Nat} {earlier : List Reading}
    (h : r.NotBefore earlier) (hpast : ∀ f ∈ earlier, f.Stamped now) (fact : UnitFacts)
    (rebuilt : Bool) : (r.next now fact rebuilt).NotBefore earlier := by
  intro s hs f hf s' hs'
  unfold Reading.next at hs
  split at hs
  · have hstamped := hpast f hf
    unfold Reading.Stamped at hstamped
    rw [hs'] at hstamped
    injection hs with hs
    rw [← hs]
    exact hstamped.2
  · split at hs
    · exact nomatch hs
    · exact h s hs f hf s' hs'

/-! ## §4. The invariant. -/

/-- What is true of unit `i` between two steps. -/
structure Row.Sound (r : Row) (i : Fin UNITS_AMOUNT) : Prop where
  stamped : (r.readings i).Stamped r.now
  folded_stamped : ∀ f ∈ r.folded i, f.Stamped r.now
  notBefore : (r.readings i).NotBefore (r.folded i)
  shown : ∀ t, r.shownAt = some t →
    r.snap.lastFrameAtMs = UInt32.ofNat t ∧ t ≤ r.now
  shown_of_valid : r.snap.lastFrameValid = true → ∃ t, r.shownAt = some t
  unshown : r.shownAt = none → r.snap.frameUnreadMask i = false
  changed_le : ∀ c, r.changedAt i = some c → ∃ t, r.shownAt = some t ∧ c ≤ t
  reshown_le : ∀ c, r.reshownAt = some c → ∃ t, r.shownAt = some t ∧ c ≤ t
  /-- A unit that counts as read was read after the row was shown. -/
  read_since : r.snap.frameUnreadMask i = false → r.snap.lastFrameValid = true →
    ∃ f ∈ r.folded i, ReadAfter f r.shownAt
  /-- And one that a fold saw read counts as read. -/
  counts : r.ReadSinceShown i → r.snap.frameUnreadMask i = false
  mismatch : (r.snap.units i).mismatch = true → ∃ f ∈ r.folded i,
    ReadAfter f (r.changedAt i) ∧ ReadAfter f r.reshownAt ∧
      FoundWrong f.fact (r.snap.lastFrameLetters i)
  latest : r.snap.frameUnreadMask i = false → r.snap.lastFrameValid = true →
    ∀ f, (r.folded i).head? = some f →
      ((r.snap.units i).mismatch = true ↔ FoundWrong f.fact (r.snap.lastFrameLetters i))

variable {r : Row} {i : Fin UNITS_AMOUNT}

theorem Reading.Stamped.mono {f : Reading} {now later : Nat} (h : f.Stamped now)
    (hle : now ≤ later) : f.Stamped later := by
  unfold Reading.Stamped at h ⊢
  cases hseen : f.seenAt with
  | none =>
      rw [hseen] at h
      exact h
  | some s =>
      rw [hseen] at h
      exact ⟨h.1, Nat.le_trans h.2 hle⟩

theorem ReadAfter.of_le {f : Reading} {shownAt at' : Option Nat} (h : ReadAfter f shownAt)
    (hle : ∀ c, at' = some c → ∃ t, shownAt = some t ∧ c ≤ t) : ReadAfter f at' := by
  obtain ⟨s, hs, hafter⟩ := h
  refine ⟨s, hs, ?_⟩
  intro c hc
  obtain ⟨t, ht, hct⟩ := hle c hc
  exact Nat.lt_of_le_of_lt hct (hafter t ht)

theorem Row.Sound.pass (h : r.Sound i) (ms : Nat) : Row.Sound { r with now := r.now + ms } i :=
  { h with
    stamped := h.stamped.mono (Nat.le_add_right _ _)
    folded_stamped := fun f hf => (h.folded_stamped f hf).mono (Nat.le_add_right _ _)
    shown := fun t ht => ⟨(h.shown t ht).1, Nat.le_trans (h.shown t ht).2 (Nat.le_add_right _ _)⟩
    counts := h.counts }

theorem Row.Sound.read (h : r.Sound i) (j : Fin UNITS_AMOUNT) (fact : UnitFacts)
    (rebuilt : Bool) : (r.read j fact rebuilt).Sound i := by
  by_cases hij : i = j
  · subst hij
    have hnow : (r.read i fact rebuilt).readings i = (r.readings i).next r.now fact rebuilt :=
      Function.update_self _ _ _
    exact { h with
      stamped := by
        rw [hnow]
        exact Reading.next_stamped h.stamped fact rebuilt
      notBefore := by
        rw [hnow]
        exact Reading.next_notBefore h.notBefore h.folded_stamped fact rebuilt
      counts := h.counts }
  · have hsame : (r.read j fact rebuilt).readings i = r.readings i :=
      Function.update_of_ne hij _ _
    exact { h with
      stamped := by
        rw [hsame]
        exact h.stamped
      notBefore := by
        rw [hsame]
        exact h.notBefore
      counts := h.counts }

/-! ## §5. The row is shown. -/

theorem Row.Sound.frame (h : r.Sound i) (letters : Letters) : (r.frame letters).Sound i where
  stamped := h.stamped
  folded_stamped := h.folded_stamped
  notBefore := h.notBefore
  shown := by
    intro t ht
    injection ht with ht
    subst ht
    exact ⟨rfl, Nat.le_refl _⟩
  shown_of_valid := fun _ => ⟨r.now, rfl⟩
  unshown := fun hno => (nomatch hno)
  changed_le := by
    intro c hc
    refine ⟨r.now, rfl, ?_⟩
    replace hc : (if !r.snap.lastFrameValid || r.snap.lastFrameLetters i ≠ letters i then
      some r.now else r.changedAt i) = some c := hc
    split at hc
    · injection hc with hc
      exact Nat.le_of_eq hc.symm
    · obtain ⟨t, ht, hct⟩ := h.changed_le c hc
      exact Nat.le_trans hct (h.shown t ht).2
  reshown_le := by
    intro c hc
    obtain ⟨t, ht, hct⟩ := h.reshown_le c hc
    exact ⟨r.now, rfl, Nat.le_trans hct (h.shown t ht).2⟩
  read_since := fun hread => (nomatch hread)
  counts := by
    rintro ⟨f, hf, _⟩
    exact nomatch hf
  mismatch := by
    intro hwrong
    -- a verdict that is still there is of a unit whose letter stays
    by_cases hchanged : (!r.snap.lastFrameValid || r.snap.lastFrameLetters i ≠ letters i) = true
    · have hgone : ((r.frame letters).snap.units i).mismatch = false := by
        show (if _ then _ else _ : UnitFacts).mismatch = false
        rw [if_pos hchanged]
      rw [hgone] at hwrong
      exact nomatch hwrong
    · have hunit : (r.frame letters).snap.units i = r.snap.units i := if_neg hchanged
      have hsince : (r.frame letters).changedAt i = r.changedAt i := if_neg hchanged
      have hletter : r.snap.lastFrameLetters i = letters i := by
        simp only [Bool.or_eq_true, decide_eq_true_eq, not_or, not_not] at hchanged
        exact hchanged.2
      rw [hunit] at hwrong
      obtain ⟨f, hf, hafter, hreshown, hfound⟩ := h.mismatch hwrong
      refine ⟨f, hf, ?_, hreshown, ?_⟩
      · rw [hsince]
        exact hafter
      · show FoundWrong f.fact (letters i)
        rw [← hletter]
        exact hfound
  latest := fun hread => (nomatch hread)

theorem Row.Sound.reshow (h : r.Sound i) : r.reshow.Sound i where
  stamped := h.stamped
  folded_stamped := h.folded_stamped
  notBefore := h.notBefore
  shown := by
    intro t ht
    injection ht with ht
    subst ht
    exact ⟨rfl, Nat.le_refl _⟩
  shown_of_valid := fun _ => ⟨r.now, rfl⟩
  unshown := fun hno => (nomatch hno)
  changed_le := by
    intro c hc
    obtain ⟨t, ht, hct⟩ := h.changed_le c hc
    exact ⟨r.now, rfl, Nat.le_trans hct (h.shown t ht).2⟩
  reshown_le := by
    intro c hc
    injection hc with hc
    exact ⟨r.now, rfl, Nat.le_of_eq hc.symm⟩
  read_since := fun hread => (nomatch hread)
  counts := by
    rintro ⟨f, hf, _⟩
    exact nomatch hf
  mismatch := fun hwrong => (nomatch hwrong)
  latest := fun hread => (nomatch hread)

/-! ## §6. The fold. -/

/-- A unit that a fold takes as read was read after the row was shown, if not
in these facts, then in some folded before. -/
theorem Row.Sound.read_of_fold (h : r.Sound i) (hvalid : r.snap.lastFrameValid = true)
    (hnear : ∀ s, (r.readings i).seenAt = some s → ∀ t, r.shownAt = some t → Near s t)
    (hread : stillUnread r.snap (r.readings i).fact i = false) :
    ∃ f ∈ r.readings i :: r.folded i, ReadAfter f r.shownAt := by
  unfold stillUnread at hread
  rw [Bool.and_eq_false_iff] at hread
  rcases hread with hbefore | hnow
  · obtain ⟨f, hf, hafter⟩ := h.read_since hbefore hvalid
    exact ⟨f, List.mem_cons_of_mem _ hf, hafter⟩
  · refine ⟨r.readings i, List.mem_cons_self, ?_⟩
    obtain ⟨t, ht⟩ := h.shown_of_valid hvalid
    have hstamped := h.stamped
    unfold Reading.Stamped at hstamped
    rw [Bool.not_eq_false', readAfterFrame, Bool.and_eq_true, decide_eq_true_eq,
      decide_eq_true_eq] at hnow
    cases hseen : (r.readings i).seenAt with
    | none =>
        rw [hseen] at hstamped
        exact absurd hstamped.1 hnow.1
    | some s =>
        rw [hseen] at hstamped
        refine ⟨s, hseen, ?_⟩
        intro t' ht'
        rw [ht] at ht'
        injection ht' with ht'
        subst ht'
        have hpos := hnow.2
        rw [hstamped.1, (h.shown t ht).1] at hpos
        exact (stamp_after_iff (hnear s hseen t ht)).mp hpos

/-- Where the status of the latest reading came, it was read then. -/
theorem Row.Sound.read_now (h : r.Sound i) (hstatus : (r.readings i).fact.statusValid = true)
    {f : Reading} (hf : f ∈ r.readings i :: r.folded i) (hafter : ReadAfter f r.shownAt) :
    ReadAfter (r.readings i) r.shownAt := by
  rcases List.mem_cons.mp hf with rfl | hearlier
  · exact hafter
  · have hstamped := h.stamped
    unfold Reading.Stamped at hstamped
    obtain ⟨s', hs', hlt⟩ := hafter
    cases hseen : (r.readings i).seenAt with
    | none =>
        rw [hseen] at hstamped
        rw [hstatus] at hstamped
        exact nomatch hstamped.2
    | some s =>
        refine ⟨s, hseen, ?_⟩
        intro t ht
        exact Nat.lt_of_lt_of_le (hlt t ht) (h.notBefore s hseen f hearlier s' hs')

/-- A new verdict is the comparison of these facts, where the status was read. -/
theorem foldVerdict_iff {snap : DisplaySnapshot} {u : UnitFacts}
    (hread : stillUnread snap u i = false) (hvalid : snap.lastFrameValid = true)
    (hstatus : physKnown u = true → u.physLetter ≠ snap.lastFrameLetters i →
      u.statusValid = true) :
    foldVerdict snap u i = true ↔ FoundWrong u (snap.lastFrameLetters i) := by
  unfold foldVerdict FoundWrong AtRest moving
  rw [if_neg (by simp [hread]), hvalid]
  by_cases hknown : physKnown u = true
  · by_cases hletter : u.physLetter = snap.lastFrameLetters i
    · simp [hletter]
    · have hs := hstatus hknown hletter
      simp [hknown, hletter, hs]
  · simp [hknown]

/-- Without a frame there is no new verdict. -/
theorem foldVerdict_unframed {snap : DisplaySnapshot} {u : UnitFacts}
    (hread : stillUnread snap u i = false) (hvalid : snap.lastFrameValid = false) :
    foldVerdict snap u i = false := by
  unfold foldVerdict
  rw [if_neg (by simp [hread]), hvalid]
  simp

theorem Row.fold_snap_of_lt {maxUnits : Nat} (widthOverride : Nat) (hlt : i.val < maxUnits) :
    ((r.fold maxUnits widthOverride).snap.units i).mismatch =
        foldVerdict r.snap (r.readings i).fact i ∧
      (r.fold maxUnits widthOverride).snap.frameUnreadMask i =
        stillUnread r.snap (r.readings i).fact i ∧
      (r.fold maxUnits widthOverride).folded i = r.readings i :: r.folded i ∧
      (r.fold maxUnits widthOverride).foldedSince i = r.readings i :: r.foldedSince i := by
  refine ⟨?_, ?_, if_pos hlt, if_pos hlt⟩
  · exact congrArg UnitFacts.mismatch (fold_units_of_lt r.snap _ hlt)
  · exact fold_unread_of_lt r.snap _ hlt

/-- A unit outside the fold keeps everything. -/
theorem Row.Sound.fold_of_ge (h : r.Sound i) {maxUnits widthOverride : Nat}
    (hge : ¬i.val < maxUnits) : (r.fold maxUnits widthOverride).Sound i := by
  have hunit : (r.fold maxUnits widthOverride).snap.units i = r.snap.units i :=
    fold_units_of_ge r.snap _ hge
  have hmask : (r.fold maxUnits widthOverride).snap.frameUnreadMask i =
      r.snap.frameUnreadMask i := fold_unread_of_ge r.snap _ hge
  have hfolded : (r.fold maxUnits widthOverride).folded i = r.folded i := if_neg hge
  have hsince : (r.fold maxUnits widthOverride).foldedSince i = r.foldedSince i := if_neg hge
  exact {
    stamped := h.stamped
    folded_stamped := by
      rw [hfolded]
      exact h.folded_stamped
    notBefore := by
      rw [hfolded]
      exact h.notBefore
    shown := h.shown
    shown_of_valid := h.shown_of_valid
    unshown := by
      rw [hmask]
      exact h.unshown
    changed_le := h.changed_le
    reshown_le := h.reshown_le
    read_since := by
      rw [hmask, hfolded]
      exact h.read_since
    counts := by
      intro hread
      rw [hmask]
      refine h.counts ?_
      unfold Row.ReadSinceShown at hread
      rw [hsince] at hread
      exact hread
    mismatch := by
      rw [hunit, hfolded]
      exact h.mismatch
    latest := by
      rw [hunit, hmask, hfolded]
      exact h.latest }

theorem Row.Sound.fold_of_lt (h : r.Sound i) {maxUnits widthOverride : Nat}
    (hlt : i.val < maxUnits) (hnear : OneClock r (.fold maxUnits widthOverride))
    (hstatus : StatusRead r (.fold maxUnits widthOverride)) :
    (r.fold maxUnits widthOverride).Sound i := by
  obtain ⟨hverdict, hmask, hfolded, hsince⟩ :=
    Row.fold_snap_of_lt (r := r) widthOverride hlt
  have hself : (r.readings i).NotBefore (r.readings i :: r.folded i) := by
    intro s hs f hf s' hs'
    rcases List.mem_cons.mp hf with rfl | hearlier
    · rw [hs] at hs'
      injection hs' with hs'
      exact Nat.le_of_eq hs'.symm
    · exact h.notBefore s hs f hearlier s' hs'
  exact {
    stamped := h.stamped
    folded_stamped := by
      rw [hfolded]
      intro f hf
      rcases List.mem_cons.mp hf with rfl | hearlier
      · exact h.stamped
      · exact h.folded_stamped f hearlier
    notBefore := by
      rw [hfolded]
      exact hself
    shown := h.shown
    shown_of_valid := h.shown_of_valid
    unshown := by
      intro hno
      rw [hmask]
      unfold stillUnread
      rw [h.unshown hno, Bool.false_and]
    changed_le := h.changed_le
    reshown_le := h.reshown_le
    read_since := by
      rw [hmask, hfolded]
      intro hread hvalid
      exact h.read_of_fold hvalid (hnear i hlt) hread
    counts := by
      rintro ⟨f, hf, hstamp, hafter⟩
      rw [hmask]
      rw [hsince] at hf
      unfold stillUnread
      rw [Bool.and_eq_false_iff]
      rcases List.mem_cons.mp hf with rfl | hearlier
      · cases ht : r.shownAt with
        | none => exact .inl (h.unshown ht)
        | some t =>
          -- the stamps say what the times say
          obtain ⟨s, hs, hlt'⟩ := hafter
          have hstamped := h.stamped
          unfold Reading.Stamped at hstamped
          rw [hs] at hstamped
          right
          rw [Bool.not_eq_false', readAfterFrame, Bool.and_eq_true, decide_eq_true_eq,
            decide_eq_true_eq]
          refine ⟨hstamp, ?_⟩
          rw [hstamped.1, (h.shown t ht).1]
          exact (stamp_after_iff (hnear i hlt s hs t ht)).mpr (hlt' t ht)
      · left
        exact h.counts ⟨f, hearlier, hstamp, hafter⟩
    mismatch := by
      rw [hverdict, hfolded]
      intro hwrong
      by_cases hread : stillUnread r.snap (r.readings i).fact i = true
      · -- carried over
        unfold foldVerdict at hwrong
        rw [if_pos hread] at hwrong
        obtain ⟨f, hf, hrest⟩ := h.mismatch hwrong
        exact ⟨f, List.mem_cons_of_mem _ hf, hrest⟩
      · rw [Bool.not_eq_true] at hread
        cases hvalid : r.snap.lastFrameValid with
        | false =>
            rw [foldVerdict_unframed hread hvalid] at hwrong
            exact nomatch hwrong
        | true =>
            have hfound := (foldVerdict_iff hread hvalid (hstatus i hlt hvalid hread)).mp hwrong
            obtain ⟨f, hf, hafter⟩ := h.read_of_fold hvalid (hnear i hlt) hread
            have hnow := h.read_now hfound.1.1 hf hafter
            exact ⟨r.readings i, List.mem_cons_self, hnow.of_le h.changed_le,
              hnow.of_le h.reshown_le, hfound⟩
    latest := by
      rw [hverdict, hmask, hfolded]
      intro hread hvalid f hf
      rw [List.head?_cons] at hf
      injection hf with hf
      subst hf
      exact foldVerdict_iff hread hvalid (hstatus i hlt hvalid hread) }

/-! ## §7. Runs. -/

theorem rowStep_sound {r' : Row} {op : RowOp} (h : r.Sound i) (hclock : OneClock r op)
    (hstatus : StatusRead r op) (hstep : rowStep r op = some r') : r'.Sound i := by
  cases op with
  | pass ms =>
      injection hstep with hstep
      exact hstep ▸ h.pass ms
  | read j fact rebuilt =>
      injection hstep with hstep
      exact hstep ▸ h.read j fact rebuilt
  | frame letters =>
      injection hstep with hstep
      exact hstep ▸ h.frame letters
  | reshow =>
      injection hstep with hstep
      exact hstep ▸ h.reshow
  | fold maxUnits widthOverride =>
      injection hstep with hstep
      by_cases hlt : i.val < maxUnits
      · exact hstep ▸ h.fold_of_lt hlt hclock hstatus
      · exact hstep ▸ h.fold_of_ge hlt

/-- A display task that has not looked yet, at any time. -/
def startAt (t : Nat) : Row := { now := t }

theorem startAt_sound (t : Nat) (i : Fin UNITS_AMOUNT) : (startAt t).Sound i where
  stamped := ⟨rfl, rfl⟩
  folded_stamped := fun _ hf => (nomatch hf)
  notBefore := fun _ hs => (nomatch hs)
  shown := fun _ ht => (nomatch ht)
  shown_of_valid := fun hvalid => (nomatch hvalid)
  unshown := fun _ => rfl
  changed_le := fun _ hc => (nomatch hc)
  reshown_le := fun _ hc => (nomatch hc)
  read_since := fun _ hvalid => (nomatch hvalid)
  counts := fun _ => rfl
  mismatch := fun hwrong => (nomatch hwrong)
  latest := fun _ hvalid => (nomatch hvalid)

/-- **A wrong-letter verdict is about the last frame**: it comes from a read
after the last frame that changed the letter and after the last re-show, which
found the unit at rest on another letter; and a unit read since the row was
shown has the verdict of its latest read. -/
theorem verdict_about_last_frame (t : Nat) (ops : List RowOp) (r : Row)
    (hrun : run rowStep (startAt t) ops = some r)
    (hclock : AllMeet OneClock rowStep (startAt t) ops)
    (hstatus : AllMeet StatusRead rowStep (startAt t) ops) (i : Fin UNITS_AMOUNT) :
    ((r.snap.units i).mismatch = true → ∃ f ∈ r.folded i,
        ReadAfter f (r.changedAt i) ∧ ReadAfter f r.reshownAt ∧
          FoundWrong f.fact (r.snap.lastFrameLetters i)) ∧
      (r.snap.lastFrameValid = true → r.ReadSinceShown i →
        ∀ f, (r.folded i).head? = some f →
          ((r.snap.units i).mismatch = true ↔
            FoundWrong f.fact (r.snap.lastFrameLetters i))) := by
  have hsound : r.Sound i := by
    have hstep : ∀ r op r', Row.Sound r i → OneClock r op ∧ StatusRead r op →
        rowStep r op = some r' → Row.Sound r' i :=
      fun _ _ _ hr hok hstep => rowStep_sound hr hok.1 hok.2 hstep
    exact Machine.run_invariant_of_meets hstep (startAt_sound t i) (hclock.and hstatus) hrun
  exact ⟨hsound.mismatch, fun hvalid hread => hsound.latest (hsound.counts hread) hvalid⟩

/-- A unit that shows letter 5 on its way, read whole. -/
def seenTurning : UnitFacts :=
  { state := 1, statusValid := true, status := { flags := UNIT_FLAG_MOVING }, diagValid := true
    driftFlags := UNIT_DRIFT_FLAG_POSITION_KNOWN, physLetter := 5 }

/-- A frame of sevens, and unit 0 read twice after it: the second time its
status does not come. -/
def turningRun : List RowOp :=
  [.pass 1000, .frame fun _ => 7, .pass 1000, .read 0 seenTurning false, .fold 16 0,
    .pass 2000, .read 0 { seenTurning with statusValid := false, misses := 1, physLetter := 6 }
      false, .fold 16 0]

/-- **A read that missed the status judges a drum that turns**: the unit has the
wrong-letter verdict, and no read ever found it at rest. -/
theorem verdict_of_turning_drum : AllMeet OneClock rowStep (startAt 0) turningRun ∧
    ∃ r, run rowStep (startAt 0) turningRun = some r ∧ (r.snap.units 0).mismatch = true ∧
      ∀ f ∈ r.folded 0, ¬AtRest f.fact := by
  refine ⟨AllMeet.of_decide (by decide +kernel), _, rfl, by decide +kernel, ?_⟩
  unfold AtRest
  decide +kernel

/-- The frame of sevens, with unit 0 read at rest on a five. -/
def standingRun : List RowOp :=
  [.pass 1000, .frame fun _ => 7, .pass 1000, .read 0 { seenTurning with status := {} } false,
    .fold 16 0]

theorem verdict_about_last_frame_standing :
    ∃ r, run rowStep (startAt 0) standingRun = some r ∧ (r.snap.units 0).mismatch = true ∧
      ∃ f ∈ r.folded 0, ReadAfter f (r.changedAt 0) ∧ ReadAfter f r.reshownAt ∧
        FoundWrong f.fact (r.snap.lastFrameLetters 0) := by
  have hclock : AllMeet OneClock rowStep (startAt 0) standingRun :=
    AllMeet.of_decide (by decide +kernel)
  have hstatus : AllMeet StatusRead rowStep (startAt 0) standingRun :=
    AllMeet.of_decide (by decide +kernel)
  have hwrong : ((standingRun.foldl (fun r op => (rowStep r op).getD r) (startAt 0)).snap.units
      0).mismatch = true := by decide +kernel
  exact ⟨_, rfl, hwrong,
    (verdict_about_last_frame 0 standingRun _ rfl hclock hstatus 0).1 hwrong⟩

end SplitFlap.Shown
