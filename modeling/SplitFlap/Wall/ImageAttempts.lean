/-
  SplitFlap.Wall.ImageAttempts — which image a row's attempts speak of.

  `newImage` forgives every row: what was held against the rows was held
  against the old image.  It leaves the offer that is out alone, though, and
  that offer may be charged after it, against the new image: the row comes back
  on the rev it was offered, which is now another than the stored one
  (`old_image_charged`).  When no image is stored meanwhile, the attempts are
  offers of the stored image (`attempts_of_stored_image`).
-/
import SplitFlap.Wall.UpdateBudget

namespace SplitFlap

open Machine

namespace UpdateLedger

variable {l l' : UpdateLedger} {r : RowIx}

/-! ## §1. What overtakes an offer. -/

/-- An image is stored while an offer is out that has cost nothing yet. -/
def imageOvertakes (l : UpdateLedger) : UpdaterCall → Bool
  | .newImage _ => l.updater.row.isSome && !l.updater.charged
  | _ => false

/-- The row of such an offer is forgiven, and the offer goes on. -/
def overtakes (l : UpdateLedger) : UpdaterCall → Bool
  | .newImage _ => l.updater.row.isSome && !l.updater.charged
  | .retry r => l.updater.row = some r && !l.updater.charged
  | .health r well nowMs =>
      l.updater.row = some r && !l.updater.charged &&
        l.updater.forgives r (.health r well nowMs)
  | _ => false

/-- The offers of the stored image to row `r` that were charged since the row
was last forgiven. -/
def chargedOffers (l : UpdateLedger) (r : RowIx) : Nat :=
  l.made.countP fun o => o.row = r ∧ o.image = l.images ∧ (r, l.forgiven r) ∈ o.costs

/-- The charged offers of the stored image to row `r` that were made since the
row was last forgiven. -/
def freshOffers (l : UpdateLedger) (r : RowIx) : Nat :=
  l.made.countP fun o =>
    o.row = r ∧ o.image = l.images ∧ o.madeAt = l.forgiven r ∧ o.costs ≠ []

/-- What stands against a row is of the stored image. -/
structure OfImage (l : UpdateLedger) : Prop where
  out : l.updater.row ≠ none → l.updater.charged = false →
    ∀ o ∈ l.made.head?, o.image = l.images
  charged : ∀ o ∈ l.made, ∀ c ∈ o.costs, c.2 = l.forgiven c.1 → o.image = l.images

/-- An offer is charged before its row is forgiven, or not at all. -/
structure Timely (l : UpdateLedger) : Prop where
  out : ∀ r, l.updater.row = some r → l.updater.charged = false →
    ∀ o ∈ l.made.head?, o.madeAt = l.forgiven r
  charged : ∀ o ∈ l.made, ∀ c ∈ o.costs, c.2 = o.madeAt
  past : ∀ o ∈ l.made, o.madeAt ≤ l.forgiven o.row
  image : ∀ o ∈ l.made, o.madeAt = l.forgiven o.row → o.image = l.images

theorem Forgiven.still_out {forgives : RowIx → Bool} (hmove : Forgiven forgives l l')
    (hr : l'.updater.row = some r) (hfree : l'.updater.charged = false) :
    l.updater.row = some r ∧ l.updater.charged = false := by
  rcases hmove.row with hnone | ⟨hrow, hcharged⟩
  · rw [hnone] at hr
    cases hr
  · exact ⟨hrow ▸ hr, hcharged ▸ hfree⟩

theorem Charged.none_out (hmove : Charged r l l') {r' : RowIx}
    (hr : l'.updater.row = some r') : l'.updater.charged = true := by
  rcases hmove.row with hnone | ⟨_, hcharged⟩
  · rw [hnone] at hr
    cases hr
  · exact hcharged

theorem mem_costs {o : MadeOffer} {c : RowIx × Nat} (ho : o ∈ l.made) (hc : c ∈ o.costs) :
    c ∈ l.costs := List.mem_flatMap.mpr ⟨o, ho, hc⟩

/-! ## §2. By the image the offer was of. -/

theorem OfImage.forgiven (hkept : l.Kept) (h : l.OfImage) {forgives : RowIx → Bool}
    (hmove : Forgiven forgives l l')
    (himages : l'.images = l.images ∨ l.updater.row = none ∨ l.updater.charged = true) :
    l'.OfImage := by
  constructor
  · intro hrow hfree o ho
    obtain ⟨r, hr⟩ := Option.ne_none_iff_exists'.mp hrow
    obtain ⟨hr', hfree'⟩ := hmove.still_out hr hfree
    rw [hmove.made] at ho
    rcases himages with himages | hnone | hcharged
    · rw [himages]
      exact h.out (by rw [hr']; exact Option.some_ne_none r) hfree' o ho
    · rw [hr'] at hnone
      cases hnone
    · rw [hfree'] at hcharged
      cases hcharged
  · intro o ho c hc hcount
    rw [hmove.made] at ho
    rw [hmove.forgiven] at hcount
    have hpast := hkept.past c (mem_costs ho hc)
    split at hcount
    · omega
    · next hnot =>
        rcases hmove.images with himages | hall
        · rw [himages]
          exact h.charged o ho c hc hcount
        · exact absurd (hall c.1) hnot

theorem OfImage.charged_once (hkept : l.Kept) (h : l.OfImage) (hmove : Charged r l l') :
    l'.OfImage := by
  obtain ⟨o, rest, hlast, hrow, _, hmade, _⟩ := hkept.charged_made hmove
  have himage := h.out (by rw [hmove.out]; exact Option.some_ne_none r) hmove.free o
    (by rw [hlast]; rfl)
  constructor
  · intro hrow' hfree
    obtain ⟨r', hr'⟩ := Option.ne_none_iff_exists'.mp hrow'
    rw [hmove.none_out hr'] at hfree
    cases hfree
  · intro o' ho' c hc hcount
    rw [hmove.images]
    rw [hmade, List.mem_cons] at ho'
    rw [hmove.forgiven] at hcount
    rcases ho' with rfl | ho'
    · exact himage
    · exact h.charged o' (by rw [hlast]; exact List.mem_cons_of_mem _ ho') c hc hcount

theorem OfImage.offered (h : l.OfImage) (hmove : Offered r l l') : l'.OfImage := by
  constructor
  · intro _ _ o ho
    rw [hmove.made, List.head?_cons, Option.mem_some_iff] at ho
    rw [← ho, hmove.images]
  · intro o ho c hc hcount
    rw [hmove.made, List.mem_cons] at ho
    rw [hmove.forgiven] at hcount
    rw [hmove.images]
    rcases ho with rfl | ho
    · cases hc
    · exact h.charged o ho c hc hcount

/-! ## §3. By when the offer was made. -/

theorem Timely.forgiven (h : l.Timely) {forgives : RowIx → Bool}
    (hmove : Forgiven forgives l l')
    (hends : ∀ r, l.updater.row = some r → l.updater.charged = false → forgives r = true →
      l'.updater.row = none) : l'.Timely := by
  constructor
  · intro r hr hfree o ho
    obtain ⟨hr', hfree'⟩ := hmove.still_out hr hfree
    rw [hmove.made] at ho
    rw [hmove.forgiven]
    split
    · next hforgives =>
        rw [hends r hr' hfree' hforgives] at hr
        cases hr
    · exact h.out r hr' hfree' o ho
  · rw [hmove.made]
    exact h.charged
  · intro o ho
    rw [hmove.made] at ho
    rw [hmove.forgiven]
    have hpast := h.past o ho
    split
    · exact Nat.le_succ_of_le hpast
    · exact hpast
  · intro o ho hcount
    rw [hmove.made] at ho
    rw [hmove.forgiven] at hcount
    have hpast := h.past o ho
    split at hcount
    · omega
    · next hnot =>
        rcases hmove.images with himages | hall
        · rw [himages]
          exact h.image o ho hcount
        · exact absurd (hall o.row) hnot

theorem Timely.charged_once (hkept : l.Kept) (h : l.Timely) (hmove : Charged r l l') :
    l'.Timely := by
  obtain ⟨o, rest, hlast, hrow, _, hmade, _⟩ := hkept.charged_made hmove
  have hmadeAt := h.out r hmove.out hmove.free o (by rw [hlast]; rfl)
  have hmem : o ∈ l.made := by
    rw [hlast]
    exact List.mem_cons_self
  have hrest : ∀ o' ∈ rest, o' ∈ l.made := by
    intro o' ho'
    rw [hlast]
    exact List.mem_cons_of_mem _ ho'
  constructor
  · intro r' hr' hfree
    rw [hmove.none_out hr'] at hfree
    cases hfree
  · intro o' ho' c hc
    rw [hmade, List.mem_cons] at ho'
    rcases ho' with rfl | ho'
    · rw [List.mem_singleton.mp hc]
      exact hmadeAt.symm
    · exact h.charged o' (hrest o' ho') c hc
  · intro o' ho'
    rw [hmade, List.mem_cons] at ho'
    rw [hmove.forgiven]
    rcases ho' with rfl | ho'
    · exact h.past o hmem
    · exact h.past o' (hrest o' ho')
  · intro o' ho' hcount
    rw [hmade, List.mem_cons] at ho'
    rw [hmove.forgiven] at hcount
    rw [hmove.images]
    rcases ho' with rfl | ho'
    · exact h.image o hmem hcount
    · exact h.image o' (hrest o' ho') hcount

theorem Timely.offered (h : l.Timely) (hmove : Offered r l l') : l'.Timely := by
  constructor
  · intro r' hr' _ o ho
    rw [hmove.row, Option.some.injEq] at hr'
    rw [hmove.made, List.head?_cons, Option.mem_some_iff] at ho
    rw [hmove.forgiven, ← ho, hr']
  · intro o ho c hc
    rw [hmove.made, List.mem_cons] at ho
    rcases ho with rfl | ho
    · cases hc
    · exact h.charged o ho c hc
  · intro o ho
    rw [hmove.made, List.mem_cons] at ho
    rw [hmove.forgiven]
    rcases ho with rfl | ho
    · exact Nat.le_refl _
    · exact h.past o ho
  · intro o ho hcount
    rw [hmove.made, List.mem_cons] at ho
    rw [hmove.forgiven] at hcount
    rw [hmove.images]
    rcases ho with rfl | ho
    · rfl
    · exact h.image o ho hcount

/-! ## §4. Every run. -/

/-- An offer that a call forgives without overtaking it is over. -/
theorem overtakes_not {c : UpdaterCall} (count : Nat) (h : l.overtakes c = false)
    (hr : l.updater.row = some r) (hfree : l.updater.charged = false)
    (hforgives : l.updater.forgives r c = true) : (l.updater.call count c).row = none := by
  cases c with
  | offer rows storedRev sent nowMs => cases hforgives
  | answer r' state storedRev nowMs => cases hforgives
  | tick nowMs => cases hforgives
  | reset => rfl
  | newImage nowMs =>
      unfold overtakes at h
      simp [hr, hfree] at h
  | retry r' =>
      have hsame : r = r' := of_decide_eq_true hforgives
      unfold overtakes at h
      simp [hr, hfree, hsame] at h
  | health r' well nowMs =>
      have hsame : r = r' := by
        unfold WallUpdater.forgives at hforgives
        simp only [Bool.and_eq_true, decide_eq_true_eq] at hforgives
        exact hforgives.1.1.1
      subst hsame
      unfold overtakes at h
      simp [hr, hfree, hforgives] at h
  | noteRev r' oldRev newRev =>
      -- a rev noted of the row that the offer is out to forgives nothing
      unfold WallUpdater.forgives at hforgives
      simp only [Bool.and_eq_true, decide_eq_true_eq] at hforgives
      exact absurd (hforgives.1.1.1.1 ▸ hr) hforgives.1.1.1.2
  | hello r' rev rescue restarted storedRev nowMs =>
      unfold WallUpdater.forgives at hforgives
      simp only [Bool.and_eq_true, decide_eq_true_eq] at hforgives
      exact ((l.updater.hello_ends r' rev rescue restarted storedRev nowMs).ended
        (by rw [hforgives.1.2]; exact Option.some_ne_none _)).2.2

/-- The images count the calls of `newImage`. -/
theorem step_images {count : Nat} {c : UpdaterCall} (hstep : step count l c = some l')
    (h : l.imageOvertakes c = false) :
    l'.images = l.images ∨ l.updater.row = none ∨ l.updater.charged = true := by
  unfold step at hstep
  rw [Option.some.injEq] at hstep
  subst hstep
  cases c with
  | newImage nowMs =>
      right
      unfold imageOvertakes at h
      rw [Bool.and_eq_false_iff, Option.isSome_eq_false_iff, Bool.not_eq_false',
        Option.isNone_iff_eq_none] at h
      exact h
  | _ => exact .inl rfl

theorem step_ofImage {count : Nat} {c : UpdaterCall} (hkept : l.Kept) (h : l.OfImage)
    (hok : l.imageOvertakes c = false) (hstep : step count l c = some l') : l'.OfImage := by
  rcases hkept.step_moves hstep with
    ⟨_, hmove, _⟩ | ⟨r, hmove⟩ | ⟨r, m, hoffered, _, hmove⟩
  · exact h.forgiven hkept hmove (step_images hstep hok)
  · exact h.charged_once hkept hmove
  · have hm := h.offered hoffered
    have hmkept := hkept.offered hoffered
    rcases hmove with hmove | ⟨r', hmove⟩
    · refine hm.forgiven hmkept hmove (.inl ?_)
      exact hmove.images.resolve_right fun hall => absurd (hall 0) (by decide)
    · exact hm.charged_once hmkept hmove

theorem step_timely {count : Nat} {c : UpdaterCall} (hkept : l.Kept) (h : l.Timely)
    (hok : l.overtakes c = false) (hstep : step count l c = some l') : l'.Timely := by
  have hupdater : l'.updater = l.updater.call count c := by
    unfold step at hstep
    rw [Option.some.injEq] at hstep
    subst hstep
    rfl
  rcases hkept.step_moves hstep with
    ⟨forgives, hmove, hforgives⟩ | ⟨r, hmove⟩ | ⟨r, m, hoffered, _, hmove⟩
  · refine h.forgiven hmove ?_
    intro r hr hfree hr'
    rw [hupdater]
    exact overtakes_not count hok hr hfree (hforgives r ▸ hr')
  · exact h.charged_once hkept hmove
  · have hm := h.offered hoffered
    have hmkept := hkept.offered hoffered
    rcases hmove with hmove | ⟨r', hmove⟩
    · exact hm.forgiven hmove fun _ _ _ hno => absurd hno Bool.false_ne_true
    · exact hm.charged_once hmkept hmove

/-- **The attempts of a row are offers of the stored image**, in every run in
which no image is stored while an offer is out that has cost nothing yet: those
charged since the row was last forgiven.  When no such offer's row is forgiven
in another way either, they are also those made since. -/
theorem attempts_of_stored_image (count : Nat) (calls : List UpdaterCall) (l : UpdateLedger)
    (hrun : run (step count) {} calls = some l)
    (himages : AllMeet (fun l c => l.imageOvertakes c = false) (step count) {} calls) :
    (∀ r, (l.updater.attempts r).toNat = l.chargedOffers r) ∧
      (AllMeet (fun l c => l.overtakes c = false) (step count) {} calls →
        ∀ r, (l.updater.attempts r).toNat = l.freshOffers r) := by
  have hkept := run_kept hrun
  constructor
  · intro r
    obtain ⟨_, hof⟩ : l.Kept ∧ l.OfImage :=
      run_invariant_of_meets (P := fun l => l.Kept ∧ l.OfImage)
        (fun _ _ _ h hok hstep => ⟨step_kept h.1 hstep, step_ofImage h.1 h.2 hok hstep⟩)
        ⟨.start, ⟨fun h => absurd rfl h, fun _ ho => nomatch ho⟩⟩ himages hrun
    rw [hkept.counted r, hkept.count_costs]
    apply List.countP_congr
    intro o ho
    rw [decide_eq_true_eq, decide_eq_true_eq]
    constructor
    · intro hc
      exact ⟨((hkept.once o ho).2 _ hc).symm, hof.charged o ho _ hc rfl, hc⟩
    · exact fun h => h.2.2
  · intro hovertakes r
    obtain ⟨_, htimely⟩ : l.Kept ∧ l.Timely :=
      run_invariant_of_meets (P := fun l => l.Kept ∧ l.Timely)
        (fun _ _ _ h hok hstep => ⟨step_kept h.1 hstep, step_timely h.1 h.2 hok hstep⟩)
        ⟨.start, ⟨fun _ hr => (nomatch hr), fun _ ho => (nomatch ho), fun _ ho => (nomatch ho),
          fun _ ho => nomatch ho⟩⟩ hovertakes hrun
    rw [hkept.counted r, hkept.count_costs]
    apply List.countP_congr
    intro o ho
    rw [decide_eq_true_eq, decide_eq_true_eq]
    constructor
    · intro hc
      have hrow : r = o.row := (hkept.once o ho).2 _ hc
      have hmade : o.madeAt = l.forgiven r := (htimely.charged o ho _ hc).symm
      exact ⟨hrow.symm, htimely.image o ho (hrow ▸ hmade), hmade, List.ne_nil_of_mem hc⟩
    · rintro ⟨hrow, _, hmade, hcosts⟩
      obtain ⟨c, hc⟩ := List.exists_mem_of_ne_nil _ hcosts
      have hpair : c = (r, l.forgiven r) :=
        Prod.ext (((hkept.once o ho).2 c hc).trans hrow) ((htimely.charged o ho c hc).trans hmade)
      exact hpair ▸ hc

/-- An offer of rev `2` fails, rev `3` is stored, and an offer of it fails. -/
theorem attempts_of_stored_image_next :
    ∃ l : UpdateLedger,
      run (step 8) {} (failedOffer [50] 0 ++ [.newImage 30000] ++ failedOffer [51] 60000) = some l ∧
        l.freshOffers 0 = 1 ∧
        (∀ r, (l.updater.attempts r).toNat = l.chargedOffers r) ∧
        ∀ r, (l.updater.attempts r).toNat = l.freshOffers r := by
  have hends : (run (step 8) {} (failedOffer [50] 0 ++ [.newImage 30000] ++ failedOffer [51] 60000)).map
      (fun l => l.freshOffers 0) = some 1 := by
    decide +kernel
  obtain ⟨l, hrun, hl⟩ := Option.map_eq_some_iff.mp hends
  have hbetween : AllMeet (fun l c => (!imageOvertakes l c) = true) (step 8) {}
      (failedOffer [50] 0 ++ [.newImage 30000] ++ failedOffer [51] 60000) :=
    .of_allMeet (by decide +kernel)
  have hbetween' : AllMeet (fun l c => (!overtakes l c) = true) (step 8) {}
      (failedOffer [50] 0 ++ [.newImage 30000] ++ failedOffer [51] 60000) :=
    .of_allMeet (by decide +kernel)
  have hstored := attempts_of_stored_image 8 _ l hrun
    (hbetween.mono fun _ _ h => Bool.not_eq_true' _ ▸ h)
  exact ⟨l, hrun, hl, hstored.1, hstored.2 (hbetween'.mono fun _ _ h => Bool.not_eq_true' _ ▸ h)⟩

/-- Row 0 is offered rev `2` and installs it.  Rev `3` is stored before it is
back, and its return on rev `2` is charged as a rollback. -/
def overtakenOffer : List UpdaterCall :=
  [.offer oneOldRow [50] true 0, .answer 0 { rev := [50], phase := .downloading } [50] 1000,
    .answer 0 { rev := [50], phase := .installed } [50] 60000, .newImage 61000,
    .noteRev 0 [49] [50], .hello 0 [50] false true [51] 80000]

/-- An attempt counts though nothing has been offered of the stored image. -/
theorem old_image_charged :
    ∃ l : UpdateLedger, run (step 8) {} overtakenOffer = some l ∧ l.images = 1 ∧
      l.updater.attempts 0 = 1 ∧ (∀ o ∈ l.made, o.image = 0) ∧
      l.chargedOffers 0 = 0 ∧ l.freshOffers 0 = 0 := by
  have hends : (run (step 8) {} overtakenOffer).map (fun l => (l.images, l.updater.attempts 0,
      l.made.map (·.image), l.chargedOffers 0, l.freshOffers 0)) = some (1, 1, [0], 0, 0) := by
    decide +kernel
  obtain ⟨l, hrun, hl⟩ := Option.map_eq_some_iff.mp hends
  simp only [Prod.mk.injEq] at hl
  obtain ⟨himages, hattempts, hmade, hcharged, hfresh⟩ := hl
  refine ⟨l, hrun, himages, hattempts, ?_, hcharged, hfresh⟩
  intro o ho
  have hmem : o.image ∈ l.made.map (·.image) := List.mem_map_of_mem ho
  rw [hmade] at hmem
  exact List.mem_singleton.mp hmem

end UpdateLedger

end SplitFlap
