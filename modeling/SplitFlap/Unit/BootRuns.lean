/-
  SplitFlap.Unit.BootRuns — every run of the bootloader rewrite.

  Page 7 is never touched, and with the window closed the section is as it was,
  or the new image, or boots from the trampoline: one of these is what a reset
  finds (`rewrite_survives`).  Nothing of it rests on what a section is
  classified as; that only says what the next start does with it.
-/
import SplitFlap.Unit.BootUpdate
import Mathlib.Data.Fintype.Basic

namespace SplitFlap.Boot

open TaskM Machine

variable {sec0 sec sec' : Section} {u u' : BootUnit}

/-! ## §1. What is kept. -/

/-- What a reset can boot from. -/
def Safe (sec0 sec : Section) : Prop :=
  bootPage0IsTrampoline sec = true ∨ sec = sec0 ∨ sec = newTwibootImage

/-- Page 0 is given the image's bytes when the others have them. -/
def GivenLast (writes : List PageWrite) : Prop :=
  ∀ w ∈ writes, w.page = 0 → w.asked = newTwibootImage 0 →
    ∀ p ≠ 0, w.before p = newTwibootImage p

structure Kept (sec0 : Section) (u : BootUnit) : Prop where
  page7 : u.boot 7 = newTwibootImage 7
  safe : u.window = false → Safe sec0 u.boot
  given : GivenLast u.writes

theorem trampoline_congr (h : sec 0 = sec' 0) :
    bootPage0IsTrampoline sec = bootPage0IsTrampoline sec' := by
  unfold bootPage0IsTrampoline
  rw [h]

theorem GivenLast.cons {writes : List PageWrite} (h : GivenLast writes) {w : PageWrite}
    (hw : w.page = 0 → w.asked = newTwibootImage 0 → ∀ p ≠ 0, w.before p = newTwibootImage p) :
    GivenLast (w :: writes) := by
  intro w' hmem
  rcases List.mem_cons.mp hmem with rfl | hmem
  · exact hw
  · exact h w' hmem

/-! ## §2. A page. -/

theorem Kept.erased_page0 (h : Kept sec0 u) (r : PageOutcome) : Kept sec0 (erased 0 r u) where
  page7 := h.page7
  safe hclosed := absurd hclosed (by simp [erased])
  given := h.given

theorem Kept.written_page0 (h : Kept sec0 u) (hopen : u.window = true) (asked : Page)
    (hasked : asked = newTwibootImage 0 → ∀ p ≠ 0, u.boot p = newTwibootImage p)
    (r : PageOutcome) : Kept sec0 (written 0 asked r u) where
  page7 := h.page7
  safe hclosed := absurd (hopen.symm.trans hclosed) (by decide)
  given := h.given.cons fun _ => hasked

/-- While page 0 is the trampoline any other page may be in any state. -/
theorem Kept.erased_other (h : Kept sec0 u) (htramp : bootPage0IsTrampoline u.boot = true)
    {p : Fin 8} (h0 : p ≠ 0) (h7 : p ≠ 7) (r : PageOutcome) :
    Kept sec0 (erased p r u) ∧ bootPage0IsTrampoline (erased p r u).boot = true := by
  have hpage0 : (erased p r u).boot 0 = u.boot 0 := Function.update_of_ne h0.symm _ _
  have htramp' : bootPage0IsTrampoline (erased p r u).boot = true := by
    rw [trampoline_congr hpage0]
    exact htramp
  refine ⟨⟨?_, fun _ => .inl htramp', h.given⟩, htramp'⟩
  show Function.update u.boot p _ 7 = _
  rw [Function.update_of_ne h7.symm]
  exact h.page7

theorem Kept.written_other (h : Kept sec0 u) (htramp : bootPage0IsTrampoline u.boot = true)
    {p : Fin 8} (h0 : p ≠ 0) (h7 : p ≠ 7) (asked : Page) (r : PageOutcome) :
    Kept sec0 (written p asked r u) ∧ bootPage0IsTrampoline (written p asked r u).boot = true := by
  have hpage0 : (written p asked r u).boot 0 = u.boot 0 := Function.update_of_ne h0.symm _ _
  have htramp' : bootPage0IsTrampoline (written p asked r u).boot = true := by
    rw [trampoline_congr hpage0]
    exact htramp
  refine ⟨⟨?_, fun _ => .inl htramp', h.given.cons fun hpage => absurd hpage h0⟩, htramp'⟩
  show Function.update u.boot p _ 7 = _
  rw [Function.update_of_ne h7.symm]
  exact h.page7

theorem erasePage_sat {Pre C : BootUnit → Prop} {Q : BootUnit → Prop} {p : Fin 8}
    (hdone : ∀ r u, Pre u → Q (erased p r u)) (hcut : ∀ u, Pre u → C u) :
    Sat Pre (erasePage p) (fun _ => Q) C := by
  unfold erasePage
  exact Sat.bind (Sat.ask (fun r u hu => hu) hcut) fun r => Sat.modify fun u hu => hdone r u hu

theorem writePage_sat {Pre C : BootUnit → Prop} {Q : BootUnit → Prop} {p : Fin 8} {asked : Page}
    (hdone : ∀ r u, Pre u → Q (written p asked r u)) (hcut : ∀ u, Pre u → C u) :
    Sat Pre (writePage p asked) (fun _ => Q) C := by
  unfold writePage
  exact Sat.bind (Sat.ask (fun r u hu => hu) hcut) fun r => Sat.modify fun u hu => hdone r u hu

/-! ## §3. Stage 2. -/

theorem trampolinePage_ne_image : trampolinePage ≠ newTwibootImage 0 := by decide +kernel

/-- A trampoline that is read back closes the window. -/
theorem bootWriteTrampolineVerified_sat (attempts : Nat) :
    Sat (Kept sec0) (bootWriteTrampolineVerified attempts)
      (fun b u => Kept sec0 u ∧ (b = true → bootPage0IsTrampoline u.boot = true)) (Kept sec0) := by
  induction attempts with
  | zero => exact Sat.pure _ fun u hu => ⟨hu, fun h => absurd h (by decide)⟩
  | succ attempts ih =>
      unfold bootWriteTrampolineVerified bootWriteTrampolinePage
      refine Sat.bind (R := fun _ u => Kept sec0 u) ?_ fun _ => ?_
      · refine Sat.bind (R := fun _ u => Kept sec0 u ∧ u.window = true)
          (erasePage_sat (fun r u hu => ⟨hu.erased_page0 r, by simp [erased]⟩) fun u hu => hu)
          fun _ => ?_
        refine writePage_sat (fun r u hu => ?_) fun u hu => hu.1
        exact hu.1.written_page0 hu.2 _ (fun h => absurd h trampolinePage_ne_image) r
      · refine Sat.bind (R := fun got u => Kept sec0 u ∧ got = u)
          (Sat.get fun u hu => ⟨hu, rfl⟩) fun got => ?_
        refine Sat.ite (fun htramp => ?_) fun _ => ih.pre fun u hu => hu.1
        refine Sat.bind (R := fun _ u => Kept sec0 u ∧ bootPage0IsTrampoline u.boot = true)
          (Sat.modify ?_) fun _ => Sat.pure _ fun u hu => ⟨hu.1, fun _ => hu.2⟩
        rintro u ⟨hkept, rfl⟩
        exact ⟨⟨hkept.page7, fun _ => .inl htramp, hkept.given⟩, htramp⟩

/-- The loop over the pages: what it has done stays done. -/
theorem rewritePages_sat (finished pages : List (Fin 8)) (h0 : 0 ∉ pages) (h7 : 7 ∉ pages)
    (hnodup : (finished ++ pages).Nodup) :
    Sat (fun u => Kept sec0 u ∧ bootPage0IsTrampoline u.boot = true ∧
        ∀ p ∈ finished, u.boot p = newTwibootImage p)
      (rewritePages pages)
      (fun b u => Kept sec0 u ∧
        (b = true → ∀ p ∈ finished ++ pages, u.boot p = newTwibootImage p))
      (Kept sec0) := by
  induction pages generalizing finished with
  | nil => exact Sat.pure _ fun u hu => ⟨hu.1, fun _ => by rw [List.append_nil]; exact hu.2.2⟩
  | cons p rest ih =>
      rw [List.mem_cons, not_or] at h0 h7
      have hrest : Sat (fun u => Kept sec0 u ∧ bootPage0IsTrampoline u.boot = true ∧
          (∀ q ∈ finished, u.boot q = newTwibootImage q) ∧
            bootPageMatchesImage u.boot p = true) (rewritePages rest)
          (fun b u => Kept sec0 u ∧
            (b = true → ∀ q ∈ finished ++ p :: rest, u.boot q = newTwibootImage q))
          (Kept sec0) := by
        have hmore := ih (finished ++ [p]) h0.2 h7.2 (by simpa using hnodup)
        rw [List.append_assoc, List.singleton_append] at hmore
        refine hmore.pre fun u hu => ⟨hu.1, hu.2.1, fun q hq => ?_⟩
        rcases List.mem_append.mp hq with hq | hq
        · exact hu.2.2.1 q hq
        · rw [List.mem_singleton.mp hq]
          exact of_decide_eq_true hu.2.2.2
      have hout : ∀ q ∈ finished, q ≠ p := by
        intro q hq hsame
        rw [hsame] at hq
        exact (List.nodup_append.mp hnodup).2.2 p hq p List.mem_cons_self rfl
      unfold rewritePages
      refine Sat.bind (R := fun got u => (Kept sec0 u ∧ bootPage0IsTrampoline u.boot = true ∧
        ∀ q ∈ finished, u.boot q = newTwibootImage q) ∧ got = u)
        (Sat.get fun u hu => ⟨hu, rfl⟩) fun got => ?_
      refine Sat.ite (fun hmatch => hrest.pre ?_) fun _ => ?_
      · rintro u ⟨⟨hkept, htramp, hdone⟩, rfl⟩
        exact ⟨hkept, htramp, hdone, hmatch⟩
      unfold bootWritePageFromImage
      refine Sat.bind (R := fun _ u => Kept sec0 u ∧ bootPage0IsTrampoline u.boot = true ∧
        ∀ q ∈ finished, u.boot q = newTwibootImage q) ?_ fun _ => ?_
      · refine Sat.bind (R := fun _ u => Kept sec0 u ∧ bootPage0IsTrampoline u.boot = true ∧
          ∀ q ∈ finished, u.boot q = newTwibootImage q)
          (erasePage_sat (fun r u hu => ?_) fun u hu => hu.1.1) fun _ =>
            writePage_sat (fun r u hu => ?_) fun u hu => hu.1
        · obtain ⟨⟨hkept, htramp, hdone⟩, -⟩ := hu
          obtain ⟨hkept', htramp'⟩ := hkept.erased_other htramp (Ne.symm h0.1) (Ne.symm h7.1) r
          refine ⟨hkept', htramp', fun q hq => ?_⟩
          exact (Function.update_of_ne (hout q hq) _ _).trans (hdone q hq)
        · obtain ⟨hkept, htramp, hdone⟩ := hu
          obtain ⟨hkept', htramp'⟩ :=
            hkept.written_other htramp (Ne.symm h0.1) (Ne.symm h7.1) (newTwibootImage p) r
          refine ⟨hkept', htramp', fun q hq => ?_⟩
          exact (Function.update_of_ne (hout q hq) _ _).trans (hdone q hq)
      · refine Sat.bind (R := fun got u => (Kept sec0 u ∧ bootPage0IsTrampoline u.boot = true ∧
          ∀ q ∈ finished, u.boot q = newTwibootImage q) ∧ got = u)
          (Sat.get fun u hu => ⟨hu, rfl⟩) fun got => ?_
        refine Sat.ite (fun hmatch => hrest.pre ?_) fun _ => Sat.pure _ fun u hu =>
          ⟨hu.1.1, fun h => absurd h (by decide)⟩
        rintro u ⟨⟨hkept, htramp, hdone⟩, rfl⟩
        exact ⟨hkept, htramp, hdone, hmatch⟩

/-- The last page: with it the section is the image. -/
theorem rewritePage0_sat :
    Sat (fun u => Kept sec0 u ∧ ∀ p ≠ 0, u.boot p = newTwibootImage p) rewritePage0
      (fun _ u => Kept sec0 u) (Kept sec0) := by
  unfold rewritePage0 bootWritePageFromImage
  refine Sat.bind (R := fun _ u => Kept sec0 u ∧ ∀ p ≠ 0, u.boot p = newTwibootImage p) ?_
    fun _ => ?_
  · refine Sat.bind (R := fun _ u => Kept sec0 u ∧ u.window = true ∧
      ∀ p ≠ 0, u.boot p = newTwibootImage p)
      (erasePage_sat (fun r u hu => ?_) fun u hu => hu.1) fun _ =>
        writePage_sat (fun r u hu => ?_) fun u hu => hu.1
    · refine ⟨hu.1.erased_page0 r, by simp [erased], fun p hp => ?_⟩
      exact (Function.update_of_ne hp _ _).trans (hu.2 p hp)
    · refine ⟨hu.1.written_page0 hu.2.1 _ (fun _ => hu.2.2) r, fun p hp => ?_⟩
      exact (Function.update_of_ne hp _ _).trans (hu.2.2 p hp)
  refine Sat.bind (R := fun got u => (Kept sec0 u ∧ ∀ p ≠ 0, u.boot p = newTwibootImage p) ∧
    got = u) (Sat.get fun u hu => ⟨hu, rfl⟩) fun got => ?_
  refine Sat.ite (fun hmatch => ?_) fun _ => ?_
  · refine Sat.bind (R := fun _ u => Kept sec0 u) (Sat.modify ?_) fun _ => Sat.pure _ fun u hu => hu
    rintro u ⟨⟨hkept, hothers⟩, rfl⟩
    refine ⟨hkept.page7, fun _ => .inr (.inr ?_), hkept.given⟩
    funext p
    by_cases hp : p = 0
    · rw [hp]
      exact of_decide_eq_true hmatch
    · exact hothers p hp
  · refine Sat.bind (R := fun _ u => Kept sec0 u)
      ((bootWriteTrampolineVerified_sat _).mono (fun u hu => hu.1.1) (fun _ _ h => h.1)
        fun _ h => h) fun _ => Sat.pure _ fun u hu => hu

theorem bootStage2Rewrite_sat :
    Sat (Kept sec0) bootStage2Rewrite (fun _ u => Kept sec0 u) (Kept sec0) := by
  unfold bootStage2Rewrite
  refine Sat.bind (R := fun got u => Kept sec0 u ∧ got = u) (Sat.get fun u hu => ⟨hu, rfl⟩)
    fun got => ?_
  refine Sat.ite (fun _ => Sat.pure _ fun u hu => hu.1) fun _ => ?_
  refine Sat.bind (R := fun b u => Kept sec0 u ∧
    (b = true → bootPage0IsTrampoline u.boot = true)) ?_ fun b => ?_
  · unfold trampolineFirst
    refine Sat.ite (fun htramp => Sat.pure _ ?_) fun _ =>
      (bootWriteTrampolineVerified_sat _).pre fun u hu => hu.1
    rintro u ⟨hkept, rfl⟩
    exact ⟨hkept, fun _ => htramp⟩
  refine Sat.ite (fun hok => ?_) fun _ => Sat.pure _ fun u hu => hu.1
  refine Sat.bind ((rewritePages_sat [] [1, 2, 3, 4, 5, 6] (by decide) (by decide)
    (by decide)).pre fun u hu => ⟨hu.1, hu.2 hok, fun p hp => absurd hp (by simp)⟩) fun b => ?_
  refine Sat.ite (fun hdone => rewritePage0_sat.pre fun u hu => ⟨hu.1, fun p hp => ?_⟩) fun _ =>
    Sat.pure _ fun u hu => hu.1
  by_cases h7 : p = 7
  · rw [h7]
    exact hu.1.page7
  · refine hu.2 hdone p ?_
    revert p
    decide

/-! ## §4. Commands and starts. -/

/-- With the new page 7 nothing is taken for the fielded twiboot. -/
theorem state_ne_old (hcrc : NoCollision sec) (hpage7 : sec 7 = newTwibootImage 7) :
    bootCurrentState sec ≠ .OLD := by
  intro hold
  unfold bootCurrentState classifyBootSection at hold
  split at hold
  · exact absurd hold (by simp)
  split at hold
  · exact absurd hold (by simp)
  split at hold
  · next hfielded =>
      have hsame := hcrc.full fieldedTwiboot (by simp [knownSections])
        (hfielded.trans crc_fieldedTwiboot.symm)
      rw [hsame] at hpage7
      exact absurd hpage7 (by decide +kernel)
  split at hold
  · exact absurd hold (by simp)
  · next hinstalled =>
      split at hold
      · exact absurd hold (by simp)
      split at hold
      · next hpages =>
          -- the fielded pages 0 to 6 under the new page 7 are the installed section
          have hsame : sec = page7Installed := by
            funext p
            unfold page7Installed
            by_cases hp : p = 7
            · rw [hp, Function.update_self]
              exact hpage7
            · rw [Function.update_of_ne hp]
              refine hcrc.pages (hpages.trans crc_fieldedPages.symm) p ?_
              omega
          exact hinstalled (by rw [hsame]; exact crc_page7Installed)
      · exact absurd hold (by simp)

theorem bootRunStage_sat (stage lockByte : UInt8) :
    Sat (fun u => Kept sec0 u ∧ NoCollision u.boot) (bootRunStage stage lockByte)
      (fun _ u => Kept sec0 u) (Kept sec0) := by
  unfold bootRunStage
  refine Sat.bind (R := fun got u => (Kept sec0 u ∧ NoCollision u.boot) ∧ got = u)
    (Sat.get fun u hu => ⟨hu, rfl⟩) fun got => ?_
  refine Sat.ite (fun _ => ?_) fun _ => Sat.ite (fun _ => ?_) fun _ =>
    Sat.pure _ fun u hu => hu.1.1
  · refine Sat.ite (fun _ => Sat.pure _ fun u hu => hu.1.1) fun hold => ?_
    refine Sat.each_state fun u hu => ?_
    obtain ⟨⟨hkept, hcrc⟩, rfl⟩ := hu
    exact absurd (not_not.mp hold) (state_ne_old hcrc hkept.page7)
  · refine Sat.ite (fun _ => Sat.pure _ fun u hu => hu.1.1) fun _ => ?_
    refine Sat.ite (fun _ => Sat.pure _ fun u hu => hu.1.1) fun _ => ?_
    exact bootStage2Rewrite_sat.pre fun u hu => hu.1.1

theorem bootAutoResume_sat :
    Sat (Kept sec0) bootAutoResume (fun _ u => Kept sec0 u) (Kept sec0) := by
  unfold bootAutoResume
  refine Sat.bind (R := fun _ u => Kept sec0 u) (Sat.get fun u hu => hu) fun got => ?_
  exact Sat.ite (fun _ => Sat.pure _ fun u hu => hu) fun _ => bootStage2Rewrite_sat

theorem Kept.same (h : Kept sec0 u) (hboot : u'.boot = u.boot) (hwindow : u'.window = u.window)
    (hwrites : u'.writes = u.writes) : Kept sec0 u' := by
  refine ⟨?_, ?_, ?_⟩
  · rw [hboot]
    exact h.page7
  · rw [hboot, hwindow]
    exact h.safe
  · rw [hwrites]
    exact h.given

theorem ran_kept {β : Type} {t : BootTask β} {Pre : BootUnit → Prop}
    (h : Sat Pre t (fun _ u => Kept sec0 u) (Kept sec0)) (hu : Pre u) (pages : List PageOutcome) :
    Kept sec0 (ran t u pages) := by
  have hrun := h.run hu pages
  unfold ran
  split
  · next hsome =>
      rw [hsome] at hrun
      exact hrun
  · next hnone =>
      rw [hnone] at hrun
      exact hrun.same rfl rfl rfl

theorem step_kept {a : BootStep} (h : Kept sec0 u) (hcrc : NoCollision u.boot)
    (hstep : step u a = some u') : Kept sec0 u' := by
  cases a with
  | command stage lockByte pages =>
      rw [step, Option.ite_none_right_eq_some, Option.some.injEq] at hstep
      obtain ⟨-, rfl⟩ := hstep
      exact ran_kept (bootRunStage_sat stage lockByte) ⟨h, hcrc⟩ pages
  | reset =>
      rw [step, Option.some.injEq] at hstep
      subst hstep
      exact h.same rfl rfl rfl
  | start pages =>
      rw [step, Option.ite_none_right_eq_some, Option.some.injEq] at hstep
      obtain ⟨-, rfl⟩ := hstep
      have hstarted : Kept sec0 { u with running := true } := h.same rfl rfl rfl
      exact ran_kept bootAutoResume_sat hstarted pages

/-- What the next start takes a safe section for. -/
theorem Safe.state (h : Safe sec0 sec) (hcrc : NoCollision sec)
    (hstart : (bootCurrentState sec0).complete = true ∨ bootCurrentState sec0 = .TRAMPOLINE) :
    (bootCurrentState sec).complete = true ∨
      bootPage0IsTrampoline sec = true ∧ bootCurrentState sec = .TRAMPOLINE := by
  rcases h with htramp | rfl | rfl
  · refine .inr ⟨htramp, state_of_trampoline htramp fun hmem => ?_⟩
    have hknown : ∃ known ∈ knownSections, fullCrc32 sec = fullCrc32 known := by
      simp only [List.mem_cons, List.not_mem_nil, or_false] at hmem
      rcases hmem with hsame | hsame | hsame | hsame | hsame | hsame
      · exact ⟨newTwibootImage, by simp [knownSections], hsame.trans crc_newTwibootImage.symm⟩
      · exact ⟨prevNewTwiboot, by simp [knownSections], hsame.trans crc_prevNewTwiboot.symm⟩
      · exact ⟨prevNew2Twiboot, by simp [knownSections], hsame.trans crc_prevNew2Twiboot.symm⟩
      · exact ⟨prevNew3Twiboot, by simp [knownSections], hsame.trans crc_prevNew3Twiboot.symm⟩
      · exact ⟨fieldedTwiboot, by simp [knownSections], hsame.trans crc_fieldedTwiboot.symm⟩
      · exact ⟨page7Installed, by simp [knownSections], hsame.trans crc_page7Installed.symm⟩
    obtain ⟨known, hmem, hsame⟩ := hknown
    have hnot := known_not_trampoline hmem
    rw [← hcrc.full known hmem hsame, htramp] at hnot
    exact absurd hnot (by decide)
  · rcases hstart with hcomplete | htramp
    · exact .inl hcomplete
    · exact .inr ⟨trampoline_of_state htramp, htramp⟩
  · left
    rw [state_of_newCrc crc_newTwibootImage]
    rfl

/-! ## §5. A run without faults. -/

/-- So many pages in a row as asked. -/
abbrev faultless (n : Nat) : List PageOutcome := List.replicate n .asAsked

theorem bootWritePageFromImage_faultless (p : Fin 8) (u : BootUnit) (n : Nat) :
    ∃ u', bootWritePageFromImage p u (faultless (n + 2)) = (some ((), faultless n), u') ∧
      u'.boot = Function.update u.boot p (newTwibootImage p) := by
  refine ⟨_, rfl, ?_⟩
  show Function.update (Function.update u.boot p _) p _ = _
  rw [Function.update_idem]
  rfl

theorem trampolineFirst_faultless (u : BootUnit) (n : Nat) :
    ∃ m u', n ≤ m ∧ trampolineFirst u.boot u (faultless (n + 2)) =
        (some (true, faultless m), u') ∧
      bootPage0IsTrampoline u'.boot = true ∧ ∀ p ≠ 0, u'.boot p = u.boot p := by
  unfold trampolineFirst
  by_cases htramp : bootPage0IsTrampoline u.boot = true
  · rw [if_pos htramp]
    exact ⟨n + 2, u, Nat.le_add_right n 2, rfl, htramp, fun _ _ => rfl⟩
  · rw [if_neg htramp]
    have hpage : bootPage0IsTrampoline
        (written 0 trampolinePage .asAsked (erased 0 .asAsked u)).boot = true := by
      have hsame : (written 0 trampolinePage .asAsked (erased 0 .asAsked u)).boot 0 =
          trampolinePage := by
        unfold written
        dsimp only
        rw [Function.update_self, PageOutcome.page]
      unfold bootPage0IsTrampoline
      rw [hsame]
      decide +kernel
    refine ⟨n, { written 0 trampolinePage .asAsked (erased 0 .asAsked u) with window := false },
      Nat.le_refl n, ?_, hpage, ?_⟩
    · show (bootWriteTrampolineVerified 3) u (faultless (n + 2)) = _
      unfold bootWriteTrampolineVerified bootWriteTrampolinePage erasePage writePage verified
      simp only [faultless, List.replicate_succ, run_bind, run_ask, run_modify, run_get, hpage,
        if_true, run_pure]
    · intro p hp
      show Function.update (Function.update u.boot 0 _) 0 _ p = _
      rw [Function.update_of_ne hp, Function.update_of_ne hp]

theorem rewritePages_faultless (pages : List (Fin 8)) (u : BootUnit) (n : Nat) :
    ∃ m u', n ≤ m ∧ rewritePages pages u (faultless (n + 2 * pages.length)) =
        (some (true, faultless m), u') ∧
      (∀ p ∈ pages, u'.boot p = newTwibootImage p) ∧
        ∀ p ∉ pages, u'.boot p = u.boot p := by
  induction pages generalizing u n with
  | nil => exact ⟨n, u, Nat.le_refl n, rfl, fun _ hp => absurd hp (by simp), fun _ _ => rfl⟩
  | cons p rest ih =>
      rw [rewritePages, run_bind, run_get]
      dsimp only
      by_cases hmatch : bootPageMatchesImage u.boot p = true
      · obtain ⟨m, u', hle, hrun, hdone, hothers⟩ := ih u (n + 2)
        refine ⟨m, u', by omega, ?_, fun q hq => ?_, fun q hq => ?_⟩
        · rw [if_pos hmatch, List.length_cons, show n + 2 * (rest.length + 1) =
            n + 2 + 2 * rest.length by omega]
          exact hrun
        · by_cases hrest : q ∈ rest
          · exact hdone q hrest
          · have hqp := (List.mem_cons.mp hq).resolve_right hrest
            rw [hothers q hrest, hqp]
            exact of_decide_eq_true hmatch
        · rw [List.mem_cons, not_or] at hq
          exact hothers q hq.2
      · obtain ⟨u₁, hwrite, hboot⟩ :=
          bootWritePageFromImage_faultless p u (n + 2 * rest.length)
        obtain ⟨m, u', hle, hrun, hdone, hothers⟩ := ih u₁ n
        have hthis : u₁.boot p = newTwibootImage p := by rw [hboot, Function.update_self]
        have hmatch' : bootPageMatchesImage u₁.boot p = true := decide_eq_true hthis
        refine ⟨m, u', hle, ?_, fun q hq => ?_, fun q hq => ?_⟩
        · rw [if_neg hmatch, List.length_cons, show n + 2 * (rest.length + 1) =
            n + 2 * rest.length + 2 by omega, run_bind, hwrite]
          dsimp only
          rw [run_bind, run_get]
          dsimp only
          rw [if_pos hmatch']
          exact hrun
        · by_cases hrest : q ∈ rest
          · exact hdone q hrest
          · have hqp := (List.mem_cons.mp hq).resolve_right hrest
            rw [hothers q hrest, hqp]
            exact hthis
        · rw [List.mem_cons, not_or] at hq
          rw [hothers q hq.2, hboot, Function.update_of_ne hq.1]

theorem rewritePage0_faultless (u : BootUnit) (n : Nat)
    (hothers : ∀ p ≠ 0, u.boot p = newTwibootImage p) :
    ∃ u', rewritePage0 u (faultless (n + 2)) = (some (.STAGE2_OK, faultless n), u') ∧
      u'.boot = newTwibootImage ∧ u'.window = false := by
  obtain ⟨u', hwrite, hboot⟩ := bootWritePageFromImage_faultless 0 u n
  have himage : u'.boot = newTwibootImage := by
    funext p
    rw [hboot]
    by_cases hp : p = 0
    · rw [hp, Function.update_self]
    · rw [Function.update_of_ne hp]
      exact hothers p hp
  have hnew : bootCurrentState u'.boot = .NEW := by
    rw [himage]
    exact state_of_newCrc crc_newTwibootImage
  have hmatch : bootPageMatchesImage u'.boot 0 = true := by
    rw [himage]
    exact decide_eq_true rfl
  refine ⟨{ u' with window := false }, ?_, himage, rfl⟩
  rw [rewritePage0, run_bind, hwrite]
  dsimp only
  rw [run_bind, run_get]
  dsimp only
  rw [if_pos hmatch, if_pos hnew]
  rfl

/-- **Without faults one run is enough.** -/
theorem bootStage2Rewrite_faultless (u : BootUnit) (hpage7 : u.boot 7 = newTwibootImage 7) :
    ∃ rest u', bootStage2Rewrite u (faultless 16) = (some (.STAGE2_OK, rest), u') ∧
      u'.boot = newTwibootImage ∧ u'.window = false := by
  obtain ⟨m₁, u₁, hle₁, hrun₁, -, hkeep₁⟩ := trampolineFirst_faultless u 14
  obtain ⟨k₁, rfl⟩ := Nat.exists_eq_add_of_le' hle₁
  obtain ⟨m₂, u₂, hle₂, hrun₂, hdone, hkeep₂⟩ :=
    rewritePages_faultless [1, 2, 3, 4, 5, 6] u₁ (k₁ + 2)
  obtain ⟨k₂, rfl⟩ : ∃ k, m₂ = k + 2 := ⟨m₂ - 2, by omega⟩
  obtain ⟨u₃, hrun₃, hnew⟩ := rewritePage0_faultless u₂ k₂ (by
    intro p hp
    by_cases h7 : p = 7
    · rw [h7, hkeep₂ 7 (by decide), hkeep₁ 7 (by decide)]
      exact hpage7
    · refine hdone p ?_
      revert p
      decide)
  refine ⟨faultless k₂, u₃, ?_, hnew⟩
  have hholds : ¬bootPage7HoldsDoSpm u.boot = false := by
    rw [Bool.not_eq_false]
    exact decide_eq_true hpage7
  rw [bootStage2Rewrite, run_bind, run_get]
  dsimp only
  rw [if_neg hholds, run_bind, hrun₁]
  dsimp only
  rw [if_pos rfl, run_bind, show k₁ + 14 = k₁ + 2 + 2 * ([1, 2, 3, 4, 5, 6] : List (Fin 8)).length
    from rfl, hrun₂]
  dsimp only
  rw [if_pos rfl]
  exact hrun₃

/-- Stage 2 as it is asked for on the bus, in a section that it works on. -/
theorem bootRunStage_faultless (u : BootUnit) (hpage7 : u.boot 7 = newTwibootImage 7)
    (hstart : bootCurrentState u.boot = .PAGE7_INSTALLED ∨ bootCurrentState u.boot = .PREV_NEW ∨
      bootCurrentState u.boot = .TRAMPOLINE)
    {lockByte : UInt8} (hlock : bootLockPermitsBootWrite lockByte = true) :
    ∃ rest u', bootRunStage 2 lockByte u (faultless 16) = (some (.STAGE2_OK, rest), u') ∧
      u'.boot = newTwibootImage ∧ u'.window = false := by
  obtain ⟨rest, u', hrewrite, hnew⟩ := bootStage2Rewrite_faultless u hpage7
  refine ⟨rest, u', ?_, hnew⟩
  have hallowed : ¬(bootCurrentState u.boot ≠ .PAGE7_INSTALLED ∧
      bootCurrentState u.boot ≠ .TRAMPOLINE ∧ bootCurrentState u.boot ≠ .PREV_NEW) := by
    rintro ⟨h1, h2, h3⟩
    rcases hstart with h | h | h
    · exact h1 h
    · exact h3 h
    · exact h2 h
  rw [bootRunStage, run_bind, run_get]
  dsimp only
  rw [if_neg (by decide), if_pos rfl, if_neg hallowed, if_neg (by simp [hlock])]
  exact hrewrite

/-! ## §6. The runs. -/

theorem run_kept {steps : List BootStep} (h : Kept sec0 u)
    (hcrc : AllMeet (fun u _ => NoCollision u.boot) step u steps)
    (hrun : run step u steps = some u') : Kept sec0 u' :=
  run_invariant_of_meets (fun _ _ _ hkept hok hstep => step_kept hkept hok hstep) h hcrc hrun

/-- **The rewrite does not brick a unit outside its windows**: from a section
with the new page 7 that stage 2 works on, every run of commands, resets at any
moment and starts leaves, while the window is closed, a complete known image or
the trampoline that resumes; page 0 is given the image's bytes only on top of
all the others; and one run without faults ends with the new image. -/
theorem rewrite_survives (sec0 : Section) (hpage7 : sec0 7 = newTwibootImage 7)
    (hstart : bootCurrentState sec0 = .PAGE7_INSTALLED ∨ bootCurrentState sec0 = .PREV_NEW ∨
      bootCurrentState sec0 = .TRAMPOLINE)
    (steps : List BootStep) (u : BootUnit) (hrun : run step { boot := sec0 } steps = some u)
    (hcrc : AllMeet (fun u _ => NoCollision u.boot) step { boot := sec0 } steps)
    (hend : NoCollision u.boot) :
    (u.window = false → (bootCurrentState u.boot).complete = true ∨
        bootPage0IsTrampoline u.boot = true ∧ bootCurrentState u.boot = .TRAMPOLINE) ∧
      GivenLast u.writes ∧
      ∀ v : BootUnit, v.boot = sec0 →
        (∀ lockByte, bootLockPermitsBootWrite lockByte = true →
          ∃ rest v', bootRunStage 2 lockByte v (faultless 16) = (some (.STAGE2_OK, rest), v') ∧
            bootCurrentState v'.boot = .NEW) ∧
        (bootCurrentState sec0 = .TRAMPOLINE →
          ∃ rest v', bootAutoResume v (faultless 16) = (some (.STAGE2_OK, rest), v') ∧
            bootCurrentState v'.boot = .NEW) := by
  have hkept : Kept sec0 u :=
    run_kept ⟨hpage7, fun _ => .inr (.inl rfl), fun _ hw => absurd hw (by simp)⟩ hcrc hrun
  have hstart' : (bootCurrentState sec0).complete = true ∨ bootCurrentState sec0 = .TRAMPOLINE := by
    rcases hstart with h | h | h
    · exact .inl (by rw [h]; rfl)
    · exact .inl (by rw [h]; rfl)
    · exact .inr h
  refine ⟨fun hclosed => (hkept.safe hclosed).state hend hstart', hkept.given, ?_⟩
  rintro v rfl
  have hnew {v' : BootUnit} (himage : v'.boot = newTwibootImage) :
      bootCurrentState v'.boot = .NEW := by
    rw [himage]
    exact state_of_newCrc crc_newTwibootImage
  constructor
  · intro lockByte hlock
    obtain ⟨rest, v', hrun, himage, -⟩ := bootRunStage_faultless v hpage7 hstart hlock
    exact ⟨rest, v', hrun, hnew himage⟩
  · intro htramp
    obtain ⟨rest, v', hrewrite, himage, -⟩ := bootStage2Rewrite_faultless v hpage7
    refine ⟨rest, v', ?_, hnew himage⟩
    rw [bootAutoResume, run_bind, run_get]
    dsimp only
    rw [if_neg (by simp [htramp])]
    exact hrewrite

theorem step_command {u : BootUnit} (h : u.running = true) {stage lockByte : UInt8}
    {pages : List PageOutcome} :
    step u (.command stage lockByte pages) = some (ran (bootRunStage stage lockByte) u pages) :=
  if_pos h

theorem ran_of_done {β : Type} {t : BootTask β} {u u' : BootUnit} {pages : List PageOutcome}
    {done : β × List PageOutcome} (h : t u pages = (some done, u')) : ran t u pages = u' := by
  unfold ran
  rw [h]

/-- The two known sections of the run below. -/
theorem noCollision_ends : NoCollision page7Installed ∧ NoCollision newTwibootImage := by
  constructor
  · refine ⟨fun known hmem hsame => ?_, fun _ p hp => ?_⟩
    · simp only [knownSections, List.mem_cons, List.not_mem_nil, or_false] at hmem
      rw [crc_page7Installed] at hsame
      rcases hmem with rfl | rfl | rfl | rfl | rfl | rfl
      · exact absurd (hsame.trans crc_newTwibootImage) (by decide)
      · exact absurd (hsame.trans crc_prevNewTwiboot) (by decide)
      · exact absurd (hsame.trans crc_prevNew2Twiboot) (by decide)
      · exact absurd (hsame.trans crc_prevNew3Twiboot) (by decide)
      · exact absurd (hsame.trans crc_fieldedTwiboot) (by decide)
      · rfl
    · exact Function.update_of_ne (by omega) _ _
  · refine ⟨fun known hmem hsame => ?_, fun hsame => ?_⟩
    · simp only [knownSections, List.mem_cons, List.not_mem_nil, or_false] at hmem
      rw [crc_newTwibootImage] at hsame
      rcases hmem with rfl | rfl | rfl | rfl | rfl | rfl
      · rfl
      · exact absurd (hsame.trans crc_prevNewTwiboot) (by decide)
      · exact absurd (hsame.trans crc_prevNew2Twiboot) (by decide)
      · exact absurd (hsame.trans crc_prevNew3Twiboot) (by decide)
      · exact absurd (hsame.trans crc_fieldedTwiboot) (by decide)
      · exact absurd (hsame.trans crc_page7Installed) (by decide)
    · rw [crc_fieldedPages] at hsame
      exact absurd hsame (by decide +kernel)

/-- Stage 2 on a unit that has had stage 1. -/
theorem rewrite_survives_installed :
    ∃ u, run step { boot := page7Installed } [.command 2 0xFF (faultless 16)] = some u ∧
      ((bootCurrentState u.boot).complete = true ∨
        bootPage0IsTrampoline u.boot = true ∧ bootCurrentState u.boot = .TRAMPOLINE) ∧
      GivenLast u.writes := by
  have hstate : bootCurrentState page7Installed = .PAGE7_INSTALLED := by decide +kernel
  have hpage7 : page7Installed 7 = newTwibootImage 7 := Function.update_self ..
  obtain ⟨rest, u, hstage, himage, hclosed⟩ :=
    bootRunStage_faultless { boot := page7Installed } hpage7 (.inl hstate)
      (show bootLockPermitsBootWrite 0xFF = true by decide)
  have hrun : run step { boot := page7Installed } [.command 2 0xFF (faultless 16)] = some u := by
    rw [run_cons, step_command rfl, ran_of_done hstage, Option.bind_some, run_nil]
  obtain ⟨hinstalled, hnew⟩ := noCollision_ends
  have hsurvives := rewrite_survives page7Installed hpage7 (.inl hstate)
    [.command 2 0xFF (faultless 16)] u hrun ⟨hinstalled, fun _ _ => trivial⟩
    (by rw [himage]; exact hnew)
  exact ⟨u, hrun, hsurvives.1 hclosed, hsurvives.2.1⟩

end SplitFlap.Boot
