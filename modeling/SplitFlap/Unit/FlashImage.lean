/-
  SplitFlap.Unit.FlashImage — a unit's flash can stop at any point.

  The log of `unitFlashImage` is in order, event by event (`InOrder`): every
  page write is the hold page at address 0, a page of the image after the
  first, or the image's first page once all the others were read back right;
  and the unit is told to start only after that last page was too.  What the
  flash holds after any prefix of the log follows from the order alone.
-/
import Mathlib.Logic.Function.Basic
import SplitFlap.Unit.Twiboot

namespace SplitFlap.Unit

open Trace

/-! ## §1. The flash behind the bus. -/

/-- The page address and page of a transmission that writes one. -/
def pageWrite? : Bytes → Option (Nat × Bytes)
  | cmd :: mem :: hi :: lo :: page =>
      if cmd = TWIBOOT_CMD_ACCESS_MEMORY ∧ mem = TWIBOOT_MEMTYPE_FLASH ∧
          page.length = TWIBOOT_PAGE_SIZE then
        some (hi.toNat * 256 + lo.toNat, page)
      else none
  | _ => none

/-- What one event makes of the flash, page by page. -/
def flashStep (addr : UInt8) (flash : Nat → Bytes) : BusEvent → Nat → Bytes
  | .sent a bytes _ _ true =>
      if a = addr then
        match pageWrite? bytes with
        | some (flashAddr, page) => Function.update flash (flashAddr / TWIBOOT_PAGE_SIZE) page
        | none => flash
      else flash
  | _ => flash

/-- The flash after a log, each page old or as sent. -/
def flashAfter (addr : UInt8) (flash : Nat → Bytes) (log : List BusEvent) : Nat → Bytes :=
  log.foldl (flashStep addr) flash

/-- The flash address of a page of the image. -/
def pageAddress (i : Nat) : UInt16 := UInt16.ofNat (i * TWIBOOT_PAGE_SIZE)

/-- The page was written, the write ACKed, and a later read-back was `page`. -/
def WroteAndVerified (addr : UInt8) (flashAddr : UInt16) (page : Bytes) (log : List BusEvent) :
    Prop :=
  ∃ before between after programmed programmed',
    log = before ++ .sent addr (pageCommand flashAddr ++ page) true 0 programmed ::
      (between ++ .sent addr (pageCommand flashAddr) false 0 programmed' ::
        .request addr TWIBOOT_PAGE_SIZE page :: after)

theorem WroteAndVerified.more {addr : UInt8} {flashAddr : UInt16} {page : Bytes}
    {log : List BusEvent} (h : WroteAndVerified addr flashAddr page log) (said : List BusEvent) :
    WroteAndVerified addr flashAddr page (log ++ said) := by
  obtain ⟨before, between, after, pg, pg', hlog⟩ := h
  exact ⟨before, between, after ++ said, pg, pg', by rw [hlog]; simp⟩

/-! ## §2. The order of a flash. -/

variable (addr : UInt8) (pageCount : Nat) (pages : Nat → Page)

/-- The image's pages after the first are written and read back right. -/
def RestVerified (log : List BusEvent) : Prop :=
  ∀ i, 1 ≤ i → i < pageCount → WroteAndVerified addr (pageAddress i) (pages i).bytes log

/-- The page writes of a flash, in their order. -/
def WriteInOrder (log : List BusEvent) (flashAddr : Nat) (page : Bytes) : Prop :=
  (flashAddr = 0 ∧ page = twibootFillHoldPage.bytes) ∨
  (∃ i, 1 ≤ i ∧ i < pageCount ∧ flashAddr = i * TWIBOOT_PAGE_SIZE ∧ page = (pages i).bytes) ∨
  (0 < pageCount ∧ flashAddr = 0 ∧ page = (pages 0).bytes ∧ RestVerified addr pageCount pages log)

/-- The events of a flash, in their order. -/
def InOrder (log : List BusEvent) : BusEvent → Prop
  | .sent _ bytes _ _ _ =>
      (∀ flashAddr page, pageWrite? bytes = some (flashAddr, page) →
        WriteInOrder addr pageCount pages log flashAddr page) ∧
      (bytes = exitCommand → ∀ i, i < pageCount →
        WroteAndVerified addr (pageAddress i) (pages i).bytes log)
  | _ => True

/-- The two bytes of a flash address are that address. -/
theorem address_bytes (a : UInt16) :
    (a >>> 8).toUInt8.toNat * 256 + a.toUInt8.toNat = a.toNat := by
  have hlt : a.toNat < 65536 := a.toNat_lt
  have hhigh : (a >>> 8).toUInt8.toNat = a.toNat / 256 := by
    have hshift : (a >>> 8).toNat = a.toNat / 256 := by
      rw [UInt16.toNat_shiftRight]
      exact Nat.shiftRight_eq_div_pow a.toNat 8
    rw [UInt16.toNat_toUInt8, hshift]
    omega
  have hlow : a.toUInt8.toNat = a.toNat % 256 := UInt16.toNat_toUInt8 a
  rw [hhigh, hlow]
  omega

theorem pageWrite?_burst (flashAddr : UInt16) (page : Page) :
    pageWrite? (pageCommand flashAddr ++ page.bytes) = some (flashAddr.toNat, page.bytes) := by
  show pageWrite? (_ :: _ :: _ :: _ :: page.bytes) = _
  rw [pageWrite?, if_pos ⟨rfl, rfl, page.size⟩, address_bytes]

theorem pageWrite?_short {bytes : Bytes} (h : bytes.length ≤ 4) : pageWrite? bytes = none := by
  unfold pageWrite?
  split
  · next cmd mem hi lo page =>
      rw [if_neg]
      rintro ⟨_, _, hpage⟩
      have hfull : page.length = 128 := hpage
      have hlen : page.length + 4 ≤ 4 := h
      omega
  · rfl

/-- A short transmission that does not begin like an exit is in order. -/
theorem inOrder_short {bytes : Bytes} (hshort : bytes.length ≤ 4)
    (hhead : bytes.head? ≠ some TWIBOOT_CMD_SWITCH_APPLICATION) (log : List BusEvent)
    (capacity : Nat) (stop : Bool) (status : Int) (programmed : Bool) :
    InOrder addr pageCount pages log (.sent addr (bytes.take capacity) stop status programmed) := by
  refine ⟨?_, ?_⟩
  · intro flashAddr page hwrite
    rw [pageWrite?_short (by rw [List.length_take]; omega)] at hwrite
    cases hwrite
  · intro hexit
    cases bytes with
    | nil => rw [List.take_nil] at hexit; cases hexit
    | cons b bytes =>
        cases capacity with
        | zero => cases hexit
        | succ c =>
            rw [List.take_succ_cons, exitCommand, List.cons.injEq] at hexit
            exact absurd (congrArg some hexit.1) hhead

/-! ## §3. Each sequence in order. -/

variable (B : Bus)

theorem transmit_does {ok : List BusEvent → BusEvent → Prop} {log : List BusEvent} {bytes : Bytes}
    {stop : Bool} {post : Int → List BusEvent → Prop}
    (hok : ∀ status programmed, ok log (.sent addr (bytes.take B.capacity) stop status programmed))
    (hpost : ∀ status programmed,
      post status (log ++ [.sent addr (bytes.take B.capacity) stop status programmed])) :
    Does ok (transmit B addr bytes stop) log post := by
  unfold transmit
  refine does_bind (p := fun answer log' =>
    log' = log ++ [.sent addr (bytes.take B.capacity) stop answer.1 answer.2]) ?_ ?_
  · exact does_ask (hok _ _) rfl
  · intro answer said hlog
    rw [hlog]
    exact does_ret (hpost _ _)

/-- A program that says nothing out of order, whatever comes of it. -/
abbrev Harmless {α : Type} (m : Trace BusEvent α) : Prop :=
  ∀ log, Does (InOrder addr pageCount pages) m log fun _ _ => True

theorem transmit_harmless {bytes : Bytes} (stop : Bool) (hshort : bytes.length ≤ 4)
    (hhead : bytes.head? ≠ some TWIBOOT_CMD_SWITCH_APPLICATION) :
    Harmless addr pageCount pages (transmit B addr bytes stop) := by
  intro log
  exact transmit_does addr B (fun _ _ => inOrder_short addr pageCount pages hshort hhead ..)
    fun _ _ => trivial

theorem ping_harmless : Harmless addr pageCount pages (twibootPing B addr) :=
  transmit_harmless addr pageCount pages B true (by decide) (by decide)

theorem waitReadyLoop_harmless (deadline : UInt32) :
    ∀ fuel, Harmless addr pageCount pages (waitReadyLoop B addr deadline fuel)
  | 0 => fun _ => does_stuck
  | fuel + 1 => by
      intro log
      unfold waitReadyLoop
      refine does_seq (does_ask trivial trivial) fun now said => ?_
      split
      · refine does_seq (ping_harmless addr pageCount pages B _) fun status more => ?_
        split
        · exact does_ret trivial
        · refine does_seq (does_say trivial trivial) fun _ more' => ?_
          exact waitReadyLoop_harmless deadline fuel _
      · exact does_ret trivial

theorem waitReady_harmless (fuel : Nat) (timeoutMs : UInt32) :
    Harmless addr pageCount pages (twibootWaitReady B addr fuel timeoutMs) := by
  intro log
  unfold twibootWaitReady
  refine does_seq (does_ask trivial trivial) fun now said => ?_
  exact waitReadyLoop_harmless addr pageCount pages B _ fuel _

theorem awaitBootloader_harmless : ∀ attempts,
    Harmless addr pageCount pages (awaitBootloaderLoop B addr attempts)
  | 0 => fun _ => does_ret trivial
  | attempts + 1 => by
      intro log
      unfold awaitBootloaderLoop
      refine does_seq (ping_harmless addr pageCount pages B _) fun status said => ?_
      split
      · exact does_ret trivial
      · refine does_seq (does_say trivial trivial) fun _ more => ?_
        exact awaitBootloader_harmless attempts _

theorem verifyChip_harmless : Harmless addr pageCount pages (twibootVerifyChip B addr) := by
  intro log
  unfold twibootVerifyChip
  refine does_seq (transmit_harmless addr pageCount pages B false (by decide) (by decide) _)
    fun status said => ?_
  split
  · exact does_ret trivial
  · refine does_seq (does_ask trivial trivial) fun got more => ?_
    split
    · exact does_seq (does_say trivial trivial) fun _ _ => does_ret trivial
    · split
      · exact does_ret trivial
      · split <;> exact does_ret trivial

theorem awaitSketch_harmless : ∀ attempts,
    Harmless addr pageCount pages (awaitSketchLoop B addr attempts)
  | 0 => fun _ => does_ret trivial
  | attempts + 1 => by
      intro log
      unfold awaitSketchLoop
      refine does_seq (does_say trivial trivial) fun _ said => ?_
      refine does_seq (transmit_harmless addr pageCount pages B true (by decide) (by decide) _)
        fun status more => ?_
      split
      · exact does_ret trivial
      · exact awaitSketch_harmless attempts _

theorem reboot_harmless : Harmless addr pageCount pages (unitRebootSketch B addr) :=
  transmit_harmless addr pageCount pages B true (by decide) (by decide)

/-! ## §4. One page. -/

/-- A page that was read: the log ends with its read-back. -/
theorem readPage_does (flashAddr : UInt16) (hcap : 4 ≤ B.capacity) (log : List BusEvent) :
    Does (InOrder addr pageCount pages) (twibootReadFlashPage B addr flashAddr) log
      fun got log' => ∀ page, got = some page →
        ∃ between programmed, log' = log ++ between ++
          [.sent addr (pageCommand flashAddr) false 0 programmed,
            .request addr TWIBOOT_PAGE_SIZE page] := by
  have hwhole : (pageCommand flashAddr).take B.capacity = pageCommand flashAddr :=
    List.take_of_length_le hcap
  unfold twibootReadFlashPage
  refine does_bind (p := fun status log' => ∃ programmed,
    log' = log ++ [.sent addr (pageCommand flashAddr) false status programmed]) ?_ ?_
  · refine transmit_does addr B ?_ ?_
    · intro status programmed
      have hhead : (pageCommand flashAddr).head? ≠ some TWIBOOT_CMD_SWITCH_APPLICATION := by
        show some TWIBOOT_CMD_ACCESS_MEMORY ≠ _
        decide
      have hshort : (pageCommand flashAddr).length ≤ 4 := Nat.le_refl 4
      exact inOrder_short addr pageCount pages hshort hhead ..
    · intro status programmed
      rw [hwhole]
      exact ⟨programmed, rfl⟩
  · rintro status said ⟨programmed, hlog⟩
    rw [hlog]
    split
    · exact does_ret (fun _ h => (nomatch h))
    · next hstatus =>
        have hack : status = 0 := by simpa using hstatus
        refine does_bind (p := fun got log' => log' = log ++
          [.sent addr (pageCommand flashAddr) false status programmed] ++
          [.request addr TWIBOOT_PAGE_SIZE got]) (does_ask trivial rfl) ?_
        intro got more hmore
        rw [hmore]
        split
        · exact does_seq (does_say trivial trivial) fun _ _ => does_ret (fun _ h => (nomatch h))
        · refine does_ret ?_
          intro page hpage
          injection hpage with hpage
          subst hpage
          exact ⟨[], programmed, by rw [hack]; simp⟩

/-- The read-back attempts end with one that was whole, or with none. -/
theorem readBack_does (flashAddr : UInt16) (hcap : 4 ≤ B.capacity) :
    ∀ (attempts : Nat) (log : List BusEvent),
      Does (InOrder addr pageCount pages) (readBackLoop B addr flashAddr attempts) log
        fun got log' => ∀ page, got = some page →
          ∃ between programmed, log' = log ++ between ++
            [.sent addr (pageCommand flashAddr) false 0 programmed,
              .request addr TWIBOOT_PAGE_SIZE page]
  | 0, _ => does_ret fun _ h => (nomatch h)
  | attempts + 1, log => by
      unfold readBackLoop
      refine does_bind (readPage_does addr pageCount pages B flashAddr hcap log) ?_
      intro got said hgot
      cases got with
      | some page => exact does_ret hgot
      | none =>
          refine does_imp (readBack_does flashAddr hcap attempts (log ++ said)) ?_
          intro got more hmore page hpage
          obtain ⟨between, programmed, hlog⟩ := hmore page hpage
          exact ⟨said ++ between, programmed, by rw [hlog]; simp⟩

/-- A page that goes where it may: all its writes are in order, and it is
answered `ok` only when it was written and read back right. -/
theorem flashAndVerify_does (fuel : Nat) (flashAddr : UInt16) (page : Page) :
    ∀ (attempts rewrites : Nat) (log : List BusEvent),
      (∀ said, WriteInOrder addr pageCount pages (log ++ said) flashAddr.toNat page.bytes) →
      Does (InOrder addr pageCount pages)
        (flashAndVerifyLoop B addr fuel flashAddr page attempts rewrites) log
        fun wrote log' => wrote.1 = .ok → WroteAndVerified addr flashAddr page.bytes log'
  | 0, _, _, _ => does_ret fun h => (nomatch h)
  | attempts + 1, rewrites, log, hwrite => by
      unfold flashAndVerifyLoop
      refine does_seq (waitReady_harmless addr pageCount pages B fuel _ log) fun ready said => ?_
      split
      · exact does_ret fun h => (nomatch h)
      · refine does_bind (p := fun wrote log' => wrote = .ok → 4 ≤ B.capacity ∧
          ∃ programmed, log' = log ++ said ++
            [.sent addr (pageCommand flashAddr ++ page.bytes) true 0 programmed]) ?_ ?_
        · unfold twibootWriteFlashPage
          dsimp only
          split
          · exact does_ret fun h => (nomatch h)
          · next hroom =>
              -- a burst that fits is sent whole
              have hlen : (pageCommand flashAddr ++ page.bytes).length = TWIBOOT_PAGE_SIZE + 4 := by
                rw [List.length_append, page.size, Nat.add_comm]
                rfl
              have hcap : TWIBOOT_PAGE_SIZE + 4 ≤ B.capacity := by
                rw [List.length_take, hlen] at hroom
                omega
              have hwhole : (pageCommand flashAddr ++ page.bytes).take B.capacity =
                  pageCommand flashAddr ++ page.bytes :=
                List.take_of_length_le (by rw [hlen]; exact hcap)
              refine does_bind (p := fun status log' => ∃ programmed, log' = log ++ said ++
                [.sent addr (pageCommand flashAddr ++ page.bytes) true status programmed]) ?_ ?_
              · refine transmit_does addr B ?_ ?_
                · intro status programmed
                  rw [hwhole]
                  refine ⟨?_, ?_⟩
                  · intro fa p hp
                    rw [pageWrite?_burst, Option.some.injEq, Prod.mk.injEq] at hp
                    rw [← hp.1, ← hp.2]
                    exact hwrite said
                  · intro hexit
                    have hlong := congrArg List.length hexit
                    rw [hlen] at hlong
                    cases hlong
                · intro status programmed
                  rw [hwhole]
                  exact ⟨programmed, rfl⟩
              · rintro status more ⟨programmed, hlog⟩
                refine does_ret ?_
                intro hok
                refine ⟨Nat.le_trans (by decide) hcap, programmed, ?_⟩
                have hstatus : status = 0 := by
                  by_contra hne
                  rw [if_neg hne] at hok
                  cases hok
                rw [hlog, hstatus]
        · intro wrote more hwrote
          split
          · next hne => exact does_ret fun h => absurd h hne
          · next hok =>
              obtain ⟨hcap, programmed, hlog⟩ := hwrote (by simpa using hok)
              rw [hlog]
              refine does_seq (waitReady_harmless addr pageCount pages B fuel _ _)
                fun free after => ?_
              split
              · exact does_ret fun h => (nomatch h)
              · refine does_bind (readBack_does addr pageCount pages B flashAddr hcap _ _) ?_
                intro got tail hgot
                cases got with
                | none => exact does_ret fun h => (nomatch h)
                | some bytes =>
                    dsimp only
                    split
                    · next hsame =>
                        refine does_ret fun _ => ?_
                        obtain ⟨between, programmed', hend⟩ := hgot bytes rfl
                        rw [hend, hsame]
                        exact ⟨log ++ said, after ++ between, [], programmed, programmed', by simp⟩
                    · rw [List.append_assoc, List.append_assoc, List.append_assoc]
                      refine flashAndVerify_does fuel flashAddr page attempts (rewrites + 1) _ ?_
                      intro said'
                      rw [List.append_assoc]
                      exact hwrite _

/-! ## §5. The whole image. -/

/-- What is verified when `step` begins: the image's pages after the first and
before it. -/
def VerifiedBefore (step : Nat) (log : List BusEvent) : Prop :=
  ∀ i, 1 ≤ i → i < step → i < pageCount → WroteAndVerified addr (pageAddress i) (pages i).bytes log

theorem VerifiedBefore.more {step : Nat} {log : List BusEvent}
    (h : VerifiedBefore addr pageCount pages step log) (said : List BusEvent) :
    VerifiedBefore addr pageCount pages step (log ++ said) :=
  fun i h1 hi hn => (h i h1 hi hn).more said

/-- Every page of the image is verified. -/
def AllVerified (log : List BusEvent) : Prop :=
  ∀ i, i < pageCount → WroteAndVerified addr (pageAddress i) (pages i).bytes log

theorem pageAddress_toNat {i : Nat} (h : i * TWIBOOT_PAGE_SIZE < 65536) :
    (pageAddress i).toNat = i * TWIBOOT_PAGE_SIZE := by
  unfold pageAddress
  rw [UInt16.toNat_ofNat']
  exact Nat.mod_eq_of_lt h

/-- The page of a step may be written once all before it are verified. -/
theorem stepPage_inOrder (hfits : pageCount * TWIBOOT_PAGE_SIZE ≤ BOOT_SECTION_START) {step : Nat}
    (hstep : step ≤ pageCount) (hsome : 0 < pageCount) {log : List BusEvent}
    (hbefore : VerifiedBefore addr pageCount pages step log) :
    WriteInOrder addr pageCount pages log
      (pageAddress (stepPage pageCount pages step).1).toNat
      (stepPage pageCount pages step).2.bytes := by
  have hsmall : ∀ i, i ≤ pageCount → i * TWIBOOT_PAGE_SIZE < 65536 := by
    intro i hi
    have := Nat.mul_le_mul_right TWIBOOT_PAGE_SIZE hi
    have hstart : BOOT_SECTION_START < 65536 := by decide
    omega
  unfold stepPage
  dsimp only
  by_cases hfirst : step = 0
  · have hlast : step ≠ pageCount := by omega
    rw [if_neg hlast, if_pos hfirst, pageAddress_toNat (hsmall step hstep), hfirst, Nat.zero_mul]
    exact .inl ⟨rfl, rfl⟩
  · by_cases hlast : step = pageCount
    · rw [if_pos hlast, if_neg hfirst]
      refine .inr (.inr ⟨hsome, rfl, rfl, ?_⟩)
      intro i h1 hi
      exact hbefore i h1 (by omega) hi
    · rw [if_neg hlast, if_neg hfirst, pageAddress_toNat (hsmall step hstep)]
      exact .inr (.inl ⟨step, by omega, by omega, rfl, rfl⟩)

/-- The page loop: in order, and whole only when every page is verified. -/
theorem pageLoop_does (fuel : Nat) (hfits : pageCount * TWIBOOT_PAGE_SIZE ≤ BOOT_SECTION_START)
    (hsome : 0 < pageCount) :
    ∀ (todo step : Nat) (report : UnitFlashReport) (log : List BusEvent),
      todo + step = pageCount + 1 → VerifiedBefore addr pageCount pages step log →
      (step = pageCount + 1 → AllVerified addr pageCount pages log) →
      Does (InOrder addr pageCount pages) (pageLoop B addr fuel pageCount pages todo step report)
        log fun answer log' => answer.2 = true → AllVerified addr pageCount pages log'
  | 0, step, report, log, htodo, _, hall => by
      refine does_ret fun _ => hall (by omega)
  | todo + 1, step, report, log, htodo, hbefore, _ => by
      unfold pageLoop
      refine does_seq (does_ask trivial trivial) fun on said => ?_
      split
      · exact does_ret fun h => (nomatch h)
      · dsimp only
        refine does_bind (flashAndVerify_does addr pageCount pages B fuel _ _ _ _ _ ?_) ?_
        · intro more
          have hmore := (hbefore.more addr pageCount pages said).more addr pageCount pages more
          exact stepPage_inOrder addr pageCount pages hfits (by omega) hsome hmore
        · intro wrote more hwrote
          refine does_bind (p := fun _ log' => wrote.1 = .ok →
            WroteAndVerified addr (pageAddress (stepPage pageCount pages step).1)
              (stepPage pageCount pages step).2.bytes log') ?_ ?_
          · unfold notePageRewritten
            split
            · exact does_say trivial fun hok => (hwrote hok).more _
            · exact does_ret hwrote
          · intro _ tail hverified
            split
            · exact does_ret fun h => (nomatch h)
            · next hne =>
                have hpage := hverified (by simpa using hne)
                have hnext : VerifiedBefore addr pageCount pages step (log ++ said ++ more ++ tail) :=
                  ((hbefore.more addr pageCount pages said).more addr pageCount pages more).more
                    addr pageCount pages tail
                refine pageLoop_does fuel hfits hsome todo (step + 1) _ _ (by omega) ?_ ?_
                · intro i h1 hi hn
                  by_cases his : i = step
                  · subst his
                    have hfirst : i ≠ 0 := by omega
                    have hlast : i ≠ pageCount := by omega
                    simp only [stepPage, if_neg hfirst, if_neg hlast] at hpage
                    exact hpage
                  · exact hnext i h1 (by omega) hn
                · intro hend i hi
                  by_cases hfirst : i = 0
                  · subst hfirst
                    have hstep : step = pageCount := by omega
                    have hpos : step ≠ 0 := by omega
                    simp only [stepPage, if_pos hstep, if_neg hpos] at hpage
                    exact hpage
                  · exact hnext i (by omega) (by omega) hi

/-- **Flashing a unit is in order**, whatever the bus does. -/
theorem unitFlashImage_does (fuel imageLen : Nat) (pages : Nat → Page) (log : List BusEvent) :
    Does (InOrder addr (imageLen / TWIBOOT_PAGE_SIZE) pages)
      (unitFlashImage B addr fuel imageLen pages) log fun _ _ => True := by
  unfold unitFlashImage
  split
  · exact does_ret trivial
  · next hguard =>
      have hfits : imageLen / TWIBOOT_PAGE_SIZE * TWIBOOT_PAGE_SIZE ≤ BOOT_SECTION_START := by
        have hlen : imageLen ≤ BOOT_SECTION_START := by
          simpa [twibootImageFits] using hguard
        exact Nat.le_trans (Nat.div_mul_le_self imageLen TWIBOOT_PAGE_SIZE) hlen
      generalize imageLen / TWIBOOT_PAGE_SIZE = pageCount at hfits ⊢
      refine does_seq (awaitBootloader_harmless addr _ pages B _ _) fun alive said => ?_
      split
      · exact does_ret trivial
      · refine does_seq (verifyChip_harmless addr _ pages B _) fun chip more => ?_
        split
        · exact does_ret trivial
        · dsimp only
          refine does_bind (p := fun answer log' => answer.2 = true →
            AllVerified addr pageCount pages log') ?_ ?_
          · by_cases hnone : pageCount = 0
            · rw [if_pos hnone]
              refine does_ret ?_
              intro _ i hi
              omega
            · rw [if_neg hnone]
              refine pageLoop_does addr _ pages B fuel hfits (by omega) _ 0 _ _ rfl ?_ ?_
              · intro i h1 hi
                omega
              · intro hzero
                omega
          · rintro ⟨report, whole⟩ tail hall
            dsimp only
            split
            · exact does_ret trivial
            · next hwhole =>
                have hverified := hall (by simpa using hwhole)
                refine does_seq ?_ fun exited after => ?_
                · refine transmit_does addr B ?_ fun _ _ => trivial
                  intro status programmed
                  refine ⟨?_, fun _ => hverified⟩
                  intro fa page hwrite
                  have hshort : (exitCommand.take B.capacity).length ≤ 4 :=
                    Nat.le_trans (List.length_take_le' B.capacity exitCommand) (by decide)
                  rw [pageWrite?_short hshort] at hwrite
                  cases hwrite
                · split
                  · exact does_ret trivial
                  · refine does_seq (awaitSketch_harmless addr _ pages B _ _) fun up last => ?_
                    split
                    · exact does_ret trivial
                    · exact does_seq (reboot_harmless addr _ pages B _) fun _ _ => does_ret trivial

/-! ## §6. What a power cut leaves. -/

theorem flashAfter_snoc (flash : Nat → Bytes) (log : List BusEvent) (e : BusEvent) :
    flashAfter addr flash (log ++ [e]) = flashStep addr (flashAfter addr flash log) e := by
  unfold flashAfter
  rw [List.foldl_append]
  rfl

theorem RestVerified.more {log : List BusEvent} (h : RestVerified addr pageCount pages log)
    (said : List BusEvent) : RestVerified addr pageCount pages (log ++ said) :=
  fun i h1 hi => (h i h1 hi).more said

/-- One event in order leaves page 0 alone, puts the hold page there, or comes
after all the other pages. -/
theorem flashStep_first (flash : Nat → Bytes) {log : List BusEvent} {e : BusEvent}
    (horder : InOrder addr pageCount pages log e) :
    flashStep addr flash e 0 = flash 0 ∨ flashStep addr flash e 0 = twibootFillHoldPage.bytes ∨
      RestVerified addr pageCount pages log := by
  cases e with
  | sent a bytes stop status programmed =>
      cases programmed with
      | false => exact .inl rfl
      | true =>
          dsimp only [flashStep]
          split
          · cases hwrite : pageWrite? bytes with
            | none => exact .inl rfl
            | some w =>
                obtain ⟨flashAddr, page⟩ := w
                rcases horder.1 flashAddr page hwrite with ⟨rfl, rfl⟩ | ⟨i, h1, _, rfl, _⟩ |
                  ⟨_, _, _, hrest⟩
                · exact .inr (.inl (Function.update_self ..))
                · -- a page after the first is not page 0
                  have hpage : i * TWIBOOT_PAGE_SIZE / TWIBOOT_PAGE_SIZE = i :=
                    Nat.mul_div_cancel i (by decide)
                  refine .inl ?_
                  show Function.update flash _ page 0 = _
                  rw [hpage, Function.update_of_ne (by omega)]
                · exact .inr (.inr hrest)
          · exact .inl rfl
  | _ => exact .inl rfl

/-- However much more is said, page 0 stays as it was, is the hold page, or
comes after all the other pages. -/
theorem flashAfter_first (flash : Nat → Bytes) :
    ∀ (post pre : List BusEvent), Says (InOrder addr pageCount pages) pre post →
      flashAfter addr flash (pre ++ post) 0 = flashAfter addr flash pre 0 ∨
        flashAfter addr flash (pre ++ post) 0 = twibootFillHoldPage.bytes ∨
        RestVerified addr pageCount pages (pre ++ post)
  | [], pre, _ => by
      rw [List.append_nil]
      exact .inl rfl
  | e :: post, pre, hspeech => by
      have hfirst : InOrder addr pageCount pages pre e := by
        have := hspeech [] e post rfl
        rwa [List.append_nil] at this
      have htail : Says (InOrder addr pageCount pages) (pre ++ [e]) post := by
        intro front e' back hpost
        have := hspeech (e :: front) e' back (by rw [hpost]; rfl)
        rwa [List.append_cons] at this
      rw [show pre ++ e :: post = pre ++ [e] ++ post by simp]
      rcases flashAfter_first flash post (pre ++ [e]) htail with hsame | hhold | hrest
      · rw [hsame, flashAfter_snoc]
        rcases flashStep_first addr pageCount pages (flashAfter addr flash pre) hfirst with
          hleft | hhold | hrest
        · exact .inl hleft
        · exact .inr (.inl hhold)
        · refine .inr (.inr ?_)
          have := (hrest.more addr pageCount pages [e]).more addr pageCount pages post
          exact this
      · exact .inr (.inl hhold)
      · exact .inr (.inr hrest)

/-- **A unit's flash can stop at any point.**  At any prefix of the log, page 0
is what it was before or the hold page, or every other page of the image was
written and read back right; once page 0 has been the hold page, only the
latter lets it be anything else; the unit is told to start only after page 0
was verified too; and no write goes to the boot section. -/
theorem flash_stops_anywhere (fuel imageLen : Nat) (pages : Nat → Page) (flash : Nat → Bytes)
    (log rest : List BusEvent)
    (hrun : (unitFlashImage B addr fuel imageLen pages []).2 = log ++ rest) :
    (flashAfter addr flash log 0 = flash 0 ∨
      flashAfter addr flash log 0 = twibootFillHoldPage.bytes ∨
      RestVerified addr (imageLen / TWIBOOT_PAGE_SIZE) pages log) ∧
    (∀ pre post, log = pre ++ post →
      flashAfter addr flash pre 0 = twibootFillHoldPage.bytes →
      flashAfter addr flash log 0 ≠ twibootFillHoldPage.bytes →
      RestVerified addr (imageLen / TWIBOOT_PAGE_SIZE) pages log) ∧
    (∀ pre a stop status programmed post,
      log = pre ++ .sent a exitCommand stop status programmed :: post →
      AllVerified addr (imageLen / TWIBOOT_PAGE_SIZE) pages pre) ∧
    (∀ a bytes stop status programmed flashAddr page,
      .sent a bytes stop status programmed ∈ log → pageWrite? bytes = some (flashAddr, page) →
      flashAddr < BOOT_SECTION_START) := by
  obtain ⟨said, hsaid, hspeech, _⟩ := unitFlashImage_does addr B fuel imageLen pages []
  rw [hrun, List.nil_append] at hsaid
  have horder : ∀ pre e post, log = pre ++ e :: post →
      InOrder addr (imageLen / TWIBOOT_PAGE_SIZE) pages pre e := by
    intro pre e post hlog
    have := hspeech pre e (post ++ rest) (by rw [← hsaid, hlog]; simp)
    rwa [List.nil_append] at this
  have hafter : ∀ pre post, log = pre ++ post →
      Says (InOrder addr (imageLen / TWIBOOT_PAGE_SIZE) pages) pre post := by
    intro pre post hlog front e back hsplit
    exact horder (pre ++ front) e back (by rw [hlog, hsplit, List.append_assoc])
  refine ⟨?_, ?_, ?_, ?_⟩
  · exact flashAfter_first addr _ pages flash log [] (hafter [] log rfl)
  · intro pre post hlog hhold hgone
    have hstep := flashAfter_first addr _ pages flash post pre (hafter pre post hlog)
    rw [← hlog, hhold] at hstep
    rcases hstep with hstill | hstill | hrest
    · exact absurd hstill hgone
    · exact absurd hstill hgone
    · exact hrest
  · intro pre a stop status programmed post hlog
    exact (horder pre _ post hlog).2 rfl
  · intro a bytes stop status programmed flashAddr page hmem hwrite
    obtain ⟨pre, post, hlog⟩ := List.append_of_mem hmem
    by_cases hfits : imageLen ≤ BOOT_SECTION_START
    · have hpages : imageLen / TWIBOOT_PAGE_SIZE * TWIBOOT_PAGE_SIZE ≤ BOOT_SECTION_START :=
        Nat.le_trans (Nat.div_mul_le_self imageLen TWIBOOT_PAGE_SIZE) hfits
      have hstart : 0 < BOOT_SECTION_START := by decide
      rcases (horder pre _ post hlog).1 flashAddr page hwrite with ⟨rfl, _⟩ | ⟨i, _, hi, rfl, _⟩ |
        ⟨_, rfl, _⟩
      · exact hstart
      · exact Nat.lt_of_lt_of_le (Nat.mul_lt_mul_of_pos_right hi (by decide)) hpages
      · exact hstart
    · -- an image that reaches into the boot section sends nothing
      have hnothing : (unitFlashImage B addr fuel imageLen pages []).2 = [] := by
        unfold unitFlashImage
        rw [if_pos (by simpa [twibootImageFits] using hfits)]
        rfl
      rw [hnothing] at hrun
      have hempty := (List.append_eq_nil_iff.mp hrun.symm).1
      rw [hempty] at hmem
      cases hmem

/-! ## §7. Two flashes of two pages. -/

/-- An image whose page `i` is filled with `i + 1`. -/
def plainPage (i : Nat) : Page where
  bytes := List.replicate TWIBOOT_PAGE_SIZE (UInt8.ofNat (i + 1))
  size := List.length_replicate

def oldFlash : Nat → Bytes := fun _ => List.replicate TWIBOOT_PAGE_SIZE 0

/-- The page the last read command on the bus asked for. -/
def askedPage (log : List BusEvent) : Bytes :=
  match log.getLast? with
  | some (.sent _ [_, _, hi, lo] _ _ _) =>
      flashAfter 1 oldFlash log ((hi.toNat * 256 + lo.toNat) / TWIBOOT_PAGE_SIZE)
  | _ => []

/-- A bus on which everything works. -/
def soundBus : Bus where
  capacity := 132
  endTransmission := fun _ _ _ => 0
  programs := fun _ _ => true
  requestFrom := fun log qty =>
    if qty = 8 then [0x1E, 0x95, 0x0F, 128, 0, 0, 0, 0] else askedPage log
  nowMs := fun _ => 0
  keepGoing := fun _ => true

/-- A unit that programs nothing and reads back the hold page, and a caller
that stops after the first page. -/
def lyingBus : Bus :=
  { soundBus with
    programs := fun _ _ => false
    requestFrom := fun _ qty =>
      if qty = 8 then [0x1E, 0x95, 0x0F, 128, 0, 0, 0, 0] else twibootFillHoldPage.bytes
    keepGoing := fun log => !log.any fun e => e matches .keepGoing _ }

/-- The log of the flash that is lied to. -/
def lyingLog : List BusEvent := (unitFlashImage lyingBus 1 1 256 plainPage []).2

/-- A page write that is ACKed and read back as the hold page need not have
put it there. -/
theorem verified_hold_page_missing :
    WroteAndVerified 1 0 twibootFillHoldPage.bytes
      (unitFlashImage lyingBus 1 1 256 plainPage []).2 ∧
    flashAfter 1 oldFlash (unitFlashImage lyingBus 1 1 256 plainPage []).2 0 ≠
      twibootFillHoldPage.bytes ∧
    ¬ RestVerified 1 2 plainPage (unitFlashImage lyingBus 1 1 256 plainPage []).2 := by
  have hlog : (unitFlashImage lyingBus 1 1 256 plainPage []).2 = lyingLog := rfl
  rw [hlog]
  refine ⟨?_, by decide +kernel, ?_⟩
  · refine ⟨lyingLog.take 7, (lyingLog.drop 8).take 3, lyingLog.drop 13, false, false, ?_⟩
    decide +kernel
  · intro hrest
    obtain ⟨before, between, after, programmed, _, hsplit⟩ := hrest 1 (by decide) (by decide)
    have hmem : .sent 1 (pageCommand (pageAddress 1) ++ (plainPage 1).bytes) true 0 programmed ∈
        lyingLog := by
      rw [hsplit]
      exact List.mem_append_right before List.mem_cons_self
    -- no event of the log writes page 1
    have hnone : ∀ e ∈ lyingLog, ∀ programmed,
        e ≠ .sent 1 (pageCommand (pageAddress 1) ++ (plainPage 1).bytes) true 0 programmed := by
      decide +kernel
    exact hnone _ hmem programmed rfl

/-- On a sound bus the unit ends with the image's own first page. -/
theorem flash_stops_anywhere_sound :
    RestVerified 1 2 plainPage (unitFlashImage soundBus 1 1 256 plainPage []).2 := by
  have hstops := flash_stops_anywhere 1 soundBus 1 256 plainPage oldFlash
    (unitFlashImage soundBus 1 1 256 plainPage []).2 [] (List.append_nil _).symm
  refine hstops.2.1 ((unitFlashImage soundBus 1 1 256 plainPage []).2.take 8)
    ((unitFlashImage soundBus 1 1 256 plainPage []).2.drop 8) (List.take_append_drop 8 _).symm ?_ ?_
  · decide +kernel
  · decide +kernel

end SplitFlap.Unit
