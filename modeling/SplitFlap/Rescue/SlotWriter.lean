/-
  SplitFlap.Rescue.SlotWriter — what each call of the writer keeps.

  Two things hold at every moment of every call: the flash is what its story
  says, and every event of the story is one the slot survives (`Told`).  While
  an install is in hand its cursor says how far it is (`Cursor`): which bytes
  are still erased, and that those behind it, the ones held back included, are
  the bytes that were hashed.
-/
import SplitFlap.Rescue.SlotStory

namespace SplitFlap.Rescue

open TaskM

variable {P : Platform} {flash0 : Nat → UInt8} {s : SlotBoard}

/-! ## §1. The invariants. -/

structure Told (P : Platform) (flash0 : Nat → UInt8) (s : SlotBoard) : Prop where
  replayed : s.flash = replay flash0 s.story
  ok : StoryOk P flash0 s.story

structure Cursor (s : SlotBoard) : Prop where
  going : gaveUp s.story = false
  offset : s.writeOffset = s.md5.length
  within : s.writeOffset ≤ s.erasedUpTo
  begun : s.writeOffset ≠ 0 → SECTOR ≤ s.erasedUpTo
  touches : 0 < s.erasedUpTo → touched s.story = true
  ahead : ∀ a, a < s.erasedUpTo → (a < SECTOR ∨ s.writeOffset ≤ a) → fresh s.story a = true
  body : ∀ a, SECTOR ≤ a → a < s.writeOffset → s.flash a = s.md5.getD a 0
  header : ∀ a, a < SECTOR → a < s.writeOffset → s.headerSector a = s.md5.getD a 0

structure Held (P : Platform) (flash0 : Nat → UInt8) (s : SlotBoard) : Prop where
  told : Told P flash0 s
  cursor : s.target ≠ none → Cursor s

/-- What the writer's calls leave alone: who is served, and by what check. -/
structure Service where
  party : Option (Party × List UInt8)
  callerChecks : Bool
  expectedMd5 : String
  install : Option ReleaseInstall
  updating : Bool
  owner : Option Nat

def service (s : SlotBoard) : Service where
  party := installOf s.story
  callerChecks := s.callerChecks
  expectedMd5 := s.expectedMd5
  install := s.install
  updating := s.updating
  owner := s.rescueOwnerRequest

/-! ## §2. The flash operations. -/

theorem erase_sat {Pre C : SlotBoard → Prop} {Q : Option String → SlotBoard → Prop}
    {first len : Nat} (hdone : ∀ r s, Pre s → Q r.name (afterErase first len r s))
    (hcut : ∀ s, Pre s → C s) : Sat Pre (erase first len) Q C := by
  unfold Rescue.erase
  refine Sat.bind (Sat.ask (fun r s hs => hs) hcut) fun r => ?_
  refine Sat.bind (R := fun _ s => Q r.name s) (Sat.modify fun s hs => hdone r s hs) fun _ => ?_
  exact Sat.pure _ fun _ hs => hs

theorem write_sat {Pre C : SlotBoard → Prop} {Q : Option String → SlotBoard → Prop}
    {first : Nat} {data : List UInt8}
    (hdone : ∀ r s, Pre s → Q r.name (afterWrite first data r s))
    (hcut : ∀ s, Pre s → C s) : Sat Pre (write first data) Q C := by
  unfold Rescue.write
  refine Sat.bind (Sat.ask (fun r s hs => hs) hcut) fun r => ?_
  refine Sat.bind (R := fun _ s => Q r.name s) (Sat.modify fun s hs => hdone r s hs) fun _ => ?_
  exact Sat.pure _ fun _ hs => hs

/-- An erase that an install which has not failed untouched asks for. -/
theorem Told.erased (h : Told P flash0 s) (first len : Nat) (r : FlashResult)
    (htouched : gaveUp s.story = true → touched s.story = true) :
    Told P flash0 (afterErase first len r s) := by
  refine ⟨?_, h.ok.cons htouched⟩
  show (if r.done = true then eraseBytes s.flash first len else s.flash) = _
  rw [h.replayed]
  cases hdone : r.done with
  | true => simp [afterErase, hdone, replay]
  | false => simp [afterErase, hdone, replay]

theorem Told.written (h : Told P flash0 s) (first : Nat) (data : List UInt8) (r : FlashResult)
    (hok : EventOk P flash0 (.write first data r.done) s.story) :
    Told P flash0 (afterWrite first data r s) := by
  refine ⟨?_, h.ok.cons hok⟩
  show (if r.done = true then programBytes s.flash first data else s.flash) = _
  rw [h.replayed]
  cases hdone : r.done with
  | true => simp [afterWrite, hdone, replay]
  | false => simp [afterWrite, hdone, replay]

theorem Told.noted (h : Told P flash0 s) {e : SlotEvent}
    (hsame : replay flash0 (e :: s.story) = replay flash0 s.story)
    (hok : EventOk P flash0 e s.story) : Told P flash0 { s with story := e :: s.story } :=
  ⟨h.replayed.trans hsame.symm, h.ok.cons hok⟩

/-- The changes that touch neither the flash nor the story. -/
theorem Told.same {s' : SlotBoard} (h : Told P flash0 s) (hflash : s'.flash = s.flash)
    (hstory : s'.story = s.story) : Told P flash0 s' :=
  ⟨by rw [hflash, hstory]; exact h.replayed, by rw [hstory]; exact h.ok⟩

/-! ## §3. An install that fails. -/

/-- A failing install is not in hand any more. -/
theorem fail_sat (why : String) (k : Service) :
    Sat (fun s => Told P flash0 s ∧ service s = k ∧
        (s.target ≠ none → 0 < s.erasedUpTo → touched s.story = true))
      (fail why)
      (fun b s => Told P flash0 s ∧ service s = k ∧ s.target = none ∧ b = false)
      (Told P flash0) := by
  unfold fail
  refine Sat.bind (R := fun _ s => Told P flash0 s ∧ service s = k ∧
    (s.target ≠ none → 0 < s.erasedUpTo → touched s.story = true)) (Sat.modify ?_) fun _ => ?_
  · rintro s ⟨htold, hservice, htouched⟩
    exact ⟨htold.same rfl rfl, hservice, htouched⟩
  refine Sat.bind (R := fun _ s => Told P flash0 s ∧ service s = k ∧
    (s.target ≠ none → 0 < s.erasedUpTo → touched s.story = true)) (Sat.modify ?_) fun _ => ?_
  · rintro s ⟨htold, hservice, htouched⟩
    exact ⟨htold.noted rfl trivial, hservice, htouched⟩
  refine Sat.bind (R := fun got s => got = s ∧ Told P flash0 s ∧ service s = k ∧
    (s.target ≠ none → 0 < s.erasedUpTo → touched s.story = true)) (Sat.get ?_) fun got => ?_
  · intro s hs
    exact ⟨rfl, hs⟩
  refine Sat.ite (fun hscrub => ?_) fun _ => ?_
  · -- only what the install touched is scrubbed
    refine Sat.bind (R := fun _ s => Told P flash0 s ∧ service s = k)
      (erase_sat (fun r s hs => ?_) fun s hs => hs.2.1) fun _ => ?_
    · obtain ⟨rfl, htold, hservice, htouched⟩ := hs
      exact ⟨htold.erased 0 SECTOR r fun _ => htouched hscrub.1 hscrub.2, hservice⟩
    refine Sat.bind (R := fun _ s => Told P flash0 s ∧ service s = k ∧ s.target = none)
      (Sat.modify ?_) fun _ => ?_
    · rintro s ⟨htold, hservice⟩
      exact ⟨htold.same rfl rfl, hservice, rfl⟩
    · exact Sat.pure _ fun s hs => ⟨hs.1, hs.2.1, hs.2.2, rfl⟩
  · refine Sat.bind (R := fun _ s => Told P flash0 s ∧ service s = k ∧ s.target = none)
      (Sat.modify ?_) fun _ => ?_
    · rintro s ⟨-, htold, hservice, -⟩
      exact ⟨htold.same rfl rfl, hservice, rfl⟩
    · exact Sat.pure _ fun s hs => ⟨hs.1, hs.2.1, hs.2.2, rfl⟩

/-! ## §4. A chunk. -/

theorem round_up (n : Nat) : n ≤ (n + SECTOR - 1) / SECTOR * SECTOR := by
  show n ≤ (n + 4096 - 1) / 4096 * 4096
  omega

theorem planFactoryChunk_covers (off len : Nat) :
    let plan := planFactoryChunk off len SECTOR
    plan.headerBytes ≤ len ∧ plan.flashBytes = len - plan.headerBytes ∧
      (∀ a, off ≤ a → a < SECTOR → a < off + len → a < off + plan.headerBytes) ∧
      (plan.flashBytes = 0 → off + len ≤ SECTOR ∨ len = 0) ∧
      (0 < plan.flashBytes → plan.flashOffset = off + plan.headerBytes ∧
        SECTOR ≤ plan.flashOffset ∧ (plan.flashOffset = off ∨ plan.flashOffset = SECTOR) ∧
          off + len ≤ plan.eraseTo) := by
  unfold planFactoryChunk
  have hsector : SECTOR = 4096 := rfl
  by_cases hfirst : off < SECTOR
  · have hround := round_up (off + min len (SECTOR - off) + (len - min len (SECTOR - off)))
    by_cases hmore : 0 < len - min len (SECTOR - off)
    · simp only [if_pos hfirst, if_pos hmore]
      exact ⟨by omega, trivial, by omega, by omega,
        fun _ => ⟨trivial, by omega, by omega, by omega⟩⟩
    · simp only [if_pos hfirst, if_neg hmore]
      exact ⟨by omega, trivial, by omega, by omega, fun h => absurd h hmore⟩
  · have hround := round_up (off + 0 + (len - 0))
    by_cases hmore : 0 < len - 0
    · simp only [if_neg hfirst, if_pos hmore]
      exact ⟨by omega, trivial, by omega, by omega,
        fun _ => ⟨trivial, by omega, by omega, by omega⟩⟩
    · simp only [if_neg hfirst, if_neg hmore]
      exact ⟨by omega, trivial, by omega, by omega, fun h => absurd h hmore⟩

/-- An install that owns the slot, its held-back bytes those of the chunk that
is being routed as well. -/
structure Routing (fed data : List UInt8) (s : SlotBoard) : Prop where
  going : gaveUp s.story = false
  hashed : s.md5 = fed
  offset : s.writeOffset = fed.length
  within : s.writeOffset ≤ s.erasedUpTo
  owned : SECTOR ≤ s.erasedUpTo
  touches : touched s.story = true
  ahead : ∀ a, a < s.erasedUpTo → (a < SECTOR ∨ s.writeOffset ≤ a) → fresh s.story a = true
  body : ∀ a, SECTOR ≤ a → a < s.writeOffset → s.flash a = fed.getD a 0
  header : ∀ a, a < SECTOR → a < s.writeOffset + data.length →
    s.headerSector a = (fed ++ data).getD a 0

variable {fed data : List UInt8} {k : Service}

/-- An erase beyond what was erased. -/
theorem Routing.erased (h : Routing fed data s) (len : Nat) (r : FlashResult) :
    Routing fed data (afterErase s.erasedUpTo len r s) := by
  have hwithin := h.within
  refine ⟨h.going, h.hashed, h.offset, h.within, h.owned, rfl, ?_, ?_, h.header⟩
  · intro a ha hwhere
    show fresh (.erase s.erasedUpTo len r.done :: s.story) a = true
    have hold := h.ahead a ha hwhere
    cases r.done with
    | true => simp [fresh, hold]
    | false => simpa [fresh] using hold
  · intro a hsector ha
    show (if r.done = true then eraseBytes s.flash s.erasedUpTo len else s.flash) a = _
    have hout : ¬(s.erasedUpTo ≤ a ∧ a < s.erasedUpTo + len) := by
      have ha : a < s.writeOffset := ha
      omega
    split
    · simp only [eraseBytes, if_neg hout]
      exact h.body a hsector ha
    · exact h.body a hsector ha

theorem eraseAhead_sat (eraseTo : Nat) :
    Sat (fun s => Told P flash0 s ∧ service s = k ∧ Routing fed data s)
      (eraseAhead eraseTo)
      (fun r s => Told P flash0 s ∧ service s = k ∧ Routing fed data s ∧
        (r = none → eraseTo ≤ s.erasedUpTo))
      (Told P flash0) := by
  unfold eraseAhead
  refine Sat.bind (R := fun got s => (Told P flash0 s ∧ service s = k ∧ Routing fed data s) ∧
    got = s) (Sat.get fun s hs => ⟨hs, rfl⟩) fun got => ?_
  refine Sat.ite (fun hmore => ?_) fun henough => ?_
  · refine Sat.bind (R := fun r s => Told P flash0 s ∧ service s = k ∧ Routing fed data s ∧
      (r = none → ∀ a, s.erasedUpTo ≤ a → a < eraseTo → fresh s.story a = true) ∧
        s.erasedUpTo ≤ eraseTo) (erase_sat (fun r s hs => ?_) fun s hs => hs.1.1) fun r => ?_
    · obtain ⟨⟨htold, hservice, hrouting⟩, rfl⟩ := hs
      have hgoing := hrouting.going
      refine ⟨htold.erased _ _ r fun hfailed => absurd hfailed (by simp [hgoing]), hservice,
        hrouting.erased _ r, ?_, Nat.le_of_lt hmore⟩
      intro hok a hlow hhigh
      have hin : got.erasedUpTo ≤ a ∧ a < got.erasedUpTo + (eraseTo - got.erasedUpTo) := by
        have hlow : got.erasedUpTo ≤ a := hlow
        omega
      cases r with
      | ok => simp [afterErase, FlashResult.done, fresh, hin]
      | error name done => exact absurd hok (by simp [FlashResult.name])
    · cases r with
      | some err =>
          exact Sat.pure _ fun s hs => ⟨hs.1, hs.2.1, hs.2.2.1, fun hnone => (by cases hnone)⟩
      | none =>
          refine Sat.bind (R := fun _ s => Told P flash0 s ∧ service s = k ∧
            Routing fed data s ∧ eraseTo ≤ s.erasedUpTo) (Sat.modify ?_) fun _ => ?_
          · rintro s ⟨htold, hservice, hrouting, hfresh, hle⟩
            have hwithin := hrouting.within
            have howned := hrouting.owned
            refine ⟨htold.same rfl rfl, hservice, ?_, Nat.le_refl _⟩
            refine ⟨hrouting.going, hrouting.hashed, hrouting.offset, Nat.le_trans hwithin hle,
              Nat.le_trans howned hle, hrouting.touches, ?_, hrouting.body, hrouting.header⟩
            intro a ha hwhere
            rcases Nat.lt_or_ge a s.erasedUpTo with hlow | hhigh
            · exact hrouting.ahead a hlow hwhere
            · exact hfresh rfl a hhigh ha
          · exact Sat.pure _ fun s hs => ⟨hs.1, hs.2.1, hs.2.2.1, fun _ => hs.2.2.2⟩
  · refine Sat.pure _ fun s hs => ?_
    obtain ⟨⟨htold, hservice, hrouting⟩, rfl⟩ := hs
    exact ⟨htold, hservice, hrouting, fun _ => Nat.not_lt.mp henough⟩

/-- What a chunk that went through leaves: of the flash and the story only what
is behind the cursor and what is before it counts. -/
theorem Routing.cursor (h : Routing fed data s) {s' : SlotBoard}
    (hlen : fed.length + data.length ≤ s.erasedUpTo)
    (hmd5 : s'.md5 = fed ++ data) (hoffset : s'.writeOffset = fed.length + data.length)
    (herased : s'.erasedUpTo = s.erasedUpTo) (hheader : s'.headerSector = s.headerSector)
    (hgoing : gaveUp s'.story = false) (htouched : touched s'.story = true)
    (hahead : ∀ a, a < s.erasedUpTo → (a < SECTOR ∨ fed.length + data.length ≤ a) →
      fresh s'.story a = true)
    (hbody : ∀ a, SECTOR ≤ a → a < fed.length + data.length →
      s'.flash a = (fed ++ data).getD a 0) : Cursor s' := by
  have hold := h.offset
  refine ⟨hgoing, ?_, ?_, fun _ => ?_, fun _ => htouched, ?_, ?_, ?_⟩
  · rw [hmd5, hoffset, List.length_append]
  · rw [hoffset, herased]
    exact hlen
  · rw [herased]
    exact h.owned
  · rw [herased, hoffset]
    exact hahead
  · rw [hoffset, hmd5]
    exact hbody
  · rw [hoffset, hmd5, hheader, ← hold]
    exact h.header

/-- The flash after the bytes beyond the header went to erased ones. -/
theorem Routing.programmed (h : Routing fed data s) (htold : Told P flash0 s) {first drop : Nat}
    (hfirst : first = fed.length + drop) (hdrop : drop ≤ data.length) (hsector : SECTOR ≤ first)
    (hstart : first = fed.length ∨ first = SECTOR)
    (hlen : fed.length + data.length ≤ s.erasedUpTo) {a : Nat} (ha : SECTOR ≤ a)
    (hend : a < fed.length + data.length) :
    programBytes s.flash first (data.drop drop) a = (fed ++ data).getD a 0 := by
  unfold programBytes
  rw [List.length_drop]
  split
  · next hin =>
      have hfresh := h.ahead a (by omega) (.inr (by have hoffset := h.offset; omega))
      rw [htold.replayed, replay_fresh hfresh, List.getD_append_right _ _ _ _ (by omega)]
      have hbyte : (data.drop drop).getD (a - first) 0 = data.getD (a - fed.length) 0 := by
        simp only [List.getD_eq_getElem?_getD, List.getElem?_drop]
        congr 2
        omega
      rw [hbyte]
      exact UInt8.neg_one_and
  · next hout =>
      have hold : a < fed.length := by omega
      rw [List.getD_append _ _ _ _ hold]
      exact h.body a ha (by have hoffset := h.offset; omega)

theorem routeChunk_sat (hdata : data ≠ []) :
    Sat (fun s => Told P flash0 s ∧ service s = k ∧ Cursor s ∧ s.md5 = fed ∧
        SECTOR ≤ s.erasedUpTo ∧ s.writeOffset = fed.length)
      (routeChunk fed.length data)
      (fun b s => Held P flash0 s ∧ service s = k ∧ (b = true → s.md5 = fed ++ data) ∧
        (b = false → s.target = none))
      (Told P flash0) := by
  obtain ⟨hhead, hflash, hcover, hnone, hsome⟩ := planFactoryChunk_covers fed.length data.length
  unfold routeChunk
  dsimp only
  generalize planFactoryChunk fed.length data.length SECTOR = plan at *
  have hfailed : ∀ why, Sat (fun s => Told P flash0 s ∧ service s = k ∧ Routing fed data s)
      (fail why) (fun b s => Held P flash0 s ∧ service s = k ∧ (b = true → s.md5 = fed ++ data) ∧
        (b = false → s.target = none)) (Told P flash0) := by
    intro why
    refine (fail_sat why k).mono (fun s hs => ⟨hs.1, hs.2.1, fun _ _ => hs.2.2.touches⟩) ?_
      fun _ hs => hs
    rintro b s ⟨htold, hservice, htarget, rfl⟩
    exact ⟨⟨htold, fun h => absurd htarget h⟩, hservice, fun h => absurd h (by decide),
      fun _ => htarget⟩
  refine Sat.bind (R := fun _ s => Told P flash0 s ∧ service s = k ∧ Routing fed data s)
    (Sat.modify ?_) fun _ => ?_
  · -- the held-back bytes of the chunk
    rintro s ⟨htold, hservice, hcursor, hfed, howned, hoffset⟩
    refine ⟨htold.same rfl rfl, hservice, hcursor.going, hfed, hoffset, hcursor.within, howned,
      hcursor.touches (Nat.lt_of_lt_of_le (by decide) howned), hcursor.ahead, ?_, ?_⟩
    · rw [← hfed]
      exact hcursor.body
    · intro a hsector ha
      have ha : a < fed.length + data.length := by rwa [hoffset] at ha
      show copyBytes s.headerSector fed.length (data.take plan.headerBytes) a = _
      unfold copyBytes
      rw [List.length_take, Nat.min_eq_left hhead]
      split
      · next hin =>
          rw [List.getD_append_right _ _ _ _ hin.1]
          simp only [List.getD_eq_getElem?_getD]
          rw [List.getElem?_take_of_lt (by omega)]
      · next hout =>
          have hold : a < fed.length := by
            by_cases hlow : fed.length ≤ a
            · exact absurd ⟨hlow, hcover a hlow hsector ha⟩ hout
            · exact Nat.not_le.mp hlow
          rw [List.getD_append _ _ _ _ hold, ← hfed]
          exact hcursor.header a hsector (by rwa [hoffset])
  refine Sat.ite (fun hmore => ?_) fun hless => ?_
  · obtain ⟨hfirst, hbeyond, hstart, hto⟩ := hsome hmore
    refine Sat.bind (eraseAhead_sat plan.eraseTo) fun r => ?_
    cases r with
    | some err => exact (hfailed _).pre fun s hs => ⟨hs.1, hs.2.1, hs.2.2.1⟩
    | none =>
        refine Sat.bind (R := fun r s => Told P flash0 s ∧ service s = k ∧
          touched s.story = true ∧ (r = none → s.md5 = fed ∧ s.writeOffset = fed.length ∧
            Cursor { s with md5 := fed ++ data, writeOffset := fed.length + data.length }))
          (write_sat (fun r s hs => ?_) fun s hs => hs.1) fun r => ?_
        · obtain ⟨htold, hservice, hrouting, hto'⟩ := hs
          have hto' := hto' rfl
          have hoffset := hrouting.offset
          have hdrop : (data.drop plan.headerBytes).length = plan.flashBytes := by
            rw [List.length_drop, hflash]
          have hok : EventOk P flash0
              (.write plan.flashOffset (data.drop plan.headerBytes) r.done) s.story := by
            refine ⟨?_, fun hlow => absurd hlow (Nat.not_lt.mpr hbeyond)⟩
            intro i hi
            rw [hdrop] at hi
            exact hrouting.ahead _ (by omega) (.inr (by omega))
          refine ⟨htold.written _ _ r hok, hservice, hrouting.touches, ?_⟩
          intro hnone'
          cases r with
          | error name done => exact absurd hnone' (by simp [FlashResult.name])
          | ok =>
              refine ⟨hrouting.hashed, hoffset, ?_⟩
              refine hrouting.cursor (by omega) rfl rfl rfl rfl hrouting.going
                hrouting.touches ?_ ?_
              · intro a ha hwhere
                have hout : ¬(plan.flashOffset ≤ a ∧
                    a < plan.flashOffset + (data.drop plan.headerBytes).length) := by
                  rw [hdrop]
                  omega
                have hbefore := hrouting.ahead a ha (by omega)
                simp only [afterWrite, FlashResult.done, fresh, decide_eq_false hout, hbefore,
                  Bool.not_false, Bool.and_self]
              · intro a hsector ha
                exact hrouting.programmed htold hfirst hhead hbeyond hstart (by omega) hsector ha
        · cases r with
          | some err =>
              refine (fail_sat _ k).mono (fun s hs => ⟨hs.1, hs.2.1, fun _ _ => hs.2.2.1⟩) ?_
                fun _ hs => hs
              rintro b s ⟨htold, hservice, htarget, rfl⟩
              exact ⟨⟨htold, fun h => absurd htarget h⟩, hservice, fun h => absurd h (by decide),
                fun _ => htarget⟩
          | none =>
              refine Sat.bind (R := fun _ s => Held P flash0 s ∧ service s = k ∧
                s.md5 = fed ++ data) (Sat.modify ?_) fun _ => Sat.pure _ fun s hs =>
                  ⟨hs.1, hs.2.1, fun _ => hs.2.2, fun h => absurd h (by decide)⟩
              rintro s ⟨htold, hservice, -, hgone⟩
              obtain ⟨hfed, hoffset, hcursor⟩ := hgone rfl
              rw [hfed, hoffset]
              exact ⟨⟨htold.same rfl rfl, fun _ => hcursor⟩, hservice, rfl⟩
  · refine Sat.bind (R := fun _ s => Held P flash0 s ∧ service s = k ∧ s.md5 = fed ++ data)
      (Sat.modify ?_) fun _ => Sat.pure _ fun s hs => ⟨hs.1, hs.2.1, fun _ => hs.2.2,
        fun h => absurd h (by decide)⟩
    rintro s ⟨htold, hservice, hrouting⟩
    have hoffset := hrouting.offset
    have howned := hrouting.owned
    have hshort : fed.length + data.length ≤ SECTOR := by
      rcases hnone (by omega) with hshort | hempty
      · exact hshort
      · exact absurd (List.length_eq_zero_iff.mp hempty) hdata
    rw [hrouting.hashed, hoffset]
    refine ⟨⟨htold.same rfl rfl, fun _ => hrouting.cursor (by omega) rfl rfl rfl rfl
      hrouting.going hrouting.touches ?_ ?_⟩, hservice, rfl⟩
    · intro a ha hwhere
      exact hrouting.ahead a ha (by omega)
    · intro a hsector ha
      omega

theorem ownSlot_sat :
    Sat (fun s => Told P flash0 s ∧ service s = k ∧ Cursor s ∧ s.md5 = []) ownSlot
      (fun r s => Told P flash0 s ∧ service s = k ∧ touched s.story = true ∧
        (r = none → Cursor s ∧ s.md5 = [] ∧ SECTOR ≤ s.erasedUpTo ∧ s.writeOffset = 0))
      (Told P flash0) := by
  unfold ownSlot
  refine Sat.bind (R := fun r s => Told P flash0 s ∧ service s = k ∧ touched s.story = true ∧
    (r = none → gaveUp s.story = false ∧ s.md5 = [] ∧ s.writeOffset = 0 ∧
      ∀ a < SECTOR, fresh s.story a = true)) (erase_sat (fun r s hs => ?_) fun s hs => hs.1)
      fun r => ?_
  · obtain ⟨htold, hservice, hcursor, hmd5⟩ := hs
    have hgoing := hcursor.going
    refine ⟨htold.erased _ _ r fun hfailed => absurd hfailed (by simp [hgoing]), hservice, rfl, ?_⟩
    intro hnone
    cases r with
    | error name done => exact absurd hnone (by simp [FlashResult.name])
    | ok =>
        refine ⟨hgoing, hmd5, ?_, ?_⟩
        · show s.writeOffset = 0
          rw [hcursor.offset, hmd5]
          rfl
        · intro a ha
          simp only [afterErase, FlashResult.done, fresh, Nat.zero_le, Nat.zero_add, ha, and_self,
            decide_true, Bool.true_or]
  · cases r with
    | some err => exact Sat.pure _ fun s hs => ⟨hs.1, hs.2.1, hs.2.2.1, fun h => (by cases h)⟩
    | none =>
        refine Sat.bind (R := fun _ s => Told P flash0 s ∧ service s = k ∧
          touched s.story = true ∧ Cursor s ∧ s.md5 = [] ∧ SECTOR ≤ s.erasedUpTo ∧
            s.writeOffset = 0) (Sat.modify ?_) fun _ => Sat.pure _ fun s hs =>
              ⟨hs.1, hs.2.1, hs.2.2.1, fun _ => hs.2.2.2⟩
        rintro s ⟨htold, hservice, htouched, hgone⟩
        obtain ⟨hgoing, hmd5, hoffset, hfresh⟩ := hgone rfl
        refine ⟨htold.same rfl rfl, hservice, htouched, ?_, hmd5, Nat.le_refl _, hoffset⟩
        refine ⟨hgoing, ?_, ?_, fun _ => Nat.le_refl _, fun _ => htouched,
          fun a ha _ => hfresh a ha, ?_, ?_⟩
        · show s.writeOffset = s.md5.length
          rw [hoffset, hmd5]
          rfl
        · show s.writeOffset ≤ SECTOR
          rw [hoffset]
          exact Nat.zero_le _
        · intro a _ ha
          rw [show s.writeOffset = 0 from hoffset] at ha
          exact absurd ha (Nat.not_lt_zero _)
        · intro a _ ha
          rw [show s.writeOffset = 0 from hoffset] at ha
          exact absurd ha (Nat.not_lt_zero _)

/-- A failing call ends an install, from wherever it is. -/
theorem fail_held (why : String) {Q : Bool → SlotBoard → Prop}
    (hpost : ∀ s, Held P flash0 s → service s = k → s.target = none → Q false s) :
    Sat (fun s => Told P flash0 s ∧ service s = k ∧
      (s.target ≠ none → 0 < s.erasedUpTo → touched s.story = true)) (fail why) Q
      (Told P flash0) := by
  refine (fail_sat why k).mono (fun s hs => hs) ?_ fun _ hs => hs
  rintro b s ⟨htold, hservice, htarget, rfl⟩
  exact hpost s ⟨htold, fun h => absurd htarget h⟩ hservice htarget

/-- **What a chunk does**: it is taken at the cursor, and then hashed, or it is
not and the install has ended or stands where it was. -/
theorem factoryWriteChunk_sat (fed : List UInt8) (now : UInt32) (off : Nat) :
    Sat (fun s => Held P flash0 s ∧ service s = k ∧ s.md5 = fed)
      (factoryWriteChunk now data off)
      (fun b s => Held P flash0 s ∧ service s = k ∧
        (b = true → s.md5 = fed ++ data ∧ (data ≠ [] → off = fed.length)) ∧
        (b = false → s.target = none ∨ s.md5 = fed))
      (Told P flash0) := by
  unfold factoryWriteChunk
  refine Sat.bind (R := fun got s => (Held P flash0 s ∧ service s = k ∧ s.md5 = fed) ∧ got = s)
    (Sat.get fun s hs => ⟨hs, rfl⟩) fun got => ?_
  have hstands : Sat (fun s => (Held P flash0 s ∧ service s = k ∧ s.md5 = fed) ∧ got = s)
      (pure false : SlotTask Bool) (fun b s => Held P flash0 s ∧ service s = k ∧
        (b = true → s.md5 = fed ++ data ∧ (data ≠ [] → off = fed.length)) ∧
        (b = false → s.target = none ∨ s.md5 = fed)) (Told P flash0) :=
    Sat.pure _ fun s hs => ⟨hs.1.1, hs.1.2.1, fun h => absurd h (by decide), fun _ => .inr hs.1.2.2⟩
  have hends : ∀ why, Sat (fun s => Told P flash0 s ∧ service s = k ∧
        (s.target ≠ none → 0 < s.erasedUpTo → touched s.story = true)) (fail why)
      (fun b s => Held P flash0 s ∧ service s = k ∧
        (b = true → s.md5 = fed ++ data ∧ (data ≠ [] → off = fed.length)) ∧
        (b = false → s.target = none ∨ s.md5 = fed)) (Told P flash0) :=
    fun why => fail_held why fun s hheld hservice htarget =>
      ⟨hheld, hservice, fun h => absurd h (by decide), fun _ => .inl htarget⟩
  split
  · exact hstands
  · next size hsize =>
      refine Sat.ite (fun _ => hstands) fun _ => ?_
      refine Sat.ite (fun hempty => ?_) fun hdata => ?_
      · refine Sat.pure _ fun s hs => ⟨hs.1.1, hs.1.2.1, fun _ => ⟨?_, fun h => absurd hempty h⟩,
          fun h => absurd h (by decide)⟩
        rw [hempty, List.append_nil]
        exact hs.1.2.2
      refine Sat.ite (fun _ => (hends _).pre ?_) fun hat => ?_
      · rintro s ⟨⟨hheld, hservice, hmd5⟩, hgot⟩
        subst hgot
        exact ⟨hheld.told, hservice, fun hsome => (hheld.cursor hsome).touches⟩
      refine Sat.bind (R := fun _ s => Told P flash0 s ∧ service s = k ∧ Cursor s ∧ s.md5 = fed ∧
        s.writeOffset = got.writeOffset) (Sat.modify ?_) fun _ => ?_
      · rintro s ⟨⟨hheld, hservice, hmd5⟩, hgot⟩
        subst hgot
        have hcursor := hheld.cursor (by rw [hsize]; exact fun h => nomatch h)
        refine ⟨hheld.told.same rfl rfl, hservice, ?_, hmd5, rfl⟩
        exact ⟨hcursor.going, hcursor.offset, hcursor.within, hcursor.begun, hcursor.touches,
          hcursor.ahead, hcursor.body, hcursor.header⟩
      have hroute : Sat (fun s => Told P flash0 s ∧ service s = k ∧ Cursor s ∧ s.md5 = fed ∧
          SECTOR ≤ s.erasedUpTo ∧ s.writeOffset = got.writeOffset)
          (routeChunk got.writeOffset data) (fun b s => Held P flash0 s ∧ service s = k ∧
            (b = true → s.md5 = fed ++ data ∧ (data ≠ [] → off = fed.length)) ∧
            (b = false → s.target = none ∨ s.md5 = fed)) (Told P flash0) := by
        refine Sat.each_state fun s hs => ?_
        obtain ⟨htold, hservice, hcursor, hmd5, howned, hoffset⟩ := hs
        have hlen : got.writeOffset = fed.length := by
          rw [← hoffset, hcursor.offset, hmd5]
        have hoff : off = fed.length := by rw [← hlen]; exact not_not.mp hat
        rw [hlen]
        refine (routeChunk_sat (k := k) hdata).mono ?_ ?_ fun _ h => h
        · rintro s' rfl
          exact ⟨htold, hservice, hcursor, hmd5, howned, hoffset.trans hlen⟩
        · rintro b s' ⟨hheld, hservice, htaken, hended⟩
          exact ⟨hheld, hservice, fun h => ⟨htaken h, fun _ => hoff⟩, fun h => .inl (hended h)⟩
      refine Sat.ite (fun _ => (hends _).pre fun s hs =>
        ⟨hs.1, hs.2.1, fun _ => hs.2.2.1.touches⟩) fun _ => ?_
      refine Sat.ite (fun hfirst => ?_) fun hlater => ?_
      · refine Sat.ite (fun _ => (hends _).pre fun s hs =>
          ⟨hs.1, hs.2.1, fun _ => hs.2.2.1.touches⟩) fun _ => ?_
        refine Sat.bind (R := fun r s => Told P flash0 s ∧ service s = k ∧
          touched s.story = true ∧ (r = none → Cursor s ∧ s.md5 = fed ∧ SECTOR ≤ s.erasedUpTo ∧
            s.writeOffset = got.writeOffset)) ?_ fun r => ?_
        · refine Sat.each_state fun s hs => ?_
          obtain ⟨htold, hservice, hcursor, hmd5, hoffset⟩ := hs
          have hnil : fed = [] := by
            rw [← List.length_eq_zero_iff, ← hmd5, ← hcursor.offset, hoffset, hfirst]
          subst hnil
          refine (ownSlot_sat (k := k)).mono ?_ ?_ fun _ h => h
          · rintro s' rfl
            exact ⟨htold, hservice, hcursor, hmd5⟩
          · rintro r s' ⟨htold, hservice, htouched, hgone⟩
            refine ⟨htold, hservice, htouched, fun h => ?_⟩
            obtain ⟨hcursor, hmd5, howned, hoffset⟩ := hgone h
            exact ⟨hcursor, hmd5, howned, hoffset.trans hfirst.symm⟩
        · cases r with
          | some err => exact (hends _).pre fun s hs => ⟨hs.1, hs.2.1, fun _ _ => hs.2.2.1⟩
          | none => exact hroute.pre fun s hs => ⟨hs.1, hs.2.1, hs.2.2.2 rfl⟩
      · refine hroute.pre fun s hs => ⟨hs.1, hs.2.1, hs.2.2.1, hs.2.2.2.1, ?_, hs.2.2.2.2⟩
        exact hs.2.2.1.begun (by rw [hs.2.2.2.2]; exact hlater)

theorem fail_false {Pre : SlotBoard → Prop} (why : String) :
    Sat Pre (fail why) (fun b _ => b = false) (fun _ => True) := by
  unfold fail
  refine Sat.bind (R := fun _ _ => True) (Sat.any (fun _ _ => trivial) fun _ => trivial) fun _ => ?_
  refine Sat.bind (R := fun _ _ => True) (Sat.any (fun _ _ => trivial) fun _ => trivial) fun _ => ?_
  refine Sat.bind (R := fun _ _ => True) (Sat.any (fun _ _ => trivial) fun _ => trivial) fun _ => ?_
  refine Sat.ite (fun _ => ?_) fun _ => ?_
  · refine Sat.bind (R := fun _ _ => True) (Sat.any (fun _ _ => trivial) fun _ => trivial)
      fun _ => ?_
    exact Sat.bind (R := fun _ _ => True) (Sat.any (fun _ _ => trivial) fun _ => trivial)
      fun _ => Sat.pure _ fun _ _ => rfl
  · exact Sat.bind (R := fun _ _ => True) (Sat.any (fun _ _ => trivial) fun _ => trivial)
      fun _ => Sat.pure _ fun _ _ => rfl

/-- With no install in hand a chunk does nothing. -/
theorem factoryWriteChunk_idle {C : SlotBoard → Prop} (hidle : s.target = none) (now : UInt32)
    (off : Nat) :
    Sat (· = s) (factoryWriteChunk now data off) (fun b s' => b = false ∧ s' = s) C := by
  unfold factoryWriteChunk
  refine Sat.bind (R := fun got s' => got = s ∧ s' = s) (Sat.get fun _ hs => ⟨hs, hs⟩) fun got => ?_
  split
  · exact Sat.pure _ fun _ hs => ⟨rfl, hs.2⟩
  · next size hsize =>
      refine Sat.each_state fun s' hs => ?_
      rw [hs.1, hidle] at hsize
      exact absurd hsize (by simp)

/-- Only a chunk that fits into a live install is taken. -/
theorem factoryWriteChunk_fits (now : UInt32) (off : Nat) :
    Sat (· = s) (factoryWriteChunk now data off)
      (fun b _ => b = true → data ≠ [] → ∃ size, s.target = some size ∧ s.lastError = "" ∧
        s.writeOffset + data.length ≤ size) (fun _ => True) := by
  unfold factoryWriteChunk
  refine Sat.bind (R := fun got _ => got = s) (Sat.get fun _ hs => hs) fun got => ?_
  have hends : ∀ {Pre : SlotBoard → Prop} why, Sat Pre (fail why)
      (fun b _ => b = true → data ≠ [] → ∃ size, s.target = some size ∧ s.lastError = "" ∧
        s.writeOffset + data.length ≤ size) (fun _ => True) := by
    intro Pre why
    refine (fail_false why).mono (fun _ hs => hs) ?_ fun _ _ => trivial
    intro b _ hfalse htrue
    rw [hfalse] at htrue
    exact absurd htrue (by decide)
  split
  · exact Sat.pure _ fun _ _ h => absurd h (by decide)
  · next size hsize =>
      refine Sat.ite (fun _ => Sat.pure _ fun _ _ h => absurd h (by decide)) fun herror => ?_
      refine Sat.ite (fun hempty => Sat.pure _ fun _ _ _ h => absurd hempty h) fun _ => ?_
      refine Sat.ite (fun _ => hends _) fun _ => ?_
      refine Sat.bind (R := fun _ _ => got = s) (Sat.modify fun _ hs => hs) fun _ => ?_
      refine Sat.ite (fun _ => hends _) fun hfits => ?_
      -- from here on any answer will do
      refine Sat.each_state fun s' hs' => Sat.any (fun _ _ _ _ => ?_) fun _ => trivial
      subst hs'
      exact ⟨size, hsize, not_not.mp herror, Nat.not_lt.mp hfits⟩

/-! ## §5. The end of an install. -/

/-- The check a commit needs: an upload's own MD5 is compared by the writer, a
release's stream is checked before. -/
def Vouched (P : Platform) (s : SlotBoard) : Prop :=
  (s.callerChecks = false →
    ∃ request, installOf s.story = some (.upload request s.expectedMd5, s.md5)) ∧
  (s.callerChecks = true →
    ∃ image stream rest, installOf s.story = some (.release image, stream) ∧ stream ≠ [] ∧
      s.md5 = stream ++ rest ∧ P.sha256 stream = image.sha256 ∧ stream.length = image.size)

/-- The bytes of the slot once the header is in it. -/
theorem Cursor.whole (h : Cursor s) (htold : Told P flash0 s) {a : Nat}
    (ha : a < s.md5.length) :
    programBytes s.flash 0 ((List.range (min s.writeOffset SECTOR)).map s.headerSector) a =
      s.md5.getD a 0 := by
  have hoffset := h.offset
  unfold programBytes
  rw [List.length_map, List.length_range, Nat.zero_add, Nat.sub_zero]
  split
  · next hin =>
      have howned := h.begun (by omega)
      have hfresh := h.ahead a (by omega) (.inl (by omega))
      rw [htold.replayed, replay_fresh hfresh, ← h.header a (by omega) (by omega)]
      have hbyte : ((List.range (min s.writeOffset SECTOR)).map s.headerSector).getD a 0 =
          s.headerSector a := by
        rw [List.getD_eq_getElem?_getD, List.getElem?_map, List.getElem?_range hin.2]
        rfl
      rw [hbyte]
      exact UInt8.neg_one_and
  · next hout => exact h.body a (by omega) (by omega)

theorem factoryWriteEnd_sat (fed : List UInt8) :
    Sat (fun s => Held P flash0 s ∧ service s = k ∧ s.md5 = fed ∧
        (s.target ≠ none → s.lastError = "" → s.md5 ≠ [] → Vouched P s))
      (factoryWriteEnd P)
      (fun b s => Held P flash0 s ∧ service s = k ∧ (s.target = none ∨ s.md5 = fed) ∧
        (b = true → s.target = none))
      (Told P flash0) := by
  unfold factoryWriteEnd
  refine Sat.bind (R := fun got s => (Held P flash0 s ∧ service s = k ∧ s.md5 = fed ∧
    (s.target ≠ none → s.lastError = "" → s.md5 ≠ [] → Vouched P s)) ∧ got = s)
    (Sat.get fun s hs => ⟨hs, rfl⟩) fun got => ?_
  have hends : ∀ why, Sat (fun s => Told P flash0 s ∧ service s = k ∧
        (s.target ≠ none → 0 < s.erasedUpTo → touched s.story = true)) (fail why)
      (fun b s => Held P flash0 s ∧ service s = k ∧ (s.target = none ∨ s.md5 = fed) ∧
        (b = true → s.target = none)) (Told P flash0) :=
    fun why => fail_held why fun s hheld hservice htarget =>
      ⟨hheld, hservice, .inl htarget, fun _ => htarget⟩
  refine Sat.ite (fun _ => Sat.pure _ fun s hs =>
    ⟨hs.1.1, hs.1.2.1, .inr hs.1.2.2.1, fun h => absurd h (by decide)⟩) fun hlive => ?_
  rw [not_or, ne_eq, not_not] at hlive
  obtain ⟨htarget, herror⟩ := hlive
  refine Sat.ite (fun _ => (hends _).pre ?_) fun hsome => ?_
  · rintro s ⟨⟨hheld, hservice, -⟩, rfl⟩
    exact ⟨hheld.told, hservice, fun h => (hheld.cursor h).touches⟩
  refine Sat.ite (fun _ => (hends _).pre ?_) fun hsum => ?_
  · rintro s ⟨⟨hheld, hservice, -⟩, rfl⟩
    exact ⟨hheld.told, hservice, fun h => (hheld.cursor h).touches⟩
  refine Sat.bind (R := fun _ s => Told P flash0 s ∧ service s = k ∧ touched s.story = true)
    (write_sat (fun r s hs => ?_) fun s hs => hs.1.1.told) fun r => ?_
  · obtain ⟨⟨hheld, hservice, hmd5, hvouched⟩, rfl⟩ := hs
    have hcursor := hheld.cursor htarget
    have hoffset := hcursor.offset
    have hdata : got.md5 ≠ [] := by
      intro hnil
      rw [hnil] at hoffset
      exact hsome hoffset
    have howned := hcursor.begun hsome
    have htouched := hcursor.touches (Nat.lt_of_lt_of_le (by decide) howned)
    refine ⟨hheld.told.written 0 _ r ⟨?_, fun _ => ?_⟩, hservice, htouched⟩
    · intro i hi
      rw [List.length_map, List.length_range] at hi
      exact hcursor.ahead _ (by omega) (.inl (by omega))
    · obtain ⟨hupload, hrelease⟩ := hvouched htarget herror hdata
      have hbytes : ∀ (stream rest : List UInt8), got.md5 = stream ++ rest → r.done = true →
          ∀ i < stream.length, replay flash0 (.write 0
            ((List.range (min got.writeOffset SECTOR)).map got.headerSector) r.done ::
              got.story) i = stream.getD i 0 := by
        intro stream rest hstream hdone i hi
        rw [hdone]
        show programBytes (replay flash0 got.story) 0 _ i = _
        have hlt : i < got.md5.length := by
          rw [hstream, List.length_append]
          omega
        rw [← hheld.told.replayed, hcursor.whole hheld.told hlt, hstream,
          List.getD_append _ _ _ _ hi]
      cases hcallers : got.callerChecks with
      | false =>
          obtain ⟨request, hinstall⟩ := hupload hcallers
          refine ⟨_, _, hinstall, hdata, ?_, hbytes got.md5 [] (List.append_nil _).symm⟩
          rw [not_and, not_not] at hsum
          exact hsum hcallers
      | true =>
          obtain ⟨image, stream, rest, hinstall, hne, hstream, hsha, hsize⟩ := hrelease hcallers
          exact ⟨_, _, hinstall, hne, ⟨hsha, hsize⟩, hbytes stream rest hstream⟩
  · cases r with
    | some err => exact (hends _).pre fun s hs => ⟨hs.1, hs.2.1, fun _ _ => hs.2.2⟩
    | none =>
        refine Sat.bind (R := fun _ s => Told P flash0 s ∧ service s = k ∧
          touched s.story = true) (Sat.get fun s hs => hs) fun got' => ?_
        refine Sat.ite (fun _ => (hends _).pre fun s hs => ⟨hs.1, hs.2.1, fun _ _ => hs.2.2⟩)
          fun _ => ?_
        refine Sat.bind (R := fun _ s => Told P flash0 s ∧ service s = k ∧ s.target = none)
          (Sat.modify ?_) fun _ => Sat.pure _ fun s hs =>
            ⟨⟨hs.1, fun h => absurd hs.2.2 h⟩, hs.2.1, .inl hs.2.2, fun _ => hs.2.2⟩
        rintro s ⟨htold, hservice, -⟩
        exact ⟨htold.same rfl rfl, hservice, rfl⟩

theorem factoryWriteEnd_idle {C : SlotBoard → Prop} (hidle : s.target = none) :
    Sat (· = s) (factoryWriteEnd P) (fun b s' => b = false ∧ s' = s) C := by
  unfold factoryWriteEnd
  refine Sat.bind (R := fun got s' => got = s ∧ s' = s) (Sat.get fun _ hs => ⟨hs, hs⟩) fun got => ?_
  refine Sat.ite (fun _ => Sat.pure _ fun _ hs => ⟨rfl, hs.2⟩) fun hlive => ?_
  refine Sat.each_state fun s' hs => ?_
  rw [hs.1] at hlive
  exact absurd (.inl hidle) hlive

theorem factoryWriteAbort_sat :
    Sat (fun s => Held P flash0 s ∧ service s = k) factoryWriteAbort
      (fun _ s => Held P flash0 s ∧ service s = k ∧ s.target = none) (Told P flash0) := by
  unfold factoryWriteAbort
  refine Sat.bind (R := fun got s => (Held P flash0 s ∧ service s = k) ∧ got = s)
    (Sat.get fun s hs => ⟨hs, rfl⟩) fun got => ?_
  refine Sat.ite (fun hnone => Sat.pure _ ?_) fun _ => ?_
  · rintro s ⟨⟨hheld, hservice⟩, rfl⟩
    exact ⟨hheld, hservice, hnone⟩
  refine Sat.bind (R := fun _ s => Held P flash0 s ∧ service s = k ∧ s.target = none)
    ((fail_held _ fun s hheld hservice htarget => ⟨hheld, hservice, htarget⟩).pre ?_)
    fun _ => Sat.pure _ fun s hs => hs
  rintro s ⟨⟨hheld, hservice⟩, rfl⟩
  exact ⟨hheld.told, hservice, fun h => (hheld.cursor h).touches⟩

end SplitFlap.Rescue
