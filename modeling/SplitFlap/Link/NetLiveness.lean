/-
  SplitFlap.Link.NetLiveness — when a board restarts itself for want of a network.

  `NetLivenessPolicy.h`: two probes are folded, step by step, into two watches and a clock
  of silence.  What they hold is a function of the history: a watch is bad since the first
  of the failures in a row, when its probe has passed since the link came up.
-/
import SplitFlap.Lib.Clock
import Mathlib.Data.List.TakeWhile

namespace SplitFlap.NetLiveness

open Clock

abbrev NET_LIVENESS_BASE_MS : UInt32 := 600000
abbrev NET_LIVENESS_MAX_MS : UInt32 := 21600000
abbrev NET_LIVENESS_HEALTHY_RESET_MS : UInt32 := 1800000

/-! ## §1. The policy. -/

inductive NetProbe where
  | unknown
  | ok
  | fail
  deriving DecidableEq

inductive NetLivenessCause where
  | none
  | gateway
  | selfServer
  | noEvidence
  deriving DecidableEq

structure NetLivenessWatch where
  seenOk : Bool := false
  bad : Bool := false
  badSinceMs : UInt32 := 0

structure NetLivenessState where
  gateway : NetLivenessWatch := {}
  self : NetLivenessWatch := {}
  healthy : Bool := false
  healthySinceMs : UInt32 := 0
  noEvidenceSinceMs : UInt32 := 0

structure NetLivenessVerdict where
  reboot : NetLivenessCause := .none
  clearStrikes : Bool := false

/-- The loop of `netLivenessThresholdMs`. -/
def doubled : Nat → UInt32 → UInt32
  | 0, t => t
  | i + 1, t => if t < NET_LIVENESS_MAX_MS then doubled i (t * 2) else t

def netLivenessThresholdMs (strikes : UInt8) : UInt32 :=
  let t := doubled strikes.toNat NET_LIVENESS_BASE_MS
  if t < NET_LIVENESS_MAX_MS then t else NET_LIVENESS_MAX_MS

def netLivenessFold (w : NetLivenessWatch) (result : NetProbe) (nowMs : UInt32) :
    NetLivenessWatch :=
  if result = .ok then { w with seenOk := true, bad := false }
  else if result = .fail ∧ w.seenOk = true then
    if w.bad = false then { w with bad := true, badSinceMs := nowMs } else w
  else { w with bad := false }

/-- The clock of silence; 0 is that it does not run. -/
def noteEvidence (sinceMs : UInt32) (gateway self : NetProbe) (probesPaused : Bool)
    (nowMs : UInt32) : UInt32 :=
  if probesPaused ∨ gateway ≠ .unknown ∨ self ≠ .unknown then 0
  else if sinceMs = 0 then if nowMs = 0 then 1 else nowMs
  else sinceMs

def isOver (w : NetLivenessWatch) (nowMs limit : UInt32) : Bool :=
  w.bad && nowMs - w.badSinceMs ≥ limit

def isSilent (sinceMs nowMs limit : UInt32) : Bool :=
  sinceMs != 0 && (nowMs - sinceMs).toInt32 ≥ limit.toInt32

def rebootCause (st : NetLivenessState) (nowMs limit : UInt32) : NetLivenessCause :=
  if isOver st.gateway nowMs limit then .gateway
  else if isOver st.self nowMs limit then .selfServer
  else if isSilent st.noEvidenceSinceMs nowMs limit then .noEvidence
  else .none

/-- The healthy stretch, and whether it earned the patience back. -/
def noteHealth (st : NetLivenessState) (gateway self : NetProbe) (nowMs : UInt32) :
    NetLivenessState × Bool :=
  if st.gateway.bad = false ∧ st.self.bad = false ∧ (gateway = .ok ∨ self = .ok) then
    let st := if st.healthy then st else { st with healthy := true, healthySinceMs := nowMs }
    (st, nowMs - st.healthySinceMs ≥ NET_LIVENESS_HEALTHY_RESET_MS)
  else ({ st with healthy := false }, false)

def netLivenessStep (st : NetLivenessState) (linkUp : Bool) (gateway self : NetProbe)
    (nowMs : UInt32) (strikes : UInt8) (probesPaused : Bool) :
    NetLivenessState × NetLivenessVerdict :=
  if linkUp = false then
    ({ st with gateway := {}, self := {}, healthy := false, noEvidenceSinceMs := 0 }, {})
  else
    let st :=
      { st with
        gateway := netLivenessFold st.gateway gateway nowMs
        self := netLivenessFold st.self self nowMs
        noEvidenceSinceMs :=
          noteEvidence st.noEvidenceSinceMs gateway self probesPaused nowMs }
    let reboot := rebootCause st nowMs (netLivenessThresholdMs strikes)
    let health := noteHealth st gateway self nowMs
    (health.1, { reboot, clearStrikes := health.2 })

/-- Every limit is at most the longest. -/
theorem netLivenessThresholdMs_le (strikes : UInt8) :
    (netLivenessThresholdMs strikes).toNat ≤ 21600000 := by
  unfold netLivenessThresholdMs
  dsimp only
  split
  · next h => exact Nat.le_of_lt (UInt32.lt_iff_toNat_lt.mp h)
  · exact Nat.le_refl _

/-! ## §2. Histories. -/

/-- One call of `netLivenessStep`, at time `t`. -/
structure Call where
  t : Nat
  linkUp : Bool := true
  gateway : NetProbe := .unknown
  self : NetProbe := .unknown
  strikes : UInt8 := 0
  probesPaused : Bool := false

def stepped (st : NetLivenessState) (c : Call) : NetLivenessState × NetLivenessVerdict :=
  netLivenessStep st c.linkUp c.gateway c.self (reading c.t) c.strikes c.probesPaused

/-- The state after some calls, the last one first. -/
def stateOf : List Call → NetLivenessState
  | [] => {}
  | c :: older => (stepped (stateOf older) c).1

def verdictOf (c : Call) (older : List Call) : NetLivenessVerdict :=
  (stepped (stateOf older) c).2

/-- Times do not run backwards, and half a round of the clock has not passed. -/
def Spans (c : Call) (older : List Call) : Prop :=
  (c :: older).Pairwise (fun a b => b.t ≤ a.t) ∧ ∀ o ∈ c :: older, c.t < o.t + 2 ^ 31

/-- The calls since the link last came up. -/
def sinceLinkUp (cs : List Call) : List Call := cs.takeWhile (·.linkUp)

/-- The calls since which every result of a probe was Fail. -/
def failing (probe : Call → NetProbe) (cs : List Call) : List Call :=
  cs.takeWhile fun c => probe c = .fail

def isQuiet (c : Call) : Bool :=
  c.linkUp && !c.probesPaused && c.gateway = .unknown && c.self = .unknown

/-- Since the link came up the probe has passed, and since a call `limit` ago it failed. -/
def Condemned (probe : Call → NetProbe) (limit : Nat) (c : Call) (older : List Call) : Prop :=
  (∃ o ∈ sinceLinkUp (c :: older), probe o = .ok) ∧
    ∃ s ∈ failing probe (c :: older), s.t + limit ≤ c.t

/-- A stamp is not taken at clock value 0. -/
def stampOf (t : Nat) : Nat := if t % 2 ^ 32 = 0 then t + 1 else t

/-- Since a call `limit` ago there was no result, with the link up and nothing paused. -/
def Quiet (limit : Nat) (c : Call) (older : List Call) : Prop :=
  ∃ s ∈ (c :: older).takeWhile isQuiet, stampOf s.t + limit ≤ c.t

/-! ## §3. What the state holds. -/

/-- The state before the health is noted. -/
def folded (st : NetLivenessState) (c : Call) : NetLivenessState :=
  { st with
    gateway := netLivenessFold st.gateway c.gateway (reading c.t)
    self := netLivenessFold st.self c.self (reading c.t)
    noEvidenceSinceMs :=
      noteEvidence st.noEvidenceSinceMs c.gateway c.self c.probesPaused (reading c.t) }

theorem noteHealth_keeps (st : NetLivenessState) (gateway self : NetProbe) (nowMs : UInt32) :
    (noteHealth st gateway self nowMs).1.gateway = st.gateway ∧
      (noteHealth st gateway self nowMs).1.self = st.self ∧
      (noteHealth st gateway self nowMs).1.noEvidenceSinceMs = st.noEvidenceSinceMs := by
  unfold noteHealth
  split
  · dsimp only
    split <;> exact ⟨rfl, rfl, rfl⟩
  · exact ⟨rfl, rfl, rfl⟩

theorem stepped_up {c : Call} (hup : c.linkUp = true) (st : NetLivenessState) :
    (stepped st c).1.gateway = (folded st c).gateway ∧
      (stepped st c).1.self = (folded st c).self ∧
      (stepped st c).1.noEvidenceSinceMs = (folded st c).noEvidenceSinceMs ∧
      (stepped st c).2.reboot =
        rebootCause (folded st c) (reading c.t) (netLivenessThresholdMs c.strikes) := by
  unfold stepped netLivenessStep
  rw [hup, if_neg (by decide)]
  obtain ⟨hgateway, hself, hsince⟩ := noteHealth_keeps (folded st c) c.gateway c.self (reading c.t)
  exact ⟨hgateway, hself, hsince, rfl⟩

theorem stepped_down {c : Call} (hdown : c.linkUp = false) (st : NetLivenessState) :
    (stepped st c).1.gateway = {} ∧ (stepped st c).1.self = {} ∧
      (stepped st c).1.noEvidenceSinceMs = 0 ∧ (stepped st c).2.reboot = .none := by
  unfold stepped netLivenessStep
  rw [hdown, if_pos rfl]
  exact ⟨rfl, rfl, rfl, rfl⟩

theorem sinceLinkUp_up {c : Call} (hup : c.linkUp = true) (older : List Call) :
    sinceLinkUp (c :: older) = c :: sinceLinkUp older := List.takeWhile_cons_of_pos hup

theorem sinceLinkUp_down {c : Call} (hdown : c.linkUp = false) (older : List Call) :
    sinceLinkUp (c :: older) = [] :=
  List.takeWhile_cons_of_neg (by rw [hdown]; exact Bool.false_ne_true)

section Watch

variable {probe : Call → NetProbe} {w : NetLivenessWatch} {c : Call} {older : List Call}

theorem failing_fail (hfail : probe c = .fail) :
    failing probe (c :: older) = c :: failing probe older :=
  List.takeWhile_cons_of_pos (decide_eq_true hfail)

theorem failing_other (hother : probe c ≠ .fail) : failing probe (c :: older) = [] :=
  List.takeWhile_cons_of_neg (by rwa [decide_eq_true_eq])

/-- A watch, as the history has it. -/
structure Follows (probe : Call → NetProbe) (w : NetLivenessWatch) (cs : List Call) : Prop where
  seen : w.seenOk = true ↔ ∃ o ∈ sinceLinkUp cs, probe o = .ok
  bad : w.bad = true ↔ w.seenOk = true ∧ failing probe cs ≠ []
  since : w.bad = true → ∃ s, (failing probe cs).getLast? = some s ∧ w.badSinceMs = reading s.t

theorem Follows.none : Follows probe {} [] where
  seen := iff_of_false Bool.false_ne_true fun ⟨_, hmem, _⟩ => List.not_mem_nil hmem
  bad := iff_of_false Bool.false_ne_true fun h => Bool.false_ne_true h.1
  since hbad := absurd hbad Bool.false_ne_true

/-- A link that is down wipes what was seen. -/
theorem Follows.down (hdown : c.linkUp = false) : Follows probe {} (c :: older) where
  seen := iff_of_false Bool.false_ne_true fun ⟨_, hmem, _⟩ => by
    rw [sinceLinkUp_down hdown] at hmem
    exact List.not_mem_nil hmem
  bad := iff_of_false Bool.false_ne_true fun h => Bool.false_ne_true h.1
  since hbad := absurd hbad Bool.false_ne_true

/-- A result that is not Ok leaves open whether the probe has passed. -/
theorem seen_of_not_ok (hup : c.linkUp = true) (hnot : probe c ≠ .ok) :
    (∃ o ∈ sinceLinkUp (c :: older), probe o = .ok) ↔ ∃ o ∈ sinceLinkUp older, probe o = .ok := by
  rw [sinceLinkUp_up hup]
  constructor
  · rintro ⟨o, hmem, hok⟩
    rcases List.mem_cons.mp hmem with rfl | hmem
    · exact absurd hok hnot
    · exact ⟨o, hmem, hok⟩
  · rintro ⟨o, hmem, hok⟩
    exact ⟨o, List.mem_cons_of_mem c hmem, hok⟩

theorem Follows.fold (h : Follows probe w older) (hup : c.linkUp = true) :
    Follows probe (netLivenessFold w (probe c) (reading c.t)) (c :: older) := by
  unfold netLivenessFold
  by_cases hok : probe c = .ok
  · rw [if_pos hok]
    have hother : probe c ≠ .fail := by
      rw [hok]
      decide
    refine ⟨iff_of_true rfl ⟨c, ?_, hok⟩, iff_of_false Bool.false_ne_true ?_,
      fun hbad => absurd hbad Bool.false_ne_true⟩
    · rw [sinceLinkUp_up hup]
      exact List.mem_cons_self
    · rintro ⟨-, hrun⟩
      exact hrun (failing_other hother)
  rw [if_neg hok]
  have hseen : w.seenOk = true ↔ ∃ o ∈ sinceLinkUp (c :: older), probe o = .ok :=
    h.seen.trans (seen_of_not_ok hup hok).symm
  by_cases hfail : probe c = .fail ∧ w.seenOk = true
  · rw [if_pos hfail]
    have hrun : failing probe (c :: older) = c :: failing probe older := failing_fail hfail.1
    have hsome : failing probe (c :: older) ≠ [] := by
      rw [hrun]
      exact List.cons_ne_nil _ _
    cases hbad : w.bad with
    | false =>
        rw [if_pos rfl]
        refine ⟨hseen, iff_of_true rfl ⟨hfail.2, hsome⟩, fun _ => ⟨c, ?_, rfl⟩⟩
        -- the run of failures begins here
        have hnone : failing probe older = [] := by
          by_contra hrun'
          exact Bool.false_ne_true (hbad.symm.trans (h.bad.mpr ⟨hfail.2, hrun'⟩))
        rw [hrun, hnone]
        rfl
    | true =>
        rw [if_neg (by decide)]
        obtain ⟨s, hs, hsince⟩ := h.since hbad
        refine ⟨hseen, iff_of_true hbad ⟨hfail.2, hsome⟩, fun _ => ⟨s, ?_, hsince⟩⟩
        rw [hrun, List.getLast?_cons, hs]
        rfl
  · rw [if_neg hfail]
    refine ⟨hseen, iff_of_false Bool.false_ne_true ?_, fun hbad => absurd hbad Bool.false_ne_true⟩
    rintro ⟨hwas, hrun⟩
    by_cases hc : probe c = .fail
    · exact hfail ⟨hc, hwas⟩
    · exact hrun (failing_other hc)

end Watch

theorem follows_gateway (cs : List Call) : Follows (·.gateway) (stateOf cs).gateway cs := by
  induction cs with
  | nil => exact Follows.none
  | cons c older ih =>
      show Follows _ (stepped (stateOf older) c).1.gateway _
      cases hlink : c.linkUp with
      | false =>
          rw [(stepped_down hlink _).1]
          exact Follows.down hlink
      | true =>
          rw [(stepped_up hlink _).1]
          exact ih.fold hlink

theorem follows_self (cs : List Call) : Follows (·.self) (stateOf cs).self cs := by
  induction cs with
  | nil => exact Follows.none
  | cons c older ih =>
      show Follows _ (stepped (stateOf older) c).1.self _
      cases hlink : c.linkUp with
      | false =>
          rw [(stepped_down hlink _).2.1]
          exact Follows.down hlink
      | true =>
          rw [(stepped_up hlink _).2.1]
          exact ih.fold hlink

/-! ### Silence. -/

theorem reading_stampOf (t : Nat) :
    reading (stampOf t) = if reading t = 0 then 1 else reading t := by
  have hzero : reading t = 0 ↔ t % 2 ^ 32 = 0 := by
    rw [← UInt32.toNat_inj, reading_toNat]
    exact Iff.rfl
  unfold stampOf
  by_cases ht : t % 2 ^ 32 = 0
  · rw [if_pos ht, if_pos (hzero.mpr ht), ← UInt32.toNat_inj, reading_toNat]
    show (t + 1) % 2 ^ 32 = 1
    omega
  · rw [if_neg ht, if_neg fun h => ht (hzero.mp h)]

/-- A stamp is never the 0 that says the clock does not run. -/
theorem reading_stampOf_ne (t : Nat) : reading (stampOf t) ≠ 0 := by
  rw [reading_stampOf]
  split
  · decide
  · assumption

/-- The clock of silence, as the history has it. -/
structure Counts (sinceMs : UInt32) (cs : List Call) : Prop where
  stopped : sinceMs = 0 ↔ cs.takeWhile isQuiet = []
  since : sinceMs ≠ 0 → ∃ s, (cs.takeWhile isQuiet).getLast? = some s ∧
    sinceMs = reading (stampOf s.t)

theorem quiet_up {c : Call} (hup : c.linkUp = true) :
    isQuiet c = true ↔ ¬(c.probesPaused = true ∨ c.gateway ≠ .unknown ∨ c.self ≠ .unknown) := by
  unfold isQuiet
  rw [hup]
  simp [and_assoc]

theorem Counts.note {sinceMs : UInt32} {c : Call} {older : List Call} (h : Counts sinceMs older)
    (hup : c.linkUp = true) :
    Counts (noteEvidence sinceMs c.gateway c.self c.probesPaused (reading c.t)) (c :: older) := by
  unfold noteEvidence
  by_cases hresult : c.probesPaused = true ∨ c.gateway ≠ .unknown ∨ c.self ≠ .unknown
  · rw [if_pos hresult]
    have hnone : (c :: older).takeWhile isQuiet = [] :=
      List.takeWhile_cons_of_neg fun hquiet => (quiet_up hup).mp hquiet hresult
    exact ⟨iff_of_true rfl hnone, fun hne => absurd rfl hne⟩
  rw [if_neg hresult]
  have hrun : (c :: older).takeWhile isQuiet = c :: older.takeWhile isQuiet :=
    List.takeWhile_cons_of_pos ((quiet_up hup).mpr hresult)
  have hsome : (c :: older).takeWhile isQuiet ≠ [] := by
    rw [hrun]
    exact List.cons_ne_nil _ _
  by_cases hzero : sinceMs = 0
  · rw [if_pos hzero, ← reading_stampOf]
    refine ⟨iff_of_false (reading_stampOf_ne c.t) hsome, fun _ => ⟨c, ?_, rfl⟩⟩
    rw [hrun, h.stopped.mp hzero]
    rfl
  · rw [if_neg hzero]
    obtain ⟨s, hs, hsince⟩ := h.since hzero
    refine ⟨iff_of_false hzero hsome, fun _ => ⟨s, ?_, hsince⟩⟩
    rw [hrun, List.getLast?_cons, hs]
    rfl

theorem counts_silence (cs : List Call) : Counts (stateOf cs).noEvidenceSinceMs cs := by
  induction cs with
  | nil => exact ⟨iff_of_true rfl rfl, fun hne => absurd rfl hne⟩
  | cons c older ih =>
      show Counts (stepped (stateOf older) c).1.noEvidenceSinceMs _
      cases hlink : c.linkUp with
      | false =>
          rw [(stepped_down hlink _).2.2.1]
          have hnone : (c :: older).takeWhile isQuiet = [] := by
            apply List.takeWhile_cons_of_neg
            unfold isQuiet
            rw [hlink]
            exact Bool.false_ne_true
          exact ⟨iff_of_true rfl hnone, fun hne => absurd rfl hne⟩
      | true =>
          rw [(stepped_up hlink _).2.2.1]
          exact ih.note hlink

/-! ## §4. The verdict. -/

/-- In a run of calls, last first, one is old enough exactly when its first call is. -/
theorem run_begins {l : List Call} {s : Call} {f : Nat → Nat} (hf : ∀ a b, a ≤ b → f a ≤ f b)
    (horder : l.Pairwise fun a b => b.t ≤ a.t) (hs : l.getLast? = some s) (limit now : Nat) :
    (∃ x ∈ l, f x.t + limit ≤ now) ↔ f s.t + limit ≤ now := by
  constructor
  · rintro ⟨x, hx, hlong⟩
    have hle : f s.t ≤ f x.t := by
      obtain ⟨before, rfl⟩ := List.getLast?_eq_some_iff.mp hs
      rcases List.mem_append.mp hx with hbefore | hlast
      · exact hf _ _ ((List.pairwise_append.mp horder).2.2 x hbefore s List.mem_cons_self)
      · rw [List.mem_singleton.mp hlast]
    omega
  · intro hlong
    exact ⟨s, List.mem_of_getLast? hs, hlong⟩

section Verdict

variable {c : Call} {older : List Call}

theorem Spans.takeWhile (h : Spans c older) (p : Call → Bool) :
    ((c :: older).takeWhile p).Pairwise (fun a b => b.t ≤ a.t) ∧
      ∀ s ∈ (c :: older).takeWhile p, s.t ≤ c.t ∧ c.t < s.t + 2 ^ 31 := by
  refine ⟨h.1.sublist (List.takeWhile_sublist p), fun s hs => ?_⟩
  have hmem := (List.takeWhile_sublist p).subset hs
  refine ⟨?_, h.2 s hmem⟩
  rcases List.mem_cons.mp hmem with rfl | hmem
  · exact Nat.le_refl _
  · exact (List.pairwise_cons.mp h.1).1 s hmem

/-- A watch is over its limit exactly when its probe is condemned. -/
theorem isOver_iff {probe : Call → NetProbe} {w : NetLivenessWatch} (hspan : Spans c older)
    (h : Follows probe w (c :: older)) (limit : UInt32) :
    isOver w (reading c.t) limit = true ↔ Condemned probe limit.toNat c older := by
  unfold isOver Condemned
  rw [Bool.and_eq_true, decide_eq_true_eq, ← h.seen]
  obtain ⟨horder, hnear⟩ := hspan.takeWhile fun c => probe c = .fail
  constructor
  · rintro ⟨hbad, hlong⟩
    obtain ⟨s, hs, hsince⟩ := h.since hbad
    obtain ⟨hle, hround⟩ := hnear s (List.mem_of_getLast? hs)
    refine ⟨(h.bad.mp hbad).1, s, List.mem_of_getLast? hs, ?_⟩
    rw [hsince] at hlong
    exact waited hle hlong
  · rintro ⟨hseen, x, hx, hlong⟩
    have hbad : w.bad = true := h.bad.mpr ⟨hseen, List.ne_nil_of_mem hx⟩
    obtain ⟨s, hs, hsince⟩ := h.since hbad
    obtain ⟨hle, hround⟩ := hnear s (List.mem_of_getLast? hs)
    have hbegins := (run_begins (f := id) (fun _ _ hab => hab) horder hs limit.toNat c.t).mp
      ⟨x, hx, hlong⟩
    refine ⟨hbad, ?_⟩
    rw [hsince, ge_iff_le, UInt32.le_iff_toNat_le, elapsed_near hle (by omega)]
    exact Nat.le_sub_of_add_le (Nat.add_comm _ _ ▸ hbegins)

theorem toInt_of_small {x : UInt32} (hx : x.toNat < 2 ^ 31) : x.toInt32.toInt = x.toNat := by
  show x.toBitVec.toInt = (x.toBitVec.toNat : Int)
  exact BitVec.toInt_eq_toNat_of_lt (by rw [UInt32.toNat_toBitVec]; omega)

/-- A stamp may be a millisecond ahead; the comparison is signed. -/
theorem signed_ge {s now : Nat} (hahead : s ≤ now + 1) (hnear : now < s + 2 ^ 31) {limit : UInt32}
    (hlimit : limit.toNat < 2 ^ 31) :
    (reading now - reading s).toInt32 ≥ limit.toInt32 ↔ s + limit.toNat ≤ now := by
  rw [ge_iff_le, Int32.le_iff_toInt_le, toInt_of_small hlimit]
  rcases Nat.lt_or_ge now s with hlt | hle
  · -- one millisecond ahead: the difference is -1
    have hone : s = now + 1 := by omega
    have hminus : reading now - reading (now + 1) = -1 := by
      rw [← UInt32.toNat_inj, UInt32.toNat_sub, reading_toNat, reading_toNat]
      show _ = 2 ^ 32 - 1
      omega
    rw [hone, hminus]
    have hneg : (-1 : UInt32).toInt32.toInt = -1 := by decide
    rw [hneg]
    omega
  · have hdiff : (reading now - reading s).toNat = now - s := elapsed_near hle (by omega)
    rw [toInt_of_small (by omega), hdiff]
    omega

theorem isSilent_iff {sinceMs : UInt32} (hspan : Spans c older)
    (h : Counts sinceMs (c :: older)) {limit : UInt32} (hlimit : limit.toNat < 2 ^ 31) :
    isSilent sinceMs (reading c.t) limit = true ↔ Quiet limit.toNat c older := by
  have hmono (a b : Nat) (hab : a ≤ b) : stampOf a ≤ stampOf b := by
    unfold stampOf
    split <;> split <;> omega
  have hstamp (t : Nat) : stampOf t ≤ t + 1 ∧ t ≤ stampOf t := by
    unfold stampOf
    split <;> omega
  unfold isSilent Quiet
  rw [Bool.and_eq_true, bne_iff_ne, decide_eq_true_eq]
  obtain ⟨horder, hnear⟩ := hspan.takeWhile isQuiet
  by_cases hzero : sinceMs = 0
  · refine iff_of_false (fun hboth => hboth.1 hzero) ?_
    rintro ⟨s, hs, -⟩
    rw [h.stopped.mp hzero] at hs
    exact List.not_mem_nil hs
  obtain ⟨s, hs, hsince⟩ := h.since hzero
  obtain ⟨hle, hround⟩ := hnear s (List.mem_of_getLast? hs)
  have hs' := hstamp s.t
  rw [run_begins hmono horder hs, hsince, signed_ge (by omega) (by omega) hlimit]
  exact and_iff_right (reading_stampOf_ne s.t)

/-- The cause of a step's reboot, as a function of the history. -/
theorem rebootCause_of_history (hspan : Spans c older) :
    ((verdictOf c older).reboot = .gateway ↔
      Condemned (·.gateway) (netLivenessThresholdMs c.strikes).toNat c older) ∧
    ((verdictOf c older).reboot = .selfServer ↔
      ¬Condemned (·.gateway) (netLivenessThresholdMs c.strikes).toNat c older ∧
        Condemned (·.self) (netLivenessThresholdMs c.strikes).toNat c older) ∧
    ((verdictOf c older).reboot = .noEvidence ↔
      ¬Condemned (·.gateway) (netLivenessThresholdMs c.strikes).toNat c older ∧
        ¬Condemned (·.self) (netLivenessThresholdMs c.strikes).toNat c older ∧
        Quiet (netLivenessThresholdMs c.strikes).toNat c older) := by
  have hlimit : (netLivenessThresholdMs c.strikes).toNat < 2 ^ 31 :=
    Nat.lt_of_le_of_lt (netLivenessThresholdMs_le c.strikes) (by decide)
  have hgateway :=
    isOver_iff hspan (follows_gateway (c :: older)) (netLivenessThresholdMs c.strikes)
  have hself := isOver_iff hspan (follows_self (c :: older)) (netLivenessThresholdMs c.strikes)
  have hsilent := isSilent_iff hspan (counts_silence (c :: older)) hlimit
  cases hlink : c.linkUp with
  | false =>
      have hnone (probe : Call → NetProbe) (limit : Nat) : ¬Condemned probe limit c older := by
        rintro ⟨⟨o, hmem, -⟩, -⟩
        rw [sinceLinkUp_down hlink] at hmem
        exact List.not_mem_nil hmem
      have hloud : ¬Quiet (netLivenessThresholdMs c.strikes).toNat c older := by
        rw [← hsilent]
        show ¬isSilent (stepped (stateOf older) c).1.noEvidenceSinceMs _ _ = true
        rw [(stepped_down hlink _).2.2.1]
        exact Bool.false_ne_true
      have hreboot : (verdictOf c older).reboot = .none := (stepped_down hlink _).2.2.2
      rw [hreboot]
      exact ⟨iff_of_false (by decide) (hnone _ _),
        iff_of_false (by decide) fun h => hnone _ _ h.2,
        iff_of_false (by decide) fun h => hloud h.2.2⟩
  | true =>
      obtain ⟨hg, hs, hn, hreboot⟩ := stepped_up hlink (stateOf older)
      have hreboot' : (verdictOf c older).reboot = rebootCause (folded (stateOf older) c)
        (reading c.t) (netLivenessThresholdMs c.strikes) := hreboot
      rw [hreboot', ← hgateway, ← hself, ← hsilent]
      unfold rebootCause
      show ((if isOver (folded (stateOf older) c).gateway _ _ = true then _ else _) = _ ↔
        isOver (stepped (stateOf older) c).1.gateway _ _ = true) ∧ (_ ↔ ¬isOver
        (stepped (stateOf older) c).1.gateway _ _ = true ∧
        isOver (stepped (stateOf older) c).1.self _ _ = true) ∧ (_ ↔
        ¬isOver (stepped (stateOf older) c).1.gateway _ _ = true ∧
        ¬isOver (stepped (stateOf older) c).1.self _ _ = true ∧
        isSilent (stepped (stateOf older) c).1.noEvidenceSinceMs _ _ = true)
      rw [hg, hs, hn]
      cases isOver (folded (stateOf older) c).gateway (reading c.t)
          (netLivenessThresholdMs c.strikes) <;>
        cases isOver (folded (stateOf older) c).self (reading c.t)
            (netLivenessThresholdMs c.strikes) <;>
          cases isSilent (folded (stateOf older) c).noEvidenceSinceMs (reading c.t)
              (netLivenessThresholdMs c.strikes) <;> simp

/-- A step reboots for the gateway, else for the own server, exactly when that probe is
condemned, else for want of evidence exactly when it was quiet long enough, and never else:
not while the link is down, and for no probe that has not passed since the link came up. -/
theorem reboot_on_evidence (c : Call) (older : List Call) (hspan : Spans c older) :
    ((verdictOf c older).reboot = .gateway ↔
      Condemned (·.gateway) (netLivenessThresholdMs c.strikes).toNat c older) ∧
    ((verdictOf c older).reboot = .selfServer ↔
      ¬Condemned (·.gateway) (netLivenessThresholdMs c.strikes).toNat c older ∧
        Condemned (·.self) (netLivenessThresholdMs c.strikes).toNat c older) ∧
    ((verdictOf c older).reboot = .noEvidence ↔
      ¬Condemned (·.gateway) (netLivenessThresholdMs c.strikes).toNat c older ∧
        ¬Condemned (·.self) (netLivenessThresholdMs c.strikes).toNat c older ∧
        Quiet (netLivenessThresholdMs c.strikes).toNat c older) ∧
    (c.linkUp = false → (verdictOf c older).reboot = .none) ∧
    ((∀ o ∈ sinceLinkUp (c :: older), o.gateway ≠ .ok ∧ o.self ≠ .ok) →
      (verdictOf c older).reboot ≠ .gateway ∧ (verdictOf c older).reboot ≠ .selfServer) := by
  obtain ⟨hgateway, hself, hquiet⟩ := rebootCause_of_history hspan
  refine ⟨hgateway, hself, hquiet, fun hdown => (stepped_down hdown _).2.2.2, fun hnever => ?_⟩
  constructor
  · intro hreboot
    obtain ⟨o, hmem, hok⟩ := (hgateway.mp hreboot).1
    exact (hnever o hmem).1 hok
  · intro hreboot
    obtain ⟨o, hmem, hok⟩ := (hself.mp hreboot).2.1
    exact (hnever o hmem).2 hok

/-- A gateway that answered, and then fails for ten minutes. -/
theorem reboot_on_evidence_gateway :
    (verdictOf { t := 605000, gateway := .fail, self := .ok }
      [{ t := 5000, gateway := .fail, self := .ok },
        { t := 1000, gateway := .ok }]).reboot = .gateway := by
  refine (reboot_on_evidence _ _ ⟨by decide, by decide⟩).1.mpr ⟨?_, ?_⟩
  · exact ⟨{ t := 1000, gateway := .ok }, by simp [sinceLinkUp], rfl⟩
  · exact ⟨{ t := 5000, gateway := .fail, self := .ok }, by simp [failing], by decide⟩

end Verdict

end SplitFlap.NetLiveness
