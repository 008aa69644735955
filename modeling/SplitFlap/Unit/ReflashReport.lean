/-
  SplitFlap.Unit.ReflashReport — the whole account of a reflash run.

  A unit is flashed at most as often as its turns allow, whatever the log;
  the run comes back when its wait for a reset by hand does; and together with
  the books that `reflashRunTargets` keeps, this is all it promises a row.
-/
import SplitFlap.Unit.ReflashRun

namespace SplitFlap.Unit

open Trace

variable {B : Nat} {targets : List UInt8} {log : List ReflashEvent}

/-! ## §1. How often a unit is flashed. -/

def isFlashOf (addr : UInt8) : ReflashEvent → Bool
  | .flashUnit addr' _ => addr' == addr
  | _ => false

/-- The flashes of one unit in a log. -/
def flashesOf (addr : UInt8) (log : List ReflashEvent) : Nat := log.countP (isFlashOf addr)

theorem flashesOf_snoc (addr : UInt8) (log : List ReflashEvent) (e : ReflashEvent) :
    flashesOf addr (log ++ [e]) = flashesOf addr log + if isFlashOf addr e then 1 else 0 := by
  unfold flashesOf
  rw [List.countP_append, List.countP_singleton]

/-- The unit of the open turn and its flashes. -/
def Account.current (a : Account) : Option (UInt8 × Nat) :=
  a.turn.map fun t => (t.addr, t.flashes)

/-- The flashes of a unit in the open turn. -/
def Account.flashesNow (a : Account) (addr : UInt8) : Nat :=
  match a.current with
  | some (addr', n) => if addr' = addr then n else 0
  | none => 0

/-- The targets whose turn has come. -/
def Account.begun (a : Account) : List UInt8 :=
  a.addrs ++ (a.current.map (·.1)).toList

/-- Each turn so far has cost its unit at most the attempts it is given. -/
structure Rationed (targets : List UInt8) (log : List ReflashEvent) : Prop where
  order : (account log).begun <+: targets
  now : ∀ addr, (account log).flashesNow addr ≤ REFLASH_UNIT_ATTEMPTS
  spent : ∀ addr, flashesOf addr log ≤
    REFLASH_UNIT_ATTEMPTS * (account log).addrs.count addr + (account log).flashesNow addr

/-- An event that is neither a flash nor a publication changes nothing here. -/
theorem Rationed.aside {e : ReflashEvent} (h : Rationed targets log)
    (haddrs : (account (log ++ [e])).addrs = (account log).addrs)
    (hcurrent : (account (log ++ [e])).current = (account log).current)
    (hno : ∀ addr, isFlashOf addr e = false) : Rationed targets (log ++ [e]) := by
  have hnow : ∀ addr, (account (log ++ [e])).flashesNow addr = (account log).flashesNow addr := by
    intro addr
    unfold Account.flashesNow
    rw [hcurrent]
  refine { order := ?_, now := ?_, spent := ?_ }
  · unfold Account.begun
    rw [haddrs, hcurrent]
    exact h.order
  · intro addr
    rw [hnow]
    exact h.now addr
  · intro addr
    rw [flashesOf_snoc, hno, haddrs, hnow]
    exact h.spent addr

/-- Hearing anything but a flash leaves the unit and its flashes. -/
theorem hear_current {e : ReflashEvent} (a : Account)
    (hhear : ∀ t : Turn, (t.hear e).addr = t.addr ∧ (t.hear e).flashes = t.flashes) :
    Account.current { a with turn := a.turn.map (·.hear e) } = a.current := by
  unfold Account.current
  rw [Option.map_map]
  refine congrArg (fun f => a.turn.map f) (funext fun t => ?_)
  show ((t.hear e).addr, (t.hear e).flashes) = _
  rw [(hhear t).1, (hhear t).2]

theorem Rationed.heard {e : ReflashEvent} (h : Rationed targets log)
    (hstep : ∀ a : Account, a.step e = { a with turn := a.turn.map (·.hear e) })
    (hhear : ∀ t : Turn, (t.hear e).addr = t.addr ∧ (t.hear e).flashes = t.flashes)
    (hno : ∀ addr, isFlashOf addr e = false) : Rationed targets (log ++ [e]) := by
  refine h.aside ?_ ?_ hno
  · rw [account_snoc, hstep]
    rfl
  · rw [account_snoc, hstep]
    exact hear_current _ hhear

theorem Rationed.flash {addr : UInt8} {o : ReflashUnitOutcome} (h : Rationed targets log)
    (hok : InPlan B targets log (.flashUnit addr o)) :
    Rationed targets (log ++ [.flashUnit addr o]) := by
  obtain ⟨t, hturn, rfl, _, hleft⟩ := hok
  have hcurrent : (account log).current = some (t.addr, t.flashes) := by
    unfold Account.current
    rw [hturn]
    rfl
  have hcurrent' : (account (log ++ [.flashUnit t.addr o])).current =
      some (t.addr, t.flashes + 1) := by
    rw [account_snoc]
    show ((account log).turn.map _).map _ = _
    rw [hturn]
    rfl
  have haddrs : (account (log ++ [.flashUnit t.addr o])).addrs = (account log).addrs := by
    rw [account_snoc]
    rfl
  refine { order := ?_, now := ?_, spent := ?_ }
  · have horder := h.order
    unfold Account.begun at horder ⊢
    rw [hcurrent] at horder
    rw [haddrs, hcurrent']
    exact horder
  · intro x
    unfold Account.flashesNow
    rw [hcurrent']
    show (if t.addr = x then t.flashes + 1 else 0) ≤ _
    split
    · exact hleft
    · exact Nat.zero_le _
  · intro x
    have hspent := h.spent x
    unfold Account.flashesNow at hspent ⊢
    rw [hcurrent] at hspent
    rw [flashesOf_snoc, haddrs, hcurrent']
    show _ + (if (t.addr == x) = true then 1 else 0) ≤
      _ + (if t.addr = x then t.flashes + 1 else 0)
    dsimp only at hspent
    by_cases hx : t.addr = x
    · rw [if_pos hx] at hspent ⊢
      rw [if_pos (beq_iff_eq.mpr hx)]
      omega
    · rw [if_neg hx] at hspent ⊢
      rw [if_neg (fun hyes => hx (beq_iff_eq.mp hyes))]
      exact hspent

theorem Rationed.published {p : ReflashProgress} (h : Rationed targets log)
    (hok : InPlan B targets log (.progressChanged p)) :
    Rationed targets (log ++ [.progressChanged p]) := by
  have hstep := account_snoc log (.progressChanged p)
  by_cases hsettling : p.state = .settling
  · have hsame : account (log ++ [.progressChanged p]) = account log := by
      rw [hstep]
      exact if_pos hsettling
    exact h.aside (by rw [hsame]) (by rw [hsame]) fun _ => rfl
  · cases hturn : (account log).turn with
    | none =>
        have hopen : account (log ++ [.progressChanged p]) =
            { account log with turn := some { addr := p.currentAddr } } := by
          rw [hstep, step_opens hsettling hturn]
        refine { order := ?_, now := ?_, spent := ?_ }
        · rw [hopen]
          exact hok hsettling hturn
        · intro x
          rw [hopen]
          show (if p.currentAddr = x then 0 else 0) ≤ _
          rw [ite_self]
          exact Nat.zero_le _
        · intro x
          have hspent := h.spent x
          have hzero : (account log).flashesNow x = 0 := by
            unfold Account.flashesNow Account.current
            rw [hturn]
            rfl
          rw [hzero] at hspent
          rw [flashesOf_snoc, hopen]
          exact Nat.le_trans hspent (Nat.le_add_right _ _)
    | some t =>
        have hclosed : account (log ++ [.progressChanged p]) = (account log).complete t := by
          rw [hstep, step_completes hsettling hturn]
        have hcurrent : (account log).current = some (t.addr, t.flashes) := by
          unfold Account.current
          rw [hturn]
          rfl
        refine { order := ?_, now := ?_, spent := ?_ }
        · have horder := h.order
          unfold Account.begun at horder ⊢
          rw [hcurrent] at horder
          rw [hclosed, complete_addrs]
          show (_ ++ [t.addr]) ++ [] <+: targets
          rw [List.append_nil]
          exact horder
        · intro x
          rw [hclosed]
          exact Nat.zero_le _
        · intro x
          have hspent := h.spent x
          have hnow := h.now x
          rw [flashesOf_snoc, hclosed, complete_addrs, List.count_append, List.count_singleton]
          show flashesOf x log + 0 ≤ REFLASH_UNIT_ATTEMPTS * _ + 0
          unfold Account.flashesNow at hspent hnow
          rw [hcurrent] at hspent hnow
          dsimp only at hspent hnow
          by_cases hx : t.addr = x
          · rw [if_pos hx] at hspent hnow
            rw [if_pos (beq_iff_eq.mpr hx), Nat.mul_succ]
            omega
          · rw [if_neg hx] at hspent
            rw [if_neg (fun hyes => hx (beq_iff_eq.mp hyes))]
            exact hspent

/-- The step lemma: whatever a run may call keeps the rations. -/
theorem Rationed.step {e : ReflashEvent} (h : Rationed targets log)
    (hok : InPlan B targets log e) : Rationed targets (log ++ [e]) := by
  cases e with
  | flashUnit addr o => exact h.flash hok
  | progressChanged p => exact h.published hok
  | unitFlashed addr => exact h.aside (by rw [account_snoc]; rfl) (by rw [account_snoc]; rfl) fun _ => rfl
  | settleBatch addrs => exact h.aside (by rw [account_snoc]; rfl) (by rw [account_snoc]; rfl) fun _ => rfl
  | imageFits on => exact h.heard (fun _ => rfl) (fun t => by cases on <;> exact ⟨rfl, rfl⟩) fun _ => rfl
  | inBootloader addr on =>
      refine h.heard (fun _ => rfl) (fun t => ?_) fun _ => rfl
      cases on with
      | false => exact ⟨rfl, rfl⟩
      | true =>
          show (if addr = t.addr then _ else t).addr = _ ∧ (if addr = t.addr then _ else t).flashes = _
          split <;> exact ⟨rfl, rfl⟩
  | _ => exact h.heard (fun _ => rfl) (fun _ => ⟨rfl, rfl⟩) fun _ => rfl

/-- The run lemma: so every log of a run is rationed. -/
theorem rationed_of_plan (log : List ReflashEvent) (hspeech : Says (InPlan B targets) [] log) :
    Rationed targets log := by
  induction log using List.reverseRecOn with
  | nil =>
      exact { order := List.nil_prefix, now := fun _ => Nat.zero_le _, spent := fun _ => Nat.zero_le _ }
  | append_singleton log e ih =>
      have hlog : Rationed targets log := by
        refine ih fun pre e' post hsplit => ?_
        exact hspeech pre e' (post ++ [e]) (by rw [hsplit]; simp)
      have hok := hspeech log e [] rfl
      rw [List.nil_append] at hok
      exact hlog.step hok

/-- A unit is flashed at most `REFLASH_UNIT_ATTEMPTS` times for each time it is
in the list. -/
theorem Rationed.flashes_le (h : Rationed targets log) (addr : UInt8) :
    flashesOf addr log ≤ REFLASH_UNIT_ATTEMPTS * targets.count addr := by
  have hspent : flashesOf addr log ≤ 3 * _ + (account log).flashesNow addr := h.spent addr
  have hnow : (account log).flashesNow addr ≤ 3 := h.now addr
  show flashesOf addr log ≤ 3 * targets.count addr
  have hcount : (account log).begun.count addr ≤ targets.count addr :=
    h.order.sublist.count_le addr
  unfold Account.begun at hcount
  rw [List.count_append] at hcount
  unfold Account.flashesNow at hspent hnow
  cases hcurrent : (account log).current with
  | none =>
      rw [hcurrent] at hspent
      dsimp only at hspent
      omega
  | some c =>
      obtain ⟨addr', n⟩ := c
      rw [hcurrent] at hspent hnow hcount
      dsimp only at hspent hnow
      by_cases haddr : addr' = addr
      · rw [if_pos haddr] at hspent hnow
        have hone : (Option.map (·.1) (some (addr', n))).toList.count addr = 1 := by
          show [addr'].count addr = 1
          rw [haddr]
          exact List.count_singleton_self
        omega
      · rw [if_neg haddr] at hspent
        omega

/-! ## §2. A run comes back. -/

section Ends

variable (h : ReflashHooks) (addr : UInt8)

theorem enterProbes_ends : ∀ more, Ends (enterProbes h addr more)
  | 0 => ends_ask _ _
  | more + 1 => by
      unfold enterProbes
      refine ends_bind (ends_ask _ _) fun there => ?_
      split
      · exact ends_ret true
      · exact ends_bind (ends_say _) fun _ => enterProbes_ends more

theorem askNotEntered_ends : Ends (askNotEntered h addr) := by
  unfold askNotEntered
  refine ends_bind (ends_ask _ _) fun fits => ?_
  split
  · refine ends_bind ?_ fun entered => ends_ret _
    unfold reflashEnterUnit
    refine ends_bind (ends_ask _ _) fun there => ?_
    split
    · exact ends_ret true
    · refine ends_bind (ends_ask _ _) fun status => ?_
      split
      · exact ends_ret false
      · exact ends_bind (ends_say _) fun _ => enterProbes_ends h addr _
  · exact ends_ret false

/-- The wait for a reset by hand counts up to `waitMs`, as long as 32 bits
hold one step more. -/
theorem awaitHandResetLoop_ends {waitMs : UInt32} (hwait : waitMs.toNat ≤ 4294967200) :
    ∀ (fuel rounds : Nat), 200 * rounds ≤ 4294967200 → waitMs.toNat ≤ 200 * (fuel + rounds) →
      Ends (awaitHandResetLoop h addr waitMs (fuel + 1) (UInt32.ofNat (200 * rounds))) := by
  intro fuel
  induction fuel with
  | zero =>
      intro rounds hsmall henough
      unfold awaitHandResetLoop
      rw [if_neg]
      · exact ends_ret false
      · rw [UInt32.lt_iff_toNat_lt, UInt32.toNat_ofNat']
        omega
  | succ fuel ih =>
      intro rounds hsmall henough
      unfold awaitHandResetLoop
      split
      · next hless =>
          rw [UInt32.lt_iff_toNat_lt, UInt32.toNat_ofNat'] at hless
          refine ends_bind (ends_ask _ _) fun stop => ?_
          split
          · exact ends_ret false
          · refine ends_bind (ends_say _) fun _ => ends_bind (ends_ask _ _) fun there => ?_
            split
            · exact ends_ret true
            · have hnext : UInt32.ofNat (200 * rounds) + REFLASH_HAND_RESET_GAP_MS =
                  UInt32.ofNat (200 * (rounds + 1)) := by
                rw [Nat.mul_succ, UInt32.ofNat_add]
                rfl
              rw [hnext]
              exact ih (rounds + 1) (by omega) (by omega)
      · exact ends_ret false

theorem reflashEntry_ends {fuel : Nat} {waitMs : UInt32} (hwait : waitMs.toNat ≤ 4294967200)
    (hfuel : waitMs.toNat + 200 ≤ 200 * fuel) : Ends (reflashEntry h fuel addr waitMs) := by
  unfold reflashEntry
  refine ends_bind (askNotEntered_ends h addr) fun notEntered => ?_
  split
  · refine ends_bind (ends_say _) fun _ => ends_bind ?_ fun reset => ?_
    · unfold reflashAwaitHandReset
      cases fuel with
      | zero => omega
      | succ fuel =>
          exact awaitHandResetLoop_ends h addr hwait fuel 0 (by omega) (by omega)
    · split
      · exact ends_bind (ends_ask _ _) fun stop => ends_ret _
      · exact ends_ret Entry.ready
  · exact ends_ret _

theorem retryLoop_ends : ∀ left attempt outcome, Ends (retryLoop h addr left attempt outcome)
  | 0, _, outcome => ends_ret outcome
  | left + 1, attempt, outcome => by
      unfold retryLoop
      split
      · refine ends_bind ?_ fun again => ?_
        · unfold askStillThere
          refine ends_bind (ends_ask _ _) fun fits => ?_
          split
          · exact ends_ask _ _
          · exact ends_ret false
        · split
          · refine ends_bind (ends_say _) fun _ => ends_bind (ends_ask _ _) fun outcome' => ?_
            exact retryLoop_ends left (attempt + 1) outcome'
          · exact ends_ret outcome
      · exact ends_ret outcome

theorem settle_ends (size : Nat) (run : ReflashRun) : Ends (settle size run) := by
  unfold settle
  split
  · exact ends_bind (ends_say _) fun _ => ends_bind (ends_say _) fun _ => ends_ret _
  · exact ends_ret run

theorem noteOutcome_ends (run : ReflashRun) (outcome : ReflashUnitOutcome) :
    Ends (noteOutcome run addr outcome) := by
  cases outcome with
  | flashed => exact ends_bind (ends_say _) fun _ => ends_ret _
  | notEntered => exact ends_bind (ends_say _) fun _ => ends_ret _
  | failed => exact ends_ret _
  | stopped => exact ends_ret _

theorem endTurn_ends (run : ReflashRun) (left : Nat) (outcome : ReflashUnitOutcome) :
    Ends (endTurn B run addr left outcome) := by
  unfold endTurn
  dsimp only
  split
  · exact ends_bind (ends_say _) fun _ => ends_ret _
  · refine ends_bind (noteOutcome_ends addr _ outcome) fun run' => ?_
    refine ends_bind (ends_say _) fun _ => ends_bind (settle_ends B run') fun run'' => ?_
    split
    · exact ends_bind (ends_say _) fun _ => ends_ret _
    · exact ends_ret _

theorem targetLoop_ends {fuel : Nat} {waitMs : UInt32} (hwait : waitMs.toNat ≤ 4294967200)
    (hfuel : waitMs.toNat + 200 ≤ 200 * fuel) (todo : List UInt8) :
    ∀ run, Ends (targetLoop h B fuel waitMs todo run) := by
  induction todo with
  | nil => exact fun run => ends_ret run
  | cons addr todo ih =>
      intro run
      unfold targetLoop
      refine ends_bind (ends_ask _ _) fun stop => ?_
      split
      · exact ends_ret _
      · refine ends_bind ?_ fun answer => ?_
        · unfold reflashTurn
          refine ends_bind (ends_say _) fun _ => ?_
          refine ends_bind (reflashEntry_ends h addr hwait hfuel) fun entry => ?_
          cases entry with
          | stopped => exact ends_bind (ends_say _) fun _ => ends_ret _
          | notEntered => exact endTurn_ends addr _ _ _
          | ready =>
              refine ends_bind ?_ fun outcome => endTurn_ends addr _ _ outcome
              unfold flashAttempts
              exact ends_bind (ends_ask _ _) fun outcome => retryLoop_ends h addr _ _ outcome
        · obtain ⟨run', on⟩ := answer
          dsimp only
          split
          · exact ih run'
          · exact ends_ret run'

end Ends

theorem reflashRunTargets_ends (h : ReflashHooks) {fuel : Nat} {waitMs : UInt32}
    (hwait : waitMs.toNat ≤ 4294967200) (hfuel : waitMs.toNat + 200 ≤ 200 * fuel)
    (targets : List UInt8) (progress : ReflashProgress) : Ends (reflashRunTargets h B fuel targets progress waitMs) := by
  unfold reflashRunTargets
  refine ends_bind (targetLoop_ends h hwait hfuel targets _) fun run => ?_
  exact ends_bind (settle_ends 1 run) fun run' => ends_ret _

/-! ## §3. What a run promises. -/

/-- **A reflash run accounts for every unit.**  A unit is flashed only when the
image does not fit or it was in its bootloader since its turn began, at most
`REFLASH_UNIT_ATTEMPTS` times a turn; a batch is all that was flashed and not
waited for yet; a run that comes back has waited for every unit it flashed, in
order, counts its turns (in eight bits) and halted exactly when it failed
twice with no success between; and it comes back whenever its wait for a reset
by hand can be counted. -/
theorem reflash_accounts (h : ReflashHooks) (B fuel : Nat) (targets : List UInt8)
    (handResetWaitMs : UInt32) (hB : 0 < B) (answer : Option (ReflashRunEnd × ReflashProgress))
    (log : List ReflashEvent)
    (hrun : reflashRunTargets h B fuel targets (reflashProgressBegin targets.length)
      handResetWaitMs [] = (answer, log)) :
    (∀ pre addr outcome post, log = pre ++ .flashUnit addr outcome :: post →
      ∃ t, (account pre).turn = some t ∧ t.addr = addr ∧ t.ready = true ∧
        t.flashes < REFLASH_UNIT_ATTEMPTS) ∧
    (∀ addr, flashesOf addr log ≤ REFLASH_UNIT_ATTEMPTS * targets.count addr) ∧
    (∀ pre addrs post, log = pre ++ .settleBatch addrs :: post →
      (account pre).flashed = (account pre).settled ++ addrs ∧
        0 < addrs.length ∧ addrs.length ≤ B) ∧
    (∀ runEnd progress, answer = some (runEnd, progress) →
      Accounted targets (account log) runEnd progress) ∧
    (∀ runEnd progress, answer = some (runEnd, progress) → targets.length < 256 →
      progress.done.toNat + progress.failed.toNat = (account log).turns.length) ∧
    (handResetWaitMs.toNat ≤ 4294967200 → handResetWaitMs.toNat + 200 ≤ 200 * fuel →
      answer.isSome) := by
  obtain ⟨said, hsaid, hspeech, hpost⟩ := reflashRunTargets_does h hB fuel handResetWaitMs targets
  rw [hrun, List.nil_append] at hsaid
  rw [hrun, List.nil_append] at hpost
  dsimp only at hsaid hpost
  subst hsaid
  have hplan : ∀ pre e post, log = pre ++ e :: post → InPlan B targets pre e := by
    intro pre e post hlog
    have := hspeech pre e post hlog
    rwa [List.nil_append] at this
  have haccounted : ∀ runEnd progress, answer = some (runEnd, progress) →
      Accounted targets (account log) runEnd progress :=
    fun runEnd progress hanswer => hpost _ hanswer
  refine ⟨?_, ?_, ?_, haccounted, ?_, ?_⟩
  · intro pre addr outcome post hlog
    exact hplan pre _ post hlog
  · exact (rationed_of_plan log hspeech).flashes_le
  · intro pre addrs post hlog
    exact hplan pre _ post hlog
  · intro runEnd progress hanswer hshort
    have hacc := haccounted runEnd progress hanswer
    have hlen : (account log).turns.length ≤ targets.length := by
      have := hacc.order.length_le
      unfold Account.addrs at this
      rwa [List.length_map] at this
    have hsum := flashed_add_other (account log)
    rw [hacc.done, hacc.failed]
    omega
  · intro hwait hfuel
    have hends := reflashRunTargets_ends (B := B) h hwait hfuel targets
      (reflashProgressBegin targets.length) []
    rw [hrun] at hends
    exact hends

/-! ## §4. A row whose units all take the image. -/

/-- Every unit enters at once and is flashed at the first attempt. -/
def willing : ReflashHooks where
  stopRequested := fun _ => false
  imageFits := fun _ => true
  inBootloader := fun _ _ => true
  enterBootloader := fun _ _ => 0
  flashUnit := fun _ _ => .flashed

/-- Two of five units per batch: three waits, and the units in their order. -/
theorem reflash_accounts_five :
    Accounted [1, 2, 3, 4, 5]
      (account (reflashRunTargets willing 2 1 [1, 2, 3, 4, 5] (reflashProgressBegin 5) 0 []).2)
      { flashed := 5 }
      { state := .settling, total := 5, done := 5 } :=
  (reflash_accounts willing 2 1 [1, 2, 3, 4, 5] 0 Nat.zero_lt_two
    (reflashRunTargets willing 2 1 [1, 2, 3, 4, 5] (reflashProgressBegin 5) 0 []).1
    (reflashRunTargets willing 2 1 [1, 2, 3, 4, 5] (reflashProgressBegin 5) 0 []).2 (Prod.eta _).symm).2.2.2.1
    _ _ (by decide +kernel)

/-- The counters hold eight bits: after 256 flashed units they read zero. -/
theorem counters_wrap :
    ∃ runEnd progress,
      (reflashRunTargets willing 4 1 (List.replicate 256 1) (reflashProgressBegin 256) 0 []).1 =
        some (runEnd, progress) ∧
      progress.done.toNat + progress.failed.toNat ≠
        (account (reflashRunTargets willing 4 1 (List.replicate 256 1)
          (reflashProgressBegin 256) 0 []).2).turns.length := by
  have hanswer : (reflashRunTargets willing 4 1 (List.replicate 256 1) (reflashProgressBegin 256)
      0 []).1 = some ({}, { state := .settling }) := by decide +kernel
  refine ⟨{}, { state := .settling }, hanswer, ?_⟩
  obtain ⟨said, hsaid, _, hpost⟩ := reflashRunTargets_does willing (B := 4) (by decide) 1 0
    (List.replicate 256 1)
  rw [List.length_replicate] at hsaid hpost
  -- neither a stop nor a halt ended the run, so every unit had its turn
  have hwhole := (hpost _ hanswer).whole rfl rfl
  rw [hsaid]
  have hlen : (account ([] ++ said)).turns.length = 256 := by
    rw [← List.length_map (f := (·.addr))]
    exact (congrArg List.length hwhole).trans List.length_replicate
  rw [hlen]
  decide

end SplitFlap.Unit
