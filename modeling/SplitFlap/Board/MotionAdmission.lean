/-
  SplitFlap.Board.MotionAdmission — how many units of a row move at once.

  `MotionBudget.h` and its two users: the frame and the resends of a board put one unit
  after another in motion, and wait before each until fewer than the cap are counted as
  moving.  The cap follows the sags of the supply between the frames.  A pass is a machine
  here: the units in turn, the rounds of polls, the clock.
-/
import SplitFlap.Lib.Clock
import SplitFlap.Lib.Machine
import SplitFlap.Lib.Slots
import Mathlib.Data.List.InsertIdx
import Mathlib.Data.List.Nodup
import Mathlib.Data.List.Perm.Subperm

namespace SplitFlap.MotionAdmission

open Clock Machine Slots

/-! ## §1. The tracker. -/

/-- The two firmwares with this header; the row's build flags lower the ceiling. -/
inductive Build where
  | master
  | row
  deriving DecidableEq

def MOTION_BUDGET_MAX : Build → Nat
  | .master => 4
  | .row => 2

abbrev MOTION_BUDGET_MIN : Nat := 1
abbrev MOTION_SAG_LOW_MV : UInt16 := 4700
abbrev MOTION_BUDGET_RESTORE_MS : UInt32 := 600000
abbrev MOTION_START_GRACE_MS : UInt32 := 150
abbrev MOTION_STUCK_MS : UInt32 := 20000
abbrev MOTION_UNITS_MAX : Nat := 16
abbrev MOTION_TRACK_MAX (b : Build) : Nat := MOTION_BUDGET_MAX b

/-- Two arrays and how many of their cells are in use. -/
structure MotionTracker (size : Nat) where
  unit : Vector Nat size := Vector.replicate size 0
  startMs : Vector UInt32 size := Vector.replicate size 0
  count : Nat := 0
  count_le : count ≤ size := by omega

/-- A unit that counts as moving, and since when. -/
structure Mover where
  unit : Nat
  startMs : UInt32

variable {size : Nat}

def MotionTracker.mover (t : MotionTracker size) (k : Nat) : Mover :=
  ⟨t.unit[k]!, t.startMs[k]!⟩

def MotionTracker.movers (t : MotionTracker size) : List Mover := firsts t.mover t.count

def motionTrackerFull (t : MotionTracker size) (cap : Nat) : Bool :=
  let cap := if cap < MOTION_BUDGET_MIN then MOTION_BUDGET_MIN else cap
  t.count ≥ cap

def motionTrackerAdd (t : MotionTracker size) (unitIndex : Nat) (nowMs : UInt32) :
    MotionTracker size :=
  if h : t.count ≥ size then t
  else
    { unit := t.unit.set! t.count unitIndex
      startMs := t.startMs.set! t.count nowMs
      count := t.count + 1
      count_le := Nat.lt_of_not_le h }

def motionTrackerRemove (t : MotionTracker size) (k : Nat) : MotionTracker size where
  unit := shiftDown t.unit k (t.count - 1 - k)
  startMs := shiftDown t.startMs k (t.count - 1 - k)
  count := t.count - 1
  count_le := Nat.le_trans (Nat.sub_le ..) t.count_le

/-- A poll's reply is folded; true where the slot is retired. -/
def motionTrackerObserve (t : MotionTracker size) (k : Nat) (reply : Int) (nowMs : UInt32) :
    MotionTracker size × Bool :=
  if k ≥ t.count then (t, false)
  else
    let age := nowMs - t.startMs[k]!
    if age < MOTION_START_GRACE_MS then (t, false)
    else
      let moving := reply ≠ 0 ∧ reply ≠ -1
      if moving ∧ age < MOTION_STUCK_MS then (t, false)
      else (motionTrackerRemove t k, true)

theorem motionTrackerFull_iff (t : MotionTracker size) {cap : Nat}
    (hcap : MOTION_BUDGET_MIN ≤ cap) :
    motionTrackerFull t cap = true ↔ cap ≤ t.count := by
  unfold motionTrackerFull
  rw [if_neg (Nat.not_lt.mpr hcap), decide_eq_true_eq]

@[simp] theorem length_movers (t : MotionTracker size) : t.movers.length = t.count :=
  length_firsts t.mover t.count

theorem getElem_movers (t : MotionTracker size) {k : Nat} (h : k < t.movers.length) :
    t.movers[k] = t.mover k :=
  getElem_firsts t.mover h

/-- With room, the unit is counted. -/
theorem movers_add (t : MotionTracker size) (unitIndex : Nat) (nowMs : UInt32)
    (hroom : t.count < size) :
    (motionTrackerAdd t unitIndex nowMs).movers = t.movers ++ [⟨unitIndex, nowMs⟩] := by
  have hfull : ¬t.count ≥ size := Nat.not_le.mpr hroom
  unfold motionTrackerAdd
  rw [dif_neg hfull]
  unfold MotionTracker.movers
  rw [firsts_succ]
  have hcell : ∀ j, MotionTracker.mover
      { unit := t.unit.set! t.count unitIndex, startMs := t.startMs.set! t.count nowMs
        count := t.count + 1, count_le := Nat.lt_of_not_le hfull } j
      = if j = t.count then ⟨unitIndex, nowMs⟩ else t.mover j := by
    intro j
    unfold MotionTracker.mover
    rw [get_set _ hroom, get_set _ hroom]
    split <;> rfl
  congr 1
  · apply firsts_congr
    intro j hj
    rw [hcell, if_neg (Nat.ne_of_lt hj)]
  · rw [hcell, if_pos rfl]

/-- The cells behind the removed one move down; the others stay. -/
theorem movers_remove (t : MotionTracker size) {k : Nat} (hk : k < t.count) :
    (motionTrackerRemove t k).movers = t.movers.eraseIdx k := by
  have hroom : k + (t.count - 1 - k) ≤ size := by
    have := t.count_le
    omega
  have hcell : ∀ j, (motionTrackerRemove t k).mover j
      = if k ≤ j ∧ j < k + (t.count - 1 - k) then t.mover (j + 1) else t.mover j := by
    intro j
    unfold MotionTracker.mover motionTrackerRemove
    dsimp only
    rw [get_shiftDown _ hroom, get_shiftDown _ hroom]
    split <;> rfl
  apply firsts_removed hk
  · intro j hj
    have hbelow : ¬(k ≤ j ∧ j < k + (t.count - 1 - k)) := by omega
    rw [hcell, if_neg hbelow]
  · intro j hj hlast
    have hmoved : k ≤ j ∧ j < k + (t.count - 1 - k) := by omega
    rw [hcell, if_pos hmoved]

/-- What a poll of a counted unit does: it stays, younger than `MOTION_STUCK_MS`, or it
leaves, for one of the two reasons. -/
inductive Observes (t : MotionTracker size) (k : Nat) (reply : Int) (nowMs : UInt32) :
    MotionTracker size → Prop
  | stays (young : nowMs - t.startMs[k]! < MOTION_STUCK_MS) : Observes t k reply nowMs t
  | leaves (started : MOTION_START_GRACE_MS ≤ nowMs - t.startMs[k]!)
      (why : reply = 0 ∨ reply = -1 ∨ MOTION_STUCK_MS ≤ nowMs - t.startMs[k]!) :
      Observes t k reply nowMs (motionTrackerRemove t k)

theorem motionTrackerObserve_does (t : MotionTracker size) {k : Nat} (hk : k < t.count)
    (reply : Int) (nowMs : UInt32) :
    Observes t k reply nowMs (motionTrackerObserve t k reply nowMs).1 := by
  unfold motionTrackerObserve
  rw [if_neg (Nat.not_le.mpr hk)]
  dsimp only
  have hgrace : MOTION_START_GRACE_MS < MOTION_STUCK_MS := by decide
  split
  · next hyoung => exact .stays (UInt32.lt_trans hyoung hgrace)
  · next hstarted =>
      split
      · next hmoves => exact .stays hmoves.2
      · next hrests =>
          refine .leaves (UInt32.not_lt.mp hstarted) ?_
          by_cases hidle : reply = 0
          · exact .inl hidle
          · by_cases hsilent : reply = -1
            · exact .inr (.inl hsilent)
            · exact .inr (.inr (UInt32.not_lt.mp fun h => hrests ⟨⟨hidle, hsilent⟩, h⟩))

/-! ## §2. The budget. -/

structure MotionBudgetState (b : Build) where
  cap : Nat := MOTION_BUDGET_MAX b
  lastChangeMs : UInt32 := 0
  sagEvents : Nat := 0
  lastVminMv : Vector UInt16 MOTION_UNITS_MAX := Vector.replicate MOTION_UNITS_MAX 0

variable {b : Build}

def motionBudgetObserveVmin (m : MotionBudgetState b) (unitIndex : Int) (vminMv : UInt16)
    (nowMs : UInt32) : MotionBudgetState b × Bool :=
  if vminMv = 0 then (m, false)
  else if unitIndex < 0 ∨ unitIndex ≥ MOTION_UNITS_MAX then (m, false)
  else
    let prev := m.lastVminMv[unitIndex.toNat]!
    let m := { m with lastVminMv := m.lastVminMv.set! unitIndex.toNat vminMv }
    if vminMv ≥ MOTION_SAG_LOW_MV then (m, false)
    else if prev ≠ 0 ∧ vminMv ≥ prev then (m, false)
    else
      let halved := m.cap / 2
      ({ m with
          sagEvents := if m.sagEvents < 0xFFFF then m.sagEvents + 1 else m.sagEvents
          cap := if halved < MOTION_BUDGET_MIN then MOTION_BUDGET_MIN else halved
          lastChangeMs := nowMs }, true)

def motionBudgetTick (m : MotionBudgetState b) (nowMs : UInt32) : MotionBudgetState b × Bool :=
  if m.cap ≥ MOTION_BUDGET_MAX b then (m, false)
  else if nowMs - m.lastChangeMs < MOTION_BUDGET_RESTORE_MS then (m, false)
  else ({ m with cap := m.cap + 1, lastChangeMs := nowMs }, true)

/-- A cap a board may move with. -/
def Allowed (b : Build) (cap : Nat) : Prop :=
  MOTION_BUDGET_MIN ≤ cap ∧ cap ≤ MOTION_BUDGET_MAX b

/-- The cap after a sag. -/
theorem halved_allowed {cap : Nat} (hcap : Allowed b cap) :
    Allowed b (if cap / 2 < MOTION_BUDGET_MIN then MOTION_BUDGET_MIN else cap / 2) := by
  split
  · exact ⟨Nat.le_refl _, Nat.le_trans hcap.1 hcap.2⟩
  · next hhalf => exact ⟨Nat.le_of_not_lt hhalf, Nat.le_trans (Nat.div_le_self ..) hcap.2⟩

theorem motionBudgetObserveVmin_allowed {m : MotionBudgetState b} (hcap : Allowed b m.cap)
    (unitIndex : Int) (vminMv : UInt16) (nowMs : UInt32) :
    Allowed b (motionBudgetObserveVmin m unitIndex vminMv nowMs).1.cap := by
  unfold motionBudgetObserveVmin
  dsimp only
  split
  · exact hcap
  · split
    · exact hcap
    · split
      · exact hcap
      · split
        · exact hcap
        · exact halved_allowed hcap

theorem motionBudgetTick_allowed {m : MotionBudgetState b} (hcap : Allowed b m.cap)
    (nowMs : UInt32) : Allowed b (motionBudgetTick m nowMs).1.cap := by
  unfold motionBudgetTick
  split
  · exact hcap
  · next hbelow =>
      split
      · exact hcap
      · exact ⟨Nat.le_succ_of_le hcap.1, Nat.lt_of_not_le hbelow⟩

/-- A cap that was not changed is the one before. -/
theorem motionBudgetObserveVmin_same {m : MotionBudgetState b} {unitIndex : Int}
    {vminMv : UInt16} {nowMs : UInt32}
    (h : (motionBudgetObserveVmin m unitIndex vminMv nowMs).2 = false) :
    (motionBudgetObserveVmin m unitIndex vminMv nowMs).1.cap = m.cap := by
  unfold motionBudgetObserveVmin at h ⊢
  dsimp only at h ⊢
  split_ifs at h ⊢ <;> rfl

theorem motionBudgetTick_same {m : MotionBudgetState b} {nowMs : UInt32}
    (h : (motionBudgetTick m nowMs).2 = false) : (motionBudgetTick m nowMs).1.cap = m.cap := by
  unfold motionBudgetTick at h ⊢
  split_ifs at h ⊢ <;> rfl

/-! ## §3. A pass over the units. -/

/-- A letter, and what the clock read when it was out. -/
structure Command where
  unit : Nat
  since : Nat

def Command.mover (c : Command) : Mover := ⟨c.unit, reading c.since⟩

/-- What was on the bus. -/
inductive Event where
  | letter (c : Command)
  | poll (unit : Nat) (reply : Int) (time : Nat)

inductive Phase where
  | scan
  | waiting
  | slot
  | stopped
  deriving DecidableEq

/-- One call of `unitBusShowFrame`, of `verifyAndResendLetters`, or one of the two loops of
`busShowSegment`. `now` is the time, `history` what the pass did, `polled` when its last
wait began or last polled. -/
structure Pass (b : Build) where
  width : Nat
  now : Nat
  unitIndex : Nat := 0
  phase : Phase := .scan
  movers : MotionTracker (MOTION_TRACK_MAX b) := {}
  history : List Event := []
  polled : Nat := now

/-- A reply, and the time since the poll or the delay before it. -/
structure Poll where
  reply : Int
  after : Nat

/-- `checkIfMoving` of slot `k`, and what the tracker makes of it. -/
def pollMover (p : Pass b) (k : Nat) (q : Poll) : Pass b :=
  { p with
    now := p.now + q.after
    movers := (motionTrackerObserve p.movers k q.reply (reading (p.now + q.after))).1
    history := p.history ++ [.poll p.movers.unit[k]! q.reply (p.now + q.after)] }

/-- `for (k = count - 1; k >= 0; k--)`: as many replies as slots are left. -/
def pollMovers (p : Pass b) : List Poll → Pass b
  | [] => p
  | q :: rest => pollMovers (pollMover p rest.length q) rest

/-- What a pass does next. A `passOver` is a unit that is not driven, or in a resend one that
does not answer or shows its letter; `abort` is the master's; the numbers are the time it
takes, in `round` what the `delay(50)` takes longer. -/
inductive PassAct where
  | passOver (d : Nat)
  | drive (d : Nat)
  | enter
  | abort
  | round (polls : List Poll) (late : Nat)
  | letter (d : Nat)

/-- `waitForMotionSlot` is `drive`, the rounds, and `enter` or `abort`. -/
def passStep (cap : Nat) (p : Pass b) : PassAct → Option (Pass b)
  | .passOver d =>
      if p.phase = .scan ∧ p.unitIndex < p.width then
        some { p with unitIndex := p.unitIndex + 1, now := p.now + d }
      else none
  | .drive d =>
      if p.phase = .scan ∧ p.unitIndex < p.width then
        some { p with phase := .waiting, now := p.now + d, polled := p.now + d }
      else none
  | .enter =>
      if p.phase = .waiting ∧ motionTrackerFull p.movers cap = false then
        some { p with phase := .slot }
      else none
  | .abort =>
      if b = .master ∧ p.phase = .waiting ∧ motionTrackerFull p.movers cap = true then
        some { p with phase := .stopped }
      else none
  | .round polls late =>
      if p.phase = .waiting ∧ motionTrackerFull p.movers cap = true ∧
          polls.length = p.movers.count then
        let p := pollMovers p polls
        some { p with
          polled := p.now
          now := if motionTrackerFull p.movers cap then p.now + 50 + late else p.now }
      else none
  | .letter d =>
      if p.phase = .slot then
        some { p with
          phase := .scan
          unitIndex := p.unitIndex + 1
          now := p.now + d
          movers := motionTrackerAdd p.movers p.unitIndex (reading (p.now + d))
          history := p.history ++ [.letter ⟨p.unitIndex, p.now + d⟩] }
      else none

/-! ## §4. What the tracker counts. -/

def commands (history : List Event) : List Command :=
  history.filterMap fun
    | .letter c => some c
    | .poll .. => none

/-- A poll by which a unit may leave the count. -/
def Event.frees (c : Command) : Event → Bool
  | .letter _ => false
  | .poll unit reply time =>
      unit = c.unit && c.since + MOTION_START_GRACE_MS.toNat ≤ time &&
        (reply = 0 || reply = -1 || c.since + MOTION_STUCK_MS.toNat ≤ time)

def gone (history : List Event) (c : Command) : Bool := history.any (Event.frees c)

@[simp] theorem commands_poll (history : List Event) (unit : Nat) (reply : Int) (time : Nat) :
    commands (history ++ [.poll unit reply time]) = commands history := by
  simp [commands]

@[simp] theorem commands_letter (history : List Event) (c : Command) :
    commands (history ++ [.letter c]) = commands history ++ [c] := by
  simp [commands]

theorem gone_append {history : List Event} {c : Command} (h : gone history c = true)
    (later : List Event) : gone (history ++ later) c = true := by
  unfold gone at h ⊢
  rw [List.any_append, h, Bool.true_or]

theorem gone_poll (history : List Event) {c : Command} {reply : Int} {time : Nat}
    (hstarted : c.since + MOTION_START_GRACE_MS.toNat ≤ time)
    (hwhy : reply = 0 ∨ reply = -1 ∨ c.since + MOTION_STUCK_MS.toNat ≤ time) :
    gone (history ++ [.poll c.unit reply time]) c = true := by
  unfold gone
  rw [List.any_append, Bool.or_eq_true]
  right
  simp only [List.any_cons, List.any_nil, Bool.or_false, Event.frees, decide_true, Bool.true_and,
    Bool.and_eq_true, Bool.or_eq_true, decide_eq_true_eq]
  exact ⟨hstarted, or_assoc.mpr hwhy⟩

/-- The tracker counts `cs`: commands of this pass, all but those gone, the oldest first. -/
structure Counts (cap : Nat) (p : Pass b) (cs : List Command) : Prop where
  tracked : p.movers.movers = cs.map Command.mover
  part : List.Sublist cs (commands p.history)
  rest : ∀ c ∈ commands p.history, c ∈ cs ∨ gone p.history c = true
  ordered : (commands p.history).Pairwise fun c d => c.unit < d.unit ∧ c.since ≤ d.since
  before : ∀ c ∈ commands p.history, c.unit < p.unitIndex ∧ c.since ≤ p.now
  within : cs.length ≤ cap
  free : p.phase = .slot → cs.length < cap

namespace Counts

variable {cap : Nat} {p : Pass b} {cs : List Command}

theorem count (h : Counts cap p cs) : p.movers.count = cs.length := by
  rw [← length_movers, h.tracked, List.length_map]

theorem mover (h : Counts cap p cs) {k : Nat} (hk : k < cs.length) :
    p.movers.mover k = (cs[k]).mover := by
  have hin : k < p.movers.movers.length := by rwa [length_movers, h.count]
  rw [← getElem_movers p.movers hin]
  simp only [h.tracked, List.getElem_map]

theorem full_iff (h : Counts cap p cs) (hcap : Allowed b cap) :
    motionTrackerFull p.movers cap = true ↔ cs.length = cap := by
  rw [motionTrackerFull_iff p.movers hcap.1, h.count]
  have := h.within
  omega

/-- Without a new letter the count shrinks by what is gone. -/
theorem later (h : Counts cap p cs) {p' : Pass b} {cs' : List Command}
    (hcommands : commands p'.history = commands p.history) (hindex : p'.unitIndex = p.unitIndex)
    (hnow : p.now ≤ p'.now) (htracked : p'.movers.movers = cs'.map Command.mover)
    (hpart : List.Sublist cs' cs)
    (hrest : ∀ c ∈ cs, c ∈ cs' ∨ gone p'.history c = true)
    (hgone : ∀ c, gone p.history c = true → gone p'.history c = true)
    (hfree : p'.phase = .slot → cs'.length < cap) : Counts cap p' cs' where
  tracked := htracked
  part := hcommands ▸ hpart.trans h.part
  rest := by
    intro c hc
    rw [hcommands] at hc
    rcases h.rest c hc with hin | hgoes
    · exact hrest c hin
    · exact .inr (hgone c hgoes)
  ordered := hcommands ▸ h.ordered
  before := by
    intro c hc
    rw [hcommands] at hc
    have hbefore := h.before c hc
    exact ⟨hindex ▸ hbefore.1, Nat.le_trans hbefore.2 hnow⟩
  within := Nat.le_trans hpart.length_le h.within
  free := hfree

/-- Nothing was on the bus. -/
theorem idle (h : Counts cap p cs) {p' : Pass b} (hhistory : p'.history = p.history)
    (hmovers : p'.movers = p.movers) (hindex : p'.unitIndex = p.unitIndex) (hnow : p.now ≤ p'.now)
    (hfree : p'.phase = .slot → cs.length < cap) : Counts cap p' cs := by
  apply h.later (congrArg commands hhistory) hindex hnow _ (List.Sublist.refl cs) _ _ hfree
  · rw [hmovers, h.tracked]
  · exact fun c hc => .inl hc
  · exact fun c hgone => hhistory ▸ hgone

/-- One poll: the unit of slot `k` stays, or leaves by it. -/
theorem poll (h : Counts cap p cs) (hwait : p.phase = .waiting) {k : Nat}
    (hk : k < cs.length) (q : Poll) :
    (Counts cap (pollMover p k q) cs ∧
        reading (p.now + q.after) - reading cs[k].since < MOTION_STUCK_MS) ∨
      Counts cap (pollMover p k q) (cs.eraseIdx k) := by
  have hmover := h.mover hk
  have hunit : p.movers.unit[k]! = cs[k].unit := congrArg Mover.unit hmover
  have hstart : p.movers.startMs[k]! = reading cs[k].since := congrArg Mover.startMs hmover
  have hcount : k < p.movers.count := h.count ▸ hk
  have hpast : cs[k].since ≤ p.now + q.after :=
    Nat.le_add_right_of_le (h.before _ (h.part.subset (List.getElem_mem hk))).2
  have hlater : p.now ≤ (pollMover p k q).now := Nat.le_add_right ..
  have hindex : (pollMover p k q).unitIndex = p.unitIndex := rfl
  have hslot : (pollMover p k q).phase = .slot → False := by
    intro hphase
    have : Phase.waiting = .slot := hwait.symm.trans hphase
    exact Phase.noConfusion this
  have hkeeps : ∀ c, gone p.history c = true →
      gone (pollMover p k q).history c = true := fun c hc => gone_append hc _
  have hdoes : Observes p.movers k q.reply (reading (p.now + q.after)) (pollMover p k q).movers :=
    motionTrackerObserve_does p.movers hcount q.reply (reading (p.now + q.after))
  have hsame : commands (pollMover p k q).history = commands p.history := commands_poll ..
  generalize hmovers : (pollMover p k q).movers = t at hdoes
  cases hdoes with
  | stays young =>
      refine .inl ⟨?_, hstart ▸ young⟩
      apply h.later hsame hindex hlater _ (List.Sublist.refl cs) _ hkeeps
        fun hphase => (hslot hphase).elim
      · rw [hmovers, h.tracked]
      · exact fun c hc => .inl hc
  | leaves started why =>
      rw [hstart] at started why
      right
      apply h.later hsame hindex hlater _ (List.eraseIdx_sublist ..) _ hkeeps
        fun hphase => (hslot hphase).elim
      · rw [hmovers, movers_remove _ hcount, h.tracked, List.eraseIdx_map]
      · intro c hc
        by_cases hself : c = cs[k]
        · right
          subst hself
          have hwhy : q.reply = 0 ∨ q.reply = -1 ∨
              cs[k].since + MOTION_STUCK_MS.toNat ≤ p.now + q.after :=
            why.imp_right fun hlate => hlate.imp_right fun hold => waited hpast hold
          have hfreed := gone_poll p.history (c := cs[k]) (waited hpast started) hwhy
          rw [← hunit] at hfreed
          exact hfreed
        · left
          obtain ⟨j, hj, hget⟩ := List.getElem_of_mem hc
          refine List.mem_eraseIdx_iff_getElem.mpr ⟨j, hj, ?_, hget⟩
          rintro rfl
          exact hself hget.symm

/-- The polls of a round. Where no unit leaves, the last poll found the oldest one younger
than `MOTION_STUCK_MS`. -/
theorem polls (h : Counts cap p cs) (hwait : p.phase = .waiting) {qs : List Poll}
    (hlen : qs.length ≤ cs.length) :
    ∃ cs', Counts cap (pollMovers p qs) cs' ∧ List.Sublist cs' cs ∧
      (cs'.length = cs.length → qs ≠ [] → ∀ c, cs.head? = some c →
        reading (pollMovers p qs).now - reading c.since < MOTION_STUCK_MS) := by
  induction qs generalizing p cs with
  | nil => exact ⟨cs, h, List.Sublist.refl cs, fun _ hsome => absurd rfl hsome⟩
  | cons q qs ih =>
      have hk : qs.length < cs.length := hlen
      have hwait' : (pollMover p qs.length q).phase = .waiting := hwait
      rcases h.poll hwait hk q with ⟨hstays, hyoung⟩ | hleaves
      · obtain ⟨cs', hcounts, hpart, hlast⟩ := ih hstays hwait' (Nat.le_of_lt hk)
        refine ⟨cs', hcounts, hpart, ?_⟩
        intro hsame _ c hc
        cases qs with
        | nil =>
            -- the last poll is the one of slot 0
            have hfirst : cs[0] = c := by
              rw [List.head?_eq_getElem?, List.getElem?_eq_some_iff] at hc
              exact hc.2
            rw [← hfirst]
            exact hyoung
        | cons q' qs => exact hlast hsame (List.cons_ne_nil _ _) c hc
      · have hshort : (cs.eraseIdx qs.length).length = cs.length - 1 :=
          List.length_eraseIdx_of_lt hk
        have hlen' : qs.length ≤ (cs.eraseIdx qs.length).length := by omega
        obtain ⟨cs', hcounts, hpart, -⟩ := ih hleaves hwait' hlen'
        refine ⟨cs', hcounts, hpart.trans (List.eraseIdx_sublist ..), ?_⟩
        intro hsame
        have hle := hpart.length_le
        omega

/-- The letter goes out: the unit is counted, for there is room. -/
theorem letter (h : Counts cap p cs) (hcap : Allowed b cap) (hslot : p.phase = .slot) (d : Nat) :
    ∃ p', passStep cap p (.letter d) = some p' ∧
      Counts cap p' (cs ++ [⟨p.unitIndex, p.now + d⟩]) := by
  refine ⟨_, if_pos hslot, ?_⟩
  have hfree := h.free hslot
  have hroom : p.movers.count < MOTION_TRACK_MAX b := by
    rw [h.count]
    exact Nat.lt_of_lt_of_le hfree hcap.2
  constructor
  · show (motionTrackerAdd _ _ _).movers = _
    rw [movers_add _ _ _ hroom, h.tracked, List.map_append]
    rfl
  · rw [commands_letter]
    exact h.part.append (List.Sublist.refl _)
  · intro c hc
    rw [commands_letter, List.mem_append] at hc
    rcases hc with hc | hc
    · rcases h.rest c hc with hin | hgone
      · exact .inl (List.mem_append_left _ hin)
      · exact .inr (gone_append hgone _)
    · exact .inl (List.mem_append_right _ hc)
  · rw [commands_letter, List.pairwise_append]
    refine ⟨h.ordered, List.pairwise_singleton .., ?_⟩
    intro c hc e he
    rw [List.mem_singleton.mp he]
    have hbefore := h.before c hc
    exact ⟨hbefore.1, Nat.le_add_right_of_le hbefore.2⟩
  · intro c hc
    rw [commands_letter, List.mem_append] at hc
    rcases hc with hc | hc
    · have hbefore := h.before c hc
      exact ⟨Nat.lt_succ_of_lt hbefore.1, Nat.le_add_right_of_le hbefore.2⟩
    · rw [List.mem_singleton.mp hc]
      exact ⟨Nat.lt_succ_self _, Nat.le_refl _⟩
  · rw [List.length_append]
    exact hfree
  · exact fun hphase => Phase.noConfusion hphase

end Counts

variable {cap : Nat} {p p' : Pass b} {cs : List Command}

theorem pollMovers_phase (p : Pass b) (qs : List Poll) : (pollMovers p qs).phase = p.phase := by
  induction qs generalizing p with
  | nil => rfl
  | cons q qs ih => exact ih (pollMover p qs.length q)

/-- A round of a wait. A wait that is full after it found the oldest unit younger than
`MOTION_STUCK_MS`, and counts what it did. -/
theorem round_does (h : Counts cap p cs) (hcap : Allowed b cap) {qs : List Poll} {late : Nat}
    (hstep : passStep cap p (.round qs late) = some p') :
    p'.phase = .waiting ∧ p'.polled = (pollMovers p qs).now ∧ ∃ cs', Counts cap p' cs' ∧
      (motionTrackerFull p'.movers cap = true → cs' = cs ∧
        ∀ c, cs.head? = some c → reading p'.polled - reading c.since < MOTION_STUCK_MS) := by
  unfold passStep at hstep
  obtain ⟨⟨hwait, hfull, hlen⟩, heq⟩ := Option.ite_none_right_eq_some.mp hstep
  rw [h.count] at hlen
  obtain ⟨cs', hcounts, hpart, hlast⟩ := h.polls hwait (Nat.le_of_eq hlen)
  cases heq
  have hphase : (pollMovers p qs).phase = .waiting := (pollMovers_phase p qs).trans hwait
  refine ⟨hphase, rfl, cs', ?_, ?_⟩
  · refine hcounts.idle rfl rfl rfl ?_ fun hslot => Phase.noConfusion (hphase.symm.trans hslot)
    show (pollMovers p qs).now ≤ if _ then _ else _
    split
    · exact Nat.le_add_right_of_le (Nat.le_add_right ..)
    · exact Nat.le_refl _
  · intro hstill
    have hall : cs.length = cap := (h.full_iff hcap).mp hfull
    have hsame : cs'.length = cs.length := ((hcounts.full_iff hcap).mp hstill).trans hall.symm
    refine ⟨hpart.eq_of_length hsame, hlast hsame ?_⟩
    intro hnone
    rw [hnone, hall, List.length_nil] at hlen
    have hmin : 1 ≤ cap := hcap.1
    omega

/-- What a pass does keeps the count. -/
theorem passStep_counts (h : Counts cap p cs) (hcap : Allowed b cap) {a : PassAct}
    (hstep : passStep cap p a = some p') : ∃ cs', Counts cap p' cs' := by
  cases a with
  | passOver d =>
      unfold passStep at hstep
      obtain ⟨⟨hphase, -⟩, heq⟩ := Option.ite_none_right_eq_some.mp hstep
      cases heq
      refine ⟨cs, { h with before := ?_ }⟩
      intro c hc
      have hbefore := h.before c hc
      exact ⟨Nat.lt_succ_of_lt hbefore.1, Nat.le_add_right_of_le hbefore.2⟩
  | drive d =>
      unfold passStep at hstep
      obtain ⟨-, heq⟩ := Option.ite_none_right_eq_some.mp hstep
      cases heq
      exact ⟨cs, h.idle rfl rfl rfl (Nat.le_add_right ..) fun hphase => Phase.noConfusion hphase⟩
  | enter =>
      unfold passStep at hstep
      obtain ⟨⟨-, hroom⟩, heq⟩ := Option.ite_none_right_eq_some.mp hstep
      cases heq
      refine ⟨cs, h.idle rfl rfl rfl (Nat.le_refl _) ?_⟩
      intro _
      apply Nat.lt_of_le_of_ne h.within
      intro heq
      rw [(h.full_iff hcap).mpr heq] at hroom
      exact Bool.noConfusion hroom
  | abort =>
      unfold passStep at hstep
      obtain ⟨-, heq⟩ := Option.ite_none_right_eq_some.mp hstep
      cases heq
      exact ⟨cs, h.idle rfl rfl rfl (Nat.le_refl _) fun hphase => Phase.noConfusion hphase⟩
  | round qs late =>
      obtain ⟨-, -, cs', hcounts, -⟩ := round_does h hcap hstep
      exact ⟨cs', hcounts⟩
  | letter d =>
      have hslot : p.phase = .slot := (Option.ite_none_right_eq_some.mp hstep).1
      obtain ⟨q, hq, hcounts⟩ := h.letter hcap hslot d
      rw [hstep] at hq
      exact ⟨_, Option.some.inj hq ▸ hcounts⟩

/-! ## §5. How long a wait lasts. -/

/-- Of the commands that are counted, the first. -/
structure Oldest (p : Pass b) (c : Command) : Prop where
  sent : c ∈ commands p.history
  counted : c.mover ∈ p.movers.movers
  first : ∀ d ∈ commands p.history, d.mover ∈ p.movers.movers → c.since ≤ d.since

/-- The round's last poll is at most `P` ms after the last poll of the round before, or the
start of the wait. -/
def Prompt (P : Nat) (p : Pass b) : PassAct → Prop
  | .round qs _ => (pollMovers p qs).now ≤ p.polled + P
  | _ => True

/-- No unit has two commands in a pass. -/
theorem Counts.unit_inj (h : Counts cap p cs) {c d : Command} (hc : c ∈ commands p.history)
    (hd : d ∈ commands p.history) (heq : c.unit = d.unit) : c = d := by
  have hforth : (commands p.history).Pairwise fun c d => c.unit = d.unit → c = d :=
    h.ordered.imp fun hlt hsame => absurd hsame (Nat.ne_of_lt hlt.1)
  have hback : (commands p.history).Pairwise (flip fun c d => c.unit = d.unit → c = d) :=
    h.ordered.imp fun hlt hsame => absurd hsame.symm (Nat.ne_of_lt hlt.1)
  exact List.Pairwise.forall_of_forall_of_flip (fun _ _ _ => rfl) hforth hback hc hd heq

/-- The oldest stands in slot 0. -/
theorem Oldest.head {c : Command} (hold : Oldest p c) (h : Counts cap p cs) :
    ∃ d, cs.head? = some d ∧ d.since = c.since := by
  have hin : c ∈ cs := by
    have hcounted := hold.counted
    rw [h.tracked, List.mem_map] at hcounted
    obtain ⟨d, hd, hsame⟩ := hcounted
    have hunit : d.unit = c.unit := congrArg Mover.unit hsame
    exact h.unit_inj (h.part.subset hd) hold.sent hunit ▸ hd
  cases cs with
  | nil => exact absurd hin List.not_mem_nil
  | cons d rest =>
      have hsorted := h.ordered.sublist h.part
      refine ⟨d, rfl, Nat.le_antisymm ?_ ?_⟩
      · rcases List.mem_cons.mp hin with rfl | hlater
        · exact Nat.le_refl _
        · exact (List.rel_of_pairwise_cons hsorted hlater).2
      · apply hold.first d (h.part.subset (List.mem_cons_self ..))
        rw [h.tracked]
        exact List.mem_cons_self ..

theorem pollMovers_now (p : Pass b) (qs : List Poll) : p.now ≤ (pollMovers p qs).now := by
  induction qs generalizing p with
  | nil => exact Nat.le_refl _
  | cons q qs ih => exact Nat.le_trans (Nat.le_add_right ..) (ih (pollMover p qs.length q))

/-- The rounds of a wait. -/
def rounds (rs : List (List Poll × Nat)) : List PassAct := rs.map fun r => .round r.1 r.2

/-- A wait that is not over found the oldest younger than `MOTION_STUCK_MS`, as the clock
of 32 bits has it. -/
theorem wait_young (h : Counts cap p cs) (hcap : Allowed b cap) {c : Command}
    (hhead : cs.head? = some c) {rs : List (List Poll × Nat)} (hsome : rs ≠ [])
    (hrun : run (passStep cap) p (rounds rs) = some p')
    (hfull : motionTrackerFull p'.movers cap = true) :
    reading p'.polled - reading c.since < MOTION_STUCK_MS := by
  induction rs generalizing p cs with
  | nil => exact absurd rfl hsome
  | cons r rs ih =>
      obtain ⟨m, hm, hrest⟩ := Option.bind_eq_some_iff.mp hrun
      obtain ⟨-, -, cs', hcounts, hstill⟩ := round_does h hcap hm
      cases rs with
      | nil =>
          cases hrest
          exact (hstill hfull).2 c hhead
      | cons r' rs =>
          -- another round is only made where this one left the tracker full
          obtain ⟨m', hm', -⟩ := Option.bind_eq_some_iff.mp hrest
          have hmfull : motionTrackerFull m.movers cap = true :=
            (Option.ite_none_right_eq_some.mp hm').1.2.1
          obtain ⟨rfl, -⟩ := hstill hmfull
          exact ih hcounts hhead (List.cons_ne_nil _ _) hrest

/-- With rounds that follow within `P`, the wait is over within `P` of the time the oldest is
`MOTION_STUCK_MS` old, or of its start. -/
theorem wait_ends (h : Counts cap p cs) (hcap : Allowed b cap) {c : Command}
    (hhead : cs.head? = some c) {P stuck : Nat} (hstuck : stuck = MOTION_STUCK_MS.toNat)
    (hround : stuck + P < 2 ^ 32) (hstart : p.polled + P < c.since + 2 ^ 32)
    {rs : List (List Poll × Nat)} (hprompt : AllMeet (Prompt P) (passStep cap) p (rounds rs))
    (hrun : run (passStep cap) p (rounds rs) = some p') :
    p'.polled ≤ max p.polled (c.since + stuck) + P := by
  induction rs generalizing p cs with
  | nil =>
      cases hrun
      omega
  | cons r rs ih =>
      obtain ⟨m, hm, hrest⟩ := Option.bind_eq_some_iff.mp hrun
      obtain ⟨-, hpolled, cs', hcounts, hstill⟩ := round_does h hcap hm
      have hsoon : m.polled ≤ p.polled + P := hpolled ▸ hprompt.1
      cases rs with
      | nil =>
          cases hrest
          omega
      | cons r' rs =>
          obtain ⟨m', hm', -⟩ := Option.bind_eq_some_iff.mp hrest
          have hmfull : motionTrackerFull m.movers cap = true :=
            (Option.ite_none_right_eq_some.mp hm').1.2.1
          obtain ⟨rfl, hyoung⟩ := hstill hmfull
          have hpast : c.since ≤ m.polled := by
            have hsent := h.before c (h.part.subset (List.mem_of_mem_head? hhead))
            rw [hpolled]
            exact Nat.le_trans hsent.2 (pollMovers_now p r.1)
          have hnear : m.polled < c.since + 2 ^ 32 := Nat.lt_of_le_of_lt hsoon hstart
          have hage : m.polled - c.since < stuck := by
            rw [← elapsed_near hpast hnear, hstuck]
            exact UInt32.lt_iff_toNat_lt.mp (hyoung c hhead)
          have hthen := ih hcounts hhead (by omega) (hprompt.2 m hm) hrest
          omega

/-! ## §6. A board: frames, and the budget between them. -/

/-- `motionCap` is the copy `UnitBus.cpp` holds on a master; a row reads its budget. -/
structure Motion (b : Build) where
  motionBudget : MotionBudgetState b := {}
  motionCap : Nat := MOTION_BUDGET_MAX b
  pass : Option (Pass b) := none

def Motion.capInUse (s : Motion b) : Nat :=
  if b = .master then s.motionCap else s.motionBudget.cap

def unitBusSetMotionCap (s : Motion b) (cap : Nat) : Motion b := { s with motionCap := cap }

/-- `vitals` is the unit's `vccMin_mV`, where it has reported one. -/
def motionBudgetFold (s : Motion b) (i : Int) (vitals : Option UInt16) (now : UInt32) : Motion b :=
  let seen :=
    match vitals with
    | some vccMin_mV => motionBudgetObserveVmin s.motionBudget i vccMin_mV now
    | none => (s.motionBudget, false)
  if seen.2 then unitBusSetMotionCap { s with motionBudget := seen.1 } seen.1.cap
  else
    let ticked := motionBudgetTick seen.1 now
    let s := { s with motionBudget := ticked.1 }
    if ticked.2 then unitBusSetMotionCap s ticked.1.cap else s

/-- One task does all of it: the budget does not move within a pass. -/
inductive Act where
  | fold (i : Int) (vitals : Option UInt16) (nowMs : UInt32)
  | start (width now : Nat)
  | pass (a : PassAct)
  | done

def step (s : Motion b) : Act → Option (Motion b)
  | .fold i vitals nowMs =>
      match s.pass with
      | none => some (motionBudgetFold s i vitals nowMs)
      | some _ => none
  | .start width now =>
      match s.pass with
      | none =>
          if width ≤ MOTION_UNITS_MAX then some { s with pass := some { width, now } } else none
      | some _ => none
  | .pass a =>
      match s.pass with
      | none => none
      | some p => (passStep s.capInUse p a).map fun p => { s with pass := some p }
  | .done =>
      match s.pass with
      | none => none
      | some p =>
          if p.phase = .stopped ∨ (p.phase = .scan ∧ p.unitIndex = p.width) then
            some { s with pass := none }
          else none

/-- The cap is allowed, both copies of it agree, and the tracker counts. -/
structure Held (s : Motion b) : Prop where
  allowed : Allowed b s.motionBudget.cap
  copy : s.motionCap = s.motionBudget.cap
  counts : ∀ p, s.pass = some p → ∃ cs, Counts s.capInUse p cs

theorem Held.cap_eq {s : Motion b} (h : Held s) : s.capInUse = s.motionBudget.cap := by
  unfold Motion.capInUse
  split
  · exact h.copy
  · rfl

theorem Held.cap_allowed {s : Motion b} (h : Held s) : Allowed b s.capInUse := h.cap_eq ▸ h.allowed

theorem held_boot (b : Build) : Held ({} : Motion b) where
  allowed := by cases b <;> exact ⟨by decide, by decide⟩
  copy := rfl
  counts := fun _ hp => nomatch hp

theorem Held.fold {s : Motion b} (h : Held s) (hnone : s.pass = none) (i : Int)
    (vitals : Option UInt16) (nowMs : UInt32) : Held (motionBudgetFold s i vitals nowMs) := by
  have hseen : ∀ seen : MotionBudgetState b × Bool, Allowed b seen.1.cap →
      (seen.2 = false → seen.1.cap = s.motionBudget.cap) →
      Held (if seen.2 then unitBusSetMotionCap { s with motionBudget := seen.1 } seen.1.cap
        else
          if (motionBudgetTick seen.1 nowMs).2 then
            unitBusSetMotionCap { s with motionBudget := (motionBudgetTick seen.1 nowMs).1 }
              (motionBudgetTick seen.1 nowMs).1.cap
          else { s with motionBudget := (motionBudgetTick seen.1 nowMs).1 }) := by
    intro seen hallowed hsame
    have hticked := motionBudgetTick_allowed hallowed nowMs
    split
    · exact ⟨hallowed, rfl, fun p hp => nomatch hnone.symm.trans hp⟩
    · next hquiet =>
        split
        · exact ⟨hticked, rfl, fun p hp => nomatch hnone.symm.trans hp⟩
        · next hrest =>
            refine ⟨hticked, ?_, fun p hp => nomatch hnone.symm.trans hp⟩
            show s.motionCap = _
            rw [motionBudgetTick_same ((Bool.not_eq_true _).mp hrest), h.copy,
              hsame ((Bool.not_eq_true _).mp hquiet)]
  cases vitals with
  | none => exact hseen (s.motionBudget, false) h.allowed fun _ => rfl
  | some vccMin_mV =>
      exact hseen _ (motionBudgetObserveVmin_allowed h.allowed i vccMin_mV nowMs)
        motionBudgetObserveVmin_same

theorem held_step {s s' : Motion b} {a : Act} (h : Held s) (hstep : step s a = some s') :
    Held s' := by
  unfold step at hstep
  cases a with
  | fold i vitals nowMs =>
      cases hpass : s.pass with
      | none =>
          simp only [hpass, Option.some.injEq] at hstep
          exact hstep ▸ h.fold hpass i vitals nowMs
      | some p => simp [hpass] at hstep
  | start width now =>
      cases hpass : s.pass with
      | none =>
          simp only [hpass] at hstep
          obtain ⟨-, heq⟩ := Option.ite_none_right_eq_some.mp hstep
          cases heq
          refine ⟨h.allowed, h.copy, ?_⟩
          intro p hp
          cases hp
          exact ⟨[], rfl, List.Sublist.refl _, (fun _ hc => nomatch hc), List.Pairwise.nil,
            (fun _ hc => nomatch hc), Nat.zero_le _, fun hslot => nomatch hslot⟩
      | some p => simp [hpass] at hstep
  | pass a =>
      cases hpass : s.pass with
      | none => simp [hpass] at hstep
      | some p =>
          simp only [hpass] at hstep
          obtain ⟨p', hp', heq⟩ := Option.map_eq_some_iff.mp hstep
          cases heq
          obtain ⟨cs, hcounts⟩ := h.counts p hpass
          refine ⟨h.allowed, h.copy, ?_⟩
          intro q hq
          cases hq
          exact passStep_counts hcounts h.cap_allowed hp'
  | done =>
      cases hpass : s.pass with
      | none => simp [hpass] at hstep
      | some p =>
          simp only [hpass] at hstep
          obtain ⟨-, heq⟩ := Option.ite_none_right_eq_some.mp hstep
          cases heq
          exact ⟨h.allowed, h.copy, fun _ hp => nomatch hp⟩

theorem held_run {s : Motion b} {as : List Act} (hrun : run step {} as = some s) : Held s :=
  run_invariant (fun _ _ _ => held_step) (held_boot b) hrun

/-- The commands that are not gone are counted. -/
theorem Counts.moving_le (h : Counts cap p cs) :
    ((commands p.history).filter fun c => !gone p.history c).length ≤ cs.length := by
  have hdistinct : ((commands p.history).filter fun c => !gone p.history c).Nodup := by
    apply List.Nodup.filter
    exact h.ordered.imp fun hlt heq => absurd (congrArg Command.unit heq) (Nat.ne_of_lt hlt.1)
  apply (hdistinct.subperm _).length_le
  intro c hc
  have hmem := List.mem_filter.mp hc
  rcases h.rest c hmem.1 with hin | hgone
  · exact hin
  · rw [hgone] at hmem
    exact absurd hmem.2 Bool.false_ne_true

/-- The cap stays within its bounds. At every letter fewer units than the cap are counted, and
every unit that had a letter in the pass is counted unless a poll freed it; so fewer than the
cap of them were not freed. A wait is over with the first round that finds the oldest
`MOTION_STUCK_MS` old: with rounds that follow within `P`, within `P` of that time. -/
theorem motion_admission (b : Build) {as : List Act} {s : Motion b}
    (hrun : run step {} as = some s) :
    Allowed b s.capInUse ∧ ∀ p, s.pass = some p →
      (∃ cs, p.movers.movers = cs.map Command.mover ∧ List.Sublist cs (commands p.history) ∧
        ∀ c ∈ commands p.history, c ∈ cs ∨ gone p.history c = true) ∧
      (∀ d p', passStep s.capInUse p (.letter d) = some p' → p.movers.count < s.capInUse ∧
        ((commands p.history).filter fun c => !gone p.history c).length < s.capInUse) ∧
      ∀ c, Oldest p c → ∀ rs p', run (passStep s.capInUse) p (rounds rs) = some p' →
        (rs ≠ [] → motionTrackerFull p'.movers s.capInUse = true →
          reading p'.polled - reading c.since < MOTION_STUCK_MS) ∧
        ∀ P, AllMeet (Prompt P) (passStep s.capInUse) p (rounds rs) →
          MOTION_STUCK_MS.toNat + P < 2 ^ 32 → p.polled + P < c.since + 2 ^ 32 →
          p'.polled ≤ max p.polled (c.since + MOTION_STUCK_MS.toNat) + P := by
  have hheld := held_run hrun
  refine ⟨hheld.cap_allowed, ?_⟩
  intro p hp
  obtain ⟨cs, hcounts⟩ := hheld.counts p hp
  refine ⟨⟨cs, hcounts.tracked, hcounts.part, hcounts.rest⟩, ?_, ?_⟩
  · intro d p' hletter
    have hfree := hcounts.free (Option.ite_none_right_eq_some.mp hletter).1
    exact ⟨hcounts.count ▸ hfree, Nat.lt_of_le_of_lt hcounts.moving_le hfree⟩
  · intro c hold rs p' hrs
    obtain ⟨d, hhead, hsame⟩ := hold.head hcounts
    rw [← hsame]
    constructor
    · intro hsome hfull
      exact wait_young hcounts hheld.cap_allowed hhead hsome hrs hfull
    · intro P hprompt hround hstart
      exact wait_ends hcounts hheld.cap_allowed hhead rfl hround hstart hprompt hrs

/-- A frame of five units on a master: four letters, and the wait before the fifth. -/
def frame : List Act :=
  .start 5 0 ::
    ((List.replicate 4 [.pass (.drive 0), .pass .enter, .pass (.letter 2)]).flatten ++
      [.pass (.drive 0)])

theorem motion_admission_frame :
    ∃ s, run step ({} : Motion .master) frame = some s ∧ Allowed .master s.capInUse ∧
      ∀ p, s.pass = some p → ∀ d p', passStep s.capInUse p (.letter d) = some p' →
        p.movers.count < s.capInUse := by
  obtain ⟨s, hs⟩ : ∃ s, run step ({} : Motion .master) frame = some s := ⟨_, rfl⟩
  have hadmitted := motion_admission .master hs
  exact ⟨s, hs, hadmitted.1, fun p hp d p' hletter => ((hadmitted.2 p hp).2.1 d p' hletter).1⟩

/-- The pass of `frame` where it waits. -/
def fifthUnit : Pass .master where
  width := 5
  now := 8
  unitIndex := 4
  phase := .waiting
  movers := { unit := #v[0, 1, 2, 3], startMs := #v[2, 4, 6, 8], count := 4, count_le := by decide }
  history := [.letter ⟨0, 2⟩, .letter ⟨1, 4⟩, .letter ⟨2, 6⟩, .letter ⟨3, 8⟩]

/-- Four units that move on and on, polled every 54 ms: the round at 19990 ms finds the
oldest too young, and the wait lasts until the next. -/
theorem wait_outlasts_stuck :
    ∃ s p', run step ({} : Motion .master) frame = some s ∧ s.pass = some fifthUnit ∧
      Oldest fifthUnit ⟨0, 2⟩ ∧
      run (passStep s.capInUse) fifthUnit
        (rounds (List.replicate 372 (List.replicate 4 ⟨1, 1⟩, 0))) = some p' ∧
      motionTrackerFull p'.movers s.capInUse = false ∧
      2 + MOTION_STUCK_MS.toNat < p'.polled := by
  have hwait : ((run (passStep 4) fifthUnit
      (rounds (List.replicate 372 (List.replicate 4 ⟨1, 1⟩, 0)))).map
        fun p' => (motionTrackerFull p'.movers 4, p'.polled)) = some (false, 20046) := by
    decide +kernel
  obtain ⟨p', hp', heq⟩ := Option.map_eq_some_iff.mp hwait
  obtain ⟨hroom, hpolled⟩ := Prod.mk.inj heq
  have hlast : 2 + MOTION_STUCK_MS.toNat < p'.polled := by
    rw [hpolled]
    decide
  refine ⟨⟨{}, 4, some fifthUnit⟩, p', rfl, rfl, ⟨?_, ?_, ?_⟩, hp', hroom, hlast⟩
  · exact List.mem_cons_self ..
  · exact List.mem_cons_self ..
  · intro d hd _
    show 2 ≤ d.since
    rcases List.mem_cons.mp hd with rfl | hd
    · exact Nat.le_refl _
    · have hrest : ∀ d ∈ [Command.mk 1 4, ⟨2, 6⟩, ⟨3, 8⟩], 2 ≤ d.since := by simp
      exact hrest d hd

end SplitFlap.MotionAdmission
