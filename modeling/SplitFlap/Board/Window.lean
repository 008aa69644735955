/-
  SplitFlap.Board.Window — a board, its clock and its bootloader window.

  A unit that is sent through its bootloader sits there for about a second.  A
  byte that reaches it in that time is read as a bootloader command, and a
  query can pin the bootloader alive, so the board keeps off the bus for
  UNIT_PROBE_INHIBIT_MS: it stores a 32-bit deadline and whoever wants the bus
  compares it with `millis()`.

  Both boards have this window, `twibootRiskUntilMs` on the master and
  `probeInhibitUntilMs` on a row board; they compare it the other way round.
  The clock of this model is the true time since the start, unbounded.
-/
import Mathlib.Algebra.Group.Int.Defs
import Mathlib.Algebra.Group.Nat.Defs
import Mathlib.Data.List.Infix
import SplitFlap.Lib.Task
import SplitFlap.Unit.Facts

namespace SplitFlap.Bus

open TaskM

abbrev UNITS_AMOUNT : Nat := 16
abbrev SFP_I2C_ADDRESS_BASE : Nat := 1
abbrev UNIT_PROBE_INHIBIT_MS : Nat := 3000

/-! ## §1. A board and what it records. -/

/-- The opcodes of the sketch protocol that are followed by a reply or by a
restart, and the other things a board puts on the bus. -/
inductive UnitMsg
  | empty
  | rotation
  | letter (letter speed : UInt8)
  | chipinfo
  | version
  | exit
  | query (opcode : UInt8)
  | command (opcode : UInt8)
  deriving DecidableEq

/-- What holds itself back in a bootloader window. -/
inductive Waiting
  | frame
  | heartbeat
  | reshow
  | probe
  | rescan
  | settleRead
  | rowMoving
  deriving DecidableEq

/-- What happened on a board, newest first in its log.  `acted` is the unit's
doing: it took an order that sends it through its bootloader and may answer at
these addresses, `dump` when the boot-section dump sent the order.  `own` is an
exchange of a dump, an update or a reflash with its unit. -/
inductive BoardEvent
  | armed (t : Nat)
  | looked (what : Waiting) (held : Bool) (t : Nat)
  | acted (dump : Bool) (addrs : List Nat) (acked : Bool) (t : Nat)
  | began (addrs : List Nat) (t : Nat)
  | sent (msg : UnitMsg) (addr : Nat) (t : Nat)
  | own (t : Nat)
  deriving DecidableEq

/-- A board: the time since its start, the deadline, what it knows of its
units, and `own`, what only this kind of board keeps. -/
structure Board (ρ : Type) where
  now : Nat := 0
  inhibitUntilMs : UInt32 := 0
  units : Vector UnitFacts UNITS_AMOUNT := Vector.replicate UNITS_AMOUNT {}
  displayWidth : Nat := UNITS_AMOUNT
  lastFrameValid : Bool := false
  motionCap : Nat := 4
  own : ρ
  log : List BoardEvent := []

/-- What the outside answers: the time that went by first, whether it was
acknowledged or passed its checks, what was read, the addresses at which a unit
that acted on an order may be reached, what a job that is not followed here
leaves the board knowing of its units, and the next piece of work. -/
structure Answer (κ : Type) where
  ms : Nat := 0
  ok : Bool := true
  value : Nat := 0
  stop : Bool := false
  acts : Option (List Nat) := none
  identity : TwibootIdentity := {}
  units : Option (Vector UnitFacts UNITS_AMOUNT) := none
  next : Option κ := none

abbrev BoardTask (ρ κ β : Type) := TaskM (Board ρ) (Answer κ) β

variable {ρ κ β : Type}

/-- `millis()`: the true time in 32 bits. -/
def Board.millis (b : Board ρ) : UInt32 := UInt32.ofNat b.now

def Board.note (b : Board ρ) (e : Nat → BoardEvent) : Board ρ :=
  { b with log := e b.now :: b.log }

def Board.pass (b : Board ρ) (ms : Nat) : Board ρ := { b with now := b.now + ms }

/-- `twibootRiskUntilMs = millis() + UNIT_PROBE_INHIBIT_MS`. -/
def Board.arm (b : Board ρ) : Board ρ :=
  ({ b with inhibitUntilMs := b.millis + UInt32.ofNat UNIT_PROBE_INHIBIT_MS }).note .armed

/-! ## §2. What a task can do. -/

def millis : BoardTask ρ κ UInt32 := do
  let b ← get
  pure b.millis

def note (e : Nat → BoardEvent) : BoardTask ρ κ Unit := modify fun b => b.note e

/-- Anything asked of the outside takes its time. -/
def outside : BoardTask ρ κ (Answer κ) := do
  let a ← ask
  modify fun b => b.pass a.ms
  pure a

def delay (ms : Nat) : BoardTask ρ κ Unit := do
  let _ ← outside
  modify fun b => b.pass ms

/-- One transaction on the bus. -/
def transact (msg : UnitMsg) (addr : Nat) : BoardTask ρ κ (Answer κ) := do
  let a ← outside
  note (.sent msg addr)
  pure a

/-- The unit's part in an order that sends it through its bootloader: whether
it acts on it does not follow from its acknowledgement. -/
def unitActs (dump : Bool) (a : Answer κ) : BoardTask ρ κ Unit :=
  match a.acts with
  | some addrs => note (.acted dump addrs a.ok)
  | none => pure ()

/-- An order that sends the unit through its bootloader; true when acknowledged. -/
def order (opcode : UInt8) (addr : Nat) : BoardTask ρ κ Bool := do
  let a ← transact (.command opcode) addr
  unitActs false a
  pure a.ok

def armWindow : BoardTask ρ κ Unit := modify Board.arm

/-- One look at the deadline. -/
def look (held : UInt32 → UInt32 → Bool) (what : Waiting) : BoardTask ρ κ Bool := do
  let b ← get
  note (.looked what (held b.inhibitUntilMs b.millis))
  pure (held b.inhibitUntilMs b.millis)

/-- `(int32_t)(twibootRiskUntilMs - millis()) > 0`. -/
def twibootRiskHeld (untilMs nowMs : UInt32) : Bool := decide (0 < (untilMs - nowMs).toInt32)

/-- `(int32_t)(millis() - busProbeInhibitedUntilMs()) < 0`. -/
def probeInhibitHeld (untilMs nowMs : UInt32) : Bool := decide ((nowMs - untilMs).toInt32 < 0)

/-! ## §3. The deadline in true time. -/

/-- When the window was last armed. -/
def lastArmed : List BoardEvent → Option Nat
  | [] => none
  | .armed t :: _ => some t
  | .looked .. :: rest => lastArmed rest
  | .acted .. :: rest => lastArmed rest
  | .began .. :: rest => lastArmed rest
  | .sent .. :: rest => lastArmed rest
  | .own .. :: rest => lastArmed rest

/-- The stored deadline: 0 before the first arming. -/
def deadline : Option Nat → UInt32
  | none => 0
  | some t => UInt32.ofNat t + UInt32.ofNat UNIT_PROBE_INHIBIT_MS

/-- How long ago the window was armed; a board that never armed it stands as if
it had UNIT_PROBE_INHIBIT_MS before its start. -/
def sinceArmed (armed : Option Nat) (t : Nat) : Nat :=
  match armed with
  | none => t + UNIT_PROBE_INHIBIT_MS
  | some a => t - a

/-- `held` tells the first UNIT_PROBE_INHIBIT_MS after an arming, and
everything from `edge` on, modulo 2^32. -/
def Compares (held : UInt32 → UInt32 → Bool) (edge : Nat) : Prop :=
  ∀ armed t, (∀ a, armed = some a → a ≤ t) →
    (held (deadline armed) (UInt32.ofNat t) = true ↔
      sinceArmed armed t % 2 ^ 32 < UNIT_PROBE_INHIBIT_MS ∨ edge ≤ sinceArmed armed t % 2 ^ 32)

theorem toInt32_toInt (x : UInt32) :
    x.toInt32.toInt = if x.toNat < 2 ^ 31 then (x.toNat : Int) else x.toNat - 2 ^ 32 := by
  have hcond := BitVec.toInt_eq_toNat_cond x.toBitVec
  have hnat : x.toBitVec.toNat = x.toNat := rfl
  have hint : x.toInt32.toInt = x.toBitVec.toInt := rfl
  rw [hint, hcond, hnat]
  split <;> split <;> omega

theorem toInt32_pos (x : UInt32) : 0 < x.toInt32 ↔ 0 < x.toNat ∧ x.toNat < 2 ^ 31 := by
  rw [Int32.lt_iff_toInt_lt, toInt32_toInt]
  have hlt := x.toNat_lt
  have hzero : (0 : Int32).toInt = 0 := rfl
  split <;> omega

theorem toInt32_neg (x : UInt32) : x.toInt32 < 0 ↔ 2 ^ 31 ≤ x.toNat := by
  rw [Int32.lt_iff_toInt_lt, toInt32_toInt]
  have hlt := x.toNat_lt
  have hzero : (0 : Int32).toInt = 0 := rfl
  split <;> omega

/-- What is left of the window, in 32 bits. -/
theorem deadline_sub {armed : Option Nat} {t : Nat} (h : ∀ a, armed = some a → a ≤ t) :
    (deadline armed - UInt32.ofNat t).toNat =
      (UNIT_PROBE_INHIBIT_MS + 2 ^ 32 - sinceArmed armed t % 2 ^ 32) % 2 ^ 32 := by
  cases armed with
  | none =>
      simp only [deadline, sinceArmed, UInt32.toNat_sub, UInt32.toNat_ofNat']
      have hzero : (0 : UInt32).toNat = 0 := rfl
      rw [hzero]
      have hms : UNIT_PROBE_INHIBIT_MS = 3000 := rfl
      omega
  | some a =>
      have hle := h a rfl
      have hms : UNIT_PROBE_INHIBIT_MS = 3000 := rfl
      simp only [deadline, sinceArmed, UInt32.toNat_sub, UInt32.toNat_add, UInt32.toNat_ofNat']
      omega

/-- What has passed since the end of the window, in 32 bits. -/
theorem sub_deadline {armed : Option Nat} {t : Nat} (h : ∀ a, armed = some a → a ≤ t) :
    (UInt32.ofNat t - deadline armed).toNat =
      (sinceArmed armed t % 2 ^ 32 + 2 ^ 32 - UNIT_PROBE_INHIBIT_MS) % 2 ^ 32 := by
  cases armed with
  | none =>
      simp only [deadline, sinceArmed, UInt32.toNat_sub, UInt32.toNat_ofNat']
      have hzero : (0 : UInt32).toNat = 0 := rfl
      rw [hzero]
      have hms : UNIT_PROBE_INHIBIT_MS = 3000 := rfl
      omega
  | some a =>
      have hle := h a rfl
      have hms : UNIT_PROBE_INHIBIT_MS = 3000 := rfl
      simp only [deadline, sinceArmed, UInt32.toNat_sub, UInt32.toNat_add, UInt32.toNat_ofNat']
      omega

theorem twibootRisk_compares : Compares twibootRiskHeld (2 ^ 31 + UNIT_PROBE_INHIBIT_MS + 1) := by
  intro armed t h
  unfold twibootRiskHeld
  rw [decide_eq_true_iff, toInt32_pos, deadline_sub h]
  have hms : UNIT_PROBE_INHIBIT_MS = 3000 := rfl
  omega

theorem probeInhibit_compares : Compares probeInhibitHeld (2 ^ 31 + UNIT_PROBE_INHIBIT_MS) := by
  intro armed t h
  unfold probeInhibitHeld
  rw [decide_eq_true_iff, toInt32_neg, sub_deadline h]
  have hms : UNIT_PROBE_INHIBIT_MS = 3000 := rfl
  omega

/-! ## §4. What every task keeps. -/

/-- The deadline is that of the last arming, and every look compared it. -/
structure Sound (held : UInt32 → UInt32 → Bool) (b : Board ρ) : Prop where
  until_eq : b.inhibitUntilMs = deadline (lastArmed b.log)
  armed_le : ∀ a, lastArmed b.log = some a → a ≤ b.now
  looked : ∀ what v t rest, .looked what v t :: rest <:+ b.log →
    v = held (deadline (lastArmed rest)) (UInt32.ofNat t) ∧ ∀ a, lastArmed rest = some a → a ≤ t

/-- What a task that keeps `J` may do with a board: let time pass, look at the
window, arm it, change the width, the frame's mark and the motion cap, and talk
to the addresses `S`. -/
structure Bears (held : UInt32 → UInt32 → Bool) (S : Nat → Prop) (J : Board ρ → Prop) :
    Prop where
  data : ∀ b b', b'.now = b.now → b'.inhibitUntilMs = b.inhibitUntilMs → b'.log = b.log →
    b'.units = b.units → b'.own = b.own → J b → J b'
  pass : ∀ b ms, J b → J (b.pass ms)
  arm : ∀ b, J b → J b.arm
  look : ∀ b what, J b → J (b.note (.looked what (held b.inhibitUntilMs b.millis)))
  send : ∀ b msg addr, S addr → J b → J (b.note (.sent msg addr))
  own : ∀ b, J b → J (b.note .own)

/-- What a task may learn of its units. -/
def Learns (J : Board ρ → Prop) : Prop := ∀ b units, J b → J { b with units }

/-- What a task keeps for itself. -/
def Owns (J : Board ρ → Prop) : Prop := ∀ b own, J b → J { b with own }

section Keeps

variable {held : UInt32 → UInt32 → Bool} {S : Nat → Prop} {J : Board ρ → Prop}

theorem millis_keeps : Keeps J (millis : BoardTask ρ κ UInt32) :=
  Keeps.bind Keeps.get fun _ => Keeps.pure _

theorem outside_keeps (hJ : Bears held S J) : Keeps J (outside : BoardTask ρ κ (Answer κ)) :=
  Keeps.bind Keeps.ask fun a =>
    Keeps.bind (Keeps.modify fun b hb => hJ.pass b a.ms hb) fun _ => Keeps.pure a

theorem delay_keeps (hJ : Bears held S J) (ms : Nat) :
    Keeps J (delay ms : BoardTask ρ κ Unit) :=
  Keeps.bind (outside_keeps hJ) fun _ => Keeps.modify fun b hb => hJ.pass b ms hb

theorem transact_keeps (hJ : Bears held S J) (msg : UnitMsg) {addr : Nat} (haddr : S addr) :
    Keeps J (transact msg addr : BoardTask ρ κ (Answer κ)) :=
  Keeps.bind (outside_keeps hJ) fun a =>
    Keeps.bind (Keeps.modify fun b hb => hJ.send b msg addr haddr hb) fun _ => Keeps.pure a

theorem armWindow_keeps (hJ : Bears held S J) : Keeps J (armWindow : BoardTask ρ κ Unit) :=
  Keeps.modify hJ.arm

theorem look_keeps (hJ : Bears held S J) (what : Waiting) :
    Keeps J (look held what : BoardTask ρ κ Bool) := by
  refine Sat.bind (R := fun b b' => b' = b ∧ J b) (Sat.get fun b hb => ⟨rfl, hb⟩) ?_
  intro b
  refine Sat.bind (R := fun _ => J) (Sat.modify ?_) fun _ => Sat.pure _ fun _ hb => hb
  rintro _ ⟨rfl, hb⟩
  exact hJ.look _ what hb

theorem Bears.modify (hJ : Bears held S J) {f : Board ρ → Board ρ}
    (hf : ∀ b, (f b).now = b.now ∧ (f b).inhibitUntilMs = b.inhibitUntilMs ∧
      (f b).log = b.log ∧ (f b).units = b.units ∧ (f b).own = b.own) :
    Keeps J (TaskM.modify f : BoardTask ρ κ Unit) := by
  refine Keeps.modify fun b hb => ?_
  obtain ⟨hnow, huntil, hlog, hunits, hown⟩ := hf b
  exact hJ.data b (f b) hnow huntil hlog hunits hown hb

end Keeps

end SplitFlap.Bus
