/-
  SplitFlap.Record.Conserved — runs of the event record.

  Every step of a run keeps an account (`Accounts`), numbers what it writes one
  after the other and stays inside the tick's buffers.
-/
import SplitFlap.Record.Account

namespace SplitFlap.Record

open List (Forall₂)
open Machine

/-! ## §1. Numbers and buffers. -/

theorem numbered_length (firstSeq : UInt32) (es : List EventRecord) :
    (numbered firstSeq es).length = es.length := by
  induction es generalizing firstSeq with
  | nil => rfl
  | cons e es ih =>
      show (numbered (firstSeq + 1) es).length + 1 = es.length + 1
      rw [ih]

theorem numbered_seq (firstSeq : UInt32) (es : List EventRecord) (i : Nat) (r : EventRecord)
    (h : (numbered firstSeq es)[i]? = some r) : r.seq = firstSeq + UInt32.ofNat i := by
  induction es generalizing firstSeq i with
  | nil => cases h
  | cons e es ih =>
      cases i with
      | zero =>
          have hr := Option.some.inj h
          rw [← hr]
          exact (UInt32.add_zero firstSeq).symm
      | succ i =>
          have hrest := ih (firstSeq + 1) i h
          rw [hrest, UInt32.ofNat_add, UInt32.add_assoc, UInt32.add_comm 1]
          rfl

/-- The record's entries are numbered one after the other. -/
structure Numbered (first : UInt32) (s : EventLog) : Prop where
  seq : ∀ i r, s.record[i]? = some r → r.seq = first + UInt32.ofNat i
  next : s.nextSeq = first + UInt32.ofNat s.record.length

theorem Numbered.write {first : UInt32} {s : EventLog} (h : Numbered first s) (t : Tick) :
    Numbered first (eventWrite s t) where
  seq i r hr := by
    have hr : (s.record ++ numbered s.nextSeq (t.toWrite ++ (passed s t).1))[i]? = some r := hr
    rw [List.getElem?_append] at hr
    split at hr
    · exact h.seq i r hr
    · next hle =>
        have hseq := numbered_seq _ _ _ _ hr
        rw [hseq, h.next, UInt32.add_assoc, ← UInt32.ofNat_add]
        congr 2
        omega
  next := by
    have hlen : (eventWrite s t).record.length =
        s.record.length + (t.toWrite ++ (passed s t).1).length := by
      show (s.record ++ numbered s.nextSeq (t.toWrite ++ (passed s t).1)).length = _
      rw [List.length_append, numbered_length]
    show s.nextSeq + UInt32.ofNat (t.toWrite ++ (passed s t).1).length = _
    rw [h.next, UInt32.add_assoc, ← UInt32.ofNat_add, hlen]

theorem dueFrom_length (nowS : UInt32) (is : List (Fin EVENT_DAMP_SLOTS)) (d : EventDamp)
    (cap : Nat) : (EventDamp.dueFrom nowS is d cap).1.length ≤ cap := by
  induction is generalizing d cap with
  | nil => exact Nat.zero_le cap
  | cons i rest ih =>
      unfold EventDamp.dueFrom
      split
      · exact ih d cap
      · split
        · cases cap with
          | zero => exact Nat.le_refl 0
          | succ cap => exact Nat.succ_le_succ (ih (d.set i {}) cap)
        · exact ih (d.set i {}) cap

/-- `due` and `toWrite` of EventRecord.cpp, in entries. -/
abbrev DUE_CAP : Nat := EVENT_STAGE_CAP + 1
abbrev TO_WRITE_CAP : Nat := 2 * (EVENT_STAGE_CAP + 1) + EVENT_DAMP_SLOTS

/-- Each entry in hand can still bring two to be written. -/
def Fits (s : EventLog) : Prop :=
  ∀ t, s.tick = some t → t.due.length ≤ DUE_CAP ∧ t.toWrite.length + 2 * t.due.length ≤ 2 * DUE_CAP

theorem take_length (st : EventStage) (at' : TakeAt) (nextSeq : UInt32) :
    (st.take at' nextSeq (EVENT_STAGE_CAP + 1)).1.length ≤ DUE_CAP := by
  have hloop := (takeLoop_length at' st.q (EVENT_STAGE_CAP + 1) nextSeq).2
  unfold EventStage.take
  dsimp only
  split
  · next hlost =>
      rw [List.length_append, List.length_singleton]
      exact hlost.2.2.1
  · exact hloop

theorem passed_length (s : EventLog) (t : Tick) : (passed s t).1.length ≤ EVENT_DAMP_SLOTS := by
  unfold passed
  split
  · exact dueFrom_length t.nowS _ s.damp EVENT_DAMP_SLOTS
  · exact Nat.zero_le _

theorem Fits.take (s : EventLog) (at' : TakeAt) : Fits (eventTake s at') := by
  intro t ht
  have ht := Option.some.inj ht
  have hlen := take_length s.stage at' s.nextSeq
  rw [← ht]
  refine ⟨hlen, ?_⟩
  show 0 + 2 * (s.stage.take at' s.nextSeq (EVENT_STAGE_CAP + 1)).1.length ≤ 2 * DUE_CAP
  rw [Nat.zero_add]
  exact Nat.mul_le_mul_left 2 hlen

theorem Fits.admitEvent {s : EventLog} (h : Fits s) {t : Tick} {r : EventRecord}
    {rest : List EventRecord} (htick : s.tick = some t) (hdue : t.due = r :: rest) :
    Fits (eventAdmit s t r rest) := by
  intro t' ht'
  obtain ⟨hhand, hboth⟩ := h t htick
  have ht' := Option.some.inj ht'
  rw [hdue, List.length_cons] at hhand hboth
  rw [← ht']
  have hsummary : (s.damp.admitEvent r).summary.toList.length ≤ 1 := by
    cases (s.damp.admitEvent r).summary with
    | none => exact Nat.zero_le 1
    | some _ => exact Nat.le_refl 1
  have hwritten : (if (s.damp.admitEvent r).written then [r] else []).length ≤ 1 := by
    split
    · exact Nat.le_refl 1
    · exact Nat.zero_le 1
  refine ⟨by dsimp only; omega, ?_⟩
  dsimp only
  rw [List.length_append, List.length_append]
  omega

/-! ## §2. Runs. -/

/-- The counts are below their saturation. -/
structure Unsaturated (s : EventLog) : Prop where
  slots : ∀ i : Fin EVENT_DAMP_SLOTS, (s.damp.get i).unwritten < 0xFFFF
  dropped : s.stage.dropped < 0xFFFFFFFF

/-- Nothing waits and nothing is counted; the damp table may know windows of an
older record. -/
structure Fresh (s : EventLog) : Prop where
  stage : s.stage.q = []
  dropped : s.stage.dropped = 0
  tick : s.tick = none
  record : s.record = []
  slots : ∀ i : Fin EVENT_DAMP_SLOTS, (s.damp.get i).unwritten = 0

def EventStep.putOf : EventStep → Option EventRecord
  | .put r _ => some r
  | _ => none

theorem Fresh.accounts {s : EventLog} (h : Fresh s) : Accounts [] s {} where
  puts_eq := rfl
  once id := by simp [Account.places, lineCount, heldCount, lostCount]
  order := .nil
  staged := by
    rw [h.stage]
    exact .nil
  dropped := by
    rw [h.dropped]
    rfl
  hand := by
    unfold EventLog.inHand
    rw [h.tick]
    exact .nil
  out := by
    unfold EventLog.toWrite
    rw [h.tick]
    exact .nil
  held i := by
    refine ⟨?_, fun id hid => absurd hid List.not_mem_nil⟩
    rw [← damp_get, h.slots i]
    rfl
  free i _ := h.slots i
  lines := by
    rw [h.record]
    exact .nil
  lost l hl := absurd hl List.not_mem_nil
  lost_once := .nil

/-- What a run keeps of a moment. -/
structure Kept (first : UInt32) (puts : List EventRecord) (s : EventLog) : Prop where
  accounts : ∃ acc, Accounts puts s acc
  numbered : Numbered first s
  fits : Fits s

/-- One case for each step. -/
theorem Kept.next {first : UInt32} {puts : List EventRecord} {s s' : EventLog} {a : EventStep}
    (h : Kept first puts s) (hsat : Unsaturated s) (hstep : step s a = some s') :
    Kept first (puts ++ a.putOf.toList) s' := by
  obtain ⟨acc, hacc⟩ := h.accounts
  cases a with
  | put r nowMs =>
      have hs' := Option.some.inj hstep
      rw [← hs']
      exact ⟨hacc.put r nowMs hsat.dropped, ⟨h.numbered.seq, h.numbered.next⟩, h.fits⟩
  | take at' =>
      rw [show EventStep.putOf (.take at') = none from rfl, Option.toList_none, List.append_nil]
      unfold Record.step at hstep
      cases htick : s.tick with
      | some t =>
          rw [htick] at hstep
          cases hstep
      | none =>
          rw [htick] at hstep
          dsimp only at hstep
          split at hstep
          · exact Option.some.inj hstep ▸ h
          · have hs' := Option.some.inj hstep
            rw [← hs']
            exact ⟨hacc.take at' htick, ⟨h.numbered.seq, h.numbered.next⟩, Fits.take s at'⟩
  | admitEvent =>
      rw [show EventStep.putOf .admitEvent = none from rfl, Option.toList_none, List.append_nil]
      unfold Record.step at hstep
      cases htick : s.tick with
      | none =>
          rw [htick] at hstep
          cases hstep
      | some t =>
          rw [htick] at hstep
          cases hdue : t.due with
          | nil =>
              simp only [hdue] at hstep
              cases hstep
          | cons r rest =>
              simp only [hdue] at hstep
              have hs' := Option.some.inj hstep
              rw [← hs']
              exact ⟨hacc.admitEvent htick hdue hsat.slots, ⟨h.numbered.seq, h.numbered.next⟩,
                h.fits.admitEvent htick hdue⟩
  | write =>
      rw [show EventStep.putOf .write = none from rfl, Option.toList_none, List.append_nil]
      unfold Record.step at hstep
      cases htick : s.tick with
      | none =>
          rw [htick] at hstep
          cases hstep
      | some t =>
          rw [htick] at hstep
          cases hdue : t.due with
          | cons r rest =>
              simp only [hdue] at hstep
              cases hstep
          | nil =>
              simp only [hdue] at hstep
              have hs' := Option.some.inj hstep
              rw [← hs']
              exact ⟨hacc.write htick hdue, h.numbered.write t, fun t' ht' => nomatch ht'⟩

theorem Kept.run {first : UInt32} {puts : List EventRecord} {s s' : EventLog}
    {steps : List EventStep} (h : Kept first puts s)
    (hsat : AllMeet (fun s _ => Unsaturated s) step s steps) (hrun : run step s steps = some s') :
    Kept first (puts ++ steps.filterMap EventStep.putOf) s' := by
  induction steps generalizing s puts with
  | nil =>
      rw [Machine.run_nil, Option.some.injEq] at hrun
      rw [List.filterMap_nil, List.append_nil]
      exact hrun ▸ h
  | cons a steps ih =>
      rw [Machine.run_cons, Option.bind_eq_some_iff] at hrun
      obtain ⟨m, hm, hrest⟩ := hrun
      have hkept := ih (h.next hsat.1 hm) (hsat.2 m hm) hrest
      rw [List.append_assoc] at hkept
      have hputs : a.putOf.toList ++ steps.filterMap EventStep.putOf =
          (a :: steps).filterMap EventStep.putOf := by
        rw [List.filterMap_cons]
        cases a.putOf with
        | none => rfl
        | some r => rfl
      rw [hputs] at hkept
      exact hkept

/-- Every event put is accounted for exactly once, after every run of puts and
ticks; the record is numbered without a gap, and the tick stays inside its
buffers. -/
theorem events_conserved {start s : EventLog} (hstart : Fresh start) {steps : List EventStep}
    (hsat : AllMeet (fun s _ => Unsaturated s) step start steps)
    (hrun : run step start steps = some s) :
    (∃ acc, Accounts (steps.filterMap EventStep.putOf) s acc ∧
      (s.tick = none → acc.hand = [] ∧ acc.out = [])) ∧
    (∀ i r, s.record[i]? = some r → r.seq = start.nextSeq + UInt32.ofNat i) ∧
    ∀ t, s.tick = some t → t.due.length ≤ DUE_CAP ∧
      (passed s t).1.length ≤ EVENT_DAMP_SLOTS ∧
      (t.toWrite ++ (passed s t).1).length ≤ TO_WRITE_CAP := by
  have hkept : Kept start.nextSeq [] start := by
    refine ⟨⟨{}, hstart.accounts⟩, ⟨fun i r hr => ?_, ?_⟩, fun t ht => ?_⟩
    · rw [hstart.record] at hr
      cases hr
    · rw [hstart.record]
      exact (UInt32.add_zero _).symm
    · rw [hstart.tick] at ht
      cases ht
  have hend := hkept.run hsat hrun
  rw [List.nil_append] at hend
  obtain ⟨acc, hacc⟩ := hend.accounts
  refine ⟨⟨acc, hacc, hacc.hand_nil⟩, hend.numbered.seq, fun t ht => ?_⟩
  obtain ⟨hhand, hboth⟩ := hend.fits t ht
  have hpassed := passed_length s t
  refine ⟨hhand, hpassed, ?_⟩
  have hcap : TO_WRITE_CAP = 2 * DUE_CAP + EVENT_DAMP_SLOTS := rfl
  rw [List.length_append]
  omega

instance (s : EventLog) : Decidable (Unsaturated s) :=
  decidable_of_iff ((∀ i : Fin EVENT_DAMP_SLOTS, (s.damp.get i).unwritten < 0xFFFF) ∧
    s.stage.dropped < 0xFFFFFFFF) ⟨fun h => ⟨h.1, h.2⟩, fun h => ⟨h.slots, h.dropped⟩⟩

/-- The same restart eleven times within a second, and one tick. -/
def elevenRestarts : List EventStep :=
  List.replicate 11 (.put { kind := EventKind.rowStarted.toByte, board := 7 } 1000) ++
    .take { nowEpochS := 1790000000, clockSet := true, nowMs := 2000, force := false } ::
    (List.replicate 11 .admitEvent ++ [.write])

/-- Ten of them are written, the eleventh is counted. -/
theorem events_conserved_restarts :
    ∃ s, run step {} elevenRestarts = some s ∧ s.record.length = 10 ∧
      ∃ acc, Accounts (elevenRestarts.filterMap EventStep.putOf) s acc := by
  have hlength : (run step {} elevenRestarts).map (fun s => s.record.length) = some 10 := by
    decide +kernel
  have hsat : AllMeet (fun s _ => decide (Unsaturated s) = true) step {} elevenRestarts :=
    AllMeet.of_allMeet (by decide +kernel)
  have hfresh : Fresh {} := ⟨rfl, rfl, rfl, rfl, by decide⟩
  cases hrun : run step {} elevenRestarts with
  | none =>
      rw [hrun] at hlength
      cases hlength
  | some s =>
      rw [hrun] at hlength
      have hend := events_conserved hfresh (hsat.mono fun _ _ h => of_decide_eq_true h) hrun
      obtain ⟨acc, hacc, -⟩ := hend.1
      exact ⟨s, rfl, Option.some.inj hlength, acc, hacc⟩

end SplitFlap.Record
