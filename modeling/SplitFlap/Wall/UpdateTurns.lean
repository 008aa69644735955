/-
  SplitFlap.Wall.UpdateTurns — the rows take turns.

  A row that never answers, or is always busy, costs nothing and is never given
  up on.  What keeps it from being offered the image for ever is that the next
  search starts after the row of the last offer, however that offer ended: with
  every offer to another row, a row that wants the image comes closer to its
  turn (`rows_take_turns`).  Only `reset` forgets whose turn it was
  (`reset_starves`).
-/
import SplitFlap.Wall.UpdateBudget

namespace SplitFlap

open Machine

namespace WallUpdater

variable {u : WallUpdater}

/-! ## §1. Whose turn it is. -/

/-- Every row of the first `m` gets its turn. -/
theorem turnAmong_surjective (u : WallUpdater) {m : Nat} {j : RowIx} (hj : j.val < m) :
    ∃ d < m, u.turnAmong m d = j := by
  have hpos : 0 < m := Nat.zero_lt_of_lt hj
  unfold turnAmong
  cases u.lastOffered with
  | none =>
      refine ⟨j.val, hj, Fin.ext ?_⟩
      show j.val % m % 8 = j.val
      rw [Nat.mod_eq_of_lt hj, Nat.mod_eq_of_lt j.isLt]
  | some last =>
      -- as many turns as lead from the row after the last offer round to `j`
      refine ⟨(j.val + 8 * m - (last.val + 1)) % m, Nat.mod_lt _ hpos, Fin.ext ?_⟩
      have hlast : last.val + 1 ≤ j.val + 8 * m := by
        have hlt : last.val < 8 := last.isLt
        omega
      show (last.val + 1 + (j.val + 8 * m - (last.val + 1)) % m) % m % 8 = j.val
      rw [Nat.add_mod_mod, Nat.add_sub_cancel' hlast, Nat.add_mul_mod_self_right,
        Nat.mod_eq_of_lt hj, Nat.mod_eq_of_lt j.isLt]

/-- After an offer to the row `n` turns away, a row `d` turns away is `d - n - 1`
turns away. -/
theorem turnAmong_offered {u' : WallUpdater} {m n d : Nat} (hm : m ≤ WALL_LINK_MAX_ROWS)
    (hpos : 0 < m) (hn : n < d) (hlast : u'.lastOffered = some (u.turnAmong m n)) :
    u'.turnAmong m (d - n - 1) = u.turnAmong m d := by
  have hturn : ∀ start, (Fin.ofNat WALL_LINK_MAX_ROWS ((start + n) % m)).val + 1 + (d - n - 1) =
      (start + n) % m + (d - n) := by
    intro start
    show (start + n) % m % 8 + 1 + (d - n - 1) = _
    have hlt : (start + n) % m < m := Nat.mod_lt _ hpos
    have hm8 : m ≤ 8 := hm
    rw [Nat.mod_eq_of_lt (Nat.lt_of_lt_of_le hlt hm8)]
    omega
  have hround : ∀ start, ((start + n) % m + (d - n)) % m = (start + d) % m := by
    intro start
    rw [Nat.mod_add_mod]
    congr 1
    omega
  unfold turnAmong at hlast ⊢
  rw [hlast]
  cases hu : u.lastOffered with
  | none =>
      have hzero := hturn 0
      have hagain := hround 0
      rw [Nat.zero_add] at hzero hagain
      rw [Nat.zero_add] at hagain
      dsimp only
      rw [hzero, hagain]
  | some last =>
      dsimp only
      rw [hturn (last.val + 1), hround (last.val + 1)]

/-- Whose turn it is changes with offers only, and with `reset`. -/
theorem call_lastOffered (u : WallUpdater) (count : Nat) {c : UpdaterCall} (hreset : c ≠ .reset) :
    (u.call count c).lastOffered =
      match u.offersTo count c with
      | some r => some r
      | none => u.lastOffered := by
  have hcharge : ∀ v : WallUpdater, v.charge.lastOffered = v.lastOffered := by
    intro v
    unfold charge
    split
    · rfl
    · rfl
  have hfinish : ∀ (v : WallUpdater) (costs : Bool) (nowMs : UInt32) (holdOff : Bool),
      (v.finish costs nowMs holdOff).lastOffered = v.lastOffered := by
    intro v costs nowMs holdOff
    cases costs with
    | true => exact hcharge v
    | false => rfl
  cases c with
  | offer rows storedRev sent nowMs =>
      cases hoffer : u.offersTo count (.offer rows storedRev sent nowMs) with
      | none =>
          unfold call
          dsimp only
          rw [hoffer]
      | some r =>
          obtain ⟨_, _, _, _, _, hcall⟩ := offersTo_some hoffer
          rw [hcall]
          unfold offered
          dsimp only
          split
          · exact hcharge _
          · rfl
  | answer r state storedRev nowMs =>
      show (u.answer r state storedRev nowMs).2.lastOffered = u.lastOffered
      unfold answer
      split
      · rfl
      · split
        · rfl
        · split
          · rfl
          · rfl
          · split
            · exact hfinish ..
            · exact hfinish ..
          · exact hfinish ..
  | hello r rev rescue restarted storedRev nowMs =>
      show (u.hello r rev rescue restarted storedRev nowMs).2.lastOffered = u.lastOffered
      unfold hello
      dsimp only
      split
      · rfl
      · split
        · exact hfinish ..
        · split
          · exact hfinish ..
          · split
            · rfl
            · rfl
  | tick nowMs =>
      show (u.tick nowMs).2.lastOffered = u.lastOffered
      unfold tick
      split
      · rfl
      · split
        · exact hfinish ..
        · rfl
      · split
        · exact hfinish ..
        · rfl
      · split
        · exact hfinish ..
        · rfl
  | noteRev r oldRev newRev =>
      show (u.noteRev r oldRev newRev).lastOffered = u.lastOffered
      unfold noteRev
      split
      · rfl
      · rfl
  | health r well nowMs =>
      show (u.health r well nowMs).lastOffered = u.lastOffered
      unfold health
      split
      · rfl
      · split
        · rfl
        · split
          · rfl
          · rfl
  | newImage nowMs =>
      show ((List.finRange WALL_LINK_MAX_ROWS).foldl forgive u).lastOffered = u.lastOffered
      generalize List.finRange WALL_LINK_MAX_ROWS = rs
      induction rs generalizing u with
      | nil => rfl
      | cons r rs ih => exact ih (u := u.forgive r)
  | retry r => rfl
  | reset => exact absurd rfl hreset

end WallUpdater

namespace UpdateLedger

variable {l l' : UpdateLedger}

/-! ## §2. Every run. -/

/-- Row `j` wants the image whenever a row is found to offer it to. -/
def wanted (count : Nat) (j : RowIx) (l : UpdateLedger) : UpdaterCall → Bool
  | .offer rows storedRev _ nowMs =>
      (l.updater.nextCandidateAmong rows count storedRev nowMs).isNone ||
        l.updater.wants rows storedRev j
  | _ => true

/-- The rows of the offers that were made, the last one first. -/
def offers (l : UpdateLedger) : List RowIx := l.made.map (·.row)

theorem step_offers {count : Nat} {c : UpdaterCall} (hstep : step count l c = some l') :
    l'.updater = l.updater.call count c ∧
      l'.offers = (l.updater.offersTo count c).toList ++ l.offers := by
  have hbook : ∀ (costs : List (RowIx × Nat)) (made : List MadeOffer),
      (book costs made).map (·.row) = made.map (·.row) := by
    intro costs made
    cases made with
    | nil => rfl
    | cons o rest => rfl
  unfold step at hstep
  rw [Option.some.injEq] at hstep
  subst hstep
  refine ⟨rfl, ?_⟩
  unfold offers noted
  rw [hbook]
  cases l.updater.offersTo count c with
  | none => rfl
  | some r => rfl

theorem run_offers {count : Nat} {calls : List UpdaterCall}
    (hrun : run (step count) l calls = some l') : ∃ new, l'.offers = new ++ l.offers := by
  refine run_invariant (P := fun l' : UpdateLedger => ∃ new, l'.offers = new ++ l.offers) ?_
    ⟨[], rfl⟩ hrun
  rintro m c m' ⟨new, hnew⟩ hstep
  refine ⟨(m.updater.offersTo count c).toList ++ new, ?_⟩
  rw [(step_offers hstep).2, hnew, List.append_assoc]

/-- While row `j` is `d` turns away and wants the image, at most `d` offers go
to others. -/
theorem offers_before {count : Nat} {j : RowIx} {calls : List UpdaterCall} {d : Nat}
    (hd : d < min count WALL_LINK_MAX_ROWS)
    (hturn : l.updater.turnAmong (min count WALL_LINK_MAX_ROWS) d = j)
    (hrun : run (step count) l calls = some l') (hreset : .reset ∉ calls)
    (hwanted : AllMeet (fun l c => l.wanted count j c = true) (step count) l calls)
    {new : List RowIx} (hnew : l'.offers = new ++ l.offers) (hothers : j ∉ new) :
    new.length ≤ d := by
  induction calls generalizing l d new with
  | nil =>
      rw [run_nil, Option.some.injEq] at hrun
      subst hrun
      rw [List.self_eq_append_left.mp hnew]
      exact Nat.zero_le _
  | cons c calls ih =>
      rw [run_cons, Option.bind_eq_some_iff] at hrun
      obtain ⟨m, hm, hrest⟩ := hrun
      rw [List.mem_cons, not_or] at hreset
      obtain ⟨hupdater, hoffers⟩ := step_offers hm
      have hlast := l.updater.call_lastOffered count (Ne.symm hreset.1)
      rw [← hupdater] at hlast
      obtain ⟨hwantedNow, hwantedLater⟩ := hwanted
      cases hoffer : l.updater.offersTo count c with
      | none =>
          -- no offer: the turns are as they were
          rw [hoffer] at hlast hoffers
          refine ih hd ?_ hrest hreset.2 (hwantedLater m hm) ?_ hothers
          · unfold WallUpdater.turnAmong at hturn ⊢
            rw [hlast]
            exact hturn
          · rw [hnew, hoffers]
            rfl
      | some r =>
          rw [hoffer] at hlast hoffers
          obtain ⟨rows, storedRev, nowMs, rfl, hcandidate, _⟩ := WallUpdater.offersTo_some hoffer
          obtain ⟨_, n, hn, hturnr, hbefore⟩ := WallUpdater.nextCandidateAmong_some hcandidate
          have hwants : l.updater.wants rows storedRev j = true := by
            unfold wanted at hwantedNow
            simpa [hcandidate] using hwantedNow
          obtain ⟨later, hlater⟩ := run_offers hrest
          have hsplit : new = later ++ [r] := by
            have hall : new ++ l.offers = (later ++ [r]) ++ l.offers := by
              rw [← hnew, hlater, hoffers, List.append_assoc]
              rfl
            exact List.append_cancel_right hall
          rw [hsplit, List.mem_append, List.mem_singleton, not_or] at hothers
          have hsooner : n < d := by
            have hne : n ≠ d := by
              rintro rfl
              exact hothers.2 (hturn.symm.trans hturnr)
            have hle : ¬ d < n := by
              intro hlt
              have hno := hbefore d hlt
              rw [hturn, hwants] at hno
              cases hno
            omega
          have hrest' := ih (d := d - n - 1) (by omega)
            ((WallUpdater.turnAmong_offered (Nat.min_le_right ..) (Nat.zero_lt_of_lt hd) hsooner
              (hlast.trans (congrArg some hturnr.symm))).trans hturn)
            hrest hreset.2 (hwantedLater m hm) hlater hothers.1
          rw [hsplit, List.length_append, List.length_singleton]
          omega

/-- **No row starves**: over a fixed row count and without a `reset`, while row
`j` wants the image whenever a row is found to offer it to, fewer than `count`
offers go to other rows before one goes to `j`. -/
theorem rows_take_turns (count : Nat) (j : RowIx) (hj : j.val < count)
    (calls : List UpdaterCall) (l l' : UpdateLedger)
    (hrun : run (step count) l calls = some l') (hreset : .reset ∉ calls)
    (hwanted : AllMeet (fun l c => l.wanted count j c = true) (step count) l calls)
    (new : List RowIx) (hnew : l'.offers = new ++ l.offers) (hothers : j ∉ new) :
    new.length ≤ count - 1 := by
  obtain ⟨d, hd, hturn⟩ := l.updater.turnAmong_surjective (j := j)
    (m := min count WALL_LINK_MAX_ROWS) (Nat.lt_min.mpr ⟨hj, j.isLt⟩)
  have hbefore := offers_before hd hturn hrun hreset hwanted hnew hothers
  have hcount : min count WALL_LINK_MAX_ROWS ≤ count := Nat.min_le_left ..
  omega

/-- Rows 0 and 1 both want rev `2`. -/
def twoOldRows (r : RowIx) : WallUpdateRow :=
  if r.val < 2 then { reachable := true, rev := [49] } else {}

/-- An offer that is never answered. -/
def lostOffer (nowMs : UInt32) : List UpdaterCall :=
  [.offer twoOldRows [50] true nowMs, .tick (nowMs + 20000)]

theorem rows_take_turns_once :
    ∃ l : UpdateLedger, run (step 2) {} (lostOffer 0) = some l ∧ l.offers = [0] ∧
      [(0 : RowIx)].length ≤ 2 - 1 := by
  have hends : (run (step 2) {} (lostOffer 0)).map (·.offers) = some [0] := by decide +kernel
  obtain ⟨l, hrun, hl⟩ := Option.map_eq_some_iff.mp hends
  exact ⟨l, hrun, hl, rows_take_turns 2 1 (by decide) (lostOffer 0) {} l hrun
    (fun hmem => by simp [lostOffer] at hmem)
    (AllMeet.of_allMeet (show allMeet (wanted 2 1) (step 2) {} _ = true by decide +kernel)) [0] hl (by decide)⟩

/-- With the table changed after each, two offers go to row 0 before any to
row 1, which wants the image as much. -/
theorem reset_starves :
    ∃ l : UpdateLedger, run (step 2) {} (lostOffer 0 ++ [.reset] ++ lostOffer 60000) = some l ∧
      AllMeet (fun l c => l.wanted 2 1 c = true) (step 2) {}
        (lostOffer 0 ++ [.reset] ++ lostOffer 60000) ∧
      l.offers = [0, 0] := by
  have hends : (run (step 2) {} (lostOffer 0 ++ [.reset] ++ lostOffer 60000)).map (·.offers) =
      some [0, 0] := by
    decide +kernel
  obtain ⟨l, hrun, hl⟩ := Option.map_eq_some_iff.mp hends
  exact ⟨l, hrun, AllMeet.of_allMeet (show allMeet (wanted 2 1) (step 2) {} _ = true by decide +kernel), hl⟩

end UpdateLedger

end SplitFlap
