/-
  SplitFlap.Wall.Ops — the jobs an operator started, and how they ended.

  `WallOps.h`: a table of sixteen places, each job under the master's own id.
  A running job keeps its place; a finished one is kept until its place is
  needed.  What a step of the master ends is read off the answer of `finish`.
-/
import Mathlib.Data.List.FinRange
import Mathlib.Logic.Function.Basic
import SplitFlap.Link.Wire

namespace SplitFlap

abbrev WALL_OPS_KEPT : Nat := 16

/-- A job on the master's own units. -/
abbrev WALL_OP_OWN_ROW : Int := -2

inductive WallOpPhase where
  | running
  | done
  | failed
  deriving Repr, DecidableEq

/-- One place of the table; id 0 is an empty one. -/
structure WallOp where
  id : UInt32 := 0
  phase : WallOpPhase := .running
  row : Int := -1
  unit : UInt8 := 0
  name : String := ""
  detail : String := ""
  deriving Repr, DecidableEq

structure WallOps where
  ops : Fin WALL_OPS_KEPT → WallOp := fun _ => {}
  nextId : UInt32 := 1

namespace WallOps

/-- A running job that is not about an empty place. -/
def running (op : WallOp) : Bool := op.id ≠ 0 && op.phase = .running

/-- The place the next job takes: the first empty one, else the oldest finished
job's. -/
def freePlace (s : WallOps) : Option (Fin WALL_OPS_KEPT) :=
  match (List.finRange WALL_OPS_KEPT).find? fun i => (s.ops i).id = 0 with
  | some i => some i
  | none =>
      (List.finRange WALL_OPS_KEPT).foldl
        (fun place i =>
          if (s.ops i).phase = .running then place
          else
            match place with
            | none => some i
            | some j => if (s.ops i).id < (s.ops j).id then some i else some j)
        none

/-- `begin`: the new job's id, 0 when every place holds a running job. -/
def start (s : WallOps) (name : String) (row : Int) (unit : UInt8) : UInt32 × WallOps :=
  match s.freePlace with
  | none => (0, s)
  | some i =>
      (s.nextId,
        { ops := Function.update s.ops i { id := s.nextId, row := row, unit := unit, name := name }
          nextId := s.nextId + 1 })

/-- `placeOf`, of a job that is known. -/
def placeOf (s : WallOps) (id : UInt32) : Option (Fin WALL_OPS_KEPT) :=
  if id = 0 then none else (List.finRange WALL_OPS_KEPT).find? fun i => (s.ops i).id = id

/-- `finish`: the job as it ended; `none` when it is unknown or already
finished. -/
def finish (s : WallOps) (id : UInt32) (ok : Bool) (detail : String) : Option WallOp × WallOps :=
  match s.placeOf id with
  | none => (none, s)
  | some i =>
      if (s.ops i).phase ≠ .running then (none, s)
      else
        let op :=
          { s.ops i with phase := if ok then .done else .failed, detail := detail }
        (some op, { s with ops := Function.update s.ops i op })

/-- `runningOn`: one unit job at a time per row. -/
def runningOn (s : WallOps) (row : Int) : Bool :=
  (List.finRange WALL_OPS_KEPT).any fun i => running (s.ops i) && (s.ops i).row = row

/-- One turn of `failJobs`: the jobs that ended so far, and the table. -/
def failStep (which : WallOp → Bool) (reason : String) (acc : List WallOp × WallOps)
    (i : Fin WALL_OPS_KEPT) : List WallOp × WallOps :=
  if running (acc.2.ops i) && which (acc.2.ops i) then
    match acc.2.finish (acc.2.ops i).id false reason with
    | (some op, s) => (acc.1 ++ [op], s)
    | (none, s) => (acc.1, s)
  else acc

/-- `failJobs`: fails the running jobs `which` picks, and how they ended. -/
def failJobs (s : WallOps) (which : WallOp → Bool) (reason : String) : List WallOp × WallOps :=
  (List.finRange WALL_OPS_KEPT).foldl (failStep which reason) ([], s)

/-! ## §1. What a job's id names. -/

/-- Whatever place holds this id, it is a job of this row. -/
def OnRow (s : WallOps) (id : UInt32) (row : Int) : Prop :=
  ∀ i, (s.ops i).id = id → (s.ops i).row = row

/-- The table holds no job under this id. -/
def Unknown (s : WallOps) (id : UInt32) : Prop := ∀ i, (s.ops i).id ≠ id

theorem placeOf_id {s : WallOps} {id : UInt32} {i : Fin WALL_OPS_KEPT} (h : s.placeOf id = some i) :
    (s.ops i).id = id := by
  unfold placeOf at h
  split at h
  · cases h
  · have hfound := List.find?_some h
    simpa using hfound

/-- A job that is held in one place alone is found there. -/
theorem placeOf_unique {s : WallOps} {id : UInt32} {i : Fin WALL_OPS_KEPT} (hid : id ≠ 0)
    (hi : (s.ops i).id = id) (hone : ∀ j, (s.ops j).id = id → j = i) : s.placeOf id = some i := by
  unfold placeOf
  rw [if_neg hid]
  cases hfound : (List.finRange WALL_OPS_KEPT).find? fun i => (s.ops i).id = id with
  | none =>
      rw [List.find?_eq_none] at hfound
      exact absurd (decide_eq_true hi) (hfound i (List.mem_finRange i))
  | some j =>
      have hj := List.find?_some hfound
      rw [hone j (of_decide_eq_true hj)]

/-- `finish`, as an update of one place. -/
theorem finish_cases (s : WallOps) (id : UInt32) (ok : Bool) (detail : String) :
    s.finish id ok detail = (none, s) ∨
      ∃ i op, (s.ops i).id = id ∧ op.id = id ∧ op.row = (s.ops i).row ∧
        s.finish id ok detail = (some op, { s with ops := Function.update s.ops i op }) := by
  unfold finish
  cases hplace : s.placeOf id with
  | none => exact .inl rfl
  | some i =>
      dsimp only
      split
      · exact .inl rfl
      · refine .inr ⟨i, { s.ops i with phase := if ok then .done else .failed, detail := detail },
          placeOf_id hplace, placeOf_id hplace, rfl, rfl⟩

/-- Finishing moves no job to another row and renames none. -/
theorem finish_keeps (s : WallOps) (id : UInt32) (ok : Bool) (detail : String)
    (i : Fin WALL_OPS_KEPT) :
    ((s.finish id ok detail).2.ops i).id = (s.ops i).id ∧
      ((s.finish id ok detail).2.ops i).row = (s.ops i).row := by
  rcases finish_cases s id ok detail with h | ⟨j, op, hj, hid, hrow, h⟩
  · rw [h]
    exact ⟨rfl, rfl⟩
  · rw [h]
    show (Function.update s.ops j op i).id = _ ∧ (Function.update s.ops j op i).row = _
    by_cases hij : i = j
    · subst hij
      rw [Function.update_self]
      exact ⟨hid.trans hj.symm, hrow⟩
    · rw [Function.update_of_ne hij]
      exact ⟨rfl, rfl⟩

theorem finish_nextId (s : WallOps) (id : UInt32) (ok : Bool) (detail : String) :
    (s.finish id ok detail).2.nextId = s.nextId := by
  rcases finish_cases s id ok detail with h | ⟨j, op, _, _, _, h⟩
  · rw [h]
  · rw [h]

/-- The tables of two states name the same jobs. -/
structure SameJobs (s s' : WallOps) : Prop where
  id : ∀ i, (s'.ops i).id = (s.ops i).id
  row : ∀ i, (s'.ops i).row = (s.ops i).row
  nextId : s'.nextId = s.nextId

theorem SameJobs.rfl' (s : WallOps) : SameJobs s s := ⟨fun _ => rfl, fun _ => rfl, rfl⟩

theorem SameJobs.trans {a b c : WallOps} (h : SameJobs a b) (h' : SameJobs b c) : SameJobs a c :=
  ⟨fun i => (h'.id i).trans (h.id i), fun i => (h'.row i).trans (h.row i),
    h'.nextId.trans h.nextId⟩

theorem finish_same (s : WallOps) (id : UInt32) (ok : Bool) (detail : String) :
    SameJobs s (s.finish id ok detail).2 :=
  ⟨fun i => (finish_keeps s id ok detail i).1, fun i => (finish_keeps s id ok detail i).2,
    finish_nextId s id ok detail⟩

theorem SameJobs.onRow {s s' : WallOps} (h : SameJobs s s') {id : UInt32} {row : Int}
    (hrow : s.OnRow id row) : s'.OnRow id row := by
  intro i hi
  rw [h.id] at hi
  rw [h.row]
  exact hrow i hi

/-- What `finish` answers is the job it was asked for. -/
theorem finish_ended {s : WallOps} {id : UInt32} {ok : Bool} {detail : String} {op : WallOp}
    (h : (s.finish id ok detail).1 = some op) : op.id = id := by
  rcases finish_cases s id ok detail with hno | ⟨j, op', _, hid, _, hyes⟩
  · rw [hno] at h
    cases h
  · rw [hyes] at h
    injection h with h
    exact h ▸ hid

/-- **What `failJobs` ends**: jobs that `which` picks, each under its own id. -/
theorem failJobs_spec (s : WallOps) (which : WallOp → Bool) (reason : String) :
    SameJobs s (s.failJobs which reason).2 ∧
      ∀ op ∈ (s.failJobs which reason).1, ∃ i op', (s.ops i).id = op.id ∧ op'.id = op.id ∧
        op'.row = (s.ops i).row ∧ which op' = true := by
  have hfold : ∀ (is : List (Fin WALL_OPS_KEPT)) (acc : List WallOp × WallOps),
      SameJobs s acc.2 →
      (∀ op ∈ acc.1, ∃ i op', (s.ops i).id = op.id ∧ op'.id = op.id ∧
        op'.row = (s.ops i).row ∧ which op' = true) →
      SameJobs s (is.foldl (failStep which reason) acc).2 ∧
        ∀ op ∈ (is.foldl (failStep which reason) acc).1, ∃ i op', (s.ops i).id = op.id ∧
          op'.id = op.id ∧ op'.row = (s.ops i).row ∧ which op' = true := by
    intro is
    induction is with
    | nil => exact fun acc hsame hends => ⟨hsame, hends⟩
    | cons i is ih =>
        intro acc hsame hends
        rw [List.foldl_cons]
        have hfinish := finish_same acc.2 (acc.2.ops i).id false reason
        unfold failStep
        split
        · next hpicked =>
            rw [Bool.and_eq_true] at hpicked
            rcases hcases : acc.2.finish (acc.2.ops i).id false reason with ⟨answer, s'⟩
            rw [hcases] at hfinish
            cases answer with
            | none => exact ih _ (hsame.trans hfinish) hends
            | some op =>
                refine ih _ (hsame.trans hfinish) ?_
                intro op' hop'
                rcases List.mem_append.mp hop' with hold | hnew
                · exact hends op' hold
                · rw [List.mem_singleton] at hnew
                  subst hnew
                  have hanswer : (acc.2.finish (acc.2.ops i).id false reason).1 = some op' := by
                    rw [hcases]
                  have hid : op'.id = (acc.2.ops i).id := finish_ended hanswer
                  refine ⟨i, acc.2.ops i, ?_, hid.symm, hsame.row i, hpicked.2⟩
                  rw [hid, hsame.id]
        · exact ih _ hsame hends
  exact hfold _ ([], s) (SameJobs.rfl' s) (fun _ h => nomatch h)

/-- Where nothing runs, nothing ends. -/
theorem failJobs_idle {s : WallOps} (hidle : ∀ i, running (s.ops i) = false)
    (which : WallOp → Bool) (reason : String) : s.failJobs which reason = ([], s) := by
  have hfold : ∀ is : List (Fin WALL_OPS_KEPT),
      is.foldl (failStep which reason) ([], s) = ([], s) := by
    intro is
    induction is with
    | nil => rfl
    | cons i is ih =>
        rw [List.foldl_cons, failStep, hidle i]
        exact ih
  exact hfold _

/-! ## §2. A new job. -/

/-- `start`: refused, or a place under the next id. -/
theorem start_cases (s : WallOps) (name : String) (row : Int) (unit : UInt8) :
    s.start name row unit = (0, s) ∨
      ∃ i, s.start name row unit = (s.nextId,
        { ops := Function.update s.ops i { id := s.nextId, row := row, unit := unit, name := name }
          nextId := s.nextId + 1 }) := by
  unfold start
  cases s.freePlace with
  | none => exact .inl rfl
  | some i => exact .inr ⟨i, rfl⟩

/-- A new job is one of its row, and moves no other. -/
theorem start_onRow (s : WallOps) (name : String) (row : Int) (unit : UInt8)
    {id : UInt32} {row' : Int} (h : s.OnRow id row') (hid : id = s.nextId → row' = row) :
    (s.start name row unit).2.OnRow id row' := by
  rcases start_cases s name row unit with hno | ⟨j, hyes⟩
  · rw [hno]
    exact h
  · rw [hyes]
    intro i hi
    show (Function.update s.ops j _ i).row = row'
    replace hi : (Function.update s.ops j _ i).id = id := hi
    by_cases hij : i = j
    · subst hij
      rw [Function.update_self] at hi ⊢
      exact (hid hi.symm).symm
    · rw [Function.update_of_ne hij] at hi ⊢
      exact h i hi

/-- The jobs of a table are all older than the next one. -/
def Counted (s : WallOps) : Prop := ∀ i, (s.ops i).id.toNat < s.nextId.toNat

/-- A 32-bit count that does not come round. -/
theorem count_next {n : UInt32} (hroom : n.toNat + 1 < 4294967296) :
    (n + 1).toNat = n.toNat + 1 := by
  rw [UInt32.toNat_add]
  show (n.toNat + 1) % 4294967296 = _
  omega

/-- A new job's id is the counter's, and the counter goes on by one. -/
theorem start_fresh {s : WallOps} (hroom : s.nextId.toNat + 1 < 4294967296) (name : String)
    (row : Int) (unit : UInt8) :
    s.start name row unit = (0, s) ∨
      ((s.start name row unit).1 = s.nextId ∧
        (s.start name row unit).2.nextId.toNat = s.nextId.toNat + 1) := by
  rcases start_cases s name row unit with hno | ⟨j, hyes⟩
  · exact .inl hno
  · rw [hyes]
    exact .inr ⟨rfl, count_next hroom⟩

theorem Counted.start {s : WallOps} (h : s.Counted) (hroom : s.nextId.toNat + 1 < 4294967296)
    (name : String) (row : Int) (unit : UInt8) : (s.start name row unit).2.Counted := by
  rcases start_cases s name row unit with hno | ⟨j, hyes⟩
  · rw [hno]
    exact h
  · rw [hyes]
    intro i
    show (Function.update s.ops j _ i).id.toNat < (s.nextId + 1).toNat
    rw [count_next hroom]
    by_cases hij : i = j
    · subst hij
      rw [Function.update_self]
      exact Nat.lt_succ_self _
    · rw [Function.update_of_ne hij]
      exact Nat.lt_succ_of_lt (h i)

theorem SameJobs.counted {s s' : WallOps} (h : SameJobs s s') (hcounted : s.Counted) :
    s'.Counted := by
  intro i
  rw [h.id, h.nextId]
  exact hcounted i

/-! ## §3. What ends a job. -/

/-- Every job that is not running is one of these. -/
def OverIn (s : WallOps) (ended : List UInt32) : Prop :=
  ∀ i, (s.ops i).phase ≠ .running → (s.ops i).id ∈ ended

theorem OverIn.finish {s : WallOps} {ended : List UInt32} (h : s.OverIn ended) (id : UInt32)
    (ok : Bool) (detail : String) :
    (s.finish id ok detail).2.OverIn (ended ++ ((s.finish id ok detail).1.map (·.id)).toList) := by
  rcases finish_cases s id ok detail with hno | ⟨j, op, _, _, _, hyes⟩
  · rw [hno]
    simpa using h
  · rw [hyes]
    intro i hphase
    replace hphase : (Function.update s.ops j op i).phase ≠ .running := hphase
    show (Function.update s.ops j op i).id ∈ _
    by_cases hij : i = j
    · subst hij
      rw [Function.update_self]
      simp
    · rw [Function.update_of_ne hij] at hphase ⊢
      exact List.mem_append_left _ (h i hphase)

theorem OverIn.failJobs {s : WallOps} {ended : List UInt32} (h : s.OverIn ended)
    (which : WallOp → Bool) (reason : String) :
    (s.failJobs which reason).2.OverIn (ended ++ (s.failJobs which reason).1.map (·.id)) := by
  have hfold : ∀ (is : List (Fin WALL_OPS_KEPT)) (acc : List WallOp × WallOps),
      acc.2.OverIn (ended ++ acc.1.map (·.id)) →
      (is.foldl (failStep which reason) acc).2.OverIn
        (ended ++ (is.foldl (failStep which reason) acc).1.map (·.id)) := by
    intro is
    induction is with
    | nil => exact fun acc hacc => hacc
    | cons i is ih =>
        intro acc hacc
        rw [List.foldl_cons]
        apply ih
        unfold failStep
        split
        · have hfinish := hacc.finish (acc.2.ops i).id false reason
          rcases hcases : acc.2.finish (acc.2.ops i).id false reason with ⟨answer, s'⟩
          rw [hcases] at hfinish
          cases answer with
          | none => simpa using hfinish
          | some op => simpa using hfinish
        · exact hacc
  exact hfold _ ([], s) (by simpa using h)

theorem OverIn.start {s : WallOps} {ended : List UInt32} (h : s.OverIn ended) (name : String)
    (row : Int) (unit : UInt8) : (s.start name row unit).2.OverIn ended := by
  rcases start_cases s name row unit with hno | ⟨j, hyes⟩
  · rw [hno]
    exact h
  · rw [hyes]
    intro i hphase
    replace hphase : (Function.update s.ops j _ i).phase ≠ .running := hphase
    show (Function.update s.ops j _ i).id ∈ _
    by_cases hij : i = j
    · subst hij
      rw [Function.update_self] at hphase
      exact absurd rfl hphase
    · rw [Function.update_of_ne hij] at hphase ⊢
      exact h i hphase

/-! ## §4. Each job ends once. -/

/-- The place the next job takes holds no running job. -/
theorem freePlace_idle {s : WallOps} {i : Fin WALL_OPS_KEPT} (h : s.freePlace = some i) :
    running (s.ops i) = false := by
  have hfold : ∀ (is : List (Fin WALL_OPS_KEPT)) (place : Option (Fin WALL_OPS_KEPT)),
      (∀ j, place = some j → (s.ops j).phase ≠ .running) →
      ∀ j, is.foldl (fun place i =>
          if (s.ops i).phase = .running then place
          else
            match place with
            | none => some i
            | some j => if (s.ops i).id < (s.ops j).id then some i else some j) place = some j →
        (s.ops j).phase ≠ .running := by
    intro is
    induction is with
    | nil => exact fun place hplace => hplace
    | cons i is ih =>
        intro place hplace
        rw [List.foldl_cons]
        apply ih
        by_cases hi : (s.ops i).phase = .running
        · rw [if_pos hi]
          exact hplace
        · rw [if_neg hi]
          cases place with
          | none =>
              intro j hj
              injection hj with hj
              exact hj ▸ hi
          | some k =>
              intro j hj
              dsimp only at hj
              split at hj
              · injection hj with hj
                exact hj ▸ hi
              · exact hplace j hj
  unfold freePlace at h
  unfold running
  split at h
  · next j hfound =>
      injection h with h
      subst h
      have hid := List.find?_some hfound
      rw [decide_eq_true_eq] at hid
      simp [hid]
  · have hphase := hfold _ none (fun _ hj => nomatch hj) i h
    simp [hphase]

/-- A table with a job that does not run has a place for another. -/
theorem freePlace_some {s : WallOps} {i : Fin WALL_OPS_KEPT} (h : running (s.ops i) = false) :
    ∃ j, s.freePlace = some j := by
  have hfold : ∀ (is : List (Fin WALL_OPS_KEPT)) (place : Option (Fin WALL_OPS_KEPT)),
      place.isSome = true ∨ (∃ i ∈ is, (s.ops i).phase ≠ .running) →
      (is.foldl (fun place i =>
          if (s.ops i).phase = .running then place
          else
            match place with
            | none => some i
            | some j => if (s.ops i).id < (s.ops j).id then some i else some j) place).isSome
        = true := by
    intro is
    induction is with
    | nil =>
        rintro place (hplace | ⟨_, hmem, _⟩)
        · exact hplace
        · cases hmem
    | cons k is ih =>
        intro place hplace
        rw [List.foldl_cons]
        apply ih
        by_cases hk : (s.ops k).phase = .running
        · rw [if_pos hk]
          rcases hplace with hplace | ⟨j, hmem, hj⟩
          · exact .inl hplace
          · rcases List.mem_cons.mp hmem with rfl | hmem
            · exact absurd hk hj
            · exact .inr ⟨j, hmem, hj⟩
        · rw [if_neg hk]
          left
          cases place with
          | none => rfl
          | some j => dsimp only; split <;> rfl
  unfold freePlace
  split
  · exact ⟨_, rfl⟩
  · next hfull =>
      rw [List.find?_eq_none] at hfull
      have hid : (s.ops i).id ≠ 0 := by simpa using hfull i (List.mem_finRange i)
      have hphase : (s.ops i).phase ≠ .running := by simpa [running, hid] using h
      exact Option.isSome_iff_exists.mp
        (hfold _ none (.inr ⟨i, List.mem_finRange i, hphase⟩))

/-- A new job leaves every running one where it is. -/
theorem start_running (s : WallOps) (name : String) (row : Int) (unit : UInt8)
    {i : Fin WALL_OPS_KEPT} (h : running (s.ops i) = true) :
    (s.start name row unit).2.ops i = s.ops i := by
  unfold start
  split
  · rfl
  · next j hj =>
      have hne : i ≠ j := by
        rintro rfl
        rw [freePlace_idle hj] at h
        cases h
      exact Function.update_of_ne hne ..

/-- What runs after a job has begun ran before, or is that job. -/
theorem start_runs (s : WallOps) (name : String) (row : Int) (unit : UInt8)
    (i : Fin WALL_OPS_KEPT) :
    (s.start name row unit).2.ops i = s.ops i ∨
      (s.start name row unit).1 = s.nextId ∧ ((s.start name row unit).2.ops i).id = s.nextId ∧
        ((s.start name row unit).2.ops i).row = row := by
  rcases start_cases s name row unit with hno | ⟨j, hyes⟩
  · rw [hno]
    exact .inl rfl
  · rw [hyes]
    show Function.update s.ops j _ i = s.ops i ∨ _ ∧ (Function.update s.ops j _ i).id = _ ∧
      (Function.update s.ops j _ i).row = _
    by_cases hij : i = j
    · subst hij
      rw [Function.update_self]
      exact .inr ⟨rfl, rfl, rfl⟩
    · rw [Function.update_of_ne hij]
      exact .inl rfl

/-- `finish`: nothing, or the running job of this id stops. -/
theorem finish_stop (s : WallOps) (id : UInt32) (ok : Bool) (detail : String) :
    (s.finish id ok detail = (none, s) ∧
        (id ≠ 0 → (∃ i, (s.ops i).id = id) → ∃ i, (s.ops i).id = id ∧ running (s.ops i) = false)) ∨
      ∃ i op, (s.ops i).id = id ∧ running (s.ops i) = true ∧ op.id = id ∧ running op = false ∧
        s.finish id ok detail = (some op, { s with ops := Function.update s.ops i op }) := by
  unfold finish
  cases hplace : s.placeOf id with
  | none =>
      refine .inl ⟨rfl, ?_⟩
      rintro hid ⟨i, hi⟩
      rw [placeOf, if_neg hid, List.find?_eq_none] at hplace
      exact absurd (decide_eq_true hi) (hplace i (List.mem_finRange i))
  | some i =>
      have hid := placeOf_id hplace
      have hzero : id ≠ 0 := by
        rintro rfl
        rw [placeOf, if_pos rfl] at hplace
        cases hplace
      dsimp only
      split
      · next hphase => exact .inl ⟨rfl, fun _ _ => ⟨i, hid, by simp [running, hphase]⟩⟩
      · next hphase =>
          refine .inr ⟨i, { s.ops i with phase := if ok then .done else .failed, detail := detail },
            hid, ?_, hid, ?_, rfl⟩
          · simpa [running, hid, hzero] using hphase
          · cases ok <;> simp [running]

/-- Whose jobs have different ids, none of which has come round, and what has
ended of them, each once. -/
structure Once (s : WallOps) (ended : List UInt32) : Prop where
  counted : s.Counted
  distinct : ∀ i j, (s.ops i).id ≠ 0 → (s.ops i).id = (s.ops j).id → i = j
  nodup : ended.Nodup
  stopped : ∀ i, (s.ops i).id ∈ ended → running (s.ops i) = false
  known : ∀ id ∈ ended, id.toNat < s.nextId.toNat

theorem once_start : Once {} [] :=
  ⟨fun _ => Nat.zero_lt_one, fun _ _ h => absurd rfl h, List.nodup_nil, fun _ h => (nomatch h),
    fun _ h => (nomatch h)⟩

theorem Once.start {s : WallOps} {ended : List UInt32} (h : s.Once ended)
    (hroom : s.nextId.toNat + 1 < 4294967296) (name : String) (row : Int) (unit : UInt8) :
    (s.start name row unit).2.Once ended := by
  have hnew : ∀ i, (s.ops i).id ≠ s.nextId := by
    intro i hi
    have hless := h.counted i
    rw [hi] at hless
    exact absurd hless (Nat.lt_irrefl _)
  refine ⟨h.counted.start hroom name row unit, ?_, h.nodup, ?_, ?_⟩
  · rcases start_cases s name row unit with hno | ⟨k, hyes⟩
    · rw [hno]
      exact h.distinct
    · rw [hyes]
      intro i j hid hij
      replace hid : (Function.update s.ops k _ i).id ≠ 0 := hid
      replace hij : (Function.update s.ops k _ i).id = (Function.update s.ops k _ j).id := hij
      by_cases hi : i = k
      · by_cases hj : j = k
        · rw [hi, hj]
        · subst hi
          rw [Function.update_self, Function.update_of_ne hj] at hij
          exact absurd hij.symm (hnew j)
      · by_cases hj : j = k
        · subst hj
          rw [Function.update_self, Function.update_of_ne hi] at hij
          exact absurd hij (hnew i)
        · rw [Function.update_of_ne hi] at hid hij
          rw [Function.update_of_ne hj] at hij
          exact h.distinct i j hid hij
  · intro i hi
    rcases start_runs s name row unit i with hsame | ⟨_, hid, _⟩
    · rw [hsame] at hi ⊢
      exact h.stopped i hi
    · rw [hid] at hi
      exact absurd (h.known _ hi) (Nat.lt_irrefl _)
  · intro id hid
    rcases start_fresh hroom name row unit with hno | ⟨_, hnext⟩
    · rw [hno]
      exact h.known id hid
    · rw [hnext]
      exact Nat.lt_succ_of_lt (h.known id hid)

theorem Once.finish {s : WallOps} {ended : List UInt32} (h : s.Once ended) (id : UInt32)
    (ok : Bool) (detail : String) :
    (s.finish id ok detail).2.Once (ended ++ (s.finish id ok detail).1.toList.map (·.id)) ∧
      ∀ i, running ((s.finish id ok detail).2.ops i) = true →
        (s.finish id ok detail).2.ops i = s.ops i ∧ (s.ops i).id ≠ id := by
  rcases finish_stop s id ok detail with ⟨hno, hstopped⟩ | ⟨k, op, hk, hruns, hid, hstop, hyes⟩
  · rw [hno]
    refine ⟨by simpa using h, ?_⟩
    intro i hi
    refine ⟨rfl, ?_⟩
    intro hsame
    have hzero : id ≠ 0 := by
      rintro rfl
      simp [running, hsame] at hi
    obtain ⟨j, hj, hjstop⟩ := hstopped hzero ⟨i, hsame⟩
    have hij : i = j := h.distinct i j (hsame ▸ hzero) (hsame.trans hj.symm)
    subst hij
    rw [hjstop] at hi
    cases hi
  · have hzero : id ≠ 0 := by
      rintro rfl
      simp [running, hk] at hruns
    have hids : ∀ i, (Function.update s.ops k op i).id = (s.ops i).id := by
      intro i
      by_cases hi : i = k
      · subst hi
        rw [Function.update_self, hid, hk]
      · rw [Function.update_of_ne hi]
    rw [hyes]
    refine ⟨⟨?_, ?_, ?_, ?_, ?_⟩, ?_⟩
    · intro i
      show (Function.update s.ops k op i).id.toNat < _
      rw [hids]
      exact h.counted i
    · intro i j hi hij
      replace hi : (Function.update s.ops k op i).id ≠ 0 := hi
      replace hij : (Function.update s.ops k op i).id = (Function.update s.ops k op j).id := hij
      rw [hids] at hi hij
      rw [hids] at hij
      exact h.distinct i j hi hij
    · -- the job ran, so it is not among what had ended
      have hfresh : id ∉ ended := by
        intro hmem
        have hstopped := h.stopped k (hk ▸ hmem)
        rw [hstopped] at hruns
        cases hruns
      rw [Option.toList_some, List.map_singleton, hid, List.nodup_append]
      refine ⟨h.nodup, List.nodup_singleton _, ?_⟩
      intro a ha b hb
      rw [List.mem_singleton] at hb
      subst hb
      rintro rfl
      exact hfresh ha
    · intro i hmem
      show running (Function.update s.ops k op i) = false
      replace hmem : (Function.update s.ops k op i).id ∈ ended ++ [op.id] := hmem
      by_cases hi : i = k
      · subst hi
        rw [Function.update_self]
        exact hstop
      · rw [Function.update_of_ne hi] at hmem ⊢
        rcases List.mem_append.mp hmem with hmem | hmem
        · exact h.stopped i hmem
        · rw [List.mem_singleton, hid] at hmem
          exact absurd (h.distinct i k (hmem ▸ hzero) (hmem.trans hk.symm)) hi
    · intro id' hid'
      rcases List.mem_append.mp hid' with hmem | hmem
      · exact h.known id' hmem
      · replace hmem : id' ∈ [op.id] := hmem
        rw [List.mem_singleton] at hmem
        rw [hmem, hid, ← hk]
        exact h.counted k
    · intro i hi
      replace hi : running (Function.update s.ops k op i) = true := hi
      show Function.update s.ops k op i = s.ops i ∧ _
      by_cases hik : i = k
      · subst hik
        rw [Function.update_self, hstop] at hi
        cases hi
      · rw [Function.update_of_ne hik] at hi ⊢
        refine ⟨rfl, ?_⟩
        intro hsame
        exact hik (h.distinct i k (hsame ▸ hzero) (hsame.trans hk.symm))

/-- **What `failJobs` leaves running** ran before and is not one it picks. -/
theorem Once.failJobs {s : WallOps} {ended : List UInt32} (h : s.Once ended)
    (which : WallOp → Bool) (reason : String) :
    (s.failJobs which reason).2.Once (ended ++ (s.failJobs which reason).1.map (·.id)) ∧
      ∀ i, running ((s.failJobs which reason).2.ops i) = true →
        (s.failJobs which reason).2.ops i = s.ops i ∧ which (s.ops i) = false := by
  -- the loop: what it has passed is stopped or not picked
  have hfold : ∀ (is : List (Fin WALL_OPS_KEPT)) (acc : List WallOp × WallOps),
      acc.2.Once (ended ++ acc.1.map (·.id)) →
      (∀ i, running (acc.2.ops i) = true → acc.2.ops i = s.ops i) →
      (is.foldl (failStep which reason) acc).2.Once
          (ended ++ (is.foldl (failStep which reason) acc).1.map (·.id)) ∧
        (∀ i, running ((is.foldl (failStep which reason) acc).2.ops i) = true →
          (is.foldl (failStep which reason) acc).2.ops i = acc.2.ops i ∧
            (i ∈ is → which (acc.2.ops i) = false)) := by
    intro is
    induction is with
    | nil => exact fun acc honce _ => ⟨honce, fun i _ => ⟨rfl, fun hi => (nomatch hi)⟩⟩
    | cons k is ih =>
        intro acc honce hsame
        rw [List.foldl_cons]
        have hstep : (failStep which reason acc k).2.Once
              (ended ++ (failStep which reason acc k).1.map (·.id)) ∧
            ∀ i, running ((failStep which reason acc k).2.ops i) = true →
              (failStep which reason acc k).2.ops i = acc.2.ops i ∧
                (i = k → which (acc.2.ops i) = false) := by
          unfold failStep
          split
          · next hpicked =>
              obtain ⟨hfinished, hrest⟩ := honce.finish (acc.2.ops k).id false reason
              have hends : ∀ i, i = k →
                  (acc.2.ops i).id ≠ (acc.2.ops k).id → which (acc.2.ops i) = false :=
                fun i hi hne => absurd (congrArg (fun j => (acc.2.ops j).id) hi) hne
              rcases hcases : acc.2.finish (acc.2.ops k).id false reason with ⟨answer, s'⟩
              rw [hcases] at hfinished hrest
              cases answer with
              | none =>
                  refine ⟨by simpa using hfinished, ?_⟩
                  exact fun i hi => ⟨(hrest i hi).1, fun hik => hends i hik (hrest i hi).2⟩
              | some op =>
                  refine ⟨by simpa using hfinished, ?_⟩
                  exact fun i hi => ⟨(hrest i hi).1, fun hik => hends i hik (hrest i hi).2⟩
          · next hpicked =>
              refine ⟨honce, fun i hi => ⟨rfl, ?_⟩⟩
              rintro rfl
              rw [hi, Bool.true_and, Bool.not_eq_true] at hpicked
              exact hpicked
        have hrest := ih _ hstep.1 fun i hi => ((hstep.2 i hi).1).trans (hsame i (by
          rw [← (hstep.2 i hi).1]
          exact hi))
        refine ⟨hrest.1, ?_⟩
        intro i hi
        obtain ⟨hkeeps, hpassed⟩ := hrest.2 i hi
        have hruns : running ((failStep which reason acc k).2.ops i) = true := by
          rw [← hkeeps]
          exact hi
        obtain ⟨hkeeps', hfirst⟩ := hstep.2 i hruns
        refine ⟨hkeeps.trans hkeeps', ?_⟩
        intro hmem
        rcases List.mem_cons.mp hmem with hik | hmem
        · exact hfirst hik
        · rw [← hkeeps']
          exact hpassed hmem
  have hnone : s.Once (ended ++ ([] : List WallOp).map (·.id)) := by
    rw [List.map_nil, List.append_nil]
    exact h
  have hall := hfold (List.finRange WALL_OPS_KEPT) ([], s) hnone fun _ _ => rfl
  unfold WallOps.failJobs
  refine ⟨hall.1, ?_⟩
  intro i hi
  obtain ⟨hkeeps, hpassed⟩ := hall.2 i hi
  exact ⟨hkeeps, hpassed (List.mem_finRange i)⟩

end WallOps

end SplitFlap
