/-
  SplitFlap.Wall.JobSlot — the life of a unit job in the core.

  Seen from one row, the log of the core is a word of the automaton `jobStep`:
  a job is accepted only when none is open, written at most once, and ended by
  exactly one of the row's answer, `jobEnded`, the row's restart and `reset`.
  The state of the automaton is the row's job slot (`Follows`), and every move
  keeps that.
-/
import SplitFlap.Lib.Log
import SplitFlap.Link.Codec
import SplitFlap.Wall.Reading

namespace SplitFlap

namespace Link

open Log

/-! ## §1. What may happen to a job, and in which order. -/

/-- Where the open job of a row stands. -/
inductive JobLife where
  | idle
  | waiting (op : WlOp)
  | sent (op : WlOp)
  deriving DecidableEq

/-- What the log says of one row's jobs. -/
inductive JobEvent where
  | accepted (op : WlOp)
  | handed (op : WlOp)
  | answered (state : WlOpState)
  | ended (opId : UInt32) (why : WallJobEnd)
  | restarted
  | forgotten
  deriving DecidableEq

/-- The life of a job; `none` where an event is out of order. -/
def jobStep : JobLife → JobEvent → Option JobLife
  | .idle, .accepted op => some (.waiting op)
  | .waiting op, .handed op' => if op' = op then some (.sent op) else none
  | .waiting op, .ended opId .notHandedOver => if opId = op.opId then some .idle else none
  | .sent op, .ended opId .noResult => if opId = op.opId then some .idle else none
  | .sent op, .answered state =>
      if state.opId = op.opId then
        if state.phase = .running then some (.sent op) else some .idle
      else none
  | _, .restarted => some .idle
  | _, .forgotten => some .idle
  | _, _ => none

/-- The event as one of row `r`'s jobs. -/
def jobView (r : RowIx) : LinkEvent → Option JobEvent
  | .jobAccepted r' op => if r' = r then some (.accepted op) else none
  | .write _ r' (.op op) true => if r' = r then some (.handed op) else none
  | .rowMessage _ r' (.opState state) => if r' = r then some (.answered state) else none
  | .jobEnded r' opId why => if r' = r then some (.ended opId why) else none
  | .rowHello _ r' _ true => if r' = r then some .restarted else none
  | .reset => some .forgotten
  | _ => none

/-- What a log says of row `r`'s jobs. -/
def jobLog (r : RowIx) (log : List LinkEvent) : List JobEvent := log.filterMap (jobView r)

namespace JobEvent

def isAccepted : JobEvent → Bool
  | .accepted _ => true
  | _ => false

def isHanded : JobEvent → Bool
  | .handed _ => true
  | _ => false

/-- The four ways a job ends: the row's answer, the core's own report, a
restart of the row, a changed rows table. -/
def isEnd : JobEvent → Bool
  | .answered state => state.phase ≠ .running
  | .ended .. | .restarted | .forgotten => true
  | _ => false

/-- What only an open job can cause. -/
def needsJob : JobEvent → Bool
  | .handed _ | .answered _ | .ended .. => true
  | _ => false

end JobEvent

namespace JobLife

/-- Is this job open, written or not? -/
def holds (op : WlOp) (life : JobLife) : Prop := life = .waiting op ∨ life = .sent op

/-- How often the open job may still be written. -/
def writesLeft : JobLife → Nat
  | .waiting _ => 1
  | _ => 0

end JobLife

/-! ## §2. What the automaton allows. -/

/-- Everything a step of the automaton can be. -/
theorem jobStep_cases {q q' : JobLife} {e : JobEvent} (h : jobStep q e = some q') :
    (∃ op, q = .idle ∧ e = .accepted op ∧ q' = .waiting op) ∨
    (∃ op, q = .waiting op ∧ e = .handed op ∧ q' = .sent op) ∨
    (∃ op, q = .waiting op ∧ e = .ended op.opId .notHandedOver ∧ q' = .idle) ∨
    (∃ op, q = .sent op ∧ e = .ended op.opId .noResult ∧ q' = .idle) ∨
    (∃ op state, q = .sent op ∧ e = .answered state ∧ state.opId = op.opId ∧
      q' = if state.phase = .running then .sent op else .idle) ∨
    ((e = .restarted ∨ e = .forgotten) ∧ q' = .idle) := by
  unfold jobStep at h
  split at h
  · next op =>
      injection h with h
      exact .inl ⟨op, rfl, rfl, h.symm⟩
  · next op op' =>
      split at h
      · next hop =>
          injection h with h
          exact .inr (.inl ⟨op, rfl, by rw [hop], h.symm⟩)
      · cases h
  · next op opId =>
      split at h
      · next hid =>
          injection h with h
          exact .inr (.inr (.inl ⟨op, rfl, by rw [hid], h.symm⟩))
      · cases h
  · next op opId =>
      split at h
      · next hid =>
          injection h with h
          exact .inr (.inr (.inr (.inl ⟨op, rfl, by rw [hid], h.symm⟩)))
      · cases h
  · next op state =>
      split at h
      · next hid =>
          refine .inr (.inr (.inr (.inr (.inl ⟨op, state, rfl, rfl, hid, ?_⟩))))
          by_cases hrun : state.phase = .running
          · rw [if_pos hrun] at h ⊢
            injection h with h
            exact h.symm
          · rw [if_neg hrun] at h ⊢
            injection h with h
            exact h.symm
      · cases h
  · injection h with h
    exact .inr (.inr (.inr (.inr (.inr ⟨.inl rfl, h.symm⟩))))
  · injection h with h
    exact .inr (.inr (.inr (.inr (.inr ⟨.inr rfl, h.symm⟩))))
  · cases h

/-- Each write of a job uses up the only one there is. -/
theorem jobStep_pays (q : JobLife) (e : JobEvent) (q' : JobLife) (hsame : e.isAccepted = false)
    (h : jobStep q e = some q') :
    (if e.isHanded then 1 else 0) + q'.writesLeft ≤ q.writesLeft := by
  rcases jobStep_cases h with ⟨op, rfl, rfl, rfl⟩ | ⟨op, rfl, rfl, rfl⟩ | ⟨op, rfl, rfl, rfl⟩ |
    ⟨op, rfl, rfl, rfl⟩ | ⟨op, state, rfl, rfl, _, rfl⟩ | ⟨he, rfl⟩
  · cases hsame
  · exact Nat.le_refl 1
  · exact Nat.zero_le 1
  · exact Nat.le_refl 0
  · show 0 + JobLife.writesLeft (if state.phase = .running then .sent op else .idle) ≤ 0
    split <;> exact Nat.le_refl 0
  · rcases he with rfl | rfl
    · exact Nat.zero_le _
    · exact Nat.zero_le _

/-- An end leaves no job open. -/
theorem jobStep_end {q q' : JobLife} {e : JobEvent} (hend : e.isEnd = true)
    (h : jobStep q e = some q') : q' = .idle := by
  rcases jobStep_cases h with ⟨op, rfl, rfl, rfl⟩ | ⟨op, rfl, rfl, rfl⟩ | ⟨op, rfl, rfl, rfl⟩ |
    ⟨op, rfl, rfl, rfl⟩ | ⟨op, state, rfl, rfl, _, rfl⟩ | ⟨he, rfl⟩
  · cases hend
  · cases hend
  · rfl
  · rfl
  · rw [if_neg]
    exact of_decide_eq_true hend
  · rfl

/-- Anything else but an acceptance leaves the open job open. -/
theorem jobStep_holds {q q' : JobLife} {e : JobEvent} {op : WlOp} (hq : q.holds op)
    (hend : e.isEnd = false) (h : jobStep q e = some q') : q'.holds op := by
  rcases jobStep_cases h with ⟨op', rfl, rfl, rfl⟩ | ⟨op', rfl, rfl, rfl⟩ | ⟨op', rfl, rfl, rfl⟩ |
    ⟨op', rfl, rfl, rfl⟩ | ⟨op', state, rfl, rfl, _, rfl⟩ | ⟨he, rfl⟩
  · rcases hq with hq | hq <;> cases hq
  · rcases hq with hq | hq
    · cases hq
      exact .inr rfl
    · cases hq
  · cases hend
  · cases hend
  · rw [if_pos (by simpa [JobEvent.isEnd] using hend)]
    exact hq
  · rcases he with rfl | rfl <;> cases hend

/-- Without a job only an acceptance changes anything, and nothing that needs
a job can happen. -/
theorem jobStep_idle {q' : JobLife} {e : JobEvent} (hsame : e.isAccepted = false)
    (h : jobStep .idle e = some q') : q' = .idle ∧ e.needsJob = false := by
  rcases jobStep_cases h with ⟨op, hq, rfl, rfl⟩ | ⟨op, hq, _⟩ | ⟨op, hq, _⟩ | ⟨op, hq, _⟩ |
    ⟨op, state, hq, _⟩ | ⟨he, rfl⟩
  · cases hsame
  · cases hq
  · cases hq
  · cases hq
  · cases hq
  · rcases he with rfl | rfl <;> exact ⟨rfl, rfl⟩

theorem accepts_idle {log : List JobEvent} (hsame : ∀ e ∈ log, e.isAccepted = false) {q : JobLife}
    (h : accepts jobStep .idle log = some q) : ∀ e ∈ log, e.needsJob = false := by
  induction log generalizing q with
  | nil =>
      intro e he
      cases he
  | cons e log ih =>
      rw [accepts_cons, Option.bind_eq_some_iff] at h
      obtain ⟨m, hm, hrest⟩ := h
      obtain ⟨hmq, hneeds⟩ := jobStep_idle (hsame e List.mem_cons_self) hm
      subst hmq
      intro e' he'
      rcases List.mem_cons.mp he' with rfl | hmem
      · exact hneeds
      · exact ih (fun e he => hsame e (List.mem_cons_of_mem _ he)) hrest e' hmem

/-- Without an acceptance an empty slot stays empty. -/
theorem accepts_stays {log : List JobEvent} (hsame : ∀ e ∈ log, e.isAccepted = false) {q : JobLife}
    (h : accepts jobStep .idle log = some q) : q = .idle := by
  induction log generalizing q with
  | nil =>
      rw [accepts_nil, Option.some.injEq] at h
      exact h.symm
  | cons e log ih =>
      rw [accepts_cons, Option.bind_eq_some_iff] at h
      obtain ⟨m, hm, hrest⟩ := h
      obtain ⟨rfl, _⟩ := jobStep_idle (hsame e List.mem_cons_self) hm
      exact ih (fun e he => hsame e (List.mem_cons_of_mem _ he)) hrest

theorem accepts_holds {log : List JobEvent} (hend : ∀ e ∈ log, e.isEnd = false) {op : WlOp} :
    ∀ {q q' : JobLife}, q.holds op → accepts jobStep q log = some q' → q'.holds op := by
  induction log with
  | nil =>
      intro q q' hq h
      rw [accepts_nil, Option.some.injEq] at h
      exact h ▸ hq
  | cons e log ih =>
      intro q q' hq h
      rw [accepts_cons, Option.bind_eq_some_iff] at h
      obtain ⟨m, hm, hrest⟩ := h
      exact ih (fun e he => hend e (List.mem_cons_of_mem _ he))
        (jobStep_holds hq (hend e List.mem_cons_self) hm) hrest

/-- Where an accepted log goes through an acceptance. -/
theorem accepts_split {pre post : List JobEvent} {op : WlOp} {q : JobLife}
    (h : accepts jobStep .idle (pre ++ .accepted op :: post) = some q) :
    accepts jobStep .idle pre = some .idle ∧ accepts jobStep (.waiting op) post = some q := by
  rw [accepts_append, Option.bind_eq_some_iff] at h
  obtain ⟨m, hm, h⟩ := h
  rw [accepts_cons, Option.bind_eq_some_iff] at h
  obtain ⟨n, hn, h⟩ := h
  rcases jobStep_cases hn with ⟨op', rfl, he, rfl⟩ | ⟨_, _, he, _⟩ | ⟨_, _, he, _⟩ | ⟨_, _, he, _⟩ |
    ⟨_, _, _, he, _⟩ | ⟨he, _⟩
  · injection he with he
    subst he
    exact ⟨hm, h⟩
  · cases he
  · cases he
  · cases he
  · cases he
  · rcases he with he | he <;> cases he

/-! ## §3. What an accepted log says of each job. -/

/-- The life of every job in a log: the job itself, what happened until the
next one was accepted, and the rest. -/
structure OneLife (log : List JobEvent) : Prop where
  /-- It was accepted when no job was open. -/
  alone : ∀ pre op post, log = pre ++ .accepted op :: post → accepts jobStep .idle pre = some .idle
  /-- It is written at most once. -/
  once : ∀ pre op mid post, log = pre ++ .accepted op :: (mid ++ post) →
    (∀ e ∈ mid, e.isAccepted = false) → mid.countP JobEvent.isHanded ≤ 1
  /-- It stays open until it ends. -/
  stays : ∀ pre op mid post, log = pre ++ .accepted op :: (mid ++ post) →
    (∀ e ∈ mid, e.isEnd = false) →
    ∃ q, accepts jobStep .idle (pre ++ .accepted op :: mid) = some q ∧ q.holds op
  /-- It ends once: after its end nothing happens that needs a job. -/
  ends : ∀ pre op mid e after post, log = pre ++ .accepted op :: (mid ++ e :: (after ++ post)) →
    e.isEnd = true → (∀ e' ∈ after, e'.isAccepted = false) →
    ∀ e' ∈ after, e'.needsJob = false
  /-- An end that names a job names this one, and it was not handed over only
  if it was never written. -/
  named : ∀ pre op mid e post, log = pre ++ .accepted op :: (mid ++ e :: post) →
    (∀ e' ∈ mid, e'.isAccepted = false) →
    (∀ state, e = .answered state → state.opId = op.opId) ∧
    (∀ opId why, e = .ended opId why → opId = op.opId) ∧
    (∀ opId, e = .ended opId .notHandedOver → mid.countP JobEvent.isHanded = 0)

/-- Open is the accepted job or none. -/
theorem accepts_same {log : List JobEvent} (hsame : ∀ e ∈ log, e.isAccepted = false) {op : WlOp} :
    ∀ {q q' : JobLife}, q.holds op ∨ q = .idle → accepts jobStep q log = some q' →
      q'.holds op ∨ q' = .idle := by
  induction log with
  | nil =>
      intro q q' hq h
      rw [accepts_nil, Option.some.injEq] at h
      exact h ▸ hq
  | cons e log ih =>
      intro q q' hq h
      rw [accepts_cons, Option.bind_eq_some_iff] at h
      obtain ⟨m, hm, hrest⟩ := h
      refine ih (fun e he => hsame e (List.mem_cons_of_mem _ he)) ?_ hrest
      rcases hq with hq | rfl
      · by_cases hend : e.isEnd = true
        · exact .inr (jobStep_end hend hm)
        · exact .inl (jobStep_holds hq (by simpa using hend) hm)
      · exact .inr (jobStep_idle (hsame e List.mem_cons_self) hm).1

theorem OneLife.of_accepts {log : List JobEvent} {q : JobLife}
    (h : accepts jobStep .idle log = some q) : OneLife log := by
  refine ⟨?_, ?_, ?_, ?_, ?_⟩
  · rintro pre op post rfl
    exact (accepts_split h).1
  · rintro pre op mid post rfl hsame
    have hlife := (accepts_split h).2
    rw [accepts_append, Option.bind_eq_some_iff] at hlife
    obtain ⟨m, hm, _⟩ := hlife
    have hspent := spent_le jobStep_pays hsame hm
    exact Nat.le_trans (Nat.le_add_right _ _) hspent
  · rintro pre op mid post rfl hend
    obtain ⟨hidle, hlife⟩ := accepts_split h
    rw [accepts_append, Option.bind_eq_some_iff] at hlife
    obtain ⟨m, hm, _⟩ := hlife
    refine ⟨m, ?_, accepts_holds hend (.inl rfl) hm⟩
    rw [accepts_append, hidle, Option.bind_some, accepts_cons]
    exact hm
  · rintro pre op mid e after post rfl hend hsame
    have hlife := (accepts_split h).2
    rw [accepts_append, Option.bind_eq_some_iff] at hlife
    obtain ⟨m, _, hlife⟩ := hlife
    rw [accepts_cons, Option.bind_eq_some_iff] at hlife
    obtain ⟨n, hn, hlife⟩ := hlife
    rw [jobStep_end hend hn, accepts_append, Option.bind_eq_some_iff] at hlife
    obtain ⟨_, hafter, _⟩ := hlife
    exact accepts_idle hsame hafter
  · rintro pre op mid e post rfl hsame
    have hlife := (accepts_split h).2
    rw [accepts_append, Option.bind_eq_some_iff] at hlife
    obtain ⟨m, hm, hlife⟩ := hlife
    rw [accepts_cons, Option.bind_eq_some_iff] at hlife
    obtain ⟨n, hn, _⟩ := hlife
    have hspent := spent_le jobStep_pays hsame hm
    have hopen : ∀ op', m = .waiting op' ∨ m = .sent op' → op' = op := by
      intro op' hop'
      rcases accepts_same hsame (.inl (.inl rfl)) hm with (rfl | rfl) | rfl
      · rcases hop' with hop' | hop' <;> cases hop'; rfl
      · rcases hop' with hop' | hop' <;> cases hop'; rfl
      · rcases hop' with hop' | hop' <;> cases hop'
    rcases jobStep_cases hn with ⟨_, rfl, rfl, rfl⟩ | ⟨_, rfl, rfl, rfl⟩ | ⟨op', rfl, rfl, rfl⟩ |
      ⟨op', rfl, rfl, rfl⟩ | ⟨op', state, rfl, rfl, hid, rfl⟩ | ⟨he, rfl⟩
    · exact ⟨fun _ h => (nomatch h), fun _ _ h => (nomatch h), fun _ h => (nomatch h)⟩
    · exact ⟨fun _ h => (nomatch h), fun _ _ h => (nomatch h), fun _ h => (nomatch h)⟩
    · have hop := hopen op' (.inl rfl)
      subst hop
      refine ⟨fun _ h => (nomatch h), ?_, ?_⟩
      · intro opId why he
        injection he with he _
        exact he.symm
      · intro opId _
        have hleft : JobLife.writesLeft (.waiting op') = 1 := rfl
        omega
    · have hop := hopen op' (.inr rfl)
      subst hop
      refine ⟨fun _ h => (nomatch h), ?_, fun _ h => (nomatch h)⟩
      intro opId why he
      injection he with he _
      exact he.symm
    · have hop := hopen op' (.inr rfl)
      subst hop
      refine ⟨?_, fun _ _ h => (nomatch h), fun _ h => (nomatch h)⟩
      intro state' he
      injection he with he
      rw [← he]
      exact hid
    · rcases he with rfl | rfl
      · exact ⟨fun _ h => (nomatch h), fun _ _ h => (nomatch h), fun _ h => (nomatch h)⟩
      · exact ⟨fun _ h => (nomatch h), fun _ _ h => (nomatch h), fun _ h => (nomatch h)⟩

/-! ## §4. The core follows the automaton. -/

section Slot

variable [Nanopb]

/-- The job slot, as a state of the automaton. -/
def lifeOf (j : WallRowJob) : JobLife :=
  match j.stage with
  | .none => .idle
  | .waiting => .waiting j.op
  | .sent => .sent j.op

/-- Every row's job slot is where the log leaves its automaton. -/
def Follows (s : Link) : Prop :=
  ∀ r, accepts jobStep .idle (jobLog r s.log) = some (lifeOf (s.rows r).job)

omit [Nanopb] in
theorem jobLog_snoc (r : RowIx) (log : List LinkEvent) (e : LinkEvent) :
    jobLog r (log ++ [e]) = jobLog r log ++ (jobView r e).toList := by
  unfold jobLog
  rw [List.filterMap_append]
  cases h : jobView r e <;> simp [h]

omit [Nanopb] in
/-- Where an accepted log stands before and after one of its events. -/
theorem life_step {log rest : List LinkEvent} {e : LinkEvent} {r : RowIx} {q : JobLife}
    (h : accepts jobStep .idle (jobLog r (log ++ e :: rest)) = some q) :
    ∃ a b, accepts jobStep .idle (jobLog r log) = some a ∧
      accepts jobStep .idle (jobLog r (log ++ [e])) = some b ∧
      (jobView r e = none ∧ b = a ∨ ∃ je, jobView r e = some je ∧ jobStep a je = some b) := by
  have hsplit : log ++ e :: rest = log ++ [e] ++ rest := by simp
  rw [hsplit, jobLog, List.filterMap_append, accepts_append, Option.bind_eq_some_iff] at h
  obtain ⟨b, hb, _⟩ := h
  have hb' := hb
  rw [← jobLog, jobLog_snoc, accepts_append, Option.bind_eq_some_iff] at hb'
  obtain ⟨a, ha, hstep⟩ := hb'
  refine ⟨a, b, ha, hb, ?_⟩
  cases hview : jobView r e with
  | none =>
      rw [hview] at hstep
      injection hstep with hstep
      exact .inl ⟨rfl, hstep.symm⟩
  | some je =>
      rw [hview] at hstep
      refine .inr ⟨je, rfl, ?_⟩
      rw [Option.toList_some, accepts_cons, Option.bind_eq_some_iff] at hstep
      obtain ⟨m, hm, hlast⟩ := hstep
      injection hlast with hlast
      rw [← hlast]
      exact hm

omit [Nanopb] in
/-- Only an acceptance leaves a job waiting that was not. -/
theorem jobStep_waiting {q : JobLife} {e : JobEvent} {op : WlOp}
    (h : jobStep q e = some (.waiting op)) : e = .accepted op := by
  rcases jobStep_cases h with ⟨op', rfl, rfl, hop⟩ | ⟨_, _, _, hop⟩ | ⟨_, _, _, hop⟩ |
    ⟨_, _, _, hop⟩ | ⟨_, state, _, _, _, hop⟩ | ⟨_, hop⟩
  · injection hop with hop
    rw [hop]
  · cases hop
  · cases hop
  · cases hop
  · split at hop <;> cases hop
  · cases hop

omit [Nanopb] in
theorem jobView_accepted {r : RowIx} {e : LinkEvent} {op : WlOp}
    (h : jobView r e = some (.accepted op)) : e = .jobAccepted r op := by
  unfold jobView at h
  split at h
  · split at h
    · next hr =>
        injection h with h
        injection h with h
        rw [hr, h]
    · cases h
  all_goals first | (split at h <;> cases h) | cases h

/-- A move that says nothing of jobs and leaves the slots alone. -/
theorem Follows.silent {s s' : Link} (h : s.Follows) (hlog : s'.log = s.log)
    (hjob : ∀ r, (s'.rows r).job = (s.rows r).job) : s'.Follows := by
  intro r
  rw [hlog, hjob]
  exact h r

/-- A move that says `e`. -/
theorem Follows.says {s s' : Link} (h : s.Follows) (e : LinkEvent) (hlog : s'.log = s.log ++ [e])
    (hstep : ∀ r,
      (jobView r e = none ∧ lifeOf (s'.rows r).job = lifeOf (s.rows r).job) ∨
      ∃ je, jobView r e = some je ∧
        jobStep (lifeOf (s.rows r).job) je = some (lifeOf (s'.rows r).job)) : s'.Follows := by
  intro r
  rw [hlog, jobLog_snoc]
  rcases hstep r with ⟨hview, hlife⟩ | ⟨je, hview, hlife⟩
  · rw [hview, hlife]
    simpa using h r
  · rw [hview]
    exact accepts_snoc (h r) hlife

/-- A move that says nothing of jobs. -/
theorem Follows.aside {s s' : Link} (h : s.Follows) (e : LinkEvent) (hlog : s'.log = s.log ++ [e])
    (hview : ∀ r, jobView r e = none) (hjob : ∀ r, (s'.rows r).job = (s.rows r).job) :
    s'.Follows :=
  h.says e hlog fun r => .inl ⟨hview r, by rw [hjob r]⟩

theorem setRow_job {s : Link} {r : RowIx} {row : WallLinkRow} (h : row.job = (s.rows r).job)
    (i : RowIx) : ((s.setRow r row).rows i).job = (s.rows i).job := by
  by_cases hi : i = r
  · subst hi
    simpa using h
  · simp [hi]

theorem closed_job (s : Link) (conn : ConnIx) (r : RowIx) :
    ((s.closed conn).rows r).job = (s.rows r).job := by
  rw [closed_rows]
  split <;> rfl

theorem showed_job (s : Link) (conn : ConnIx) (r : RowIx) (ok : Bool) (nowMs : UInt32)
    (i : RowIx) : ((s.showed conn r ok nowMs).rows i).job = (s.rows i).job := by
  cases ok with
  | false => exact wrote_job s conn r i _ false nowMs
  | true =>
      refine (setRow_job ?_ i).trans (wrote_job s conn r i _ true nowMs)
      simp

/-- The Hello of a welcomed row: a restart ends whatever was open. -/
theorem Follows.welcomed {s : Link} (h : s.Follows) (conn : ConnIx) (r : RowIx) (hl : WlHello)
    (nowMs : UInt32) : (s.welcomed conn r hl nowMs).Follows := by
  refine h.says _ rfl ?_
  intro i
  by_cases hi : i = r
  · subst hi
    cases hrestart : (((s.rows i).contact.onHeard nowMs).noteBoot hl.bootId).2 with
    | false =>
        refine .inl ⟨rfl, ?_⟩
        simp [Link.welcomed, hrestart]
    | true =>
        refine .inr ⟨.restarted, by simp [jobView], ?_⟩
        simp only [Link.welcomed, emit_rows, setRow_rows, Function.update_self, hrestart, if_true]
        cases lifeOf (s.rows i).job <;> rfl
  · refine .inl ⟨?_, ?_⟩
    · cases (((s.rows r).contact.onHeard nowMs).noteBoot hl.bootId).2 with
      | false => rfl
      | true => exact if_neg (fun hr => hi hr.symm)
    · simp [Link.welcomed, hi]

/-- A row's answer: the one about its open job is told, any other is not. -/
theorem Follows.answered {s : Link} (h : s.Follows) (conn : ConnIx) (r : RowIx)
    (state : WlOpState) (nowMs : UInt32) : (s.hear conn r (.opState state) nowMs).Follows := by
  by_cases hours : (s.rows r).job.stage ≠ .sent ∨ state.opId ≠ (s.rows r).job.op.opId
  · have hanswer : (s.rows r).job.answer state = ((s.rows r).job, false) := by
      rw [WallRowJob.answer, if_pos hours]
    refine h.silent ?_ ?_
    · simp [hear, rowHears, hanswer]
    · intro i
      simp only [hear, rowHears, hanswer]
      refine setRow_job ?_ i
      rfl
  · have hours' := hours
    rw [not_or, not_not, not_not] at hours'
    obtain ⟨hstage, hid⟩ := hours'
    have hlife : lifeOf (s.rows r).job = .sent (s.rows r).job.op := by
      unfold lifeOf
      rw [hstage]
    have htold : ((s.rows r).job.answer state).2 = true := by
      rw [WallRowJob.answer, if_neg hours]
      split <;> rfl
    refine h.says (.rowMessage conn r (.opState state)) (by simp [hear, rowHears, htold]) ?_
    intro i
    by_cases hi : i = r
    · subst hi
      refine .inr ⟨.answered state, by simp [jobView], ?_⟩
      have hafter : ((s.hear conn i (.opState state) nowMs).rows i).job =
          ((s.rows i).job.answer state).1 := by simp [hear, rowHears, htold]
      rw [hafter, hlife, jobStep, if_pos hid, WallRowJob.answer, if_neg hours]
      by_cases hrun : state.phase = .running
      · rw [if_pos hrun, if_neg (not_not.mpr hrun), hlife]
      · rw [if_neg hrun, if_pos hrun]
        rfl
    · refine .inl ⟨by simp [jobView, Ne.symm hi], ?_⟩
      simp [hear, rowHears, htold, hi]

/-- Any other message of a row leaves the jobs alone. -/
theorem Follows.heard {s : Link} (h : s.Follows) (conn : ConnIx) (r : RowIx) (m : WlToMaster)
    (nowMs : UInt32) : (s.hear conn r m nowMs).Follows := by
  cases m with
  | opState state => exact h.answered conn r state nowMs
  | pong => exact h.silent rfl (setRow_job rfl)
  | _ => exact h.aside _ rfl (fun _ => rfl) (setRow_job rfl)

/-- A job is handed to the row. -/
theorem Follows.handed {s : Link} (h : s.Follows) (conn : ConnIx) (r : RowIx) (ok : Bool)
    (nowMs : UInt32) (hdue : (s.rows r).job.due (s.rows r).contact = true) :
    (s.handed conn r ok nowMs).Follows := by
  have hstage : (s.rows r).job.stage = .waiting := by
    simp only [WallRowJob.due, Bool.and_eq_true, decide_eq_true_eq] at hdue
    exact hdue.1.1.1
  cases ok with
  | false => exact h.aside _ (handed_log ..) (fun _ => rfl) (wrote_job s conn r · _ false nowMs)
  | true =>
      refine h.says _ (handed_log ..) ?_
      intro i
      by_cases hi : i = r
      · subst hi
        refine .inr ⟨.handed (s.rows i).job.op, by simp [jobView], ?_⟩
        have hafter : ((s.handed conn i true nowMs).rows i).job = (s.rows i).job.sent nowMs := by
          simp [Link.handed]
        have hlife : lifeOf (s.rows i).job = .waiting (s.rows i).job.op := by
          unfold lifeOf
          rw [hstage]
        rw [hafter, hlife, jobStep, if_pos rfl]
        rfl
      · refine .inl ⟨by simp [jobView, Ne.symm hi], ?_⟩
        simp [Link.handed, hi]

/-- A job that is given up was waiting, or written without an answer. -/
theorem Follows.gaveUp {s : Link} (h : s.Follows) (r : RowIx) (nowMs : UInt32) :
    (s.tickJob r nowMs).Follows := by
  cases hdue : (s.rows r).job.overdue nowMs with
  | none => exact h.silent (by simp [tickJob, hdue]) (by simp [tickJob, hdue])
  | some why =>
      refine h.says (.jobEnded r (s.rows r).job.op.opId why) (by simp [tickJob, hdue]) ?_
      intro i
      by_cases hi : i = r
      · subst hi
        refine .inr ⟨.ended (s.rows i).job.op.opId why, by simp [jobView], ?_⟩
        have hafter : ((s.tickJob i nowMs).rows i).job = {} := by simp [tickJob, hdue]
        rw [hafter]
        -- which of the two ends it is follows the stage
        unfold WallRowJob.overdue at hdue
        split at hdue
        · next hwaiting =>
            injection hdue with hdue
            subst hdue
            simp only [Bool.and_eq_true, decide_eq_true_eq] at hwaiting
            simp [lifeOf, hwaiting.1, jobStep]
        · split at hdue
          · next hsent =>
              injection hdue with hdue
              subst hdue
              simp only [Bool.and_eq_true, decide_eq_true_eq] at hsent
              simp [lifeOf, hsent.1, jobStep]
          · cases hdue
      · refine .inl ⟨by simp [jobView, Ne.symm hi], ?_⟩
        simp [tickJob, hdue, hi]

theorem Follows.jobStarted {s : Link} (h : s.Follows) (r : RowIx) (op : WlOp) (nowMs : UInt32) :
    (s.startJob r op nowMs).2.Follows := by
  by_cases hfree : (s.rows r).job.stage = .none
  · have hstart : (s.rows r).job.start op nowMs =
        ({ stage := .waiting, sinceMs := nowMs, op := op }, true) := by
      rw [WallRowJob.start, if_neg (not_not.mpr hfree)]
    refine h.says (.jobAccepted r op) (by simp [startJob, hstart]) ?_
    intro i
    by_cases hi : i = r
    · subst hi
      refine .inr ⟨.accepted op, by simp [jobView], ?_⟩
      simp [startJob, hstart, lifeOf, hfree, jobStep]
    · refine .inl ⟨by simp [jobView, Ne.symm hi], ?_⟩
      simp [startJob, hstart, hi]
  · have hstart : (s.rows r).job.start op nowMs = ((s.rows r).job, false) := by
      rw [WallRowJob.start, if_pos hfree]
    refine h.silent (by simp [startJob, hstart]) ?_
    intro i
    simp only [startJob, hstart]
    refine setRow_job ?_ i
    rfl

/-- **Every move keeps the slots and the log together.** -/
theorem move_follows (H : WallLinkHooks) (s s' : Link) (_ : s.Placed) (h : s.Follows)
    (hmove : Move H s s') :
    s'.Follows := by
  cases hmove with
  | asked id => exact h.aside _ rfl (fun _ => rfl) (fun _ => rfl)
  | said e he =>
      refine h.aside e rfl ?_ (fun _ => rfl)
      intro r
      cases e <;> first | rfl | cases he
  | closed conn => exact h.silent (closed_log s conn) (closed_job s conn)
  | occupied conn nowMs _ => exact h.aside (.accepted conn) rfl (fun _ => rfl) (fun _ => rfl)
  | read conn reader => exact h.silent rfl (fun _ => rfl)
  | seated conn r nowMs _ _ _ _ _ _ _ => exact h.aside (.admitted conn r) rfl (fun _ => rfl) (setRow_job rfl)
  | welcomed conn r hl nowMs _ _ => exact h.welcomed conn r hl nowMs
  | heard conn r m nowMs _ => exact h.heard conn r m nowMs
  | wrote conn r m ok nowMs _ hm =>
      refine h.aside _ (wrote_log ..) ?_ (wrote_job s conn r · m ok nowMs)
      intro i
      cases m <;> first | rfl | cases hm
  | showed conn r ok nowMs _ _ =>
      exact h.aside _ (showed_log ..) (fun _ => rfl) (showed_job s conn r ok nowMs)
  | handed conn r ok nowMs _ hdue => exact h.handed conn r ok nowMs hdue
  | flagged r _ _ _ _ => exact h.silent rfl (setRow_job rfl)
  | gaveUp r nowMs => exact h.gaveUp r nowMs
  | textSet r text speed commitAtMs => exact h.silent rfl (setRow_job rfl)
  | quietSet on =>
      unfold setQuiet
      split
      · exact h
      · exact h.silent rfl (fun _ => rfl)
  | configSet next =>
      unfold setConfig
      split
      · exact h
      · exact h.silent rfl (fun _ => rfl)
  | hostSet r host =>
      unfold setHost
      split
      · exact h
      · exact h.silent rfl (setRow_job rfl)
  | logSet r wanted => exact h.silent rfl (setRow_job rfl)
  | forgot _ =>
      refine h.says .reset rfl ?_
      intro r
      refine .inr ⟨.forgotten, rfl, ?_⟩
      show jobStep _ _ = some .idle
      cases lifeOf (s.rows r).job <;> rfl

theorem follows_start : ({} : Link).Follows := fun _ => rfl

/-! ## §5. Unit jobs of every run. -/

variable (H : WallLinkHooks)

/-- **A unit job is written at most once and ends exactly once**, in every run
of the core: each row's jobs, as the log tells them, are lives of the
automaton one after the other, and the job slot is where the log leaves it. -/
theorem jobs_live_once (calls : List Call) : ∃ s : Link, ({} : Link).runCalls H calls = some s ∧
    ∀ r, accepts jobStep .idle (jobLog r s.log) = some (lifeOf (s.rows r).job) ∧
      OneLife (jobLog r s.log) := by
  obtain ⟨s, hrun⟩ := Option.isSome_iff_exists.mp (runCalls_isSome H calls {})
  obtain ⟨_, hfollows⟩ := runCalls_keeps H (move_follows H)
    (fun _ r op nowMs h => h.jobStarted r op nowMs) placed_start follows_start hrun
  exact ⟨s, hrun, fun r => ⟨hfollows r, OneLife.of_accepts (hfollows r)⟩⟩

end Slot

/-! ## §6. A job that the row answers. -/

local instance jobsCodec : Nanopb := Codec.nanopb

/-- Row `r01` says Hello, takes job 1 and reports its end. -/
def jobCalls : List Call :=
  [.accept 0, .bytes 0 [11, 10, 9, 8, 1, 18, 3, 114, 48, 49, 32, 7] 1,
    .startJob 0 { opId := 1, opcode := .home, address := 1 } 2, .tick 3,
    .bytes 0 [6, 34, 4, 8, 1, 16, 1] 4]

theorem jobs_live_once_home :
    ∃ s : Link, ({} : Link).runCalls (.obliging [[114, 48, 49]]) jobCalls = some s ∧
      OneLife (jobLog 0 s.log) ∧
      jobLog 0 s.log =
        [.accepted { opId := 1, opcode := .home, address := 1 },
          .handed { opId := 1, opcode := .home, address := 1 },
          .answered { opId := 1, phase := .ok }] := by
  obtain ⟨s, hs, hlives⟩ := jobs_live_once (.obliging [[114, 48, 49]]) jobCalls
  have hlog : (({} : Link).runCalls (.obliging [[114, 48, 49]]) jobCalls).map
      (fun s => jobLog 0 s.log) =
      some [.accepted { opId := 1, opcode := .home, address := 1 },
        .handed { opId := 1, opcode := .home, address := 1 },
        .answered { opId := 1, phase := .ok }] := by decide +kernel
  rw [hs, Option.map_some, Option.some.injEq] at hlog
  exact ⟨s, hs, (hlives 0).2, hlog⟩

end Link

end SplitFlap
