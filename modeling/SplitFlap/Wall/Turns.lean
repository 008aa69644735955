/-
  SplitFlap.Wall.Turns — what a turn of the link task does to the core.

  Seen from the core, every turn of `Tasks` is one of three things: nothing,
  one call, or the job in hand (`LinkMove`).  What holds of the core's calls
  then holds of the turns, without a look at the other tasks.
-/
import SplitFlap.Wall.Says
import SplitFlap.Wall.Tasks

namespace SplitFlap

open Link

section Turns

variable [Nanopb]

namespace Wall

variable {s s' : Wall}

/-- The turns that call the core, with their calls. -/
inductive Calls : Turn → Link.Call → Prop where
  | check : Calls .check .reset
  | call (H : WallLinkHooks) (c : Link.Call) (hreads : c.reads = true) : Calls (.call H c) c
  | tick (H : WallLinkHooks) (nowMs : UInt32) : Calls (.tick H nowMs) (.tick nowMs)
  | tell (H : WallLinkHooks) (c : Link.Call) (htells : c.tells = true) : Calls (.tell H c) c

omit [Nanopb] in
theorem Calls.starts {a : Turn} {c : Link.Call} (h : Calls a c) : c.starts = false := by
  cases h with
  | check => rfl
  | call H c hreads => exact reads_starts hreads
  | tick H nowMs => rfl
  | tell H c htells => exact tells_starts htells

/-- A turn leaves the core alone, calls it, or hands it the job in hand. -/
inductive LinkMove (s s' : Wall) (a : Turn) : Prop where
  | same (hcore : s'.link.core = s.link.core) (hlog : s'.link.whole.log = s.link.whole.log)
  | called (H : WallLinkHooks) (c : Link.Call) (l : Link)
      (hcall : s.link.whole.apply H c = some l) (hturn : Calls a c)
      (hcore : s'.link.core = l.toWallLinkCore) (hlog : s'.link.whole.log = l.log)
  | started (row : RowIx) (job : StagedJob) (nowMs : UInt32) (l : Link)
      (hturn : a = .start false nowMs) (hpc : s.link.pc = .inHand row job)
      (hstart : s.link.whole.startJob row job.op nowMs = (true, l))
      (hcore : s'.link.core = l.toWallLinkCore) (hlog : s'.link.whole.log = l.log)

theorem goto_link (s : Wall) (pc : Pc) (a : Turn) : LinkMove s (s.goto pc) a := .same rfl rfl

theorem called_link (h : s.link.Sound) {H : WallLinkHooks} {c : Link.Call} {l : Link} {pc : Pc}
    {a : Turn} (hl : s.link.whole.apply (H.withTable s.link.rowsTable) c = some l)
    (hturn : Calls a c) : LinkMove s { s with link := s.link.called l pc } a := by
  obtain ⟨said, hlog, _⟩ := (LinkTask.path_sound H (apply_path _ h.placed c hturn.starts hl)
    h.placed h.follows h.named).2.2.said
  refine .called _ c l hl hturn rfl ?_
  show (s.link.called l pc).whole.log = l.log
  rw [LinkTask.called_whole hlog]

/-- The job in hand goes to the core only while its row takes no update. -/
theorem startJob_moves {updating : Bool} {nowMs : UInt32} (hsound : s.link.Sound)
    (h : s.startJob updating nowMs = some s') :
    s'.link.core = s.link.core ∧ s'.link.whole.log = s.link.whole.log ∨
      ∃ row job l, updating = false ∧ s.link.pc = .inHand row job ∧
        s.link.whole.startJob row job.op nowMs = (true, l) ∧
        s'.link.core = l.toWallLinkCore ∧ s'.link.whole.log = l.log := by
  unfold startJob at h
  split at h
  · next row job hpc =>
      have htodo : s.link.todo = [] := hsound.quiet (by rw [hpc]; exact .inl trivial)
      dsimp only at h
      split at h
      · injection h with h
        rw [← h]
        exact .inl ⟨rfl, rfl⟩
      · next hupdating =>
          split at h
          · next l hl =>
              injection h with h
              rw [← h]
              refine .inr ⟨row, job, l, Bool.eq_false_of_not_eq_true hupdating, hpc, hl, rfl, ?_⟩
              show l.log ++ s.link.todo = l.log
              rw [htodo, List.append_nil]
          · injection h with h
            rw [← h]
            exact .inl ⟨rfl, rfl⟩
  · cases h

theorem step_link {a : Turn} (hsound : s.link.Sound) (h : s.step a = some s') :
    LinkMove s s' a := by
  cases a with
  | look task =>
      rw [look_cases h]
      exact .same rfl rfl
  | see task =>
      obtain ⟨_, _, rfl⟩ := see_cases h
      exact .same rfl rfl
  | jobBegin task row op name =>
      obtain ⟨_, _, _, rfl | ⟨_, _, _, ⟨_, rfl⟩ | ⟨_, rfl⟩⟩⟩ := jobBegin_cases h
      · exact .same rfl rfl
      · exact .same rfl rfl
      · exact .same rfl rfl
  | jobStage task =>
      obtain ⟨_, _, _, _, _, ⟨_, _, rfl⟩ | rfl⟩ := jobStage_cases h
      · exact .same rfl rfl
      · exact .same rfl rfl
  | giveUp task =>
      obtain ⟨_, _, _, _, _, rfl⟩ := giveUp_cases h
      exact .same rfl rfl
  | opBegin name row unit =>
      obtain ⟨_, _, _, ⟨_, rfl⟩ | ⟨_, rfl⟩⟩ := opBegin_cases h
      · exact .same rfl rfl
      · exact .same rfl rfl
  | opFinish id ok detail =>
      obtain ⟨_, rfl⟩ := opFinish_cases h
      exact .same rfl rfl
  | setRows table =>
      rw [setRows_cases h]
      exact .same rfl rfl
  | check =>
      obtain ⟨_, _, ⟨_, rfl⟩ | ⟨_, rfl⟩⟩ := check_cases h
      · obtain ⟨said, hlog, _⟩ := reset_says s.link.whole
        refine .called (.obliging []) .reset s.link.whole.reset rfl .check rfl ?_
        have hsaid : s.link.whole.reset.log = s.link.said ++ (s.link.todo ++ said) := by
          rw [hlog, ← List.append_assoc]
          rfl
        show (s.link.called s.link.whole.reset .stale).whole.log = _
        rw [LinkTask.called_whole hsaid]
      · exact goto_link s _ _
  | readTable =>
      obtain ⟨_, _, rfl⟩ := readTable_cases h
      exact .same rfl rfl
  | call H c =>
      obtain ⟨_, _, hreads, l, hl, rfl⟩ := call_cases h
      exact called_link hsound hl (.call H c hreads)
  | beginTakes =>
      obtain ⟨_, _, rfl | ⟨_, rfl⟩⟩ := beginTakes_cases h
      · exact goto_link s _ _
      · exact goto_link s _ _
  | lookStaged =>
      obtain ⟨_, _, rfl | ⟨_, rfl⟩⟩ := lookStaged_cases h
      · exact goto_link s _ _
      · exact goto_link s _ _
  | take =>
      obtain ⟨_, _, rfl | ⟨_, _, rfl⟩⟩ := take_cases h
      · exact goto_link s _ _
      · exact .same rfl rfl
  | start updating nowMs =>
      rcases startJob_moves hsound h with ⟨hcore, hlog⟩ | ⟨row, job, l, rfl, hpc, hl, hcore, hlog⟩
      · exact .same hcore hlog
      · exact .started row job nowMs l rfl hpc hl hcore hlog
  | endTakes =>
      obtain ⟨_, _, rfl⟩ := endTakes_cases h
      exact goto_link s _ _
  | tick H nowMs =>
      obtain ⟨_, l, hl, rfl⟩ := tick_cases h
      exact called_link hsound hl (.tick H nowMs)
  | tell H c =>
      obtain ⟨_, _, htells, l, hl, rfl⟩ := tell_cases h
      exact called_link hsound hl (.tell H c htells)
  | publish row =>
      obtain ⟨_, _, rfl⟩ := publish_cases h
      exact .same rfl rfl
  | endPass =>
      obtain ⟨_, _, rfl⟩ := endPass_cases h
      exact goto_link s _ _
  | effect =>
      obtain ⟨e, rest, htodo, rfl⟩ := effect_cases h
      refine .same rfl ?_
      show (s.link.said ++ [e]) ++ rest = s.link.said ++ s.link.todo
      rw [htodo, List.append_assoc]
      rfl

end Wall

end Turns

end SplitFlap
