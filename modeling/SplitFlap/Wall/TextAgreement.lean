/-
  SplitFlap.Wall.TextAgreement — what the master believes a row shows.

  Render numbers are the master's and go on across connections; the row mints
  an epoch per connection.  What carries the agreement is the order of things:
  a text reaches a connection after every text with a smaller number, the row
  reads a connection in order and never goes back to an older one, and it
  reports only what it has applied (`Agreed`).
-/
import SplitFlap.Link.Codec
import SplitFlap.Wall.PairCalls

namespace SplitFlap

open Machine

section Agreement

variable [Nanopb]

namespace Pair

open Link

/-! ## §1. What holds of both boards. -/

/-- The texts on their way down a connection. -/
def shows (down : List (Sent WlToRow)) : List WlShow :=
  down.filterMap fun m =>
    match m.message with
    | .show w => some w
    | _ => none

/-- The text the master has for the row. -/
abbrev text (P : PairedRow) (s : Pair) : WallRowText := (s.link.rows P.row).text

/-- The text the row applied last. -/
def last (s : Pair) : Option WlShow := s.applied.getLast?.map Prod.snd

/-- A text the master has written to the row: not a later one than it has now,
and under the same number the same text. -/
structure Known (P : PairedRow) (s : Pair) (w : WlShow) : Prop where
  number : w.renderId.toNat ≤ s.renders
  same : w.renderId = (s.text P).renderId → Carries w (s.text P)

/-- The row has applied this text, or a later one. -/
def Reached (s : Pair) (renderId : UInt32) : Prop := ∃ w, s.last = some w ∧ renderId ≤ w.renderId

/-- **What both boards agree on**, up to the messages between them. -/
structure Agreed (P : PairedRow) (s : Pair) : Prop where
  counted : (s.text P).renderId.toNat = s.renders
  sent : ∀ k, (s.socks k).own = true → ∀ w ∈ shows (s.socks k).down, s.Known P w
  ordered : ∀ k, (s.socks k).own = true →
    (shows (s.socks k).down).Pairwise fun a b => a.renderId ≤ b.renderId
  lastKnown : ∀ w, s.last = some w → s.Known P w
  forward : s.applied.Pairwise fun a b => a.2.renderId ≤ b.2.renderId
  ahead : ∀ k, s.row.sock = some k → ∀ w ∈ shows (s.socks k).down, ∀ a, s.last = some a →
    a.renderId ≤ w.renderId
  reported : ∀ k, (s.socks k).own = true → ∀ m ∈ (s.socks k).up, ∀ renderId lateMs,
    m.message = .shown renderId lateMs → s.Reached renderId
  shown : (s.text P).shownId = 0 ∨ s.Reached (s.text P).shownId

omit [Nanopb] in
theorem mem_shows {down : List (Sent WlToRow)} {w : WlShow} (h : w ∈ shows down) :
    ∃ m ∈ down, m.message = .show w := by
  obtain ⟨m, hm, hw⟩ := List.mem_filterMap.mp h
  refine ⟨m, hm, ?_⟩
  split at hw
  · next hmessage =>
      injection hw with hw
      rw [← hw, hmessage]
  · cases hw

omit [Nanopb] in
theorem shows_append (down more : List (Sent WlToRow)) :
    shows (down ++ more) = shows down ++ shows more := List.filterMap_append ..

/-! ## §2. The core is called. -/

omit [Nanopb] in
theorem renderId_next {t t' : WallRowText} (h : t'.renderId = t.renderId + 1) :
    t'.renderId ≠ t.renderId := by
  rw [h]
  simp

variable {P : PairedRow} {s : Pair}

/-- What was written before a call of the core is known after it. -/
theorem Known.called (hcounted : (s.text P).renderId.toNat = s.renders) {s' : Pair}
    (hrender : Renders (s.text P) (s'.text P))
    (hcount : s'.renders = if (s'.text P).renderId = (s.text P).renderId then s.renders
      else s.renders + 1)
    (hbound : s'.renders < 2 ^ 32) :
    (s'.text P).renderId.toNat = s'.renders ∧ (∀ w, s.Known P w → s'.Known P w) ∧
      ∀ w, Carries w (s.text P) → s'.Known P w := by
  rcases hrender with ⟨hid, htext, hspeed⟩ | hnext
  · rw [if_pos hid] at hcount
    have hcarries : ∀ w, Carries w (s.text P) → Carries w (s'.text P) := fun w hw =>
      ⟨by rw [hw.renderId, hid], by rw [hw.text, htext], by rw [hw.speed, hspeed]⟩
    refine ⟨by rw [hid, hcounted, hcount], ?_, ?_⟩
    · intro w hw
      refine ⟨by rw [hcount]; exact hw.number, ?_⟩
      rw [hid]
      exact fun hsame => hcarries w (hw.same hsame)
    · intro w hw
      refine ⟨?_, fun _ => hcarries w hw⟩
      rw [hw.renderId, hcounted, hcount]
  · -- a text that was written before has a smaller number than the next one
    rw [if_neg (renderId_next hnext)] at hcount
    have hnumber : (s'.text P).renderId.toNat = s.renders + 1 := by
      rw [hnext, UInt32.toNat_add, hcounted, Nat.mod_eq_of_lt]
      · rfl
      · rw [hcount] at hbound
        exact hbound
    have hold : ∀ w : WlShow, w.renderId.toNat ≤ s.renders → s'.Known P w := by
      intro w hw
      refine ⟨by omega, ?_⟩
      intro hsame
      rw [hsame] at hw
      omega
    refine ⟨by rw [hnumber, hcount], fun w hw => hold w hw.number, ?_⟩
    intro w hw
    refine hold w ?_
    rw [hw.renderId, hcounted]

/-- **A call of the core keeps the agreement.** -/
theorem Agreed.called (h : Agreed P s) (hwired : Wired P s) {loud : Bool}
    {heard : Option (ConnIx × WlToMaster)} {link : Link} {job : Nat}
    (hcall : CallOf P loud heard s.link link)
    (hheard : ∀ c renderId lateMs, heard = some (c, .shown renderId lateMs) →
      (s.link.conns c).row = some P.row → s.Reached renderId)
    (hbound : (s.called P job link).renders < 2 ^ 32) : Agreed P (s.called P job link) := by
  obtain ⟨new, hlog, hnew⟩ := hcall.said
  obtain ⟨s', hk, heq⟩ := called_hooked P s job hlog
  rw [heq] at hbound ⊢
  obtain ⟨hcounted, hlater, hcarried⟩ := Known.called h.counted hcall.render rfl hbound
  have hlast : s'.last = s.last := by
    unfold last
    rw [hk.applied]
  have hmore : ∀ k, (s.socks k).own = true → ∃ more,
      (s'.socks k).down = (s.socks k).down ++ more ∧
        ∀ w ∈ shows more, Carries w (s.text P) := by
    intro k hown
    obtain ⟨more, hdown, hin⟩ := hk.down k
    refine ⟨more, hdown, ?_⟩
    intro w hw
    obtain ⟨m, hm, hshow⟩ := mem_shows hw
    obtain ⟨_, c, q, hc, he⟩ := hin m hm
    rw [hshow] at he
    obtain ⟨hrow, hcarries⟩ := (hnew _ he).1
    exact hcarries ((hwired.seated c k q hc hrow).mp hown)
  have hahead : ∀ {a w : WlShow}, s.Known P a → Carries w (s.text P) → a.renderId ≤ w.renderId := by
    intro a w ha hw
    rw [UInt32.le_iff_toNat_le, hw.renderId, h.counted]
    exact ha.number
  constructor
  · exact hcounted
  · intro k hown w hw
    rw [hk.own] at hown
    obtain ⟨more, hdown, hnew'⟩ := hmore k hown
    rw [hdown, shows_append] at hw
    rcases List.mem_append.mp hw with hw | hw
    · exact hlater w (h.sent k hown w hw)
    · exact hcarried w (hnew' w hw)
  · intro k hown
    rw [hk.own] at hown
    obtain ⟨more, hdown, hnew'⟩ := hmore k hown
    rw [hdown, shows_append, List.pairwise_append]
    refine ⟨h.ordered k hown, ?_, ?_⟩
    · rw [List.pairwise_iff_forall_sublist]
      intro a b hab
      have ha := hnew' a (hab.subset List.mem_cons_self)
      have hb := hnew' b (hab.subset (List.mem_cons_of_mem _ List.mem_cons_self))
      rw [ha.renderId, hb.renderId]
      exact UInt32.le_refl _
    · intro a ha b hb
      exact hahead (h.sent k hown a ha) (hnew' b hb)
  · intro w hw
    rw [last, hk.applied] at hw
    exact hlater w (h.lastKnown w hw)
  · rw [hk.applied]
    exact h.forward
  · intro k hsock w hw a ha
    rw [hk.row] at hsock
    rw [last, hk.applied] at ha
    obtain ⟨more, hdown, hnew'⟩ := hmore k (hwired.sock k hsock).2
    rw [hdown, shows_append] at hw
    rcases List.mem_append.mp hw with hw | hw
    · exact h.ahead k hsock w hw a ha
    · exact hahead (h.lastKnown a ha) (hnew' w hw)
  · intro k hown
    rw [hk.own] at hown
    rw [hk.up]
    intro m hm renderId lateMs hmessage
    unfold Reached last
    rw [hk.applied]
    exact h.reported k hown m hm renderId lateMs hmessage
  · have hshown : (link.rows P.row).text.shownId = 0 ∨
        s.Reached (link.rows P.row).text.shownId := by
      rcases hcall.shown with hsame | ⟨c, lateMs, hshown, hrow⟩
      · rw [hsame]
        exact h.shown
      · exact .inr (hheard c _ lateMs hshown hrow)
    rcases hshown with hzero | hreached
    · exact .inl hzero
    · refine .inr ?_
      unfold Reached last
      rw [hk.applied]
      exact hreached

/-! ## §3. Everything else. -/

/-- A connection is new, or less is to be read on it and its end has spoken, the
row of nothing it has not reached. -/
def Went (s : Pair) (sock sock' : Sock) : Prop :=
  (sock'.down = [] ∧ ∀ m ∈ sock'.up, ∀ renderId lateMs, m.message ≠ .shown renderId lateMs) ∨
    (sock'.own = sock.own ∧ sock'.down.Sublist sock.down ∧
      ∀ m ∈ sock'.up, m ∈ sock.up ∨ (sock.own = true → ∀ renderId lateMs,
        m.message = .shown renderId lateMs → s.Reached renderId))

theorem Went.rfl' (s : Pair) (sock : Sock) : s.Went sock sock :=
  .inr ⟨rfl, List.Sublist.refl _, fun _ hm => .inl hm⟩

/-- What is neither a call of the core nor a text that is applied. -/
theorem Agreed.went (h : Agreed P s) {s' : Pair} (hlink : s'.link = s.link)
    (hrenders : s'.renders = s.renders) (happlied : s'.applied = s.applied)
    (hrow : ∀ k, s'.row.sock = some k → s.row.sock = some k ∨ (s'.socks k).down = [])
    (hsocks : ∀ k, s.Went (s.socks k) (s'.socks k)) : Agreed P s' := by
  have hknown : ∀ w, s.Known P w → s'.Known P w := by
    intro w hw
    refine ⟨by rw [hrenders]; exact hw.number, ?_⟩
    unfold text
    rw [hlink]
    exact hw.same
  have hreached : ∀ renderId, s.Reached renderId → s'.Reached renderId := by
    intro renderId hr
    unfold Reached last
    rw [happlied]
    exact hr
  constructor
  · unfold text
    rw [hlink, hrenders]
    exact h.counted
  · intro k hown w hw
    rcases hsocks k with ⟨hnone, _⟩ | ⟨hsame, hdown, _⟩
    · rw [hnone] at hw
      cases hw
    · rw [hsame] at hown
      exact hknown w (h.sent k hown w ((hdown.filterMap _).subset hw))
  · intro k hown
    rcases hsocks k with ⟨hnone, _⟩ | ⟨hsame, hdown, _⟩
    · rw [hnone]
      exact List.Pairwise.nil
    · rw [hsame] at hown
      exact (h.ordered k hown).sublist (hdown.filterMap _)
  · intro w hw
    rw [last, happlied] at hw
    exact hknown w (h.lastKnown w hw)
  · rw [happlied]
    exact h.forward
  · intro k hk w hw a ha
    rw [last, happlied] at ha
    rcases hrow k hk with hold | hnone
    · rcases hsocks k with ⟨hnone, _⟩ | ⟨_, hdown, _⟩
      · rw [hnone] at hw
        cases hw
      · exact h.ahead k hold w ((hdown.filterMap _).subset hw) a ha
    · rw [hnone] at hw
      cases hw
  · intro k hown m hm renderId lateMs hmessage
    rcases hsocks k with ⟨_, hno⟩ | ⟨hsame, _, hup⟩
    · exact absurd hmessage (hno m hm renderId lateMs)
    · rw [hsame] at hown
      rcases hup m hm with hold | hnew
      · exact hreached renderId (h.reported k hown m hold renderId lateMs hmessage)
      · exact hreached renderId (hnew hown renderId lateMs hmessage)
  · unfold text
    rw [hlink]
    exact h.shown.imp_right (hreached _)

/-- The row or another board has spoken. -/
theorem Agreed.speaks (h : Agreed P s) {k job : Nat} {messages : List WlToMaster}
    (hmessages : ∀ m ∈ messages, (s.socks k).own = true → ∀ renderId lateMs,
      m = .shown renderId lateMs → s.Reached renderId) : Agreed P (s.speaks k job messages) := by
  refine h.went rfl rfl rfl (fun _ hk => .inl hk) fun i => ?_
  unfold Pair.speaks
  rw [setSock_socks]
  split
  · next hi =>
      rw [hi]
      refine .inr ⟨rfl, List.Sublist.refl _, fun m hm => ?_⟩
      rcases List.mem_append.mp hm with hm | hm
      · exact .inl hm
      · obtain ⟨m', hm', heq⟩ := List.mem_map.mp hm
        rw [← heq]
        exact .inr (hmessages m' hm')
  · exact .rfl' s _

omit [Nanopb] in
theorem applies_show {b : RowBoard} {a : RowAnswers} {m : WlToRow} {w : WlShow}
    (h : b.applies a m = some w) : m = .show w := by
  unfold RowBoard.applies at h
  split at h
  · split at h
    · injection h with h
      rw [h]
    · cases h
  · cases h

/-- The row has read the next message of its connection, and applies the text it
carries or not. -/
theorem Agreed.took (h : Agreed P s) (hwired : Wired P s) {k : Nat} {m : Sent WlToRow} {rest : List (Sent WlToRow)}
    (hsock : s.row.sock = some k) (hdown : (s.socks k).down = m :: rest) {row : RowBoard}
    (hkeeps : s.row.Keeps row) {w : Option WlShow} (hw : ∀ w', w = some w' → m.message = .show w')
    (job : Nat) :
    Agreed P ({ s.setSock k { s.socks k with down := rest } with
      row := row, applied := s.applied ++ w.toList.map fun w => (k, w), rowJob := job } : Pair) := by
  have hmoved : Agreed P { s.setSock k { s.socks k with down := rest } with row := row } := by
    refine h.went rfl rfl rfl (fun i hi => .inl ?_) fun i => ?_
    · rcases hkeeps with hnone | hsame
      · exact absurd (hnone.symm.trans hi) (fun h => nomatch h)
      · exact hsame.symm.trans hi
    · show s.Went (s.socks i) ((s.setSock k _).socks i)
      rw [setSock_socks]
      split
      · next hi =>
          rw [hi]
          refine .inr ⟨rfl, ?_, fun _ hm => .inl hm⟩
          rw [hdown]
          exact List.sublist_cons_self m rest
      · exact .rfl' s _
  cases w with
  | none => exact hmoved.went rfl rfl (List.append_nil _) (fun _ hi => .inl hi) fun _ => .rfl' _ _
  | some w =>
      -- what comes after this text on the connection is no older
      have hshows : shows (s.socks k).down = w :: shows rest := by
        rw [hdown]
        unfold shows
        rw [List.filterMap_cons_some (b := w)]
        rw [hw w rfl]
      obtain ⟨_, hown⟩ := hwired.sock k hsock
      have hknown : s.Known P w := by
        refine h.sent k hown w ?_
        rw [hshows]
        exact List.mem_cons_self
      have hafter : ∀ w' ∈ shows rest, w.renderId ≤ w'.renderId := by
        have hordered := h.ordered k hown
        rw [hshows, List.pairwise_cons] at hordered
        exact hordered.1
      have hbefore : ∀ a, s.last = some a → a.renderId ≤ w.renderId := by
        intro a ha
        refine h.ahead k hsock w ?_ a ha
        rw [hshows]
        exact List.mem_cons_self
      have hall : ∀ a ∈ s.applied, a.2.renderId ≤ w.renderId := by
        intro a ha
        rcases List.eq_nil_or_concat s.applied with hnil | ⟨front, z, hfront⟩
        · rw [hnil] at ha
          cases ha
        · rw [List.concat_eq_append] at hfront
          have hlast : s.last = some z.2 := by
            unfold last
            rw [hfront, List.getLast?_concat]
            rfl
          have hforward := h.forward
          rw [hfront, List.pairwise_append] at hforward
          rw [hfront] at ha
          rcases List.mem_append.mp ha with ha | ha
          · exact UInt32.le_trans (hforward.2.2 a ha z (List.mem_singleton.mpr rfl))
              (hbefore z.2 hlast)
          · rw [List.mem_singleton.mp ha]
            exact hbefore z.2 hlast
      have hlast : ((s.applied ++ [(k, w)]).getLast?).map Prod.snd = some w := by
        rw [List.getLast?_concat]
        rfl
      have hreached : ∀ renderId, s.Reached renderId → ∃ w', some w = some w' ∧
          renderId ≤ w'.renderId := by
        intro renderId hr
        obtain ⟨a, ha, hle⟩ := hr
        exact ⟨w, rfl, UInt32.le_trans hle (hbefore a ha)⟩
      refine ⟨hmoved.counted, fun i hi w' hw' => ⟨(hmoved.sent i hi w' hw').number,
          (hmoved.sent i hi w' hw').same⟩, hmoved.ordered, ?_, ?_, ?_, ?_, ?_⟩
      · intro w' hw'
        have hw' : some w = some w' := hlast.symm.trans hw'
        injection hw' with hw'
        rw [← hw']
        exact ⟨hknown.number, hknown.same⟩
      · refine List.pairwise_append.mpr ⟨h.forward, List.pairwise_singleton _ _, ?_⟩
        intro a ha b hb
        rw [List.mem_singleton.mp hb]
        exact hall a ha
      · intro i hi w' hw' a ha
        have ha : some w = some a := hlast.symm.trans ha
        injection ha with ha
        rw [← ha]
        rcases hkeeps with hnone | hkept
        · rw [show row.sock = some i from hi] at hnone
          cases hnone
        · rw [show row.sock = some i from hi, hsock] at hkept
          injection hkept with hkept
          have hsame : (s.setSock k { s.socks k with down := rest }).socks i =
              { s.socks k with down := rest } := by
            rw [setSock_socks, if_pos hkept]
          have hw'' : w' ∈ shows ((s.setSock k { s.socks k with down := rest }).socks i).down := hw'
          rw [hsame] at hw''
          exact hafter w' hw''
      · intro i hi m' hm' renderId lateMs hmessage
        obtain ⟨w', hw', hle⟩ :=
          hreached renderId (hmoved.reported i hi m' hm' renderId lateMs hmessage)
        exact ⟨w', hlast.trans hw', hle⟩
      · rcases hmoved.shown with hzero | hr
        · exact .inl hzero
        · obtain ⟨w', hw', hle⟩ := hreached _ hr
          exact .inr ⟨w', hlast.trans hw', hle⟩

/-! ## §4. Runs. -/

theorem called_renders (s : Pair) (job : Nat) (link : Link) :
    s.renders ≤ (s.called P job link).renders := by
  unfold called
  dsimp only
  split
  · exact Nat.le_refl _
  · exact Nat.le_succ _

/-- The count of renders never goes back. -/
theorem Stepped.renders {a : PairTurn} {s' : Pair} (hstep : Stepped P s a s') :
    s.renders ≤ s'.renders := by
  cases hstep with
  | called before _ job link => exact called_renders { s with socks := before } job link
  | started state job nowMs => exact called_renders { s with state := state } 0 _
  | _ => exact Nat.le_refl _

/-- **Every step keeps the agreement**, but for a restart of the master. -/
theorem Stepped.agreed (hwired : Wired P s) (h : Agreed P s) {a : PairTurn}
    (ha : a.stays = true) {s' : Pair} (hstep : Stepped P s a s') (hbound : s'.renders < 2 ^ 32) :
    Agreed P s' := by
  cases hstep with
  | row row hkeeps _ =>
      refine h.went rfl rfl rfl (fun k hk => .inl ?_) fun _ => .rfl' s _
      rcases hkeeps with hnone | hsame
      · exact absurd (hnone.symm.trans hk) (fun h => nomatch h)
      · exact hsame.symm.trans hk
  | dialled row messages hrow _ hhello =>
      have hsocks : ∀ i, ((({ s.setSock s.dials { own := true } with
          dials := s.dials + 1, row := row } : Pair).speaks s.dials 0 messages).socks i) =
          if i = s.dials then
            { own := true, up := messages.map fun m => { message := m, job := 0 } }
          else s.socks i := by
        intro i
        unfold Pair.speaks
        rw [setSock_socks]
        split
        · show ({ (s.setSock s.dials { own := true }).socks s.dials with up := _ } : Sock) = _
          rw [setSock_socks, if_pos rfl]
          rfl
        · next hi =>
            show (s.setSock s.dials { own := true }).socks i = _
            rw [setSock_socks, if_neg hi]
      refine h.went rfl rfl rfl (fun k hk => ?_) fun i => ?_
      · rcases hrow with (hnone | hsame) | hdials
        · exact absurd (hnone.symm.trans hk) (fun h => nomatch h)
        · exact .inl (hsame.symm.trans hk)
        · have hk' := Option.some.inj (hdials.symm.trans hk)
          rw [hsocks, if_pos hk'.symm]
          exact .inr rfl
      · rw [hsocks]
        split
        · refine .inl ⟨rfl, fun m hm renderId lateMs hshown => ?_⟩
          obtain ⟨m', hm', heq⟩ := List.mem_map.mp hm
          obtain ⟨hello, hhello', _⟩ := hhello m' hm'
          rw [← heq, hhello'] at hshown
          cases hshown
        · exact .rfl' s _
  | otherDialled =>
      refine h.went rfl rfl rfl (fun _ hk => .inl hk) fun i => ?_
      show s.Went (s.socks i) ((s.setSock s.dials {}).socks i)
      rw [setSock_socks]
      split
      · exact .inl ⟨rfl, fun _ hm => (nomatch hm)⟩
      · exact .rfl' s _
  | otherSpoke k m hown _ =>
      exact h.speaks fun _ _ htrue => absurd (htrue.symm.trans hown) Bool.noConfusion
  | took k m rest b row messages hsock hdown hhandled =>
      refine (h.took hwired hsock hdown hhandled.keeps (fun w hw => applies_show hw) _).speaks ?_
      intro m' hm' _ renderId lateMs hshown
      rcases hhandled.writes m' hm' with ⟨_, _, _, hm, _⟩ | ⟨w, hw, hm⟩ | hm | ⟨_, hm⟩
      · rw [hm] at hshown
        cases hshown
      · -- a Shown is written for the text that was just applied
        rw [hm] at hshown
        injection hshown with hid _
        refine ⟨w, ?_, by rw [hid]; exact UInt32.le_refl _⟩
        show ((s.applied ++ (s.row.applies b m.message).toList.map
          fun w => (k, w)).getLast?).map Prod.snd = some w
        rw [hw]
        show ((s.applied ++ [(k, w)]).getLast?).map Prod.snd = some w
        rw [List.getLast?_concat]
        rfl
      · rw [hm] at hshown
        cases hshown
      · rw [hm] at hshown
        cases hshown
  | spoke k row job messages hsock hkeeps _ hspoken =>
      have hkept : Agreed P { s with row := row } := by
        refine h.went rfl rfl rfl (fun i hi => .inl ?_) fun _ => .rfl' s _
        rcases hkeeps with hnone | hsame
        · exact absurd (hnone.symm.trans hi) (fun h => nomatch h)
        · exact hsame.symm.trans hi
      refine hkept.speaks ?_
      rintro m hm _ renderId lateMs rfl
      rcases hspoken _ hm with hplain | ⟨_, _, _, heq, _⟩
      · cases hplain
      · cases heq
  | called before heard job link clients after hbefore hheard hcall _ _ hafter =>
      have hfewer : Agreed P { s with socks := before } := by
        refine h.went rfl rfl rfl (fun _ hk => .inl hk) fun k => .inr ⟨hbefore.own k, ?_, ?_⟩
        · show (before k).down.Sublist _
          rw [hbefore.down]
        · exact fun m hm => .inl (hbefore.up k m hm)
      have hcalled : Agreed P (({ s with socks := before } : Pair).called P job link) := by
        refine hfewer.called (hwired.fewer hbefore) hcall ?_ hbound
        intro c renderId lateMs heq hrow
        obtain ⟨k, hclient, hin⟩ := hheard c _ heq
        have hown := (hwired.seated c k P.row hclient hrow).mpr rfl
        exact h.reported k hown _ hin renderId lateMs rfl
      refine hcalled.went rfl rfl rfl (fun _ hk => .inl hk) fun k => .inr ⟨hafter.own k, ?_, ?_⟩
      · show (after k).down.Sublist _
        rw [hafter.down]
      · intro m hm
        replace hm : m ∈ (after k).up := hm
        rw [hafter.up] at hm
        exact .inl hm
  | started state job nowMs =>
      have hstate : Agreed P { s with state := state } :=
        h.went rfl rfl rfl (fun _ hk => .inl hk) fun _ => .rfl' s _
      have hstated : Wired P { s with state := state } :=
        hwired.congr rfl (fun _ _ hc => hc) rfl (fun _ => ⟨rfl, rfl⟩) (.inr rfl)
      have hcall : CallOf P false none s.link (s.link.startJob P.row job.op nowMs).2 :=
        startJob_callOf hwired.placed job.op nowMs
      exact (hstate.called hstated hcall (fun _ _ _ heq => (nomatch heq)) hbound).went rfl rfl rfl
        (fun _ hk => .inl hk) fun _ => .rfl' _ _
  | begins | ended | staged => exact h.went rfl rfl rfl (fun _ hk => .inl hk) fun _ => .rfl' s _
  | restarted hrestarts => exact absurd (ha.symm.trans hrestarts) Bool.noConfusion

theorem start_agreed (P : PairedRow) : Agreed P (start P) where
  counted := rfl
  sent _ hown := nomatch hown
  ordered _ hown := nomatch hown
  lastKnown _ hw := nomatch hw
  forward := List.Pairwise.nil
  ahead _ hk := nomatch hk
  reported _ hown := nomatch hown
  shown := .inl rfl

/-- **Every run keeps the agreement** while the render numbers do not wrap and
the master does not restart. -/
theorem run_agreed {turns : List PairTurn} (hstays : ∀ a ∈ turns, a.stays = true) {s s' : Pair}
    (hwired : Wired P s) (h : s.renders < 2 ^ 32 → Agreed P s)
    (hrun : Machine.run (step P) s turns = some s') (hbound : s'.renders < 2 ^ 32) :
    Agreed P s' := by
  induction turns generalizing s with
  | nil =>
      rw [run_nil, Option.some.injEq] at hrun
      rw [← hrun] at hbound ⊢
      exact h hbound
  | cons a turns ih =>
      rw [run_cons, Option.bind_eq_some_iff] at hrun
      obtain ⟨m, hm, hrest⟩ := hrun
      have hstep := step_stepped hwired.placed hm
      refine ih (fun a ha => hstays a (List.mem_cons_of_mem _ ha)) (hstep.wired hwired) ?_ hrest
      intro hless
      have hagreed := h (Nat.lt_of_le_of_lt hstep.renders hless)
      exact hstep.agreed hwired hagreed (hstays a List.mem_cons_self) hless

/-- **The master and the row agree on the text.**  On a connection the row never
applies an older render after a newer one; and while the master counts its text
as applied, the last render the row accepted carries the master's text and
speed. -/
theorem text_agreement (P : PairedRow) (turns : List PairTurn)
    (hstays : ∀ a ∈ turns, a.stays = true) {s : Pair} (hrun : run P turns = some s)
    (hfew : s.renders < 2 ^ 32) :
    (∀ k, (s.applied.filter fun a => a.1 = k).Pairwise
      fun a b => a.2.renderId ≤ b.2.renderId) ∧
    ((s.text P).applied = true → ∃ w, s.last = some w ∧ w.text = (s.text P).text ∧
      w.speed = (s.text P).speed.toUInt32) := by
  have h := run_agreed hstays (start_wired P) (fun _ => start_agreed P) hrun hfew
  refine ⟨fun k => h.forward.sublist List.filter_sublist, ?_⟩
  intro happlied
  unfold WallRowText.applied at happlied
  simp only [Bool.and_eq_true, Bool.not_eq_true', bne_iff_ne, beq_iff_eq] at happlied
  obtain ⟨⟨_, hnonzero⟩, hshown⟩ := happlied
  rcases h.shown with hzero | ⟨w, hlast, hle⟩
  · exact absurd (hshown.symm.trans hzero) hnonzero
  · -- what the row applied is no later than what the master has
    have hknown := h.lastKnown w hlast
    have hsame : w.renderId = (s.text P).renderId := by
      rw [hshown, UInt32.le_iff_toNat_le] at hle
      have hnumber := hknown.number
      rw [← h.counted] at hnumber
      exact UInt32.toNat.inj (Nat.le_antisymm hnumber hle)
    have hcarries := hknown.same hsame
    exact ⟨w, hlast, hcarries.text, hcarries.speed⟩

end Pair

end Agreement

/-! ## §5. A text that is shown. -/

local instance agreementCodec : Nanopb := Codec.nanopb

/-- A text is given, written once the row is there, read and reported. -/
def shownTurns : List PairTurn :=
  [.rowRestart 7 (some ([109], [104])) 0, .call (.obliging []) (.setText 0 [65, 66] 80 0)] ++
    joinTurns 0 ++
    [.hears 0 (.obliging []) 3, .tick (.obliging []) 3, .read {}, .read {},
      .hears 0 (.obliging []) 4]

theorem text_agreement_shown : ∃ s, Pair.run lonelyRow shownTurns = some s ∧
    (s.text lonelyRow).applied = true ∧
    ∃ w, s.last = some w ∧ w.text = (s.text lonelyRow).text ∧
      w.speed = (s.text lonelyRow).speed.toUInt32 := by
  have hran : (Pair.run lonelyRow shownTurns).map (fun s =>
      (s.text lonelyRow).applied && decide (s.renders < 2 ^ 32)) = some true := by
    decide +kernel
  obtain ⟨s, hrun, hends⟩ := Option.map_eq_some_iff.mp hran
  rw [Bool.and_eq_true, decide_eq_true_eq] at hends
  exact ⟨s, hrun, hends.1,
    (Pair.text_agreement lonelyRow shownTurns (by decide) hrun hends.2).2 hends.1⟩

end SplitFlap
