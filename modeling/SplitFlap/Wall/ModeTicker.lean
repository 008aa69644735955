/-
  SplitFlap.Wall.ModeTicker — the mode's content comes back after a timed text.

  `clockTask` looks once a second.  A unit update skips the whole tick; a timed
  text that is up is noted and skips the rest; quiet skips what is left.  In text
  mode with nothing to show only the note, taken back at the next tick, tells that
  there is something to take down.
-/
import SplitFlap.Lib.Machine
import SplitFlap.Wall.Overlay
import SplitFlap.Wall.Show

namespace SplitFlap.ModeTicker

open Machine

/-! ## §1. The content of the mode. -/

/-- `gettimeofday` and `millis()` at one instant. -/
structure Moment where
  tvSec : UInt64 := 0
  tvUsec : UInt64 := 0
  millis : UInt32 := 0

def clockIsTimeSynced (now : UInt64) : Bool := 1000000000 ≤ now

namespace Moment

def epochMs (m : Moment) : UInt64 := m.tvSec * 1000 + m.tvUsec / 1000

def showClock (m : Moment) : ShowClock where
  nowEpochMs := m.epochMs
  synced := clockIsTimeSynced m.tvSec
  nowMs := m.millis

end Moment

abbrev WALL_CLOCK_AHEAD_MS : UInt64 := 3000

structure WallClockTarget where
  minuteEpochS : UInt64
  commitAtMs : UInt64

def wallClockTarget (nowEpochMs : UInt64) : WallClockTarget :=
  let minuteMs := nowEpochMs - nowEpochMs % 60000
  if 60000 - WALL_CLOCK_AHEAD_MS ≤ nowEpochMs - minuteMs then
    { minuteEpochS := minuteMs / 1000 + 60, commitAtMs := minuteMs + 60000 }
  else { minuteEpochS := minuteMs / 1000, commitAtMs := nowEpochMs + WALL_COMMIT_LEAD_MS }

structure WebContentSnapshot where
  deviceMode : CStr := ascii "text"
  inputText : CStr := []
  alignment : CStr := ascii "left"
  flapSpeed : Int32 := 80

variable (formatDateTime : UInt64 → CStr → CStr)

/-- The clock that the wall is to show. -/
def clockContent (content : WebContentSnapshot) (m : Moment) : WallContent :=
  let target := wallClockTarget m.epochMs
  .clock (formatDateTime target.minuteEpochS (ascii "%H:%M"))
    (formatDateTime target.minuteEpochS (ascii "%d %b %y")) content.alignment content.flapSpeed
    target.commitAtMs

def textContent (content : WebContentSnapshot) : WallContent :=
  .text content.inputText content.alignment content.flapSpeed

/-- What the mode has for the wall: a clock that is not set has nothing, a retained text that is
empty is a blank. -/
def modeContent (content : WebContentSnapshot) (m : Moment) : Option WallContent :=
  if content.deviceMode = ascii "clock" then
    if clockIsTimeSynced m.tvSec then some (clockContent formatDateTime content m) else none
  else if content.deviceMode = ascii "text" then some (textContent content)
  else none

/-- `clockTaskMain`, what a tick hands to a wall with row boards. -/
def wallContent (content : WebContentSnapshot) (overlayEnded : Bool) (m : Moment) :
    Option WallContent :=
  if content.deviceMode = ascii "clock" then
    if clockIsTimeSynced m.tvSec then some (clockContent formatDateTime content m) else none
  else if content.deviceMode = ascii "text" ∧ (content.inputText ≠ [] ∨ overlayEnded = true) then
    some (textContent content)
  else none

/-! ## §2. The tasks. -/

/-- A web post once it is drained, its texts transliterated. -/
structure TextPost where
  deviceMode : Option CStr := none
  quiet : Option Bool := none
  inputText : Option CStr := none
  transientText : Option CStr := none
  transientDwell : Int := 0
  transientHold : Bool := false
  textPriority : Int := 0

/-- A table with boards. -/
structure RowBoards where
  table : WallRowsTable
  some : table.rows ≠ []

/-- The rows to show on, the settings, and `clockTaskMain`'s own flag.  Beside them: what the last
tick handed to the wall, whether a text has ended that no tick could act on yet, and whether the
last tick that no update skipped found a text up. -/
structure Ticker where
  wall : WallShow
  overlay : Overlay := {}
  content : WebContentSnapshot := {}
  quiet : Bool := false
  updating : Bool := false
  notifWasActive : Bool := false
  handed : Option WallContent := none
  ended : Bool := false
  found : Bool := false

inductive Event where
  | inboxText (req : MqttTextRequest) (m : Moment)
  | inboxClear
  | inboxMode (mode : CStr)
  | webPost (post : TextPost) (m : Moment)
  | serviceTick (millis : UInt32)
  | setQuiet (quiet : Bool)
  | setUpdating (updating : Bool)
  | setShown (alignment : CStr) (flapSpeed : Int32)
  | stop (m : Moment)
  | tick (m : Moment)

namespace Ticker

def wallShowActive (t : Ticker) : Bool := !t.wall.table.rows.isEmpty

/-- `wallShowText` and `wallShowClock`. -/
def submit (content : WallContent) (m : Moment) (t : Ticker) : Ticker :=
  if t.wallShowActive then { t with wall := (t.wall.submit content m.showClock).2 } else t

/-- `wallShowText` with the settings' alignment and speed. -/
def wallShowText (text : CStr) (m : Moment) (t : Ticker) : Ticker :=
  t.submit (.text text t.content.alignment t.content.flapSpeed) m

/-- `wallShowBlank`, a Stop. -/
def blanked (m : Moment) (t : Ticker) : Ticker :=
  { t with wall := t.wall.wallShowBlank m.showClock }

/-- `mqttServiceHandleInbox`, a text. -/
def inboxText (req : MqttTextRequest) (m : Moment) (t : Ticker) : Ticker :=
  if req.text = [] then { t with overlay := t.overlay.cancelNotificationLocal }
  else if t.updating then t
  else if quietBlocksContent t.quiet (MQTT_TEXT_PRIORITY_MAX ≤ req.priority) then t
  else if notificationAdmits t.overlay.mqttNotification req.priority = false then t
  else
    let t := t.wallShowText req.text m
    { t with overlay := t.overlay.startNotificationLocal req.text req m.millis }

/-- `mqttServiceHandleInbox`, a mode. -/
def inboxMode (mode : CStr) (t : Ticker) : Ticker :=
  if t.content.deviceMode = mode then t
  else
    { t with
      content := { t.content with deviceMode := mode }
      overlay := t.overlay.cancelNotificationLocal }

/-- `webEndpointsLoop`, the settings of a post. -/
def applySettings (post : TextPost) (t : Ticker) : Ticker :=
  { t with
    content := { t.content with deviceMode := post.deviceMode.getD t.content.deviceMode }
    quiet := post.quiet.getD t.quiet }

/-- `webEndpointsLoop`: a post's texts are dropped while quiet, or refused under the text that is
up. -/
def dropsTexts (post : TextPost) (t : Ticker) : Bool :=
  quietBlocksContent t.quiet (MQTT_TEXT_PRIORITY_MAX ≤ post.textPriority) ||
    !t.overlay.mqttNotificationAdmits post.textPriority

/-- `webEndpointsLoop`: a mode or a retained text ends the text that is up, but for one that rides
the same post. -/
def trumps (modeProvided messageProvided transientProvided : Bool) (t : Ticker) : Ticker :=
  if (modeProvided || messageProvided) && !transientProvided then
    { t with overlay := t.overlay.mqttCancelNotification }
  else t

/-- `webEndpointsLoop`, a retained text. -/
def takesMessage (m : Moment) (t : Ticker) : Option CStr → Ticker
  | some text =>
      if t.content.deviceMode = ascii "text" then
        let t := { t with content := { t.content with inputText := text } }
        if t.updating then t else t.wallShowText text m
      else t
  | none => t

/-- `webEndpointsLoop`, a timed text. -/
def takesTransient (post : TextPost) (m : Moment) (t : Ticker) : Option CStr → Ticker
  | some text =>
      if t.updating then t
      else
        let t := t.wallShowText text m
        { t with
          overlay :=
            t.overlay.mqttStartNotification post.transientDwell post.transientHold
              post.textPriority }
  | none => t

/-- `webEndpointsLoop`, the drain of a post. -/
def webPost (post : TextPost) (m : Moment) (t : Ticker) : Ticker :=
  let t := t.applySettings post
  let message := if t.dropsTexts post then none else post.inputText
  let transient := if t.dropsTexts post then none else post.transientText
  let t := t.trumps post.deviceMode.isSome message.isSome transient.isSome
  (t.takesMessage m message).takesTransient post m transient

/-- `clockTaskMain`, one turn of its loop. -/
def clockTick (m : Moment) (t : Ticker) : Ticker :=
  let t := { t with handed := none }
  if t.updating then t
  else if t.overlay.mqttNotificationActive then { t with notifWasActive := true }
  else
    let overlayEnded := t.notifWasActive
    let t := { t with notifWasActive := false }
    if t.quiet then t
    else if t.wallShowActive then
      match wallContent formatDateTime t.content overlayEnded m with
      | some content => { t.submit content m with handed := some content }
      | none => t
    else t

def act (t : Ticker) : Event → Ticker
  | .inboxText req m => t.inboxText req m
  | .inboxClear => { t with overlay := t.overlay.cancelNotificationLocal }
  | .inboxMode mode => t.inboxMode mode
  | .webPost post m => t.webPost post m
  | .serviceTick millis => { t with overlay := t.overlay.mqttServiceTick millis }
  | .setQuiet quiet => { t with quiet }
  | .setUpdating updating => { t with updating }
  | .setShown alignment flapSpeed => { t with content := { t.content with alignment, flapSpeed } }
  | .stop m => t.blanked m
  | .tick m => t.clockTick formatDateTime m

/-- A tick at which quiet is off and no unit update runs. -/
def passes (t : Ticker) : Event → Bool
  | .tick _ => !t.updating && !t.quiet
  | _ => false

/-- A tick that no unit update skips. -/
def looks (t : Ticker) : Event → Bool
  | .tick _ => !t.updating
  | _ => false

/-- A text that ends is owed the mode's content until a tick passes or another text starts. -/
def step (t : Ticker) (e : Event) : Option Ticker :=
  let t' := t.act formatDateTime e
  some { t' with
    ended := !t'.overlay.notifActive &&
      (t.overlay.notifActive || (t.ended && !t.passes e))
    found := if t.looks e then t.overlay.notifActive else t.found }

/-- `wallShowInit`, the other tasks not yet at work. -/
def start (boards : RowBoards) : Ticker where
  wall := ({} : WallShow).wallShowRowsChanged boards.table

end Ticker

/-! ## §3. What is asked of a tick. -/

/-- What the wall makes of what it is handed. -/
def handedTo (wall : WallShow) (m : Moment) : Option WallContent → WallShow
  | some content => (wall.submit content m.showClock).2
  | none => wall

/-- A tick that passes after a text ended hands the wall what the mode has. -/
def TakenDown (t : Ticker) (e : Event) : Prop :=
  ∀ m, e = .tick m → t.passes e = true → t.ended = true → ∀ t', t.step formatDateTime e = some t' →
    t'.handed = modeContent formatDateTime t.content m ∧ t'.wall = handedTo t.wall m t'.handed

/-- The text was up at the last tick that no update skipped, or the mode has more than a blank. -/
def Noticed (t : Ticker) (e : Event) : Prop :=
  t.passes e = true → t.ended = true →
    t.found = true ∨ ¬(t.content.deviceMode = ascii "text" ∧ t.content.inputText = [])

/-! ## §4. What every event keeps. -/

/-- The table stays, and so does what only a tick touches. -/
structure Same (t t' : Ticker) : Prop where
  table : t'.wall.table = t.wall.table
  notifWasActive : t'.notifWasActive = t.notifWasActive

theorem Same.refl (t : Ticker) : Same t t := ⟨rfl, rfl⟩

theorem Same.trans {a b c : Ticker} (h : Same a b) (h' : Same b c) : Same a c :=
  ⟨h'.table.trans h.table, h'.notifWasActive.trans h.notifWasActive⟩

theorem submit_table (s : WallShow) (content : WallContent) (clock : ShowClock) :
    (s.submit content clock).2.table = s.table := by
  obtain hno | ⟨_, s', _, hs', hstages, _⟩ := s.submit_stages content clock
  · rw [hno]
  · rw [hs']
    exact hstages.table

theorem Ticker.submit_same (content : WallContent) (m : Moment) (t : Ticker) :
    Same t (t.submit content m) := by
  unfold Ticker.submit
  split
  · exact ⟨submit_table _ _ _, rfl⟩
  · exact Same.refl t

theorem Ticker.wallShowText_same (text : CStr) (m : Moment) (t : Ticker) :
    Same t (t.wallShowText text m) := t.submit_same _ m

theorem Ticker.inboxText_same (req : MqttTextRequest) (m : Moment) (t : Ticker) :
    Same t (t.inboxText req m) := by
  unfold Ticker.inboxText
  split
  · exact ⟨rfl, rfl⟩
  · split
    · exact Same.refl t
    · split
      · exact Same.refl t
      · split
        · exact Same.refl t
        · have hshown := t.wallShowText_same req.text m
          exact ⟨hshown.table, hshown.notifWasActive⟩

theorem Ticker.trumps_same (mode message transient : Bool) (t : Ticker) :
    Same t (t.trumps mode message transient) := by
  unfold Ticker.trumps
  split <;> exact ⟨rfl, rfl⟩

theorem Ticker.takesMessage_same (m : Moment) (t : Ticker) (message : Option CStr) :
    Same t (t.takesMessage m message) := by
  cases message with
  | none => exact Same.refl t
  | some text =>
      unfold Ticker.takesMessage
      dsimp only
      split
      · split
        · exact ⟨rfl, rfl⟩
        · have hshown := Ticker.wallShowText_same text m
            { t with content := { t.content with inputText := text } }
          exact ⟨hshown.table, hshown.notifWasActive⟩
      · exact Same.refl t

theorem Ticker.takesTransient_same (post : TextPost) (m : Moment) (t : Ticker)
    (transient : Option CStr) : Same t (t.takesTransient post m transient) := by
  cases transient with
  | none => exact Same.refl t
  | some text =>
      unfold Ticker.takesTransient
      dsimp only
      split
      · exact Same.refl t
      · have hshown := t.wallShowText_same text m
        exact ⟨hshown.table, hshown.notifWasActive⟩

theorem Ticker.webPost_same (post : TextPost) (m : Moment) (t : Ticker) :
    Same t (t.webPost post m) := by
  unfold Ticker.webPost
  have happlied : Same t (t.applySettings post) := ⟨rfl, rfl⟩
  exact ((happlied.trans (Ticker.trumps_same ..)).trans (Ticker.takesMessage_same ..)).trans
    (Ticker.takesTransient_same ..)

theorem Ticker.blanked_same (m : Moment) (t : Ticker) : Same t (t.blanked m) := by
  have htable := (t.wall.blank_stages m.showClock).1.table
  unfold Ticker.blanked
  generalize t.wall.wallShowBlank m.showClock = wall at htable ⊢
  exact ⟨htable, rfl⟩

/-- What a tick makes of its own flag: no update skipped it, and it found a text up or not. -/
theorem Ticker.clockTick_flag (m : Moment) (t : Ticker) :
    (t.clockTick formatDateTime m).wall.table = t.wall.table ∧
      (t.clockTick formatDateTime m).notifWasActive =
        if t.updating then t.notifWasActive else t.overlay.notifActive := by
  unfold Ticker.clockTick
  dsimp only
  split
  · exact ⟨rfl, rfl⟩
  · split
    · rename_i hactive
      exact ⟨rfl, hactive.symm⟩
    · rename_i hactive
      have hflag : t.overlay.notifActive = false := Bool.not_eq_true _ ▸ hactive
      split
      · exact ⟨rfl, hflag.symm⟩
      · split
        · split
          · rename_i content _
            have hsame := Ticker.submit_same content m
              { t with handed := none, notifWasActive := false }
            exact ⟨hsame.table, hsame.notifWasActive.trans hflag.symm⟩
          · exact ⟨rfl, hflag.symm⟩
        · exact ⟨rfl, hflag.symm⟩

/-- Every event but a tick leaves the tick's flag; none changes the table. -/
theorem Ticker.act_keeps (t : Ticker) (e : Event) :
    (t.act formatDateTime e).wall.table = t.wall.table ∧
      (t.act formatDateTime e).notifWasActive =
        if t.looks e then t.overlay.notifActive else t.notifWasActive := by
  have hsame {t' : Ticker} (h : Same t t') (hlooks : t.looks e = false) :
      t'.wall.table = t.wall.table ∧
        t'.notifWasActive = if t.looks e then t.overlay.notifActive else t.notifWasActive := by
    rw [hlooks]
    exact ⟨h.table, h.notifWasActive⟩
  cases e with
  | inboxText req m => exact hsame (t.inboxText_same req m) rfl
  | inboxMode mode =>
      refine hsame ?_ rfl
      show Same t (t.inboxMode mode)
      unfold Ticker.inboxMode
      split
      · exact Same.refl t
      · exact ⟨rfl, rfl⟩
  | webPost post m => exact hsame (t.webPost_same post m) rfl
  | stop m => exact hsame (t.blanked_same m) rfl
  | tick m =>
      obtain ⟨htable, hflag⟩ := t.clockTick_flag formatDateTime m
      refine ⟨htable, hflag.trans ?_⟩
      show _ = if (!t.updating) = true then _ else _
      cases t.updating <;> rfl
  | inboxClear | serviceTick | setQuiet | setUpdating | setShown => exact hsame ⟨rfl, rfl⟩ rfl

structure Kept (t : Ticker) : Prop where
  boards : t.wall.table.rows ≠ []
  flag : t.notifWasActive = t.found
  down : t.ended = true → t.overlay.notifActive = false

theorem Kept.start (boards : RowBoards) : Kept (Ticker.start boards) :=
  ⟨boards.some, rfl, fun _ => rfl⟩

variable {formatDateTime} in
theorem Kept.step {t t' : Ticker} (h : Kept t) {e : Event}
    (hstep : t.step formatDateTime e = some t') : Kept t' := by
  unfold Ticker.step at hstep
  rw [Option.some.injEq] at hstep
  obtain ⟨htable, hflag⟩ := t.act_keeps formatDateTime e
  subst hstep
  refine ⟨?_, ?_, ?_⟩
  · show (t.act formatDateTime e).wall.table.rows ≠ []
    rw [htable]
    exact h.boards
  · show (t.act formatDateTime e).notifWasActive = _
    rw [hflag, h.flag]
  · intro hended
    exact (Bool.and_eq_true_iff.mp hended).1 |> (Bool.not_eq_true' _).mp

/-! ## §5. A tick that passes. -/

/-- The tick has what the mode has, but for the blank of a text that ended unnoticed. -/
theorem wallContent_eq_iff (content : WebContentSnapshot) (overlayEnded : Bool) (m : Moment) :
    wallContent formatDateTime content overlayEnded m = modeContent formatDateTime content m ↔
      overlayEnded = true ∨ ¬(content.deviceMode = ascii "text" ∧ content.inputText = []) := by
  unfold wallContent modeContent
  by_cases hclock : content.deviceMode = ascii "clock"
  · have htext : content.deviceMode ≠ ascii "text" := by
      rw [hclock]
      decide +kernel
    simp only [hclock, if_true, true_iff]
    exact .inr fun hboth => htext (hclock.trans hboth.1)
  · simp only [hclock, if_false]
    by_cases htext : content.deviceMode = ascii "text"
    · simp only [htext, true_and, if_true]
      by_cases hempty : content.inputText = []
      · cases overlayEnded <;> simp [hempty]
      · simp [hempty]
    · simp [htext]

/-- What a tick that passes hands over, and to whom. -/
theorem Ticker.tick_hands {t : Ticker} (h : Kept t) {m : Moment}
    (hpasses : t.passes (.tick m) = true) (hended : t.ended = true) :
    (t.clockTick formatDateTime m).handed = wallContent formatDateTime t.content t.found m ∧
      (t.clockTick formatDateTime m).wall =
        handedTo t.wall m (wallContent formatDateTime t.content t.found m) := by
  obtain ⟨hupdating, hquiet⟩ := Bool.and_eq_true_iff.mp hpasses
  rw [Bool.not_eq_true'] at hupdating hquiet
  have hdown := h.down hended
  have hactive (t' : Ticker) (hwall : t'.wall = t.wall) : t'.wallShowActive = true := by
    unfold Ticker.wallShowActive
    rw [hwall, Bool.not_eq_true', List.isEmpty_eq_false_iff]
    exact h.boards
  have hsubmit (content : WallContent) (t' : Ticker) (hwall : t'.wall = t.wall) :
      (t'.submit content m).wall = (t.wall.submit content m.showClock).2 := by
    unfold Ticker.submit
    rw [if_pos (hactive t' hwall), hwall]
  unfold Ticker.clockTick Overlay.mqttNotificationActive
  simp only [hupdating, hdown, hquiet, if_false, Bool.false_eq_true]
  split
  · rw [h.flag]
    cases wallContent formatDateTime t.content t.found m with
    | none => exact ⟨rfl, rfl⟩
    | some content => exact ⟨rfl, hsubmit content _ rfl⟩
  · rename_i hnone
    exact (hnone (hactive _ rfl)).elim

/-- The mode's content comes exactly where the text was noticed, or the mode has more than a
blank. -/
theorem Kept.taken_down_iff {t : Ticker} (h : Kept t) (e : Event) :
    TakenDown formatDateTime t e ↔ Noticed t e := by
  constructor
  · intro htaken hpasses hended
    cases e with
    | tick m =>
        have hhanded := (htaken m rfl hpasses hended _ rfl).1
        have hhands := (t.tick_hands formatDateTime h hpasses hended).1
        exact (wallContent_eq_iff formatDateTime t.content t.found m).mp (hhands.symm.trans hhanded)
    | _ => cases hpasses
  · rintro hnoticed m rfl hpasses hended t' hstep
    obtain ⟨hhands, hwall⟩ := t.tick_hands formatDateTime h hpasses hended
    unfold Ticker.step at hstep
    rw [Option.some.injEq] at hstep
    subst hstep
    have hmode := (wallContent_eq_iff formatDateTime t.content t.found m).mpr
      (hnoticed hpasses hended)
    show (t.clockTick formatDateTime m).handed = _ ∧ (t.clockTick formatDateTime m).wall =
      handedTo t.wall m (t.clockTick formatDateTime m).handed
    rw [hhands, hwall]
    exact ⟨hmode, rfl⟩

/-- **In every run, a timed text comes down at the first tick that may act, exactly where the last
tick that no update skipped found it up or the mode has more than a blank to show.** -/
theorem text_comes_down_iff (formatDateTime : UInt64 → CStr → CStr) (boards : RowBoards)
    (events : List Event) :
    AllMeet (TakenDown formatDateTime) (Ticker.step formatDateTime) (Ticker.start boards) events ↔
      AllMeet Noticed (Ticker.step formatDateTime) (Ticker.start boards) events :=
  (AllMeet.of_invariant (P := Kept) (fun _ _ _ h hstep => h.step hstep)
    (fun _ e h => h.taken_down_iff formatDateTime e) (Kept.start boards) events).iff_of

/-- A master with one row board below it. -/
def oneRowBoard : RowBoards where
  table := { rows := [{ width := 4 }, { id := ascii "below", row := 1, width := 4 }] }
  some := by decide

/-- A text held and cleared while quiet comes: the tick under quiet takes the note back, and the
ticks after it have no reason to blank the wall. -/
theorem text_stays_after_quiet :
    ¬AllMeet (TakenDown fun _ _ => []) (Ticker.step fun _ _ => []) (Ticker.start oneRowBoard)
      [.inboxText { text := ascii "RAIN", hold := true } {}, .tick {}, .setQuiet true, .inboxClear,
        .tick {}, .setQuiet false, .tick {}] := by
  intro htaken
  have hcleared := (((htaken.2 _ rfl).2 _ rfl).2 _ rfl).2 _ rfl
  have hlast := ((hcleared.2 _ rfl).2 _ rfl).1
  have hhanded := (hlast {} rfl (by decide +kernel) (by decide +kernel) _ rfl).1
  exact absurd hhanded (by decide +kernel)

end SplitFlap.ModeTicker
