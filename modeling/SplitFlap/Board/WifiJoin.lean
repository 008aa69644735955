/-
  SplitFlap.Board.WifiJoin — how the master gets onto its network, boot after boot.

  A boot with credentials spends a join window.  A window that closes without a link is
  retried by a restart, and only the third in a row opens the setup portal; the count of
  the windows before is a record in RAM that a restart keeps.  Online, a link that stays
  away restarts the board and never opens the portal.

    • `wifiPolicyStep` decides, `wifiServiceTick` carries it out: the record, the
      restarts that wait for a unit reflash, the credentials;
    • a reset may come at any time, for any reason, and may lose the record.

  Main results: `portal_after_three_windows` and `link_watchdog_waits`.
-/
import Mathlib.Algebra.Group.Nat.Defs
import SplitFlap.Lib.Clock
import SplitFlap.Lib.KeptCount
import SplitFlap.Lib.Log
import SplitFlap.Lib.Machine

namespace SplitFlap.WifiJoin

open SplitFlap.Clock SplitFlap.Log SplitFlap.Machine

abbrev WIFI_JOIN_TIMEOUT_MS : UInt32 := 30000
abbrev WIFI_PORTAL_TIMEOUT_MS : UInt32 := 300000
abbrev WIFI_JOIN_ATTEMPTS : UInt8 := 3
abbrev WIFI_RECONNECT_TIMEOUT_MS : UInt32 := 90000
abbrev WIFI_JOIN_RETRY_MAGIC : UInt32 := 0x524A4657

/-! ## §1. The policy. -/

inductive WifiPhase where
  | boot
  | joining
  | portal
  | connected
  deriving DecidableEq

inductive WifiAction where
  | none
  | startJoin
  | startPortal
  | startOnline
  | retryJoin
  | saveAndReboot
  | reboot
  deriving DecidableEq

structure WifiPolicyState where
  phase : WifiPhase := .boot
  deadlineMs : UInt32 := 0
  failedJoinBoots : UInt8 := 0
  linkDownSinceMs : UInt32 := 0

def wifiJoinRetryEncode (failed : UInt8) : KeptCount :=
  KeptCount.encode WIFI_JOIN_RETRY_MAGIC failed

/-- Capped below the attempts: a tally cannot send a board to the portal that has not tried. -/
def wifiJoinRetryDecode (r : KeptCount) : UInt8 :=
  let failed := KeptCount.decode WIFI_JOIN_RETRY_MAGIC r
  if failed ≥ WIFI_JOIN_ATTEMPTS then WIFI_JOIN_ATTEMPTS - 1 else failed

def wifiRestartMayProceed (action : WifiAction) (phase : WifiPhase) (unitReflashRunning : Bool) :
    Bool :=
  if !unitReflashRunning then true
  else if action = .retryJoin then false
  else if action = .reboot ∧ phase = .portal then false
  else true

def wifiPolicyStep (st : WifiPolicyState) (nowMs : UInt32)
    (linkUp credsStored portalSubmitted : Bool) : WifiPolicyState × WifiAction :=
  match st.phase with
  | .boot =>
      if credsStored then
        ({ st with phase := .joining, deadlineMs := nowMs + WIFI_JOIN_TIMEOUT_MS }, .startJoin)
      else
        ({ st with phase := .portal, deadlineMs := nowMs + WIFI_PORTAL_TIMEOUT_MS }, .startPortal)
  | .joining =>
      if linkUp then ({ st with phase := .connected }, .startOnline)
      else if portalSubmitted then (st, .saveAndReboot)
      else if reached nowMs st.deadlineMs then
        if st.failedJoinBoots + 1 < WIFI_JOIN_ATTEMPTS then (st, .retryJoin)
        else
          ({ st with phase := .portal, deadlineMs := nowMs + WIFI_PORTAL_TIMEOUT_MS },
            .startPortal)
      else (st, .none)
  | .portal =>
      if portalSubmitted then (st, .saveAndReboot)
      else if reached nowMs st.deadlineMs then (st, .reboot)
      else (st, .none)
  | .connected =>
      if portalSubmitted then (st, .saveAndReboot)
      else if linkUp then ({ st with linkDownSinceMs := 0 }, .none)
      else
        let since := if st.linkDownSinceMs = 0 then (if nowMs ≠ 0 then nowMs else 1)
          else st.linkDownSinceMs
        ({ st with linkDownSinceMs := since },
          if reached nowMs (since + WIFI_RECONNECT_TIMEOUT_MS) then .reboot else .none)

/-! ## §2. The board. -/

/-- What happened to a board.  Times are of the boot they fall into. -/
inductive Happening where
  | lost (memory : KeptCount)
  | window (opened closed : Nat) (reflashing : Bool)
  | online
  | portal (stored : Bool) (opened closed : Nat)
  | linkRestart (down now : Nat)

/-- The record and the credentials outlast a boot.  Read by no function: the story, when this
boot's join began, and since when every tick found the link down. -/
structure Board where
  joinRetry : KeptCount
  policy : WifiPolicyState := {}
  stored : Bool
  credsStored : Bool
  restartPending : Bool := false
  uptime : Nat := 0
  story : List Happening := []
  joinSince : Nat := 0
  downSince : Option Nat := none

/-- What a tick finds: the link, a staged configuration, a staged reset, a reflash of the units. -/
structure Look where
  now : Nat
  linkUp : Bool
  submitted : Bool
  doReset : Bool
  reflashing : Bool

/-- A reset keeps the record or leaves something else in its place; `schedule` is a restart that
another part of the firmware asked for. -/
inductive Event where
  | reset (lost : Option KeptCount)
  | schedule
  | tick (look : Look)

namespace Board

/-- `wifiServiceInit` of the boot after a reset: settings read from flash, the record decoded. -/
def wifiServiceInit (lost : Option KeptCount) (b : Board) : Board where
  joinRetry := lost.getD b.joinRetry
  policy := { failedJoinBoots := wifiJoinRetryDecode (lost.getD b.joinRetry) }
  stored := b.stored
  credsStored := b.stored
  story := b.story ++ (lost.map Happening.lost).toList

/-- The link as the watchdog's ticks have seen it. -/
def watched (look : Look) (b : Board) : Option Nat :=
  if b.policy.phase = .connected ∧ look.linkUp = false then some (b.downSince.getD look.now)
  else none

/-- The `switch` of `wifiServiceTick`. -/
def act (look : Look) (action : WifiAction) (b : Board) : Board :=
  match action with
  | .none => b
  | .startJoin => { b with joinSince := look.now }
  | .startPortal =>
      { b with
        joinRetry := wifiJoinRetryEncode 0
        story := b.story ++ [.portal b.credsStored b.joinSince look.now] }
  | .startOnline =>
      { b with joinRetry := wifiJoinRetryEncode 0, story := b.story ++ [.online] }
  | .retryJoin =>
      { b with
        joinRetry := wifiJoinRetryEncode (b.policy.failedJoinBoots + 1)
        restartPending := true
        story := b.story ++ [.window b.joinSince look.now look.reflashing] }
  | .saveAndReboot => { b with stored := true, restartPending := true }
  | .reboot =>
      { b with
        restartPending := true
        story :=
          if b.policy.phase = .connected then
            b.story ++ [.linkRestart (b.downSince.getD look.now) look.now]
          else b.story }

/-- One step of the policy in `wifiServiceTick`, and what comes of it. -/
def supervise (look : Look) (b : Board) : Board :=
  let out := wifiPolicyStep b.policy (reading look.now) look.linkUp b.credsStored look.submitted
  let b := { b with downSince := b.watched look, policy := out.1 }
  if (out.2 = .retryJoin ∨ out.2 = .reboot) ∧
      wifiRestartMayProceed out.2 out.1.phase look.reflashing = false then b
  else b.act look out.2

/-- `wifiServiceTick`: a staged reset erases the credentials and restarts. -/
def wifiServiceTick (look : Look) (b : Board) : Board :=
  let b := { b with uptime := look.now }
  let b := if look.doReset ∧ b.restartPending = false then
      { b with stored := false, restartPending := true }
    else b
  if b.restartPending then b else b.supervise look

def step (b : Board) : Event → Option Board
  | .reset lost => some (b.wifiServiceInit lost)
  | .schedule => some { b with restartPending := true }
  | .tick look => if b.uptime ≤ look.now then some (b.wifiServiceTick look) else none

end Board

/-! ## §3. The count of a story. -/

/-- Join windows in a row that closed without a link, with no boot online, no portal and no lost
record between them. -/
def Happening.count (failed : Nat) : Happening → Nat
  | .lost memory => (wifiJoinRetryDecode memory).toNat
  | .window _ _ _ => failed + 1
  | .online => 0
  | .portal _ _ _ => 0
  | .linkRestart _ _ => failed

def failedInARow (story : List Happening) : Nat := story.foldl Happening.count 0

theorem failedInARow_snoc (story : List Happening) (h : Happening) :
    failedInARow (story ++ [h]) = h.count (failedInARow story) := by
  unfold failedInARow
  rw [List.foldl_append]
  rfl

theorem wifiJoinRetryDecode_encode {failed : UInt8} (h : failed < WIFI_JOIN_ATTEMPTS) :
    wifiJoinRetryDecode (wifiJoinRetryEncode failed) = failed := by
  unfold wifiJoinRetryDecode wifiJoinRetryEncode
  rw [KeptCount.decode_encode]
  simp only
  rw [if_neg]
  exact UInt8.not_le.mpr h

theorem wifiJoinRetryDecode_le (r : KeptCount) : (wifiJoinRetryDecode r).toNat ≤ 2 := by
  unfold wifiJoinRetryDecode
  simp only
  split
  · exact le_rfl
  · next hfew =>
      have hlt := UInt8.lt_iff_toNat_lt.mp (UInt8.not_le.mp hfew)
      have hthree : WIFI_JOIN_ATTEMPTS.toNat = 3 := rfl
      omega

/-- One more failed boot, counted in a byte. -/
theorem attempt_lt {failed : UInt8} (h : failed.toNat ≤ 2) :
    (failed + 1 < WIFI_JOIN_ATTEMPTS ↔ failed.toNat < 2) ∧
      (failed + 1).toNat = failed.toNat + 1 := by
  have hone : (1 : UInt8).toNat = 1 := rfl
  have hthree : WIFI_JOIN_ATTEMPTS.toNat = 3 := rfl
  rw [UInt8.lt_iff_toNat_lt, UInt8.toNat_add, hone, hthree]
  omega

/-! ## §4. Runs. -/

/-- What a happening says of what was before it. -/
def Happening.Fits (before : List Happening) : Happening → Prop
  | .lost _ => True
  | .window opened closed reflashing =>
      failedInARow before < 2 ∧ opened + 30000 ≤ closed ∧ reflashing = false
  | .online => True
  | .portal stored opened closed =>
      stored = true → failedInARow before = 2 ∧ opened + 30000 ≤ closed
  | .linkRestart down now => down + 90000 ≤ now

/-- The outage clock runs from a tick `t` that found the link down, as every tick since `down`
did. -/
structure Watching (since : UInt32) (down t uptime : Nat) : Prop where
  begun : down ≤ t
  past : t ≤ uptime
  clock : since = reading t ∨ reading t = 0 ∧ since = 1

/-- What holds between two events. -/
structure Joins (b : Board) : Prop where
  record : (wifiJoinRetryDecode b.joinRetry).toNat = failedInARow b.story
  fits : Each (fun before h => h.Fits before) b.story
  seeded : b.restartPending = false → b.policy.phase = .boot ∨ b.policy.phase = .joining →
    b.policy.failedJoinBoots = wifiJoinRetryDecode b.joinRetry
  opened : b.policy.phase = .joining → b.credsStored = true ∧ b.joinSince ≤ b.uptime ∧
    b.policy.deadlineMs = reading b.joinSince + WIFI_JOIN_TIMEOUT_MS
  fresh : b.policy.phase ≠ .connected → b.policy.linkDownSinceMs = 0
  watching : b.restartPending = false → b.policy.linkDownSinceMs ≠ 0 →
    ∃ down t, b.downSince = some down ∧ Watching b.policy.linkDownSinceMs down t b.uptime
  down : ∀ down, b.downSince = some down → down ≤ b.uptime

theorem joins_init (b : Board) (h : Joins b) (lost : Option KeptCount) :
    Joins (b.wifiServiceInit lost) := by
  constructor
  · cases lost with
    | none =>
        show (wifiJoinRetryDecode b.joinRetry).toNat = failedInARow (b.story ++ [])
        rw [List.append_nil]
        exact h.record
    | some memory =>
        show (wifiJoinRetryDecode memory).toNat = failedInARow (b.story ++ [_])
        rw [failedInARow_snoc]
        rfl
  · cases lost with
    | none =>
        show Each _ (b.story ++ [])
        rw [List.append_nil]
        exact h.fits
    | some memory => exact each_snoc.mpr ⟨h.fits, trivial⟩
  · exact fun _ _ => rfl
  · intro hphase
    cases hphase
  · exact fun _ => rfl
  · exact fun _ hsince => absurd rfl hsince
  · intro down hdown
    cases hdown

/-- The time a tick is at. -/
theorem joins_later {b : Board} (h : Joins b) {now : Nat} (hnow : b.uptime ≤ now) :
    Joins { b with uptime := now } where
  record := h.record
  fits := h.fits
  seeded := h.seeded
  opened := fun hphase =>
    ⟨(h.opened hphase).1, Nat.le_trans (h.opened hphase).2.1 hnow, (h.opened hphase).2.2⟩
  fresh := h.fresh
  watching := fun hpending hsince => by
    obtain ⟨down, t, hdown, hw⟩ := h.watching hpending hsince
    exact ⟨down, t, hdown, hw.begun, Nat.le_trans hw.past hnow, hw.clock⟩
  down := fun down hdown => Nat.le_trans (h.down down hdown) hnow

theorem watched_none {b : Board} (h : b.policy.phase ≠ .connected) (look : Look) :
    b.watched look = none := by
  unfold Board.watched
  rw [if_neg fun hboth => h hboth.1]

section Policy

variable {st : WifiPolicyState} {now : UInt32} {link creds sub : Bool}

theorem step_join (hphase : st.phase = .boot) (hcreds : creds = true) :
    wifiPolicyStep st now link creds sub =
      ({ st with phase := .joining, deadlineMs := now + WIFI_JOIN_TIMEOUT_MS }, .startJoin) := by
  unfold wifiPolicyStep
  rw [hphase, hcreds]
  rfl

theorem step_noCreds (hphase : st.phase = .boot) (hcreds : creds = false) :
    wifiPolicyStep st now link creds sub =
      ({ st with phase := .portal, deadlineMs := now + WIFI_PORTAL_TIMEOUT_MS },
        .startPortal) := by
  unfold wifiPolicyStep
  rw [hphase, hcreds]
  rfl

theorem step_online (hphase : st.phase = .joining) (hlink : link = true) :
    wifiPolicyStep st now link creds sub = ({ st with phase := .connected }, .startOnline) := by
  unfold wifiPolicyStep
  rw [hphase, hlink]
  rfl

theorem step_windowOpen (hphase : st.phase = .joining) (hlink : link = false) (hsub : sub = false)
    (hreached : reached now st.deadlineMs = false) :
    wifiPolicyStep st now link creds sub = (st, .none) := by
  unfold wifiPolicyStep
  rw [hphase, hlink, hsub, hreached]
  rfl

theorem step_retry (hphase : st.phase = .joining) (hlink : link = false) (hsub : sub = false)
    (hreached : reached now st.deadlineMs = true)
    (hleft : st.failedJoinBoots + 1 < WIFI_JOIN_ATTEMPTS) :
    wifiPolicyStep st now link creds sub = (st, .retryJoin) := by
  unfold wifiPolicyStep
  rw [hphase, hlink, hsub, hreached]
  exact if_pos hleft

theorem step_noneLeft (hphase : st.phase = .joining) (hlink : link = false) (hsub : sub = false)
    (hreached : reached now st.deadlineMs = true)
    (hleft : ¬ st.failedJoinBoots + 1 < WIFI_JOIN_ATTEMPTS) :
    wifiPolicyStep st now link creds sub =
      ({ st with phase := .portal, deadlineMs := now + WIFI_PORTAL_TIMEOUT_MS },
        .startPortal) := by
  unfold wifiPolicyStep
  rw [hphase, hlink, hsub, hreached]
  exact if_neg hleft

theorem step_parked (hphase : st.phase = .portal) (hsub : sub = false)
    (hreached : reached now st.deadlineMs = false) :
    wifiPolicyStep st now link creds sub = (st, .none) := by
  unfold wifiPolicyStep
  rw [hphase, hsub, hreached]
  rfl

theorem step_expired (hphase : st.phase = .portal) (hsub : sub = false)
    (hreached : reached now st.deadlineMs = true) :
    wifiPolicyStep st now link creds sub = (st, .reboot) := by
  unfold wifiPolicyStep
  rw [hphase, hsub, hreached]
  rfl

/-- A staged configuration, in every phase but the first that has no link to show for it. -/
theorem step_submitted (hphase : st.phase = .joining ∧ link = false ∨ st.phase = .portal ∨
    st.phase = .connected) (hsub : sub = true) :
    wifiPolicyStep st now link creds sub = (st, .saveAndReboot) := by
  unfold wifiPolicyStep
  obtain ⟨hjoining, hlink⟩ | hportal | hconnected := hphase
  · rw [hjoining, hlink, hsub]
    rfl
  · rw [hportal, hsub]
    rfl
  · rw [hconnected, hsub]
    rfl

theorem step_linkUp (hphase : st.phase = .connected) (hlink : link = true) (hsub : sub = false) :
    wifiPolicyStep st now link creds sub = ({ st with linkDownSinceMs := 0 }, .none) := by
  unfold wifiPolicyStep
  rw [hphase, hlink, hsub]
  rfl

/-- When the outage began, on the clock. -/
def downSinceMs (st : WifiPolicyState) (now : UInt32) : UInt32 :=
  if st.linkDownSinceMs = 0 then (if now ≠ 0 then now else 1) else st.linkDownSinceMs

theorem step_linkDown (hphase : st.phase = .connected) (hlink : link = false)
    (hsub : sub = false) {late : Bool}
    (hreached : reached now (downSinceMs st now + WIFI_RECONNECT_TIMEOUT_MS) = late) :
    wifiPolicyStep st now link creds sub =
      ({ st with linkDownSinceMs := downSinceMs st now },
        if late then .reboot else .none) := by
  unfold wifiPolicyStep
  rw [hphase, hlink, hsub, ← hreached]
  rfl

end Policy

theorem supervise_eq {b : Board} {look : Look} {st : WifiPolicyState} {action : WifiAction}
    (h : wifiPolicyStep b.policy (reading look.now) look.linkUp b.credsStored look.submitted =
      (st, action)) :
    b.supervise look =
      if (action = .retryJoin ∨ action = .reboot) ∧
          wifiRestartMayProceed action st.phase look.reflashing = false then
        { b with downSince := b.watched look, policy := st }
      else Board.act look action { b with downSince := b.watched look, policy := st } := by
  unfold Board.supervise
  rw [h]

/-- The policy's own step, when it is no restart. -/
theorem supervise_plain {b : Board} {look : Look} {st : WifiPolicyState} {action : WifiAction}
    (h : wifiPolicyStep b.policy (reading look.now) look.linkUp b.credsStored look.submitted =
      (st, action)) (hplain : action ≠ .retryJoin ∧ action ≠ .reboot) :
    b.supervise look =
      Board.act look action { b with downSince := b.watched look, policy := st } := by
  rw [supervise_eq h, if_neg]
  rintro ⟨hretry | hreboot, -⟩
  · exact hplain.1 hretry
  · exact hplain.2 hreboot

/-- A restart that waits changes nothing but what the policy noted. -/
theorem joins_waits {b : Board} {look : Look} (h : Joins b) (hother : b.policy.phase ≠ .connected) :
    Joins { b with downSince := b.watched look } := by
  rw [watched_none hother]
  exact ⟨h.record, h.fits, h.seeded, h.opened, h.fresh,
    fun _ hsince => absurd (h.fresh hother) hsince, fun _ hdown => (by cases hdown)⟩

theorem supervise_boot {b : Board} {look : Look} (h : Joins b) (hnow : b.uptime = look.now)
    (hphase : b.policy.phase = .boot) (hpending : b.restartPending = false) :
    Joins (b.supervise look) := by
  have hother : b.policy.phase ≠ .connected := by
    rw [hphase]
    decide
  have hzero := h.fresh hother
  cases hcreds : b.credsStored with
  | true =>
      rw [supervise_plain (step_join hphase hcreds) (by decide), watched_none hother]
      refine ⟨h.record, h.fits, fun _ _ => h.seeded hpending (Or.inl hphase), ?_, fun _ => hzero,
        fun _ hsince => absurd hzero hsince, fun _ hdown => (by cases hdown)⟩
      exact fun _ => ⟨hcreds, Nat.le_of_eq hnow.symm, rfl⟩
  | false =>
      rw [supervise_plain (step_noCreds hphase hcreds) (by decide), watched_none hother]
      refine ⟨?_, each_snoc.mpr ⟨h.fits, ?_⟩, ?_, ?_, fun _ => hzero,
        fun _ hsince => absurd hzero hsince, fun _ hdown => (by cases hdown)⟩
      · show (wifiJoinRetryDecode (wifiJoinRetryEncode 0)).toNat = failedInARow (_ ++ [_])
        rw [failedInARow_snoc, wifiJoinRetryDecode_encode (by decide)]
        rfl
      · intro hstored
        rw [hcreds] at hstored
        cases hstored
      · rintro - (hno | hno) <;> cases hno
      · intro hno
        cases hno

theorem supervise_joining {b : Board} {look : Look} (h : Joins b) (hnow : b.uptime = look.now)
    (hphase : b.policy.phase = .joining) (hpending : b.restartPending = false) :
    Joins (b.supervise look) := by
  have hother : b.policy.phase ≠ .connected := by
    rw [hphase]
    decide
  have hzero := h.fresh hother
  have hseeded := h.seeded hpending (Or.inr hphase)
  obtain ⟨hcreds, hsince, hdeadline⟩ := h.opened hphase
  cases hlink : look.linkUp with
  | true =>
      -- online: a full set of attempts for the next boot
      rw [supervise_plain (step_online hphase hlink) (by decide), watched_none hother]
      refine ⟨?_, each_snoc.mpr ⟨h.fits, trivial⟩, ?_, ?_, fun _ => hzero,
        fun _ hno => absurd hzero hno, fun _ hdown => (by cases hdown)⟩
      · show (wifiJoinRetryDecode (wifiJoinRetryEncode 0)).toNat = failedInARow (_ ++ [_])
        rw [failedInARow_snoc, wifiJoinRetryDecode_encode (by decide)]
        rfl
      · rintro - (hno | hno) <;> cases hno
      · intro hno
        cases hno
  | false =>
      cases hsub : look.submitted with
      | true =>
          rw [supervise_plain (step_submitted (Or.inl ⟨hphase, hlink⟩) hsub) (by decide),
            watched_none hother]
          exact ⟨h.record, h.fits, fun hno => (by cases hno), h.opened, h.fresh,
            fun hno => (by cases hno), fun _ hdown => (by cases hdown)⟩
      | false =>
          cases hreached : reached (reading look.now) b.policy.deadlineMs with
          | false =>
              rw [supervise_plain (step_windowOpen hphase hlink hsub hreached) (by decide)]
              exact joins_waits h hother
          | true =>
              -- the window closed
              have hwindow : b.joinSince + 30000 ≤ look.now := by
                rw [hdeadline] at hreached
                exact reached_passed (hnow ▸ hsince) (by decide) hreached
              have hfew := wifiJoinRetryDecode_le b.joinRetry
              rw [← hseeded] at hfew
              have hcount : b.policy.failedJoinBoots.toNat = failedInARow b.story := by
                rw [hseeded]
                exact h.record
              by_cases hleft : b.policy.failedJoinBoots + 1 < WIFI_JOIN_ATTEMPTS
              · rw [supervise_eq (step_retry hphase hlink hsub hreached hleft)]
                split
                · exact joins_waits h hother
                · next hgo =>
                    have hidle : look.reflashing = false := by
                      cases hflash : look.reflashing with
                      | false => rfl
                      | true =>
                          exact absurd ⟨Or.inl rfl, by rw [hflash]; rfl⟩ hgo
                    rw [watched_none hother]
                    refine ⟨?_, each_snoc.mpr ⟨h.fits, ?_⟩, fun hno => (by cases hno), h.opened,
                      h.fresh, fun hno => (by cases hno), fun _ hdown => (by cases hdown)⟩
                    · show (wifiJoinRetryDecode (wifiJoinRetryEncode _)).toNat =
                        failedInARow (_ ++ [_])
                      rw [failedInARow_snoc, wifiJoinRetryDecode_encode hleft,
                        (attempt_lt hfew).2, hcount]
                      rfl
                    · exact ⟨hcount ▸ (attempt_lt hfew).1.mp hleft, hwindow, hidle⟩
              · rw [supervise_plain (step_noneLeft hphase hlink hsub hreached hleft) (by decide),
                  watched_none hother]
                refine ⟨?_, each_snoc.mpr ⟨h.fits, ?_⟩, ?_, ?_, fun _ => hzero,
                  fun _ hno => absurd hzero hno, fun _ hdown => (by cases hdown)⟩
                · show (wifiJoinRetryDecode (wifiJoinRetryEncode 0)).toNat =
                    failedInARow (_ ++ [_])
                  rw [failedInARow_snoc, wifiJoinRetryDecode_encode (by decide)]
                  rfl
                · intro _
                  have htwo := mt (attempt_lt hfew).1.mpr hleft
                  have hexact : failedInARow b.story = 2 := by omega
                  exact ⟨hexact, hwindow⟩
                · rintro - (hno | hno) <;> cases hno
                · intro hno
                  cases hno

theorem supervise_portal {b : Board} {look : Look} (h : Joins b)
    (hphase : b.policy.phase = .portal) : Joins (b.supervise look) := by
  have hother : b.policy.phase ≠ .connected := by
    rw [hphase]
    decide
  have hwait : Joins { b with downSince := b.watched look } := joins_waits h hother
  cases hsub : look.submitted with
  | true =>
      rw [supervise_plain (step_submitted (Or.inr (Or.inl hphase)) hsub) (by decide)]
      exact ⟨hwait.record, hwait.fits, fun hno => (by cases hno), hwait.opened, hwait.fresh,
        fun hno => (by cases hno), hwait.down⟩
  | false =>
      cases hreached : reached (reading look.now) b.policy.deadlineMs with
      | false =>
          rw [supervise_plain (step_parked hphase hsub hreached) (by decide)]
          exact hwait
      | true =>
          rw [supervise_eq (step_expired hphase hsub hreached)]
          split
          · exact hwait
          · show Joins { b with
              downSince := b.watched look
              restartPending := true
              story := if b.policy.phase = .connected then _ else b.story }
            rw [if_neg hother]
            exact ⟨hwait.record, hwait.fits, fun hno => (by cases hno), hwait.opened, hwait.fresh,
              fun hno => (by cases hno), hwait.down⟩

/-- A deadline of the watchdog that is reached has passed. -/
theorem watch_reached {since : UInt32} {down t now : Nat} (h : Watching since down t now)
    (hreached : reached (reading now) (since + WIFI_RECONNECT_TIMEOUT_MS) = true) :
    t + 90000 ≤ now := by
  obtain hclock | ⟨hzero, hone⟩ := h.clock
  · rw [hclock] at hreached
    exact reached_passed h.past (by decide) hreached
  · -- the clock read 0, and the outage is taken to begin a millisecond later
    have ht : t % 2 ^ 32 = 0 := by
      have hnat := congrArg UInt32.toNat hzero
      rwa [reading_toNat] at hnat
    have hnext : since = reading (t + 1) := by
      rw [hone]
      apply UInt32.toNat_inj.mp
      rw [reading_toNat]
      show 1 = _
      omega
    by_cases hsame : t = now
    · rw [← hsame, hzero, hone] at hreached
      exact absurd hreached (by decide)
    · rw [hnext] at hreached
      have hpast : t + 1 + 90000 ≤ now :=
        reached_passed (Nat.lt_of_le_of_ne h.past hsame) (by decide) hreached
      omega

theorem supervise_connected {b : Board} {look : Look} (h : Joins b) (hnow : b.uptime = look.now)
    (hphase : b.policy.phase = .connected) (hpending : b.restartPending = false) :
    Joins (b.supervise look) := by
  have hnot : ∀ {phase : WifiPhase} {P : Prop},
      phase ≠ .connected → b.policy.phase = phase → P := by
    intro phase P hne heq
    exact absurd (heq.symm.trans hphase) hne
  have hdown : ∀ down, b.watched look = some down → down ≤ b.uptime := by
    intro down hwatched
    unfold Board.watched at hwatched
    split at hwatched
    · rw [← Option.some.inj hwatched]
      cases hsince : b.downSince with
      | none => exact Nat.le_of_eq hnow.symm
      | some d => exact h.down d hsince
    · cases hwatched
  have hseed : ∀ {Q : Prop}, b.policy.phase = .boot ∨ b.policy.phase = .joining → Q := by
    rintro Q (hno | hno)
    · exact hnot (by decide) hno
    · exact hnot (by decide) hno
  cases hsub : look.submitted with
  | true =>
      rw [supervise_plain (step_submitted (Or.inr (Or.inr hphase)) hsub) (by decide)]
      exact ⟨h.record, h.fits, fun hno => (by cases hno), h.opened, h.fresh,
        fun hno => (by cases hno), hdown⟩
  | false =>
      cases hlink : look.linkUp with
      | true =>
          rw [supervise_plain (step_linkUp hphase hlink hsub) (by decide)]
          exact ⟨h.record, h.fits, fun _ => hseed, h.opened, fun _ => rfl,
            fun _ hno => absurd rfl hno, hdown⟩
      | false =>
          -- the outage runs on, or begins here
          have hwatched : b.watched look = some (b.downSince.getD look.now) := by
            unfold Board.watched
            rw [if_pos ⟨hphase, hlink⟩]
          obtain ⟨t, hw⟩ : ∃ t, Watching (downSinceMs b.policy (reading look.now))
              (b.downSince.getD look.now) t b.uptime := by
            unfold downSinceMs
            by_cases hsince : b.policy.linkDownSinceMs = 0
            · rw [if_pos hsince]
              refine ⟨look.now, Nat.le_trans (hdown _ hwatched) (Nat.le_of_eq hnow),
                Nat.le_of_eq hnow.symm, ?_⟩
              by_cases hzero : reading look.now = 0
              · rw [if_neg (not_not.mpr hzero)]
                exact Or.inr ⟨hzero, rfl⟩
              · rw [if_pos hzero]
                exact Or.inl rfl
            · obtain ⟨down, t, hsome, hw⟩ := h.watching hpending hsince
              rw [if_neg hsince, hsome]
              exact ⟨t, hw⟩
          have hkeep : Joins { b with
              downSince := b.watched look
              policy := { b.policy with
                linkDownSinceMs := downSinceMs b.policy (reading look.now) } } :=
            ⟨h.record, h.fits, fun _ => hseed, h.opened, fun hno => absurd hphase hno,
              fun _ _ => ⟨_, t, hwatched, hw⟩, hdown⟩
          cases hreached : reached (reading look.now)
              (downSinceMs b.policy (reading look.now) + WIFI_RECONNECT_TIMEOUT_MS) with
          | false =>
              rw [supervise_plain (step_linkDown hphase hlink hsub hreached) (by decide)]
              exact hkeep
          | true =>
              rw [supervise_eq (step_linkDown hphase hlink hsub hreached)]
              have hgo : wifiRestartMayProceed .reboot b.policy.phase look.reflashing = true := by
                rw [hphase]
                cases look.reflashing <;> rfl
              have hlong : t + 90000 ≤ b.uptime := watch_reached hw (by rw [hnow]; exact hreached)
              have hbegun := hw.begun
              rw [if_neg fun hold => by
                have hboth := hold.2.symm.trans hgo
                cases hboth]
              show Joins { b with
                downSince := b.watched look
                policy := { b.policy with
                  linkDownSinceMs := downSinceMs b.policy (reading look.now) }
                restartPending := true
                story := if b.policy.phase = .connected then
                    b.story ++ [.linkRestart ((b.watched look).getD look.now) look.now]
                  else b.story }
              rw [if_pos hphase, hwatched]
              refine ⟨?_, each_snoc.mpr ⟨h.fits, ?_⟩, fun hno => (by cases hno), h.opened,
                fun hno => absurd hphase hno, fun hno => (by cases hno), hwatched ▸ hdown⟩
              · show (wifiJoinRetryDecode b.joinRetry).toNat = failedInARow (_ ++ [_])
                rw [failedInARow_snoc]
                exact h.record
              · show _ + 90000 ≤ look.now
                rw [Option.getD_some]
                omega

theorem joins_step {b : Board} (h : Joins b) {e : Event} {b' : Board}
    (hstep : b.step e = some b') : Joins b' := by
  cases e with
  | reset lost =>
      rw [← Option.some.inj hstep]
      exact joins_init b h lost
  | schedule =>
      rw [← Option.some.inj hstep]
      exact ⟨h.record, h.fits, fun hno => (by cases hno), h.opened, h.fresh,
        fun hno => (by cases hno), h.down⟩
  | tick look =>
      simp only [Board.step] at hstep
      split at hstep
      · next hnow =>
          rw [← Option.some.inj hstep]
          have hlater := joins_later h hnow
          unfold Board.wifiServiceTick
          simp only
          split
          · -- the credentials go, and the board restarts
            rw [if_pos rfl]
            exact ⟨hlater.record, hlater.fits, fun hno => (by cases hno), hlater.opened,
              hlater.fresh, fun hno => (by cases hno), hlater.down⟩
          · split
            · exact hlater
            · next hpending =>
                rw [Bool.not_eq_true] at hpending
                cases hphase : b.policy.phase with
                | boot => exact supervise_boot hlater rfl hphase hpending
                | joining => exact supervise_joining hlater rfl hphase hpending
                | portal => exact supervise_portal hlater hphase
                | connected => exact supervise_connected hlater rfl hphase hpending
      · cases hstep

/-- A board as it comes up, with whatever is in its RAM and its flash. -/
def powerOn (memory : KeptCount) (stored : Bool) : Board where
  joinRetry := memory
  policy := { failedJoinBoots := wifiJoinRetryDecode memory }
  stored := stored
  credsStored := stored
  story := [.lost memory]

theorem joins_powerOn (memory : KeptCount) (stored : Bool) : Joins (powerOn memory stored) where
  record := rfl
  fits := each_snoc.mpr ⟨each_nil _, trivial⟩
  seeded := fun _ _ => rfl
  opened := fun hno => (by cases hno)
  fresh := fun _ => rfl
  watching := fun _ hno => absurd rfl hno
  down := fun _ hno => (by cases hno)

/-- Over any boots, resets and losses of the record: a board with credentials opens its portal only
when its join window, of half a minute, closed without a link and exactly two windows before it in a
row did; a window is retried by a restart only while fewer than two before it failed and no reflash
runs; and the record holds that count at all times. -/
theorem portal_after_three_windows (memory : KeptCount) (stored : Bool) (es : List Event)
    (b : Board) (hrun : run Board.step (powerOn memory stored) es = some b) :
    (∀ pre opened closed post, b.story = pre ++ .portal true opened closed :: post →
      failedInARow pre = 2 ∧ opened + 30000 ≤ closed) ∧
      (∀ pre opened closed reflashing post,
        b.story = pre ++ .window opened closed reflashing :: post →
          failedInARow pre < 2 ∧ opened + 30000 ≤ closed ∧ reflashing = false) ∧
      (wifiJoinRetryDecode b.joinRetry).toNat = failedInARow b.story := by
  have h := run_invariant (fun _ _ _ hj hstep => joins_step hj hstep)
    (joins_powerOn memory stored) hrun
  refine ⟨fun pre opened closed post hsplit => h.fits pre _ post hsplit rfl,
    fun pre opened closed reflashing post hsplit => h.fits pre _ post hsplit, h.record⟩

def noLink (now : Nat) : Event := .tick ⟨now, false, false, false, false⟩

/-- A network that is gone: three boots, three windows, and the portal. -/
def networkGone : List Event :=
  [noLink 0, noLink 30000, .reset none, noLink 0, noLink 30000, .reset none, noLink 0,
    noLink 30000]

theorem portal_after_three_windows_gone :
    ∃ b, run Board.step (powerOn ⟨7, 7, 7⟩ true) networkGone = some b ∧
      b.policy.phase = .portal ∧
      (wifiJoinRetryDecode b.joinRetry).toNat = failedInARow b.story := by
  have hran : (run Board.step (powerOn ⟨7, 7, 7⟩ true) networkGone).map (·.policy.phase) =
      some .portal := by decide +kernel
  obtain ⟨b, hrun, hphase⟩ := Option.map_eq_some_iff.mp hran
  exact ⟨b, hrun, hphase, (portal_after_three_windows ⟨7, 7, 7⟩ true networkGone b hrun).2.2⟩

/-- The link watchdog restarts the board only when every tick of the last minute and a half and more
found the link down: a tick that finds it up begins anew, and the clock may go round. -/
theorem link_watchdog_waits (memory : KeptCount) (stored : Bool) (es : List Event) (b : Board)
    (hrun : run Board.step (powerOn memory stored) es = some b) (down now : Nat)
    (hrestart : .linkRestart down now ∈ b.story) : down + 90000 ≤ now := by
  have h := run_invariant (fun _ _ _ hj hstep => joins_step hj hstep)
    (joins_powerOn memory stored) hrun
  obtain ⟨pre, post, hsplit⟩ := List.append_of_mem hrestart
  exact h.fits pre _ post hsplit

/-- Online after a tenth of a second; the link goes at 200 ms and stays away. -/
def linkLost : List Event :=
  [noLink 0, .tick ⟨100, true, false, false, false⟩, noLink 200, noLink 90199, noLink 90200]

def Happening.isLinkRestart : Happening → Bool
  | .lost _ => false
  | .window _ _ _ => false
  | .online => false
  | .portal _ _ _ => false
  | .linkRestart down now => down == 200 && now == 90200

theorem link_watchdog_waits_lost :
    ∃ b, run Board.step (powerOn ⟨7, 7, 7⟩ true) linkLost = some b ∧ b.restartPending = true ∧
      ∃ down now, .linkRestart down now ∈ b.story ∧ down + 90000 ≤ now := by
  have hran : (run Board.step (powerOn ⟨7, 7, 7⟩ true) linkLost).map
      (fun b => (b.restartPending, b.story.any Happening.isLinkRestart)) = some (true, true) := by
    decide +kernel
  obtain ⟨b, hrun, hends⟩ := Option.map_eq_some_iff.mp hran
  rw [Prod.mk.injEq] at hends
  obtain ⟨h, hmem, hlink⟩ := List.any_eq_true.mp hends.2
  cases h with
  | linkRestart down now =>
      exact ⟨b, hrun, hends.1, down, now, hmem,
        link_watchdog_waits ⟨7, 7, 7⟩ true linkLost b hrun down now hmem⟩
  | lost memory => cases hlink
  | window opened closed reflashing => cases hlink
  | online => cases hlink
  | portal stored opened closed => cases hlink

end SplitFlap.WifiJoin
