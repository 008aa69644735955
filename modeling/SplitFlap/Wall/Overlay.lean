/-
  SplitFlap.Wall.Overlay — a text that is up for a time.

  There is one slot for it, which mqttTask owns.  A text, a clear or a mode from
  MQTT changes the slot at once.  The web side stages a start or a cancel in
  atomics that the next `mqttServiceTick` takes, the cancel first; the start also
  raises the flag that the other tasks see, so that the clock ticker holds back
  from then on.
-/
import SplitFlap.Lib.Clock
import SplitFlap.Wall.Layout

namespace SplitFlap

open Clock

/-! ## §1. The slot. -/

abbrev MQTT_TEXT_DWELL_S : Int := 60
abbrev MQTT_DWELL_MIN_S : Int := 5
abbrev MQTT_DWELL_MAX_S : Int := 3600
abbrev MQTT_TEXT_PRIORITY_MAX : Int := 255
abbrev TRANSIENT_TEXT_DEFAULT_DWELL_SECONDS : Int := 600

def clampDwellSeconds (dwellSeconds : Int) : Int :=
  if dwellSeconds < MQTT_DWELL_MIN_S then MQTT_DWELL_MIN_S
  else if MQTT_DWELL_MAX_S < dwellSeconds then MQTT_DWELL_MAX_S
  else dwellSeconds

structure MqttNotification where
  active : Bool := false
  held : Bool := false
  priority : Int := 0
  text : CStr := []
  deadlineMs : UInt32 := 0
  deriving DecidableEq

structure MqttTextRequest where
  text : CStr := []
  dwellSeconds : Int := MQTT_TEXT_DWELL_S
  hold : Bool := false
  priority : Int := 0
  deriving DecidableEq

def notificationStart (text : CStr) (dwellSeconds : Int) (nowMs : UInt32) (priority : Int) :
    MqttNotification :=
  { active := true
    held := false
    priority
    text
    deadlineMs := nowMs + UInt32.ofNat (clampDwellSeconds dwellSeconds).toNat * 1000 }

/-- A text without an end. -/
def notificationHold (text : CStr) (priority : Int) : MqttNotification :=
  { active := true, held := true, priority, text, deadlineMs := 0 }

/-- Whether a text of this priority may take the slot. -/
def notificationAdmits (n : MqttNotification) (priority : Int) : Bool :=
  !n.active || decide (n.priority ≤ priority)

def notificationCancel (n : MqttNotification) : MqttNotification :=
  { n with active := false, held := false, priority := 0, text := [] }

def notificationTick (n : MqttNotification) (nowMs : UInt32) : Bool × MqttNotification :=
  if n.active = false then (false, n)
  else if n.held then (true, n)
  else if reached nowMs n.deadlineMs then (false, notificationCancel n)
  else (true, n)

def quietBlocksContent (quiet forced : Bool) : Bool := quiet && !forced

/-! ## §2. The slot among the tasks. -/

/-- The slot, its mirrors, and what the web side has staged. -/
structure Overlay where
  mqttNotification : MqttNotification := {}
  notifActive : Bool := false
  notifHeld : Bool := false
  notifPriority : Int := 0
  cancelNotificationRequested : Bool := false
  transientRequested : Bool := false
  transientHoldRequested : Bool := false
  transientPriorityRequested : Int := 0
  transientDwellRequested : Int := 0
  deriving DecidableEq

namespace Overlay

def mirrorNotification (o : Overlay) : Overlay :=
  { o with
    notifPriority := o.mqttNotification.priority
    notifHeld := o.mqttNotification.held
    notifActive := o.mqttNotification.active }

def cancelNotificationLocal (o : Overlay) : Overlay :=
  { o with mqttNotification := notificationCancel o.mqttNotification }.mirrorNotification

def startNotificationLocal (text : CStr) (req : MqttTextRequest) (millis : UInt32) (o : Overlay) :
    Overlay :=
  { o with
    mqttNotification :=
      if req.hold then notificationHold text req.priority
      else notificationStart text req.dwellSeconds millis req.priority }.mirrorNotification

/-- `mqttServiceTick`: the staged cancel. -/
def takesCancel (o : Overlay) : Overlay :=
  if o.cancelNotificationRequested then
    { o with cancelNotificationRequested := false }.cancelNotificationLocal
  else o

/-- `mqttServiceTick`: the staged start. -/
def takesStart (millis : UInt32) (o : Overlay) : Overlay :=
  if o.transientRequested then
    { o with transientRequested := false }.startNotificationLocal []
      { hold := o.transientHoldRequested
        priority := o.transientPriorityRequested
        dwellSeconds := o.transientDwellRequested } millis
  else o

/-- `mqttServiceTick`: a text whose time is over. -/
def expires (millis : UInt32) (o : Overlay) : Overlay :=
  let (up, n) := notificationTick o.mqttNotification millis
  if o.mqttNotification.active && !up then
    { o with mqttNotification := n }.mirrorNotification
  else o

/-- `mqttServiceTick`, before its `mqttInitialised` test. -/
def mqttServiceTick (millis : UInt32) (o : Overlay) : Overlay :=
  (o.takesCancel.takesStart millis).expires millis

def mqttNotificationActive (o : Overlay) : Bool := o.notifActive

def mqttNotificationAdmits (o : Overlay) (priority : Int) : Bool :=
  !o.notifActive || decide (o.notifPriority ≤ priority)

def mqttCancelNotification (o : Overlay) : Overlay :=
  { o with cancelNotificationRequested := true }

def mqttStartNotification (dwellSeconds : Int) (hold : Bool) (priority : Int) (o : Overlay) :
    Overlay :=
  { o with
    transientDwellRequested :=
      if 0 < dwellSeconds then dwellSeconds else TRANSIENT_TEXT_DEFAULT_DWELL_SECONDS
    transientHoldRequested := hold
    transientPriorityRequested := priority
    notifPriority := priority
    notifHeld := hold
    notifActive := true
    transientRequested := true }

end Overlay

end SplitFlap
