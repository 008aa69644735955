/-
  SplitFlap.Record.FlashLog — the master's log on its flash.

  Every task puts log text into the stage (`flashLogStage`), stamped line by line;
  netTask's tick takes the stage when `flashLogShouldFlush` says so and appends it to
  `/log.txt`, which becomes `/log.prev.txt` when it is full.

    • puts and the tick's take exclude each other (`stageMutex`), the file work that
      follows a take does not: `step` has the take and the file work as two steps, and
      a put may come between them;
    • the file system may refuse: a file that does not open, a write that takes only
      its first bytes, a remove or a rename that does nothing.

  Main results: `log_accounts_for_every_byte`, `files_stay_in_bounds` and
  `flushes_keep_their_distance`.
-/
import Mathlib.Data.List.Chain
import SplitFlap.Lib.Clock
import SplitFlap.Lib.Machine
import SplitFlap.Record.LogRings
import SplitFlap.Wall.ModeTicker

namespace SplitFlap.LogOnFlash

open SplitFlap.Clock SplitFlap.LogRings SplitFlap.Machine

abbrev FLASH_LOG_STAGE_CAP : Nat := 8192
abbrev FLASH_LOG_FLUSH_INTERVAL_MS : UInt32 := 5000
abbrev FLASH_LOG_URGENT_MIN_MS : UInt32 := 1000
abbrev FLASH_LOG_FILE_CAP : Nat := 1048576
abbrev LOG_STAMP_MAX : Nat := 16

/-! ## §1. Stamps. -/

/-- `%0*u`. -/
def padded (width n : Nat) : CStr := List.replicate (width - (decimal n).length) 48 ++ decimal n

/-- What `snprintf` leaves in a stamp's buffer. -/
def stampText (text : CStr) : CStr := text.take (LOG_STAMP_MAX - 1)

def logStampClock (h m s : Nat) : CStr :=
  stampText (ascii "[" ++ padded 2 h ++ ascii ":" ++ padded 2 m ++ ascii ":" ++ padded 2 s ++
    ascii "] ")

def logStampBoot (millisSinceBoot : UInt32) : CStr :=
  stampText (ascii "[+" ++ padded 5 (millisSinceBoot.toNat / 1000) ++ ascii "." ++
    padded 3 (millisSinceBoot.toNat % 1000) ++ ascii "] ")

/-- Where `logStamperApply` is: the stamper's flag, and what it has written and read. -/
structure LogLineStamper where
  atLineStart : Bool := true
  written : CStr := []
  consumed : Nat := 0

/-- One byte of `logStamperApply`'s loop. -/
def LogLineStamper.put (stamp : CStr) (c : UInt8) (st : LogLineStamper) : LogLineStamper where
  atLineStart := c == newline
  written := st.written ++ (if st.atLineStart then stamp else []) ++ [c]
  consumed := st.consumed + 1

def logStamperApply (stamp : CStr) (outCap : Nat) : CStr → LogLineStamper → LogLineStamper
  | [], st => st
  | c :: rest, st =>
      let need := (if st.atLineStart then stamp.length else 0) + 1
      if st.written.length + need > outCap then st
      else logStamperApply stamp outCap rest (st.put stamp c)

/-! ## §2. Which text is urgent. -/

def FLASH_LOG_URGENT_WORDS : List CStr :=
  [ascii "fail", ascii "failed", ascii "failing", ascii "failure", ascii "failures",
    ascii "error", ascii "fatal", ascii "crash", ascii "crashed", ascii "crashes",
    ascii "panic", ascii "lost", ascii "stall", ascii "stalled", ascii "abort",
    ascii "aborted", ascii "aborting", ascii "jam", ascii "timeout", ascii "timed out"]

def flashLogIsWordChar (c : UInt8) : Bool :=
  (97 ≤ c && c ≤ 122) || (65 ≤ c && c ≤ 90) || (48 ≤ c && c ≤ 57)

/-- The scan's fold of ASCII case. -/
def folded (c : UInt8) : UInt8 := if 65 ≤ c ∧ c ≤ 90 then c - 65 + 97 else c

/-- `flashLogWordAt`: `before` is the text before the place, the last byte first. -/
def flashLogWordAt (before rest word : CStr) : Bool :=
  word.length ≤ rest.length && !(before.head?.any flashLogIsWordChar) &&
    ((rest.take word.length).map folded == word) &&
    !((rest.drop word.length).head?.any flashLogIsWordChar)

/-- A number that stands alone and the space behind it, the last byte first. -/
def numberAlone : CStr → Bool
  | [] => false
  | c :: number =>
      c == 32 && !(number.takeWhile isDigit).isEmpty &&
        !((number.dropWhile isDigit).head?.any flashLogIsWordChar)

/-- `flashLogWordIsCount`: `word=`, or the word behind a number. -/
def flashLogWordIsCount (before rest : CStr) (wl : Nat) : Bool :=
  (rest.drop wl).head? == some 61 || numberAlone before

/-- The inner loop of `flashLogTextUrgent`: is the word somewhere from here on? -/
def flashLogWordIn (word : CStr) : CStr → CStr → Bool
  | _, [] => false
  | before, c :: rest =>
      (flashLogWordAt before (c :: rest) word &&
        !flashLogWordIsCount before (c :: rest) word.length) ||
      flashLogWordIn word (c :: before) rest

def flashLogTextUrgent (data : CStr) : Bool :=
  FLASH_LOG_URGENT_WORDS.any fun word => flashLogWordIn word [] data

/-! ## §3. Decisions. -/

def flashLogShouldFlush (used cap : Nat) (msSinceFlush intervalMs : UInt32)
    (urgent lastFlushFailed : Bool) : Bool :=
  if used = 0 then false
  else if used ≥ cap / 2 then true
  else if urgent && !lastFlushFailed && decide (msSinceFlush ≥ FLASH_LOG_URGENT_MIN_MS) then true
  else decide (msSinceFlush ≥ intervalMs)

def flashLogShouldRotate (fileSize : Nat) : Bool := fileSize ≥ FLASH_LOG_FILE_CAP

def flashLogDayMarkerDue (lastMarkedDay nowDay : Nat) : Bool :=
  if nowDay = 0 then false else nowDay != lastMarkedDay

/-! ## §4. The log. -/

/-- What `localtime_r` makes of a time: the year from 1900 and the month from 0, as there. -/
structure Tm where
  tm_year : Nat
  tm_mon : Nat
  tm_mday : Nat
  tm_hour : Nat
  tm_min : Nat
  tm_sec : Nat

/-- What a tick took out of the stage. -/
structure Taken where
  text : CStr
  dropped : Nat
  forced : Bool
  start : Nat

/-- How the file work of a tick went: when it ended, what `time` said, whether the file opened,
how many bytes of the day's line, of the text and of the notice it took, and whether the rotation's
`remove` and `rename` did their work. -/
structure Answers where
  stop : Nat
  now : UInt64
  opens : Bool
  marker : Nat
  wrote : Nat
  notice : Nat
  removes : Bool
  renames : Bool

/-- One flush that went to the flash: what was taken, and what the file took of the day's line, the
text and the notice.  No function reads it. -/
structure Flush extends Taken where
  stop : Nat
  opened : Bool
  marked : CStr
  wrote : Nat
  noted : CStr

/-- What a flush left on the flash. -/
def Flush.onFlash (f : Flush) : CStr :=
  if f.opened then f.marked ++ f.text.take f.wrote ++ f.noted else []

/-- `lastFlushFailed` after it. -/
def Flush.failed (f : Flush) : Bool := !f.opened || decide (f.text.length > f.wrote)

/-- The stage, netTask's own notes and the two files.  Beside them, read by no function: the clock,
what `remove` and `rename` did away with, the flushes, and every byte the stage took, with its
chunk's stamp. -/
structure FlashLog where
  stage : CStr := []
  dropped : Nat := 0
  urgent : Bool := false
  atLineStart : Bool := true
  lastFlushMs : UInt32
  lastFlushFailed : Bool := false
  lastMarkedDay : Nat := 0
  taken : Option Taken := none
  log : CStr
  prev : CStr
  clock : Nat
  gone : CStr := []
  flushes : List Flush := []
  kept : List (CStr × UInt8) := []

/-- `flashLogInit` done, the boot's line in the file. -/
def flashLogInit (log prev : CStr) (t : Nat) : FlashLog where
  lastFlushMs := reading t
  log := log
  prev := prev
  clock := t

inductive Event where
  | put (data : CStr) (t : Nat) (now : UInt64)
  | take (force : Bool) (t : Nat)
  | finish (a : Answers)

section Clocked

variable (localtime : UInt64 → Tm)

/-- The stamp `flashLogStage` computes. -/
def stampAt (t : Nat) (now : UInt64) : CStr :=
  if ModeTicker.clockIsTimeSynced now then
    logStampClock (localtime now).tm_hour (localtime now).tm_min (localtime now).tm_sec
  else logStampBoot (reading t)

def nowDay (now : UInt64) : Nat :=
  if ModeTicker.clockIsTimeSynced now then
    (((localtime now).tm_year + 1900) * 10000 + ((localtime now).tm_mon + 1) * 100 +
      (localtime now).tm_mday) % 2 ^ 32
  else 0

/-- `"\n===== %04u-%02u-%02u =====\n"`. -/
def dayLine (day : Nat) : CStr :=
  [newline] ++ ascii "===== " ++ padded 4 (day / 10000) ++ ascii "-" ++
    padded 2 (day / 100 % 100) ++ ascii "-" ++ padded 2 (day % 100) ++ ascii " =====" ++ [newline]

/-- `"\n[flashlog: %lu bytes dropped]\n"`. -/
def dropNotice (dropped : Nat) : CStr :=
  [newline] ++ ascii "[flashlog: " ++ decimal dropped ++ ascii " bytes dropped]" ++ [newline]

namespace FlashLog

/-- The stamper on its way into the stage. -/
def stamped (s : FlashLog) (data : CStr) (t : Nat) (now : UInt64) : LogLineStamper :=
  logStamperApply (stampAt localtime t now) (FLASH_LOG_STAGE_CAP - s.stage.length) data
    { atLineStart := s.atLineStart }

def flashLogStage (data : CStr) (t : Nat) (now : UInt64) (s : FlashLog) : FlashLog :=
  if data = [] then { s with clock := t }
  else
    let st := s.stamped localtime data t now
    { s with
      stage := s.stage ++ st.written
      dropped := (s.dropped + (data.length - st.consumed)) % 2 ^ 32
      urgent := s.urgent || flashLogTextUrgent data
      atLineStart := st.atLineStart
      clock := t
      kept := s.kept ++ (data.take st.consumed).map fun c => (stampAt localtime t now, c) }

/-- `flashLogTick` up to the file: with nothing taken it is over. -/
def take (force : Bool) (t : Nat) (s : FlashLog) : FlashLog :=
  if force || flashLogShouldFlush s.stage.length FLASH_LOG_STAGE_CAP (reading t - s.lastFlushMs)
      FLASH_LOG_FLUSH_INTERVAL_MS s.urgent s.lastFlushFailed then
    { s with
      stage := []
      dropped := 0
      urgent := false
      clock := t
      taken := if s.stage = [] ∧ s.dropped = 0 then none
        else some { text := s.stage, dropped := s.dropped, forced := force, start := t } }
  else { s with clock := t }

/-- What the file work makes of what was taken. -/
def flushOf (k : Taken) (a : Answers) (s : FlashLog) : Flush where
  toTaken := k
  stop := a.stop
  opened := a.opens
  marked := if flashLogDayMarkerDue s.lastMarkedDay (nowDay localtime a.now) then
      (dayLine (nowDay localtime a.now)).take a.marker
    else []
  wrote := a.wrote
  noted := if k.dropped > 0 then (dropNotice k.dropped).take a.notice else []

/-- The rotation, of a file that is full. -/
def rotate (a : Answers) (s : FlashLog) : FlashLog :=
  if a.opens ∧ flashLogShouldRotate s.log.length then
    let s := if a.removes then { s with gone := s.gone ++ s.prev, prev := [] } else s
    if a.renames then { s with gone := s.gone ++ s.prev, prev := s.log, log := [] } else s
  else s

/-- The rest of `flashLogTick`. -/
def finish (k : Taken) (a : Answers) (s : FlashLog) : FlashLog :=
  let f := s.flushOf localtime k a
  rotate a
    { s with
      taken := none
      log := s.log ++ f.onFlash
      lastFlushFailed := f.failed
      lastFlushMs := reading a.stop
      lastMarkedDay :=
        if a.opens ∧ flashLogDayMarkerDue s.lastMarkedDay (nowDay localtime a.now) then
          nowDay localtime a.now
        else s.lastMarkedDay
      clock := a.stop
      flushes := s.flushes ++ [f] }

/-- Time does not run back, and netTask's ticks come one after the other. -/
def step (s : FlashLog) : Event → Option FlashLog
  | .put data t now => if s.clock ≤ t then some (s.flashLogStage localtime data t now) else none
  | .take force t => if s.clock ≤ t ∧ s.taken = none then some (s.take force t) else none
  | .finish a =>
      match s.taken with
      | some k => if s.clock ≤ a.stop then some (s.finish localtime k a) else none
      | none => none

end FlashLog

/-! ## §5. What the stamper writes. -/

/-- Bytes, each with its chunk's stamp, as the log has them: the stamp stands before the first byte
of a line. -/
def spelt (atLineStart : Bool) : List (CStr × UInt8) → CStr
  | [] => []
  | (stamp, c) :: rest => (if atLineStart then stamp else []) ++ [c] ++ spelt (c == newline) rest

/-- Is the next byte the first of a line? -/
def lineStart (atLineStart : Bool) : List (CStr × UInt8) → Bool
  | [] => atLineStart
  | (_, c) :: rest => lineStart (c == newline) rest

theorem spelt_append (opens : Bool) (xs ys : List (CStr × UInt8)) :
    spelt opens (xs ++ ys) = spelt opens xs ++ spelt (lineStart opens xs) ys := by
  induction xs generalizing opens with
  | nil => rfl
  | cons x xs ih => simp [spelt, lineStart, ih]

theorem lineStart_append (opens : Bool) (xs ys : List (CStr × UInt8)) :
    lineStart opens (xs ++ ys) = lineStart (lineStart opens xs) ys := by
  induction xs generalizing opens with
  | nil => rfl
  | cons x xs ih => exact ih (x.2 == newline)

/-- What `logStamperApply` has done when it is back: it took `taken` first bytes of `data`. -/
structure Applied (stamp : CStr) (outCap : Nat) (data : CStr) (st st' : LogLineStamper)
    (taken : Nat) : Prop where
  few : taken ≤ data.length
  consumed : st'.consumed = st.consumed + taken
  written : st'.written =
    st.written ++ spelt st.atLineStart ((data.take taken).map fun c => (stamp, c))
  atLineStart : st'.atLineStart =
    lineStart st.atLineStart ((data.take taken).map fun c => (stamp, c))
  room : st.written.length ≤ outCap → st'.written.length ≤ outCap

theorem LogLineStamper.put_applied (stamp : CStr) (outCap : Nat) (c : UInt8) (st : LogLineStamper)
    (hroom : st.written.length + ((if st.atLineStart then stamp.length else 0) + 1) ≤ outCap) :
    Applied stamp outCap [c] st (st.put stamp c) 1 where
  few := le_rfl
  consumed := rfl
  written := by simp [put, spelt]
  atLineStart := rfl
  room := by
    intro _
    simp only [put, List.length_append, List.length_singleton]
    split at hroom <;> simp_all <;> omega

theorem logStamperApply_applied (stamp : CStr) (outCap : Nat) (data : CStr) (st : LogLineStamper) :
    ∃ taken, Applied stamp outCap data st (logStamperApply stamp outCap data st) taken := by
  induction data generalizing st with
  | nil => exact ⟨0, le_rfl, rfl, by simp [logStamperApply, spelt], rfl, id⟩
  | cons c rest ih =>
      unfold logStamperApply
      by_cases hfull :
          st.written.length + ((if st.atLineStart then stamp.length else 0) + 1) > outCap
      · -- the byte does not fit with its stamp: the loop breaks
        rw [if_pos hfull]
        exact ⟨0, Nat.zero_le _, rfl, by simp [spelt], rfl, id⟩
      · rw [if_neg hfull]
        have hone := st.put_applied stamp outCap c (Nat.not_lt.mp hfull)
        obtain ⟨taken, hrest⟩ := ih (st.put stamp c)
        refine ⟨taken + 1, ?_, ?_, ?_, ?_, fun h => hrest.room (hone.room h)⟩
        · rw [List.length_cons]
          exact Nat.succ_le_succ hrest.few
        · rw [hrest.consumed, hone.consumed]
          omega
        · rw [hrest.written, hone.written]
          simp [spelt, LogLineStamper.put]
        · rw [hrest.atLineStart]
          rfl

/-! ## §6. Where every byte is. -/

def Event.offers : Event → List (CStr × UInt8)
  | .put data t now => data.map fun c => (stampAt localtime t now, c)
  | .take _ _ => []
  | .finish _ => []

/-- The bytes that were handed to the log, each with the stamp of its chunk. -/
def offered (es : List Event) : List (CStr × UInt8) := es.flatMap (Event.offers localtime)

namespace FlashLog

/-- The bytes on their way to the flash. -/
def takenText (s : FlashLog) : CStr := (s.taken.map (·.text)).getD []

def takenDropped (s : FlashLog) : Nat := (s.taken.map (·.dropped)).getD 0

/-- Every byte of the log and its stamps, flushed or not. -/
def wholeText (s : FlashLog) : CStr := (s.flushes.flatMap (·.text)) ++ s.takenText ++ s.stage

/-- Every drop that a flush told of or is going to. -/
def wholeDropped (s : FlashLog) : Nat :=
  (s.flushes.map (·.dropped)).sum + s.takenDropped + s.dropped

/-- Everything that was ever in the files. -/
def files (s : FlashLog) : CStr := s.gone ++ s.prev ++ s.log

end FlashLog

/-- The account after the bytes `all` were handed to the log, of files that began as `old`. -/
structure Accounts (old : CStr) (all : List (CStr × UInt8)) (s : FlashLog) : Prop where
  kept : s.kept.Sublist all
  text : s.wholeText = spelt true s.kept
  atLineStart : s.atLineStart = lineStart true s.kept
  dropped : (s.wholeDropped + s.kept.length) % 2 ^ 32 = all.length % 2 ^ 32
  room : s.stage.length ≤ FLASH_LOG_STAGE_CAP
  files : s.files = old ++ s.flushes.flatMap Flush.onFlash

theorem accounts_init (log prev : CStr) (t : Nat) :
    Accounts (prev ++ log) [] (flashLogInit log prev t) where
  kept := List.Sublist.refl []
  text := rfl
  atLineStart := rfl
  dropped := rfl
  room := Nat.zero_le _
  files := by simp [FlashLog.files, flashLogInit]

variable {localtime} {old : CStr} {all : List (CStr × UInt8)} {s : FlashLog}

theorem Accounts.put (h : Accounts old all s) (data : CStr) (t : Nat) (now : UInt64) :
    Accounts old (all ++ data.map fun c => (stampAt localtime t now, c))
      (s.flashLogStage localtime data t now) := by
  unfold FlashLog.flashLogStage
  by_cases hdata : data = []
  · subst hdata
    rw [if_pos rfl, List.map_nil, List.append_nil]
    exact ⟨h.kept, h.text, h.atLineStart, h.dropped, h.room, h.files⟩
  · rw [if_neg hdata]
    obtain ⟨taken, hst⟩ := logStamperApply_applied (stampAt localtime t now)
      (FLASH_LOG_STAGE_CAP - s.stage.length) data { atLineStart := s.atLineStart }
    have hconsumed : (s.stamped localtime data t now).consumed = taken := by
      rw [FlashLog.stamped, hst.consumed, Nat.zero_add]
    have hwritten : (s.stamped localtime data t now).written = spelt s.atLineStart
        ((data.take taken).map fun c => (stampAt localtime t now, c)) := by
      rw [FlashLog.stamped, hst.written, List.nil_append]
    constructor
    · show (s.kept ++ _).Sublist _
      rw [hconsumed]
      exact h.kept.append ((List.take_sublist taken data).map _)
    · show _ ++ _ ++ (s.stage ++ _) = spelt true (s.kept ++ _)
      rw [hconsumed, hwritten, spelt_append, ← h.atLineStart, ← h.text, ← List.append_assoc]
      rfl
    · show (s.stamped localtime data t now).atLineStart = lineStart true (s.kept ++ _)
      rw [hconsumed, lineStart_append, ← h.atLineStart, FlashLog.stamped, hst.atLineStart]
    · have hcount := h.dropped
      have hfew := hst.few
      simp only [FlashLog.wholeDropped, FlashLog.takenDropped, hconsumed, List.length_append,
        List.length_map, List.length_take] at hcount ⊢
      omega
    · have hroom := h.room
      have hfits := hst.room (Nat.zero_le _)
      show (s.stage ++ (s.stamped localtime data t now).written).length ≤ _
      rw [List.length_append, FlashLog.stamped]
      omega
    · exact h.files

theorem Accounts.take (h : Accounts old all s) (hnone : s.taken = none) (force : Bool) (t : Nat) :
    Accounts old all (s.take force t) := by
  have htext := h.text
  have hcount := h.dropped
  unfold FlashLog.wholeText FlashLog.takenText at htext
  unfold FlashLog.wholeDropped FlashLog.takenDropped at hcount
  rw [hnone] at htext hcount
  simp only [Option.map_none, Option.getD_none, List.append_nil, Nat.add_zero] at htext hcount
  unfold FlashLog.take
  split
  · refine ⟨h.kept, ?_, h.atLineStart, ?_, Nat.zero_le _, h.files⟩
    · rw [← htext]
      unfold FlashLog.wholeText FlashLog.takenText
      split
      · next hempty => simp [hempty.1]
      · simp
    · rw [← hcount]
      unfold FlashLog.wholeDropped FlashLog.takenDropped
      split
      · next hempty => simp [hempty.2]
      · simp
  · exact ⟨h.kept, h.text, h.atLineStart, h.dropped, h.room, h.files⟩

/-- A rotation moves the files and loses none of what they held. -/
theorem FlashLog.rotate_files (a : Answers) (s : FlashLog) : (s.rotate a).files = s.files := by
  unfold FlashLog.rotate FlashLog.files
  split
  · cases a.removes <;> cases a.renames <;> simp
  · rfl

theorem FlashLog.rotate_same (a : Answers) (s : FlashLog) :
    s.rotate a = { s with
      log := (s.rotate a).log, prev := (s.rotate a).prev, gone := (s.rotate a).gone } := by
  unfold FlashLog.rotate
  split
  · cases a.removes <;> cases a.renames <;> rfl
  · rfl

theorem Accounts.finish (h : Accounts old all s) {k : Taken} (hk : s.taken = some k) (a : Answers) :
    Accounts old all (s.finish localtime k a) := by
  have htext := h.text
  have hcount := h.dropped
  unfold FlashLog.wholeText FlashLog.takenText at htext
  unfold FlashLog.wholeDropped FlashLog.takenDropped at hcount
  rw [hk] at htext hcount
  simp only [Option.map_some, Option.getD_some] at htext hcount
  unfold FlashLog.finish
  constructor
  · rw [FlashLog.rotate_same]
    exact h.kept
  · rw [FlashLog.rotate_same]
    show _ = spelt true s.kept
    rw [← htext]
    simp [FlashLog.wholeText, FlashLog.takenText, FlashLog.flushOf]
  · rw [FlashLog.rotate_same]
    exact h.atLineStart
  · rw [FlashLog.rotate_same]
    rw [← hcount]
    simp [FlashLog.wholeDropped, FlashLog.takenDropped, FlashLog.flushOf]
  · rw [FlashLog.rotate_same]
    exact h.room
  · rw [FlashLog.rotate_files, FlashLog.rotate_same]
    have hfiles := h.files
    unfold FlashLog.files at hfiles ⊢
    simp only [List.flatMap_append, List.flatMap_singleton]
    rw [← List.append_assoc, hfiles, List.append_assoc]

theorem step_put {data : CStr} {t : Nat} {now : UInt64} {s' : FlashLog}
    (h : s.step localtime (.put data t now) = some s') :
    s.clock ≤ t ∧ s' = s.flashLogStage localtime data t now := by
  simp only [FlashLog.step] at h
  split at h
  · next hclock => exact ⟨hclock, (Option.some.inj h).symm⟩
  · cases h

theorem step_take {force : Bool} {t : Nat} {s' : FlashLog}
    (h : s.step localtime (.take force t) = some s') :
    s.clock ≤ t ∧ s.taken = none ∧ s' = s.take force t := by
  simp only [FlashLog.step] at h
  split at h
  · next hready => exact ⟨hready.1, hready.2, (Option.some.inj h).symm⟩
  · cases h

theorem step_finish {a : Answers} {s' : FlashLog}
    (h : s.step localtime (.finish a) = some s') :
    ∃ k, s.taken = some k ∧ s.clock ≤ a.stop ∧ s' = s.finish localtime k a := by
  simp only [FlashLog.step] at h
  split at h
  · next k hk =>
      split at h
      · next hclock => exact ⟨k, hk, hclock, (Option.some.inj h).symm⟩
      · cases h
  · cases h

theorem Accounts.step (h : Accounts old all s) {e : Event} {s' : FlashLog}
    (hstep : s.step localtime e = some s') :
    Accounts old (all ++ e.offers localtime) s' := by
  cases e with
  | put data t now =>
      obtain ⟨-, hs'⟩ := step_put hstep
      rw [hs']
      exact h.put data t now
  | take force t =>
      obtain ⟨-, hnone, hs'⟩ := step_take hstep
      rw [hs', Event.offers, List.append_nil]
      exact h.take hnone force t
  | finish a =>
      obtain ⟨k, hk, -, hs'⟩ := step_finish hstep
      rw [hs', Event.offers, List.append_nil]
      exact h.finish hk a

theorem Accounts.run (h : Accounts old all s) {es : List Event} {s' : FlashLog}
    (hrun : run (FlashLog.step localtime) s es = some s') :
    Accounts old (all ++ offered localtime es) s' := by
  induction es generalizing s all with
  | nil =>
      rw [run_nil, Option.some.injEq] at hrun
      rw [offered, List.flatMap_nil, List.append_nil, ← hrun]
      exact h
  | cons e es ih =>
      rw [run_cons, Option.bind_eq_some_iff] at hrun
      obtain ⟨m, hm, hrest⟩ := hrun
      have hall := ih (h.step hm) hrest
      rw [List.append_assoc] at hall
      exact hall

/-- However puts and ticks come between each other and whatever the file system refuses: of the
bytes handed to the log some were kept, in order, and the flushes' texts, the text on its way and
the stage are exactly these with their stamps; the drops that flushes told of and the next will are
exactly the others; and the files, with what rotations did away with, hold exactly what every flush
left there. -/
theorem log_accounts_for_every_byte (localtime : UInt64 → Tm) (log prev : CStr) (t : Nat)
    (es : List Event) (s : FlashLog)
    (hrun : run (FlashLog.step localtime) (flashLogInit log prev t) es = some s) :
    ∃ kept, kept.Sublist (offered localtime es) ∧
      (s.flushes.flatMap (·.text)) ++ s.takenText ++ s.stage = spelt true kept ∧
      ((s.flushes.map (·.dropped)).sum + s.takenDropped + s.dropped + kept.length) % 2 ^ 32 =
        (offered localtime es).length % 2 ^ 32 ∧
      s.gone ++ s.prev ++ s.log = prev ++ log ++ s.flushes.flatMap Flush.onFlash := by
  have h := (accounts_init log prev t).run hrun
  rw [List.nil_append] at h
  exact ⟨s.kept, h.kept, h.text, h.dropped, h.files⟩

/-- A clock that was never set. -/
def bootTime : UInt64 → Tm := fun _ => ⟨70, 0, 1, 0, 0, 0⟩

/-- A line, taken at once; the file takes five bytes of its stamp, and another line comes while it
does. -/
def tornLine : List Event :=
  [.put (ascii "ota failed\n") 2000 0, .take false 2000, .put (ascii "ok") 2010 0,
    .finish { stop := 2020, now := 0, opens := true, marker := 0, wrote := 5, notice := 0,
              removes := true, renames := true }]

theorem tornLine_runs : (run (FlashLog.step bootTime) (flashLogInit [] [] 0) tornLine).map
    (fun s => (s.log, s.stage)) = some (ascii "[+000", ascii "[+00002.010] ok") := by
  decide +kernel

theorem log_accounts_for_every_byte_torn :
    ∃ s, run (FlashLog.step bootTime) (flashLogInit [] [] 0) tornLine = some s ∧
      s.log = ascii "[+000" ∧ s.stage = ascii "[+00002.010] ok" ∧
      ∃ kept, kept.Sublist (offered bootTime tornLine) ∧
        (s.flushes.flatMap (·.text)) ++ s.takenText ++ s.stage = spelt true kept := by
  obtain ⟨s, hrun, hends⟩ := Option.map_eq_some_iff.mp tornLine_runs
  have h := log_accounts_for_every_byte bootTime [] [] 0 tornLine s hrun
  obtain ⟨kept, hsub, htext, -⟩ := h
  rw [Prod.mk.injEq] at hends
  exact ⟨s, hrun, hends.1, hends.2, kept, hsub, htext⟩

/-! ## §7. The files stay small. -/

abbrev FLUSH_MAX : Nat := 26 + FLASH_LOG_STAGE_CAP + 38

theorem padded_length {width n k : Nat} (hwidth : width ≤ k) (hk : 0 < k) (h : n < 10 ^ k) :
    (padded width n).length ≤ k := by
  have hdigits : (decimal n).length ≤ k := by
    rw [decimal, List.length_map]
    exact (Nat.length_toDigits_le_iff (by decide) hk).mpr h
  rw [padded, List.length_append, List.length_replicate]
  omega

theorem nowDay_lt (localtime : UInt64 → Tm) (now : UInt64) : nowDay localtime now < 2 ^ 32 := by
  unfold nowDay
  split
  · exact Nat.mod_lt _ (by decide)
  · decide

theorem dayLine_length {day : Nat} (h : day < 2 ^ 32) : (dayLine day).length ≤ 26 := by
  have hyear : (padded 4 (day / 10000)).length ≤ 6 :=
    padded_length (by decide) (by decide) (by omega)
  have hmonth : (padded 2 (day / 100 % 100)).length ≤ 2 :=
    padded_length (by decide) (by decide) (by omega)
  have hday : (padded 2 (day % 100)).length ≤ 2 := padded_length (by decide) (by decide) (by omega)
  have hends : (ascii "===== ").length = 6 ∧ (ascii " =====").length = 6 ∧
    (ascii "-").length = 1 := by decide
  simp only [dayLine, List.length_append, List.length_singleton]
  omega

theorem dropNotice_length {dropped : Nat} (h : dropped < 2 ^ 32) :
    (dropNotice dropped).length ≤ 38 := by
  have hcount : (decimal dropped).length ≤ 10 := by
    rw [decimal, List.length_map]
    exact (Nat.length_toDigits_le_iff (by decide) (by decide)).mpr (by omega)
  have hends : (ascii "[flashlog: ").length = 11 ∧ (ascii " bytes dropped]").length = 15 := by
    decide
  simp only [dropNotice, List.length_append, List.length_singleton]
  omega

/-- What is taken fits the stage. -/
structure Taken.Fits (k : Taken) : Prop where
  text : k.text.length ≤ FLASH_LOG_STAGE_CAP
  dropped : k.dropped < 2 ^ 32

theorem flushOf_onFlash_length {k : Taken} (h : k.Fits) (a : Answers) (s : FlashLog) :
    (s.flushOf localtime k a).onFlash.length ≤ FLUSH_MAX := by
  have hmarked : (s.flushOf localtime k a).marked.length ≤ 26 := by
    show (if _ then _ else _ : CStr).length ≤ _
    split
    · rw [List.length_take]
      have hline := dayLine_length (nowDay_lt localtime a.now)
      omega
    · exact Nat.zero_le _
  have hnoted : (s.flushOf localtime k a).noted.length ≤ 38 := by
    show (if _ then _ else _ : CStr).length ≤ _
    split
    · rw [List.length_take]
      have hline := dropNotice_length h.dropped
      omega
    · exact Nat.zero_le _
  have htext : (s.flushOf localtime k a).text.length ≤ FLASH_LOG_STAGE_CAP := h.text
  have hmax : FLUSH_MAX = 26 + FLASH_LOG_STAGE_CAP + 38 := rfl
  unfold Flush.onFlash
  split
  · rw [List.length_append, List.length_append, List.length_take]
    omega
  · exact Nat.zero_le _

/-- The stage and what is taken of it are small, the file has at most `L` bytes and the previous one
at most `P`. -/
structure Small (L P : Nat) (s : FlashLog) : Prop where
  stage : s.stage.length ≤ FLASH_LOG_STAGE_CAP
  dropped : s.dropped < 2 ^ 32
  taken : ∀ k, s.taken = some k → k.Fits
  log : s.log.length ≤ L
  prev : s.prev.length ≤ P

theorem Small.put {L P : Nat} (h : Small L P s) (data : CStr) (t : Nat) (now : UInt64) :
    Small L P (s.flashLogStage localtime data t now) := by
  obtain ⟨taken, hst⟩ := logStamperApply_applied (stampAt localtime t now)
    (FLASH_LOG_STAGE_CAP - s.stage.length) data { atLineStart := s.atLineStart }
  have hfits := hst.room (Nat.zero_le _)
  have hstage := h.stage
  unfold FlashLog.flashLogStage
  split
  · exact ⟨h.stage, h.dropped, h.taken, h.log, h.prev⟩
  · refine ⟨?_, Nat.mod_lt _ (by decide), h.taken, h.log, h.prev⟩
    show (s.stage ++ (s.stamped localtime data t now).written).length ≤ _
    rw [List.length_append, FlashLog.stamped]
    omega

theorem Small.take {L P : Nat} (h : Small L P s) (hnone : s.taken = none) (force : Bool) (t : Nat) :
    Small L P (s.take force t) := by
  unfold FlashLog.take
  split
  · refine ⟨Nat.zero_le _, Nat.two_pow_pos 32, ?_, h.log, h.prev⟩
    intro k hk
    simp only at hk
    split at hk
    · cases hk
    · rw [← Option.some.inj hk]
      exact ⟨h.stage, h.dropped⟩
  · refine ⟨h.stage, h.dropped, ?_, h.log, h.prev⟩
    intro k hk
    rw [show _ = s.taken from rfl, hnone] at hk
    cases hk

theorem Small.finish {L P : Nat} (hL : FLASH_LOG_FILE_CAP ≤ L + 1) (hP : L + FLUSH_MAX ≤ P)
    (h : Small L P s) {k : Taken} (hk : s.taken = some k) (a : Answers)
    (hrenames : a.renames = true) : Small L P (s.finish localtime k a) := by
  have hflush : (s.flushOf localtime k a).onFlash.length ≤ FLUSH_MAX :=
    flushOf_onFlash_length (h.taken k hk) a s
  have hlog := h.log
  have hprev := h.prev
  unfold FlashLog.finish FlashLog.rotate
  by_cases hfull : a.opens = true ∧
      flashLogShouldRotate (s.log ++ (s.flushOf localtime k a).onFlash).length = true
  · -- the file is full: it becomes the previous one
    simp only [hfull, and_self, if_true, hrenames]
    have hmoved : (s.log ++ (s.flushOf localtime k a).onFlash).length ≤ P := by
      rw [List.length_append]
      omega
    cases a.removes
    · exact ⟨h.stage, h.dropped, fun _ hnone => (by cases hnone), Nat.zero_le _, hmoved⟩
    · exact ⟨h.stage, h.dropped, fun _ hnone => (by cases hnone), Nat.zero_le _, hmoved⟩
  · simp only [hfull, if_false]
    refine ⟨h.stage, h.dropped, fun _ hnone => (by cases hnone), ?_, hprev⟩
    show (s.log ++ (s.flushOf localtime k a).onFlash).length ≤ L
    cases hopens : a.opens with
    | false =>
        have hnothing : (s.flushOf localtime k a).onFlash = [] := by
          simp [Flush.onFlash, FlashLog.flushOf, hopens]
        rw [hnothing, List.append_nil]
        exact hlog
    | true =>
        have hroom :
            ¬ (s.log ++ (s.flushOf localtime k a).onFlash).length ≥ FLASH_LOG_FILE_CAP := by
          intro hge
          exact hfull ⟨hopens, decide_eq_true hge⟩
        omega

theorem Small.run {L P : Nat} (hL : FLASH_LOG_FILE_CAP ≤ L + 1) (hP : L + FLUSH_MAX ≤ P)
    (h : Small L P s) {es : List Event} (hrenames : ∀ a, Event.finish a ∈ es → a.renames = true)
    {s' : FlashLog} (hrun : run (FlashLog.step localtime) s es = some s') : Small L P s' := by
  induction es generalizing s with
  | nil =>
      rw [run_nil, Option.some.injEq] at hrun
      exact hrun ▸ h
  | cons e es ih =>
      rw [run_cons, Option.bind_eq_some_iff] at hrun
      obtain ⟨m, hm, hrest⟩ := hrun
      refine ih ?_ (fun a ha => hrenames a (List.mem_cons_of_mem e ha)) hrest
      cases e with
      | put data t now =>
          obtain ⟨-, hs'⟩ := step_put hm
          rw [hs']
          exact h.put data t now
      | take force t =>
          obtain ⟨-, hnone, hs'⟩ := step_take hm
          rw [hs']
          exact h.take hnone force t
      | finish a =>
          obtain ⟨k, hk, -, hs'⟩ := step_finish hm
          rw [hs']
          exact h.finish hL hP hk a (hrenames a List.mem_cons_self)

/-- While renames succeed the log's file stays below its cap, or below what it began with, at the
end of every tick, and the previous one is no more than one flush larger. -/
theorem files_stay_in_bounds (localtime : UInt64 → Tm) (log prev : CStr) (t : Nat)
    (es : List Event) (s : FlashLog)
    (hrun : run (FlashLog.step localtime) (flashLogInit log prev t) es = some s)
    (hrenames : ∀ a, Event.finish a ∈ es → a.renames = true) :
    s.log.length ≤ max (FLASH_LOG_FILE_CAP - 1) log.length ∧
      s.prev.length ≤ max prev.length (max (FLASH_LOG_FILE_CAP - 1) log.length + FLUSH_MAX) := by
  have hcap : FLASH_LOG_FILE_CAP = 1048576 := rfl
  have hinit : Small (max (FLASH_LOG_FILE_CAP - 1) log.length)
      (max prev.length (max (FLASH_LOG_FILE_CAP - 1) log.length + FLUSH_MAX))
      (flashLogInit log prev t) := by
    refine ⟨Nat.zero_le _, Nat.two_pow_pos 32, ?_, le_max_right _ _, le_max_left _ _⟩
    intro k hk
    cases hk
  have h := hinit.run (by omega) (le_max_right _ _) hrenames hrun
  exact ⟨h.log, h.prev⟩

theorem files_stay_in_bounds_torn :
    ∃ s, run (FlashLog.step bootTime) (flashLogInit [] [] 0) tornLine = some s ∧
      s.log.length ≤ max (FLASH_LOG_FILE_CAP - 1) 0 := by
  obtain ⟨s, hrun, -⟩ := Option.map_eq_some_iff.mp tornLine_runs
  refine ⟨s, hrun, (files_stay_in_bounds bootTime [] [] 0 tornLine s hrun ?_).1⟩
  intro a ha
  simp only [tornLine, List.mem_cons, List.not_mem_nil, or_false, reduceCtorEq, false_or,
    Event.finish.injEq] at ha
  rw [ha]

/-! ## §8. Flushes keep their distance. -/

/-- Why a take may follow a flush: the flush is forced, the stage is half full, or a second has
passed since, five when the flash would not take the last one. -/
def Spaced (f : Flush) (k : Taken) : Prop :=
  k.forced = true ∨ FLASH_LOG_STAGE_CAP / 2 ≤ k.text.length ∨
    (f.stop + 1000 ≤ k.start ∧ (f.failed = true → f.stop + 5000 ≤ k.start))

/-- What netTask's notes say of the flush before. -/
structure Follows (f : Flush) (s : FlashLog) : Prop where
  past : f.stop ≤ s.clock
  lastFlushMs : s.lastFlushMs = reading f.stop
  lastFlushFailed : s.lastFlushFailed = f.failed
  taken : ∀ k, s.taken = some k → Spaced f k

structure Distant (s : FlashLog) : Prop where
  chain : s.flushes.IsChain fun f g => Spaced f g.toTaken
  last : ∀ f ∈ s.flushes.getLast?, Follows f s

theorem flashLogShouldFlush_cases {used cap : Nat} {ms interval : UInt32} {urgent failed : Bool}
    (h : flashLogShouldFlush used cap ms interval urgent failed = true) :
    cap / 2 ≤ used ∨ (failed = false ∧ FLASH_LOG_URGENT_MIN_MS ≤ ms) ∨ interval ≤ ms := by
  unfold flashLogShouldFlush at h
  split at h
  · cases h
  · split at h
    · next hhalf => exact Or.inl hhalf
    · split at h
      · next hurgent =>
          simp only [Bool.and_eq_true, Bool.not_eq_true', decide_eq_true_eq] at hurgent
          exact Or.inr (Or.inl ⟨hurgent.1.2, hurgent.2⟩)
      · exact Or.inr (Or.inr (of_decide_eq_true h))

theorem Follows.take {f : Flush} (h : Follows f s) {force : Bool} {t : Nat} (ht : s.clock ≤ t)
    (hnone : s.taken = none) : Follows f (s.take force t) := by
  have hpast := h.past
  unfold FlashLog.take
  split
  · next hdue =>
      refine ⟨by show f.stop ≤ t; omega, h.lastFlushMs, h.lastFlushFailed, ?_⟩
      intro k hk
      simp only at hk
      split at hk
      · cases hk
      · rw [← Option.some.inj hk]
        rw [Bool.or_eq_true, h.lastFlushMs, h.lastFlushFailed] at hdue
        obtain hforce | hshould := hdue
        · exact Or.inl hforce
        · obtain hhalf | ⟨hfine, hsecond⟩ | hperiod := flashLogShouldFlush_cases hshould
          · exact Or.inr (Or.inl hhalf)
          · have hwait := waited (hpast.trans ht) hsecond
            refine Or.inr (Or.inr ⟨hwait, fun hfailed => ?_⟩)
            rw [hfine] at hfailed
            cases hfailed
          · have hwait : f.stop + 5000 ≤ t := waited (hpast.trans ht) hperiod
            exact Or.inr (Or.inr ⟨by show f.stop + 1000 ≤ t; omega, fun _ => hwait⟩)
  · refine ⟨by show f.stop ≤ t; omega, h.lastFlushMs, h.lastFlushFailed, ?_⟩
    intro k hk
    rw [show _ = s.taken from rfl, hnone] at hk
    cases hk

theorem Distant.step (h : Distant s) {e : Event} {s' : FlashLog}
    (hstep : s.step localtime e = some s') : Distant s' := by
  cases e with
  | put data t now =>
      obtain ⟨ht, hs'⟩ := step_put hstep
      rw [hs']
      unfold FlashLog.flashLogStage
      split
      · refine ⟨h.chain, fun f hf => ?_⟩
        have hlast := h.last f hf
        exact ⟨hlast.past.trans ht, hlast.lastFlushMs, hlast.lastFlushFailed, hlast.taken⟩
      · refine ⟨h.chain, fun f hf => ?_⟩
        have hlast := h.last f hf
        exact ⟨hlast.past.trans ht, hlast.lastFlushMs, hlast.lastFlushFailed, hlast.taken⟩
  | take force t =>
      obtain ⟨ht, hnone, hs'⟩ := step_take hstep
      rw [hs']
      have hsame : (s.take force t).flushes = s.flushes := by
        unfold FlashLog.take
        split <;> rfl
      rw [show Distant (s.take force t) ↔ _ from ⟨fun d => And.intro d.chain d.last,
        fun d => ⟨d.1, d.2⟩⟩, hsame]
      exact ⟨h.chain, fun f hf => (h.last f hf).take ht hnone⟩
  | finish a =>
      obtain ⟨k, hk, hstop, hs'⟩ := step_finish hstep
      rw [hs']
      unfold FlashLog.finish
      rw [FlashLog.rotate_same]
      constructor
      · show (s.flushes ++ [s.flushOf localtime k a]).IsChain _
        rw [List.isChain_append]
        refine ⟨h.chain, List.isChain_singleton _, ?_⟩
        intro f hf g hg
        rw [List.head?_cons, Option.mem_some_iff] at hg
        rw [← hg]
        exact (h.last f hf).taken k hk
      · intro f hf
        simp only [List.getLast?_append, List.getLast?_singleton, Option.some_or,
          Option.mem_some_iff] at hf
        rw [← hf]
        exact ⟨le_rfl, rfl, rfl, fun _ hnone => (by cases hnone)⟩

/-- Whoever logs whatever: two flushes in a row lie a second apart, five when the first was refused,
unless the second was forced or the stage was half full. -/
theorem flushes_keep_their_distance (localtime : UInt64 → Tm) (log prev : CStr) (t : Nat)
    (es : List Event) (s : FlashLog)
    (hrun : run (FlashLog.step localtime) (flashLogInit log prev t) es = some s) :
    s.flushes.IsChain fun f g => Spaced f g.toTaken := by
  have hinit : Distant (flashLogInit log prev t) := by
    refine ⟨List.IsChain.nil, fun f hf => ?_⟩
    cases hf
  exact (run_invariant (fun _ _ _ h hstep => h.step hstep) hinit hrun).chain

end Clocked

theorem flushes_keep_their_distance_torn :
    ∃ s, run (FlashLog.step bootTime) (flashLogInit [] [] 0) tornLine = some s ∧
      s.flushes.IsChain fun f g => Spaced f g.toTaken := by
  obtain ⟨s, hrun, -⟩ := Option.map_eq_some_iff.mp tornLine_runs
  exact ⟨s, hrun, flushes_keep_their_distance bootTime [] [] 0 tornLine s hrun⟩

/-! ## §9. The verdict on a text is the verdict on its lines. -/

section Lines

variable {word : CStr}

theorem newline_not_word : flashLogIsWordChar newline = false := by decide

theorem head_any_append (x more : CStr) :
    (x ++ newline :: more).head?.any flashLogIsWordChar = x.head?.any flashLogIsWordChar := by
  cases x with
  | nil => exact newline_not_word
  | cons c x => rfl

/-- A word that has no newline in it is not found across one. -/
theorem take_folded_across (hclean : newline ∉ word) {x more : CStr} (h : x.length < word.length) :
    (((x ++ newline :: more).take word.length).map folded == word) = false := by
  rw [beq_eq_false_iff_ne]
  intro heq
  apply hclean
  rw [← heq, List.mem_map]
  refine ⟨newline, ?_, by decide⟩
  rw [List.take_append]
  have hmore : 0 < word.length - x.length := Nat.sub_pos_of_lt h
  cases hlen : word.length - x.length with
  | zero => omega
  | succ n => exact List.mem_append_right _ List.mem_cons_self

theorem flashLogWordAt_before_newline (hclean : newline ∉ word) (before x more : CStr) :
    flashLogWordAt before (x ++ newline :: more) word = flashLogWordAt before x word := by
  unfold flashLogWordAt
  by_cases hlong : x.length < word.length
  · rw [take_folded_across hclean hlong]
    simp [Nat.not_le.mpr hlong]
  · have hfits : word.length ≤ x.length := Nat.not_lt.mp hlong
    rw [List.take_append_of_le_length hfits, List.drop_append_of_le_length hfits, head_any_append]
    simp [hfits, Nat.le_add_right_of_le hfits]

theorem flashLogWordAt_behind_newline (y behind rest : CStr) :
    flashLogWordAt (y ++ newline :: behind) rest word = flashLogWordAt y rest word := by
  unfold flashLogWordAt
  rw [head_any_append]

theorem flashLogWordIsCount_before_newline {wl : Nat} (before x more : CStr) (h : wl ≤ x.length) :
    flashLogWordIsCount before (x ++ newline :: more) wl = flashLogWordIsCount before x wl := by
  unfold flashLogWordIsCount
  rw [List.drop_append_of_le_length h]
  cases x.drop wl with
  | nil => rfl
  | cons c rest => rfl

theorem numberAlone_behind_newline (y behind : CStr) :
    numberAlone (y ++ newline :: behind) = numberAlone y := by
  cases y with
  | nil => rfl
  | cons c number =>
      have hstop : isDigit newline = false := by decide
      have hdigits : ∀ ys : CStr,
          (ys ++ newline :: behind).takeWhile isDigit = ys.takeWhile isDigit ∧
          (ys ++ newline :: behind).dropWhile isDigit =
            ys.dropWhile isDigit ++ newline :: behind := by
        intro ys
        induction ys with
        | nil => simp [hstop]
        | cons d ys ih => by_cases hd : isDigit d = true <;> simp [hd, ih]
      rw [List.cons_append, numberAlone, numberAlone, (hdigits number).1, (hdigits number).2,
        head_any_append]

theorem flashLogWordIn_behind_newline (behind : CStr) (y rest : CStr) :
    flashLogWordIn word (y ++ newline :: behind) rest = flashLogWordIn word y rest := by
  induction rest generalizing y with
  | nil => rfl
  | cons c rest ih =>
      have hnext := ih (c :: y)
      rw [List.cons_append] at hnext
      rw [flashLogWordIn, flashLogWordIn, hnext, flashLogWordAt_behind_newline]
      unfold flashLogWordIsCount
      rw [numberAlone_behind_newline]

theorem flashLogWordIn_line (hclean : newline ∉ word) (hword : word ≠ []) (y x more : CStr) :
    flashLogWordIn word y (x ++ newline :: more) =
      (flashLogWordIn word y x || flashLogWordIn word [] more) := by
  induction x generalizing y with
  | nil =>
      -- the newline is no first letter of a word, and what is behind it starts afresh
      have hnone : flashLogWordAt y (newline :: more) word = false := by
        have hshort : ([] : CStr).length < word.length := List.length_pos_of_ne_nil hword
        have hmiss := @take_folded_across word hclean [] more hshort
        rw [List.nil_append] at hmiss
        unfold flashLogWordAt
        rw [hmiss]
        simp
      have hrest := @flashLogWordIn_behind_newline word y [] more
      rw [List.nil_append] at hrest ⊢
      show (_ && _ || flashLogWordIn word (newline :: y) more) = (false || _)
      rw [hnone, hrest, Bool.false_and]
  | cons c x ih =>
      have hplace := flashLogWordAt_before_newline hclean y (c :: x) more
      rw [List.cons_append] at hplace ⊢
      rw [flashLogWordIn, flashLogWordIn, hplace, ih (c :: y), Bool.or_assoc]
      by_cases hfits : word.length ≤ (c :: x).length
      · have hcount := flashLogWordIsCount_before_newline y (c :: x) more hfits
        rw [List.cons_append] at hcount
        rw [hcount]
      · -- too long a word for what is left of the line
        have hnone : flashLogWordAt y (c :: x) word = false := by
          unfold flashLogWordAt
          simp only [hfits, decide_false, Bool.false_and]
        rw [hnone, Bool.false_and, Bool.false_and]

end Lines

theorem urgent_words_clean :
    ∀ word ∈ FLASH_LOG_URGENT_WORDS, newline ∉ word ∧ word ≠ [] := by decide

theorem flashLogTextUrgent_line (x more : CStr) :
    flashLogTextUrgent (x ++ newline :: more) =
      (flashLogTextUrgent x || flashLogTextUrgent more) := by
  have hwords : ∀ words : List CStr, (∀ word ∈ words, newline ∉ word ∧ word ≠ []) →
      (words.any fun word => flashLogWordIn word [] (x ++ newline :: more)) =
        ((words.any fun word => flashLogWordIn word [] x) ||
          words.any fun word => flashLogWordIn word [] more) := by
    intro words
    induction words with
    | nil => exact fun _ => rfl
    | cons word words ih =>
        intro hall
        have hone := hall word List.mem_cons_self
        rw [List.any_cons, List.any_cons, List.any_cons, flashLogWordIn_line hone.1 hone.2,
          ih fun w hw => hall w (List.mem_cons_of_mem word hw)]
        cases flashLogWordIn word [] x <;> cases flashLogWordIn word [] more <;> simp
  exact hwords _ urgent_words_clean

/-- A text of whole lines is urgent if and only if one of its lines is: no word is found across a
line's end, none is taken for a count by what stands on another line, and none is missed. -/
theorem text_is_urgent_line_by_line (lines : List CStr) :
    flashLogTextUrgent (spelled lines) = lines.any flashLogTextUrgent := by
  induction lines with
  | nil => decide
  | cons line lines ih =>
      rw [spelled_cons, List.any_cons, ← ih]
      exact flashLogTextUrgent_line line (spelled lines)

end SplitFlap.LogOnFlash
