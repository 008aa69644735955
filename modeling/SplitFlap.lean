import SplitFlap.Wall.JobSlot
import SplitFlap.Wall.Place
import SplitFlap.Wall.Takeover
import SplitFlap.Lib.Trace
import SplitFlap.Unit.Twiboot
import SplitFlap.Unit.FlashImage
import SplitFlap.Unit.Reflash
import SplitFlap.Unit.ReflashRun
import SplitFlap.Unit.ReflashReport
import SplitFlap.Wall.Ops
import SplitFlap.Wall.Boards
import SplitFlap.Wall.Tasks
import SplitFlap.Wall.StagedJobs
import SplitFlap.Wall.EndedJobs
import SplitFlap.Wall.OwnedJobs
import SplitFlap.Wall.Offers
import SplitFlap.Wall.Layout
import SplitFlap.Wall.Show
import SplitFlap.Wall.ShowRuns
import SplitFlap.Lib.MaskedXor
import SplitFlap.Unit.Facts
import SplitFlap.Unit.Replies
import SplitFlap.Board.Window
import SplitFlap.Board.UnitBus
import SplitFlap.Board.DisplayTask
import SplitFlap.Board.Discipline
import SplitFlap.Board.DisplayRuns
import SplitFlap.Board.RowLoop
import SplitFlap.Board.RowRuns
import SplitFlap.Board.HeldBack
import SplitFlap.Board.Untouched
import SplitFlap.Record.Account
import SplitFlap.Record.Conserved
import SplitFlap.Wall.ImageAttempts
import SplitFlap.Wall.UpdateTurns
import SplitFlap.Lib.Words
import SplitFlap.Wall.Wrapping
import SplitFlap.Lib.Ranks
import SplitFlap.Wall.Mirror
import SplitFlap.Rescue.FactorySlot
import SplitFlap.Rescue.SlotStory
import SplitFlap.Unit.Odometer
import SplitFlap.Rescue.SlotWriter
import SplitFlap.Rescue.SlotRuns
import SplitFlap.Unit.BootImages
import SplitFlap.Unit.BootRuns
import SplitFlap.Lib.Marks
import SplitFlap.Unit.Drift
import SplitFlap.Unit.Commands
import SplitFlap.Unit.Motion
import SplitFlap.Unit.SteadyDrum
import SplitFlap.Unit.UnitLoop
import SplitFlap.Unit.LastLetter
import SplitFlap.Lib.TornBlock
import SplitFlap.Link.Document
import SplitFlap.Unit.StoredBlocks
import SplitFlap.Link.Names
import SplitFlap.Wall.RowsTable
import SplitFlap.Wall.Edits
import SplitFlap.Wall.HostNames
import SplitFlap.Lib.Strtol
import SplitFlap.Wall.UnitJobs
import SplitFlap.Unit.HealthPoll
import SplitFlap.Unit.BootUpdateOp
import SplitFlap.Lib.Stretch
import SplitFlap.Unit.BusSilence
import SplitFlap.Wall.RowBoard
import SplitFlap.Wall.Pair
import SplitFlap.Wall.TextAgreement
import SplitFlap.Wall.PairCalls
import SplitFlap.Wall.JobAgreement
import SplitFlap.Board.Verdict
import SplitFlap.Board.Published
import SplitFlap.Release.Fetch
import SplitFlap.Lib.Latest
import SplitFlap.Record.LogRings
import SplitFlap.Wall.RestartUnits
import SplitFlap.Wall.OneAtATime
import SplitFlap.Lib.SkipBack
import SplitFlap.Record.Pages
import SplitFlap.Record.PageRuns
import SplitFlap.Release.ImageStore
import SplitFlap.Lib.Clock
import SplitFlap.Board.BusRecovery
import SplitFlap.Board.RowRecovery
import SplitFlap.Unit.SelfTest
import SplitFlap.Lib.Flags
import SplitFlap.Unit.Reasons
import SplitFlap.Wall.BoardReasons
import SplitFlap.Record.Watch
import SplitFlap.Link.WifiTx
import SplitFlap.Link.NetLiveness
import SplitFlap.Lib.Slots
import SplitFlap.Board.MotionAdmission
import SplitFlap.Lib.Sectors
import SplitFlap.Release.PackedUpload
import SplitFlap.Unit.CrashHold
import SplitFlap.Lib.Loop
import SplitFlap.Unit.Seek
import SplitFlap.Unit.HomeRest
import SplitFlap.Lib.BitFlips
import SplitFlap.Unit.CorruptedFrames
import SplitFlap.Unit.MeasuredDrum
import SplitFlap.Unit.StandDown
import SplitFlap.Wall.FlipInstant
import SplitFlap.Wall.OwnRow
import SplitFlap.Wall.Overlay
import SplitFlap.Wall.ModeTicker
import SplitFlap.Lib.Columns
import SplitFlap.Wall.StateText
import SplitFlap.Rescue.SlotRecord
import SplitFlap.Rescue.ExitSlot
import SplitFlap.Record.FlashLog
import SplitFlap.Wall.Transliterate
import SplitFlap.Link.LanOrigin
import SplitFlap.Board.BootGuard
import SplitFlap.Board.WifiJoin
import SplitFlap.Board.UnitEventLog
import SplitFlap.Lib.InsertionSort
import SplitFlap.Record.Wear
import SplitFlap.Board.SelfRestart
