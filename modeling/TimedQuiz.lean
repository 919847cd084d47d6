import TimedQuiz.Account
import TimedQuiz.App.Action
import TimedQuiz.App.Serve
import TimedQuiz.Bus.Reentry
import TimedQuiz.Coordinator.Schedule
import TimedQuiz.Database.Address
import TimedQuiz.Database.Connect
import TimedQuiz.Database.Engine
import TimedQuiz.Database.Fault
import TimedQuiz.Database.Form
import TimedQuiz.Database.Ipv6
import TimedQuiz.Database.Login
import TimedQuiz.Database.Options
import TimedQuiz.Database.Store
import TimedQuiz.Decimal.Bounded
import TimedQuiz.Digest.Sha256
import TimedQuiz.Feed.Hub
import TimedQuiz.Feed.Stream
import TimedQuiz.Leaderboard
import TimedQuiz.Proofs.Coordinator.Loading
import TimedQuiz.Proofs.Coordinator.Rounds
import TimedQuiz.Proofs.Coordinator.Standing
import TimedQuiz.Recorder
import TimedQuiz.Request
import TimedQuiz.Settings
import TimedQuiz.Source.Fetch
import TimedQuiz.Store.Operation
import TimedQuiz.Supervisor
import TimedQuiz.Text.Divide
import TimedQuiz.Text.Lower
import TimedQuiz.Text.Lower.Table
import TimedQuiz.Wire
import TimedQuiz.Proofs.Timeline
import TimedQuiz.Proofs.Coordinator.Expiry
import TimedQuiz.Proofs.Coordinator.Trail
import TimedQuiz.Proofs.Coordinator.Countdown
import TimedQuiz.Proofs.Coordinator.Replay
import TimedQuiz.Proofs.Ledger
import TimedQuiz.Proofs.Store
import TimedQuiz.Proofs.Recorder
import TimedQuiz.Proofs.Coordinator.Schedule
import TimedQuiz.Proofs.Account
import TimedQuiz.App.Run
import TimedQuiz.Proofs.App.Conservation
import TimedQuiz.Proofs.Bus.Registry
import TimedQuiz.Proofs.Bus.Story
import TimedQuiz.Proofs.Recorder.Call
import TimedQuiz.Proofs.Recorder.Outage
import TimedQuiz.Proofs.Coordinator.Veil
import TimedQuiz.Proofs.Coordinator.Pace
import TimedQuiz.Proofs.App.Twins
import TimedQuiz.Proofs.App.Secrecy
import TimedQuiz.Proofs.Overlap.Records
import TimedQuiz.Proofs.Overlap.Crowd
import TimedQuiz.Proofs.Overlap.Consistent
import TimedQuiz.Proofs.Overlap.Race
import TimedQuiz.App.Supervised
import TimedQuiz.Proofs.Supervisor
import TimedQuiz.Proofs.App.Across
import TimedQuiz.Proofs.App.Supervised
import TimedQuiz.Proofs.Coordinator.FollowUp
import TimedQuiz.Proofs.App.Action
import TimedQuiz.Proofs.App.Accounts
import TimedQuiz.Proofs.Database.Session
import TimedQuiz.Proofs.Database.Documents
import TimedQuiz.Proofs.Operation
import TimedQuiz.Proofs.Database.Agreement
import TimedQuiz.Proofs.Coordinator.Refusal
import TimedQuiz.Proofs.Coordinator.Grading
import TimedQuiz.Proofs.Store.Progress
import TimedQuiz.Proofs.Coordinator.Rest
import TimedQuiz.Proofs.Coordinator.Retry
import TimedQuiz.Proofs.Store.Ranking
import TimedQuiz.Proofs.Leaderboard
import TimedQuiz.Proofs.Sound
import TimedQuiz.Proofs.App.Hearing
import TimedQuiz.Feed.Station
import TimedQuiz.Proofs.Feed.Stream
import TimedQuiz.Proofs.Feed.Station
import TimedQuiz.Proofs.Supervisor.Timing
import TimedQuiz.Proofs.Text.Trim
import TimedQuiz.Proofs.Decimal
import TimedQuiz.Proofs.Source
import TimedQuiz.Proofs.Coordinator.Timers
import TimedQuiz.Proofs.Coordinator.Lapse
