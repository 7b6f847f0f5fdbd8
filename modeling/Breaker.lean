import Breaker.Clock
import Breaker.Binary.Bits
import Breaker.Decimal.Layout
import Breaker.Text.Quoted
import Breaker.Text.Labelled
import Breaker.Duration.Text
import Breaker.Window
import Breaker.Permits
import Breaker.Event
import Breaker.Settings
import Breaker.Timers
import Breaker.Roster
import Breaker.Episode
import Breaker.World.Permission
import Breaker.World.Report
import Breaker.World.Dealing
import Breaker.World.Alarms
import Breaker.Blueprint
import Breaker.Scenario.Run
import Breaker.Drill
import Breaker.Sleeper
import Breaker.Backoff.Sample
import Breaker.Proofs.Rate
import Breaker.Proofs.Causes
import Breaker.Proofs.Window.Aggregate
import Breaker.Proofs.Window.LastCalls
import Breaker.Proofs.Window.LastSeconds
import Breaker.Proofs.Episode.Course
import Breaker.Proofs.World.Frame
import Breaker.Proofs.World.Yields
import Breaker.Proofs.World.Move
import Breaker.Proofs.World.Course
import Breaker.Proofs.World.Tells
import Breaker.Proofs.World.Tidy
import Breaker.Proofs.World.Quiet
import Breaker.Proofs.World.Operation
import Breaker.Proofs.World.Dealings
import Breaker.Proofs.World.Undergoes
import Breaker.Proofs.Window.Agree
import Breaker.Proofs.Window.Kinds
import Breaker.Proofs.Window.Checked
import Breaker.Proofs.Window.Lap
import Breaker.Proofs.Window.Average
import Breaker.Proofs.Episode.Account
import Breaker.Proofs.Episode.Trial
import Breaker.Proofs.Episode.Told
import Breaker.Proofs.Episode.Attempts
import Breaker.Proofs.Episode.Decided
import Breaker.Proofs.Episode.Gate
import Breaker.Proofs.Episode.Checked
import Breaker.Proofs.World.Past
import Breaker.Proofs.World.Writes
import Breaker.Proofs.World.Bulletin
import Breaker.Proofs.World.Traffic
import Breaker.Proofs.World.Trial
import Breaker.Proofs.World.Triggers
import Breaker.Proofs.World.Wait
import Breaker.Proofs.World.Alone
import Breaker.Proofs.World.Twins
import Breaker.Proofs.World.InStep
import Breaker.Proofs.World.Forgets
import Breaker.Proofs.World.Overdue
import Breaker.Proofs.World.Answered
import Breaker.Proofs.World.Armed
import Breaker.Proofs.World.Assured
import Breaker.Proofs.World.Trace
import Breaker.Proofs.World.Traced
import Breaker.Proofs.World.Alerts
import Breaker.Proofs.World.Passage
import Breaker.Proofs.World.Ledger
import Breaker.Proofs.World.Fresh
import Breaker.Proofs.World.Unattended
import Breaker.Proofs.World.Gate
import Breaker.Proofs.World.Checked
import Breaker.Proofs.World.DryRun
import Breaker.Proofs.World.Usage
import Breaker.Proofs.World.Accord
import Breaker.Proofs.World.InAccord
import Breaker.Proofs.World.Unshown
import Breaker.Proofs.World.Bystanders
import Breaker.Proofs.Scenario.Traced
import Breaker.Proofs.Scenario.Always
import Breaker.Proofs.Scenario.Hearing
import Breaker.Proofs.Scenario.Trials
import Breaker.Proofs.Scenario.Armed
import Breaker.Proofs.Scenario.Refusal
import Breaker.Proofs.Scenario.Stranded
import Breaker.Proofs.Scenario.GivenUp
import Breaker.Proofs.Scenario.Valid
import Breaker.Proofs.Backoff
import Breaker.Proofs.Rounding
import Breaker.Proofs.Backoff.Longest
import Breaker.Proofs.Blueprint
import Breaker.Proofs.Clock
import Breaker.Proofs.World.Delivery
import Breaker.Proofs.Drill.Record
import Breaker.Proofs.Drill.Fit
import Breaker.Proofs.Drill.Turns
