import RadioLinks.Bench
import RadioLinks.Cli.Run
import RadioLinks.LogFilter
import RadioLinks.Main
import RadioLinks.Proofs.Paced.Outcome
import RadioLinks.Proofs.Radio.Custody
import RadioLinks.Proofs.Radio.Exposed
import RadioLinks.Proofs.Radio.Progress
import RadioLinks.Proofs.Moments
import RadioLinks.Proofs.Link.Custody
import RadioLinks.Proofs.Secure.Traffic
import RadioLinks.Proofs.Link.Traffic
import RadioLinks.Proofs.Manager.Frame
import RadioLinks.Proofs.Manager.Traffic
import RadioLinks.Proofs.Manager.Coherence
import RadioLinks.Proofs.Radio.Tally
import RadioLinks.Proofs.Manager.Accounts
import RadioLinks.Proofs.Manager.FailedConnect
import RadioLinks.Proofs.Secure.Courses
import RadioLinks.Proofs.Secure.SendRules
import RadioLinks.Proofs.Secure.Receiving
import RadioLinks.Proofs.Manager.Parting
import RadioLinks.Proofs.Link.Steps
import RadioLinks.Proofs.Manager.Connecting
import RadioLinks.Proofs.Manager.Calm
import RadioLinks.Proofs.Demo.SetUp
import RadioLinks.Proofs.Demo.Exchanges
import RadioLinks.Proofs.Secure.Willing
import RadioLinks.Proofs.Secure.Resuming
import RadioLinks.Proofs.Waits.Wakes
import RadioLinks.Proofs.Secure.Codes
import RadioLinks.Proofs.Secure.Standing
import RadioLinks.Proofs.Manager.Sessions
import RadioLinks.Proofs.Manager.Codes
import RadioLinks.Proofs.Manager.Spared
import RadioLinks.Proofs.Manager.Reliance
import RadioLinks.Proofs.Manager.Standing
import RadioLinks.Proofs.Radio.Bystanders
import RadioLinks.Proofs.Manager.Isolation
import RadioLinks.Proofs.Waits.Latches
import RadioLinks.Proofs.Waits.Deadlines
import RadioLinks.Proofs.Waits.InFlight
import RadioLinks.Proofs.Waits.Parking
import RadioLinks.Proofs.Waits.Closing
import RadioLinks.Proofs.Manager.Round
import RadioLinks.Proofs.Manager.Peers
import RadioLinks.Proofs.Secure.Pace
import RadioLinks.Proofs.Secure.Renewal
import RadioLinks.Proofs.Manager.Stations
import RadioLinks.Proofs.Manager.Clocks
import RadioLinks.Proofs.Manager.LastSend
import RadioLinks.Proofs.Secure.Activity
import RadioLinks.Proofs.Manager.Idle
import RadioLinks.Proofs.Radio.Streams
import RadioLinks.Proofs.Secure.Streams
import RadioLinks.Proofs.Manager.Streams
import RadioLinks.Proofs.Link.Deadline
import RadioLinks.Proofs.Waits.History
import RadioLinks.Proofs.Waits.Planning
import RadioLinks.Proofs.Secure.Starving
import RadioLinks.Proofs.Link.Writing
import RadioLinks.Proofs.Config.Validation
import RadioLinks.Proofs.Waits.Permits
import RadioLinks.Proofs.Radio.Datagrams
import RadioLinks.Proofs.Radio.Openings
import RadioLinks.Proofs.Secure.Datagrams
import RadioLinks.Proofs.Manager.Datagrams
import RadioLinks.Proofs.Secure.Counting
import RadioLinks.Proofs.Manager.Counting
