import WindowedLsb.Config.Json
import WindowedLsb.FieldWindows
import WindowedLsb.Lint.Report
import WindowedLsb.Proofs.Reachable
import WindowedLsb.Proofs.Ring.Queue
import WindowedLsb.Proofs.Ring.Aggregates
import WindowedLsb.Proofs.Ring.Ledger
import WindowedLsb.Proofs.Ring.InsertionCursor
import WindowedLsb.Proofs.Ring.Repetition
import WindowedLsb.Proofs.Ring.Soundness
import WindowedLsb.Proofs.Interval
import WindowedLsb.Proofs.Coding
import WindowedLsb.Proofs.Decoding
import WindowedLsb.Proofs.Containment
import WindowedLsb.Proofs.Widening
import WindowedLsb.Proofs.RoundTrip
import WindowedLsb.Proofs.Cost
import WindowedLsb.Proofs.Acknowledged
import WindowedLsb.Proofs.Feedback
import WindowedLsb.Proofs.Context.Lockstep
import WindowedLsb.Proofs.Context.Nesting
import WindowedLsb.Proofs.Context.SteadyStream
import WindowedLsb.Proofs.Checked.Window
import WindowedLsb.Proofs.Lint.Report
import WindowedLsb.Proofs.Lint.Findings
import WindowedLsb.Proofs.Lint.HastyCalls
import WindowedLsb.Proofs.Lint.Phrases
import WindowedLsb.Proofs.Config.Json
import WindowedLsb.Proofs.Config.Format
