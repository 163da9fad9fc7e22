import Alerting.Main
import Alerting.Proofs.Command.Monotone
import Alerting.Proofs.Command.Verdict
import Alerting.Proofs.Definition.Grammar
import Alerting.Proofs.Definition.RoundTrip
import Alerting.Proofs.Command.Inputs
import Alerting.Proofs.Command.Nested
import Alerting.Proofs.Json.Pretty
import Alerting.Proofs.Time.Text
import Alerting.Proofs.Json.Written
import Alerting.Proofs.Sample.RoundTrip
import Alerting.Proofs.Json.Valid
import Alerting.Proofs.Json.Yields
import Alerting.Proofs.Sample.Accepted
import Alerting.Proofs.Definition.FirstFault
import Alerting.Proofs.Command.Evidence
import Alerting.Proofs.Command.MissingData
import Alerting.Proofs.CommandLine.Arguments
import Alerting.Proofs.CommandLine.Run
import Alerting.Proofs.Command.Rearranged
import Alerting.Proofs.Command.Loosened
import Alerting.Proofs.CommandLine.Lines
import Alerting.Proofs.Condition.Shuffled
import Alerting.Proofs.Reducer.Attained
import Alerting.Proofs.Reducer.Average
import Alerting.Proofs.Settings
import Alerting.Proofs.Definition.Unread
import Alerting.Proofs.Condition.Complement
import Alerting.Proofs.Labels
