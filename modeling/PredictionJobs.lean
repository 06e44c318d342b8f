import PredictionJobs.Binary64.Bits
import PredictionJobs.File.Tree
import PredictionJobs.Main
import PredictionJobs.Proofs.Command.Written
import PredictionJobs.Proofs.Entry
import PredictionJobs.Proofs.Settlement
import PredictionJobs.Proofs.Program.Conclusion
import PredictionJobs.Proofs.Program.Call
import PredictionJobs.Proofs.Program.ExitCode
import PredictionJobs.Proofs.Program.Presentation
import PredictionJobs.Proofs.Program.Requests
import PredictionJobs.Proofs.Program.ReportedError
import PredictionJobs.Proofs.Command.Arrangement
import PredictionJobs.Proofs.Command.Role
import PredictionJobs.Proofs.Settings
import PredictionJobs.Proofs.Json.Document
import PredictionJobs.Proofs.Json.Numeral
import PredictionJobs.Proofs.Json.NumeralReading
import PredictionJobs.Proofs.Json.Quotation
import PredictionJobs.Proofs.Json.Value
import PredictionJobs.Proofs.Json.Writer
import PredictionJobs.Proofs.Json.ReadBack
import PredictionJobs.Proofs.Documents
import PredictionJobs.Proofs.Command.HelpRequest
import PredictionJobs.Proofs.Command.NumericValue
import PredictionJobs.Proofs.Decoding
import PredictionJobs.Proofs.MemberOrder
import PredictionJobs.Proofs.Fallible
import PredictionJobs.Proofs.Json.Rewriting
import PredictionJobs.Proofs.Recoding
import PredictionJobs.Proofs.Json.Texts
import PredictionJobs.Proofs.Payload
import PredictionJobs.Proofs.Toml.Record
import PredictionJobs.Proofs.Settings.Document
import PredictionJobs.Proofs.Settings.Precedence
import PredictionJobs.Proofs.FailureText
import PredictionJobs.Proofs.Interruption
import PredictionJobs.Proofs.Binary64.Plain
import PredictionJobs.Proofs.Display.Report
import PredictionJobs.Proofs.Display.Table
import PredictionJobs.Proofs.Display.LeadingRows
import PredictionJobs.Proofs.Text.Joined
import PredictionJobs.Proofs.Command.Wording
import PredictionJobs.Proofs.Command.Entries
import PredictionJobs.Proofs.Binary64.Operation
import PredictionJobs.Proofs.Binary64.Shortest
import PredictionJobs.Proofs.Display.Rounding
import PredictionJobs.Proofs.Display.Decimals
