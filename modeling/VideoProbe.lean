import VideoProbe.Text.Quoted
import VideoProbe.Text.Blank
import VideoProbe.Text.Utf8
import VideoProbe.Decimal.Shortest
import VideoProbe.Json.Record
import VideoProbe.Base64
import VideoProbe.Uuid
import VideoProbe.Instant
import VideoProbe.WebhookJob
import VideoProbe.Job.Backoff
import VideoProbe.Settings.Database
import VideoProbe.Settings.Server
import VideoProbe.Settings.Worker
import VideoProbe.Probe.Process
import VideoProbe.Admission
import VideoProbe.Http.Router
import VideoProbe.Worker.Run
import VideoProbe.Service
import VideoProbe.Main
import VideoProbe.Proofs.Admission
import VideoProbe.Proofs.Views
import VideoProbe.Proofs.Readback
import VideoProbe.Proofs.FirstView
import VideoProbe.Proofs.Shutdown
import VideoProbe.Proofs.Redirects
import VideoProbe.Proofs.Canonical
import VideoProbe.Proofs.Accepting
import VideoProbe.Proofs.Gate
import VideoProbe.Proofs.TokenEcho
import VideoProbe.Proofs.Written
import VideoProbe.Proofs.ErrorResponses
import VideoProbe.Proofs.Verdicts
import VideoProbe.Proofs.Projection
import VideoProbe.Proofs.Transactions
import VideoProbe.Proofs.Numerals
import VideoProbe.Proofs.Parsed
import VideoProbe.Proofs.RoundTrips
import VideoProbe.Proofs.Outcomes
import VideoProbe.Proofs.Failures
import VideoProbe.Proofs.ProbeOutput
import VideoProbe.Proofs.Threshold
import VideoProbe.Proofs.Retries
import VideoProbe.Proofs.PercentCodes
import VideoProbe.Proofs.Credentials
import VideoProbe.Proofs.UuidForms
import VideoProbe.Proofs.Sent
import VideoProbe.Proofs.Hindsight
import VideoProbe.Proofs.Respelling
import VideoProbe.Proofs.Marks
import VideoProbe.Proofs.AddressParts
import VideoProbe.Proofs.Unstorable
import VideoProbe.Proofs.AuthorityScan
import VideoProbe.Proofs.AddressReading
import VideoProbe.Proofs.WrittenHosts
import VideoProbe.Proofs.AddressWriting
import VideoProbe.Proofs.Undeliverable
