import CallGuard.Main
import CallGuard.Config.Encode
import CallGuard.Context.Tree
import CallGuard.Retry.Policy
import CallGuard.Proofs.Breaker.Recovery
import CallGuard.Proofs.Breaker.Threshold
import CallGuard.Proofs.Breaker.CoolDown
import CallGuard.Proofs.Breaker.Observation
import CallGuard.Proofs.Registry
import CallGuard.Proofs.Retry.Attempts
import CallGuard.Proofs.Retry.Cancellation
import CallGuard.Proofs.Fault
import CallGuard.Proofs.Retry.Nested
import CallGuard.Proofs.Breaker.Availability
import CallGuard.Proofs.Breaker.Memory
import CallGuard.Proofs.Transport.Client
import CallGuard.Proofs.Retry.Agreement
import CallGuard.Proofs.Breaker.Refusals
import CallGuard.Proofs.Breaker.Sequential
import CallGuard.Proofs.Binary64.Rounding
import CallGuard.Proofs.Text.Numeral
import CallGuard.Proofs.Binary64.Shortest
import CallGuard.Proofs.Binary64.Layout
import CallGuard.Proofs.Toml.Quote
import CallGuard.Proofs.Toml.Scalar
import CallGuard.Proofs.Toml.Document
import CallGuard.Proofs.Toml.Tree
import CallGuard.Proofs.Config.Encoding
import CallGuard.Proofs.Config.RoundTrip
import CallGuard.Proofs.Fault.Classification
import CallGuard.Proofs.Retry.Deadline
import CallGuard.Proofs.Context.Pedigree
import CallGuard.Proofs.Context.Tree
import CallGuard.Proofs.Binary64.Value
import CallGuard.Proofs.Config.Validity
import CallGuard.Proofs.Config.Effect
import CallGuard.Proofs.Toml.Keys
import CallGuard.Proofs.Config.Parts
import CallGuard.Proofs.Toml.Reordered
import CallGuard.Proofs.Config.Overlay
import CallGuard.Proofs.Program.Simulation
import CallGuard.Proofs.Duration.Words
import CallGuard.Proofs.Backoff.Linear
import CallGuard.Proofs.Binary64.Monotone
import CallGuard.Proofs.Duration.Seconds
import CallGuard.Proofs.Backoff.Cap
import CallGuard.Proofs.Binary64.Power
import CallGuard.Proofs.Backoff.Doubling
import CallGuard.Proofs.Backoff.Jitter
import CallGuard.Proofs.Net.Host
import CallGuard.Proofs.Net.Url
import CallGuard.Proofs.Transport.Dependency
