import RetryPolicy.Attempt
import RetryPolicy.Backoff
import RetryPolicy.Condition
import RetryPolicy.Event
import RetryPolicy.Expectation
import RetryPolicy.Header.AsctimeText
import RetryPolicy.Header.Canonical
import RetryPolicy.Header.ClockText
import RetryPolicy.Header.Fault
import RetryPolicy.Header.Format
import RetryPolicy.Header.ImfText
import RetryPolicy.Header.IsoText
import RetryPolicy.Header.Reader
import RetryPolicy.Header.Rfc850Text
import RetryPolicy.Header.Seconds
import RetryPolicy.Header.Stamp
import RetryPolicy.Json.Reader
import RetryPolicy.Json.Value
import RetryPolicy.Policy
import RetryPolicy.Response
import RetryPolicy.Settings
import RetryPolicy.Settings.Json
import RetryPolicy.StatusTable
import RetryPolicy.Text.Decimal
import RetryPolicy.Text.Letters
import RetryPolicy.Text.Quoted
import RetryPolicy.Text.Scan
import RetryPolicy.Text.Trim
import RetryPolicy.Text.Unprintable
import RetryPolicy.Time.Calendar
import RetryPolicy.Time.Civil
import RetryPolicy.Time.Instant
import RetryPolicy.Time.Span
import RetryPolicy.WaitLimit
import RetryPolicy.WaitRule
import RetryPolicy.Proofs.Clock
import RetryPolicy.Proofs.LimitedWait
import RetryPolicy.Proofs.HonoredWait
import RetryPolicy.Proofs.Shapes
import RetryPolicy.Proofs.FormatLists
import RetryPolicy.Proofs.AdvancingClock
import RetryPolicy.Proofs.BackoffDelays
import RetryPolicy.Proofs.Carriers
import RetryPolicy.Proofs.ChronologicalOrder
import RetryPolicy.Proofs.Delays
import RetryPolicy.Proofs.CanonicalDates
import RetryPolicy.Proofs.Layers
import RetryPolicy.Proofs.RetryCondition
import RetryPolicy.Proofs.RoundedLimit
import RetryPolicy.Proofs.JsonText
import RetryPolicy.Proofs.SettingsText
import RetryPolicy.Proofs.WrittenDates
import RetryPolicy.Proofs.ZonedDates
import RetryPolicy.Proofs.ConfirmedDates
import RetryPolicy.Proofs.IsoInstants
import RetryPolicy.Proofs.FirstFault
import RetryPolicy.Proofs.ReaderLog
import RetryPolicy.Proofs.ListedStatuses
import RetryPolicy.Proofs.SkippedOperands
import RetryPolicy.Proofs.JsonLexemes
import RetryPolicy.Proofs.JsonGrammar
import RetryPolicy.Proofs.SettingsFields
import RetryPolicy.Proofs.SurroundingSpace
import RetryPolicy.Proofs.PlainLog
import RetryPolicy.Proofs.FormatPatterns
import RetryPolicy.Proofs.CheckedSteps
import RetryPolicy.Proofs.FibonacciWords
import RetryPolicy.Proofs.WholeMillis
