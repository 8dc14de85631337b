import TrafficMeter.Assoc
import TrafficMeter.Auth.Accounts
import TrafficMeter.Auth.Credentials
import TrafficMeter.Decimal.Binary
import TrafficMeter.Decimal.Layout
import TrafficMeter.Decimal.Numeral
import TrafficMeter.Decimal.Reading
import TrafficMeter.Decimal.Shortest
import TrafficMeter.Demo
import TrafficMeter.Error
import TrafficMeter.Http.Body
import TrafficMeter.Http.Headers
import TrafficMeter.Http.MediaType
import TrafficMeter.Http.Request
import TrafficMeter.Http.Size
import TrafficMeter.Http.Target
import TrafficMeter.Json.Cursor
import TrafficMeter.Json.Number
import TrafficMeter.Json.Reader
import TrafficMeter.Json.Strings
import TrafficMeter.Json.Value
import TrafficMeter.Metric.Label
import TrafficMeter.Metric.Name
import TrafficMeter.Metric.Page
import TrafficMeter.Metric.Registry
import TrafficMeter.Metric.Samples
import TrafficMeter.Metric.Series
import TrafficMeter.Metric.Sketch
import TrafficMeter.Routing.Bundle
import TrafficMeter.Routing.Bundle.Lemmas
import TrafficMeter.Routing.Clash
import TrafficMeter.Routing.Handler
import TrafficMeter.Routing.MethodTable
import TrafficMeter.Routing.Pattern
import TrafficMeter.Routing.RequestMeter
import TrafficMeter.Routing.Router
import TrafficMeter.Routing.Service
import TrafficMeter.Settings.Environment
import TrafficMeter.Settings.Key
import TrafficMeter.Settings.Load
import TrafficMeter.Settings.Node
import TrafficMeter.Settings.Scalar
import TrafficMeter.Text.Base64
import TrafficMeter.Text.Bytes
import TrafficMeter.Text.Percent
import TrafficMeter.Text.Printable
import TrafficMeter.Text.Quoted
import TrafficMeter.Text.Split
import TrafficMeter.Text.Token
import TrafficMeter.Traffic.Collectors
import TrafficMeter.Traffic.Event
import TrafficMeter.Traffic.Response
import TrafficMeter.Traffic.Telemetry
import TrafficMeter.Proofs.Attempts
import TrafficMeter.Proofs.Auth.Reading
import TrafficMeter.Proofs.Decimal.NumberTexts
import TrafficMeter.Proofs.Decimal.Numerals
import TrafficMeter.Proofs.Decimal.Rounding
import TrafficMeter.Proofs.Decimal.Spelling
import TrafficMeter.Proofs.Demo.Dispatch
import TrafficMeter.Proofs.Demo.Greetings
import TrafficMeter.Proofs.Http.Admission
import TrafficMeter.Proofs.Http.DeclaredLength
import TrafficMeter.Proofs.Http.FieldList
import TrafficMeter.Proofs.Metric.Alike
import TrafficMeter.Proofs.Metric.Calls
import TrafficMeter.Proofs.Metric.Cells
import TrafficMeter.Proofs.Metric.Collisions
import TrafficMeter.Proofs.Metric.Pages
import TrafficMeter.Proofs.Metric.Readback
import TrafficMeter.Proofs.Metric.Tables
import TrafficMeter.Proofs.Metric.WellFormed
import TrafficMeter.Proofs.Routing.Account
import TrafficMeter.Proofs.Routing.Coverage
import TrafficMeter.Proofs.Routing.Effects
import TrafficMeter.Proofs.Routing.Exchanges
import TrafficMeter.Proofs.Routing.ExporterPath
import TrafficMeter.Proofs.Routing.Fleet
import TrafficMeter.Proofs.Routing.Gate
import TrafficMeter.Proofs.Routing.Insertion
import TrafficMeter.Proofs.Routing.Isolation
import TrafficMeter.Proofs.Routing.Metering
import TrafficMeter.Proofs.Routing.Mounting
import TrafficMeter.Proofs.Routing.OwnPaths
import TrafficMeter.Proofs.Routing.Patterns
import TrafficMeter.Proofs.Routing.RequestSize
import TrafficMeter.Proofs.Routing.Roster
import TrafficMeter.Proofs.Routing.Scraping
import TrafficMeter.Proofs.Routing.SentCredentials
import TrafficMeter.Proofs.Routing.Services
import TrafficMeter.Proofs.Routing.Shapes
import TrafficMeter.Proofs.Routing.Transparency
import TrafficMeter.Proofs.Routing.Twins
import TrafficMeter.Proofs.Routing.Unseen
import TrafficMeter.Proofs.Routing.UsableAccounts
import TrafficMeter.Proofs.Routing.Works
import TrafficMeter.Proofs.Settings.Independence
import TrafficMeter.Proofs.Settings.Keys
import TrafficMeter.Proofs.Settings.Overrides
import TrafficMeter.Proofs.Settings.Ports
import TrafficMeter.Proofs.Settings.Protection
import TrafficMeter.Proofs.Settings.QuantileLists
import TrafficMeter.Proofs.Settings.Trees
import TrafficMeter.Proofs.Settings.Verbatim
import TrafficMeter.Proofs.Text.Decoding
import TrafficMeter.Proofs.Traffic.Claims
import TrafficMeter.Proofs.Traffic.Concurrency
import TrafficMeter.Proofs.Traffic.Counts
import TrafficMeter.Proofs.Traffic.Headings
import TrafficMeter.Proofs.Traffic.Owed
import TrafficMeter.Proofs.Traffic.Places
import TrafficMeter.Proofs.Traffic.PrintedNames
import TrafficMeter.Proofs.Traffic.Quantiles
import TrafficMeter.Proofs.Traffic.Readings
import TrafficMeter.Proofs.Traffic.Recorder
import TrafficMeter.Proofs.Traffic.Recording
import TrafficMeter.Proofs.Traffic.Registration
import TrafficMeter.Proofs.Traffic.Scrape
import TrafficMeter.Proofs.Traffic.Subsystems
