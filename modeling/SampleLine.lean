import SampleLine.Main
import SampleLine.Proofs.Console.History
import SampleLine.Proofs.Hyphen.Plain
import SampleLine.Proofs.Options.Reading
import SampleLine.Proofs.Page.History
import SampleLine.Proofs.Hyphen.Continuation
import SampleLine.Proofs.Options.Continuation
import SampleLine.Proofs.Sample.Recognition
import SampleLine.Proofs.Session.Effects
import SampleLine.Proofs.Console.Simulation
import SampleLine.Proofs.Page.Construction
import SampleLine.Proofs.Text.Agreement
import SampleLine.Proofs.Page.Reporting
import SampleLine.Proofs.Page.Verbosity
import SampleLine.Proofs.Json.Lookahead
import SampleLine.Proofs.Json.Numerals
import SampleLine.Proofs.Json.ValueLookahead
import SampleLine.Proofs.Hyphen.Lookahead
import SampleLine.Proofs.Options.Lookahead
import SampleLine.Proofs.Hyphen.Scan
import SampleLine.Proofs.Page.Default
import SampleLine.Proofs.Page.Mirror
import SampleLine.Proofs.Hyphen.Marks
import SampleLine.Proofs.Text.Count
import SampleLine.Proofs.Hyphen.Accounting
import SampleLine.Proofs.Hyphen.Seams
import SampleLine.Proofs.Console.Padding
import SampleLine.Proofs.Options.Keys
import SampleLine.Proofs.Options.Slots
import SampleLine.Proofs.Options.Embedding
import SampleLine.Proofs.Json.Delimiting
import SampleLine.Proofs.Options.Order
import SampleLine.Proofs.Page.Routes
import SampleLine.Proofs.Json.Integers
import SampleLine.Proofs.Options.Integers
