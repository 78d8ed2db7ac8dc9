import Ripple.Call.Dispatch
import Ripple.Call.Inlining
import Ripple.Code.Statement
import Ripple.Code.TypeDecl
import Ripple.Codebase
import Ripple.Codebase.Inheritance
import Ripple.CommandLine.Arguments
import Ripple.CommandLine.Run
import Ripple.CommandLine.Task
import Ripple.Decimal.Shortest
import Ripple.Diagram.Fragment
import Ripple.Exchange.Code
import Ripple.Exchange.Diagram
import Ripple.Exchange.Settings
import Ripple.Failure
import Ripple.Flow.Commands
import Ripple.Flow.Extraction
import Ripple.Flow.Journal
import Ripple.Flow.Walk
import Ripple.Folder
import Ripple.Json
import Ripple.Json.Decode
import Ripple.Json.Numeral
import Ripple.Json.Outline
import Ripple.Main
import Ripple.Messaging.Handler
import Ripple.Messaging.Profile
import Ripple.Name
import Ripple.Notice
import Ripple.Pattern
import Ripple.Pattern.CharSet
import Ripple.Pattern.Property
import Ripple.Pattern.Reader
import Ripple.Proofs.Code.Path
import Ripple.Proofs.Code.Statement
import Ripple.Settings
import Ripple.Settings.Document
import Ripple.Settings.Stored
import Ripple.Storage
import Ripple.Text.Shown
import Ripple.Toml.Document
import Ripple.Toml.Layout
import Ripple.Toml.Quoted
import Ripple.Toml.Reader
import Ripple.Toml.Scalar
import Ripple.Unicode.Category
import Ripple.Unicode.Folding
import Ripple.Unicode.Property
import Ripple.Unicode.Ranges
import Ripple.Unicode.Script
import Ripple.Workspace
import Ripple.Proofs.Call.Landing
import Ripple.Proofs.Flow.Distilled
import Ripple.Proofs.Flow.Induction
import Ripple.Proofs.Diagram.Drawing
import Ripple.Proofs.Flow.Drawn
import Ripple.Proofs.Flow.Published
import Ripple.Proofs.Flow.Chain
import Ripple.Proofs.Flow.FullInlining
import Ripple.Proofs.Code.Size
import Ripple.Proofs.Flow.Termination
import Ripple.Proofs.Flow.Invariant
import Ripple.Proofs.Flow.Participants
import Ripple.Proofs.Flow.Entries
import Ripple.Proofs.Flow.Activation
import Ripple.Proofs.Flow.DepthLimit
import Ripple.Proofs.Flow.InPlace
import Ripple.Proofs.Diagram.Groups
import Ripple.Proofs.Flow.Grouping
import Ripple.Proofs.Call.Redirect
import Ripple.Proofs.Code.Mapping
import Ripple.Proofs.Codebase.Embedding
import Ripple.Proofs.Flow.Transport
import Ripple.Proofs.Codebase.Order
import Ripple.Proofs.Codebase.Repeated
import Ripple.Proofs.Codebase.Ancestry
import Ripple.Proofs.Codebase.Members
import Ripple.Proofs.Codebase.Repopulation
import Ripple.Proofs.Flow.CommandDiagrams
import Ripple.Proofs.Exchange.RoundTrip
import Ripple.Proofs.Settings.Document
import Ripple.Proofs.Settings.Stored
import Ripple.Proofs.Flow.CycleGuard
import Ripple.Proofs.Codebase.InAnyOrder
import Ripple.Proofs.Call.Search
import Ripple.Proofs.Flow.Caller
import Ripple.Proofs.Call.Exclusion
import Ripple.Proofs.Codebase.Origins
import Ripple.Proofs.Messaging.EventHandling
import Ripple.Proofs.Flow.Continuity
import Ripple.Proofs.Flow.Tenure
