import BraceTemplate.Context
import BraceTemplate.Context.Script
import BraceTemplate.Engine.Basic
import BraceTemplate.Error
import BraceTemplate.Error.Json
import BraceTemplate.Host.Filter
import BraceTemplate.Host.Function
import BraceTemplate.Host.Helper
import BraceTemplate.Json.Basic
import BraceTemplate.Json.Parser
import BraceTemplate.Json.Printer
import BraceTemplate.Json.Record
import BraceTemplate.Loading.FileTree
import BraceTemplate.Loading.Loader
import BraceTemplate.Members
import BraceTemplate.Numeral.Layout
import BraceTemplate.Numeral.Magnitude
import BraceTemplate.Numeral.Reading
import BraceTemplate.Output.Delivery
import BraceTemplate.Output.Observer
import BraceTemplate.Output.Outlet
import BraceTemplate.Output.Script
import BraceTemplate.Output.Store
import BraceTemplate.Output.Writer
import BraceTemplate.Program.Basic
import BraceTemplate.Program.Compile
import BraceTemplate.Program.Json
import BraceTemplate.Proofs.Grammar.Expression
import BraceTemplate.Proofs.Grammar.Following
import BraceTemplate.Proofs.Grammar.Naturality
import BraceTemplate.Proofs.Grammar.Readers
import BraceTemplate.Proofs.Grammar.Template
import BraceTemplate.Proofs.Json.Conversions
import BraceTemplate.Proofs.Json.ReadBack
import BraceTemplate.Proofs.Loading.Confinement
import BraceTemplate.Proofs.Output.Accounts
import BraceTemplate.Proofs.Output.Awaited
import BraceTemplate.Proofs.Output.Branches
import BraceTemplate.Proofs.Output.Capturing
import BraceTemplate.Proofs.Output.Changes
import BraceTemplate.Proofs.Output.Clients
import BraceTemplate.Proofs.Output.Collecting
import BraceTemplate.Proofs.Output.Company
import BraceTemplate.Proofs.Output.Debts
import BraceTemplate.Proofs.Output.Failures
import BraceTemplate.Proofs.Output.Fates
import BraceTemplate.Proofs.Output.ForkTree
import BraceTemplate.Proofs.Output.Gathering
import BraceTemplate.Proofs.Output.Handles
import BraceTemplate.Proofs.Output.Keeping
import BraceTemplate.Proofs.Output.Ledgers
import BraceTemplate.Proofs.Output.Lifetimes
import BraceTemplate.Proofs.Output.Links
import BraceTemplate.Proofs.Output.Listening
import BraceTemplate.Proofs.Output.Operations
import BraceTemplate.Proofs.Output.Places
import BraceTemplate.Proofs.Output.Promises
import BraceTemplate.Proofs.Output.Protocol
import BraceTemplate.Proofs.Output.Reacting
import BraceTemplate.Proofs.Output.Rounds
import BraceTemplate.Proofs.Output.Runs
import BraceTemplate.Proofs.Output.Segments
import BraceTemplate.Proofs.Output.Taps
import BraceTemplate.Proofs.Output.Twins
import BraceTemplate.Proofs.Output.Unwritten
import BraceTemplate.Proofs.Output.Uses
import BraceTemplate.Proofs.Program.Accounting
import BraceTemplate.Proofs.Program.Defining
import BraceTemplate.Proofs.Program.Everywhere
import BraceTemplate.Proofs.Program.Filters
import BraceTemplate.Proofs.Program.Forest
import BraceTemplate.Proofs.Program.LastDefinition
import BraceTemplate.Proofs.Program.Laying
import BraceTemplate.Proofs.Program.MainBodies
import BraceTemplate.Proofs.Program.NormalForm
import BraceTemplate.Proofs.Program.Quoting
import BraceTemplate.Proofs.Program.Tidying
import BraceTemplate.Proofs.Reading.Cases
import BraceTemplate.Proofs.Reading.Documents
import BraceTemplate.Proofs.Reading.EndTags
import BraceTemplate.Proofs.Reading.Extents
import BraceTemplate.Proofs.Reading.Lines
import BraceTemplate.Proofs.Reading.Names
import BraceTemplate.Proofs.Reading.Paths
import BraceTemplate.Proofs.Reading.Placement
import BraceTemplate.Proofs.Reading.Positions
import BraceTemplate.Proofs.Reading.Quotations
import BraceTemplate.Proofs.Reading.QuoteEscapes
import BraceTemplate.Proofs.Reading.References
import BraceTemplate.Proofs.Reading.Seams
import BraceTemplate.Proofs.Reading.Spelling
import BraceTemplate.Proofs.Reading.TagSeams
import BraceTemplate.Proofs.Reading.TagShape
import BraceTemplate.Proofs.Reading.Tags
import BraceTemplate.Proofs.Reading.TextInFront
import BraceTemplate.Proofs.Reading.Unbounded
import BraceTemplate.Proofs.Reading.Unexpected
import BraceTemplate.Proofs.Reading.Verbatim
import BraceTemplate.Proofs.Render.Accord
import BraceTemplate.Proofs.Render.Agreement
import BraceTemplate.Proofs.Render.Allowing
import BraceTemplate.Proofs.Render.Answering
import BraceTemplate.Proofs.Render.Blocks
import BraceTemplate.Proofs.Render.Branching
import BraceTemplate.Proofs.Render.Bringing
import BraceTemplate.Proofs.Render.Chains
import BraceTemplate.Proofs.Render.Coinciding
import BraceTemplate.Proofs.Render.Completion
import BraceTemplate.Proofs.Render.Conditions
import BraceTemplate.Proofs.Render.Delivering
import BraceTemplate.Proofs.Render.Enclosures
import BraceTemplate.Proofs.Render.EntryPoints
import BraceTemplate.Proofs.Render.Escaping
import BraceTemplate.Proofs.Render.Evaluation
import BraceTemplate.Proofs.Render.Extending
import BraceTemplate.Proofs.Render.FirstMatch
import BraceTemplate.Proofs.Render.Following
import BraceTemplate.Proofs.Render.Halting
import BraceTemplate.Proofs.Render.Handles
import BraceTemplate.Proofs.Render.Histories
import BraceTemplate.Proofs.Render.Holding
import BraceTemplate.Proofs.Render.Hosting
import BraceTemplate.Proofs.Render.Inclusion
import BraceTemplate.Proofs.Render.Infallible
import BraceTemplate.Proofs.Render.Interpolating
import BraceTemplate.Proofs.Render.Keeping
import BraceTemplate.Proofs.Render.Lengths
import BraceTemplate.Proofs.Render.Likeness
import BraceTemplate.Proofs.Render.Lookups
import BraceTemplate.Proofs.Render.Matching
import BraceTemplate.Proofs.Render.Mirroring
import BraceTemplate.Proofs.Render.Muffling
import BraceTemplate.Proofs.Render.Muting
import BraceTemplate.Proofs.Render.Nesting
import BraceTemplate.Proofs.Render.OwnKeys
import BraceTemplate.Proofs.Render.Ownership
import BraceTemplate.Proofs.Render.Parameters
import BraceTemplate.Proofs.Render.Plain
import BraceTemplate.Proofs.Render.Progress
import BraceTemplate.Proofs.Render.Refinement
import BraceTemplate.Proofs.Render.Resolving
import BraceTemplate.Proofs.Render.Respecting
import BraceTemplate.Proofs.Render.Scoping
import BraceTemplate.Proofs.Render.SelectKeys
import BraceTemplate.Proofs.Render.Separators
import BraceTemplate.Proofs.Render.Sessions
import BraceTemplate.Proofs.Render.Shadowing
import BraceTemplate.Proofs.Render.Simulation
import BraceTemplate.Proofs.Render.Stepping
import BraceTemplate.Proofs.Render.Telling
import BraceTemplate.Proofs.Render.Tending
import BraceTemplate.Proofs.Render.Termination
import BraceTemplate.Proofs.Render.Terms
import BraceTemplate.Proofs.Render.Threading
import BraceTemplate.Proofs.Render.Transparency
import BraceTemplate.Proofs.Render.Unwrapping
import BraceTemplate.Proofs.Render.Values
import BraceTemplate.Proofs.Render.Verbatim
import BraceTemplate.Proofs.Render.Walking
import BraceTemplate.Proofs.Render.Watched
import BraceTemplate.Proofs.Scanning.Backtracking
import BraceTemplate.Proofs.Scanning.Derivations
import BraceTemplate.Proofs.Scanning.Faults
import BraceTemplate.Proofs.Scanning.Halting
import BraceTemplate.Proofs.Scanning.Places
import BraceTemplate.Proofs.Scanning.Readings
import BraceTemplate.Proofs.Scanning.Routine
import BraceTemplate.Proofs.Scanning.Template
import BraceTemplate.Proofs.Scanning.Verdicts
import BraceTemplate.Proofs.Text.Delimiters
import BraceTemplate.Proofs.Text.Escapes
import BraceTemplate.Proofs.Text.Literals
import BraceTemplate.Proofs.Text.Splitting
import BraceTemplate.Reading.Document
import BraceTemplate.Reading.Name
import BraceTemplate.Reading.Quoted
import BraceTemplate.Reading.Reference
import BraceTemplate.Reading.Tag
import BraceTemplate.Render.Compare
import BraceTemplate.Render.Entry
import BraceTemplate.Render.Filter
import BraceTemplate.Render.Helper
import BraceTemplate.Render.Host
import BraceTemplate.Render.Op
import BraceTemplate.Render.Params
import BraceTemplate.Render.Run
import BraceTemplate.Render.Script
import BraceTemplate.Render.State
import BraceTemplate.Render.Template
import BraceTemplate.Source.Cursor
import BraceTemplate.Source.Place
import BraceTemplate.Template.Json
import BraceTemplate.Template.Node
import BraceTemplate.Template.Tidy
import BraceTemplate.Text.Escaping
import BraceTemplate.Text.Transform
import BraceTemplate.Text.Visible
import BraceTemplate.Value.Basic
import BraceTemplate.Value.Host
