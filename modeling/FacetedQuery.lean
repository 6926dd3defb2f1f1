import FacetedQuery.Assembly
import FacetedQuery.Calendar.Date
import FacetedQuery.Calendar.Gregorian
import FacetedQuery.Clause
import FacetedQuery.CommandLine.Arguments
import FacetedQuery.CommandLine.Program
import FacetedQuery.Constraint
import FacetedQuery.Constraint.Document
import FacetedQuery.ConstraintBlock
import FacetedQuery.Decimal.Digits
import FacetedQuery.Decimal.Notation
import FacetedQuery.Decimal.Reading
import FacetedQuery.Decimal.Shortest
import FacetedQuery.Endpoint.Exchange
import FacetedQuery.Endpoint.Target
import FacetedQuery.Event
import FacetedQuery.Facet
import FacetedQuery.Facet.Document
import FacetedQuery.Fault
import FacetedQuery.Filter
import FacetedQuery.Json.Fields
import FacetedQuery.Json.Layout
import FacetedQuery.Json.Lexeme
import FacetedQuery.Json.Numeral
import FacetedQuery.Json.Reader
import FacetedQuery.Json.Value
import FacetedQuery.Main
import FacetedQuery.Page
import FacetedQuery.Portal
import FacetedQuery.Portal.Document
import FacetedQuery.Portal.Manuscripts
import FacetedQuery.Portal.Validation
import FacetedQuery.Proofs.Assembly.Absent
import FacetedQuery.Proofs.Assembly.Acceptance
import FacetedQuery.Proofs.Assembly.Agreement
import FacetedQuery.Proofs.Assembly.Layout
import FacetedQuery.Proofs.Assembly.Listings
import FacetedQuery.Proofs.Assembly.NormalForm
import FacetedQuery.Proofs.Assembly.Outcomes
import FacetedQuery.Proofs.Assembly.Pages
import FacetedQuery.Proofs.Assembly.Periods
import FacetedQuery.Proofs.Assembly.Presentable
import FacetedQuery.Proofs.Assembly.Queries
import FacetedQuery.Proofs.Assembly.Unchecked
import FacetedQuery.Proofs.Calendar.Reading
import FacetedQuery.Proofs.Calendar.Years
import FacetedQuery.Proofs.Clause.Bags
import FacetedQuery.Proofs.Clause.Bare
import FacetedQuery.Proofs.Clause.Conditions
import FacetedQuery.Proofs.Clause.Decoding
import FacetedQuery.Proofs.Clause.Elements
import FacetedQuery.Proofs.Clause.Halting
import FacetedQuery.Proofs.Clause.Lines
import FacetedQuery.Proofs.Clause.Pieces
import FacetedQuery.Proofs.Clause.Reading
import FacetedQuery.Proofs.Clause.Refusal
import FacetedQuery.Proofs.Clause.RoundTrip
import FacetedQuery.Proofs.Clause.Semantics
import FacetedQuery.Proofs.Clause.Spelling
import FacetedQuery.Proofs.Clause.Wording
import FacetedQuery.Proofs.Constraint.Document
import FacetedQuery.Proofs.ConstraintBlock.Bare
import FacetedQuery.Proofs.ConstraintBlock.Composition
import FacetedQuery.Proofs.ConstraintBlock.Demand
import FacetedQuery.Proofs.ConstraintBlock.Facets
import FacetedQuery.Proofs.ConstraintBlock.Injection
import FacetedQuery.Proofs.ConstraintBlock.Label
import FacetedQuery.Proofs.ConstraintBlock.Legible
import FacetedQuery.Proofs.ConstraintBlock.Meaning
import FacetedQuery.Proofs.ConstraintBlock.Outline
import FacetedQuery.Proofs.ConstraintBlock.Refusal
import FacetedQuery.Proofs.ConstraintBlock.Restriction
import FacetedQuery.Proofs.ConstraintBlock.Rows
import FacetedQuery.Proofs.ConstraintBlock.Sealed
import FacetedQuery.Proofs.ConstraintBlock.Spelling
import FacetedQuery.Proofs.ConstraintBlock.Suffix
import FacetedQuery.Proofs.ConstraintBlock.Tally
import FacetedQuery.Proofs.ConstraintBlock.TimeBounds
import FacetedQuery.Proofs.ConstraintBlock.Values
import FacetedQuery.Proofs.ConstraintBlock.Ways
import FacetedQuery.Proofs.Decimal.Digits
import FacetedQuery.Proofs.Decimal.Finite
import FacetedQuery.Proofs.Decimal.Nearest
import FacetedQuery.Proofs.Decimal.Overflow
import FacetedQuery.Proofs.Decimal.Spelling
import FacetedQuery.Proofs.Endpoint.Excerpt
import FacetedQuery.Proofs.Json.Fields
import FacetedQuery.Proofs.Json.Numeral
import FacetedQuery.Proofs.Json.Reading
import FacetedQuery.Proofs.Objects.Arrangement
import FacetedQuery.Proofs.Objects.Grouping
import FacetedQuery.Proofs.Objects.Identity
import FacetedQuery.Proofs.Objects.Nodes
import FacetedQuery.Proofs.Objects.Rows
import FacetedQuery.Proofs.Outcome
import FacetedQuery.Proofs.Page.Order
import FacetedQuery.Proofs.Page.Tiling
import FacetedQuery.Proofs.Page.Window
import FacetedQuery.Proofs.Portal.Apart
import FacetedQuery.Proofs.Portal.Capture
import FacetedQuery.Proofs.Portal.Classes
import FacetedQuery.Proofs.Portal.Document
import FacetedQuery.Proofs.Portal.Links
import FacetedQuery.Proofs.Portal.Listings
import FacetedQuery.Proofs.Portal.Paths
import FacetedQuery.Proofs.Portal.Requests
import FacetedQuery.Proofs.Portal.Validation
import FacetedQuery.Proofs.Portal.Vocabulary
import FacetedQuery.Proofs.Rdf.Iri
import FacetedQuery.Proofs.Record.Arrival
import FacetedQuery.Proofs.Record.Invariant
import FacetedQuery.Proofs.Record.Keyed
import FacetedQuery.Proofs.Record.Likeness
import FacetedQuery.Proofs.Record.Texts
import FacetedQuery.Proofs.Record.Union
import FacetedQuery.Proofs.Results.Coordinates
import FacetedQuery.Proofs.Results.Ends
import FacetedQuery.Proofs.Results.Faults
import FacetedQuery.Proofs.Results.Flaws
import FacetedQuery.Proofs.Results.Network
import FacetedQuery.Proofs.Results.Refused
import FacetedQuery.Proofs.Results.Shape
import FacetedQuery.Proofs.Search.Calls
import FacetedQuery.Proofs.Search.Lookup
import FacetedQuery.Proofs.Search.Network
import FacetedQuery.Proofs.Search.Steps
import FacetedQuery.Proofs.Search.Validated
import FacetedQuery.Proofs.Sparql.Border
import FacetedQuery.Proofs.Sparql.Contents
import FacetedQuery.Proofs.Sparql.Escape
import FacetedQuery.Proofs.Sparql.Group
import FacetedQuery.Proofs.Sparql.Lexeme
import FacetedQuery.Proofs.Sparql.Lexing
import FacetedQuery.Proofs.Sparql.Namespace
import FacetedQuery.Proofs.Sparql.Nesting
import FacetedQuery.Proofs.Sparql.Path
import FacetedQuery.Proofs.Sparql.PathForm
import FacetedQuery.Proofs.Sparql.Query
import FacetedQuery.Proofs.Sparql.Reader
import FacetedQuery.Proofs.Sparql.Select
import FacetedQuery.Proofs.Sparql.Spelling
import FacetedQuery.Proofs.Sparql.Splitting
import FacetedQuery.Proofs.Sparql.Verb
import FacetedQuery.Proofs.Template.Filling
import FacetedQuery.Proofs.Template.Frame
import FacetedQuery.Proofs.Template.Holds
import FacetedQuery.Proofs.Template.Layout
import FacetedQuery.Proofs.Template.Lines
import FacetedQuery.Proofs.Template.Occurrences
import FacetedQuery.Proofs.Template.Part
import FacetedQuery.Proofs.Template.Passage
import FacetedQuery.Proofs.Template.Piece
import FacetedQuery.Proofs.Template.Placeholder
import FacetedQuery.Proofs.Template.Places
import FacetedQuery.Proofs.Template.Sheet
import FacetedQuery.Proofs.Template.Substitution
import FacetedQuery.Proofs.Text.Borders
import FacetedQuery.Proofs.Text.Bytes
import FacetedQuery.Proofs.Text.Context
import FacetedQuery.Proofs.Text.Decoding
import FacetedQuery.Proofs.Text.Dense
import FacetedQuery.Proofs.Text.Lines
import FacetedQuery.Proofs.Text.Lowercase
import FacetedQuery.Rdf.HostAddress
import FacetedQuery.Rdf.Iri
import FacetedQuery.Rdf.LanguageTag
import FacetedQuery.Rdf.Name
import FacetedQuery.Rdf.Term
import FacetedQuery.Record
import FacetedQuery.Request
import FacetedQuery.Response
import FacetedQuery.Results.Column
import FacetedQuery.Results.Listing
import FacetedQuery.Results.Network
import FacetedQuery.Results.Objects
import FacetedQuery.Results.Places
import FacetedQuery.Search
import FacetedQuery.Solution
import FacetedQuery.Solution.Document
import FacetedQuery.Sparql.Builtin
import FacetedQuery.Sparql.Grammar.Expression
import FacetedQuery.Sparql.Grammar.Group
import FacetedQuery.Sparql.Grammar.Path
import FacetedQuery.Sparql.Grammar.Query
import FacetedQuery.Sparql.Grammar.Triples
import FacetedQuery.Sparql.Label
import FacetedQuery.Sparql.Prologue
import FacetedQuery.Sparql.Reader
import FacetedQuery.Sparql.Scope
import FacetedQuery.Sparql.Syntax
import FacetedQuery.Sparql.Token
import FacetedQuery.Template
import FacetedQuery.Template.Queries
import FacetedQuery.Text.Blank
import FacetedQuery.Text.Brace
import FacetedQuery.Text.CaseTable
import FacetedQuery.Text.Form
import FacetedQuery.Text.Lowercase
import FacetedQuery.Text.Utf8
