import Endpoint.Alias
import Endpoint.Build
import Endpoint.Client
import Endpoint.Client.Connection
import Endpoint.Client.Error
import Endpoint.Client.Exchange
import Endpoint.Client.Message
import Endpoint.Client.Script
import Endpoint.Command
import Endpoint.Command.Options
import Endpoint.Config
import Endpoint.Config.File
import Endpoint.Definition
import Endpoint.Definition.Json
import Endpoint.Diagnostic
import Endpoint.Disk.FileSystem
import Endpoint.Disk.Path
import Endpoint.Disk.Tree
import Endpoint.Emission.Client
import Endpoint.Emission.Method
import Endpoint.Emission.Serializer
import Endpoint.Emission.Unit
import Endpoint.Expansion
import Endpoint.Failure
import Endpoint.Github.Api
import Endpoint.Github.Data
import Endpoint.Hints
import Endpoint.Identity
import Endpoint.Imports
import Endpoint.Json
import Endpoint.Json.Decode
import Endpoint.Json.Entries
import Endpoint.Json.Pretty
import Endpoint.Json.Reader
import Endpoint.Layout.Expression
import Endpoint.Layout.Item
import Endpoint.Layout.Mark
import Endpoint.Layout.Page
import Endpoint.Layout.Parts
import Endpoint.Lowering.Client
import Endpoint.Lowering.Enumeration
import Endpoint.Lowering.Helper
import Endpoint.Lowering.Method
import Endpoint.Lowering.Returns
import Endpoint.Main
import Endpoint.Number.Binary
import Endpoint.Output
import Endpoint.Proofs.Build
import Endpoint.Proofs.Client.Appending
import Endpoint.Proofs.Client.Dispatch
import Endpoint.Proofs.Client.Origin
import Endpoint.Proofs.Client.Race
import Endpoint.Proofs.Client.Segments
import Endpoint.Proofs.Client.Target
import Endpoint.Proofs.Command
import Endpoint.Proofs.Command.DryRun
import Endpoint.Proofs.Diagnostic
import Endpoint.Proofs.Disk.FileSystem
import Endpoint.Proofs.Disk.ModulePath
import Endpoint.Proofs.Disk.Path
import Endpoint.Proofs.Disk.Tree
import Endpoint.Proofs.Emission.Coding
import Endpoint.Proofs.Emission.Ending
import Endpoint.Proofs.Emission.Hygiene
import Endpoint.Proofs.Emission.Naming
import Endpoint.Proofs.Emission.Plan
import Endpoint.Proofs.Emission.Reading
import Endpoint.Proofs.Emission.Serializer
import Endpoint.Proofs.Expansion
import Endpoint.Proofs.Expansion.Frame
import Endpoint.Proofs.Github.Requests
import Endpoint.Proofs.Hints
import Endpoint.Proofs.Hints.History
import Endpoint.Proofs.Imports
import Endpoint.Proofs.Imports.Relative
import Endpoint.Proofs.Imports.Respelling
import Endpoint.Proofs.Json.RoundTrip
import Endpoint.Proofs.Json.Sorted
import Endpoint.Proofs.Json.Text
import Endpoint.Proofs.Lowering.Acceptance
import Endpoint.Proofs.Lowering.Client
import Endpoint.Proofs.Lowering.ClientArguments
import Endpoint.Proofs.Lowering.FieldAliases
import Endpoint.Proofs.Lowering.Naming
import Endpoint.Proofs.Lowering.OwnNames
import Endpoint.Proofs.Lowering.Parameters
import Endpoint.Proofs.Lowering.Returns
import Endpoint.Proofs.Lowering.Roles
import Endpoint.Proofs.Outcome
import Endpoint.Proofs.Output.Copying
import Endpoint.Proofs.Output.Failing
import Endpoint.Proofs.Output.Removing
import Endpoint.Proofs.Output.Settling
import Endpoint.Proofs.Output.Writing
import Endpoint.Proofs.Query
import Endpoint.Proofs.Query.Escaping
import Endpoint.Proofs.Query.Pushes
import Endpoint.Proofs.Route
import Endpoint.Proofs.Route.Grammar
import Endpoint.Proofs.Route.Slice
import Endpoint.Proofs.Run.ClientNames
import Endpoint.Proofs.Run.Completeness
import Endpoint.Proofs.Run.DefaultNames
import Endpoint.Proofs.Run.InputOrder
import Endpoint.Proofs.Run.Isolation
import Endpoint.Proofs.Run.Processing
import Endpoint.Proofs.Run.Spelling
import Endpoint.Proofs.Scan
import Endpoint.Proofs.Scan.Declarations
import Endpoint.Proofs.Scan.Named
import Endpoint.Proofs.Scan.Places
import Endpoint.Proofs.Scan.Variation
import Endpoint.Proofs.Sorting
import Endpoint.Proofs.Source.Grammar.Expression
import Endpoint.Proofs.Source.Grammar.Item
import Endpoint.Proofs.Source.Grammar.Known
import Endpoint.Proofs.Source.Grammar.Literal
import Endpoint.Proofs.Source.Grammar.Path
import Endpoint.Proofs.Source.Grammar.Type
import Endpoint.Proofs.Source.Ident
import Endpoint.Proofs.Source.Lexer
import Endpoint.Proofs.Source.Name
import Endpoint.Proofs.Source.Parser
import Endpoint.Proofs.Source.Rereading.Attribute
import Endpoint.Proofs.Source.Rereading.Item
import Endpoint.Proofs.Source.Rereading.Plain
import Endpoint.Proofs.Source.Rereading.Signature
import Endpoint.Proofs.Source.Rereading.Statement
import Endpoint.Proofs.Source.Rereading.Type
import Endpoint.Proofs.Source.Running
import Endpoint.Proofs.Source.TypeNames
import Endpoint.Proofs.Symbols
import Endpoint.Proofs.Table
import Endpoint.Proofs.Text.Ascii
import Endpoint.Proofs.Text.Percent
import Endpoint.Proofs.Text.Quoted
import Endpoint.Proofs.Text.Split
import Endpoint.Proofs.Text.Utf8
import Endpoint.Proofs.Url.AddressFour
import Endpoint.Proofs.Url.AddressSix
import Endpoint.Proofs.Url.Again
import Endpoint.Proofs.Url.Authority
import Endpoint.Proofs.Url.Domain
import Endpoint.Proofs.Url.Dots
import Endpoint.Proofs.Url.Host
import Endpoint.Proofs.Url.Place
import Endpoint.Proofs.Url.Reading
import Endpoint.Proofs.Url.Segments
import Endpoint.Proofs.Url.Sound
import Endpoint.Proofs.Validation
import Endpoint.Proofs.Validation.Conditions
import Endpoint.Query
import Endpoint.Query.Value
import Endpoint.Route
import Endpoint.Run
import Endpoint.Scan
import Endpoint.Source.Declaration
import Endpoint.Source.Expression
import Endpoint.Source.Grammar
import Endpoint.Source.Grammar.Basic
import Endpoint.Source.Grammar.Expression
import Endpoint.Source.Grammar.Item
import Endpoint.Source.Grammar.Path
import Endpoint.Source.Grammar.Pattern
import Endpoint.Source.Grammar.Type
import Endpoint.Source.Lexer
import Endpoint.Source.Literal
import Endpoint.Source.Numeral
import Endpoint.Source.Parser
import Endpoint.Source.Phrase
import Endpoint.Source.Precedence
import Endpoint.Source.Token
import Endpoint.Source.Type
import Endpoint.SourceUnit
import Endpoint.SourceUnit.File
import Endpoint.Symbols
import Endpoint.Text.Base64
import Endpoint.Text.CodePoints
import Endpoint.Text.Identifier
import Endpoint.Text.LowerCase
import Endpoint.Text.Percent
import Endpoint.Text.Printable
import Endpoint.Text.Quoted
import Endpoint.Text.Split
import Endpoint.Text.Utf8
import Endpoint.Toml
import Endpoint.Toml.Reader
import Endpoint.Toml.Scalar
import Endpoint.Url
import Endpoint.Url.Domain
import Endpoint.Url.Domain.Composition
import Endpoint.Url.Domain.Direction
import Endpoint.Url.Domain.Joining
import Endpoint.Url.Domain.Mapping
import Endpoint.Url.Domain.Marks
import Endpoint.Url.Host
import Endpoint.Url.Punycode
import Endpoint.Validation
import Endpoint.Vocabulary
