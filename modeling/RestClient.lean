import RestClient.Client.Call
import RestClient.Client.ClientType
import RestClient.Client.Contribution
import RestClient.Client.Converter
import RestClient.Client.ConverterKind
import RestClient.Client.ConverterPlan
import RestClient.Client.Emission
import RestClient.Client.Expansion
import RestClient.Client.FreshName
import RestClient.Client.Locals
import RestClient.Client.MethodPlan
import RestClient.Client.RequestPlan
import RestClient.Client.TypeSchema
import RestClient.Code.Attribute
import RestClient.Code.Expr
import RestClient.Code.ExprParser
import RestClient.Code.Grammar
import RestClient.Code.Lexer
import RestClient.Code.Literal
import RestClient.Code.Parser
import RestClient.Code.PatternParser
import RestClient.Code.Token
import RestClient.Code.Trait
import RestClient.Code.TraitParser
import RestClient.Code.TypeExpr
import RestClient.Code.TypeParser
import RestClient.Decimal.Binary
import RestClient.Decimal.Reader
import RestClient.Decimal.Shortest
import RestClient.DomainName.AsciiForm
import RestClient.DomainName.Direction
import RestClient.DomainName.Form
import RestClient.DomainName.Joining
import RestClient.DomainName.Punycode
import RestClient.DomainName.Status
import RestClient.Http.Address
import RestClient.Http.Delivery
import RestClient.Http.Failure
import RestClient.Http.MediaType
import RestClient.Http.Message
import RestClient.Http.RequestBuilder
import RestClient.Http.Stream
import RestClient.Http.Transmission
import RestClient.Interface.ClientConfig
import RestClient.Interface.Descriptor
import RestClient.Interface.Diagnostic
import RestClient.Interface.HeadersAttribute
import RestClient.Interface.InterfaceAnalysis
import RestClient.Interface.KnownTypes
import RestClient.Interface.Marker
import RestClient.Interface.MethodAnalysis
import RestClient.Interface.RoleArguments
import RestClient.Interface.Template
import RestClient.Interface.TypeQuery
import RestClient.Interface.ValueShape
import RestClient.Interface.Violation
import RestClient.Json.Content
import RestClient.Json.Document
import RestClient.Json.Floating
import RestClient.Json.Printer
import RestClient.Json.Schema
import RestClient.Json.Value
import RestClient.Text.Basic
import RestClient.Text.CaseClass
import RestClient.Text.Escape
import RestClient.Text.IdentifierClass
import RestClient.Text.Octets
import RestClient.Text.Printable
import RestClient.Text.Quoted
import RestClient.Text.SnakeCase
import RestClient.Url.Host
import RestClient.Url.Target
import RestClient.Url.Validity
import RestClient.Proofs.Template.Cutting
import RestClient.Proofs.Template.Nesting
import RestClient.Proofs.Outcome
import RestClient.Proofs.Template.Recording
import RestClient.Proofs.Interface.Markers
import RestClient.Proofs.Interface.Inputs
import RestClient.Proofs.Text.Trim
import RestClient.Proofs.Interface.Methods
import RestClient.Proofs.Interface.Shapes
import RestClient.Proofs.Http.Building
import RestClient.Proofs.Client.Contributions
import RestClient.Proofs.Interface.Traits
import RestClient.Proofs.Client.Planning
import RestClient.Proofs.Client.FreeCode
import RestClient.Proofs.Client.Mentions
import RestClient.Proofs.Client.Lookups
import RestClient.Proofs.Client.FreshNames
import RestClient.Proofs.Client.Hygiene
import RestClient.Client.Convention
import RestClient.Proofs.Client.Sessions
import RestClient.Proofs.Client.Conventions
import RestClient.Proofs.Client.Reporting
import RestClient.Proofs.Client.Cleaning
import RestClient.Proofs.Http.Addresses
import RestClient.Proofs.Code.SingleWord
import RestClient.Proofs.Interface.Suffixes
import RestClient.Proofs.Code.Places
import RestClient.Proofs.Code.Parsing
import RestClient.Proofs.Code.TypePlaces
import RestClient.Proofs.Code.ExprPlaces
import RestClient.Proofs.Code.TraitPlaces
import RestClient.Proofs.Code.Scanning
import RestClient.Proofs.Code.Layout
import RestClient.Proofs.Interface.Arguments
import RestClient.Proofs.Interface.Anchors
import RestClient.Proofs.Text.Utf8
import RestClient.Proofs.Text.Escaping
import RestClient.Proofs.Text.Segments
import RestClient.Proofs.Text.FormPairs
import RestClient.Proofs.Url.Parts
import RestClient.Proofs.Http.Composition
import RestClient.Proofs.Http.EscapedPairs
import RestClient.Proofs.Template.Parts
import RestClient.Proofs.Http.PathValues
import RestClient.Proofs.Template.Substitution
import RestClient.Proofs.Client.ParameterOrder
import RestClient.Proofs.Interface.Acceptance
import RestClient.Proofs.Interface.PathParameters
import RestClient.Proofs.Template.Extraction
import RestClient.Proofs.Text.SnakeCase
import RestClient.Proofs.Client.FieldNames
import RestClient.Proofs.Client.FieldOrder
import RestClient.Client.Construction
import RestClient.Proofs.Client.Construction
import RestClient.Client.Execution
import RestClient.Proofs.Client.Closures
import RestClient.Proofs.Client.Execution
import RestClient.Proofs.Interface.TypeEquality
import RestClient.Proofs.Interface.Spelling
import RestClient.Proofs.Interface.ReturnTypes
import RestClient.Proofs.Code.Taking
import RestClient.Proofs.Interface.RoleArguments
import RestClient.Proofs.Interface.HeaderLiterals
import RestClient.Proofs.Interface.Classification
import RestClient.Proofs.Client.DefaultNames
import RestClient.Proofs.Client.TypeClasses
import RestClient.Proofs.Http.ContentTypes
import RestClient.Proofs.Client.Allocation
import RestClient.Proofs.Code.Unplaced
import RestClient.Proofs.Interface.KeyedSettings
