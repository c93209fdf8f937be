import RouteAtlas.Text.Identifier
import RouteAtlas.Text.Emoji
import RouteAtlas.Text.Digit
import RouteAtlas.Text.Blank
import RouteAtlas.Text.Case
import RouteAtlas.Text.Split
import RouteAtlas.Text.Sift
import RouteAtlas.Data.KeyMap
import RouteAtlas.Python.Parser
import RouteAtlas.Python.Literal
import RouteAtlas.Python.Formatted
import RouteAtlas.Python.Node
import RouteAtlas.Python.Import
import RouteAtlas.Naming.Casing
import RouteAtlas.Url.Template
import RouteAtlas.Naming.OperationId
import RouteAtlas.Http
import RouteAtlas.Route
import RouteAtlas.Django.Router
import RouteAtlas.Django.ViewSet
import RouteAtlas.Django.Model
import RouteAtlas.Findings
import RouteAtlas.Django.UrlConf
import RouteAtlas.Flask.Application
import RouteAtlas.Framework
import RouteAtlas.Files.Source
import RouteAtlas.Project.Listing
import RouteAtlas.Project.Modules
import RouteAtlas.Project.Inventory
import RouteAtlas.Project.Detection
import RouteAtlas.Django.Resource
import RouteAtlas.Project.Walk
import RouteAtlas.Json.Text
import RouteAtlas.Json.Reading
import RouteAtlas.OpenApi.Encoding
import RouteAtlas.OpenApi.Decoding
import RouteAtlas.OpenApi.Draft
import RouteAtlas.Yaml.Block
import RouteAtlas.CommandLine.Run
import RouteAtlas.Main
import RouteAtlas.Proofs.Walk.Effects
import RouteAtlas.Proofs.Walk.Forest
import RouteAtlas.Proofs.Walk.Exploration
import RouteAtlas.Proofs.Walk.Reach
import RouteAtlas.Proofs.Data.Bindings
import RouteAtlas.Proofs.Files.Extent
import RouteAtlas.Proofs.Walk.Ending
import RouteAtlas.Proofs.Walk.Finite
import RouteAtlas.Proofs.Walk.Collection
import RouteAtlas.Proofs.Url.Shape
import RouteAtlas.Proofs.OpenApi.Identifiers
import RouteAtlas.Proofs.OpenApi.Drafts
import RouteAtlas.Proofs.OpenApi.Additions
import RouteAtlas.Proofs.Django.Consumption
import RouteAtlas.Proofs.Django.Cycles
import RouteAtlas.Proofs.Text.Replacement
import RouteAtlas.Proofs.Url.Native
import RouteAtlas.Proofs.Walk.Placement
import RouteAtlas.Proofs.OpenApi.References
import RouteAtlas.Proofs.OpenApi.Reordering
import RouteAtlas.Proofs.Naming.Endpoint
import RouteAtlas.Proofs.Naming.Ascii
import RouteAtlas.Proofs.Naming.Words
import RouteAtlas.Proofs.Naming.OperationId
import RouteAtlas.Proofs.OpenApi.Extension
import RouteAtlas.Proofs.Django.Routers
import RouteAtlas.Proofs.OpenApi.Records
import RouteAtlas.Proofs.OpenApi.RoundTrip
import RouteAtlas.Proofs.Flask.Registration
import RouteAtlas.Proofs.Django.Building
import RouteAtlas.Proofs.Django.Agreement
import RouteAtlas.Proofs.Flask.Scope
import RouteAtlas.Proofs.Django.Definitions
import RouteAtlas.Proofs.Project.Inventory
import RouteAtlas.Proofs.Python.Imports
import RouteAtlas.Proofs.Python.Lexing
import RouteAtlas.Proofs.Framework.Detection
import RouteAtlas.Proofs.Python.Reading
import RouteAtlas.Proofs.Project.Detection
import RouteAtlas.Proofs.Python.Readers
import RouteAtlas.Proofs.Python.SimpleNames
import RouteAtlas.Proofs.Project.Selection
import RouteAtlas.Proofs.OpenApi.Endpoints
import RouteAtlas.Proofs.Walk.Isolation
import RouteAtlas.Proofs.Django.Blocks
import RouteAtlas.Proofs.Walk.Completion
import RouteAtlas.Proofs.Url.Groups
import RouteAtlas.Proofs.Url.Anchors
import RouteAtlas.Proofs.Url.Positions
import RouteAtlas.Proofs.OpenApi.Conventions
import RouteAtlas.Proofs.Text.Erasure
import RouteAtlas.Proofs.OpenApi.Inference
import RouteAtlas.Proofs.OpenApi.Handlers
import RouteAtlas.Proofs.Naming.Plural
import RouteAtlas.Proofs.OpenApi.Segments
import RouteAtlas.Proofs.Naming.ViewName
import RouteAtlas.Proofs.Text.Pieces
import RouteAtlas.Proofs.OpenApi.Requirements
import RouteAtlas.Proofs.Python.Places
import RouteAtlas.Proofs.Files.Paths
import RouteAtlas.Proofs.Project.Listing
import RouteAtlas.Proofs.Url.Joining
import RouteAtlas.Proofs.OpenApi.Resources
import RouteAtlas.Proofs.Django.Actions
import RouteAtlas.Proofs.Files.Descent
import RouteAtlas.Proofs.Project.Modules
