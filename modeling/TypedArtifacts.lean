import TypedArtifacts.Artifact
import TypedArtifacts.Artifact.Access
import TypedArtifacts.Artifact.Guard
import TypedArtifacts.Artifact.OfBag
import TypedArtifacts.Artifact.Tagged
import TypedArtifacts.ArtifactType
import TypedArtifacts.Assignment
import TypedArtifacts.Assignment.Blobs
import TypedArtifacts.Assignment.Links
import TypedArtifacts.Bag
import TypedArtifacts.Bag.Groups
import TypedArtifacts.Bag.Json
import TypedArtifacts.Bag.Leaves
import TypedArtifacts.Bag.OfArtifact
import TypedArtifacts.Binary64
import TypedArtifacts.Blob
import TypedArtifacts.Catalog
import TypedArtifacts.Decimal.Shortest
import TypedArtifacts.Decimal.Style
import TypedArtifacts.Definition
import TypedArtifacts.Definition.Conversion
import TypedArtifacts.Definition.Declaration
import TypedArtifacts.Definition.Facet
import TypedArtifacts.Definition.Normal
import TypedArtifacts.Definition.Schema
import TypedArtifacts.Definition.Validation
import TypedArtifacts.Definition.Written
import TypedArtifacts.Dict
import TypedArtifacts.Digest.Blake3
import TypedArtifacts.Engine
import TypedArtifacts.Fault
import TypedArtifacts.Instant
import TypedArtifacts.Instant.Rfc3339
import TypedArtifacts.Json
import TypedArtifacts.Json.Fields
import TypedArtifacts.Json.Printer
import TypedArtifacts.Json.Reader
import TypedArtifacts.Layers
import TypedArtifacts.Lifecycle
import TypedArtifacts.Patch
import TypedArtifacts.Patch.Operation
import TypedArtifacts.Patch.Path
import TypedArtifacts.Pattern
import TypedArtifacts.Pattern.CharSet
import TypedArtifacts.Pattern.Parser
import TypedArtifacts.Pattern.Tree
import TypedArtifacts.Rendering
import TypedArtifacts.Rendering.Level
import TypedArtifacts.RequestContext
import TypedArtifacts.Rule
import TypedArtifacts.Settings
import TypedArtifacts.Settings.Logging
import TypedArtifacts.Settings.Toml
import TypedArtifacts.Storage
import TypedArtifacts.Store
import TypedArtifacts.Store.Expansion
import TypedArtifacts.Store.Query
import TypedArtifacts.Text.Digits
import TypedArtifacts.Text.Folding
import TypedArtifacts.Text.Hexadecimal
import TypedArtifacts.Text.Quoted
import TypedArtifacts.Text.Ranges
import TypedArtifacts.Text.Words
import TypedArtifacts.Toml
import TypedArtifacts.Toml.Layout
import TypedArtifacts.Toml.Line
import TypedArtifacts.Toml.Quoted
import TypedArtifacts.Toml.Scalar
import TypedArtifacts.Toml.Table
import TypedArtifacts.Toml.Tree
import TypedArtifacts.Value
import TypedArtifacts.Version
import TypedArtifacts.Violation
import TypedArtifacts.Proofs.Instant.Calendar
import TypedArtifacts.Proofs.Instant.Micros
import TypedArtifacts.Proofs.Dict
import TypedArtifacts.Proofs.Value
import TypedArtifacts.Proofs.Definition
import TypedArtifacts.Proofs.Definition.Conforming
import TypedArtifacts.Proofs.Definition.Conversion
import TypedArtifacts.Proofs.Bag.Cuts
import TypedArtifacts.Proofs.Bag.Groups
import TypedArtifacts.Proofs.Bag.Stored
import TypedArtifacts.Proofs.Bag.Gather
import TypedArtifacts.Proofs.Artifact.Settled
import TypedArtifacts.Proofs.ArtifactType
import TypedArtifacts.Proofs.Artifact.Written
import TypedArtifacts.Proofs.Bag.Properties
import TypedArtifacts.Proofs.Bag.Expanded
import TypedArtifacts.Proofs.Artifact.Decoded
import TypedArtifacts.Proofs.Artifact.Wrapped
import TypedArtifacts.Proofs.Artifact.Respect
import TypedArtifacts.Proofs.Artifact.RoundTrip
import TypedArtifacts.Proofs.Engine.Call
import TypedArtifacts.Proofs.Engine.Session
import TypedArtifacts.Proofs.Storage
import TypedArtifacts.Proofs.Patch
import TypedArtifacts.Proofs.Engine.Bytes
import TypedArtifacts.Proofs.Store.Expansion
import TypedArtifacts.Proofs.Assignment.Chain
import TypedArtifacts.Proofs.Definition.Canonical
import TypedArtifacts.Proofs.Artifact.Canonical
import TypedArtifacts.Proofs.Artifact.Frozen
import TypedArtifacts.Proofs.Bag.Paths
import TypedArtifacts.Proofs.Bag.Attribution
import TypedArtifacts.Proofs.Bag.Regrouping
import TypedArtifacts.Proofs.Artifact.Reread
import TypedArtifacts.Proofs.Engine.Navigation
import TypedArtifacts.Proofs.Artifact.WriteOnce
import TypedArtifacts.Proofs.Assignment.BlobWrites
import TypedArtifacts.Proofs.Definition.FromJson
import TypedArtifacts.Proofs.Definition.Parts
import TypedArtifacts.Proofs.Patch.Edit
import TypedArtifacts.Proofs.Patch.Property
import TypedArtifacts.Proofs.Patch.Batch
import TypedArtifacts.Proofs.Engine.Publication
import TypedArtifacts.Proofs.Engine.Moves
import TypedArtifacts.Proofs.Engine.Removal
import TypedArtifacts.Proofs.Bag.Share
import TypedArtifacts.Proofs.Bag.Remnant
import TypedArtifacts.Proofs.Bag.Restored
import TypedArtifacts.Proofs.Artifact.Readable
import TypedArtifacts.Proofs.Version
import TypedArtifacts.Proofs.Store.Order
import TypedArtifacts.Proofs.Store.Paging
import TypedArtifacts.Proofs.Artifact.References
import TypedArtifacts.Proofs.Artifact.Decoding
import TypedArtifacts.Proofs.Assignment.Fresh
import TypedArtifacts.Proofs.Assignment.Rejection
import TypedArtifacts.Proofs.Assignment.Contents
import TypedArtifacts.Proofs.Assignment.Refills
import TypedArtifacts.Proofs.Assignment.Refinement
import TypedArtifacts.Proofs.Patch.Path
import TypedArtifacts.Proofs.Artifact.GuardedEdits
import TypedArtifacts.Proofs.Definition.Governed
import TypedArtifacts.Proofs.Definition.Exact
import TypedArtifacts.Proofs.Assignment.SelfReference
import TypedArtifacts.Proofs.Definition.Acceptance
import TypedArtifacts.Proofs.Definition.Consistent
import TypedArtifacts.Proofs.ArtifactType.Chain
import TypedArtifacts.Proofs.Definition.Satisfiable
import TypedArtifacts.Proofs.Store.Cycles
import TypedArtifacts.Proofs.Store.Determined
import TypedArtifacts.Proofs.Artifact.Twins
import TypedArtifacts.Proofs.Artifact.Recorded
import TypedArtifacts.Proofs.Engine.Reloaded
import TypedArtifacts.Proofs.Catalog
import TypedArtifacts.Proofs.Catalog.Endpoint
import TypedArtifacts.Proofs.Definition.Shapely
import TypedArtifacts.Proofs.Store.Refusals
import TypedArtifacts.Proofs.Bag.Listed
import TypedArtifacts.Proofs.Rendering.Shape
import TypedArtifacts.Proofs.Rendering.Horizon
import TypedArtifacts.Proofs.Instant.Exact
import TypedArtifacts.Proofs.Json
import TypedArtifacts.Proofs.Bag.Json
import TypedArtifacts.Proofs.Patch.Wire
import TypedArtifacts.Proofs.Pattern.Reads
import TypedArtifacts.Proofs.Version.Precedence
import TypedArtifacts.Proofs.RequestContext
import TypedArtifacts.Proofs.Layers
import TypedArtifacts.Proofs.Binary64
import TypedArtifacts.Proofs.Definition.Slots
import TypedArtifacts.Proofs.Definition.Ranges
