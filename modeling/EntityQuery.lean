import EntityQuery.Command
import EntityQuery.Compiled.Access
import EntityQuery.Compiled.Inspect
import EntityQuery.Compiled.Kind
import EntityQuery.Compiled.Value
import EntityQuery.Compiled.Visible
import EntityQuery.Declared.Inspect
import EntityQuery.Declared.Lookup
import EntityQuery.Diagnostic
import EntityQuery.Entity.Catalog
import EntityQuery.Entity.Descriptor
import EntityQuery.Entity.Graph
import EntityQuery.Entity.Kind
import EntityQuery.Entity.Library
import EntityQuery.Entity.Namer
import EntityQuery.Entity.Problem
import EntityQuery.Entity.Registry
import EntityQuery.Entity.Table
import EntityQuery.Main
import EntityQuery.Number.Binary64
import EntityQuery.Number.Format
import EntityQuery.Query.Expand
import EntityQuery.Query.FieldList
import EntityQuery.Query.Literal
import EntityQuery.Query.Marker
import EntityQuery.Query.Shared
import EntityQuery.QueryFile.Basic
import EntityQuery.QueryFile.Codec
import EntityQuery.QueryFile.Decode
import EntityQuery.QueryFile.Encode
import EntityQuery.QueryFile.Validate
import EntityQuery.Samples.Beans
import EntityQuery.Samples.Build
import EntityQuery.Samples.Store
import EntityQuery.Tag
import EntityQuery.Text.Case
import EntityQuery.Text.Printable
import EntityQuery.Text.Quoted
import EntityQuery.Text.Space
import EntityQuery.Text.Utf8
import EntityQuery.Universe.Decl
import EntityQuery.Universe.Select
import EntityQuery.Universe.Show
import EntityQuery.Universe.Type
import EntityQuery.Universe.TypeId
import EntityQuery.Universe.Underlying
import EntityQuery.Workspace
import EntityQuery.Yaml.Emit
import EntityQuery.Yaml.Node
import EntityQuery.Yaml.Parser
import EntityQuery.Yaml.Resolve
import EntityQuery.Yaml.Scanner
import EntityQuery.Yaml.Token
import EntityQuery.Proofs.Relations
import EntityQuery.Proofs.Resolve
import EntityQuery.Proofs.Registry
import EntityQuery.Proofs.Expander
import EntityQuery.Proofs.Expansion
import EntityQuery.Proofs.Validation
import EntityQuery.Proofs.WrittenYaml
import EntityQuery.Proofs.RoundTrip
import EntityQuery.Proofs.TypeListing
import EntityQuery.Proofs.FieldPaths
import EntityQuery.Proofs.EntitySearch
import EntityQuery.Proofs.Markers
import EntityQuery.Proofs.Inspection
import EntityQuery.Proofs.Escaping
import EntityQuery.Proofs.RecordQuery
import EntityQuery.Proofs.Canonical
import EntityQuery.Proofs.ReportLog
import EntityQuery.Proofs.DepthDefaults
import EntityQuery.Proofs.EntityName
import EntityQuery.Proofs.IdentifierAccess
import EntityQuery.Proofs.PromotedFields
import EntityQuery.Proofs.QualifiedNames
import EntityQuery.Proofs.RequestDepth
