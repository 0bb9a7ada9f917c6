import EntityForge.Failure.Document
import EntityForge.Generated.Document
import EntityForge.Metadata.Printer
import EntityForge.Model.Document
import EntityForge.Proofs.Class.RoundTrip
import EntityForge.Proofs.Generated.AccessorLaw
import EntityForge.Proofs.Generated.Interchange
import EntityForge.Proofs.Generated.Parity
import EntityForge.Source.EntitySource
import EntityForge.Value.Document
import EntityForge.Version
import EntityForge.Proofs.Class.Acceptance
import EntityForge.Proofs.Machine.Actions
import EntityForge.Proofs.Registry.Linking
import EntityForge.Proofs.Machine.HeapTyping
import EntityForge.Proofs.Registry.Batches
import EntityForge.Proofs.Generated.Reports
import EntityForge.Proofs.Concurrency.Crew
import EntityForge.Proofs.Registry.Merging
import EntityForge.Proofs.Generated.Workers
import EntityForge.Proofs.Registry.Sharing
import EntityForge.Proofs.Registry.SharedLoading
import EntityForge.Proofs.Type.Grammar
import EntityForge.Proofs.Type.Resolving
import EntityForge.Proofs.Class.Canonical
import EntityForge.Proofs.Type.MethodTypes
import EntityForge.Proofs.Generated.Declared
import EntityForge.Proofs.Generated.Loadable
import EntityForge.Proofs.Registry.Lineage
import EntityForge.Proofs.Machine.Detours
import EntityForge.Proofs.Machine.BoundFields
import EntityForge.Proofs.Generated.Reflection
import EntityForge.Proofs.Generated.GetterLaw
import EntityForge.Proofs.Machine.CallDepth
import EntityForge.Proofs.Class.Truncation
import EntityForge.Proofs.Entity.Validation
import EntityForge.Proofs.Generated.Tables
import EntityForge.Proofs.Text.Qualified
import EntityForge.Proofs.Registry.Paths
import EntityForge.Proofs.Generated.Names
import EntityForge.Proofs.Bytes.Agreement
import EntityForge.Proofs.Class.Relocation
import EntityForge.Proofs.Class.CallOrder
import EntityForge.Proofs.Value.Conformance
import EntityForge.Proofs.Generated.TypeData
import EntityForge.Proofs.Generated.Injection
import EntityForge.Proofs.Entity.Reordering
import EntityForge.Proofs.Annotation.Completion
import EntityForge.Proofs.Class.Renaming
import EntityForge.Proofs.Registry.Insertions
import EntityForge.Proofs.Type.Safety
import EntityForge.Proofs.Class.Offsets
import EntityForge.Proofs.Class.PoolHistory
import EntityForge.Proofs.Registry.SlotLayout
