import Callsite.Invoke.Nested
import Callsite.Proofs.Invoke.Session
import Callsite.Proofs.Invoke.Widening
import Callsite.Proofs.Invoke.Gating
import Callsite.Proofs.Invoke.Forks
import Callsite.Proofs.Heap.History
import Callsite.Proofs.Invoke.Construction
import Callsite.Proofs.Invoke.Footprint
import Callsite.Proofs.Invoke.BufferRun
import Callsite.Invoke.Exploration
import Callsite.Proofs.Catalog.Requests
import Callsite.Proofs.Invoke.Nesting
import Callsite.Proofs.Invoke.Depth
import Callsite.Proofs.Invoke.Evidence
import Callsite.Proofs.Emulation.InPlace
import Callsite.Proofs.Machine.AllOrNothing
import Callsite.Proofs.Invoke.AllOrNothing
import Callsite.Proofs.Graph.View
import Callsite.Proofs.Machine.Locality
import Callsite.Proofs.Invoke.Independence
import Callsite.Proofs.Invoke.FrameLayout
import Callsite.Proofs.Catalog.Reconciliation
import Callsite.Proofs.Graph.Growth
import Callsite.Proofs.Catalog.CommonAncestor
import Callsite.Proofs.Graph.Cover
import Callsite.Proofs.Invoke.GivingUp
import Callsite.Proofs.Catalog.BreadthFirst
import Callsite.Proofs.Catalog.Assignability
import Callsite.Proofs.Frame.Loss
import Callsite.Proofs.Invoke.Bookkeeping
import Callsite.Proofs.Heap.Resolution
import Callsite.Proofs.Signature.Scan
import Callsite.Proofs.Method.Printing
import Callsite.Proofs.Invoke.Operands
import Callsite.Proofs.Catalog.HierarchyLimit
import Callsite.Proofs.Emulation.Calls
import Callsite.Proofs.Text.Utf16
import Callsite.Proofs.Reflection.Strings
import Callsite.Proofs.Emulation.Integers
import Callsite.Proofs.Graph.ParameterTypes
import Callsite.Proofs.Method.Constructor
import Callsite.Proofs.Value.Cast
