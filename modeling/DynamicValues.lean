import DynamicValues.Heap.Clone
import DynamicValues.World.Members
import DynamicValues.World.Assignment
import DynamicValues.World.Call
import DynamicValues.World.Match
import DynamicValues.Pattern.Lockstep
import DynamicValues.Proofs.Heap.Reach
import DynamicValues.Proofs.Heap.Tour
import DynamicValues.Proofs.Heap.DeepCopy
import DynamicValues.Proofs.Heap.Copies
import DynamicValues.Proofs.Heap.Distance
import DynamicValues.Proofs.Heap.Evolve
import DynamicValues.Proofs.Heap.Fits
import DynamicValues.Proofs.Heap.Made
import DynamicValues.Proofs.Heap.Cells
import DynamicValues.Proofs.Heap.Accounts
import DynamicValues.Proofs.World.Final
import DynamicValues.Proofs.World.Text
import DynamicValues.Proofs.World.Refusal
import DynamicValues.Proofs.Class.Walk
import DynamicValues.Proofs.Class.Changes
import DynamicValues.Proofs.Class.Acyclic
import DynamicValues.Proofs.Class.Search
import DynamicValues.Proofs.Class.Generation
import DynamicValues.Proofs.Class.Locality
import DynamicValues.Proofs.Class.Registry
import DynamicValues.Proofs.Class.Dispatch
import DynamicValues.Proofs.Class.Calls
import DynamicValues.Proofs.Scope.Script
import DynamicValues.Proofs.Scope.Place
import DynamicValues.Proofs.Scope.Restore
import DynamicValues.Proofs.Scope.Blessing
import DynamicValues.Proofs.Scope.Session
import DynamicValues.Proofs.Scope.Positions
import DynamicValues.Proofs.Text.Places
import DynamicValues.Proofs.Pattern.Lawful
import DynamicValues.Proofs.Pattern.Framed
import DynamicValues.Proofs.Pattern.Spans
import DynamicValues.Proofs.Pattern.Empty
import DynamicValues.Proofs.Stream.Threaded
import DynamicValues.Proofs.Stream.Progress
import DynamicValues.Proofs.Stream.Calls
import DynamicValues.Proofs.Stream.Collected
import DynamicValues.Proofs.Stream.Guard
import DynamicValues.Proofs.Stream.Leftmost
import DynamicValues.Proofs.Class.Cutoff
import DynamicValues.Proofs.Number.Grammar
import DynamicValues.Proofs.Number.Nearest
import DynamicValues.Proofs.Number.Bytes
import DynamicValues.Proofs.Number.Prefix
import DynamicValues.Proofs.World.Vivify
import DynamicValues.Proofs.Number.Decimal
import DynamicValues.Proofs.Number.General
import DynamicValues.Proofs.Number.ReadBack
import DynamicValues.Proofs.Pattern.Groups
import DynamicValues.Proofs.Stream.Described
import DynamicValues.Proofs.World.Truth
import DynamicValues.Proofs.World.Enumeration
import DynamicValues.Proofs.World.Reading
import DynamicValues.Proofs.World.Assigned
import DynamicValues.Proofs.World.MemberCopy
import DynamicValues.Proofs.Number.Limited
import DynamicValues.Proofs.Text.Indexing
import DynamicValues.Proofs.Heap.Calls
import DynamicValues.Proofs.Heap.Written
import DynamicValues.Proofs.Scope.Remembered
