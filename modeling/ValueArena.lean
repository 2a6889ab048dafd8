import ValueArena.Program.Session
import ValueArena.Proofs.Memory.Reserve
import ValueArena.Proofs.Memory.History
import ValueArena.Proofs.Memory.Requests
import ValueArena.Proofs.Memory.Counters
import ValueArena.Proofs.Memory.Ceiling
import ValueArena.Proofs.Memory.Checks
import ValueArena.Proofs.Heap.Cell
import ValueArena.Proofs.Heap.Holds
import ValueArena.Proofs.Heap.Reading
import ValueArena.Proofs.Heap.Draft
import ValueArena.Proofs.Heap.Creation
import ValueArena.Proofs.Heap.Growth
import ValueArena.Proofs.Links.Entries
import ValueArena.Proofs.Links.Formed
import ValueArena.Proofs.Links.Fields
import ValueArena.Proofs.Heap.Typed
import ValueArena.Proofs.Picture.Basic
import ValueArena.Proofs.Links.Append
import ValueArena.Proofs.Picture.Writes
import ValueArena.Proofs.Picture.Quiet
import ValueArena.Proofs.View.Refresh
import ValueArena.Proofs.View.List
import ValueArena.Proofs.View.Object
import ValueArena.Proofs.View.Exact
import ValueArena.Proofs.View.Strange
import ValueArena.Proofs.Run.Names
import ValueArena.Proofs.Run.Reads
import ValueArena.Proofs.Run.Writes
import ValueArena.Proofs.Run.Program
import ValueArena.Proofs.Heap.Sweep
import ValueArena.Proofs.Run.WellFormed
import ValueArena.Proofs.Picture.Sequence
import ValueArena.Proofs.Run.Sequences
import ValueArena.Proofs.Run.Coherence
import ValueArena.Proofs.View.Keys
import ValueArena.Proofs.Run.Lockstep
import ValueArena.Proofs.Run.Objects
import ValueArena.Proofs.Run.Creation
import ValueArena.Proofs.Run.OutOfStep
import ValueArena.Proofs.Run.Exact
import ValueArena.Proofs.Run.LastPage
import ValueArena.Proofs.Calls.Basic
import ValueArena.Proofs.Calls.Operations
import ValueArena.Proofs.Calls.Commands
import ValueArena.Proofs.Run.Counters
import ValueArena.Proofs.Run.Ceiling
import ValueArena.Proofs.Run.Failures
import ValueArena.Proofs.Run.Atomicity
import ValueArena.Proofs.Run.Wholeness
import ValueArena.Proofs.Run.Assignment
import ValueArena.Proofs.Mirror.Basic
import ValueArena.Proofs.Mirror.Agree
import ValueArena.Proofs.Mirror.Arena
import ValueArena.Proofs.Mirror.Operations
import ValueArena.Proofs.Mirror.Lists
import ValueArena.Proofs.Mirror.Objects
import ValueArena.Proofs.Mirror.Answers
import ValueArena.Proofs.Mirror.Commands
import ValueArena.Proofs.Mirror.Programs
import ValueArena.Proofs.Memory.Extent
import ValueArena.Proofs.Memory.Lens
import ValueArena.Proofs.Heap.Recognition
import ValueArena.Proofs.Heap.Reach
import ValueArena.Proofs.Heap.Overwriting
import ValueArena.Proofs.View.Search
import ValueArena.Proofs.Run.Search
import ValueArena.Proofs.Run.Literals
import ValueArena.Proofs.View.Unmoved
import ValueArena.Proofs.Run.InPlace
import ValueArena.Proofs.View.Text
import ValueArena.Proofs.Run.Text
import ValueArena.Proofs.Registry.Registrations
import ValueArena.Proofs.Run.Resolution
import ValueArena.Proofs.Picture.Extension
import ValueArena.Proofs.Run.Undisturbed
import ValueArena.Proofs.Run.Series
import ValueArena.Proofs.Run.Numbered
import ValueArena.Proofs.Text.Handles
