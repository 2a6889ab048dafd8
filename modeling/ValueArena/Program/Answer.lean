import ValueArena.Collection.ObjectView
import ValueArena.Table

/-!
What commands answer, and the names under which answers are kept.
-/
namespace ValueArena

/-- A list as its header and its view see it. -/
structure ListDescription where
  handle : Handle
  count : UInt32
  cachedItems : Nat
  cachedValues : Nat
  deriving DecidableEq, Repr

def ListView.description (v : ListView) (a : Arena) : Except MemoryError ListDescription := do
  return ⟨v.handle, ← v.count a, v.items.size, v.values.size⟩

inductive Answer where
  | nothing
  | handle (h : Handle)
  | list (v : ListView)
  | object (o : ObjectView)
  | handles (hs : List Handle)
  | description (h : Handle)
  | target (h : Handle)
  | scanned (found : List (Except MemoryError Handle))
  | truth (b : Bool)
  | index (i : Option Nat)
  | text (s : Option String)
  | integer (v : Int32)
  | long (v : Int64)
  | double (v : Binary64)
  | word (v : UInt32)
  | function (f : FunctionRef)
  | kind (k : Kind)
  | config (c : Config)
  | newArena (index : Nat)
  | registrySize (size : Nat)
  | series (ends : Option (Binary64 × Binary64))
  | cached (items values : Nat)
  | listDescription (d : ListDescription)
  | objectDescription (size : UInt32) (keys values : ListDescription)

inductive Fault where
  | memory (e : MemoryError)
  | unbound (name : String)
  deriving DecidableEq, Repr

/-- Handles, lists and objects are kept apart, so that one name may stand for one of each. -/
structure Names where
  handles : Table String Handle
  lists : Table String ListView
  objects : Table String ObjectView
  deriving DecidableEq, Repr

namespace Names

def empty : Names := ⟨.empty, .empty, .empty⟩

/-- Keeps an answer that is a handle, a list or an object. -/
def keep (n : Names) (name : String) : Answer → Names
  | .handle h => { n with handles := n.handles.insert name h }
  | .list v => { n with lists := n.lists.insert name v }
  | .object o => { n with objects := n.objects.insert name o }
  | _ => n

end Names
end ValueArena
