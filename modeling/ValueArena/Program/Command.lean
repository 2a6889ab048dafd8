import ValueArena.Arena.Arithmetic
import ValueArena.Arena.Creation

/-!
The operations on an arena as data. A command names the handles, lists and objects that it uses.
-/
namespace ValueArena

inductive HandleArg where
  | none
  | immediate (v : Int64)
  | named (name : String)
  deriving DecidableEq, Repr

inductive SourceArg where
  | number (v : Binary64)
  | text (v : String)
  | handle (h : HandleArg)
  deriving DecidableEq, Repr

/-- Where a value is looked for. -/
inductive Place where
  | addr (addr : Addr)
  | handle (h : HandleArg)
  deriving DecidableEq, Repr

inductive ListCommand where
  | clone
  | handle
  | describe
  | cached
  | refresh
  | append (content : HandleArg)
  | appendEmpty
  | setContent (item content : HandleArg)
  | setContentAt (index : Nat) (content : HandleArg)
  | item (index : Nat)
  | get (index : Nat)
  | items
  | values
  | indexOfText (text : String)
  | indexOfNumber (number : Binary64)
  | text
  deriving DecidableEq, Repr

inductive ObjectCommand where
  | clone
  | handle
  | keys
  | values
  | describe
  | addKey (key : String)
  | indexOf (key : String)
  | hasKey (key : String)
  | slot (key : String)
  | get (key : String)
  | setSlot (item value : HandleArg)
  | set (key : String) (value : HandleArg)
  deriving DecidableEq, Repr

inductive Command where
  | bind (h : HandleArg)
  | create (content : Content)
  | createList
  | createObject
  | decode (place : Place) (delta : Option UInt32)
  | scan (page start : UInt32) (count : Nat)
  | describe (h : HandleArg)
  | equal (a b : HandleArg)
  | config
  | readInteger (h : HandleArg)
  | readLong (h : HandleArg)
  | readDouble (h : HandleArg)
  | readString (h : HandleArg)
  | setInteger (h : HandleArg) (v : Int32)
  | setLong (h : HandleArg) (v : Int64)
  | setDouble (h : HandleArg) (v : Binary64)
  | readFunction (h : HandleArg)
  | readNativeIndex (h : HandleArg)
  | resolveFunction (h : HandleArg)
  | resolveObject (h : HandleArg)
  | resolveNative (h : HandleArg)
  | registrySize
  | assign (target : HandleArg) (source : SourceArg)
  | apply (op : Operation) (target : HandleArg) (source : SourceArg)
  | sourceKind (source : SourceArg)
  | doubleList (vs : List Binary64)
  | personObject
  | numberedObject (count : Nat)
  | seriesSum (rounds : Nat) (limit step : Binary64)
  | listCreate
  | listOpen (h : HandleArg)
  | onList (name : String) (command : ListCommand)
  | objectCreate
  | objectOpen (h : HandleArg)
  | onObject (name : String) (command : ObjectCommand)
  deriving DecidableEq, Repr

end ValueArena
