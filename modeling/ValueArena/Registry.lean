import ValueArena.Arena.Reading
import ValueArena.Table

/-!
What the indices in functions, native objects and native functions stand for: three maps to names,
each with its own indices. Any map will do; by default they are tables.
-/
namespace ValueArena

structure Registry (T : Type → Type → Type := Table) where
  functions : T FunctionRef String
  objects : T UInt32 String
  natives : T UInt32 String

namespace Registry

def empty (T : Type → Type → Type := Table) [KeyMap T] : Registry T :=
  ⟨KeyMap.empty, KeyMap.empty, KeyMap.empty⟩

variable {T : Type → Type → Type} [KeyMap T]

def addFunction (r : Registry T) (f : FunctionRef) (name : String) : Registry T :=
  { r with functions := KeyMap.insert r.functions f name }

def addObject (r : Registry T) (index : UInt32) (name : String) : Registry T :=
  { r with objects := KeyMap.insert r.objects index name }

def addNative (r : Registry T) (index : UInt32) (name : String) : Registry T :=
  { r with natives := KeyMap.insert r.natives index name }

def size (r : Registry T) : Nat :=
  KeyMap.size r.functions + KeyMap.size r.objects + KeyMap.size r.natives

def resolveFunction (r : Registry T) (a : Arena) (h : Handle) :
    Except MemoryError (Option String) := do
  return KeyMap.find? r.functions (← a.readFunction h)

def resolveObject (r : Registry T) (a : Arena) (h : Handle) :
    Except MemoryError (Option String) := do
  let _ ← h.require .nativeObject
  return KeyMap.find? r.objects (← a.readNativeIndex h)

def resolveNative (r : Registry T) (a : Arena) (h : Handle) :
    Except MemoryError (Option String) := do
  let _ ← h.require .nativeFunction
  return KeyMap.find? r.natives (← a.readNativeIndex h)

end Registry
end ValueArena
