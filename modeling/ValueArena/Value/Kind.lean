/-!
The kinds of value an arena holds, with the tag byte and payload size of each. `ofTag?_eq_some_iff`
makes tags and kinds two names for the same thing.
-/
namespace ValueArena

inductive Kind where
  | none
  | byte
  | integer
  | long
  | float
  | double
  | string
  | list
  | listItem
  | object
  | function
  | nativeObject
  | nativeFunction
  /-- An integer carried by a handle itself. It has a tag, but memory never holds it. -/
  | value
  deriving DecidableEq, Repr

namespace Kind

def all : List Kind :=
  [.none, .byte, .integer, .long, .float, .double, .string, .list, .listItem, .object, .function,
    .nativeObject, .nativeFunction, .value]

def tag : Kind → UInt8
  | .none => 0x00
  | .byte => 0x01
  | .integer => 0x02
  | .long => 0x03
  | .float => 0x04
  | .double => 0x05
  | .string => 0x06
  | .list => 0x11
  | .listItem => 0x12
  | .object => 0x13
  | .function => 0x14
  | .nativeObject => 0x21
  | .nativeFunction => 0x22
  | .value => 0x99

def ofTag? (tag : UInt8) : Option Kind := all.find? (·.tag == tag)

/-- Payload bytes after the tag. For a string this is only the length field before its text. -/
def fixedSize : Kind → UInt32
  | .none | .value => 0
  | .byte => 1
  | .integer | .float | .string | .nativeObject | .nativeFunction => 4
  | .long | .double | .function => 8
  | .listItem | .object => 16
  | .list => 20

def isNumeric : Kind → Bool
  | .byte | .integer | .long | .float | .double | .value => true
  | _ => false

def name : Kind → String
  | .none => "None"
  | .byte => "Byte"
  | .integer => "Integer"
  | .long => "Long"
  | .float => "Float"
  | .double => "Double"
  | .string => "String"
  | .list => "List"
  | .listItem => "ListItem"
  | .object => "Object"
  | .function => "Function"
  | .nativeObject => "NativeObject"
  | .nativeFunction => "NativeFunction"
  | .value => "Value"

theorem mem_all (k : Kind) : k ∈ all := by cases k <;> decide

theorem ofTag?_tag (k : Kind) : ofTag? k.tag = some k := by cases k <;> rfl

theorem ofTag?_eq_some_iff {t : UInt8} {k : Kind} : ofTag? t = some k ↔ k.tag = t := by
  constructor
  · intro h
    simpa using List.find?_some h
  · rintro rfl
    exact ofTag?_tag k

end Kind
end ValueArena
