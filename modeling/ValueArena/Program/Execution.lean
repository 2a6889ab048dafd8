import ValueArena.Arena.Assignment
import ValueArena.Arena.Writing
import ValueArena.Program.Answer
import ValueArena.Program.Command
import ValueArena.Program.Samples
import ValueArena.Registry

/-!
Commands run on one arena and the names of earlier results. A view changes also when the command
that uses it fails, as far as it came.
-/
namespace ValueArena

variable {T : Type → Type → Type} [KeyMap T]

abbrev CommandStep := Step Fault (Names × Arena)

namespace Command

def handleOf : HandleArg → CommandStep Handle
  | .none => pure .none
  | .immediate v => pure (.immediate v)
  | .named name => .view fun (n, _) =>
    match n.handles.find? name with
    | some h => .ok h
    | none => .error (.unbound name)

def sourceOf : SourceArg → CommandStep Source
  | .number v => pure (.number v)
  | .text v => pure (.text v)
  | .handle h => return .handle (← handleOf h)

def onArena (x : ArenaStep α) : CommandStep α := .onSecond (x.mapError .memory)

def reading (f : Arena → Except MemoryError α) : CommandStep α := onArena (.view f)

def listNamed (name : String) : CommandStep ListView := .view fun (n, _) =>
  match n.lists.find? name with
  | some v => .ok v
  | none => .error (.unbound name)

def objectNamed (name : String) : CommandStep ObjectView := .view fun (n, _) =>
  match n.objects.find? name with
  | some o => .ok o
  | none => .error (.unbound name)

/-- Runs on a named list, whose view is kept also after a failure. -/
def changingList (name : String) (x : ListStep α) : CommandStep α := do
  let v ← listNamed name
  fun (n, a) =>
    let (result, v, a) := x.mapError .memory (v, a)
    (result, { n with lists := n.lists.insert name v }, a)

def changingObject (name : String) (x : ObjectStep α) : CommandStep α := do
  let o ← objectNamed name
  fun (n, a) =>
    let (result, o, a) := x.mapError .memory (o, a)
    (result, { n with objects := n.objects.insert name o }, a)

def readingList (name : String) (x : Arena → Step MemoryError ListView α) : CommandStep α :=
  changingList name (ListView.reading x)

def readingObject (name : String) (x : Arena → Step MemoryError ObjectView α) : CommandStep α :=
  changingObject name (ObjectView.reading x)

def runOnList (name : String) : ListCommand → CommandStep Answer
  | .clone => return .list (← listNamed name)
  | .handle => return .handle (← listNamed name).handle
  | .describe => do
    let v ← listNamed name
    return .listDescription (← reading v.description)
  | .cached => do
    let v ← listNamed name
    return .cached v.items.size v.values.size
  | .refresh => do
    readingList name ListView.refresh
    return .nothing
  | .append content => do
    let _ ← listNamed name
    let h ← handleOf content
    return .handle (← changingList name (ListView.append h))
  | .appendEmpty => return .handle (← changingList name ListView.appendEmpty)
  | .setContent item content => do
    let _ ← listNamed name
    let item ← handleOf item
    let h ← handleOf content
    changingList name (ListView.setContent item h)
    return .nothing
  | .setContentAt index content => do
    let _ ← listNamed name
    let h ← handleOf content
    changingList name (ListView.setContentAt index h)
    return .nothing
  | .item index => return .handle (← readingList name (ListView.item · index))
  | .get index => return .handle (← readingList name (ListView.get · index))
  | .items => return .handles (← readingList name ListView.allItems).toList
  | .values => return .handles (← readingList name ListView.allValues).toList
  | .indexOfText text => return .index (← readingList name (ListView.indexOfText · text))
  | .indexOfNumber v => return .index (← readingList name (ListView.indexOfNumber · v))
  | .text => return .text (← readingList name ListView.toText)

def runOnObject (name : String) : ObjectCommand → CommandStep Answer
  | .clone => return .object (← objectNamed name)
  | .handle => return .handle (← objectNamed name).handle
  | .keys => return .list (← objectNamed name).keys
  | .values => return .list (← objectNamed name).values
  | .describe => do
    let o ← objectNamed name
    let size ← reading o.size
    let keys ← reading o.keys.description
    let values ← reading o.values.description
    return .objectDescription size keys values
  | .addKey key => return .handle (← changingObject name (ObjectView.addKey key))
  | .indexOf key => return .index (← readingObject name (ObjectView.indexOf · key))
  | .hasKey key => return .truth (← readingObject name (ObjectView.hasKey · key))
  | .slot key => return .handle (← readingObject name (ObjectView.slot · key))
  | .get key => return .handle (← readingObject name (ObjectView.get · key))
  | .setSlot item value => do
    let _ ← objectNamed name
    let item ← handleOf item
    let h ← handleOf value
    changingObject name (ObjectView.setSlot item h)
    return .nothing
  | .set key value => do
    let _ ← objectNamed name
    let h ← handleOf value
    changingObject name (ObjectView.set key h)
    return .nothing

/-- Assigns to a handle. A named one is kept with what it then names. -/
def runAssign (target : HandleArg) (source : SourceArg) : CommandStep Answer := do
  let old ← handleOf target
  let source ← sourceOf source
  let (_, new) ← onArena (.starting old (ValueArena.assign source))
  match target with
  | .named name => .modify fun (n, a) => (n.keep name (.handle new), a)
  | _ => pure ()
  return .target new

def run (r : Registry T) : Command → CommandStep Answer
  | .bind h => return .handle (← handleOf h)
  | .create content => return .handle (← onArena (Arena.create content))
  | .createList => return .handle (← onArena Arena.createList)
  | .createObject => return .handle (← onArena Arena.createObject)
  | .decode place delta => do
    let base ← match place with
      | .addr addr => pure addr
      | .handle h => pure (← handleOf h).addr
    match delta with
    | none => return .handle (← reading (·.decode base))
    | some delta =>
      match base.add? delta with
      | none => return .nothing
      | some addr => return .handle (← reading (·.decode addr))
  | .scan page start count => .view fun (_, a) =>
    .ok <| .scanned <| (List.range count).filterMap fun i =>
      (Addr.make? page (start + UInt32.ofNat i)).map a.decode
  | .describe h => return .description (← handleOf h)
  | .equal a b => do
    let a ← handleOf a
    let b ← handleOf b
    return .truth (a == b)
  | .config => return .config (← reading fun a => .ok a.config)
  | .readInteger h => do
    let h ← handleOf h
    return .integer (← reading (·.readInteger h))
  | .readLong h => do
    let h ← handleOf h
    return .long (← reading (·.readLong h))
  | .readDouble h => do
    let h ← handleOf h
    return .double (← reading (·.readDouble h))
  | .readString h => do
    let h ← handleOf h
    return .text (some (← reading (·.readString h)))
  | .setInteger h v => do
    let h ← handleOf h
    onArena (Arena.setInteger h v)
    return .nothing
  | .setLong h v => do
    let h ← handleOf h
    onArena (Arena.setLong h v)
    return .nothing
  | .setDouble h v => do
    let h ← handleOf h
    onArena (Arena.setDouble h v)
    return .nothing
  | .readFunction h => do
    let h ← handleOf h
    return .function (← reading (·.readFunction h))
  | .readNativeIndex h => do
    let h ← handleOf h
    return .word (← reading (·.readNativeIndex h))
  | .resolveFunction h => do
    let h ← handleOf h
    return .text (← reading fun a => r.resolveFunction a h)
  | .resolveObject h => do
    let h ← handleOf h
    return .text (← reading fun a => r.resolveObject a h)
  | .resolveNative h => do
    let h ← handleOf h
    return .text (← reading fun a => r.resolveNative a h)
  | .registrySize => return .registrySize r.size
  | .assign target source => runAssign target source
  | .apply op target source => do
    let target ← handleOf target
    let source ← sourceOf source
    return .double (← onArena (Arena.apply op target source))
  | .sourceKind source => return .kind (← sourceOf source).kind
  | .doubleList vs => return .list (← onArena (Samples.doubleList vs))
  | .personObject => return .object (← onArena Samples.personObject)
  | .numberedObject count => return .object (← onArena (Samples.numberedObject count))
  | .seriesSum rounds limit step =>
    return .series (← onArena (Samples.seriesSum rounds limit step))
  | .listCreate => return .list (← onArena ListView.create)
  | .listOpen h => do
    let h ← handleOf h
    return .list (← reading (ListView.ofHandle · h))
  | .onList name command => runOnList name command
  | .objectCreate => return .object (← onArena ObjectView.create)
  | .objectOpen h => do
    let h ← handleOf h
    return .object (← reading (ObjectView.ofHandle · h))
  | .onObject name command => runOnObject name command

end Command
end ValueArena
