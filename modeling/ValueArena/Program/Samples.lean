import ValueArena.Arena.Arithmetic
import ValueArena.Collection.ObjectView

/-!
Small programs over an arena: lists and objects of a known shape, and a running sum whose counters
live in a list.
-/
namespace ValueArena.Samples

def appendDoubles : List Binary64 → ListStep Unit
  | [] => pure ()
  | v :: vs => do
    let h ← .onSecond (Arena.createDouble v)
    let _ ← ListView.append h
    appendDoubles vs

/-- A list of new doubles. -/
def doubleList (vs : List Binary64) : ArenaStep ListView := do
  let view ← ListView.create
  let (_, view) ← .starting view (appendDoubles vs)
  pure view

/-- Adds a key and sets it to a new value. -/
def addEntry (key : String) (create : ArenaStep Handle) : ObjectStep Unit := do
  let _ ← ObjectView.addKey key
  let h ← .onSecond create
  ObjectView.set key h

def addPerson : ObjectStep Unit := do
  addEntry "name" (Arena.createString "lucky")
  addEntry "age" (Arena.createDouble (.ofInt 24))
  addEntry "sex" (Arena.createString "女")

def personObject : ArenaStep ObjectView := do
  let view ← ObjectView.create
  let (_, view) ← .starting view addPerson
  pure view

def numberedKey (index : Nat) : String := "k" ++ Nat.repr index

/-- Adds `count` numbered keys from `index` on, each set to its number. -/
def addNumbered : Nat → Nat → ObjectStep Unit
  | 0, _ => pure ()
  | count + 1, index => do
    addEntry (numberedKey index) (Arena.createDouble (.ofInt index))
    addNumbered count (index + 1)

def numberedObject (count : Nat) : ArenaStep ObjectView := do
  let view ← ObjectView.create
  let (_, view) ← .starting view (addNumbered count 0)
  pure view

/-- Rounds of `sum += i; i += step` through the contents of a list, until `i` exceeds the limit.
Returns whether it came to that within the given number of rounds. -/
def sumRounds (limit step : Binary64) : Nat → ListStep Bool
  | 0 => pure false
  | rounds + 1 => do
    let counter ← ListView.reading fun a => ListView.get a 0
    let value ← .onSecond (.view (·.readDouble counter))
    if value.exceeds limit then pure true
    else
      let sum ← ListView.reading fun a => ListView.get a 1
      let _ ← .onSecond (Arena.apply .add sum (.handle counter))
      let _ ← .onSecond (Arena.apply .add counter (.number step))
      sumRounds limit step rounds

/-- The counter and the sum after the rounds, if `rounds` of them are enough. -/
def seriesSum (rounds : Nat) (limit step : Binary64) :
    ArenaStep (Option (Binary64 × Binary64)) := do
  let i ← Arena.createDouble .zero
  let sum ← Arena.createDouble .zero
  let view ← ListView.create
  let (ended, _) ← .starting view do
    let _ ← ListView.append i
    let _ ← ListView.append sum
    sumRounds limit step rounds
  if ended then
    let last ← .view (·.readDouble i)
    let total ← .view (·.readDouble sum)
    pure (some (last, total))
  else pure none

end ValueArena.Samples
