import Amalgam.Config.Value

/-! Keys name a place in a tree of values: a name, then names behind dots and
numbers in brackets. Letters count alike in both cases. -/
namespace Amalgam.Config

inductive Step where
  | child (name : Text)
  | index (i : Int)
  deriving DecidableEq, Repr

structure Key where
  head : Text
  steps : List Step
  deriving DecidableEq, Repr

namespace Key

def isNameChar (c : Char) : Bool := c.isAlphanum || c == '_' || c == '-' || c == ' '

def digits? (t : Text) : Option Nat :=
  if !t.isEmpty && t.all Char.isDigit then
    some (t.foldl (fun n c => 10 * n + (c.toNat - '0'.toNat)) 0)
  else none

def signed? : Text → Option Int
  | '-' :: t => do
    let n ← digits? t
    if n ≤ 9223372036854775808 then some (-(n : Int)) else none
  | t => do
    let n ← digits? t
    if n < 9223372036854775808 then some (n : Int) else none

def index? (t : Text) : Option Int :=
  signed? (Text.dropWhileEnd Text.isSpaceOrTab (t.dropWhile Text.isSpaceOrTab))

/-- Reads the steps behind a name. There are no more of them than characters. -/
def steps? : (fuel : Nat) → Text → Option (List Step)
  | _, [] => some []
  | 0, _ => none
  | fuel + 1, '.' :: rest => do
    let name := rest.takeWhile isNameChar
    if name.isEmpty then none
    let steps ← steps? fuel (rest.drop name.length)
    return .child name :: steps
  | fuel + 1, '[' :: rest => do
    let number := rest.takeWhile (· != ']')
    let i ← index? number
    let rest ← Text.after? [']'] (rest.drop number.length)
    let steps ← steps? fuel rest
    return .index i :: steps
  | _, _ => none

def parse? (t : Text) : Option Key := do
  let name := t.takeWhile isNameChar
  if name.isEmpty then none
  let steps ← steps? t.length (t.drop name.length)
  return ⟨name, steps⟩

end Key

/-- Lower case, for letters that have it in ASCII; the Kelvin sign is one of them. -/
def foldCase (t : Text) : Text := t.map fun c => if c == '\u212A' then 'k' else c.toLower

namespace Value

def entries : Value → Option Path × List (Text × Value)
  | .table o es => (o, es)
  | _ => (none, [])

def update (name : Text) (f : Value → Value) (v : Value) : Value :=
  let (o, es) := v.entries
  let name := foldCase name
  if (es.lookup name).isSome then
    .table o (es.map fun e => if e.1 == name then (name, f e.2) else e)
  else .table o (es ++ [(name, f nil)])

mutual

/-- Sets an entry. A table is merged into what is there, all else replaces it. -/
def put (v : Value) (name : Text) (new : Value) : Value :=
  match new with
  | .table _ es =>
    let (o, old) := v.entries
    let v : Value :=
      if (old.lookup (foldCase name)).isSome then .table o old
      else .table o (old ++ [(foldCase name, .table none [])])
    v.update name fun old => putAll es old
  | new => v.update name fun _ => new

def putAll : List (Text × Value) → Value → Value
  | [], v => v
  | (name, new) :: es, v => putAll es (put v name new)

end

def position (i : Int) (n : Nat) : Nat := if 0 ≤ i then i.toNat else n - i.natAbs

/-- Changes an item of a list, which is filled up with nil as needed. Any other value
gives way to a new list. -/
def updateAt (i : Int) (f : Value → Value) (v : Value) : Value :=
  let (o, items) := match v with
    | .list o items => (o, items)
    | _ => (none, [])
  let n := position i items.length
  let items := items ++ List.replicate (n + 1 - items.length) nil
  .list o (items.modify n f)

def setSteps (new : Value) : (name : Text) → List Step → Value → Value
  | name, [], v => v.put name new
  | name, .child next :: steps, v => v.update name fun old => setSteps new next steps old
  | name, .index i :: steps, v => v.update name fun old => setIndex new i steps old
where
  setIndex (new : Value) : (i : Int) → List Step → Value → Value
    | i, [], v => v.updateAt i fun _ => new
    | i, .child next :: steps, v => v.updateAt i fun old => setSteps new next steps old
    | i, .index j :: steps, v => v.updateAt i fun old => setIndex new j steps old

def set (v : Value) (key : Key) (new : Value) : Value := setSteps new key.head key.steps v

/-- Lays the entries of a file over a tree. A name that reads as a key is one. -/
def layer (es : List (Text × Value)) (v : Value) : Value :=
  es.foldl (fun v (name, new) =>
    match Key.parse? name with
    | some key => v.set key new
    | none => v.put name new) v

end Value
end Amalgam.Config
