import Amalgam.Config.Key
import Amalgam.Disk

/-! From a tree of values to settings. A text may also be given as a number or a
boolean, a count as a text, a boolean or a fraction, and a section as a list of
its fields. -/
namespace Amalgam

inductive SettingsError where
  | wrongType (found expected : String) (key : String) (origin : Option Path)
  /-- A value of another shape than a section or list. -/
  | wrongShape (found expected : String)
  | wrongLength (length : Nat) (group : String) (fields : Nat)
  | missingField (name : String)
  | noSuchFile (name : Path)
  | unreadable (fault : Fault)
  | notToml
  | wrongRoot (found : String) (origin : Path)
  | badKey

def SettingsError.message : SettingsError → String
  | .wrongType found expected key origin =>
    let place := match origin with
      | some path => s!" in {path.toString}"
      | none => ""
    s!"invalid type: {found}, expected {expected} for key `{key}`{place}"
  | .wrongShape found expected => s!"invalid type: {found}, expected {expected}"
  | .wrongLength length group fields =>
    s!"invalid length {length}, expected struct {group} with {fields} elements"
  | .missingField name => s!"missing field `{name}`"
  | .noSuchFile name => s!"configuration file \"{name.toString}\" not found"
  | .unreadable fault => fault.message
  | .notToml => "TOML parse error"
  | .wrongRoot found origin =>
    s!"invalid type: {found}, expected a map in {origin.toString} in {origin.toString}"
  | .badKey => "invalid key"

namespace Config

def shownText (t : Text) : String := "string " ++ String.ofList t.quoted

def shownFloat (x : Float) : Text :=
  let t := (Binary.ofFloat x).text
  if x.isFinite && !t.contains '.' then t ++ ".0".toList else t

def Value.typeName : Value → String
  | .scalar _ .nil => "unit value"
  | .scalar _ (.boolean b) => s!"boolean `{b}`"
  | .scalar _ (.integer n) => s!"64-bit integer `{n}`"
  | .scalar _ (.float x) => s!"floating point `{String.ofList (shownFloat x)}`"
  | .scalar _ (.text t) => shownText t
  | .list _ _ => "sequence"
  | .table _ _ => "map"

def Value.shapeName : Value → String
  | .scalar _ (.integer n) => s!"integer `{n}`"
  | v => v.typeName

def wrongType {α : Type} (v : Value) (expected key : String) : Except SettingsError α :=
  .error (.wrongType v.typeName expected key v.origin?)

def decodeText (key : String) (v : Value) : Except SettingsError Text :=
  match v with
  | .scalar _ (.text t) => .ok t
  | .scalar _ (.boolean b) => .ok (toString b).toList
  | .scalar _ (.integer n) => .ok (toString n).toList
  | .scalar _ (.float x) => .ok (Binary.ofFloat x).text
  | v => wrongType v "a string" key

def maxCount : Nat := 18446744073709551615

def countText? (t : Text) : Option Nat := do
  let digits := match t with
    | '+' :: rest => rest
    | t => t
  let n ← Key.digits? digits
  if n ≤ maxCount then some n else none

def switch? (t : Text) : Option Nat :=
  let word := String.ofList (foldCase t)
  if ["true", "on", "yes"].contains word then some 1
  else if ["false", "off", "no"].contains word then some 0
  else none

def decodeCount (key : String) (v : Value) : Except SettingsError Nat :=
  match v with
  | .scalar _ (.integer n) =>
    if 0 ≤ n then .ok n.toNat else wrongType v "an unsigned 64 bit or less integer" key
  | .scalar _ (.float x) => .ok ((Binary.ofFloat x).toNat maxCount)
  | .scalar _ (.boolean b) => .ok b.toNat
  | .scalar _ (.text t) =>
    match (switch? t).or (countText? t) with
    | some n => .ok n
    | none => wrongType v "an integer" key
  | v => wrongType v "an integer" key

def decodeItems (key : String) (i : Nat) : List Value → Except SettingsError (List Text)
  | [] => .ok []
  | v :: vs => do
    let t ← decodeText s!"{key}[{i}]" v
    let ts ← decodeItems key (i + 1) vs
    return t :: ts

def decodeTexts (key : String) (v : Value) : Except SettingsError (List Text) :=
  match v with
  | .list _ items => decodeItems key 0 items
  | v => .error (.wrongShape v.shapeName "a sequence")

/-- A group of fields: the key it stands under, its name and how many fields it has. -/
structure Section where
  key : String
  name : String
  fields : Nat
  value : Value

namespace Section

/-- Takes field number `i` of a section, if it is there. In a list every field has to
be. -/
def field? {α : Type} (s : Section) (i : Nat) (name : String)
    (decode : String → Value → Except SettingsError α) : Except SettingsError (Option α) :=
  match s.value with
  | .table _ entries =>
    match entries.lookup name.toList with
    | none => .ok none
    | some v => (decode s!"{s.key}.{name}" v).map some
  | .list _ items =>
    match items[i]? with
    | none => .error (.wrongLength i s.name s.fields)
    | some v => (decode s!"{s.key}[{i}]" v).map some
  | v => .error (.wrongShape v.shapeName s!"struct {s.name}")

/-- A field that a table lacks is missed once the others are read. -/
def need {α : Type} (name : String) : Option α → Except SettingsError α
  | some a => .ok a
  | none => .error (.missingField name)

end Section

def decodePair (s : Section) (first second : String) : Except SettingsError (Text × Text) := do
  let a ← s.field? 0 first decodeText
  let b ← s.field? 1 second decodeText
  let a ← Section.need first a
  let b ← Section.need second b
  return (a, b)

def decodeDocLog (s : Section) : Except SettingsError DocLogSettings := do
  let tag ← s.field? 0 "tag" decodeText
  let flag ← s.field? 1 "format_flag" decodeText
  let tags ← s.field? 2 "separator_tags" decodeTexts
  let length ← s.field? 3 "line_length" decodeCount
  let sink ← s.field? 4 "sink" decodeText
  let tag ← Section.need "tag" tag
  let flag ← Section.need "format_flag" flag
  let tags ← Section.need "separator_tags" tags
  let length ← Section.need "line_length" length
  let sink ← Section.need "sink" sink
  return ⟨tag, flag, tags, length, sink⟩

/-- The settings that a tree holds. Unknown keys are passed over. -/
def decode (root : Value) : Except SettingsError Settings := do
  let group (key name : String) (fields : Nat) : Section :=
    ⟨key, name, fields, ((root.entries.2.lookup key.toList).getD .nil)⟩
  let (define, comment) ← decodePair (group "markers" "MarkerSettings" 2)
    "origin_define" "comment_prefix"
  let docLog ← decodeDocLog (group "doc_log" "DocLogSettings" 5)
  let (label, replacement) ← decodePair (group "visibility" "VisibilitySettings" 2) "from" "to"
  let (wrapper, attributeName) ← decodePair (group "annotation" "AnnotationSettings" 2)
    "wrapper" "attribute"
  return ⟨⟨define, comment⟩, docLog, ⟨label, replacement⟩, ⟨wrapper, attributeName⟩⟩

end Config
end Amalgam
