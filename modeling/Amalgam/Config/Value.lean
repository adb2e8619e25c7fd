import Amalgam.Decimal
import Amalgam.Path
import Amalgam.Settings
import Amalgam.Text.Quoted
import Amalgam.Toml.Table

/-! Configuration values as they are layered: a tree in which each value knows the
file it came from. -/
namespace Amalgam.Config

inductive Scalar where
  | nil
  | boolean (b : Bool)
  | integer (n : Int)
  | float (x : Float)
  | text (t : Text)

/-- The origin is the file that gave the value, if one did. -/
inductive Value where
  | scalar (origin : Option Path) (s : Scalar)
  | list (origin : Option Path) (items : List Value)
  | table (origin : Option Path) (entries : List (Text × Value))

namespace Value

def nil : Value := .scalar none .nil

instance : Inhabited Value := ⟨nil⟩

def ofText (t : Text) : Value := .scalar none (.text t)

def origin? : Value → Option Path
  | .scalar o _ => o
  | .list o _ => o
  | .table o _ => o

mutual

def ofToml (origin : Option Path) : Toml.Value → Value
  | .text t => .scalar origin (.text t)
  | .integer n => .scalar origin (.integer n)
  | .float x => .scalar origin (.float x)
  | .boolean b => .scalar origin (.boolean b)
  | .moment t => .scalar origin (.text t)
  | .array items => .list origin (ofItems origin items)
  | .table _ entries => .table origin (ofEntries origin entries)
  | .tables done last =>
    .list origin (ofTables origin done ++ [.table origin (ofEntries origin last)])

def ofItems (origin : Option Path) : List Toml.Value → List Value
  | [] => []
  | v :: vs => ofToml origin v :: ofItems origin vs

def ofEntries (origin : Option Path) : List (Text × Toml.Value) → List (Text × Value)
  | [] => []
  | (k, v) :: es => (k, ofToml origin v) :: ofEntries origin es

def ofTables (origin : Option Path) : List (List (Text × Toml.Value)) → List Value
  | [] => []
  | es :: rest => .table origin (ofEntries origin es) :: ofTables origin rest

end

end Value

def defaults (s : Settings) : List (Text × Value) :=
  let group (name : String) (fields : List (String × Value)) : Text × Value :=
    (name.toList, .table none (fields.map fun (k, v) => (k.toList, v)))
  [group "markers" [
    ("origin_define", .ofText s.markers.originDefine),
    ("comment_prefix", .ofText s.markers.commentLabel)],
  group "doc_log" [
    ("tag", .ofText s.docLog.tag),
    ("format_flag", .ofText s.docLog.formatFlag),
    ("separator_tags", .list none (s.docLog.separatorTags.map .ofText)),
    ("line_length", .scalar none (.integer s.docLog.lineLength)),
    ("sink", .ofText s.docLog.sink)],
  group "visibility" [
    ("from", .ofText s.visibility.label),
    ("to", .ofText s.visibility.replacement)],
  group "annotation" [
    ("wrapper", .ofText s.annotations.wrapper),
    ("attribute", .ofText s.annotations.attributeName)]]

end Amalgam.Config
