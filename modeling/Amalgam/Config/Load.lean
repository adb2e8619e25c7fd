import Amalgam.Config.Decode
import Amalgam.Toml.Document

/-! Loading settings: the built-in values first, then files in order, then single
values. Later ones win, key by key. -/
namespace Amalgam.Config

/-- A file of settings. One that is not required may be missing or unreadable. -/
structure Layer where
  file : Path
  required : Bool
  deriving DecidableEq, Repr

structure Override where
  key : Key
  value : Value

/-- The path of a file name with `.toml` behind it. Slashes and dots at the end of the
path do not belong to the name. -/
def withToml? (p : Path) : Option Path :=
  match p.components.getLast? with
  | some (.name n) =>
    (trimmed n p.text.reverse).map fun t => ⟨t.reverse ++ ".toml".toList⟩
  | _ => none
where
  /-- Drops what stands behind the last name; the text is kept last first. -/
  trimmed (n : Text) : Text → Option Text
    | [] => none
    | c :: t => if n.reverse.isPrefixOf (c :: t) then some (c :: t) else trimmed n t

def candidates (disk : Disk) (p : Path) : Except Fault (List Path) :=
  let found (p : Path) : List Path := p :: (withToml? p).toList
  if p.isAbsolute then .ok (found p)
  else disk.cwd.map fun cwd => found (cwd.join p)

def relative (p base : Path) : Path :=
  .ofComponents (go p.components base.components)
where
  go : List Path.Component → List Path.Component → List Path.Component
    | c :: cs, d :: ds => if c == d then go cs ds else .parent :: ds.map (fun _ => .parent) ++ c :: cs
    | cs, ds => ds.map (fun _ => .parent) ++ cs

def findFile (disk : Disk) (p : Path) : Except SettingsError Path :=
  match candidates disk p with
  | .error fault => .error (.unreadable fault)
  | .ok paths =>
    match paths.find? disk.isFile with
    | some found => .ok found
    | none => .error (.noSuchFile p)

def readFile (disk : Disk) (p : Path) : Except SettingsError (Path × Text) := do
  let found ← findFile disk p
  let origin := match disk.cwd with
    | .ok cwd => relative found cwd
    | .error _ => found
  match disk.readText found with
  | .error fault => .error (.unreadable fault)
  | .ok text => .ok (origin, text)

/-- Lays a file over a tree. A file that is there has to be well-formed. -/
def layerFile (disk : Disk) (root : Value) (l : Layer) : Except SettingsError Value :=
  match readFile disk l.file with
  | .error e => if l.required then .error e else .ok root
  | .ok (origin, text) =>
    match Toml.parse? text with
    | none => .error .notToml
    | some (.table _ es) => .ok (root.layer (Value.ofEntries (some origin) es))
    | some v => .error (.wrongRoot (Value.ofToml none v).typeName origin)

/-- The overrides in force: of several with one key the last. -/
def lastOverrides (os : List Override) : List Override :=
  os.foldl (fun kept o =>
    if kept.any (·.key == o.key) then kept.map fun k => if k.key == o.key then o else k
    else kept ++ [o]) []

def load (disk : Disk) (layers : List Layer) (overrides : List Override) :
    Except SettingsError Settings := do
  let root := (Value.table none []).layer (defaults {})
  let root ← layers.foldlM (layerFile disk) root
  decode ((lastOverrides overrides).foldl (fun root o => root.set o.key o.value) root)

def parseOverride (key : Text) (value : Value) : Except SettingsError Override :=
  match Key.parse? key with
  | some key => .ok ⟨key, value⟩
  | none => .error .badKey

end Amalgam.Config
