import Amalgam.Merge.Report
import Amalgam.Search

/-! Merging: every include that can be resolved is replaced by the file it names,
once. A file that was merged before, the root among them, leaves an empty line
instead; an include that cannot be resolved stays. -/
namespace Amalgam

inductive MergeError where
  | read (path : Path) (fault : Fault)
  | emptyHeader (path : Path)
  | workingDirectory (fault : Fault)
  /-- Includes are nested deeper than there are files to include. -/
  | nesting
  deriving DecidableEq, Repr

def MergeError.message : MergeError → String
  | .read path fault => s!"failed to read '{path.toString}': {fault.message}"
  | .emptyHeader path => s!"included header '{path.toString}' is empty"
  | .workingDirectory fault =>
    s!"failed to determine the current working directory: {fault.message}"
  | .nesting => "includes are nested too deeply"

def SearchPaths.fromCwd (disk : Disk) (dirs : List Path) : Except MergeError SearchPaths :=
  match disk.cwd with
  | .ok cwd => .ok (.withBase dirs cwd)
  | .error fault => .error (.workingDirectory fault)

structure Visited where
  paths : List Path := []
  deriving DecidableEq, Repr

namespace Visited

def contains (v : Visited) (p : Path) : Bool := v.paths.any p.same

def visit? (v : Visited) (p : Path) : Option Visited :=
  if v.contains p then none else some ⟨p :: v.paths⟩

end Visited

structure Progress where
  events : List Event
  visited : Visited
  failure : Option MergeError := none
  deriving DecidableEq, Repr

namespace Progress

def after (events : List Event) (p : Progress) : Progress :=
  { p with events := events ++ p.events }

def andThen (p : Progress) (next : Visited → Progress) : Progress :=
  match p.failure with
  | none => (next p.visited).after p.events
  | some _ => p

end Progress

namespace Merge

/-- An included file has to hold something. -/
def readHeader (disk : Disk) (path : Path) : Except MergeError Text :=
  match disk.readText path with
  | .error fault => .error (.read path fault)
  | .ok [] => .error (.emptyHeader path)
  | .ok text => .ok text

/-- Merges the lines of `file` from line `number` on. `inner` merges an included
file. -/
def lines (disk : Disk) (search : SearchPaths) (inner : Path → Text → Visited → Progress)
    (file : Path) : (number : Nat) → List Text → Visited → Progress
  | _, [], visited => ⟨[], visited, none⟩
  | number, line :: rest, visited =>
    let goOn (events : List Event) (visited : Visited) : Progress :=
      (lines disk search inner file (number + 1) rest visited).after events
    if isPragmaOnce line then goOn [.pragmaOnce file number] visited
    else match Directive.parse? line number with
      | none => goOn [.copied file number line] visited
      | some d =>
        match search.resolve? disk d with
        | none => goOn [.external ⟨file, d⟩ line] visited
        | some path =>
          match visited.visit? path with
          | none => goOn [.elided ⟨file, d⟩ path] visited
          | some visited =>
            match readHeader disk path with
            | .error e => ⟨[.inlined ⟨file, d⟩ path], visited, some e⟩
            | .ok header =>
              ((inner path header visited).after [.inlined ⟨file, d⟩ path]).andThen
                (goOn [.leave path, .resume file (number + 1)])

def file (disk : Disk) (search : SearchPaths) : (depth : Nat) → Path → Text → Visited → Progress
  | 0, _, _, visited => ⟨[], visited, some .nesting⟩
  | depth + 1, path, source, visited =>
    (lines disk search (file disk search depth) path 1 source.lines visited).after [.enter path]

/-- All that the includes of `source`, and of every file on disk, resolve to. -/
def reachable (disk : Disk) (search : SearchPaths) (source : Text) : List Path :=
  ((source :: disk.texts).flatMap Directive.all).filterMap (search.resolve? disk)

/-- Merges `source` as the text of `root`. Each nested file was not merged before, so
the depth is bounded by the number of files that can be reached. -/
def source (disk : Disk) (search : SearchPaths) (root : Path) (source : Text) : Progress :=
  (file disk search ((reachable disk search source).length + 1) root source ⟨[root]⟩).after
    [.origin root]

def openRoot (disk : Disk) (root : Path) : Except MergeError (Path × Text) :=
  match disk.cwd with
  | .error fault => .error (.workingDirectory fault)
  | .ok cwd =>
    let path := root.absolutize cwd
    match disk.readText path with
    | .error fault => .error (.read path fault)
    | .ok text => .ok (path, text)

end Merge

structure Output where
  text : Text
  report : Report
  deriving DecidableEq, Repr

def Progress.output (p : Progress) (markers : MarkerSettings) (root : Path) :
    Except MergeError Output :=
  match p.failure with
  | some e => .error e
  | none => .ok ⟨Event.text markers p.events, .ofEvents root p.events⟩

def mergeSource (disk : Disk) (search : SearchPaths) (markers : MarkerSettings) (root : Path)
    (source : Text) : Except MergeError Output :=
  (Merge.source disk search root source).output markers root

def merge (disk : Disk) (search : SearchPaths) (markers : MarkerSettings) (root : Path) :
    Except MergeError Output :=
  match Merge.openRoot disk root with
  | .error e => .error e
  | .ok (path, source) => mergeSource disk search markers path source

def Merge.records (disk : Disk) (search : SearchPaths) (root : Path) : List Record :=
  match Merge.openRoot disk root with
  | .error _ => []
  | .ok (path, text) => (Merge.source disk search path text).events.filterMap Event.record?

end Amalgam
