import Amalgam.FileTree
import Amalgam.Merge.Basic
import Amalgam.Pipeline

/-! Running a pipeline: a root is merged, the stages change the merged text, and
the result may be written to files. -/
namespace Amalgam

inductive PipelineError where
  | unknown (name : String)
  | merge (e : MergeError)
  | stage (e : StageError)
  | write (path : Path) (fault : Fault)
  deriving DecidableEq, Repr

def PipelineError.message : PipelineError → String
  | .unknown name => s!"pipeline '{name}' not found"
  | .merge e => e.message
  | .stage e => e.message
  | .write path fault => s!"failed to write '{path.toString}': {fault.message}"

structure Executor where
  registry : Registry := .standard
  settings : Settings := {}

namespace Executor

/-- The pipeline is looked up before anything is read. -/
def execute (x : Executor) (disk : Disk) (name : String) (root : Path) (search : SearchPaths) :
    Except PipelineError Output :=
  match x.registry.get? name with
  | none => .error (.unknown name)
  | some pipeline =>
    match merge disk search x.settings.markers root with
    | .error e => .error (.merge e)
    | .ok merged =>
      match Stage.applyAll x.settings pipeline.stages merged.text with
      | .error e => .error (.stage e)
      | .ok text => .ok ⟨text, merged.report⟩

def records (x : Executor) (disk : Disk) (name : String) (root : Path) (search : SearchPaths) :
    List Record :=
  match x.registry.get? name with
  | none => []
  | some pipeline =>
    ⟨.pipeline, .info, s!"pipeline '{pipeline.name}' on {root.toString}"⟩ ::
      Merge.records disk search root ++
      match merge disk search x.settings.markers root with
      | .error _ => []
      | .ok merged => Stage.recordsAll x.settings pipeline.stages merged.text

end Executor

namespace FileTree

def staging (path : Path) : Path := ⟨path.text ++ ".tmp".toList⟩

/-- Writes a text beside `path` and moves it there. If the move fails, the file
beside is removed. Gives the tree as it then is, and what went wrong. -/
def replaceFileWithin (room : Room) (t : FileTree) (base : WorkingDir) (path : Path)
    (text : Text) : FileTree × Option Fault :=
  match t.writeWithin room base (staging path) (String.ofList text).toUTF8 with
  | (written, some e) => (written, some e)
  | (written, none) =>
    match written.rename base (staging path) path with
    | .ok renamed => (renamed, none)
    | .error e =>
      match written.remove base (staging path) with
      | .ok removed => (removed, some e)
      | .error _ => (written, some e)

def replaceFile (t : FileTree) (base : WorkingDir) (path : Path) (text : Text) :
    FileTree × Option Fault :=
  t.replaceFileWithin .endless base path text

end FileTree

namespace Executor

/-- Writes the output first, then the report, if one is wanted. -/
def writeAllWithin (room : FileTree.Room) (t : FileTree) (base : WorkingDir) (output : Path)
    (report : Option Path) (result : Output) : FileTree × Except PipelineError Output :=
  match t.replaceFileWithin room base output result.text with
  | (t, some e) => (t, .error (.write output e))
  | (t, none) =>
    match report with
    | none => (t, .ok result)
    | some path =>
      match t.replaceFileWithin room base path result.report.json with
      | (t, some e) => (t, .error (.write path e))
      | (t, none) => (t, .ok result)

def writeAll (t : FileTree) (base : WorkingDir) (output : Path) (report : Option Path)
    (result : Output) : FileTree × Except PipelineError Output :=
  writeAllWithin .endless t base output report result

/-- Nothing is written unless the pipeline succeeds. -/
def executeToFileWithin (room : FileTree.Room) (x : Executor) (t : FileTree) (base : WorkingDir)
    (name : String) (root : Path) (search : SearchPaths) (output : Path) (report : Option Path) :
    FileTree × Except PipelineError Output :=
  match x.execute (t.disk base) name root search with
  | .error e => (t, .error e)
  | .ok result => writeAllWithin room t base output report result

def executeToFile (x : Executor) (t : FileTree) (base : WorkingDir) (name : String)
    (root : Path) (search : SearchPaths) (output : Path) (report : Option Path) :
    FileTree × Except PipelineError Output :=
  x.executeToFileWithin .endless t base name root search output report

end Executor
end Amalgam
