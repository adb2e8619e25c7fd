import Amalgam.CommandLine
import Amalgam.Config.Load
import Amalgam.Execute
import Amalgam.Log.Filter

/-! The program as a whole: what a command line makes of what can be read, what is
then written, and what is shown. -/
namespace Amalgam

structure Outcome where
  exitCode : Nat
  stdout : String := ""
  stderr : String := ""
  deriving DecidableEq, Repr

namespace Program

def localSettings : Path := .ofString "precompiler.toml"

def layers (o : Options) : List Config.Layer :=
  ⟨localSettings, false⟩ :: o.config.toList.map fun p => ⟨⟨p⟩, true⟩

def overrides (o : Options) : List Config.Override :=
  o.lineLength.toList.map fun (n : Nat) =>
    ⟨⟨"doc_log".toList, [.child "line_length".toList]⟩, .scalar none (.integer n)⟩

def layerRecord (l : Config.Layer) : Record :=
  ⟨.settings, .debug, s!"settings: layering {l.file.toString} (required: {l.required})"⟩

def listPipelines (r : Registry) : String :=
  "Available pipelines:\n\n" ++ String.join (r.pipelines.map fun p =>
    let stages := ", ".intercalate (p.stages.map Stage.name)
    let aliases := ", ".intercalate p.aliases
    s!"  {p.name}\n    {p.description}\n    stages: merge, {stages}\n" ++
      (if p.aliases.isEmpty then "" else s!"    aliases: {aliases}\n") ++ "\n")

def failure (x : Executor) (name : String) (e : PipelineError) : String :=
  s!"Error: {e.message}\n" ++
    if (x.registry.get? name).isSome then ""
    else "\nAvailable pipelines:\n" ++ String.join (x.registry.pipelines.map fun p =>
      s!"  {p.name} - {p.description}\n")

inductive Plan where
  | stop (outcome : Outcome)
  /-- A result is written; `shown` is what was shown before. -/
  | write (shown : Outcome) (result : Output) (output : Path) (report : Option Path)

structure Logging where
  filter : Filter := {}
  otherwise : Threshold
  warnings : String := ""

/-- `filter` is what was asked for beside the command line. -/
def Logging.of (verbosity : Nat) (filter : Option Text) : Logging :=
  let (filter, faults) := Filter.parse (filter.getD [])
  let warnings := faults.map fun e => s!"warning: {e.message}, ignoring it\n"
  ⟨filter, .ofVerbosity verbosity, String.join warnings⟩

def Logging.render (l : Logging) (records : List Record) : String :=
  String.join ((records.filter (l.filter.shows l.otherwise)).map Record.render)

/-- Runs a pipeline up to the point where its result is to be written. -/
def prepare (disk : Disk) (logging : Logging) (o : Options) : Plan :=
  let layered := (layers o).map layerRecord
  let stop (records : List Record) (stderr : String) : Plan :=
    .stop ⟨1, logging.render records, logging.warnings ++ stderr⟩
  match Config.load disk (layers o) (overrides o) with
  | .error .notToml => stop layered s!"Configuration error: {SettingsError.notToml.message}"
  | .error e => stop layered s!"Configuration error: {e.message}\n"
  | .ok settings =>
    match SearchPaths.fromCwd disk (o.includePaths.map fun p => ⟨p⟩) with
    | .error e => stop layered s!"Error: {e.message}\n"
    | .ok search =>
      let x : Executor := ⟨.standard, settings⟩
      let name := (o.pipeline.map String.ofList).getD "full"
      let root : Path := ⟨o.srcFile.getD []⟩
      let records := layered ++
        search.dirs.map (fun d => ⟨.program, .info, s!"include path: {d.toString}"⟩) ++
        x.records disk name root search
      match x.execute disk name root search with
      | .error e => stop records (failure x name e)
      | .ok result =>
        .write ⟨0, logging.render records, logging.warnings⟩ result ⟨o.outputFile.getD []⟩
          (o.report.map fun p => ⟨p⟩)

def plan (disk : Disk) (words : List Text) (filter : Option Text) : Plan :=
  match CommandLine.parse words with
  | .error .help => .stop ⟨0, helpText, ""⟩
  | .error .version => .stop ⟨0, versionText, ""⟩
  | .error (.usage e) => .stop ⟨2, "", e.message⟩
  | .ok o =>
    let logging := Logging.of o.verbosity filter
    if o.listPipelines then .stop ⟨0, listPipelines .standard, logging.warnings⟩
    else prepare disk logging o

/-- The paths that a run may read, as far as what was read so far tells: files of
settings, the root, and each place at which an include is looked for. -/
def wanted (disk : Disk) (words : List Text) : List Path :=
  match CommandLine.parse words with
  | .error _ => []
  | .ok o =>
    if o.listPipelines then []
    else
      let settings := (layers o).flatMap fun l =>
        (Config.candidates disk l.file).toOption.getD []
      match disk.cwd with
      | .error _ => settings
      | .ok cwd =>
        let search := SearchPaths.withBase (o.includePaths.map fun p => ⟨p⟩) cwd
        let headers := (disk.texts.flatMap Directive.all).flatMap fun d =>
          (search.candidates ⟨d.target⟩).flatMap fun p => [p, SearchPaths.settle disk p]
        settings ++ Path.absolutize ⟨o.srcFile.getD []⟩ cwd :: headers

def finish (shown : Outcome) : Except PipelineError Output → Outcome
  | .ok _ => shown
  | .error e => { shown with exitCode := 1, stderr := shown.stderr ++ s!"Error: {e.message}\n" }

def run (t : FileTree) (base : WorkingDir) (words : List Text) (filter : Option Text) :
    FileTree × Outcome :=
  match plan (t.disk base) words filter with
  | .stop outcome => (t, outcome)
  | .write shown result output report =>
    let (t, written) := Executor.writeAll t base output report result
    (t, finish shown written)

end Program
end Amalgam
