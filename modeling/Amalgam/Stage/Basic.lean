import Amalgam.Log.Record
import Amalgam.Stage.Annotate
import Amalgam.Stage.DocLog
import Amalgam.Stage.Visibility

/-! Stages change a text block by block, each with its own matcher. -/
namespace Amalgam

inductive Stage where
  | visibility | docLog | annotate
  deriving DecidableEq, Repr

structure StageError where
  stage : Stage
  cause : Unterminated
  deriving DecidableEq, Repr

namespace Stage

def name : Stage → String
  | .visibility => "visibility"
  | .docLog => "doc-log"
  | .annotate => "annotation"

def matcher (settings : Settings) : Stage → Matcher
  | .visibility => Visibility.matcher settings.visibility
  | .docLog => .never
  | .annotate => .annotations

/-- The text that a stage makes of the blocks it has read. -/
def render (settings : Settings) : Stage → List Block → Text
  | .visibility => Visibility.render settings.visibility
  | .docLog => DocLog.render settings.docLog
  | .annotate => Annotate.render settings.annotations

def apply (settings : Settings) (stage : Stage) (text : Text) : Except StageError Text :=
  match classify (stage.matcher settings) text with
  | .ok blocks => .ok (stage.render settings blocks)
  | .error e => .error ⟨stage, e⟩

def applyAll (settings : Settings) : List Stage → Text → Except StageError Text
  | [], text => .ok text
  | stage :: stages, text =>
    match stage.apply settings text with
    | .ok changed => applyAll settings stages changed
    | .error e => .error e

end Stage

def StageError.message (e : StageError) : String :=
  s!"stage '{e.stage.name}' failed: {e.cause.message}"

namespace Stage

def blockRecord? (b : Block) (span : Span) : Option Record :=
  match b.kind with
  | .code => none
  | kind => some ⟨.blocks, .trace, s!"{kind.name} at {span.start}..{span.stop}"⟩

def replacedRecord? (s : DocLogSettings) (b : Block) (span : Span) : Option Record :=
  match DocLog.tagged? s b with
  | none => none
  | some _ =>
    some ⟨.docLog, .trace, s!"doc-log: rewriting comment at {span.start}..{span.stop}"⟩

/-- What is logged while a stage runs: the blocks it reads, also if it fails, and
the comments it replaces. -/
def records (settings : Settings) (stage : Stage) (text : Text) : List Record :=
  let reading := read (stage.matcher settings) text
  let blocks := reading.blocks.zip (Block.byteSpans 0 reading.blocks)
  blocks.filterMap (fun (b, span) => blockRecord? b span) ++
    match stage, reading.failure with
    | .docLog, none => blocks.filterMap fun (b, span) => replacedRecord? settings.docLog b span
    | _, _ => []

def recordsAll (settings : Settings) : List Stage → Text → List Record
  | [], _ => []
  | stage :: stages, text =>
    ⟨.pipeline, .debug, s!"running stage '{stage.name}'"⟩ :: stage.records settings text ++
      match stage.apply settings text with
      | .ok changed => recordsAll settings stages changed
      | .error _ => []

end Stage
end Amalgam
