import Amalgam.Terminal

/-! Log records. The program hands them on as data; what is shown of them, and
how, is decided at the end. -/
namespace Amalgam

inductive Level where
  | error | warn | info | debug | trace
  deriving DecidableEq, Repr

inductive Source where
  | program | settings | merge | pipeline | blocks | docLog
  deriving DecidableEq, Repr

structure Record where
  source : Source
  level : Level
  message : String
  deriving DecidableEq, Repr

namespace Level

def rank : Level → Nat
  | .error => 1
  | .warn => 2
  | .info => 3
  | .debug => 4
  | .trace => 5

def label : Level → String
  | .error => "ERROR"
  | .warn => "WARN "
  | .info => "INFO "
  | .debug => "DEBUG"
  | .trace => "TRACE"

end Level

def Source.name : Source → String
  | .program => "precompiler"
  | .settings => "precompiler::precompiler::settings"
  | .merge => "precompiler::precompiler::merging::merger"
  | .pipeline => "precompiler::precompiler::pipeline::executor"
  | .blocks => "precompiler::precompiler::lexing::classifier"
  | .docLog => "precompiler::precompiler::rewriting::doc_log"

/-- One line a record, without controls; further lines of the message are indented. -/
def Record.render (r : Record) : String :=
  let message := Text.replace '\n' "\n    ".toList r.message.toList
  String.ofList (Terminal.plain s!"[{r.level.label}] {String.ofList message}\n".toList)

end Amalgam
