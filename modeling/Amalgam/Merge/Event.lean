import Amalgam.Include
import Amalgam.Log.Record
import Amalgam.Path
import Amalgam.Settings

/-! A merge is the list of what happened to each line. The merged text, the
report and the log are views on that list. -/
namespace Amalgam

structure Site where
  file : Path
  directive : Directive
  deriving DecidableEq, Repr

inductive Event where
  | origin (root : Path)
  | enter (file : Path)
  | pragmaOnce (file : Path) (number : Nat)
  | copied (file : Path) (number : Nat) (line : Text)
  /-- An include that names no file here stays as it is. -/
  | external (site : Site) (line : Text)
  /-- An include of a file that was already merged leaves an empty line. -/
  | elided (site : Site) (resolved : Path)
  /-- The file at `path` is about to be read and put in place of an include. -/
  | inlined (site : Site) (path : Path)
  | leave (path : Path)
  | resume (file : Path) (number : Nat)
  deriving DecidableEq, Repr

def Path.escaped (p : Path) : Text :=
  Text.replace '"' ['\\', '"'] (Text.replace '\\' ['\\', '\\'] p.text)

/-- Tells the compiler that the next line is line `number` of `file`. -/
def lineDirective (number : Nat) (file : Path) : Text :=
  "#line ".toList ++ (toString number).toList ++ " \"".toList ++ file.escaped ++ ['"']

namespace Event

def line? (markers : MarkerSettings) : Event → Option Text
  | .origin root =>
    some ("#define ".toList ++ markers.originDefine ++ " (\"".toList ++ root.escaped ++
      "\")".toList)
  | .enter file => some (lineDirective 1 file)
  | .pragmaOnce _ _ =>
    some ("// ".toList ++ markers.commentLabel ++ ": #pragma once".toList)
  | .copied _ _ line => some line
  | .external _ line => some line
  | .elided _ _ => some []
  | .inlined _ _ => none
  | .leave path =>
    some ("// ".toList ++ markers.commentLabel ++ ": end of file ".toList ++ path.text)
  | .resume file number => some (lineDirective number file)

def record? : Event → Option Record
  | .external ⟨file, d⟩ _ => some ⟨.merge, .debug,
      s!"{file.toString}:{d.line}: leaving external include '{String.ofList d.target}'"⟩
  | .elided ⟨file, d⟩ resolved => some ⟨.merge, .debug,
      s!"{file.toString}:{d.line}: '{resolved.toString}' already merged"⟩
  | .inlined _ path => some ⟨.merge, .info, s!"resolved -> {path.toString}"⟩
  | _ => none

def text (markers : MarkerSettings) (events : List Event) : Text :=
  List.intercalate ['\n'] (events.filterMap (line? markers))

end Event
end Amalgam
