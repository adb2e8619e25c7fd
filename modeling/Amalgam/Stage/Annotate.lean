import Amalgam.Classify
import Amalgam.Settings

/-! The annotation stage turns `[[x]]` in code into `WRAPPER([[ATTRIBUTE("x")]])`. -/
namespace Amalgam.Annotate

/-- The inside of the string literal: spaces and newlines go, quotes are escaped. -/
def payload (inner : Text) : Text :=
  Text.replace '"' ['\\', '"'] (inner.filter fun c => c != '\n' && c != ' ')

/-- Newlines of the annotation follow what replaces it, so that later lines keep
their numbers. -/
def replacement (s : AnnotationSettings) (inner : Text) : Text :=
  s.wrapper ++ "([[".toList ++ s.attributeName ++ "(\"".toList ++ payload inner ++
    "\")]])".toList ++ List.replicate (Text.newlines inner) '\n'

def renderBlock (s : AnnotationSettings) (b : Block) : Text :=
  match b.kind with
  | .construct => replacement s ((b.capture? 1).getD [])
  | _ => b.text

def render (s : AnnotationSettings) (blocks : List Block) : Text :=
  blocks.flatMap (renderBlock s)

end Amalgam.Annotate
