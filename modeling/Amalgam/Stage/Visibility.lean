import Amalgam.Classify
import Amalgam.Settings

/-! The visibility stage gives access labels in code another name. The character
in front of a label and the blanks before its colon stay. -/
namespace Amalgam.Visibility

def matcher (s : VisibilitySettings) : Matcher := .label s.label

def renderBlock (s : VisibilitySettings) (b : Block) : Text :=
  match b.kind with
  | .construct => (b.capture? 1).getD [] ++ s.replacement ++ (b.capture? 3).getD []
  | _ => b.text

def render (s : VisibilitySettings) (blocks : List Block) : Text :=
  blocks.flatMap (renderBlock s)

end Amalgam.Visibility
