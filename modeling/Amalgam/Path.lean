import Amalgam.Text.Basic

/-! Paths, as written. Two paths count as the same if their components agree, so
repeated slashes, trailing slashes and inner `.` make no difference there; what
is looked up on disk is the text. Every path is a text: names whose bytes are not
UTF-8, which would be shown with replacement characters, are not represented. -/
namespace Amalgam

structure Path where
  text : Text
  deriving DecidableEq, Repr

namespace Path

inductive Component where
  | root | current | parent
  | name (n : Text)
  deriving DecidableEq, Repr

def ofString (s : String) : Path := ⟨s.toList⟩

def toString (p : Path) : String := String.ofList p.text

def isAbsolute (p : Path) : Bool := p.text.head? == some '/'

def pieces (p : Path) : List Text := (Text.splitWhen (· == '/') p.text).filter (!·.isEmpty)

def component? : Text → Option Component
  | ['.'] => none
  | ['.', '.'] => some .parent
  | n => some (.name n)

/-- A `.` counts only at the start of a relative path. -/
def components (p : Path) : List Component :=
  let cs := p.pieces.filterMap component?
  if p.isAbsolute then .root :: cs
  else if p.pieces.head? = some ['.'] then .current :: cs
  else cs

def same (p q : Path) : Bool := p.components == q.components

def join (p q : Path) : Path :=
  if q.isAbsolute then q
  else if p.text.isEmpty || p.text.getLast? == some '/' then ⟨p.text ++ q.text⟩
  else ⟨p.text ++ '/' :: q.text⟩

def Component.text : Component → Text
  | .root => []
  | .current => ['.']
  | .parent => ['.', '.']
  | .name n => n

def ofComponents : List Component → Path
  | [.root] => ⟨['/']⟩
  | cs => ⟨List.intercalate ['/'] (cs.map Component.text)⟩

/-- Adds a component to a list kept last first. `..` takes back a name, stays at
the root, and is kept where there is nothing to take back. -/
def push : List Component → Component → List Component
  | cs, .current => cs
  | .name _ :: cs, .parent => cs
  | .root :: cs, .parent => .root :: cs
  | cs, c => c :: cs

/-- Resolves `.` and `..` in the text alone, so `a/link/../b` becomes `a/b`
whatever `link` is. -/
def normalize (p : Path) : Path := ofComponents (p.components.foldl push []).reverse

def absolutize (p base : Path) : Path := normalize (base.join p)

end Path
end Amalgam
