import Amalgam.Pattern.Basic
import Amalgam.Pattern.Error

/-! Reading the text of a pattern: where the reading stands, which flags are set, and the
steps that everything else is made of. The first fault ends the reading. -/
namespace Amalgam.Pattern

structure Flags where
  anyCase : Bool := false
  multiLine : Bool := false
  /-- A dot stands for newlines too. -/
  dotAll : Bool := false
  crlf : Bool := false
  /-- Blanks and comments in the pattern mean nothing. -/
  spaced : Bool := false
  /-- Classes know ASCII only. -/
  ascii : Bool := false
  deriving DecidableEq, Repr

namespace Flags

/-- Sets a flag by its letter; nothing if there is no such flag. Whether a repetition takes
much or little makes no difference to what is found. -/
def set? (f : Flags) (on : Bool) : Char → Option Flags
  | 'i' => some { f with anyCase := on }
  | 'm' => some { f with multiLine := on }
  | 's' => some { f with dotAll := on }
  | 'R' => some { f with crlf := on }
  | 'x' => some { f with spaced := on }
  | 'u' => some { f with ascii := !on }
  | 'U' => some f
  | _ => none

def fold (f : Flags) (s : CharSet) : CharSet :=
  if !f.anyCase then s
  else if f.ascii then .union s (.inter (.anyCase s) .ascii)
  else .anyCase s

def dot (f : Flags) : CharSet :=
  if f.dotAll then .any
  else .compl (if f.crlf then .union (.one '\n') (.one '\r') else .one '\n')

def word (f : Flags) : CharSet :=
  if f.ascii then (CharSet.named? "word").getD .empty else .word

/-- The class that a letter behind a backslash stands for; a capital stands for the rest. -/
def letterClass? (f : Flags) (c : Char) : Option CharSet :=
  let positive? : Option CharSet := match c.toLower with
    | 'd' => some (if f.ascii then .range '0' '9' else .decimal)
    | 's' => some (if f.ascii then (CharSet.named? "space").getD .empty else .blank)
    | 'w' => some f.word
    | _ => none
  positive?.map fun s => if c.isUpper then .compl s else s

end Flags

structure Cursor where
  rest : Text
  position : Nat := 0
  flags : Flags := {}
  /-- The names of groups, and where they stand. -/
  names : List (Text × Span) := []
  /-- A fault that counts if there is no other. -/
  deferred : Option PatternError := none

abbrev Reading := StateT Cursor (Except PatternError)

namespace Reading

def fail {α : Type} (fault : PatternFault) (start stop : Nat) : Reading α :=
  throw { fault, span := ⟨start, stop⟩ }

/-- Notes a fault that counts only if the whole pattern can be read. -/
def defer (fault : PatternFault) (start stop : Nat) : Reading Unit :=
  modify fun c => { c with deferred := c.deferred <|> some { fault, span := ⟨start, stop⟩ } }

def position : Reading Nat := do return (← get).position

def flags : Reading Flags := do return (← get).flags

def next? : Reading (Option Char) := do return (← get).rest.head?

def drop (n : Nat) : Reading Unit :=
  modify fun c => { c with rest := c.rest.drop n, position := c.position + n }

def afterBlanks : (comment : Bool) → Text → Text
  | _, [] => []
  | true, c :: cs => afterBlanks (c != '\n') cs
  | false, c :: cs =>
    if Text.isBlank c then afterBlanks false cs
    else if c = '#' then afterBlanks true cs else c :: cs

def skipBlanks : Reading Unit := do
  let c ← get
  if c.flags.spaced then drop (c.rest.length - (afterBlanks false c.rest).length)

def bump : Reading Unit := do
  drop 1
  skipBlanks

def atEnd : Reading Bool := do return (← next?).isNone

def take? (t : Text) : Reading Bool := do
  if t.isPrefixOf (← get).rest then
    drop t.length
    return true
  return false

end Reading
end Amalgam.Pattern
