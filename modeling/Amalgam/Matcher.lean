import Amalgam.Block
import Amalgam.Text.Alphanumeric
import Amalgam.Text.Blank

/-! Matchers find the constructs that a stage replaces. Asked for a text and a
position, a matcher gives the first match at or after it. -/
namespace Amalgam

def Span.shift (n : Nat) (s : Span) : Span := ⟨n + s.start, n + s.stop⟩

structure Match where
  span : Span
  groups : List (Option Span)
  deriving DecidableEq, Repr

def Match.shift (n : Nat) (m : Match) : Match :=
  ⟨m.span.shift n, m.groups.map (·.map (Span.shift n))⟩

abbrev Matcher := Text → Nat → Option Match

namespace Matcher

/-- What the rest of a tool relies on: a match starts where it is asked for or
later, and lies in the text. -/
def Lawful (m : Matcher) (text : Text) : Prop :=
  ∀ start found, start ≤ text.length → m text start = some found →
    start ≤ found.span.start ∧ found.span.start ≤ found.span.stop ∧
      found.span.stop ≤ text.length

def never : Matcher := fun _ _ => none

/-- The leftmost match of a pattern that is tried at each position. The pattern
answers for a text that starts there. -/
def leftmost (pattern : Text → Option Match) : Matcher := fun text start =>
  (Text.leftmost pattern (text.drop start)).map fun (n, found) => found.shift (start + n)

def annotationAt? : Text → Option Match
  | '[' :: '[' :: rest =>
    let n := (rest.takeWhile (· != ']')).length
    if [']', ']'].isPrefixOf (rest.drop n) then
      some ⟨⟨0, n + 4⟩, [some ⟨0, n + 4⟩, some ⟨2, n + 2⟩]⟩
    else none
  | _ => none

/-- Finds `[[...]]`. The group is what stands between the brackets. -/
def annotations : Matcher := leftmost annotationAt?

/-- The label whose name stands at `name`. In front of it there has to be a character,
at `start` or later and not part of an identifier, and behind it blanks and a colon. -/
def labelNamed? (label text : Text) (start name : Nat) : Option Match :=
  match (text.take name).getLast? with
  | none => none
  | some lead =>
    if name - 1 < start || Text.isIdentifier lead then none
    else
      let tail := name + label.length
      let blanks := ((text.drop tail).takeWhile Text.isBlank).length
      if [':'].isPrefixOf (text.drop (tail + blanks)) then
        let stop := tail + blanks + 1
        some ⟨⟨name - 1, stop⟩, [some ⟨name - 1, stop⟩, some ⟨name - 1, name⟩, some ⟨name, tail⟩,
          some ⟨tail, stop⟩]⟩
      else none

/-- Looks at each place from `search` on at which the name of a label stands. Behind one
that is no label the search goes on one character later, as names may overlap. -/
def labelFrom? (label text : Text) (start search : Nat) : Option Match :=
  if search < text.length then
    match Text.indexOf? label (text.drop search) with
    | none => none
    | some skipped =>
      match labelNamed? label text start (search + skipped) with
      | some found => some found
      | none => labelFrom? label text start (search + skipped + 1)
  else none
termination_by text.length - search

/-- Finds an access label. The groups are the character in front of it, the
label, and the blanks with the colon. An empty label is found nowhere. -/
def label (l : Text) : Matcher := fun text start =>
  if l.isEmpty then none else labelFrom? l text start start

/-- The first of `ls` that the text starts with; the empty text if there are none. -/
def literalAt? (ls : List Text) (text : Text) : Option Match :=
  if ls.isEmpty then some ⟨⟨0, 0⟩, [some ⟨0, 0⟩]⟩
  else
    (ls.findIdx? (·.isPrefixOf text)).map fun i =>
      let span : Span := ⟨0, (ls.getD i []).length⟩
      ⟨span, some span :: (List.range ls.length).map fun j => if j = i then some span else none⟩

def literals (ls : List Text) : Matcher := leftmost (literalAt? ls)

def spans (ss : List Span) : Matcher := fun _ start =>
  (ss.find? (start ≤ ·.start)).map fun s => ⟨s, [some s]⟩

end Matcher
end Amalgam
