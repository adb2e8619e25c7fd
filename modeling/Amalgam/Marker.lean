import Amalgam.Text.Basic

/-! The marks that lead from plain code into a comment or a string literal, and
the places where comments and literals end. -/
namespace Amalgam

inductive Marker where
  | blockComment | lineComment | stringLiteral
  deriving DecidableEq, Repr

namespace Marker

def at? : Text → Option Marker
  | '/' :: '*' :: _ => some .blockComment
  | '/' :: '/' :: _ => some .lineComment
  | '"' :: _ => some .stringLiteral
  | _ => none

def first? (text : Text) : Option (Nat × Marker) := Text.leftmost at? text

def next? (text : Text) (start : Nat) : Option (Marker × Nat) :=
  (first? (text.drop start)).map fun (n, m) => (m, start + n)

end Marker

/-- The length of the block comment that a text starts with. It ends behind the first
`*/` after its opening, or with the text. -/
def blockCommentLength (text : Text) : Nat :=
  match Text.indexOf? ['*', '/'] (text.drop 2) with
  | some n => n + 4
  | none => text.length

/-- The length of the line comment that a text starts with. It ends behind the first
newline, or with the text; a backslash at the end of the line does not continue it. -/
def lineCommentLength (text : Text) : Nat :=
  match Text.indexOf? ['\n'] (text.drop 2) with
  | some n => n + 3
  | none => text.length

def blockCommentEnd (text : Text) (start : Nat) : Nat :=
  start + blockCommentLength (text.drop start)

def lineCommentEnd (text : Text) (start : Nat) : Nat :=
  start + lineCommentLength (text.drop start)

/-- How the literal opened by a quote ends. Without a closing quote the opening
one is plain code, as in a character literal, unless the text stops at an
escaped quote. -/
inductive StringEnd where
  | closed (stop : Nat)
  | unclosed
  | escapedQuoteAtEnd
  deriving DecidableEq, Repr

namespace StringEnd

/-- Reads a literal's inside, a backslash together with the character behind it.
`pos` is the position reached, `escaped` whether an escaped quote was read last. -/
def scan (escaped : Bool) (pos : Nat) : Text → StringEnd
  | [] => if escaped then .escapedQuoteAtEnd else .unclosed
  | '\\' :: c :: cs => scan (c == '"') (pos + 2) cs
  | c :: cs => if c == '"' then .closed (pos + 1) else scan false (pos + 1) cs

end StringEnd

def stringLiteralEnd (text : Text) (start : Nat) : StringEnd :=
  StringEnd.scan false (start + 1) (text.drop (start + 1))

end Amalgam
