import Amalgam.Marker
import Amalgam.Matcher

/-! Cutting a text into blocks. The reader compares the next marker with the next
construct and takes the one that starts first. At the same position a block
comment or a string literal goes before a construct, and a construct before a
line comment. So constructs are found in code only. -/
namespace Amalgam

/-- A string literal reaches the end of the text behind an escaped quote. `offset`
is the byte at which it starts, `line` counts from one. -/
structure Unterminated where
  offset : Nat
  line : Nat
  deriving DecidableEq, Repr

namespace Unterminated

def ofPosition (text : Text) (i : Nat) : Unterminated :=
  ⟨text.byteOffset i, Text.newlines (text.take i) + 1⟩

def message (e : Unterminated) : String :=
  s!"unterminated string literal starting at line {e.line} (byte {e.offset})"

end Unterminated

/-- What a reading gave: the blocks found, all of the text unless it failed. -/
structure Reading where
  blocks : List Block
  failure : Option Unterminated := none
  deriving DecidableEq, Repr

namespace Reading

def codeFirst (i : Nat) (code : Text) (r : Reading) : Reading :=
  if code.isEmpty then r
  else { r with blocks := ⟨.code, ⟨i, i + code.length⟩, code, []⟩ :: r.blocks }

def blockFirst (b : Block) (r : Reading) : Reading := { r with blocks := b :: r.blocks }

def toExcept (r : Reading) : Except Unterminated (List Block) :=
  match r.failure with
  | none => .ok r.blocks
  | some e => .error e

end Reading

namespace Classify

inductive Step where
  | marker (kind : Marker) (pos : Nat)
  | construct (m : Match)
  deriving DecidableEq, Repr

def step? : Option (Marker × Nat) → Option Match → Option Step
  | some (kind, i), some m =>
    if m.span.start < i || (m.span.start == i && kind == .lineComment) then some (.construct m)
    else some (.marker kind i)
  | some (kind, i), none => some (.marker kind i)
  | none, some m => some (.construct m)
  | none, none => none

/-- What a marker opens, in the text that starts with it. -/
inductive Opened where
  | block (kind : BlockKind) (length : Nat)
  /-- A quote that opens nothing is code. -/
  | stray
  | unterminated
  deriving DecidableEq, Repr

def opened (text : Text) : Marker → Opened
  | .blockComment => .block .blockComment (blockCommentLength text)
  | .lineComment => .block .lineComment (lineCommentLength text)
  | .stringLiteral =>
    match stringLiteralEnd text 0 with
    | .closed stop => .block .stringLiteral stop
    | .unclosed => .stray
    | .escapedQuoteAtEnd => .unterminated

/-- An empty match counts as no match. -/
def construct? (m : Matcher) (text : Text) (pos : Nat) : Option Match :=
  (m text pos).filter fun found => found.span.start < found.span.stop

/-- What was learnt of the text ahead: nothing yet, or the last answer, which
may be that nothing is left. -/
abbrev Ahead (α : Type) := Option (Option α)

/-- An answer stays good as long as what it found lies ahead of the reader. -/
def Ahead.get {α : Type} (ahead : Ahead α) (start : α → Nat) (pos : Nat)
    (ask : Unit → Option α) : Option α :=
  match ahead with
  | some (some a) => if start a < pos then ask () else some a
  | some none => none
  | none => ask ()

/-- Reads on from `pos`. The code not yet in a block starts at `plain`, and `rest` is
the text from there on. A step moves the reader on, so there are no more steps than
characters. -/
def readFrom (m : Matcher) (text : Text) :
    Nat → (plain : Nat) → (rest : Text) → (pos : Nat) → Ahead (Marker × Nat) → Ahead Match →
      Reading
  | 0, plain, rest, _, _, _ => .codeFirst plain rest ⟨[], none⟩
  | steps + 1, plain, rest, pos, markers, constructs =>
    let marker := markers.get (·.2) pos fun _ =>
      (Marker.first? (rest.drop (pos - plain))).map fun (n, kind) => (kind, pos + n)
    let construct := constructs.get (·.span.start) pos fun _ => construct? m text pos
    match step? marker construct with
    | none => .codeFirst plain rest ⟨[], none⟩
    | some (.construct found) =>
      let code := rest.take (found.span.start - plain)
      let rest := rest.drop (found.span.start - plain)
      let length := found.span.stop - found.span.start
      .codeFirst plain code <| .blockFirst
        ⟨.construct, found.span, rest.take length, found.groups.map (·.map (·.slice text))⟩ <|
        readFrom m text steps found.span.stop (rest.drop length) found.span.stop
          (some marker) (some construct)
    | some (.marker kind i) =>
      let code := rest.take (i - plain)
      let opening := rest.drop (i - plain)
      match opened opening kind with
      | .stray => readFrom m text steps plain rest (i + 1) (some marker) (some construct)
      | .unterminated => ⟨[], some (.ofPosition text i)⟩
      | .block kind length =>
        .codeFirst plain code <| .blockFirst
          ⟨kind, ⟨i, i + length⟩, opening.take length, []⟩ <|
          readFrom m text steps (i + length) (opening.drop length) (i + length)
            (some marker) (some construct)

/-- The same reader without memory: it looks ahead anew at each step. -/
def readFromAnew (m : Matcher) (text : Text) : Nat → (plain pos : Nat) → Reading
  | 0, plain, _ => .codeFirst plain (text.drop plain) ⟨[], none⟩
  | steps + 1, plain, pos =>
    match step? (Marker.next? text pos) (construct? m text pos) with
    | none => .codeFirst plain (text.drop plain) ⟨[], none⟩
    | some (.construct found) =>
      .codeFirst plain (text.slice plain found.span.start) <| .blockFirst
        ⟨.construct, found.span, found.span.slice text, found.groups.map (·.map (·.slice text))⟩ <|
        readFromAnew m text steps found.span.stop found.span.stop
    | some (.marker kind i) =>
      match opened (text.drop i) kind with
      | .stray => readFromAnew m text steps plain (i + 1)
      | .unterminated => ⟨[], some (.ofPosition text i)⟩
      | .block kind length =>
        .codeFirst plain (text.slice plain i) <| .blockFirst
          ⟨kind, ⟨i, i + length⟩, text.slice i (i + length), []⟩ <|
          readFromAnew m text steps (i + length) (i + length)

end Classify

def read (m : Matcher) (text : Text) : Reading :=
  Classify.readFrom m text text.length 0 text 0 none none

def readAnew (m : Matcher) (text : Text) : Reading :=
  Classify.readFromAnew m text text.length 0 0

def classify (m : Matcher) (text : Text) : Except Unterminated (List Block) :=
  (read m text).toExcept

end Amalgam
