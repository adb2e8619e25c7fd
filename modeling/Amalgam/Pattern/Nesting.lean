import Amalgam.Pattern.Basic
import Amalgam.Span

/-! How the parts of a pattern are nested. Groups, repetitions, choices, and sequences of
more than one part are levels; there may be so many of them and no more. -/
namespace Amalgam.Pattern

inductive Nesting where
  | flat
  | level (span : Span) (inside : Nesting)
  | beside (a b : Nesting)
  deriving DecidableEq, Repr

def maxLevels : Nat := 250

def Nesting.tooDeep? : (depth : Nat) → Nesting → Option Span
  | _, .flat => none
  | depth, .level span inside =>
    if maxLevels ≤ depth then some span else tooDeep? (depth + 1) inside
  | depth, .beside a b => (tooDeep? depth a) <|> (tooDeep? depth b)

/-- A part of a pattern and where it starts. One that only sets flags has no pattern, and
cannot be repeated. -/
structure Piece where
  start : Nat
  pattern : Option Pattern
  nesting : Nesting := .flat

/-- What was read on one level: what stands in front of the last bar, and the pieces behind
it, the last one first. -/
structure Branches where
  start : Nat
  branch : Nat := start
  before : Option (Pattern × Nesting) := none
  pieces : List Piece := []

namespace Branches

def push (b : Branches) (p : Piece) : Branches := { b with pieces := p :: b.pieces }

def last (b : Branches) (stop : Nat) : Pattern × Nesting :=
  let pattern := (b.pieces.filterMap Piece.pattern).foldl (fun rest p => .seq p rest) .empty
  match b.pieces.map Piece.nesting with
  | [] => (pattern, .flat)
  | [nesting] => (pattern, nesting)
  | nesting :: more =>
    (pattern, .level ⟨b.branch, stop⟩ (more.foldl (fun rest n => .beside n rest) nesting))

def turn (b : Branches) (stop : Nat) : Branches :=
  let (pattern, nesting) := b.last stop
  let before := match b.before with
    | none => (pattern, nesting)
    | some (p, n) => (.either p pattern, .beside n nesting)
  { start := b.start, branch := stop + 1, before := some before }

def close (b : Branches) (stop : Nat) : Pattern × Nesting :=
  let (pattern, nesting) := b.last stop
  match b.before with
  | none => (pattern, nesting)
  | some (p, n) => (.either p pattern, .level ⟨b.start, stop⟩ (.beside n nesting))

end Branches
end Amalgam.Pattern
