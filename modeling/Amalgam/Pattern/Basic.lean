import Amalgam.Pattern.CharSet

/-! Search patterns, and whether a text holds something that fits.

Positions in a text are marked: the list of marks has one more member than the text.
A pattern takes the marks at which it may start to those at which it may stop, so a
choice costs no more than its branches. -/
namespace Amalgam

inductive WordEdge where
  | boundary | noBoundary | start | stop | startHalf | stopHalf
  deriving DecidableEq, Repr

inductive Edge where
  | textStart
  | textStop
  /-- With `crlf`, a carriage return and a newline, alone or together, end a line. -/
  | lineStart (crlf : Bool)
  | lineStop (crlf : Bool)
  | word (edge : WordEdge) (members : CharSet)
  deriving DecidableEq, Repr

inductive Pattern where
  | empty
  | one (s : CharSet)
  | edge (e : Edge)
  | seq (a b : Pattern)
  | either (a b : Pattern)
  | times (p : Pattern) (least : Nat) (most : Option Nat)
  deriving DecidableEq, Repr

abbrev Marks := List Bool

def WordEdge.holds : WordEdge → Bool → Bool → Bool
  | .boundary, before, behind => before != behind
  | .noBoundary, before, behind => before == behind
  | .start, before, behind => !before && behind
  | .stop, before, behind => before && !behind
  | .startHalf, before, _ => !before
  | .stopHalf, _, behind => !behind

namespace Edge

def holds (e : Edge) (before behind : Option Char) : Bool :=
  match e with
  | .textStart => before.isNone
  | .textStop => behind.isNone
  | .lineStart false => before.isNone || before == some '\n'
  | .lineStop false => behind.isNone || behind == some '\n'
  | .lineStart true =>
    before.isNone || before == some '\n' || before == some '\r' && behind != some '\n'
  | .lineStop true =>
    behind.isNone || behind == some '\r' || behind == some '\n' && before != some '\r'
  | .word edge members => edge.holds (before.any members.contains) (behind.any members.contains)

def marks (e : Edge) (t : Text) : Marks :=
  List.zipWith e.holds (none :: t.map some) (t.map some ++ [none])

end Edge

def Marks.union (a b : Marks) : Marks := List.zipWith (· || ·) a b

namespace Pattern

def exactly (step : Marks → Marks) : Nat → Marks → Marks
  | 0, m => m
  | n + 1, m => if m.any id then exactly step n (step m) else m

/-- What is reached in up to `n` steps. Where a step adds nothing, no further one does. -/
def reach (step : Marks → Marks) : Nat → Marks → Marks
  | 0, m => m
  | n + 1, m =>
    let more := Marks.union m (step m)
    if more == m then m else reach step n more

/-- Where a pattern may stop that starts at a mark. Steps that repeat a pattern more often
than the text has positions reach nothing new: one of them takes no character, and may as
well be left out or repeated. -/
def advance (t : Text) : Pattern → Marks → Marks
  | .empty, m => m
  | .one s, m => false :: List.zipWith (fun c marked => marked && s.contains c) t m
  | .edge e, m => List.zipWith (· && ·) m (e.marks t)
  | .seq a b, m => advance t b (advance t a m)
  | .either a b, m => Marks.union (advance t a m) (advance t b m)
  | .times p least most, m =>
    let all := t.length + 1
    let more := most.elim all (min all <| · - least)
    reach (advance t p) more (exactly (advance t p) (min all least) m)

/-- Repeats a pattern. What may be repeated at will already is not repeated again. -/
def repeated (p : Pattern) (least : Nat) (most : Option Nat) : Pattern :=
  match p with
  | .times q few none =>
    if most = some 0 then .empty
    else if few = 0 then p
    else if few = 1 ∧ least ≤ 1 then .times q least none
    else .times p least most
  | p => .times p least most

/-- How much room a pattern takes with all repetitions written out, as an estimate. -/
def weight : Pattern → Nat
  | .empty | .edge _ => 1
  | .one s => s.weight
  | .seq a b | .either a b => weight a + weight b
  | .times p least most => weight p * max 1 (most.getD least)

def found (p : Pattern) (t : Text) : Bool :=
  (advance t p (List.replicate (t.length + 1) true)).any id

end Pattern
end Amalgam
