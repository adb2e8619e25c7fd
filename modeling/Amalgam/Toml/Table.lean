import Amalgam.Text.Basic

/-! Values of a TOML document, and how its headers and keys build the tables. A
table may be opened by one header only, and keys are never set twice. -/
namespace Amalgam.Toml

inductive TableKind where
  /-- It has a header of its own. -/
  | opened
  /-- A longer header passes through it. -/
  | implied
  /-- A dotted key passes through it. -/
  | dotted
  /-- It is written in braces. -/
  | braced
  deriving DecidableEq, Repr

inductive Value where
  | text (t : Text)
  | integer (n : Int)
  | float (x : Float)
  | boolean (b : Bool)
  /-- A date, a time, or both, in plain spelling. -/
  | moment (t : Text)
  | array (items : List Value)
  | table (kind : TableKind) (entries : List (Text × Value))
  /-- The tables of a double-bracket header, the last one open. -/
  | tables (done : List (List (Text × Value))) (last : List (Text × Value))

abbrev Entries := List (Text × Value)

namespace Entries

def set (es : Entries) (k : Text) (v : Value) : Entries :=
  es.map fun e => if e.1 == k then (k, v) else e

def setLast (es : Entries) (k : Text) (v : Value) : Entries :=
  es.filter (·.1 != k) ++ [(k, v)]

/-- Sets a dotted key. The tables it passes through were not opened by a header, and
the one it ends in is made by dotted keys only. -/
def insertKey (v : Value) : List Text → Entries → Option Entries
  | [], _ => none
  | [k], es => if (es.lookup k).isSome then none else some (es ++ [(k, v)])
  | k :: next :: rest, es =>
    match es.lookup k with
    | none => do
      let inner ← insertKey v (next :: rest) []
      return es ++ [(k, .table .dotted inner)]
    | some (.table kind inner) =>
      if kind == .dotted || (kind == .implied && !rest.isEmpty) then do
        let inner ← insertKey v (next :: rest) inner
        return es.set k (.table kind inner)
      else none
    | some (.tables done last) =>
      if rest.isEmpty then none
      else do
        let last ← insertKey v (next :: rest) last
        return es.set k (.tables done last)
    | some _ => none

/-- Opens the table of a header; a double-bracket header adds a table to an array. -/
def openTable (double : Bool) : List Text → Entries → Option Entries
  | [], _ => none
  | [k], es =>
    match es.lookup k with
    | none => some (es ++ [(k, if double then .tables [] [] else .table .opened [])])
    | some (.table .implied inner) =>
      if double then none else some (es.setLast k (.table .opened inner))
    | some (.tables done last) =>
      if double then some (es.set k (.tables (done ++ [last]) [])) else none
    | some _ => none
  | k :: rest, es =>
    match es.lookup k with
    | none => do
      let inner ← openTable double rest []
      return es ++ [(k, .table .implied inner)]
    | some (.table .braced _) => none
    | some (.table kind inner) => do
      let inner ← openTable double rest inner
      return es.set k (.table kind inner)
    | some (.tables done last) => do
      let last ← openTable double rest last
      return es.set k (.tables done last)
    | some _ => none

def insertUnder (keys : List Text) (v : Value) : (path : List Text) → Entries → Option Entries
  | [], es => insertKey v keys es
  | k :: path, es =>
    match es.lookup k with
    | some (.table kind inner) => do
      let inner ← insertUnder keys v path inner
      return es.set k (.table kind inner)
    | some (.tables done last) => do
      let last ← insertUnder keys v path last
      return es.set k (.tables done last)
    | _ => none

end Entries
end Amalgam.Toml
