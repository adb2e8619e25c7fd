/-! Texts are lists of characters, and a position in a text is a number of
characters. Byte offsets, which reports and messages show, are a view on
positions: `byteOffset` gives the offset of a position and `position` goes
back. -/
namespace Amalgam

abbrev Text := List Char

namespace Text

def byteLen : Text → Nat
  | [] => 0
  | c :: cs => c.utf8Size + byteLen cs

def byteOffset (t : Text) (i : Nat) : Nat := byteLen (t.take i)

/-- The position of byte `n`. Behind the end each byte counts as a character. -/
def position : Text → Nat → Nat
  | [], n => n
  | c :: cs, n => if n = 0 then 0 else position cs (n - c.utf8Size) + 1

def slice (t : Text) (i j : Nat) : Text := (t.drop i).take (j - i)

def newlines (t : Text) : Nat := t.count '\n'

def replace (c : Char) (r : Text) (t : Text) : Text :=
  t.flatMap fun d => if d = c then r else [d]

def after? : (lead : Text) → Text → Option Text
  | [], t => some t
  | _ :: _, [] => none
  | c :: lead, d :: t => if c = d then after? lead t else none

/-- The pieces between the characters that satisfy `p`; never the empty list. -/
def splitWhen (p : Char → Bool) : Text → List Text
  | [] => [[]]
  | c :: cs =>
    if p c then [] :: splitWhen p cs
    else match splitWhen p cs with
      | [] => [[c]]
      | piece :: pieces => (c :: piece) :: pieces

/-- A line without the carriage return that stands directly before its newline. -/
def chomp (line : Text) : Text :=
  if line.getLast? = some '\r' then line.dropLast else line

/-- Lines end at a newline. The last one may lack it, and then keeps all its
characters; a final newline opens no further line. -/
def lines (t : Text) : List Text :=
  let pieces := splitWhen (· == '\n') t
  pieces.dropLast.map chomp ++ pieces.getLast?.toList.filter (!·.isEmpty)

def inRanges (ranges : List (Nat × Nat)) (c : Char) : Bool :=
  ranges.any fun (lo, hi) => lo ≤ c.toNat && c.toNat ≤ hi

def isSpaceOrTab (c : Char) : Bool := c == ' ' || c == '\t'

def dropWhileEnd (p : Char → Bool) (t : Text) : Text := (t.reverse.dropWhile p).reverse

def leftmost {α : Type} (p : Text → Option α) : Text → Option (Nat × α)
  | [] => (p []).map (0, ·)
  | c :: cs =>
    match p (c :: cs) with
    | some a => some (0, a)
    | none => (leftmost p cs).map fun (n, a) => (n + 1, a)

def indexOf? (pattern : Text) (t : Text) : Option Nat :=
  (leftmost (fun s => if pattern.isPrefixOf s then some () else none) t).map (·.1)

end Text
end Amalgam
