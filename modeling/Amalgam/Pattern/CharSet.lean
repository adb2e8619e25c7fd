import Amalgam.Text.Blank
import Amalgam.Text.CaseFold
import Amalgam.Text.Word

/-! Sets of characters, as the classes of a pattern describe them. -/
namespace Amalgam

inductive CharSet where
  | empty
  | range (first last : Char)
  | ranges (rs : List (Nat × Nat))
  | blank
  | alphabetic
  | word
  | category (k : Category)
  /-- What differs from a member in case only. -/
  | anyCase (s : CharSet)
  | compl (s : CharSet)
  | union (a b : CharSet)
  | inter (a b : CharSet)
  deriving DecidableEq, Repr

namespace CharSet

def contains : CharSet → Char → Bool
  | .empty, _ => false
  | .range first last, c => first ≤ c && c ≤ last
  | .ranges rs, c => Text.inRanges rs c
  | .blank, c => Text.isBlank c
  | .alphabetic, c => Text.isAlphabetic c
  | .word, c => Text.isWord c
  | .category k, c => k.contains c
  | .anyCase s, c => (Text.caseVariants c).any s.contains
  | .compl s, c => !s.contains c
  | .union a b, c => a.contains c || b.contains c
  | .inter a b, c => a.contains c && b.contains c

def one (c : Char) : CharSet := range c c

def any : CharSet := compl empty

def ascii : CharSet := range '\x00' '\x7f'

def decimal : CharSet := category .decimal

def diff (a b : CharSet) : CharSet := inter a (compl b)

def symmDiff (a b : CharSet) : CharSet := union (diff a b) (diff b a)

def ofRanges (rs : List (Char × Char)) : CharSet :=
  rs.foldr (fun (first, last) s => union (range first last) s) empty

def ofCategories (ks : List Category) : CharSet :=
  ks.foldr (fun k s => union (category k) s) empty

/-- How much room a set takes in what finds it, as a number of steps: a character of ASCII
takes one, and each range behind ASCII some more. This is an estimate. -/
def weight : CharSet → Nat
  | .empty => 1
  | .range _ last => if last.toNat < 0x80 then 1 else 3
  | .ranges rs => 3 * rs.length
  | .blank => 30
  | .alphabetic | .word => 2000
  | .category k => 3 * (k.ranges.length + k.alternating.length)
  | .anyCase s => 2 * s.weight
  | .compl s => s.weight + 9
  | .union a b | .inter a b => a.weight + b.weight

def named? : String → Option CharSet
  | "alnum" => some (ofRanges [('0', '9'), ('A', 'Z'), ('a', 'z')])
  | "alpha" => some (ofRanges [('A', 'Z'), ('a', 'z')])
  | "ascii" => some ascii
  | "blank" => some (ofRanges [('\t', '\t'), (' ', ' ')])
  | "cntrl" => some (ofRanges [('\x00', '\x1f'), ('\x7f', '\x7f')])
  | "digit" => some (range '0' '9')
  | "graph" => some (range '!' '~')
  | "lower" => some (range 'a' 'z')
  | "print" => some (range ' ' '~')
  | "punct" => some (ofRanges [('!', '/'), (':', '@'), ('[', '\x60'), ('\x7b', '~')])
  | "space" => some (ofRanges [('\t', '\r'), (' ', ' ')])
  | "upper" => some (range 'A' 'Z')
  | "word" => some (ofRanges [('0', '9'), ('A', 'Z'), ('_', '_'), ('a', 'z')])
  | "xdigit" => some (ofRanges [('0', '9'), ('A', 'F'), ('a', 'f')])
  | _ => none

end CharSet
end Amalgam
