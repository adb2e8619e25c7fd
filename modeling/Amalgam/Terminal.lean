import Amalgam.Text.Basic

/-! Text for a terminal that knows no control sequences: the sequences, and all
controls but white space, are left out.

A sequence starts with an escape and is read on even if it makes no sense. White space
inside of one is shown, and so is what follows it, up to the next control: then the
sequence goes on where it was. -/
namespace Amalgam.Terminal

def esc : Char := '\x1b'

inductive Sequence where
  /-- Outside of all sequences. -/
  | ground
  | escape
  | escapeMiddle
  /-- Colours and movements, up to a letter. -/
  | control
  /-- A title and the like, up to a bell. -/
  | command
  | device
  | deviceNumbers
  | deviceMiddle
  /-- A string for the device, up to its terminator. -/
  | string
  deriving DecidableEq, Repr

def tail (c : Char) : List Nat :=
  let low (n : Nat) : Nat := 0x80 + n % 0x40
  if c.toNat < 0x80 then []
  else if c.toNat < 0x800 then [low c.toNat]
  else if c.toNat < 0x10000 then [low (c.toNat / 0x40), low c.toNat]
  else [low (c.toNat / 0x1000), low (c.toNat / 0x40), low c.toNat]

namespace Sequence

/-- Where a character leads, nothing if it changes nothing. -/
def next? (s : Sequence) (c : Char) : Option Sequence :=
  let n := c.toNat
  let middle := 0x20 ≤ n && n ≤ 0x2F
  let final := 0x40 ≤ n && n ≤ 0x7E
  let number := 0x30 ≤ n && n ≤ 0x3F
  if n = 0x18 ∨ n = 0x1A then some .ground
  else if c = esc then some .escape
  else match s with
    | .ground => none
    | .escape =>
      match c with
      | '[' => some .control
      | ']' => some .command
      | 'P' => some .device
      | 'X' | '^' | '_' => some .string
      | _ => if middle then some .escapeMiddle else if number || final then some .ground else none
    | .escapeMiddle => if number || final then some .ground else none
    | .control => if final then some .ground else none
    | .command => if n = 0x07 then some .ground else none
    | .device =>
      if middle then some .deviceMiddle
      else if number then some .deviceNumbers
      else if final then some .string else none
    | .deviceNumbers =>
      if middle then some .deviceMiddle
      else if final || 0x3C ≤ n && n ≤ 0x3F then some .string else none
    | .deviceMiddle => if number || final then some .string else none
    | .string => if (tail c).contains 0x9C then some .ground else none

def shows (s : Sequence) (c : Char) : Bool :=
  let space := c == '\t' || c == '\n' || c == '\x0c' || c == '\r'
  match s with
  | .ground => space || 0x20 ≤ c.toNat && c.toNat != 0x7F
  | .escape | .escapeMiddle | .control => space
  | _ => false

end Sequence

/-- `printing` holds from a character that is shown to the next that is not. -/
structure State where
  sequence : Sequence := .ground
  printing : Bool := false
  deriving DecidableEq, Repr

namespace State

def shows (s : State) (c : Char) : Bool :=
  (if s.printing then .ground else s.sequence : Sequence).shows c

/-- The control that ends the printing counts twice: outside of all sequences, and then
where that leads. -/
def next (s : State) (c : Char) : State :=
  if s.shows c then
    if 0x80 ≤ c.toNat then ⟨.ground, true⟩
    else if s.printing then s
    else ⟨(s.sequence.next? c).getD s.sequence, true⟩
  else
    let sequence := if s.printing then (Sequence.ground.next? c).getD s.sequence else s.sequence
    ⟨(sequence.next? c).getD sequence, false⟩

end State

def plainFrom : State → Text → Text
  | _, [] => []
  | s, c :: cs => if s.shows c then c :: plainFrom (s.next c) cs else plainFrom (s.next c) cs

def plain (t : Text) : Text := plainFrom {} t

/-- A text in a colour of its own; the end of the colour also ends what the text left open. -/
def highlighted (t : Text) : Text := esc :: "[33m".toList ++ t ++ esc :: "[0m".toList

end Amalgam.Terminal
