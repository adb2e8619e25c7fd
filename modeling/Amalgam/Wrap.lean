import Amalgam.Text.Blank

/-! Greedy filling of lines. A word joins the open line if both fit with one
space between them, and opens a new line otherwise. Words are never split. -/
namespace Amalgam.Wrap

/-- Fills lines on from the open line, whose characters are counted along. An open
line without characters is taken over by the next word. -/
def fillFrom (limit : Nat) : (line : Text) → (length : Nat) → List Text → List Text
  | line, _, [] => if line.isEmpty then [] else [line]
  | line, length, w :: ws =>
    if line.isEmpty then fillFrom limit w w.length ws
    else if length + 1 + w.length ≤ limit then
      fillFrom limit (line ++ ' ' :: w) (length + (1 + w.length)) ws
    else line :: fillFrom limit w w.length ws

/-- Packs words into lines of at most `limit` characters; a longer word has a
line to itself. -/
def words (limit : Nat) (ws : List Text) : List Text := fillFrom limit [] 0 ws

def reflow (limit : Nat) : (gathered : List Text) → List Text → List Text
  | gathered, [] => words limit gathered
  | gathered, line :: rest =>
    if line.all Text.isBlank then words limit gathered ++ [] :: reflow limit [] rest
    else reflow limit (gathered ++ Text.words line) rest

/-- Fills each paragraph anew. A blank line ends a paragraph and stays, empty. -/
def paragraphs (limit : Nat) (lines : List Text) : List Text := reflow limit [] lines

end Amalgam.Wrap
