import Amalgam.Span

/-! Blocks: the pieces, each of one lexical kind, that a text is cut into. -/
namespace Amalgam

inductive BlockKind where
  | code | blockComment | lineComment | stringLiteral | construct
  deriving DecidableEq, Repr

def BlockKind.name : BlockKind → String
  | .code => "code"
  | .blockComment => "block-comment"
  | .lineComment => "line-comment"
  | .stringLiteral => "string-literal"
  | .construct => "construct"

/-- A piece of the text. Only a construct has captures; the first of them is the
whole piece. -/
structure Block where
  kind : BlockKind
  span : Span
  text : Text
  captures : List (Option Text) := []
  deriving DecidableEq, Repr

/-- The byte spans of blocks that follow one another from byte `start` on. -/
def Block.byteSpans (start : Nat) : List Block → List Span
  | [] => []
  | b :: bs =>
    let stop := start + b.text.byteLen
    ⟨start, stop⟩ :: byteSpans stop bs

def Block.capture? (b : Block) (i : Nat) : Option Text := (b.captures[i]?).join

end Amalgam
