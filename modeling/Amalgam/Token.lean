import Amalgam.Text.Basic

/-! The tokens of each reading mode. A mode knows only the marks that can lead
out of it; the longest token wins and every character belongs to one. -/
namespace Amalgam

/-- Where the reader stands: in plain code, in a comment, or in a literal. -/
inductive Mode where
  | code | blockComment | lineComment | stringLiteral
  deriving DecidableEq, Repr

inductive Token where
  | blockCommentOpen | lineCommentOpen | quote | slash
  | close | star | newline | escape | danglingBackslash | text
  deriving DecidableEq, Repr

namespace Token

def isPlain : Mode → Char → Bool
  | .code, c => c != '/' && c != '"'
  | .blockComment, c => c != '*'
  | .lineComment, c => c != '\n'
  | .stringLiteral, c => c != '"' && c != '\\'

/-- The token at the start of `c :: cs`, and how many characters of `cs` it takes. -/
def read (mode : Mode) (c : Char) (cs : Text) : Token × Nat :=
  if isPlain mode c then (.text, (cs.takeWhile (isPlain mode)).length)
  else match mode, c, cs with
    | .code, '/', '*' :: _ => (.blockCommentOpen, 1)
    | .code, '/', '/' :: _ => (.lineCommentOpen, 1)
    | .code, '/', _ => (.slash, 0)
    | .code, _, _ => (.quote, 0)
    | .blockComment, _, '/' :: _ => (.close, 1)
    | .blockComment, _, _ => (.star, 0)
    | .lineComment, _, _ => (.newline, 0)
    | .stringLiteral, '\\', _ :: _ => (.escape, 1)
    | .stringLiteral, '\\', [] => (.danglingBackslash, 0)
    | .stringLiteral, _, _ => (.quote, 0)

def scan (mode : Mode) : Text → List (Token × Text)
  | [] => []
  | c :: cs =>
    let (token, n) := read mode c cs
    (token, c :: cs.take n) :: scan mode (cs.drop n)
termination_by t => t.length
decreasing_by simp only [List.length_drop, List.length_cons]; omega

end Token
end Amalgam
