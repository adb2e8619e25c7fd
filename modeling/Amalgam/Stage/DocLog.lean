import Amalgam.Classify
import Amalgam.Settings
import Amalgam.Wrap

/-! The doc-log stage turns a tagged block comment such as

    /** @info(format)
     * Some text that is wrapped
     * @separator
     */

into one log statement, followed by as many newlines as the comment has. Blanks
in front of the comment on its line go with it. -/
namespace Amalgam.DocLog

/-- What a tagged comment says: its lines between the first and the last, without
decoration, and whether they are to be wrapped. -/
structure Tagged where
  formatted : Bool
  body : List Text
  deriving DecidableEq, Repr

/-- Drops the star that leads a comment line, and the blanks on both sides. -/
def undecorate (line : Text) : Text :=
  match line.dropWhile Text.isSpaceOrTab with
  | '*' :: rest => Text.trim (rest.dropWhile Text.isSpaceOrTab)
  | _ => Text.trim line

/-- The flag in parentheses behind the tag. `none` if there is another one. -/
def readFlag (s : DocLogSettings) (rest : Text) : Option (Bool × Text) :=
  match rest with
  | '(' :: flagged => do
    let rest ← Text.after? s.formatFlag flagged
    let rest ← Text.after? [')'] rest
    return (true, rest)
  | _ => some (false, rest)

def atLineEnd : Text → Bool
  | '\r' :: '\n' :: _ => true
  | '\n' :: _ => true
  | _ => false

/-- The tag stands on the comment's first line, with nothing behind it but its
flag, and the comment is closed. -/
def parse? (s : DocLogSettings) (comment : Text) : Option Tagged := do
  let rest ← Text.after? "/** ".toList comment
  let rest ← Text.after? s.tag rest
  let (formatted, rest) ← readFlag s rest
  if atLineEnd rest && ['*', '/'].isSuffixOf comment then
    let lines := Text.splitWhen (· == '\n') comment
    return ⟨formatted, (lines.drop 1).dropLast.map undecorate⟩
  else none

/-- A rule takes the place of a separator tag. -/
def bodyLine (s : DocLogSettings) (line : Text) : Text :=
  if s.separatorTags.contains line then List.replicate s.lineLength '-' else line

def bodyLines (s : DocLogSettings) (c : Tagged) : List Text :=
  let lines := c.body.map (bodyLine s)
  if c.formatted then Wrap.paragraphs s.lineLength lines else lines

def statement (s : DocLogSettings) (c : Tagged) : Text :=
  s.sink ++ " << \"".toList ++ List.intercalate "\\n".toList (bodyLines s c) ++
    "\" << \"\\n\";".toList

def tagged? (s : DocLogSettings) (b : Block) : Option Tagged :=
  match b.kind with
  | .blockComment => parse? s b.text
  | _ => none

/-- Writes one more block. What is written is kept last character first. -/
def push (s : DocLogSettings) (written : Text) (b : Block) : Text :=
  match tagged? s b with
  | none => b.text.reverse ++ written
  | some c =>
    List.replicate (Text.newlines b.text) '\n' ++ (statement s c).reverse ++
      written.dropWhile Text.isSpaceOrTab

def render (s : DocLogSettings) (blocks : List Block) : Text := (blocks.foldl (push s) []).reverse

end Amalgam.DocLog
