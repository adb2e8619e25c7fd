import Amalgam.Text.Basic

/-! JSON text laid out over lines, two spaces for each level. -/
namespace Amalgam.Json

def hexDigit (n : Nat) : Char := (Nat.toDigits 16 n).getLastD '0'

def escape (c : Char) : Text :=
  match c with
  | '"' => "\\\"".toList
  | '\\' => "\\\\".toList
  | '\n' => "\\n".toList
  | '\r' => "\\r".toList
  | '\t' => "\\t".toList
  | '\x08' => "\\b".toList
  | '\x0c' => "\\f".toList
  | c =>
    if c.toNat < 0x20 then "\\u00".toList ++ [hexDigit (c.toNat / 16), hexDigit (c.toNat % 16)]
    else [c]

def quoted (t : Text) : Text := '"' :: t.flatMap escape ++ ['"']

def number (n : Nat) : Text := (toString n).toList

/-- Items at the level below `level`, one a line; nothing between the delimiters
if there are none. -/
def enclose (opening closing : Char) (level : Nat) (items : List Text) : Text :=
  let indent (n : Nat) : Text := List.replicate (2 * n) ' '
  if items.isEmpty then [opening, closing]
  else
    opening :: '\n' :: List.intercalate ",\n".toList (items.map (indent (level + 1) ++ ·)) ++
      '\n' :: indent level ++ [closing]

def array (level : Nat) (items : List Text) : Text := enclose '[' ']' level items

def object (level : Nat) (members : List (String × Text)) : Text :=
  enclose '{' '}' level (members.map fun (key, value) =>
    quoted key.toList ++ ": ".toList ++ value)

end Amalgam.Json
