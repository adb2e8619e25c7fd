import Amalgam.Span

/-! What can be wrong with the text of a pattern, and how that is shown: under each line
of the text stand marks at the places that matter. -/
namespace Amalgam

inductive PatternFault where
  | classEscape | classRange | classBound | classUnclosed
  | decimalEmpty | decimalTooLarge
  | hexEmpty | hexNoCharacter | hexDigit
  | escapeUnfinished | escapeUnknown
  | flagNegationDangling | flagRepeated | flagNegationRepeated | flagMissing | flagUnknown
  | nameRepeated | nameEmpty | nameCharacter | nameUnclosed
  | groupUnclosed | groupUnopened | nesting
  | countOrder | countUnclosed | repetitionMissing
  | wordEdgeUnclosed | wordEdgeUnknown | wordEdgeOrCount
  | propertyText | propertyUnknown | propertyValueUnknown
  | beyondAscii | noWholeCharacter
  | backreference | lookAround
  deriving DecidableEq, Repr

namespace PatternFault

def message : PatternFault → String
  | .classEscape => "invalid escape sequence found in character class"
  | .classRange => "invalid character class range, the start must be <= the end"
  | .classBound => "invalid range boundary, must be a literal"
  | .classUnclosed => "unclosed character class"
  | .decimalEmpty => "repetition quantifier expects a valid decimal"
  | .decimalTooLarge => "decimal literal invalid"
  | .hexEmpty => "hexadecimal literal empty"
  | .hexNoCharacter => "hexadecimal literal is not a Unicode scalar value"
  | .hexDigit => "invalid hexadecimal digit"
  | .escapeUnfinished => "incomplete escape sequence, reached end of pattern prematurely"
  | .escapeUnknown => "unrecognized escape sequence"
  | .flagNegationDangling => "dangling flag negation operator"
  | .flagRepeated => "duplicate flag"
  | .flagNegationRepeated => "flag negation operator repeated"
  | .flagMissing => "expected flag but got end of regex"
  | .flagUnknown => "unrecognized flag"
  | .nameRepeated => "duplicate capture group name"
  | .nameEmpty => "empty capture group name"
  | .nameCharacter => "invalid capture group character"
  | .nameUnclosed => "unclosed capture group name"
  | .groupUnclosed => "unclosed group"
  | .groupUnopened => "unopened group"
  | .nesting => "exceed the maximum number of nested parentheses/brackets (250)"
  | .countOrder => "invalid repetition count range, the start must be <= the end"
  | .countUnclosed => "unclosed counted repetition"
  | .repetitionMissing => "repetition operator missing expression"
  | .wordEdgeUnclosed =>
    "special word boundary assertion is either unclosed or contains an invalid character"
  | .wordEdgeUnknown => "unrecognized special word boundary assertion, " ++
      "valid choices are: start, end, start-half or end-half"
  | .wordEdgeOrCount => "found either the beginning of a special word boundary or a " ++
      "bounded repetition on a \\b with an opening brace, but no closing brace"
  | .propertyText => "invalid Unicode character class"
  | .propertyUnknown => "Unicode property not found"
  | .propertyValueUnknown => "Unicode property value not found"
  | .beyondAscii => "Unicode not allowed here"
  | .noWholeCharacter => "pattern can match invalid UTF-8"
  | .backreference => "backreferences are not supported"
  | .lookAround => "look-around, including look-ahead and look-behind, is not supported"

end PatternFault

/-- A fault, where it is, and where the thing stands that it repeats, if it does. -/
structure PatternError where
  fault : PatternFault
  span : Span
  earlier : Option Span := none
  deriving DecidableEq, Repr

namespace PatternError

def place (pattern : Text) (i : Nat) : Nat × Nat :=
  let before := pattern.take i
  (Text.newlines before, (before.reverse.takeWhile (· != '\n')).length)

def underline : Nat → List (Nat × Nat) → Text
  | _, [] => []
  | n, (start, stop) :: spans =>
    let width := max 1 (stop - start)
    List.replicate (start - n) ' ' ++ List.replicate width '^' ++
      underline (max n start + width) spans

/-- The fault with its place in `pattern`. Lines are numbered if there are more than one. -/
def message (pattern : Text) (e : PatternError) : String :=
  let spans := ((e.earlier.toList ++ [e.span]).map fun s =>
    (place pattern s.start, place pattern s.stop)).mergeSort fun a b =>
      decide (a.1.1 < b.1.1 ∨ a.1.1 = b.1.1 ∧ a.1.2 ≤ b.1.2)
  let several := List.contains pattern '\n'
  let count := Text.newlines pattern + 1
  let width := (toString count).length
  let lead (i : Nat) : Text :=
    if several then
      let number := (toString (i + 1)).toList
      List.replicate (width - number.length) ' ' ++ number ++ [':', ' ']
    else List.replicate 4 ' '
  let noted := (Text.lines pattern).zipIdx.map fun (line, i) =>
    let marks := spans.filterMap fun (start, stop) =>
      if start.1 = i ∧ stop.1 = i then some (start.2, stop.2) else none
    lead i ++ line ++ ['\n'] ++
      if marks.isEmpty then []
      else List.replicate (lead i).length ' ' ++ underline 0 marks ++ ['\n']
  let across := spans.filterMap fun (start, stop) =>
    if start.1 = stop.1 then none
    else some (s!"on line {start.1 + 1} (column {start.2 + 1}) " ++
      s!"through line {stop.1 + 1} (column {stop.2})\n").toList
  let rule := if several then List.replicate 79 '~' ++ ['\n'] else []
  String.ofList ("regex parse error:\n".toList ++ rule ++ noted.flatten ++ rule ++
    across.flatten ++ ("error: " ++ e.fault.message).toList)

end PatternError
end Amalgam
