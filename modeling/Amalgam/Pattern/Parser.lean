import Amalgam.Pattern.Class
import Amalgam.Pattern.Nesting

/-! Patterns as text: repetitions, groups and choices. Flags hold up to the end of the
group they are set in. -/
namespace Amalgam.Pattern

namespace Reading

/-- A decimal number of 32 bits, with blanks around it. The fault is told only where the
number is needed. -/
def decimal : Reading (Except PatternError Nat) := do
  let blanks : Reading Unit := do drop ((← get).rest.takeWhile Text.isBlank).length
  blanks
  let start ← position
  let digits := (← get).rest.takeWhile Char.isDigit
  drop digits.length
  let span : Span := ⟨start, ← position⟩
  blanks
  skipBlanks
  let n := digits.foldl (fun n c => 10 * n + (digit? c).getD 0) 0
  if digits.isEmpty then return .error { fault := .decimalEmpty, span }
  if 0xFFFFFFFF < n then return .error { fault := .decimalTooLarge, span }
  return .ok n

def counts : Reading (Nat × Option Nat) := do
  let start ← position
  let unclosed {α : Type} : Reading α := do fail .countUnclosed start (← position)
  bump
  if ← atEnd then unclosed
  let first ← decimal
  let (least, most) ← match ← next? with
    | none => unclosed
    | some ',' => do
      bump
      match ← next? with
      | none => unclosed
      | some '\x7d' => pure (← first, none)
      | some _ =>
        let least ← first
        let most ← (← decimal)
        pure (least, some most)
    | some _ => do
      let n ← first
      pure (n, some n)
  if (← next?) != some '\x7d' then unclosed
  bump
  if (← next?) == some '?' then drop 1
  if most.any (· < least) then fail .countOrder start (← position)
  return (least, most)

def last (b : Branches) : Reading (Pattern × Piece × Branches) := do
  match b.pieces with
  | piece :: pieces =>
    match piece.pattern with
    | some p => return (p, piece, { b with pieces })
    | none => fail .repetitionMissing (← position) (← position)
  | [] => fail .repetitionMissing (← position) (← position)

def repeated (b : Branches) (count : Reading (Nat × Option Nat)) : Reading Branches := do
  let (p, piece, b) ← last b
  let (least, most) ← count
  let nesting := .level ⟨piece.start, ← position⟩ piece.nesting
  return b.push { piece with pattern := some (p.repeated least most), nesting }

def sign (least : Nat) (most : Option Nat) : Reading (Nat × Option Nat) := do
  drop 1
  if (← next?) == some '?' then drop 1
  return (least, most)

def groupName : Reading Unit := do
  let start ← position
  let rest := (← get).rest
  let name := rest.takeWhile (· != '>')
  let ok (i : Nat) (c : Char) : Bool :=
    c == '_' || Text.isAlphabetic c ||
      i != 0 && (Text.isAlphanumeric c || c == '.' || c == '[' || c == ']')
  if let some i := name.zipIdx.findIdx? fun (c, i) => !ok i c then
    fail .nameCharacter (start + i) (start + i + 1)
  let stop := start + name.length
  if name.length = rest.length then fail .nameUnclosed stop stop
  if name.isEmpty then fail .nameEmpty start start
  if let some earlier := (← get).names.lookup name then
    throw { fault := .nameRepeated, span := ⟨start, stop⟩, earlier }
  drop (name.length + 1)
  modify fun c => { c with names := (name, ⟨start, stop⟩) :: c.names }

def flagLetters : (seen : List (Char × Nat)) → Flags → Text → Reading Flags
  | _, f, [] => return f
  | seen, f, c :: cs => do
    let i ← position
    let earlier := (seen.lookup c).map fun j => (⟨j, j + 1⟩ : Span)
    let negated := (seen.lookup '-').isSome
    let changed? := if c == '-' then some f else f.set? (!negated) c
    match changed? with
    | none => fail .flagUnknown i (i + 1)
    | some changed =>
      if earlier.isSome then
        throw { fault := if c == '-' then .flagNegationRepeated else .flagRepeated,
                span := ⟨i, i + 1⟩, earlier }
      drop 1
      flagLetters ((c, i) :: seen) changed cs

/-- Opens a group, and gives the flags that hold again behind it. Without a group there is
only a change of flags. -/
def openGroup : Reading (Option Flags) := do
  let start ← position
  let outer ← flags
  bump
  for look in ["?=", "?!", "?<=", "?<!"] do
    if ← take? look.toList then fail .lookAround start (← position)
  let inner ← position
  if ← take? "?P<".toList then
    groupName
    return some outer
  if ← take? "?<".toList then
    groupName
    return some outer
  if !(← take? ['?']) then return some outer
  if ← atEnd then fail .groupUnclosed start (start + 1)
  let letters := (← get).rest.takeWhile fun c => c != ':' && c != ')'
  let changed ← flagLetters [] outer letters
  let stop ← position
  if ← atEnd then fail .flagMissing stop stop
  if letters.getLast? == some '-' then fail .flagNegationDangling (stop - 1) stop
  let sets := (← next?) == some ')'
  drop 1
  if sets && letters.isEmpty then fail .repetitionMissing inner inner
  modify fun c => { c with flags := changed }
  return if sets then none else some outer

def closeGroup (start : Nat) (outer : Flags) : Reading Unit := do
  if ← atEnd then fail .groupUnclosed start (start + 1)
  modify fun c => { c with flags := outer }
  drop 1

/-- Reads to the end of a group or of the text. Each step takes a character, so there are
at most as many steps as characters. -/
def body : Nat → Branches → Reading (Pattern × Nesting)
  | 0, b => do return b.close (← position)
  | n + 1, b => do
    skipBlanks
    let start ← position
    match ← next? with
    | none | some ')' => return b.close start
    | some '(' =>
      match ← openGroup with
      | none => body n (b.push ⟨start, none, .flat⟩)
      | some outer =>
        let (inner, nesting) ← body n { start := ← position }
        closeGroup start outer
        body n (b.push ⟨start, some inner, .level ⟨start, ← position⟩ nesting⟩)
    | some '|' =>
      drop 1
      body n (b.turn start)
    | some '[' =>
      let s ← charClass
      body n (b.push ⟨start, some (.one s), .level ⟨start, ← position⟩ .flat⟩)
    | some '?' => body n (← repeated b (sign 0 (some 1)))
    | some '*' => body n (← repeated b (sign 0 none))
    | some '+' => body n (← repeated b (sign 1 none))
    | some '\x7b' => body n (← repeated b counts)
    | some _ => body n (b.push ⟨start, some (← atom), .flat⟩)

def whole : Reading Pattern := do
  let (p, nesting) ← body ((← get).rest.length + 1) { start := 0 }
  if !(← atEnd) then fail .groupUnopened (← position) ((← position) + 1)
  if let some span := nesting.tooDeep? 0 then fail .nesting span.start span.stop
  match (← get).deferred with
  | none => return p
  | some e => throw e

end Reading

def parse (t : Text) : Except PatternError Pattern :=
  (Reading.whole.run { rest := t }).map (·.1)

end Amalgam.Pattern
