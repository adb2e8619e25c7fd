import Amalgam.Pattern.Property
import Amalgam.Pattern.Reading

/-! What a pattern says of one character or one position, behind a backslash or without. -/
namespace Amalgam.Pattern.Reading

def braced (ok : Char → Bool) : Nat → Text → Reading Text
  | 0, taken => return taken.reverse
  | n + 1, taken => do
    match ← next? with
    | none | some '\x7d' => return taken.reverse
    | some c =>
      let i ← position
      if !ok c then fail .hexDigit i (i + 1)
      bump
      braced ok n (c :: taken)

def digit? (c : Char) : Option Nat :=
  if c.isDigit then some (c.toNat - '0'.toNat)
  else if 'a' ≤ c.toLower && c.toLower ≤ 'f' then some (c.toLower.toNat - 'a'.toNat + 10)
  else none

def hexValue (digits : Text) : Nat := digits.foldl (fun n c => 16 * n + (digit? c).getD 0) 0

def character (digits : Text) (start stop : Nat) : Reading Char :=
  let n := hexValue digits
  if n.isValidChar then return .ofNat n else fail .hexNoCharacter start stop

def hexDigits : Nat → Text → Reading Text
  | 0, taken => return taken.reverse
  | n + 1, taken => do
    let i ← position
    match ← next? with
    | none => fail .escapeUnfinished i i
    | some c =>
      if (digit? c).isNone then fail .hexDigit i (i + 1)
      bump
      hexDigits n (c :: taken)

def hex (width : Nat) : Reading Char := do
  bump
  let start ← position
  match ← next? with
  | none => fail .escapeUnfinished start start
  | some '\x7b' =>
    bump
    let digits ← braced (fun c => (digit? c).isSome) (← get).rest.length []
    let stop ← position
    if ← atEnd then fail .escapeUnfinished start stop
    bump
    if digits.isEmpty then fail .hexEmpty start (← position)
    character digits (start + 1) stop
  | some _ =>
    let digits ← hexDigits width []
    character digits start (← position)

/-- The characters with a property, by one letter or by a name in braces. A value of a
property may be asked for. -/
def property (start : Nat) : Reading CharSet := do
  bump
  let name ← match ← next? with
    | none => fail .escapeUnfinished (← position) (← position)
    | some '\x7b' => do
      bump
      let name ← braced (fun _ => true) (← get).rest.length []
      if ← atEnd then fail .escapeUnfinished (← position) (← position)
      drop 1
      pure name
    | some '\\' => fail .propertyText (← position) ((← position) + 1)
    | some c => do
      bump
      pure [c]
  let stop ← position
  let unknown (fault : PatternFault) : Reading CharSet := do
    defer fault start stop
    return .empty
  let f ← flags
  if f.ascii then return ← unknown .beyondAscii
  let (key, value, negated) := splitValue name
  match value with
  | none =>
    match CharSet.ofProperty? key with
    | none => unknown .propertyUnknown
    | some s => return f.fold s
  | some value =>
    match CharSet.ofValue? key value with
    | none => unknown .propertyUnknown
    | some none => unknown .propertyValueUnknown
    | some (some s) => return if negated then .compl (f.fold s) else f.fold s
where
  /-- A property and its value, parted by a colon or an equals sign; `!=` asks for all others. -/
  splitValue (name : Text) : Text × Option Text × Bool :=
    match Text.indexOf? "!=".toList name with
    | some i => (name.take i, some (name.drop (i + 2)), true)
    | none =>
      match (Text.indexOf? [':'] name) <|> (Text.indexOf? ['='] name) with
      | some i => (name.take i, some (name.drop (i + 1)), false)
      | none => (name, none, false)

inductive Atom where
  | char (c : Char)
  | set (s : CharSet)
  | edge (e : Edge)

def isEdgeLetter (c : Char) : Bool := c.isAlpha || c == '-'

/-- A word boundary of a special kind, in braces. Without a letter in them it is the
number of repetitions that stands there. -/
def wordEdge (start : Nat) : Reading WordEdge := do
  let before ← get
  bump
  match ← next? with
  | none => fail .wordEdgeOrCount start (← position)
  | some c =>
    if !isEdgeLetter c then
      set before
      return .boundary
    let first ← position
    let rest := (← get).rest
    let name := rest.takeWhile isEdgeLetter
    drop name.length
    skipBlanks
    let stop ← position
    if (← next?) != some '\x7d' then fail .wordEdgeUnclosed before.position stop
    drop 1
    match String.ofList name with
    | "start" => return .start
    | "end" => return .stop
    | "start-half" => return .startHalf
    | "end-half" => return .stopHalf
    | _ => fail .wordEdgeUnknown first stop

/-- The characters that stand for themselves behind a backslash: all of ASCII but letters,
digits, and angles. -/
def isEscapable (c : Char) : Bool :=
  c.toNat < 0x80 && !c.isAlphanum && c != '<' && c != '>'

def escape : Reading Atom := do
  let start ← position
  drop 1
  let f ← flags
  match ← next? with
  | none => fail .escapeUnfinished start (start + 1)
  | some c =>
    if c.isDigit then fail .backreference start (start + 2)
    if let some s := f.letterClass? c then
      drop 1
      if f.ascii && c.isUpper then defer .noWholeCharacter start (start + 2)
      return .set s
    match c with
    | 'x' =>
      let c ← hex 2
      if f.ascii && 0x80 ≤ c.toNat && c.toNat ≤ 0xFF then
        defer .noWholeCharacter start (← position)
      return .char c
    | 'u' => return .char (← hex 4)
    | 'U' => return .char (← hex 8)
    | 'p' => return .set (← property start)
    | 'P' => return .set (.compl (← property start))
    | _ => drop 1
    match c with
    | 'a' => return .char '\x07'
    | 'f' => return .char '\x0c'
    | 't' => return .char '\t'
    | 'n' => return .char '\n'
    | 'r' => return .char '\r'
    | 'v' => return .char '\x0b'
    | 'A' => return .edge .textStart
    | 'z' => return .edge .textStop
    | 'B' => return .edge (.word .noBoundary f.word)
    | '<' => return .edge (.word .start f.word)
    | '>' => return .edge (.word .stop f.word)
    | 'b' =>
      if (← next?) == some '\x7b' then return .edge (.word (← wordEdge start) f.word)
      return .edge (.word .boundary f.word)
    | c => if isEscapable c then return .char c else fail .escapeUnknown start (start + 2)

def atom : Reading Pattern := do
  let f ← flags
  match ← next? with
  | some '\\' =>
    match ← escape with
    | .char c => return .one (f.fold (.one c))
    | .set s => return .one s
    | .edge e => return .edge e
  | some c =>
    let start ← position
    drop 1
    match c with
    | '.' =>
      if f.ascii then defer .noWholeCharacter start (start + 1)
      return .one f.dot
    | '^' => return .edge (if f.multiLine then .lineStart f.crlf else .textStart)
    | '$' => return .edge (if f.multiLine then .lineStop f.crlf else .textStop)
    | c => return .one (f.fold (.one c))
  | none => return .empty

end Amalgam.Pattern.Reading
