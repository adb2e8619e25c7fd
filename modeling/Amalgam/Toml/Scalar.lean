import Amalgam.Toml.Table

/-! The values of TOML that hold no others: strings, numbers, booleans, dates and
times. A reader gives what it read and the rest of the text. -/
namespace Amalgam.Toml

def newline? : Text → Option Text
  | '\n' :: rest => some rest
  | '\r' :: '\n' :: rest => some rest
  | _ => none

/-- Characters that may stand in comments and, delimiters apart, in strings. -/
def isOrdinary (c : Char) : Bool := c == '\t' || (0x20 ≤ c.toNat && c.toNat != 0x7F)

def hexValue? (c : Char) : Option Nat :=
  if c.isDigit then some (c.toNat - '0'.toNat)
  else if 'a' ≤ c && c ≤ 'f' then some (c.toNat - 'a'.toNat + 10)
  else if 'A' ≤ c && c ≤ 'F' then some (c.toNat - 'A'.toNat + 10)
  else none

def number? (base : Nat) (digits : Text) : Option Nat :=
  digits.foldlM (fun n c => do
    let d ← hexValue? c
    if d < base then some (n * base + d) else none) 0

def codedChar? (digits : Text) : Option Char := do
  let n ← number? 16 digits
  if n.isValidChar then some (Char.ofNat n) else none

def escapedChar? : Char → Option Char
  | 'b' => some '\x08'
  | 't' => some '\t'
  | 'n' => some '\n'
  | 'f' => some '\x0c'
  | 'r' => some '\r'
  | '"' => some '"'
  | '\\' => some '\\'
  | _ => none

def basicString : Text → Option (Text × Text)
  | [] => none
  | '"' :: rest => some ([], rest)
  | '\\' :: 'u' :: a :: b :: c :: d :: rest => do
    let x ← codedChar? [a, b, c, d]
    let (t, rest) ← basicString rest
    return (x :: t, rest)
  | '\\' :: 'U' :: a :: b :: c :: d :: e :: f :: g :: h :: rest => do
    let x ← codedChar? [a, b, c, d, e, f, g, h]
    let (t, rest) ← basicString rest
    return (x :: t, rest)
  | '\\' :: c :: rest => do
    let x ← escapedChar? c
    let (t, rest) ← basicString rest
    return (x :: t, rest)
  | c :: rest => do
    if c != '\\' && isOrdinary c then
      let (t, rest) ← basicString rest
      return (c :: t, rest)
    else none

/-- The inside of a string in triple double quotes. Up to two quotes may stand before
the closing ones. A backslash at the end of a line skips to the next visible
character; `skipping` tells that this is going on. -/
def longBasicString (skipping : Bool) : Text → Option (Text × Text)
  | [] => none
  | '"' :: '"' :: '"' :: '"' :: '"' :: rest => some (['"', '"'], rest)
  | '"' :: '"' :: '"' :: '"' :: rest => some (['"'], rest)
  | '"' :: '"' :: '"' :: rest => some ([], rest)
  | '\\' :: 'u' :: a :: b :: c :: d :: rest => do
    let x ← codedChar? [a, b, c, d]
    let (t, rest) ← longBasicString false rest
    return (x :: t, rest)
  | '\\' :: 'U' :: a :: b :: c :: d :: e :: f :: g :: h :: rest => do
    let x ← codedChar? [a, b, c, d, e, f, g, h]
    let (t, rest) ← longBasicString false rest
    return (x :: t, rest)
  | '\\' :: c :: rest =>
    if (newline? ((c :: rest).dropWhile Text.isSpaceOrTab)).isSome then longBasicString true (c :: rest)
    else do
      let x ← escapedChar? c
      let (t, rest) ← longBasicString false rest
      return (x :: t, rest)
  | '\r' :: '\n' :: rest =>
    if skipping then longBasicString true rest
    else do
      let (t, rest) ← longBasicString false rest
      return ('\n' :: t, rest)
  | c :: rest =>
    if skipping && (Text.isSpaceOrTab c || c == '\n') then longBasicString true rest
    else if c != '\\' && (isOrdinary c || c == '\n') then do
      let (t, rest) ← longBasicString false rest
      return (c :: t, rest)
    else none

def literalString : Text → Option (Text × Text)
  | [] => none
  | '\'' :: rest => some ([], rest)
  | c :: rest => do
    if isOrdinary c then
      let (t, rest) ← literalString rest
      return (c :: t, rest)
    else none

def longLiteralString : Text → Option (Text × Text)
  | [] => none
  | '\'' :: '\'' :: '\'' :: '\'' :: '\'' :: rest => some (['\'', '\''], rest)
  | '\'' :: '\'' :: '\'' :: '\'' :: rest => some (['\''], rest)
  | '\'' :: '\'' :: '\'' :: rest => some ([], rest)
  | '\r' :: '\n' :: rest => do
    let (t, rest) ← longLiteralString rest
    return ('\n' :: t, rest)
  | c :: rest => do
    if isOrdinary c || c == '\n' then
      let (t, rest) ← longLiteralString rest
      return (c :: t, rest)
    else none

def dropNewline (t : Text) : Text := (newline? t).getD t

def string? : Text → Option (Text × Text)
  | '"' :: '"' :: '"' :: rest => longBasicString false (dropNewline rest)
  | '\'' :: '\'' :: '\'' :: rest => longLiteralString (dropNewline rest)
  | '"' :: rest => basicString rest
  | '\'' :: rest => literalString rest
  | _ => none

def digits? (t : Text) : Option Text :=
  let pieces := Text.splitWhen (· == '_') t
  if pieces.all fun p => !p.isEmpty && p.all (hexValue? · |>.isSome) then some pieces.flatten
  else none

/-- Digits without a zero in front. -/
def plainDigits? (t : Text) : Option Nat := do
  let ds ← digits? t
  if ds.length > 1 && ds.head? == some '0' then none else number? 10 ds

def sign : Text → Bool × Text
  | '-' :: t => (true, t)
  | '+' :: t => (false, t)
  | t => (false, t)

def maxInteger : Nat := 9223372036854775807

def integer? (t : Text) : Option Int :=
  let based (base : Nat) (t : Text) : Option Int := do
    let n ← digits? t >>= number? base
    if n ≤ maxInteger then some (n : Int) else none
  match t with
  | '0' :: 'x' :: t => based 16 t
  | '0' :: 'o' :: t => based 8 t
  | '0' :: 'b' :: t => based 2 t
  | t => do
    let (negative, t) := sign t
    let n ← plainDigits? t
    if negative then if n ≤ maxInteger + 1 then some (-(n : Int)) else none
    else if n ≤ maxInteger then some (n : Int) else none

def nearest (m : Nat) (e : Int) : Float :=
  let size : Int := (Nat.toDigits 10 m).length + e
  if m == 0 || size < -400 then 0.0
  else if size > 400 then 1.0 / 0.0
  else Float.ofScientific m (e < 0) e.natAbs

def cut (p : Char → Bool) (t : Text) : Text × Option Text :=
  match t.dropWhile (!p ·) with
  | [] => (t, none)
  | _ :: rest => (t.takeWhile (!p ·), some rest)

def exponent? (t : Text) : Option Int := do
  let (negative, t) := sign t
  let n ← digits? t >>= number? 10
  return if negative then -(n : Int) else (n : Int)

def float? (t : Text) : Option Float := do
  let (negative, t) := sign t
  let signed (x : Float) : Float := if negative then -x else x
  if t == "inf".toList then return signed (1.0 / 0.0)
  if t == "nan".toList then return 0.0 / 0.0
  let (mantissa, exponent) := cut (fun c => c == 'e' || c == 'E') t
  let (whole, fraction) := cut (· == '.') mantissa
  if exponent.isNone && fraction.isNone then none
  let whole ← plainDigits? whole
  let fraction ← match fraction with
    | none => some []
    | some f => digits? f
  let exponent ← match exponent with
    | none => some 0
    | some e => exponent? e
  let m ← number? 10 fraction
  let x := signed (nearest (whole * Nat.pow 10 fraction.length + m) (exponent - fraction.length))
  if x == 1.0 / 0.0 then none else some x

def field? (n lo hi : Nat) (t : Text) : Option (Nat × Text) := do
  let ds := t.take n
  if ds.length == n && ds.all Char.isDigit then
    let v ← number? 10 ds
    if lo ≤ v && v ≤ hi then some (v, t.drop n) else none
  else none

def padded (width n : Nat) : Text :=
  let ds := Nat.toDigits 10 n
  List.replicate (width - ds.length) '0' ++ ds

def daysIn (year month : Nat) : Nat :=
  if month == 2 then if year % 4 == 0 && (year % 100 != 0 || year % 400 == 0) then 29 else 28
  else if month == 4 || month == 6 || month == 9 || month == 11 then 30
  else 31

def date? (t : Text) : Option (Text × Text) := do
  let (year, rest) ← field? 4 0 9999 t
  let (month, rest) ← Text.after? ['-'] rest >>= field? 2 1 12
  let (day, rest) ← Text.after? ['-'] rest >>= field? 2 1 (daysIn year month)
  return (padded 4 year ++ '-' :: padded 2 month ++ '-' :: padded 2 day, rest)

structure Limits where
  hour : Nat
  zoneHour : Nat
  zoneMinute : Nat
  deriving DecidableEq, Repr

def Limits.plain : Limits := ⟨23, 23, 59⟩

def Limits.quoted : Limits := ⟨24, 99, 99⟩

/-- A time of day. Of the fraction nine digits count, zeros at the end dropped. -/
def time? (limits : Limits) (t : Text) : Option (Text × Text) := do
  let (hour, rest) ← field? 2 0 limits.hour t
  let (minute, rest) ← Text.after? [':'] rest >>= field? 2 0 59
  let (second, rest) ← Text.after? [':'] rest >>= field? 2 0 60
  let plain := padded 2 hour ++ ':' :: padded 2 minute ++ ':' :: padded 2 second
  match rest with
  | '.' :: rest =>
    let ds := rest.takeWhile Char.isDigit
    if ds.isEmpty then none
    else
      let shown := Text.dropWhileEnd (· == '0') (ds.take 9)
      return (plain ++ (if shown.isEmpty then [] else '.' :: shown), rest.drop ds.length)
  | rest => return (plain, rest)

/-- The most minutes that a clock may be away from universal time. -/
def maxZone : Nat := 1440

def zone? (limits : Limits) (t : Text) : Option Text :=
  match t with
  | [] => some []
  | ['Z'] | ['z'] => some ['Z']
  | c :: rest => do
    if c != '+' && c != '-' then none
    let (hours, rest) ← field? 2 0 limits.zoneHour rest
    let (minutes, rest) ← Text.after? [':'] rest >>= field? 2 0 limits.zoneMinute
    let total := 60 * hours + minutes
    if !rest.isEmpty || maxZone < total then none
    let sign := if total == 0 then '+' else c
    return sign :: padded 2 (total / 60) ++ ':' :: padded 2 (total % 60)

def clock? (limits : Limits) (dated : Bool) (t : Text) : Option Text := do
  let (time, rest) ← time? limits t
  if dated then
    let zone ← zone? limits rest
    return time ++ zone
  else if rest.isEmpty then some time else none

def moment? (limits : Limits) (t : Text) : Option Text :=
  match date? t with
  | none => clock? limits false t
  | some (date, []) => some date
  | some (date, c :: rest) =>
    if c == 'T' || c == 't' || c == ' ' then do
      let clock ← clock? limits true rest
      return date ++ 'T' :: clock
    else none

def isWordChar (c : Char) : Bool :=
  c.isAlphanum || c == '_' || c == '+' || c == '-' || c == '.' || c == ':'

def word (t : Text) : Text × Text :=
  let w := t.takeWhile isWordChar
  let rest := t.drop w.length
  match rest with
  | ' ' :: c :: rest' =>
    if c.isDigit && (moment? .plain w).isSome && w.length == 10 then
      let w' := (c :: rest').takeWhile isWordChar
      (w ++ ' ' :: w', (c :: rest').drop w'.length)
    else (w, rest)
  | _ => (w, rest)

def wordValue? (w : Text) : Option Value :=
  if w == "true".toList then some (.boolean true)
  else if w == "false".toList then some (.boolean false)
  else match integer? w with
    | some n => some (.integer n)
    | none =>
      match float? w with
      | some x => some (.float x)
      | none => (moment? .plain w).map .moment

end Amalgam.Toml
