import Amalgam.Pattern.Escape

/-! Classes of characters in brackets: members, ranges, classes inside of classes, and
operators between them. -/
namespace Amalgam.Pattern.Reading

def member : Reading (Atom × Span) := do
  let start ← position
  let a ← match (← get).rest with
    | [] => pure (.set .empty)
    | '\\' :: _ => escape
    | c :: _ => do
      drop 1
      pure (.char c)
  let stop ← position
  match a with
  | .char c => if (← flags).ascii && 0x80 ≤ c.toNat then defer .beyondAscii start stop
  | _ => pure ()
  return (a, ⟨start, stop⟩)

/-- A member of a class, or a range of them. `opened` is where the class starts. -/
def members (opened : Span) : Reading CharSet := do
  let (first, place) ← member
  skipBlanks
  let rest := (← get).rest
  let behind := (if (← flags).spaced then afterBlanks false (rest.drop 1) else rest.drop 1).head?
  if rest.isEmpty then fail .classUnclosed opened.start opened.stop
  if rest.head? != some '-' || behind == some ']' || behind == some '-' then
    match first with
    | .char c => return .one c
    | .set s => return s
    | .edge _ => fail .classEscape place.start place.stop
  bump
  if ← atEnd then fail .classUnclosed opened.start opened.stop
  let (last, lastPlace) ← member
  match first, last with
  | .char a, .char b =>
    if b < a then fail .classRange place.start lastPlace.stop
    return .range a b
  | .char _, _ => fail .classBound lastPlace.start lastPlace.stop
  | _, _ => fail .classBound place.start place.stop

def close (span : Span) (negated : Bool) (s : CharSet) : Reading CharSet := do
  let f ← flags
  if f.ascii && negated then defer .noWholeCharacter span.start span.stop
  return if negated then .compl (f.fold s) else f.fold s

def namedClass? : Reading (Option CharSet) := do
  let start ← position
  match (← get).rest with
  | '[' :: ':' :: rest =>
    let negated := rest.head? == some '^'
    let rest := if negated then rest.drop 1 else rest
    let name := rest.takeWhile (· != ':')
    match CharSet.named? (String.ofList name), [':', ']'].isPrefixOf (rest.drop name.length) with
    | some s, true =>
      drop (name.length + if negated then 5 else 4)
      return some (← close ⟨start, ← position⟩ negated s)
    | _, _ => return none
  | _ => return none

/-- Dashes at the start of a class are members of it. -/
def dashes (start : Nat) : Nat → CharSet → Reading CharSet
  | 0, s => return s
  | n + 1, s => do
    if (← next?) != some '-' then return s
    bump
    if ← atEnd then fail .classUnclosed start start
    dashes start n (.union s (.one '-'))

/-- The start of a class: its place, whether it is negated, and its first members. A
bracket closes no class that is empty. -/
def openClass : Reading (Span × Bool × CharSet) := do
  let start ← position
  let go : Reading Unit := do
    bump
    if ← atEnd then fail .classUnclosed start (← position)
  go
  let negated := (← next?) == some '^'
  if negated then go
  let s ← dashes start (← get).rest.length .empty
  if s == .empty && (← next?) == some ']' then
    go
    return (⟨start, ← position⟩, negated, .one ']')
  return (⟨start, ← position⟩, negated, s)

def join (f : Flags) (left : Option (Char × CharSet)) (s : CharSet) : CharSet :=
  match left with
  | none => s
  | some ('&', l) => .inter (f.fold l) (f.fold s)
  | some ('-', l) => .diff (f.fold l) (f.fold s)
  | some (_, l) => .symmDiff (f.fold l) (f.fold s)

def classBody : Nat → Span → Option (Char × CharSet) → CharSet → Reading CharSet
  | 0, opened, _, _ => fail .classUnclosed opened.start opened.stop
  | n + 1, opened, left, s => do
    skipBlanks
    let f ← flags
    match (← get).rest with
    | [] => fail .classUnclosed opened.start opened.stop
    | ']' :: _ =>
      drop 1
      return join f left s
    | '[' :: _ =>
      match ← namedClass? with
      | some named => classBody n opened left (.union s named)
      | none =>
        let (inner, negated, first) ← openClass
        let nested ← classBody n inner none first
        let nested ← close ⟨inner.start, ← position⟩ negated nested
        classBody n opened left (.union s nested)
    | a :: b :: _ =>
      if a == b && (a == '&' || a == '-' || a == '~') then
        drop 2
        classBody n opened (some (a, join f left s)) .empty
      else classBody n opened left (.union s (← members opened))
    | [_] => classBody n opened left (.union s (← members opened))

def charClass : Reading CharSet := do
  let (opened, negated, first) ← openClass
  let s ← classBody ((← get).rest.length + 1) opened none first
  close ⟨opened.start, ← position⟩ negated s

end Amalgam.Pattern.Reading
