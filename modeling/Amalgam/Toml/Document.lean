import Amalgam.Toml.Scalar

/-! Reading a TOML document. -/
namespace Amalgam.Toml

/-- Blanks, newlines and comments, where they may stand freely. `comment` tells that
a comment is being skipped. -/
def skipLayout (comment : Bool) : Text → Option Text
  | [] => some []
  | '\n' :: rest => skipLayout false rest
  | '\r' :: '\n' :: rest => skipLayout false rest
  | c :: rest =>
    if comment then if isOrdinary c then skipLayout true rest else none
    else if Text.isSpaceOrTab c then skipLayout false rest
    else if c == '#' then skipLayout true rest
    else some (c :: rest)

def lineEnd? (t : Text) : Option Text :=
  let rest := match t.dropWhile Text.isSpaceOrTab with
    | '#' :: comment => comment.dropWhile isOrdinary
    | rest => rest
  match rest with
  | [] => some []
  | rest => newline? rest

def isBareKeyChar (c : Char) : Bool := c.isAlphanum || c == '_' || c == '-'

def simpleKey? (t : Text) : Option (Text × Text) :=
  match t with
  | '"' :: rest => basicString rest
  | '\'' :: rest => literalString rest
  | t =>
    let k := t.takeWhile isBareKeyChar
    if k.isEmpty then none else some (k, t.drop k.length)

def key? : (parts : Nat) → Text → Option (List Text × Text)
  | 0, _ => none
  | parts + 1, t => do
    let (k, rest) ← simpleKey? (t.dropWhile Text.isSpaceOrTab)
    match rest.dropWhile Text.isSpaceOrTab with
    | '.' :: rest => do
      let (ks, rest) ← key? parts rest
      return (k :: ks, rest)
    | rest => return ([k], rest)

/-- Keys have fewer parts than this, and values are nested less deeply. -/
def maxDepth : Nat := 80

def keyValue? (value? : Text → Option (Value × Text)) (t : Text) :
    Option ((List Text × Value) × Text) := do
  let (ks, rest) ← key? (maxDepth - 1) t
  let rest ← Text.after? ['='] rest
  let (v, rest) ← value? (rest.dropWhile Text.isSpaceOrTab)
  return ((ks, v), rest)

/-- The items of an array, a comma allowed behind the last one. There are no more
items than characters. -/
def items? (value? : Text → Option (Value × Text)) : (steps : Nat) → Text →
    Option (List Value × Text)
  | 0, _ => none
  | steps + 1, t => do
    match ← skipLayout false t with
    | ']' :: rest => return ([], rest)
    | t => do
      let (v, rest) ← value? t
      match ← skipLayout false rest with
      | ',' :: rest => do
        let (vs, rest) ← items? value? steps rest
        return (v :: vs, rest)
      | ']' :: rest => return ([v], rest)
      | _ => none

def braced? (value? : Text → Option (Value × Text)) : (steps : Nat) → Entries → Text →
    Option (Entries × Text)
  | 0, _, _ => none
  | steps + 1, es, t => do
    let ((ks, v), rest) ← keyValue? value? t
    let es ← es.insertKey v ks
    match rest.dropWhile Text.isSpaceOrTab with
    | ',' :: rest => braced? value? steps es rest
    | '}' :: rest => return (es, rest)
    | _ => none

def scalar? (t : Text) : Option (Value × Text) :=
  match t with
  | '"' :: _ | '\'' :: _ => (string? t).map fun (s, rest) => (.text s, rest)
  | t => do
    let (w, rest) := word t
    let v ← wordValue? w
    return (v, rest)

def value? : (depth : Nat) → Text → Option (Value × Text)
  | 0, t => scalar? t
  | depth + 1, t =>
    match t with
    | '[' :: rest => do
      let (vs, rest) ← items? (value? depth) (rest.length + 1) rest
      return (.array vs, rest)
    | '{' :: rest =>
      match rest.dropWhile Text.isSpaceOrTab with
      | '}' :: rest => some (.table .braced [], rest)
      | _ => do
        let (es, rest) ← braced? (value? depth) (rest.length + 1) [] rest
        return (.table .braced es, rest)
    | t => scalar? t

/-- The lines of a document, read into `es`. Keys go into the table of the last
header, `path`. -/
def lines? : (steps : Nat) → (path : List Text) → Entries → Text → Option Entries
  | 0, _, _, _ => none
  | steps + 1, path, es, t =>
    match t.dropWhile Text.isSpaceOrTab with
    | [] => some es
    | '[' :: '[' :: rest => do
      let (ks, rest) ← key? (maxDepth - 1) rest
      let rest ← Text.after? [']', ']'] rest >>= lineEnd?
      let es ← es.openTable true ks
      lines? steps ks es rest
    | '[' :: rest => do
      let (ks, rest) ← key? (maxDepth - 1) rest
      let rest ← Text.after? [']'] rest >>= lineEnd?
      let es ← es.openTable false ks
      lines? steps ks es rest
    | t =>
      match lineEnd? t with
      | some rest => lines? steps path es rest
      | none => do
        let ((ks, v), rest) ← keyValue? (value? (maxDepth - 1)) t
        let rest ← lineEnd? rest
        let es ← es.insertUnder ks v path
        lines? steps path es rest

def momentKey : Text := "$__toml_private_datetime".toList

/-- The date or time that a table stands for, nothing if it is a table like others.
The text has to be a date or time; what follows it in the table is passed over. -/
def heldMoment? : Entries → Option (Option Value)
  | (k, v) :: _ =>
    if k == momentKey then
      match v with
      | .text t => some ((moment? .quoted t).map .moment)
      | _ => some none
    else none
  | [] => none

mutual

def Value.settle? : Value → Option Value
  | .array items => (settleItems? items).map .array
  | .table kind entries =>
    match heldMoment? entries with
    | some held => held
    | none => (settleEntries? entries).map (.table kind)
  | .tables done last => do
    let done ← settleTables? done
    match heldMoment? last with
    | some held => held.map fun v => .array (done ++ [v])
    | none => (settleEntries? last).map fun es => .array (done ++ [.table .opened es])
  | v => some v

def settleItems? : List Value → Option (List Value)
  | [] => some []
  | v :: vs => do return (← v.settle?) :: (← settleItems? vs)

def settleEntries? : List (Text × Value) → Option Entries
  | [] => some []
  | (k, v) :: es => do return (k, ← v.settle?) :: (← settleEntries? es)

def settleTables? : List (List (Text × Value)) → Option (List Value)
  | [] => some []
  | es :: rest => do
    let v ← match heldMoment? es with
      | some held => held
      | none => (settleEntries? es).map (.table .opened)
    return v :: (← settleTables? rest)

end

/-- What a document holds: a table, as a rule. A byte order mark may stand in front. -/
def parse? (t : Text) : Option Value := do
  let t := match t with
    | '\uFEFF' :: rest => rest
    | t => t
  let es ← lines? (t.length + 1) [] [] t
  (Value.table .opened es).settle?

end Amalgam.Toml
