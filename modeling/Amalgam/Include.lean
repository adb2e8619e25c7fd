import Amalgam.Text.Blank

/-! Include directives, one line each:

    blanks # blanks include blanks " target " blanks

with `<` and `>` in place of the quotes if wished. The two delimiters need not
agree; the opening one tells the form. -/
namespace Amalgam

inductive IncludeForm where
  | quoted | angled
  deriving DecidableEq, Repr

def IncludeForm.name : IncludeForm → String
  | .quoted => "quoted"
  | .angled => "angled"

structure Directive where
  target : Text
  form : IncludeForm
  line : Nat
  deriving DecidableEq, Repr

namespace Directive

def opening? : Char → Option IncludeForm
  | '"' => some .quoted
  | '<' => some .angled
  | _ => none

def isClosing (c : Char) : Bool := c == '"' || c == '>'

/-- Reads from the opening delimiter on. The target is not empty and only blanks
follow the closing delimiter. -/
def parseTarget? (number : Nat) : Text → Option Directive
  | [] => none
  | c :: cs => do
    let form ← opening? c
    let target := cs.takeWhile (!isClosing ·)
    match cs.drop target.length with
    | [] => none
    | _ :: rest =>
      if !target.isEmpty && rest.all Text.isBlank then some ⟨target, form, number⟩ else none

def parse? (line : Text) (number : Nat) : Option Directive := do
  let rest ← Text.after? ['#'] (Text.trimStart line)
  let rest ← Text.after? "include".toList (Text.trimStart rest)
  match rest with
  | [] => none
  | c :: _ => if Text.isBlank c then parseTarget? number (Text.trimStart rest) else none

theorem parseTarget?_line {number : Nat} {t : Text} {d : Directive}
    (h : parseTarget? number t = some d) : d.line = number := by
  cases t with
  | nil => cases h
  | cons c cs =>
    simp only [parseTarget?, Option.bind_eq_bind, Option.bind_eq_some_iff] at h
    obtain ⟨form, -, h⟩ := h
    split at h
    · cases h
    · split at h
      · cases h
        rfl
      · cases h

theorem parse?_line {line : Text} {number : Nat} {d : Directive}
    (h : parse? line number = some d) : d.line = number := by
  simp only [parse?, Option.bind_eq_bind, Option.bind_eq_some_iff] at h
  obtain ⟨rest, -, rest', -, h⟩ := h
  split at h
  · cases h
  · split at h
    · exact parseTarget?_line h
    · cases h

def all (text : Text) : List Directive :=
  text.lines.zipIdx.filterMap fun (line, i) => parse? line (i + 1)

end Directive

def isPragmaOnce (line : Text) : Bool := "#pragma once".toList.isPrefixOf (Text.trim line)

end Amalgam
