import Amalgam.Proofs.Classify.Cut
import Amalgam.Proofs.Classify.Shape
import Amalgam.Proofs.Stage.Lines

/-! The log statement and the literal that it carries. The body of a comment goes between the
quotes as it stands, its lines joined by an escape. So the literal says what the body says
only if no line of it holds a character that means something else inside a literal. -/
namespace Amalgam

namespace Interior

theorem plain_iff {c : Char} {t : Text} (slash : c ≠ '\\') :
    Interior (c :: t) ↔ c ≠ '"' ∧ Interior t := by
  constructor
  · intro h
    cases h with
    | escape => exact absurd rfl slash
    | plain quote _ rest => exact ⟨quote, rest⟩
  · rintro ⟨quote, rest⟩
    exact .plain quote slash rest

theorem slash_iff {t : Text} : Interior ('\\' :: t) ↔ ∃ c rest, t = c :: rest ∧ Interior rest := by
  constructor
  · intro h
    cases h with
    | escape c rest => exact ⟨c, _, rfl, rest⟩
    | plain _ slash => exact absurd rfl slash
  · rintro ⟨c, rest, rfl, h⟩
    exact .escape c h

end Interior

namespace Text

/-- What a backslash and the character behind it stand for, if they are an escape. -/
def escaped? : Char → Option Char
  | 'n' => some '\n'
  | '\\' => some '\\'
  | '"' => some '"'
  | _ => none

def unescaped : Text → Text
  | [] => []
  | [c] => [c]
  | c :: d :: cs =>
    match if c = '\\' then escaped? d else none with
    | some e => e :: unescaped cs
    | none => c :: unescaped (d :: cs)

/-- Whether a line says the same inside a literal: it has no quote, and no backslash but in
front of a character with which it makes no escape. -/
def isInert : Text → Bool
  | [] => true
  | c :: cs => c != '"' && (c != '\\' || cs.head?.any (escaped? · == none)) && isInert cs

theorem escaped?_eq_none {d : Char} : escaped? d = none ↔ d ≠ 'n' ∧ d ≠ '\\' ∧ d ≠ '"' := by
  unfold escaped?
  split <;> simp_all

theorem escaped?_eq_slash {d : Char} (h : escaped? d = some '\\') : d = '\\' := by
  unfold escaped? at h
  split at h <;> simp_all

theorem unescaped_cons (c d : Char) (t : Text) :
    unescaped (c :: d :: t) = match if c = '\\' then escaped? d else none with
      | some e => e :: unescaped t
      | none => c :: unescaped (d :: t) := rfl

theorem unescaped_plain {c : Char} (h : c ≠ '\\') (t : Text) :
    unescaped (c :: t) = c :: unescaped t := by
  cases t with
  | nil => rfl
  | cons d t => rw [unescaped_cons, if_neg h]

theorem unescaped_escape {d e : Char} (h : escaped? d = some e) (t : Text) :
    unescaped ('\\' :: d :: t) = e :: unescaped t := by
  rw [unescaped_cons, if_pos rfl, h]

theorem unescaped_slash {d : Char} (h : escaped? d = none) (t : Text) :
    unescaped ('\\' :: d :: t) = '\\' :: unescaped (d :: t) := by
  rw [unescaped_cons, if_pos rfl, h]

theorem isInert_cons {c : Char} {cs : Text} :
    isInert (c :: cs) = true ↔
      c ≠ '"' ∧ (c = '\\' → ∃ d t, cs = d :: t ∧ escaped? d = none) ∧ isInert cs = true := by
  cases cs with
  | nil => simp [isInert]
  | cons d t =>
    by_cases slash : c = '\\' <;> simp [isInert, slash]

theorem isInert_of_not_mem {line : Text} (quote : '"' ∉ line) (slash : '\\' ∉ line) :
    isInert line = true := by
  induction line with
  | nil => rfl
  | cons c cs ih =>
    rw [List.mem_cons, not_or] at quote slash
    exact isInert_cons.mpr ⟨Ne.symm quote.1, fun eq => absurd eq.symm slash.1, ih quote.2 slash.2⟩

theorem unescaped_append {line : Text} (h : isInert line = true) (rest : Text) :
    unescaped (line ++ rest) = line ++ unescaped rest := by
  induction line with
  | nil => rfl
  | cons c cs ih =>
    obtain ⟨-, slash, inert⟩ := isInert_cons.mp h
    have ih := ih inert
    by_cases eq : c = '\\'
    · obtain ⟨d, t, rfl, off⟩ := slash eq
      subst eq
      exact (unescaped_slash off _).trans (congrArg _ ih)
    · exact (unescaped_plain eq _).trans (congrArg _ ih)

theorem interior_append {line rest : Text} (h : isInert line = true) (interior : Interior rest) :
    Interior (line ++ rest) := by
  induction line with
  | nil => exact interior
  | cons c cs ih =>
    obtain ⟨quote, slash, inert⟩ := isInert_cons.mp h
    have ih := ih inert
    by_cases eq : c = '\\'
    · obtain ⟨d, t, rfl, off⟩ := slash eq
      obtain ⟨-, ne, -⟩ := escaped?_eq_none.mp off
      rw [eq]
      -- The character behind the backslash is none itself, so it may as well be taken along.
      exact .escape d ((Interior.plain_iff ne).mp ih).2
    · exact .plain quote eq ih

/-- What may follow a line inside a literal, and what that is to stand for: the end, or the
escape that joins another line. -/
inductive Seam : (rest out : Text) → Prop
  | done : Seam [] []
  | newline (rest out : Text) : Seam ('\\' :: 'n' :: rest) ('\n' :: out)

namespace Seam
variable {rest out : Text}

/-- Once two backslashes are read as one, what is read lags behind for good: more backslashes
would have to follow than are left. -/
theorem not_lagging (seam : Seam rest out) (line : Text) (lag : Nat) :
    unescaped (line ++ rest) ≠ List.replicate (lag + 1) '\\' ++ (line ++ out) := by
  intro eq
  match line with
  | [] =>
    cases seam with
    | done => simp [unescaped] at eq
    | newline rest out =>
      rw [List.nil_append, unescaped_escape rfl] at eq
      simp [List.replicate_succ] at eq
  | c :: cs =>
    by_cases slash : c = '\\'
    · subst slash
      have more (n : Nat) (t : Text) :
          List.replicate n '\\' ++ '\\' :: t = List.replicate (n + 1) '\\' ++ t := by
        rw [List.append_cons, ← List.replicate_succ']
      rw [List.cons_append, List.cons_append, more, List.replicate_succ, List.replicate_succ] at eq
      -- An escape is two characters, so the line is read by two from here on.
      match cs with
      | [] =>
        cases seam with
        | done => simp [unescaped] at eq
        | newline rest out =>
          rw [List.nil_append, unescaped_escape rfl, unescaped_plain (by decide)] at eq
          simp at eq
      | d :: cs =>
        cases read : escaped? d with
        | none =>
          obtain ⟨-, ne, -⟩ := escaped?_eq_none.mp read
          rw [List.cons_append, unescaped_slash read, unescaped_plain ne] at eq
          simp [ne] at eq
        | some e =>
          rw [List.cons_append, unescaped_escape read] at eq
          obtain ⟨rfl, tail⟩ := List.cons_eq_cons.mp eq
          obtain rfl := escaped?_eq_slash read
          have behind : unescaped (cs ++ rest) =
              List.replicate (lag + 1) '\\' ++ '\\' :: (cs ++ out) := tail
          rw [more] at behind
          exact seam.not_lagging cs (lag + 1) behind
    · rw [List.cons_append, unescaped_plain slash] at eq
      exact slash (List.cons_eq_cons.mp eq).1

theorem isInert_of_unescaped (seam : Seam rest out) {line : Text}
    (interior : Interior (line ++ rest)) (eq : unescaped (line ++ rest) = line ++ out) :
    isInert line = true ∧ Interior rest ∧ unescaped rest = out := by
  induction line with
  | nil => exact ⟨rfl, interior, eq⟩
  | cons c cs ih =>
    by_cases slash : c = '\\'
    · subst slash
      cases cs with
      | nil =>
        -- A backslash at the end would take along what follows the line.
        cases seam with
        | done =>
          obtain ⟨c, rest, eq, -⟩ := Interior.slash_iff.mp interior
          cases eq
        | newline rest out =>
          rw [List.cons_append, List.nil_append, unescaped_escape rfl,
            unescaped_plain (by decide)] at eq
          simp at eq
      | cons d cs =>
        cases read : escaped? d with
        | none =>
          obtain ⟨-, ne, quote⟩ := escaped?_eq_none.mp read
          obtain ⟨d', behind, same, later⟩ := Interior.slash_iff.mp interior
          cases same
          rw [List.cons_append, List.cons_append, unescaped_slash read] at eq
          obtain ⟨inert, tail⟩ := ih (.plain quote ne later) (List.cons_eq_cons.mp eq).2
          exact ⟨isInert_cons.mpr ⟨by decide, fun _ => ⟨d, cs, rfl, read⟩, inert⟩, tail⟩
        | some e =>
          rw [List.cons_append, List.cons_append, unescaped_escape read] at eq
          obtain ⟨rfl, tail⟩ := List.cons_eq_cons.mp eq
          obtain rfl := escaped?_eq_slash read
          exact absurd tail (seam.not_lagging cs 0)
    · rw [List.cons_append, Interior.plain_iff slash] at interior
      rw [List.cons_append, unescaped_plain slash] at eq
      obtain ⟨inert, tail⟩ := ih interior.2 (List.cons_eq_cons.mp eq).2
      exact ⟨isInert_cons.mpr ⟨interior.1, fun eq => absurd eq slash, inert⟩, tail⟩

theorem iff_isInert (seam : Seam rest out) (line : Text) :
    Interior (line ++ rest) ∧ unescaped (line ++ rest) = line ++ out ↔
      isInert line = true ∧ Interior rest ∧ unescaped rest = out := by
  constructor
  · rintro ⟨interior, eq⟩
    exact seam.isInert_of_unescaped interior eq
  · rintro ⟨inert, interior, rfl⟩
    exact ⟨interior_append inert interior, unescaped_append inert rest⟩

end Seam

/-- Lines joined by an escape make the inside of a literal that says what they say, one below
the other, if and only if each of them is inert. -/
theorem intercalate_iff_isInert (lines : List Text) :
    Interior (List.intercalate ['\\', 'n'] lines) ∧
        unescaped (List.intercalate ['\\', 'n'] lines) = List.intercalate ['\n'] lines ↔
      ∀ line ∈ lines, isInert line = true := by
  induction lines with
  | nil => simp [Interior.nil, unescaped]
  | cons line lines ih =>
    cases lines with
    | nil =>
      have single := Seam.done.iff_isInert line
      simpa [Interior.nil, unescaped] using single
    | cons next lines =>
      have joint := (Seam.newline (List.intercalate ['\\', 'n'] (next :: lines))
        (List.intercalate ['\n'] (next :: lines))).iff_isInert line
      rw [unescaped_escape rfl, Interior.slash_iff] at joint
      rw [List.intercalate_cons_cons, List.intercalate_cons_cons, List.forall_mem_cons, ← ih]
      simpa using joint

end Text

theorem literal_of_classify {m : Matcher} {text : Text} {blocks : List Block}
    (lawful : m.Lawful text) (read : classify m text = .ok blocks) {b : Block} (hb : b ∈ blocks)
    (kind : b.kind = .stringLiteral) :
    ∃ inside, b.text = '"' :: (inside ++ ['"']) ∧ Interior inside := by
  obtain ⟨-, rfl⟩ := classify_eq_ok.mp read
  obtain ⟨slice, shaped⟩ := read_shaped lawful b hb
  rw [Block.Shaped, kind] at shaped
  obtain ⟨inside, rest, eq, interior, stop⟩ := shaped
  refine ⟨inside, ?_, interior⟩
  have split : '"' :: (inside ++ '"' :: rest) = ('"' :: (inside ++ ['"'])) ++ rest := by simp
  have length : inside.length + 2 = ('"' :: (inside ++ ['"'])).length := by simp
  rw [slice, Span.slice, stop, Nat.add_assoc, Text.slice_add, eq, split, length, List.take_left]

theorem Cut.literal {front code inside rest : Text} {ps : List Piece}
    (plain : ∀ c ∈ code, c ≠ '/' ∧ c ≠ '"') (ne : code ≠ []) (interior : Interior inside)
    (h : Cut [] rest ps) :
    Cut front (code ++ '"' :: (inside ++ '"' :: rest))
      (⟨.code, front ++ code⟩ :: ⟨.stringLiteral, '"' :: (inside ++ ['"'])⟩ :: ps) := by
  have split : '"' :: (inside ++ '"' :: rest) = ('"' :: (inside ++ ['"'])) ++ rest := by simp
  have length : 1 + inside.length + 1 = ('"' :: (inside ++ ['"'])).length := by
    simp only [List.length_cons, List.length_append, List.length_nil]
    omega
  have opens : Classify.opened ('"' :: (inside ++ '"' :: rest)) .stringLiteral =
      .block .stringLiteral (1 + inside.length + 1) := by
    simp [Classify.opened, stringLiteralEnd, StringEnd.scan_interior interior false 1 rest]
  have next : Cut [] (('"' :: (inside ++ '"' :: rest)).drop (1 + inside.length + 1)) ps := by
    rwa [split, length, List.drop_left]
  have cut : Cut (front ++ code) ('"' :: (inside ++ '"' :: rest)) _ := .block rfl opens next
  have take : ('"' :: (inside ++ '"' :: rest)).take (1 + inside.length + 1) =
      '"' :: (inside ++ ['"']) := by
    rw [split, length, List.take_left]
  rw [take, Piece.codeFirst, if_neg (by simp [ne])] at cut
  exact .skip (.of_plain plain) cut

namespace DocLog

/-- The statement is read as the sink, one literal for the body and one for the newline at its
end, and the first literal says what the lines of the body say, one below the other. -/
def Carries (s : DocLogSettings) (c : Tagged) : Prop :=
  ∃ blocks inside, classify .never (statement s c) = .ok blocks ∧
    blocks.map Block.piece = [⟨.code, s.sink ++ " << ".toList⟩,
      ⟨.stringLiteral, '"' :: (inside ++ ['"'])⟩, ⟨.code, " << ".toList⟩,
      ⟨.stringLiteral, "\"\\n\"".toList⟩, ⟨.code, ";".toList⟩] ∧
    Text.unescaped inside = List.intercalate ['\n'] (bodyLines s c)

variable {s : DocLogSettings} {c : Tagged}

theorem statement_eq (s : DocLogSettings) (c : Tagged) :
    statement s c = (s.sink ++ " << ".toList) ++
      ('"' :: (List.intercalate ['\\', 'n'] (bodyLines s c) ++ '"' :: " << \"\\n\";".toList)) := by
  simp [statement]

def statementPieces (s : DocLogSettings) (front inside : Text) : List Piece :=
  [⟨.code, front ++ (s.sink ++ " << ".toList)⟩, ⟨.stringLiteral, '"' :: (inside ++ ['"'])⟩,
    ⟨.code, " << ".toList⟩, ⟨.stringLiteral, "\"\\n\"".toList⟩]

theorem cut_statement (sink : ∀ c ∈ s.sink, c ≠ '/' ∧ c ≠ '"')
    (interior : Interior (List.intercalate ['\\', 'n'] (bodyLines s c))) {rest : Text}
    {ps : List Piece} (h : Cut [] (';' :: rest) ps) (front : Text) :
    Cut front (statement s c ++ rest)
      (statementPieces s front (List.intercalate ['\\', 'n'] (bodyLines s c)) ++ ps) := by
  have newline : Interior ['\\', 'n'] := .escape 'n' .nil
  have between : ∀ c ∈ " << ".toList, c ≠ '/' ∧ c ≠ '"' := by simp
  have plain : ∀ c ∈ s.sink ++ " << ".toList, c ≠ '/' ∧ c ≠ '"' :=
    List.forall_mem_append.mpr ⟨sink, between⟩
  have behind : Cut [] (" << \"\\n\"".toList ++ ';' :: rest) _ :=
    h.literal between (by simp) newline
  have whole : statement s c ++ rest = (s.sink ++ " << ".toList) ++
      '"' :: (List.intercalate ['\\', 'n'] (bodyLines s c) ++
        '"' :: (" << \"\\n\"".toList ++ ';' :: rest)) := by
    simp [statement]
  rw [whole]
  exact behind.literal plain (by simp) interior

theorem carries_of_isInert (sink : ∀ c ∈ s.sink, c ≠ '/' ∧ c ≠ '"')
    (inert : ∀ line ∈ bodyLines s c, line.isInert = true) : Carries s c := by
  obtain ⟨interior, eq⟩ := (Text.intercalate_iff_isInert _).mpr inert
  have last : Cut [] ";".toList [⟨.code, ";".toList⟩] := .plain (by decide) (.done [';'])
  obtain ⟨blocks, read, pieces⟩ := classify_of_cut (cut_statement sink interior last [])
  rw [List.append_nil] at read
  exact ⟨blocks, _, read, pieces, eq⟩

theorem isInert_of_carries (h : Carries s c) : ∀ line ∈ bodyLines s c, line.isInert = true := by
  obtain ⟨blocks, inside, read, pieces, eq⟩ := h
  have partition := Block.Partition.of_classify (Matcher.never_lawful _) read
  have whole : (blocks.map Block.piece).flatMap (·.text) = statement s c := by
    rw [List.flatMap_map]
    exact partition.flatMap_text
  have written : (blocks.map Block.piece).flatMap (·.text) = (s.sink ++ " << ".toList) ++
      ('"' :: (inside ++ '"' :: " << \"\\n\";".toList)) := by
    rw [pieces]
    simp
  have same : inside = List.intercalate ['\\', 'n'] (bodyLines s c) := by
    rw [whole, statement_eq] at written
    have body := (List.cons_eq_cons.mp (List.append_cancel_left written)).2
    exact (List.append_cancel_right body).symm
  have interior : Interior inside := by
    have member : ⟨.stringLiteral, '"' :: (inside ++ ['"'])⟩ ∈ blocks.map Block.piece := by
      simp [pieces]
    obtain ⟨b, hb, piece⟩ := List.mem_map.mp member
    obtain ⟨inside', text, interior⟩ := literal_of_classify (Matcher.never_lawful _) read hb
      (congrArg Piece.kind piece)
    have texts := text.symm.trans (congrArg Piece.text piece)
    rwa [List.append_cancel_right (List.cons_eq_cons.mp texts).2] at interior
  exact (Text.intercalate_iff_isInert _).mp ⟨same ▸ interior, same ▸ eq⟩

theorem not_mem_of_parse? {comment : Text} {x : Char} (dash : x ≠ '-') (space : x ≠ ' ')
    (parsed : parse? s comment = some c) (free : x ∉ comment) :
    ∀ line ∈ bodyLines s c, x ∉ line := by
  refine not_mem_bodyLines dash space fun line member inside => ?_
  obtain ⟨piece, cut, sub⟩ := mem_body parsed member
  exact free (Text.mem_of_mem_splitWhen cut (sub x inside))

end DocLog

open DocLog in
/-- The log statement carries what a comment says if and only if each line of it is inert, as
in a comment that has neither quotes nor backslashes. -/
theorem statement_carries {s : DocLogSettings} (sink : ∀ c ∈ s.sink, c ≠ '/' ∧ c ≠ '"')
    {comment : Text} {c : Tagged} (parsed : parse? s comment = some c) :
    (Carries s c ↔ ∀ line ∈ bodyLines s c, line.isInert = true) ∧
      ('"' ∉ comment → '\\' ∉ comment → Carries s c) := by
  refine ⟨⟨isInert_of_carries, carries_of_isInert sink⟩, fun quote slash => ?_⟩
  refine carries_of_isInert sink fun line member => Text.isInert_of_not_mem ?_ ?_
  · exact not_mem_of_parse? (by decide) (by decide) parsed quote line member
  · exact not_mem_of_parse? (by decide) (by decide) parsed slash line member

open DocLog in
/-- A backslash that makes no escape, an empty line and a rule. -/
theorem statement_carries_formatted : ∃ c,
    parse? {} "/** @info(format)\n * match \\d+\n *\n * @separator\n */".toList = some c ∧
      c.formatted = true ∧ bodyLines {} c = ["match \\d+".toList, [], List.replicate 79 '-'] ∧
      Carries {} c := by
  have parsed : parse? {} "/** @info(format)\n * match \\d+\n *\n * @separator\n */".toList =
      some ⟨true, ["match \\d+".toList, [], "@separator".toList]⟩ := by
    decide +kernel
  refine ⟨_, parsed, rfl, by decide +kernel, ?_⟩
  exact (@statement_carries {} (by simp) _ _ parsed).1.mpr (by decide +kernel)

open DocLog in
/-- Quotes of the comment end the literal. -/
theorem statement_loses_quotes : ∃ c,
    parse? {} "/** @info\n * say \"hi\"\n */".toList = some c ∧
      statement {} c = "logger() << \"say \"hi\"\" << \"\\n\";".toList ∧ ¬ Carries {} c := by
  refine ⟨⟨false, ["say \"hi\"".toList]⟩, by decide +kernel, by decide +kernel, fun carried => ?_⟩
  exact absurd (isInert_of_carries carried "say \"hi\"".toList (by decide +kernel)) (by decide)

end Amalgam
