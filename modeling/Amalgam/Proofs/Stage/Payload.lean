import Amalgam.Proofs.Literal
import Amalgam.Proofs.Stage.Lines

/-! The literal in which an annotation is carried. Its quotes are escaped and its backslashes
are not, so the literal says what the annotation says only if there are no backslashes. -/
namespace Amalgam

namespace Text

def quotesEscaped (t : Text) : Text := replace '"' ['\\', '"'] t

@[simp] theorem quotesEscaped_quote (t : Text) :
    quotesEscaped ('"' :: t) = '\\' :: '"' :: quotesEscaped t := rfl

theorem quotesEscaped_plain {c : Char} (h : c ≠ '"') (t : Text) :
    quotesEscaped (c :: t) = c :: quotesEscaped t := by
  simp [quotesEscaped, replace_cons, h]

theorem length_quotesEscaped (t : Text) :
    t.quotesEscaped.length = t.length + t.count '"' := by
  induction t with
  | nil => rfl
  | cons c t ih =>
    by_cases quote : c = '"'
    · subst quote
      simp only [quotesEscaped_quote, List.length_cons, List.count_cons_self, ih]
      omega
    · simp only [quotesEscaped_plain quote, List.length_cons, List.count_cons_of_ne quote, ih]
      omega

theorem count_quotesEscaped (t : Text) : t.quotesEscaped.count '"' = t.count '"' := by
  induction t with
  | nil => rfl
  | cons c t ih =>
    by_cases quote : c = '"'
    · subst quote
      simp [ih]
    · simp [quotesEscaped_plain quote, List.count_cons_of_ne quote, ih]

/-- Each escape takes two characters for one. Those of quotes are as many as there are quotes,
and a backslash that is said comes from a further one. -/
theorem length_unslashed_le {t : Text} (h : Interior t) :
    t.unslashed.length + t.count '"' + t.unslashed.count '\\' ≤ t.length := by
  induction h with
  | nil => simp [unslashed]
  | @escape c cs rest ih =>
    have one : (if c == '"' then 1 else 0) + (if c == '\\' then 1 else 0) ≤ 1 := by
      by_cases quote : c = '"'
      · simp [quote]
      · simp only [beq_iff_eq, quote, if_false]
        split <;> omega
    rw [unslashed, List.count_cons_of_ne (by decide), List.count_cons, List.count_cons,
      List.length_cons, List.length_cons, List.length_cons]
    omega
  | plain quote slash rest ih =>
    rw [unslashed_plain slash, List.count_cons_of_ne quote, List.count_cons_of_ne slash,
      List.length_cons, List.length_cons]
    omega

theorem quotesEscaped_interior {t : Text} (h : '\\' ∉ t) :
    Interior t.quotesEscaped ∧ t.quotesEscaped.unslashed = t := by
  induction t with
  | nil => exact ⟨.nil, rfl⟩
  | cons c t ih =>
    rw [List.mem_cons, not_or] at h
    obtain ⟨interior, said⟩ := ih h.2
    by_cases quote : c = '"'
    · subst quote
      exact ⟨.escape '"' interior, congrArg _ said⟩
    · have slash : c ≠ '\\' := Ne.symm h.1
      rw [quotesEscaped_plain quote, unslashed_plain slash, said]
      exact ⟨.plain quote slash interior, rfl⟩

/-- Escaping the quotes alone makes a literal that says the text if and only if the text has
no backslash. -/
theorem quotesEscaped_iff (t : Text) :
    Interior t.quotesEscaped ∧ t.quotesEscaped.unslashed = t ↔ '\\' ∉ t := by
  constructor
  · rintro ⟨interior, said⟩
    -- There is room for the escapes of the quotes, and for no other.
    have room := length_unslashed_le interior
    rw [said, count_quotesEscaped, length_quotesEscaped] at room
    exact List.count_eq_zero.mp (by omega)
  · exact quotesEscaped_interior

end Text

namespace Annotate

/-- What an annotation says: all but its spaces and newlines. -/
def said (inner : Text) : Text := inner.filter fun c => c != '\n' && c != ' '

def front (s : AnnotationSettings) : Text :=
  s.wrapper ++ "([[".toList ++ s.attributeName ++ "(".toList

def back (inner : Text) : Text := ")]])".toList ++ List.replicate (Text.newlines inner) '\n'

/-- An annotation is replaced by a call with one literal, which ends in front of the closing
brackets, whatever follows, and says what the annotation says. -/
def Carries (s : AnnotationSettings) (inner rest : Text) : Prop :=
  ∃ inside : Text, replacement s inner = front s ++ ('"' :: (inside ++ '"' :: back inner)) ∧
    stringLiteralEnd (replacement s inner ++ rest) (front s).length =
      .closed ((front s).length + ('"' :: (inside ++ ['"'])).length) ∧
    inside.unslashed = said inner

theorem payload_eq (inner : Text) : payload inner = (said inner).quotesEscaped := rfl

theorem slash_mem_said {inner : Text} : '\\' ∈ said inner ↔ '\\' ∈ inner := by
  simp [said]

variable {s : AnnotationSettings} {inner : Text}

theorem replacement_eq (s : AnnotationSettings) (inner : Text) :
    replacement s inner = front s ++ ('"' :: (payload inner ++ '"' :: back inner)) := by
  simp [replacement, front, back]

theorem stringLiteralEnd_replacement (rest : Text) :
    stringLiteralEnd (replacement s inner ++ rest) (front s).length =
        .closed ((front s).length + ('"' :: (payload inner ++ ['"'])).length) ↔
      Interior (payload inner) := by
  have behind : (replacement s inner ++ rest).drop ((front s).length + 1) =
      payload inner ++ '"' :: (back inner ++ rest) := by
    rw [replacement_eq, ← List.drop_drop, List.append_assoc, List.drop_left]
    simp
  have stop : (front s).length + ('"' :: (payload inner ++ ['"'])).length =
      (front s).length + 1 + (payload inner).length + 1 := by
    simp only [List.length_cons, List.length_append, List.length_nil]
    omega
  rw [stringLiteralEnd, behind, stop]
  exact StringEnd.scan_closed_iff

theorem carries_iff {rest : Text} :
    Carries s inner rest ↔ Interior (payload inner) ∧ (payload inner).unslashed = said inner := by
  constructor
  · rintro ⟨inside, eq, closed, same⟩
    rw [replacement_eq] at eq
    obtain rfl : payload inner = inside :=
      List.append_cancel_right (List.cons_eq_cons.mp (List.append_cancel_left eq)).2
    exact ⟨(stringLiteralEnd_replacement rest).mp closed, same⟩
  · rintro ⟨interior, same⟩
    exact ⟨_, replacement_eq s inner, (stringLiteralEnd_replacement rest).mpr interior, same⟩

end Annotate

open Annotate in
/-- What replaces an annotation carries it in one literal if and only if the annotation has no
backslash. -/
theorem annotation_carries (s : AnnotationSettings) (inner rest : Text) :
    Carries s inner rest ↔ '\\' ∉ inner := by
  rw [carries_iff, payload_eq, Text.quotesEscaped_iff, slash_mem_said]

open Annotate in
/-- A quote that the annotation has escaped already ends the literal. -/
theorem annotation_loses_backslash :
    Stage.annotate.apply {} "[[deprecated(\"use \\\"g\\\"\")]] f;".toList =
        .ok ("PROTEST_HIDE([[clang::annotate(" ++
          "\"deprecated(\\\"use\\\\\"g\\\\\"\\\")\")]]) f;").toList ∧
      front {} = "PROTEST_HIDE([[clang::annotate(".toList ∧
      stringLiteralEnd (replacement {} "deprecated(\"use \\\"g\\\"\")".toList) 31 =
        .closed (31 + "\"deprecated(\\\"use\\\\\"".length) ∧
      ¬ Carries {} "deprecated(\"use \\\"g\\\"\")".toList [] := by
  refine ⟨by decide +kernel, by decide +kernel, by decide +kernel, fun carried => ?_⟩
  have closed := (stringLiteralEnd_replacement (s := {}) []).mpr (carries_iff.mp carried).1
  exact absurd closed (by decide +kernel)

end Amalgam
