import Amalgam.Proofs.Marker

/-! The inside of a literal: what it says, and how it is read one character at a time. A run of
the characters of a text leaves the reader in a state, and the state tells how the literal
ends. -/
namespace Amalgam

namespace Text

/-- What the inside of a literal says: a backslash stands for the character behind it. -/
def unslashed : Text → Text
  | [] => []
  | '\\' :: c :: cs => c :: unslashed cs
  | c :: cs => c :: unslashed cs

theorem unslashed_plain {c : Char} (h : c ≠ '\\') (t : Text) :
    unslashed (c :: t) = c :: unslashed t := by
  rw [unslashed]
  exact fun d ds slash _ => h slash

end Text

namespace StringEnd

/-- Where a reader stands behind an opening quote: in the literal, with the last character an
escaped quote or not; behind a backslash; or behind the closing quote. -/
inductive State where
  | inside (escaped : Bool)
  | slash
  | closed
  deriving DecidableEq, Repr

namespace State

def next : State → Char → State
  | .inside _, c => if c = '\\' then .slash else if c = '"' then .closed else .inside false
  | .slash, c => .inside (c == '"')
  | .closed, _ => .closed

def run (s : State) (t : Text) : State := t.foldl next s

def Unclosed (s : State) : Prop := s = .inside false ∨ s = .slash

@[simp] theorem run_nil (s : State) : s.run [] = s := rfl

@[simp] theorem run_cons (s : State) (c : Char) (t : Text) : s.run (c :: t) = (s.next c).run t :=
  rfl

theorem run_append (s : State) (t u : Text) : s.run (t ++ u) = (s.run t).run u :=
  List.foldl_append

theorem run_closed (t : Text) : State.closed.run t = .closed := by
  induction t with
  | nil => rfl
  | cons c t ih => exact ih

theorem run_plain {s : State} {t : Text} (ne : t ≠ [])
    (plain : ∀ c ∈ t, c ≠ '"' ∧ c ≠ '\\') :
    s.run t = if s = .closed then .closed else .inside false := by
  induction t generalizing s with
  | nil => exact absurd rfl ne
  | cons c t ih =>
    obtain ⟨⟨quote, slash⟩, rest⟩ := List.forall_mem_cons.mp plain
    have step : s.next c = if s = .closed then .closed else .inside false := by
      cases s <;> simp [next, quote, slash]
    rw [run_cons, step]
    cases t with
    | nil => rfl
    | cons d t =>
      rw [ih (by simp) rest]
      split <;> simp_all

/-- A quote that does not close the literal is escaped, and one more character makes up for
that. So behind it the reader stands as if the quote had opened a literal of its own. -/
theorem run_quote {s : State} {front rest : Text} (h : (s.run (front ++ '"' :: rest)).Unclosed) :
    ((State.inside false).run rest).Unclosed := by
  rw [run_append, run_cons] at h
  cases before : s.run front with
  | inside escaped => simp [before, next, run_closed, Unclosed] at h
  | closed => simp [before, next, run_closed, Unclosed] at h
  | slash =>
    rw [before] at h
    cases rest with
    | nil => simp [next, Unclosed] at h
    | cons c rest => exact h

end State

theorem scan_unclosed {escaped : Bool} {pos : Nat} {t : Text} :
    scan escaped pos t = .unclosed ↔ ((State.inside escaped).run t).Unclosed := by
  fun_induction scan escaped pos t with
  | case1 => simp [State.Unclosed]
  | case2 escaped pos h => simp [State.Unclosed, h]
  | case3 escaped pos c cs ih => simpa [State.next] using ih
  | case4 escaped pos c cs single quote =>
    obtain rfl : c = '"' := by simpa using quote
    simp [State.next, State.run_closed, State.Unclosed]
  | case5 escaped pos c cs single plain ih =>
    by_cases slash : c = '\\'
    · -- A backslash that takes nothing along stands at the end.
      obtain rfl : cs = [] := by
        cases cs with
        | nil => rfl
        | cons d ds => exact absurd rfl (single d ds slash)
      simp [slash, scan, State.next, State.Unclosed]
    · have quote : c ≠ '"' := by simpa using plain
      simpa [State.next, slash, quote] using ih

theorem scan_escaped {escaped : Bool} {pos : Nat} {t : Text}
    (h : scan escaped pos t = .escapedQuoteAtEnd) :
    Interior t ∧ (t = [] ∧ escaped = true ∨ ['\\', '"'] <:+ t) := by
  fun_induction scan escaped pos t with
  | case1 pos => exact ⟨.nil, .inl ⟨rfl, rfl⟩⟩
  | case2 => cases h
  | case3 escaped pos c cs ih =>
    obtain ⟨interior, ⟨rfl, quote⟩ | ends⟩ := ih h
    · obtain rfl : c = '"' := by simpa using quote
      exact ⟨.escape '"' .nil, .inr (List.suffix_refl _)⟩
    · exact ⟨.escape c interior, .inr (ends.trans ⟨['\\', c], rfl⟩)⟩
  | case4 => cases h
  | case5 escaped pos c cs single plain ih =>
    obtain ⟨interior, ⟨-, quote⟩ | ends⟩ := ih h
    · cases quote
    · -- A backslash would have taken along what follows it.
      have slash : c ≠ '\\' := by
        rintro rfl
        cases cs with
        | nil => simp at ends
        | cons d ds => exact single d ds rfl rfl
      exact ⟨.plain (by simpa using plain) slash interior, .inr (ends.trans ⟨[c], rfl⟩)⟩

theorem scan_interior {inside : Text} (h : Interior inside) (escaped : Bool) (pos : Nat)
    (rest : Text) :
    scan escaped pos (inside ++ '"' :: rest) = .closed (pos + inside.length + 1) := by
  induction h generalizing escaped pos with
  | nil => rfl
  | escape c interior ih =>
    rw [List.cons_append, List.cons_append, scan, ih]
    simp only [List.length_cons, closed.injEq]
    omega
  | plain quote slash interior ih =>
    rw [List.cons_append, scan, if_neg (by simpa using quote), ih]
    · simp only [List.length_cons, closed.injEq]
      omega
    · exact fun d ds backslash _ => slash backslash

theorem scan_closed_iff {escaped : Bool} {pos : Nat} {inside rest : Text} :
    scan escaped pos (inside ++ '"' :: rest) = .closed (pos + inside.length + 1) ↔
      Interior inside := by
  constructor
  · intro closed
    obtain ⟨inside', rest', eq, interior, stop⟩ := scan_closed closed
    obtain ⟨rfl, -⟩ := List.append_inj eq (by omega)
    exact interior
  · intro interior
    exact scan_interior interior escaped pos rest

end StringEnd

theorem stringLiteralEnd_unclosed {text : Text} {q o : Nat} (lt : q < o)
    (h : stringLiteralEnd text q = .unclosed) (quote : text[o]? = some '"') :
    stringLiteralEnd text o = .unclosed := by
  rw [stringLiteralEnd, StringEnd.scan_unclosed] at h ⊢
  exact StringEnd.State.run_quote (Text.drop_eq_slice_append lt quote ▸ h)

end Amalgam
