import Amalgam.Classify
import Amalgam.Proofs.Text

/-! Searches from the left. What such a search finds does not depend on where it starts,
as long as that is not behind what it finds. The matchers of the stages search this way,
and what they find has a fixed form. -/
namespace Amalgam

namespace Text
variable {α : Type} {p : Text → Option α}

theorem leftmost_drop_none {t : Text} (h : leftmost p t = none) (k : Nat) :
    leftmost p (t.drop k) = none := by
  induction t generalizing k with
  | nil => simpa using h
  | cons c cs ih =>
    cases k with
    | zero => exact h
    | succ k =>
      unfold leftmost at h
      split at h
      · cases h
      · exact ih (Option.map_eq_none_iff.mp h) k

theorem leftmost_drop_some {t : Text} {n k : Nat} {a : α} (h : leftmost p t = some (n, a))
    (le : k ≤ n) : leftmost p (t.drop k) = some (n - k, a) := by
  induction t generalizing n k with
  | nil =>
    obtain ⟨b, -, eq⟩ := Option.map_eq_some_iff.mp h
    cases eq
    cases Nat.le_zero.mp le
    exact h
  | cons c cs ih =>
    cases k with
    | zero => exact h
    | succ k =>
      unfold leftmost at h
      split at h
      · cases h
        cases le
      · obtain ⟨⟨n', a'⟩, found, eq⟩ := Option.map_eq_some_iff.mp h
        cases eq
        rw [List.drop_succ_cons, Nat.add_sub_add_right]
        exact ih found (Nat.le_of_succ_le_succ le)

end Text

/-- The answer to `ask` is the same at a later position, unless what was found starts before
that position. -/
def Coherent {α : Type} (ask : Nat → Option α) (start : α → Nat) : Prop :=
  ∀ ⦃i j : Nat⦄, i ≤ j → (∀ a, ask i = some a → j ≤ start a) → ask j = ask i

theorem coherent_leftmost {α β : Type} {p : Text → Option α} {start : β → Nat}
    (place : Nat → α → β) (text : Text) (placed : ∀ t n a, p t = some a → start (place n a) = n) :
    Coherent (fun i => (Text.leftmost p (text.drop i)).map fun (n, a) => place (i + n) a)
      start := by
  intro i j le ahead
  have rest : (text.drop i).drop (j - i) = text.drop j := by
    rw [List.drop_drop, Nat.add_sub_cancel' le]
  cases found : Text.leftmost p (text.drop i) with
  | none =>
    have later := Text.leftmost_drop_none found (j - i)
    rw [rest] at later
    simp [found, later]
  | some answer =>
    obtain ⟨n, a⟩ := answer
    obtain ⟨-, here, -⟩ := Text.leftmost_some found
    have bound := ahead (place (i + n) a) (by simp [found])
    rw [placed _ _ _ here] at bound
    have later := Text.leftmost_drop_some found (k := j - i) (by omega)
    rw [rest] at later
    have same : j + (n - (j - i)) = i + n := by omega
    simp only [found, later, Option.map_some, same]

theorem Marker.next?_coherent (text : Text) : Coherent (next? text) (·.2) :=
  coherent_leftmost (fun n kind => (kind, n)) text fun _ _ _ _ => rfl

namespace Matcher

theorem never_lawful (text : Text) : never.Lawful text := by
  intro start found _ answer
  cases answer

/-- A pattern matches at the start of its text, some of the text, and nothing else. -/
def Anchored (pattern : Text → Option Match) : Prop :=
  ∀ t found, pattern t = some found →
    found.span.start = 0 ∧ 0 < found.span.stop ∧ found.span.stop ≤ t.length

theorem leftmost_some {pattern : Text → Option Match} {text : Text} {start : Nat} {found : Match}
    (h : leftmost pattern text start = some found) :
    ∃ n here, start ≤ n ∧ pattern (text.drop n) = some here ∧
      (∀ k, start ≤ k → k < n → pattern (text.drop k) = none) ∧ found = here.shift n := by
  obtain ⟨⟨n, here⟩, first, eq⟩ := Option.map_eq_some_iff.mp h
  cases eq
  obtain ⟨-, matched, before⟩ := Text.leftmost_some first
  rw [List.drop_drop] at matched
  refine ⟨start + n, here, Nat.le_add_right _ _, matched, ?_, rfl⟩
  intro k le lt
  have missed := before (k - start) (by omega)
  rwa [List.drop_drop, Nat.add_sub_cancel' le] at missed

theorem leftmost_none {pattern : Text → Option Match} {text : Text} {start n : Nat}
    (h : leftmost pattern text start = none) (le : start ≤ n) : pattern (text.drop n) = none := by
  have missed := Text.leftmost_none (Option.map_eq_none_iff.mp h) (n - start)
  rwa [List.drop_drop, Nat.add_sub_cancel' le] at missed

theorem leftmost_eq_none {pattern : Text → Option Match} {text : Text} {start : Nat}
    (missed : ∀ n, start ≤ n → pattern (text.drop n) = none) :
    leftmost pattern text start = none := by
  cases answer : leftmost pattern text start with
  | none => rfl
  | some found =>
    obtain ⟨n, here, le, matched, -⟩ := leftmost_some answer
    cases (missed n le).symm.trans matched

theorem leftmost_eq_some {pattern : Text → Option Match} {text : Text} {start n : Nat}
    {here : Match} (le : start ≤ n) (matched : pattern (text.drop n) = some here)
    (before : ∀ k, start ≤ k → k < n → pattern (text.drop k) = none) :
    leftmost pattern text start = some (here.shift n) := by
  cases answer : leftmost pattern text start with
  | none => cases (leftmost_none answer le).symm.trans matched
  | some found =>
    obtain ⟨k, other, ahead, matched', before', rfl⟩ := leftmost_some answer
    obtain lt | rfl | lt := Nat.lt_trichotomy n k
    · cases (before' n le lt).symm.trans matched
    · cases matched.symm.trans matched'
      rfl
    · cases (before k ahead lt).symm.trans matched'

namespace Anchored
variable {pattern : Text → Option Match}

theorem bounds (h : Anchored pattern) {text : Text} {start : Nat} {found : Match}
    (answer : leftmost pattern text start = some found) :
    start ≤ found.span.start ∧ found.span.start < found.span.stop ∧
      found.span.stop ≤ text.length := by
  obtain ⟨n, here, le, matched, -, rfl⟩ := leftmost_some answer
  obtain ⟨first, proper, inside⟩ := h _ _ matched
  rw [List.length_drop] at inside
  simp only [Match.shift, Span.shift]
  omega

theorem missed (h : Anchored pattern) {text : Text} {start j : Nat}
    (ahead : ∀ found, leftmost pattern text start = some found → j ≤ found.span.start)
    {n : Nat} (lo : start ≤ n) (hi : n < j) : pattern (text.drop n) = none := by
  cases answer : leftmost pattern text start with
  | none => exact leftmost_none answer lo
  | some found =>
    obtain ⟨k, here, le, matched, before, rfl⟩ := leftmost_some answer
    have bound := ahead _ answer
    simp only [Match.shift, Span.shift, (h _ _ matched).1] at bound
    exact before n lo (by omega)

theorem lawful (h : Anchored pattern) (text : Text) : (leftmost pattern).Lawful text := by
  intro start found _ answer
  obtain ⟨ahead, proper, inside⟩ := h.bounds answer
  exact ⟨ahead, Nat.le_of_lt proper, inside⟩

theorem construct? (h : Anchored pattern) (text : Text) :
    Classify.construct? (leftmost pattern) text = leftmost pattern text := by
  funext start
  unfold Classify.construct?
  cases answer : leftmost pattern text start with
  | none => rfl
  | some found => simpa [Option.filter] using (h.bounds answer).2.1

theorem coherent (h : Anchored pattern) (text : Text) :
    Coherent (Classify.construct? (leftmost pattern) text) (·.span.start) := by
  rw [h.construct?]
  refine coherent_leftmost (fun n (found : Match) => found.shift n) text ?_
  intro t n found matched
  simp [Match.shift, Span.shift, (h t found matched).1]

end Anchored

theorem annotationAt?_some {t : Text} {found : Match} (h : annotationAt? t = some found) :
    ∃ inner rest, t = '[' :: '[' :: (inner ++ ']' :: ']' :: rest) ∧ ']' ∉ inner ∧
      found = ⟨⟨0, inner.length + 4⟩,
        [some ⟨0, inner.length + 4⟩, some ⟨2, inner.length + 2⟩]⟩ := by
  unfold annotationAt? at h
  split at h
  · rename_i rest
    simp only at h
    split at h
    · rename_i closes
      obtain ⟨behind, closes⟩ := List.isPrefixOf_iff_prefix.mp closes
      cases h
      refine ⟨rest.takeWhile (· != ']'), behind, ?_, ?_, rfl⟩
      · have whole := List.prefix_iff_eq_append.mp (List.takeWhile_prefix (· != ']') (l := rest))
        rw [← closes] at whole
        exact congrArg (fun t => '[' :: '[' :: t) whole.symm
      · intro inside
        simpa using List.all_eq_true.mp List.all_takeWhile _ inside
    · cases h
  · cases h

theorem annotationAt?_anchored : Anchored annotationAt? := by
  intro t found h
  obtain ⟨inner, rest, rfl, -, rfl⟩ := annotationAt?_some h
  simp

end Matcher
end Amalgam
