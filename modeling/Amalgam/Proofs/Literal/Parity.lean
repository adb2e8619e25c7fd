import Mathlib.Algebra.Group.Nat.Even
import Mathlib.Data.List.Induction
import Mathlib.Order.WellFounded
import Amalgam.Proofs.Literal

/-! The end of a literal, told from its quotes. A quote closes the literal if the backslashes
directly in front of it are even in number, and the first such quote does close it, however the
characters before it were taken together. -/
namespace Amalgam

namespace Text

def slashes (t : Text) : Nat := (t.reverse.takeWhile (· == '\\')).length

theorem slashes_concat (t : Text) (c : Char) :
    slashes (t ++ [c]) = if c = '\\' then t.slashes + 1 else 0 := by
  by_cases slash : c = '\\' <;> simp [slashes, slash]

theorem slashes_eq_zero {t : Text} (h : t.getLast? = some '"') : t.slashes = 0 := by
  obtain ⟨front, rfl⟩ := List.getLast?_eq_some_iff.mp h
  rw [slashes_concat, if_neg (by decide)]

/-- No quote closes a literal of which this is the inside. -/
def QuotesOdd (t : Text) : Prop :=
  ∀ front rest, t = front ++ '"' :: rest → ¬ Even front.slashes

theorem QuotesOdd.front {s t : Text} (h : QuotesOdd (s ++ t)) : QuotesOdd s := by
  rintro front rest rfl
  exact h front (rest ++ t) (by simp)

end Text

namespace StringEnd

theorem State.run_quotesOdd {t : Text} (h : t.QuotesOdd) :
    (State.inside false).run t =
      if Even t.slashes then .inside (t.getLast? == some '"') else .slash := by
  -- The last character decides, so the text is built up from its front.
  induction t using List.reverseRecOn with
  | nil => rfl
  | append_singleton t c ih =>
    have escaped : c = '"' → ¬ Even (Text.slashes t) := by
      rintro rfl
      exact h t [] rfl
    rw [run_append, ih h.front, Text.slashes_concat]
    by_cases even : Even (Text.slashes t)
    · have quote : c ≠ '"' := fun eq => escaped eq even
      by_cases slash : c = '\\' <;> simp [next, even, quote, slash, Nat.even_add_one]
    · by_cases slash : c = '\\' <;> simp [next, even, slash, Nat.even_add_one]

/-- What was read of a literal that is still open makes no difference to the rest, an escaped
quote at the very end excepted. -/
theorem scan_run {escaped last : Bool} {pos : Nat} {front : Text}
    (h : (State.inside escaped).run front = .inside last) (rest : Text) :
    scan escaped pos (front ++ rest) = scan last (pos + front.length) rest := by
  fun_induction scan escaped pos front with
  | case1 pos => cases h; rfl
  | case2 escaped pos plain => cases h; rfl
  | case3 escaped pos c cs ih =>
    rw [List.cons_append, List.cons_append, scan, ih h, List.length_cons, List.length_cons]
    congr 1
    omega
  | case4 escaped pos c cs single quote =>
    obtain rfl : c = '"' := by simpa using quote
    simp [State.next, State.run_closed] at h
  | case5 escaped pos c cs single plain ih =>
    have quote : c ≠ '"' := by simpa using plain
    have slash : c ≠ '\\' := by
      rintro rfl
      cases cs with
      | nil => cases h
      | cons d ds => exact single d ds rfl rfl
    have next : (State.inside escaped).next c = .inside false := by simp [State.next, quote, slash]
    rw [State.run_cons, next] at h
    rw [List.cons_append, scan, if_neg plain, ih h, List.length_cons]
    · congr 1
      omega
    · exact fun d ds backslash _ => slash backslash

end StringEnd

/-- A quote behind the one at `start`, with an even number of backslashes between them and
directly in front of it. -/
structure Unescaped (text : Text) (start q : Nat) : Prop where
  behind : start < q
  quote : text[q]? = some '"'
  even : Even (text.slice (start + 1) q).slashes

/-- How the literal opened at `start` ends, by the quotes behind it that are not escaped. -/
inductive StringEnd.ByParity (text : Text) (start : Nat) : StringEnd → Prop
  | closed {q : Nat} (here : Unescaped text start q) (first : ∀ r < q, ¬ Unescaped text start r) :
      ByParity text start (.closed (q + 1))
  | escapedQuoteAtEnd (none : ∀ q, ¬ Unescaped text start q) (behind : start + 1 < text.length)
      (last : text.getLast? = some '"') : ByParity text start .escapedQuoteAtEnd
  | unclosed (none : ∀ q, ¬ Unescaped text start q)
      (last : ¬ (start + 1 < text.length ∧ text.getLast? = some '"')) :
      ByParity text start .unclosed

namespace Unescaped
variable {text front rest : Text} {start q : Nat}

theorem of_split (eq : text.drop (start + 1) = front ++ '"' :: rest) (even : Even front.slashes) :
    Unescaped text start (start + 1 + front.length) := by
  refine ⟨by omega, ?_, ?_⟩
  · rw [← List.getElem?_drop, eq]
    simp
  · rw [Text.slice_add, eq, List.take_left]
    exact even

theorem quotesOdd_slice (behind : start < q) (none : ∀ r < q, ¬ Unescaped text start r) :
    (text.slice (start + 1) q).QuotesOdd := by
  intro front rest eq even
  have whole : text.drop (start + 1) = front ++ '"' :: (rest ++ text.drop q) := by
    rw [← Text.slice_append_drop behind, eq]
    simp
  have length := congrArg List.length eq
  simp only [Text.slice, List.length_take, List.length_drop, List.length_append,
    List.length_cons] at length
  exact none _ (by omega) (.of_split whole even)

theorem quotesOdd_drop (none : ∀ r, ¬ Unescaped text start r) :
    Text.QuotesOdd (text.drop (start + 1)) :=
  fun _ _ eq even => none _ (.of_split eq even)

theorem byteOffset_succ (h : Unescaped text start q) :
    text.byteOffset (q + 1) = text.byteOffset q + 1 := by
  rw [Text.byteOffset, List.take_add_one, h.quote, Text.byteLen_append]
  rfl

end Unescaped

namespace StringEnd.ByParity
variable {text : Text} {start : Nat} {e : StringEnd}

theorem getLast?_behind : (text.drop (start + 1)).getLast? = some '"' ↔
    start + 1 < text.length ∧ text.getLast? = some '"' := by
  rw [List.getLast?_drop]
  split
  · rename_i short
    exact ⟨nofun, fun ⟨behind, _⟩ => absurd behind (Nat.not_lt.mpr short)⟩
  · rename_i long
    exact ⟨fun last => ⟨Nat.lt_of_not_le long, last⟩, And.right⟩

theorem stringLiteralEnd_eq (h : ByParity text start e) : stringLiteralEnd text start = e := by
  unfold stringLiteralEnd
  cases h with
  | @closed q here first =>
    -- Up to the first even quote all are odd, so the reader comes to it inside the literal.
    have run := State.run_quotesOdd (Unescaped.quotesOdd_slice here.behind first)
    rw [if_pos here.even] at run
    have length := text.length_slice here.behind (List.getElem?_eq_some_iff.mp here.quote).1.le
    rw [Text.drop_eq_slice_append here.behind here.quote, scan_run run, length]
    rfl
  | escapedQuoteAtEnd none behind last =>
    have ends := getLast?_behind.mpr ⟨behind, last⟩
    have run := State.run_quotesOdd (Unescaped.quotesOdd_drop none)
    rw [Text.slashes_eq_zero ends, if_pos Even.zero, ends] at run
    rw [← List.append_nil (text.drop (start + 1)), scan_run run]
    rfl
  | unclosed none last =>
    rw [scan_unclosed, State.run_quotesOdd (Unescaped.quotesOdd_drop none)]
    rw [← getLast?_behind] at last
    split
    · exact .inl (by simpa using last)
    · exact .inr rfl

theorem exists_of (text : Text) (start : Nat) : ∃ e, ByParity text start e := by
  by_cases any : ∃ q, Unescaped text start q
  · obtain ⟨q, here, first⟩ := WellFounded.has_min Nat.lt_wfRel.wf
      {q | Unescaped text start q} any
    exact ⟨_, .closed here fun r lt other => first r other lt⟩
  · have none := not_exists.mp any
    by_cases last : start + 1 < text.length ∧ text.getLast? = some '"'
    · exact ⟨_, .escapedQuoteAtEnd none last.1 last.2⟩
    · exact ⟨_, .unclosed none last⟩

end StringEnd.ByParity

/-- A literal is closed by the first quote with an even number of backslashes in front of it.
Without one, the text may end with an escaped quote or leave the literal unclosed. A quote takes
one byte, so the end is behind the closing quote in bytes as well. -/
theorem stringLiteralEnd_parity (text : Text) (start : Nat) :
    (∀ e, stringLiteralEnd text start = e ↔ StringEnd.ByParity text start e) ∧
    ∀ q, Unescaped text start q → text.byteOffset (q + 1) = text.byteOffset q + 1 := by
  refine ⟨fun e => ⟨?_, StringEnd.ByParity.stringLiteralEnd_eq⟩, fun q h => h.byteOffset_succ⟩
  rintro rfl
  obtain ⟨e, told⟩ := StringEnd.ByParity.exists_of text start
  rwa [told.stringLiteralEnd_eq]

/-- Three backslashes escape the first quote, and two of them leave the second one as it is. -/
theorem stringLiteralEnd_parity_runs :
    Unescaped "\"é\\\\\\\"\\\\\" x".toList 0 8 ∧
      StringEnd.ByParity "\"é\\\\\\\"\\\\\" x".toList 0 (.closed 9) ∧
      Text.byteOffset "\"é\\\\\\\"\\\\\" x".toList (8 + 1) =
        Text.byteOffset "\"é\\\\\\\"\\\\\" x".toList 8 + 1 := by
  have here : Unescaped "\"é\\\\\\\"\\\\\" x".toList 0 8 :=
    ⟨by decide, by decide +kernel, by decide +kernel⟩
  have closed : stringLiteralEnd "\"é\\\\\\\"\\\\\" x".toList 0 = .closed 9 := by decide +kernel
  have parity := stringLiteralEnd_parity "\"é\\\\\\\"\\\\\" x".toList 0
  exact ⟨here, (parity.1 _).mp closed, parity.2 8 here⟩

end Amalgam
