import Amalgam.Classify
import Amalgam.Proofs.Text

/-! Where markers stand, and where the comments and literals end that they open. -/
namespace Amalgam

namespace Marker

def mark : Marker → Text
  | .blockComment => ['/', '*']
  | .lineComment => ['/', '/']
  | .stringLiteral => ['"']

theorem at?_eq_some {t : Text} {kind : Marker} : at? t = some kind ↔ kind.mark <+: t := by
  constructor
  · intro h
    unfold at? at h
    split at h <;> cases h <;> simp [mark]
  · rintro ⟨rest, rfl⟩
    cases kind <;> rfl

theorem lt_length_of_at? {text : Text} {i : Nat} {kind : Marker}
    (h : at? (text.drop i) = some kind) : i < text.length := by
  refine Nat.lt_of_not_le fun le => ?_
  rw [List.drop_eq_nil_of_le le] at h
  cases h

theorem at?_drop_quote {text : Text} {n : Nat} :
    at? (text.drop n) = some .stringLiteral ↔ text[n]? = some '"' := by
  rw [at?_eq_some, ← List.head?_drop]
  cases text.drop n with
  | nil => simp [mark]
  | cons c rest => simp [mark, eq_comm]

def Clear (text : Text) (i j : Nat) : Prop := ∀ k, i ≤ k → k < j → at? (text.drop k) = none

theorem Clear.mono {text : Text} {i i' j j' : Nat} (h : Clear text i j) (lo : i ≤ i')
    (hi : j' ≤ j) : Clear text i' j' :=
  fun k le lt => h k (by omega) (by omega)

theorem Clear.join {text : Text} {i j k : Nat} (h : Clear text i j) (h' : Clear text j k) :
    Clear text i k := by
  intro n lo hi
  by_cases before : n < j
  · exact h n lo before
  · exact h' n (Nat.le_of_not_lt before) hi

theorem Clear.no_quote {text : Text} {i j q : Nat} (h : Clear text i j) (lo : i ≤ q)
    (hi : q < j) : text[q]? ≠ some '"' := by
  rw [Ne, ← at?_drop_quote, h q lo hi]
  simp

structure Next (text : Text) (pos : Nat) (kind : Marker) (i : Nat) : Prop where
  ahead : pos ≤ i
  clear : Clear text pos i
  here : at? (text.drop i) = some kind

theorem Next.mono {text : Text} {pos pos' i : Nat} {kind : Marker} (h : Next text pos kind i)
    (lo : pos ≤ pos') (hi : pos' ≤ i) : Next text pos' kind i :=
  ⟨hi, h.clear.mono lo (Nat.le_refl _), h.here⟩

theorem next?_some {text : Text} {pos i : Nat} {kind : Marker}
    (h : next? text pos = some (kind, i)) : Next text pos kind i := by
  obtain ⟨⟨n, found⟩, first, eq⟩ := Option.map_eq_some_iff.mp h
  cases eq
  obtain ⟨-, here, before⟩ := Text.leftmost_some first
  refine ⟨Nat.le_add_right _ _, ?_, by rwa [List.drop_drop] at here⟩
  intro k le lt
  have missed := before (k - pos) (by omega)
  rwa [List.drop_drop, Nat.add_sub_cancel' le] at missed

theorem next?_none {text : Text} {pos : Nat} (h : next? text pos = none) (j : Nat) :
    Clear text pos j := by
  intro k le _
  have missed := Text.leftmost_none (Option.map_eq_none_iff.mp h) (k - pos)
  rwa [List.drop_drop, Nat.add_sub_cancel' le] at missed

end Marker

/-- The inside of a literal: every backslash takes the character behind it along, and no
other quote is there. -/
inductive Interior : Text → Prop
  | nil : Interior []
  | escape (c : Char) {cs : Text} (rest : Interior cs) : Interior ('\\' :: c :: cs)
  | plain {c : Char} {cs : Text} (quote : c ≠ '"') (slash : c ≠ '\\') (rest : Interior cs) :
      Interior (c :: cs)

namespace StringEnd

def shift (n : Nat) : StringEnd → StringEnd
  | .closed stop => .closed (n + stop)
  | .unclosed => .unclosed
  | .escapedQuoteAtEnd => .escapedQuoteAtEnd

theorem scan_add (n : Nat) (escaped : Bool) (pos : Nat) (t : Text) :
    scan escaped (n + pos) t = (scan escaped pos t).shift n := by
  fun_induction scan escaped pos t with
  | case1 pos => simp [scan, shift]
  | case2 escaped pos h => simp [scan, h, shift]
  | case3 escaped pos c cs ih =>
    rw [scan, Nat.add_assoc]
    exact ih
  | case4 escaped pos c cs single quote => simp [scan, quote, shift, Nat.add_assoc]
  | case5 escaped pos c cs single plain ih =>
    rw [scan, if_neg plain, Nat.add_assoc]
    · exact ih
    · exact single

theorem scan_closed {escaped : Bool} {pos stop : Nat} {t : Text}
    (h : scan escaped pos t = .closed stop) :
    ∃ inside rest, t = inside ++ '"' :: rest ∧ Interior inside ∧
      stop = pos + inside.length + 1 := by
  fun_induction scan escaped pos t with
  | case1 => cases h
  | case2 => cases h
  | case3 escaped pos c cs ih =>
    obtain ⟨inside, rest, rfl, interior, rfl⟩ := ih h
    refine ⟨'\\' :: c :: inside, rest, rfl, .escape c interior, ?_⟩
    simp only [List.length_cons]
    omega
  | case4 escaped pos c cs single quote =>
    cases h
    exact ⟨[], cs, by simpa using quote, .nil, rfl⟩
  | case5 escaped pos c cs single plain ih =>
    obtain ⟨inside, rest, rfl, interior, rfl⟩ := ih h
    -- A backslash would have taken along what follows it.
    have slash : c ≠ '\\' := by
      rintro rfl
      cases inside <;> exact single _ _ rfl rfl
    refine ⟨c :: inside, rest, rfl, .plain (by simpa using plain) slash interior, ?_⟩
    simp only [List.length_cons]
    omega

end StringEnd

theorem stringLiteralEnd_drop (text : Text) (i : Nat) :
    stringLiteralEnd text i = (stringLiteralEnd (text.drop i) 0).shift i := by
  rw [stringLiteralEnd, stringLiteralEnd, List.drop_drop, ← StringEnd.scan_add]

/-- What goes on from `start` ends at `stop`: behind the first `mark`, or with the text. -/
def EndsBehind (mark text : Text) (start stop : Nat) : Prop :=
  (∃ k, start ≤ k ∧ mark <+: text.drop k ∧
    (∀ j, start ≤ j → j < k → ¬ mark <+: text.drop j) ∧ stop = k + mark.length) ∨
  (∀ j, start ≤ j → ¬ mark <+: text.drop j) ∧ stop = text.length

namespace EndsBehind
variable {mark text : Text} {start stop : Nat}

theorem of_indexOf?
    (found : ∀ k, Text.indexOf? mark (text.drop start) = some k → stop = start + k + mark.length)
    (missed : Text.indexOf? mark (text.drop start) = none → stop = text.length) :
    EndsBehind mark text start stop := by
  cases h : Text.indexOf? mark (text.drop start) with
  | some k =>
    obtain ⟨here, before⟩ := Text.indexOf?_some h
    rw [List.drop_drop] at here
    refine .inl ⟨start + k, Nat.le_add_right _ _, here, ?_, found k h⟩
    intro j le lt stands
    refine before (j - start) (by omega) ?_
    rwa [List.drop_drop, Nat.add_sub_cancel' le]
  | none =>
    refine .inr ⟨?_, missed h⟩
    intro j le stands
    refine Text.indexOf?_none h (j - start) ?_
    rwa [List.drop_drop, Nat.add_sub_cancel' le]

theorem bounds (h : EndsBehind mark text start stop) (le : start ≤ text.length)
    (ne : mark ≠ []) : start ≤ stop ∧ stop ≤ text.length := by
  rcases h with ⟨k, le, here, -, rfl⟩ | ⟨-, rfl⟩
  · have fits := here.length_le
    have pos := List.length_pos_iff.mpr ne
    rw [List.length_drop] at fits
    omega
  · exact ⟨le, Nat.le_refl _⟩

theorem shift {n : Nat} (h : EndsBehind mark (text.drop n) start stop) (le : n ≤ text.length) :
    EndsBehind mark text (n + start) (n + stop) := by
  rcases h with ⟨k, hk, here, before, rfl⟩ | ⟨missed, rfl⟩
  · rw [List.drop_drop] at here
    refine .inl ⟨n + k, by omega, here, ?_, by omega⟩
    intro j hj lt stands
    refine before (j - n) (by omega) (by omega) ?_
    rwa [List.drop_drop, Nat.add_sub_cancel' (by omega)]
  · refine .inr ⟨?_, by rw [List.length_drop]; omega⟩
    intro j hj stands
    refine missed (j - n) (by omega) ?_
    rwa [List.drop_drop, Nat.add_sub_cancel' (by omega)]

theorem extend {first : Nat} (h : EndsBehind mark text start stop) (le : first ≤ start)
    (clear : ∀ j, first ≤ j → j < start → ¬ mark <+: text.drop j) :
    EndsBehind mark text first stop := by
  have missed : ∀ {j}, first ≤ j → (start ≤ j → ¬ mark <+: text.drop j) → ¬ mark <+: text.drop j := by
    intro j hj later
    by_cases lt : j < start
    · exact clear j hj lt
    · exact later (by omega)
  rcases h with ⟨k, hk, here, before, rfl⟩ | ⟨none, rfl⟩
  · exact .inl ⟨k, by omega, here, fun j hj lt => missed hj fun hs => before j hs lt, rfl⟩
  · exact .inr ⟨fun j hj => missed hj (none j), rfl⟩

end EndsBehind

theorem blockCommentLength_endsBehind (t : Text) :
    EndsBehind ['*', '/'] t 2 (blockCommentLength t) := by
  apply EndsBehind.of_indexOf?
  · intro k found
    rw [blockCommentLength, found]
    simp only [List.length_cons, List.length_nil]
    omega
  · intro missed
    rw [blockCommentLength, missed]

theorem lineCommentLength_endsBehind (t : Text) :
    EndsBehind ['\n'] t 2 (lineCommentLength t) := by
  apply EndsBehind.of_indexOf?
  · intro k found
    rw [lineCommentLength, found]
    simp only [List.length_cons, List.length_nil]
    omega
  · intro missed
    rw [lineCommentLength, missed]

/-- The two slashes hold no newline, so the search may as well start in front of them. -/
theorem lineCommentLength_endsBehind_start {t : Text} (h : ['/', '/'] <+: t) :
    EndsBehind ['\n'] t 0 (lineCommentLength t) := by
  refine (lineCommentLength_endsBehind t).extend (Nat.zero_le _) ?_
  obtain ⟨rest, rfl⟩ := h
  intro j _ lt
  match j with
  | 0 => simp
  | 1 => simp

namespace Classify

theorem opened_stray {t : Text} {marker : Marker} (h : opened t marker = .stray) :
    marker = .stringLiteral ∧ stringLiteralEnd t 0 = .unclosed := by
  cases marker with
  | blockComment => cases h
  | lineComment => cases h
  | stringLiteral =>
    simp only [opened] at h
    split at h
    · cases h
    · rename_i unclosed
      exact ⟨rfl, unclosed⟩
    · cases h

theorem opened_unterminated {t : Text} {marker : Marker} (h : opened t marker = .unterminated) :
    marker = .stringLiteral ∧ stringLiteralEnd t 0 = .escapedQuoteAtEnd := by
  cases marker with
  | blockComment => cases h
  | lineComment => cases h
  | stringLiteral =>
    simp only [opened] at h
    split at h
    · cases h
    · cases h
    · rename_i escaped
      exact ⟨rfl, escaped⟩

theorem opened_literal {t : Text} {kind : BlockKind} {n : Nat}
    (h : opened t .stringLiteral = .block kind n) :
    kind = .stringLiteral ∧ stringLiteralEnd t 0 = .closed n := by
  simp only [opened] at h
  split at h
  · rename_i closed
    cases h
    exact ⟨rfl, closed⟩
  · cases h
  · cases h

theorem opened_bounds {t : Text} {kind : Marker} {block : BlockKind} {n : Nat}
    (marker : Marker.at? t = some kind) (h : opened t kind = .block block n) :
    0 < n ∧ n ≤ t.length ∧ block ≠ .code := by
  cases kind with
  | blockComment =>
    cases h
    have two : 2 ≤ t.length := (Marker.at?_eq_some.mp marker).length_le
    obtain ⟨le, fits⟩ := (blockCommentLength_endsBehind t).bounds two (by simp)
    exact ⟨by omega, fits, by simp⟩
  | lineComment =>
    cases h
    have two : 2 ≤ t.length := (Marker.at?_eq_some.mp marker).length_le
    obtain ⟨le, fits⟩ := (lineCommentLength_endsBehind t).bounds two (by simp)
    exact ⟨by omega, fits, by simp⟩
  | stringLiteral =>
    obtain ⟨rfl, closed⟩ := opened_literal h
    obtain ⟨inside, rest, eq, -, rfl⟩ := StringEnd.scan_closed closed
    have length := congrArg List.length eq
    simp only [List.length_drop, List.length_append, List.length_cons] at length
    exact ⟨by omega, by omega, by simp⟩

end Classify
end Amalgam
