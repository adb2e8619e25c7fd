import Amalgam.Proofs.Classify.Scan

/-! What the kind of a block says of the text that it is cut from. -/
namespace Amalgam

/-- A literal: a quote, an inside, and the first quote that the inside does not take along. -/
def QuotedFrom (text : Text) (start stop : Nat) : Prop :=
  ∃ inside rest, text.drop start = '"' :: (inside ++ '"' :: rest) ∧ Interior inside ∧
    stop = start + inside.length + 2

/-- No comment opens from `i` up to `j`, and no quote there has one that closes it. -/
def Plain (text : Text) (i j : Nat) : Prop :=
  ∀ k, i ≤ k → k < j → ¬ ['/', '*'] <+: text.drop k ∧ ¬ ['/', '/'] <+: text.drop k ∧
    (['"'] <+: text.drop k → stringLiteralEnd text k = .unclosed)

namespace Plain
variable {text : Text} {i j k : Nat}

theorem self (text : Text) (i : Nat) : Plain text i i := by
  intro k le lt
  omega

theorem append (h : Plain text i j) (h' : Plain text j k) : Plain text i k := by
  intro n le lt
  by_cases before : n < j
  · exact h n le before
  · exact h' n (by omega) lt

theorem of_clear (h : Marker.Clear text i j) : Plain text i j := by
  intro k le lt
  have off : ∀ kind : Marker, ¬ kind.mark <+: text.drop k := by
    intro kind stands
    rw [← Marker.at?_eq_some, h k le lt] at stands
    cases stands
  exact ⟨off .blockComment, off .lineComment, fun quote => absurd quote (off .stringLiteral)⟩

theorem of_stray {marker : Marker} (here : Marker.at? (text.drop i) = some marker)
    (opens : Classify.opened (text.drop i) marker = .stray) : Plain text i (i + 1) := by
  obtain ⟨rfl, unclosed⟩ := Classify.opened_stray opens
  intro k le lt
  obtain rfl : k = i := by omega
  have only : ∀ kind : Marker, kind.mark <+: text.drop k → kind = .stringLiteral := by
    intro kind stands
    rw [← Marker.at?_eq_some, here] at stands
    cases stands
    rfl
  refine ⟨fun stands => ?_, fun stands => ?_, fun _ => ?_⟩
  · cases only .blockComment stands
  · cases only .lineComment stands
  · rw [stringLiteralEnd_drop, unclosed]
    rfl

end Plain

/-- A block comment ends behind the first `*/` after its opening, a line comment behind its
first newline, both with the text at the latest. -/
def Block.Shaped (text : Text) (b : Block) : Prop :=
  match b.kind with
  | .code => Plain text b.span.start b.span.stop
  | .blockComment => ['/', '*'] <+: text.drop b.span.start ∧
      EndsBehind ['*', '/'] text (b.span.start + 2) b.span.stop
  | .lineComment => ['/', '/'] <+: text.drop b.span.start ∧
      EndsBehind ['\n'] text b.span.start b.span.stop
  | .stringLiteral => QuotedFrom text b.span.start b.span.stop
  | .construct => True

namespace Classify
variable {m : Matcher} {text : Text}

theorem opened_shaped {marker : Marker} {kind : BlockKind} {i length : Nat}
    (here : Marker.at? (text.drop i) = some marker)
    (opens : opened (text.drop i) marker = .block kind length) (piece : Text) :
    Block.Shaped text ⟨kind, ⟨i, i + length⟩, piece, []⟩ := by
  have i_le := Nat.le_of_lt (Marker.lt_length_of_at? here)
  cases marker with
  | blockComment =>
    cases opens
    exact ⟨Marker.at?_eq_some.mp here, (blockCommentLength_endsBehind _).shift i_le⟩
  | lineComment =>
    cases opens
    have slashes : ['/', '/'] <+: text.drop i := Marker.at?_eq_some.mp here
    exact ⟨slashes, (lineCommentLength_endsBehind_start slashes).shift i_le⟩
  | stringLiteral =>
    obtain ⟨rfl, closed⟩ := opened_literal opens
    obtain ⟨inside, rest, eq, interior, rfl⟩ := StringEnd.scan_closed closed
    obtain ⟨tail, quote⟩ := Marker.at?_eq_some.mp here
    refine ⟨inside, rest, ?_, interior, by simp only; omega⟩
    rw [← quote] at eq ⊢
    simpa [Marker.mark] using eq

theorem Scan.shaped {plain pos : Nat} {r : Reading} (h : Scan m text plain pos r)
    (lawful : m.Lawful text) (le : plain ≤ pos) (within : pos ≤ text.length)
    (code : Plain text plain pos) :
    ∀ b ∈ r.blocks, b.text = b.span.slice text ∧ b.Shaped text := by
  -- Along the steps, `code` grows by what has no marker and by the stray quotes.
  induction h with
  | @done plain pos clear =>
    rw [← text.slice_length plain]
    refine Reading.forall_codeFirst (Nat.le_trans le within) (Nat.le_refl _) ⟨rfl, ?_⟩ (by simp)
    exact code.append (.of_clear clear)
  | @construct plain pos asked found r behind answer ahead clear first rest ih =>
    obtain ⟨-, proper, inside⟩ :=
      construct?_bounds lawful (Nat.le_trans behind within) answer
    refine Reading.forall_codeFirst (Nat.le_trans le ahead) (by omega)
      ⟨rfl, code.append (.of_clear clear)⟩ ?_
    exact List.forall_mem_cons.mpr
      ⟨⟨rfl, trivial⟩, ih (Nat.le_refl _) inside (.self _ _)⟩
  | @block plain pos i length marker kind r next opens rest ih =>
    obtain ⟨-, inside, -⟩ := block_bounds next opens
    refine Reading.forall_codeFirst (Nat.le_trans le next.ahead) (by omega)
      ⟨rfl, code.append (.of_clear next.clear)⟩ ?_
    exact List.forall_mem_cons.mpr
      ⟨⟨rfl, opened_shaped next.here opens _⟩, ih (Nat.le_refl _) inside (.self _ _)⟩
  | @stray plain pos i marker r next opens rest ih =>
    have i_lt := Marker.lt_length_of_at? next.here
    refine ih (Nat.le_succ_of_le (Nat.le_trans le next.ahead)) i_lt ?_
    exact (code.append (.of_clear next.clear)).append (.of_stray next.here opens)
  | unterminated => simp

end Classify

theorem read_shaped {m : Matcher} {text : Text} (lawful : m.Lawful text) :
    ∀ b ∈ (read m text).blocks, b.text = b.span.slice text ∧ b.Shaped text :=
  (read_scan lawful).shaped lawful (Nat.le_refl _) (Nat.zero_le _) (.self _ _)

/-- Every block of a text has the shape that its kind promises. -/
theorem classify_shapes {m : Matcher} {text : Text} {blocks : List Block}
    (lawful : m.Lawful text) (h : classify m text = .ok blocks) :
    ∀ b ∈ blocks, b.text = b.span.slice text ∧ b.Shaped text := by
  obtain ⟨-, rfl⟩ := classify_eq_ok.mp h
  exact (read_scan lawful).shaped lawful (Nat.le_refl _) (Nat.zero_le _) (.self _ _)

/-- A stray quote, and a comment that a match inside it and its first slash do not end. -/
theorem classify_shapes_stray :
    classify (.spans [⟨4, 6⟩]) "a\"/*/b*/".toList =
        .ok [⟨.code, ⟨0, 2⟩, ['a', '"'], []⟩,
          ⟨.blockComment, ⟨2, 8⟩, ['/', '*', '/', 'b', '*', '/'], []⟩] ∧
      Plain "a\"/*/b*/".toList 0 2 ∧ EndsBehind ['*', '/'] "a\"/*/b*/".toList 4 8 := by
  have ok : classify (.spans [⟨4, 6⟩]) "a\"/*/b*/".toList =
      .ok [⟨.code, ⟨0, 2⟩, ['a', '"'], []⟩,
        ⟨.blockComment, ⟨2, 8⟩, ['/', '*', '/', 'b', '*', '/'], []⟩] :=
    classify_eq_ok.mpr (by decide +kernel)
  have shapes := classify_shapes (Matcher.spans_lawful (by decide)) ok
  obtain ⟨-, code⟩ := shapes ⟨.code, ⟨0, 2⟩, ['a', '"'], []⟩ (by decide)
  obtain ⟨-, -, ends⟩ :=
    shapes ⟨.blockComment, ⟨2, 8⟩, ['/', '*', '/', 'b', '*', '/'], []⟩ (by decide)
  exact ⟨ok, code, ends⟩

end Amalgam
