import Amalgam.Proofs.Classify.Append
import Amalgam.Proofs.Classify.Shape
import Amalgam.Proofs.Literal
import Amalgam.Proofs.Stage.Lines

/-! Quotes in code, and why a reading fails. Behind a quote that opens nothing, all quotes are
escaped and the last of them does not end the text. What follows one of them is read in the
same pairs from there, so it opens nothing either. A reading fails at a quote behind which all
quotes are escaped and the last of them ends the text. -/
namespace Amalgam

/-- The reader comes to `q` in code: of what it has found, no comment, literal or construct
reaches beyond `q` from further back. -/
def Reading.InCode (r : Reading) (q : Nat) : Prop :=
  ∀ b ∈ r.blocks, b.kind ≠ .code → ¬ (b.span.start < q ∧ q < b.span.stop)

theorem Reading.InCode.mono {r r' : Reading} {q : Nat} (h : r.InCode q)
    (sub : ∀ b ∈ r'.blocks, b ∈ r.blocks) : r'.InCode q :=
  fun b member => h b (sub b member)

namespace Classify
variable {m : Matcher} {text : Text} {pos o : Nat} {r : Reading}

open Marker (Clear Next)

theorem opened_at_quote {marker : Marker} {kind : BlockKind} {i length : Nat}
    (next : Next text pos marker i) (opens : opened (text.drop i) marker = .block kind length)
    (quote : text[i]? = some '"') : kind = .stringLiteral := by
  have here := next.here
  rw [Marker.at?_drop_quote.mpr quote] at here
  cases here
  exact (opened_literal opens).1

/-- The reader stops at the quote at `o`, with all that it has found before it. Of the quotes
that it comes to in code on its way from `pos`, each opens a literal or nothing. -/
structure Stops (text : Text) (pos : Nat) (r : Reading) (o : Nat) : Prop where
  failure : r.failure = some (.ofPosition text o)
  ahead : pos ≤ o
  quote : text[o]? = some '"'
  escaped : stringLiteralEnd text o = .escapedQuoteAtEnd
  found : ∀ b ∈ r.blocks, b.span.stop ≤ o
  met : ∀ q, pos ≤ q → q < o → text[q]? = some '"' → r.InCode q →
    stringLiteralEnd text q = .unclosed ∨
      ∃ b ∈ r.blocks, b.kind = .stringLiteral ∧ b.span.start = q

namespace Stops

theorem blockFirst {plain : Nat} {b : Block} (h : Stops text b.span.stop r o)
    (le : plain ≤ b.span.start) (ahead : pos ≤ b.span.start) (proper : b.span.start < b.span.stop)
    (ne : b.kind ≠ .code) (clear : Clear text pos b.span.start)
    (own : text[b.span.start]? = some '"' → b.kind = .stringLiteral) :
    Stops text pos (.codeFirst plain (text.slice plain b.span.start) (.blockFirst b r)) o := by
  have stop_le := h.ahead
  have o_lt := (List.getElem?_eq_some_iff.mp h.quote).1
  have kept : ∀ c ∈ b :: r.blocks,
      c ∈ (Reading.codeFirst plain (text.slice plain b.span.start) (.blockFirst b r)).blocks :=
    fun c => Reading.mem_blockFirst _ _ _ _
  obtain ⟨first, later⟩ := List.forall_mem_cons.mp kept
  refine ⟨by simpa using h.failure, by omega, h.quote, h.escaped, ?_, ?_⟩
  · refine Reading.forall_codeFirst le (by omega) (by simp only; omega) ?_
    exact List.forall_mem_cons.mpr ⟨stop_le, h.found⟩
  · intro q lo hi quote code
    by_cases before : q < b.span.start
    · exact absurd quote (clear.no_quote lo before)
    by_cases here : b.span.start = q
    · exact .inr ⟨b, first, own (here ▸ quote), here⟩
    by_cases inside : q < b.span.stop
    · exact absurd ⟨by omega, inside⟩ (code b first ne)
    · rcases h.met q (by omega) hi quote (code.mono later) with unclosed | ⟨c, member, opens⟩
      · exact .inl unclosed
      · exact .inr ⟨c, later c member, opens⟩

theorem stray {i : Nat} {marker : Marker} (h : Stops text (i + 1) r o)
    (next : Next text pos marker i) (opens : opened (text.drop i) marker = .stray) :
    Stops text pos r o := by
  have ahead := h.ahead
  have pos_le := next.ahead
  refine { h with ahead := by omega, met := ?_ }
  intro q lo hi quote code
  by_cases before : q < i
  · exact absurd quote (next.clear.no_quote lo before)
  by_cases here : q = i
  · rw [here, stringLiteralEnd_drop, (opened_stray opens).2]
    exact .inl rfl
  · exact h.met q (by omega) hi quote code

theorem unterminated {i : Nat} {marker : Marker} (next : Next text pos marker i)
    (opens : opened (text.drop i) marker = .unterminated) :
    Stops text pos ⟨[], some (.ofPosition text i)⟩ i := by
  obtain ⟨rfl, escaped⟩ := opened_unterminated opens
  refine ⟨rfl, next.ahead, Marker.at?_drop_quote.mp next.here, ?_, by simp, ?_⟩
  · rw [stringLiteralEnd_drop, escaped]
    rfl
  · intro q lo hi quote
    exact absurd quote (next.clear.no_quote lo hi)

/-- Each quote that the reader comes to in code opens a literal: behind one that opens nothing,
it would not have stopped. -/
theorem literal (h : Stops text pos r o) {q : Nat} (lo : pos ≤ q) (hi : q < o)
    (quote : text[q]? = some '"') (code : r.InCode q) :
    ∃ b ∈ r.blocks, b.kind = .stringLiteral ∧ b.span.start = q := by
  rcases h.met q lo hi quote code with unclosed | opens
  · cases (stringLiteralEnd_unclosed hi unclosed h.quote).symm.trans h.escaped
  · exact opens

theorem ends (h : Stops text pos r o) :
    Interior (text.drop (o + 1)) ∧ ['\\', '"'] <:+ text.drop (o + 1) := by
  obtain ⟨interior, ⟨-, none⟩ | ends⟩ := StringEnd.scan_escaped h.escaped
  · cases none
  · exact ⟨interior, ends⟩

end Stops

theorem Scan.stops {plain : Nat} (h : Scan m text plain pos r) (lawful : m.Lawful text)
    (le : plain ≤ pos) (within : pos ≤ text.length) (failed : r.failure ≠ none) :
    ∃ o, Stops text pos r o := by
  induction h with
  | done => simp at failed
  | @construct plain pos asked found r behind answer ahead clear first rest ih =>
    obtain ⟨-, proper, inside⟩ :=
      construct?_bounds lawful (Nat.le_trans behind within) answer
    obtain ⟨o, stops⟩ := ih (Nat.le_refl _) inside (by simpa using failed)
    refine ⟨o, Stops.blockFirst (b := ⟨.construct, found.span, _, _⟩) stops
      (Nat.le_trans le ahead) ahead proper (by simp) clear fun quote => ?_⟩
    cases first _ (Marker.at?_drop_quote.mpr quote)
  | @block plain pos i length marker kind r next opens rest ih =>
    obtain ⟨proper, inside, ne⟩ := block_bounds next opens
    obtain ⟨o, stops⟩ := ih (Nat.le_refl _) inside (by simpa using failed)
    exact ⟨o, Stops.blockFirst (b := ⟨kind, ⟨i, i + length⟩, _, []⟩) stops
      (Nat.le_trans le next.ahead) next.ahead (Nat.lt_add_of_pos_right proper) ne next.clear
      (opened_at_quote next opens)⟩
  | @stray plain pos i marker r next opens rest ih =>
    have i_lt := Marker.lt_length_of_at? next.here
    obtain ⟨o, stops⟩ := ih (Nat.le_succ_of_le (Nat.le_trans le next.ahead)) i_lt failed
    exact ⟨o, stops.stray next opens⟩
  | @unterminated plain pos i marker next opens => exact ⟨i, .unterminated next opens⟩

end Classify

open Classify

theorem classify_error {m : Matcher} {text : Text} {e : Unterminated} (lawful : m.Lawful text)
    (h : classify m text = .error e) :
    ∃ o, e = .ofPosition text o ∧ Stops text 0 (read m text) o := by
  have failed := classify_eq_error.mp h
  obtain ⟨o, stops⟩ := (read_scan lawful).stops lawful (Nat.le_refl _) (Nat.zero_le _)
    (by simp [failed])
  exact ⟨o, Option.some.inj (failed.symm.trans stops.failure), stops⟩

theorem QuotedFrom.closed {text : Text} {start stop : Nat} (h : QuotedFrom text start stop) :
    text[start]? = some '"' ∧ stringLiteralEnd text start = .closed stop := by
  obtain ⟨inside, rest, eq, interior, rfl⟩ := h
  constructor
  · rw [← List.head?_drop, eq]
    rfl
  · rw [stringLiteralEnd, ← List.drop_drop, eq, List.drop_succ_cons, List.drop_zero,
      StringEnd.scan_interior interior]
    congr 1
    omega

/-- Behind a quote in code no literal starts. And where a reading fails, each quote in front of
the one at which it does so opened a literal, if the reader came to it in code. -/
theorem classify_behind_stray {m : Matcher} {text : Text} (lawful : m.Lawful text) :
    (∀ blocks, classify m text = .ok blocks → ∀ b ∈ blocks, b.kind = .code →
      ∀ q, b.span.start ≤ q → q < b.span.stop → text[q]? = some '"' →
        ∀ c ∈ blocks, c.kind = .stringLiteral → ¬ q < c.span.start) ∧
    ∀ e, classify m text = .error e → ∃ o, e = .ofPosition text o ∧
      ∀ q < o, text[q]? = some '"' → (read m text).InCode q →
        ∃ b ∈ (read m text).blocks, b.kind = .stringLiteral ∧ b.span.start = q ∧
          QuotedFrom text q b.span.stop ∧ b.span.stop ≤ o := by
  constructor
  · intro blocks ok b hb code q lo hi quote c hc kind lt
    obtain ⟨-, rfl⟩ := classify_eq_ok.mp ok
    obtain ⟨-, plain⟩ := read_shaped lawful b hb
    obtain ⟨-, literal⟩ := read_shaped lawful c hc
    rw [Block.Shaped, code] at plain
    rw [Block.Shaped, kind] at literal
    have unclosed := (plain q lo hi).2.2 (Marker.at?_eq_some.mp (Marker.at?_drop_quote.mpr quote))
    obtain ⟨opening, closed⟩ := literal.closed
    cases (stringLiteralEnd_unclosed lt unclosed opening).symm.trans closed
  · intro e failed
    obtain ⟨o, rfl, stops⟩ := classify_error lawful failed
    refine ⟨o, rfl, fun q lt quote inCode => ?_⟩
    obtain ⟨b, hb, kind, rfl⟩ := stops.literal (Nat.zero_le q) lt quote inCode
    obtain ⟨-, shaped⟩ := read_shaped lawful b hb
    rw [Block.Shaped, kind] at shaped
    exact ⟨b, hb, kind, rfl, shaped, stops.found b hb⟩

/-- In the first text a construct takes the backslash of an escaped quote. The second one fails
behind a literal and a comment with a quote in it. -/
theorem classify_behind_stray_shifted :
    (∃ text blocks, text = "\"a\"'\"'[\\\"]\\\"b".toList ∧
      classify (.spans [⟨6, 8⟩]) text = .ok blocks ∧
      blocks.map (·.kind) = [.stringLiteral, .code, .construct, .code] ∧
      ∀ c ∈ blocks, c.kind = .stringLiteral → ¬ 4 < c.span.start) ∧
    ∃ text o, text = "\"a\"/*\"*/\"b\\\"".toList ∧ classify .never text = .error ⟨8, 1⟩ ∧
      (⟨8, 1⟩ : Unterminated) = .ofPosition text o ∧
      ∀ q < o, text[q]? = some '"' → (read .never text).InCode q →
        ∃ b ∈ (read .never text).blocks, b.kind = .stringLiteral ∧ b.span.start = q ∧
          QuotedFrom text q b.span.stop ∧ b.span.stop ≤ o := by
  constructor
  · have lawful : (Matcher.spans [⟨6, 8⟩]).Lawful "\"a\"'\"'[\\\"]\\\"b".toList :=
      Matcher.spans_lawful (by decide)
    have ok : classify (.spans [⟨6, 8⟩]) "\"a\"'\"'[\\\"]\\\"b".toList = .ok _ :=
      classify_eq_ok.mpr ⟨by decide +kernel, rfl⟩
    refine ⟨_, _, rfl, ok, by decide +kernel, ?_⟩
    exact (classify_behind_stray lawful).1 _ ok ⟨.code, ⟨3, 6⟩, "'\"'".toList, []⟩
      (by decide +kernel) rfl 4 (by decide) (by decide) (by decide)
  · have failed : classify .never "\"a\"/*\"*/\"b\\\"".toList = .error ⟨8, 1⟩ := by decide +kernel
    obtain ⟨o, place, met⟩ := (classify_behind_stray (Matcher.never_lawful _)).2 _ failed
    exact ⟨_, o, rfl, failed, place, met⟩

/-- A reading fails only if the text ends in an escaped quote, at a quote from which all that
follows reads as the inside of a literal, and names the place of this quote. No block that was
found reaches it. So no stage fails on any other text. -/
theorem classify_fails_at_end (text : Text) :
    (∀ m e, Matcher.Lawful m text → classify m text = .error e → ∃ o,
      e.offset = text.byteOffset o ∧ e.line = 1 + Text.newlines (text.take o) ∧
      text[o]? = some '"' ∧ o + 2 < text.length ∧ ['\\', '"'] <:+ text ∧
      Interior (text.drop (o + 1)) ∧ ∀ b ∈ (read m text).blocks, b.span.stop ≤ o) ∧
    (¬ ['\\', '"'] <:+ text → ∀ settings stage, ∃ out,
      Stage.apply settings stage text = .ok out) := by
  constructor
  · intro m e lawful failed
    obtain ⟨o, rfl, stops⟩ := classify_error lawful failed
    obtain ⟨interior, ends⟩ := stops.ends
    have room := ends.length_le
    simp only [List.length_cons, List.length_nil, List.length_drop] at room
    exact ⟨o, rfl, Nat.add_comm _ _, stops.quote, by omega, ends.trans (List.drop_suffix _ _),
      interior, stops.found⟩
  · intro other settings stage
    cases read : classify (stage.matcher settings) text with
    | ok blocks => exact ⟨_, Stage.apply_eq read⟩
    | error e =>
      obtain ⟨o, -, stops⟩ := classify_error (Stage.matcher_lawful settings stage text) read
      exact absurd (stops.ends.2.trans (List.drop_suffix _ _)) other

/-- The first quote lies in a construct. -/
theorem classify_fails_at_end_construct :
    (∃ (text : Text) (o : Nat), text = "é\n[\"]\"b\\\"".toList ∧
      classify (.spans [⟨2, 5⟩]) text = .error ⟨6, 2⟩ ∧
      6 = text.byteOffset o ∧ 2 = 1 + Text.newlines (text.take o) ∧ text[o]? = some '"' ∧
      o + 2 < text.length ∧ ['\\', '"'] <:+ text ∧ Interior (text.drop (o + 1)) ∧
      ∀ b ∈ (read (.spans [⟨2, 5⟩]) text).blocks, b.span.stop ≤ o) ∧
    ∃ out, Stage.annotate.apply {} "[[a]]\"b\\\" ".toList = .ok out := by
  constructor
  · have failed : classify (.spans [⟨2, 5⟩]) "é\n[\"]\"b\\\"".toList = .error ⟨6, 2⟩ := by
      decide +kernel
    obtain ⟨o, holds⟩ := (classify_fails_at_end "é\n[\"]\"b\\\"".toList).1 _ _
      (Matcher.spans_lawful (by decide)) failed
    exact ⟨_, o, rfl, failed, holds⟩
  · exact (classify_fails_at_end "[[a]]\"b\\\" ".toList).2 (by decide) _ _

end Amalgam
