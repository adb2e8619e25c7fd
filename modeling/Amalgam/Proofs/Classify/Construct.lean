import Amalgam.Proofs.Classify.Scan
import Amalgam.Proofs.Matcher.Label

/-! Constructs as blocks: the text and the captures that a label or an annotation leaves. -/
namespace Amalgam

theorem Span.slice_shift (s : Span) (n : Nat) (text : Text) :
    (s.shift n).slice text = s.slice (text.drop n) := by
  simp only [slice, shift, Text.slice, List.drop_drop, Nat.add_sub_add_left]

theorem Span.slice_between {s : Span} {text piece : Text} (front rest : Text)
    (eq : text = front ++ (piece ++ rest)) (start : s.start = front.length)
    (stop : s.stop = front.length + piece.length) : s.slice text = piece := by
  rw [slice, Text.slice, eq, start, stop, List.drop_left, Nat.add_sub_cancel_left, List.take_left]

theorem Reading.mem_codeFirst {i : Nat} {code : Text} {r : Reading} {b : Block}
    (h : b ∈ (codeFirst i code r).blocks) : b.kind = .code ∨ b ∈ r.blocks := by
  unfold codeFirst at h
  split at h
  · exact .inr h
  · rcases List.mem_cons.mp h with rfl | h
    · exact .inl rfl
    · exact .inr h

namespace Classify
variable {m : Matcher} {text : Text}

theorem opened_ne_construct {t : Text} {marker : Marker} {kind : BlockKind} {n : Nat}
    (h : opened t marker = .block kind n) : kind ≠ .construct := by
  cases marker with
  | blockComment =>
    cases h
    simp
  | lineComment =>
    cases h
    simp
  | stringLiteral =>
    obtain ⟨rfl, -⟩ := opened_literal h
    simp

theorem Scan.construct_mem {plain pos : Nat} {r : Reading} (h : Scan m text plain pos r)
    {b : Block} (member : b ∈ r.blocks) (kind : b.kind = .construct) :
    ∃ asked found, construct? m text asked = some found ∧
      b = ⟨.construct, found.span, found.span.slice text,
        found.groups.map (·.map (·.slice text))⟩ ∧ text[b.span.start]? ≠ some '"' := by
  -- A block of code in front is not the one that is looked for.
  have behind : ∀ {i code} {r : Reading}, b ∈ (r.codeFirst i code).blocks → b ∈ r.blocks := by
    intro i code r member
    rcases Reading.mem_codeFirst member with code | member
    · cases kind.symm.trans code
    · exact member
  induction h with
  | done => cases behind member
  | @construct plain pos asked found r since answer ahead clear first rest ih =>
    rcases List.mem_cons.mp (behind member) with rfl | member
    · refine ⟨asked, found, answer, rfl, fun quote => ?_⟩
      cases first _ (Marker.at?_drop_quote.mpr quote)
    · exact ih member
  | block next opens rest ih =>
    rcases List.mem_cons.mp (behind member) with rfl | member
    · exact absurd kind (opened_ne_construct opens)
    · exact ih member
  | stray next opens rest ih => exact ih member
  | unterminated => cases member

end Classify

theorem Matcher.labelAt?_groups {l t : Text} {found : Match} (h : labelAt? l t = some found) :
    ∃ lead blanks, t = lead :: (l ++ (blanks ++ ':' :: t.drop found.span.stop)) ∧
      Text.isIdentifier lead = false ∧ (∀ c ∈ blanks, Text.isBlank c = true) ∧
      found.span = ⟨0, 1 + l.length + blanks.length + 1⟩ ∧
      found.span.slice t = lead :: (l ++ (blanks ++ [':'])) ∧
      found.groups.map (·.map (·.slice t)) =
        [some (found.span.slice t), some [lead], some l, some (blanks ++ [':'])] := by
  obtain ⟨lead, blanks, rest, eq, -, apart, blank, rfl⟩ := labelAt?_some h
  have split : t = (lead :: (l ++ (blanks ++ [':']))) ++ rest := by simp [eq]
  have length : (lead :: (l ++ (blanks ++ [':']))).length = 1 + l.length + blanks.length + 1 := by
    simp only [List.length_cons, List.length_append, List.length_nil]
    omega
  have behind : t.drop (1 + l.length + blanks.length + 1) = rest := by
    rw [split, ← length, List.drop_left]
  have whole : Span.slice ⟨0, 1 + l.length + blanks.length + 1⟩ t =
      lead :: (l ++ (blanks ++ [':'])) :=
    Span.slice_between [] rest split rfl (by rw [length, List.length_nil, Nat.zero_add])
  have first : Span.slice ⟨0, 1⟩ t = [lead] :=
    Span.slice_between [] _ eq rfl rfl
  have name : Span.slice ⟨1, 1 + l.length⟩ t = l :=
    Span.slice_between [lead] _ eq rfl rfl
  have last : Span.slice ⟨1 + l.length, 1 + l.length + blanks.length + 1⟩ t = blanks ++ [':'] := by
    refine Span.slice_between (lead :: l) rest (by simp [eq]) ?_ ?_
    · simp [Nat.add_comm]
    · simp only [List.length_cons, List.length_append, List.length_nil]
      omega
  refine ⟨lead, blanks, by rw [behind]; exact eq, apart, blank, rfl, whole, ?_⟩
  simp only [List.map_cons, List.map_nil, Option.map_some, first, name, last]

section blocks
variable {text : Text} {blocks : List Block} {b : Block}

theorem classify_construct {pattern : Text → Option Match} (anchored : Matcher.Anchored pattern)
    (h : classify (.leftmost pattern) text = .ok blocks) (member : b ∈ blocks)
    (kind : b.kind = .construct) :
    ∃ n found, pattern (text.drop n) = some found ∧ b.text = found.span.slice (text.drop n) ∧
      b.captures = found.groups.map (·.map (·.slice (text.drop n))) := by
  obtain ⟨-, rfl⟩ := classify_eq_ok.mp h
  obtain ⟨asked, found, answer, rfl, -⟩ :=
    (read_scan (anchored.lawful text)).construct_mem member kind
  rw [anchored.construct?] at answer
  obtain ⟨n, here, -, matched, -, rfl⟩ := Matcher.leftmost_some answer
  refine ⟨n, here, matched, here.span.slice_shift n text, ?_⟩
  simp only [Match.shift, List.map_map, Function.comp_def, Option.map_map, Span.slice_shift]

theorem classify_label {l : Text} (h : classify (.label l) text = .ok blocks) (member : b ∈ blocks)
    (kind : b.kind = .construct) :
    ∃ lead blanks, Text.isIdentifier lead = false ∧ (∀ c ∈ blanks, Text.isBlank c = true) ∧
      b.text = lead :: (l ++ (blanks ++ [':'])) ∧
      b.captures = [some b.text, some [lead], some l, some (blanks ++ [':'])] := by
  rw [Matcher.label_eq_leftmost] at h
  obtain ⟨n, found, matched, piece, captures⟩ :=
    classify_construct (Matcher.labelAt?_anchored l) h member kind
  obtain ⟨lead, blanks, -, apart, blank, -, whole, groups⟩ := Matcher.labelAt?_groups matched
  exact ⟨lead, blanks, apart, blank, piece.trans whole, by rw [captures, piece, groups]⟩

theorem classify_annotation (h : classify .annotations text = .ok blocks) (member : b ∈ blocks)
    (kind : b.kind = .construct) :
    ∃ inner, ']' ∉ inner ∧ b.text = '[' :: '[' :: (inner ++ [']', ']']) ∧
      b.captures = [some b.text, some inner] := by
  obtain ⟨n, found, matched, piece, captures⟩ :=
    classify_construct Matcher.annotationAt?_anchored h member kind
  obtain ⟨inner, rest, eq, closed, rfl⟩ := Matcher.annotationAt?_some matched
  have whole : b.text = '[' :: '[' :: (inner ++ [']', ']']) := by
    rw [piece]
    exact Span.slice_between [] rest (by simp [eq]) rfl (by simp)
  have inside : Span.slice ⟨2, inner.length + 2⟩ (text.drop n) = inner :=
    Span.slice_between ['[', '['] _ eq rfl (Nat.add_comm _ _)
  refine ⟨inner, closed, whole, ?_⟩
  rw [captures, piece]
  simp only [List.map_cons, List.map_nil, Option.map_some, inside]

end blocks
end Amalgam
