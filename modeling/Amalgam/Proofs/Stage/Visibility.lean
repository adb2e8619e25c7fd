import Amalgam.Proofs.Classify.Construct
import Amalgam.Proofs.Classify.Cut
import Amalgam.Proofs.Classify.Exhausted
import Amalgam.Proofs.Stage.Lines

/-! The visibility stage and the lexical structure. A label stands in code, and neither it nor
what replaces it holds a marker or lets one arise beside it; nor does it change how a quote
further in front is read, whose literal may be looked for through all of the text. So the
text before and the text after fall into the same pieces. -/
namespace Amalgam

structure Text.Identifier (t : Text) : Prop where
  ne : t ≠ []
  chars : ∀ c ∈ t, isIdentifier c = true

theorem Text.isIdentifier_plain {c : Char} (h : isIdentifier c = true) :
    c ≠ '/' ∧ c ≠ '*' ∧ c ≠ '"' ∧ c ≠ '\\' := by
  refine ⟨?_, ?_, ?_, ?_⟩ <;> rintro rfl <;> exact absurd h (by decide)

theorem Text.isBlank_plain {c : Char} (h : isBlank c = true) : c ≠ '/' ∧ c ≠ '"' := by
  refine ⟨?_, ?_⟩ <;> rintro rfl <;> exact absurd h (by decide)

def Block.isMarked (b : Block) : Bool := b.kind != .code && b.kind != .construct

@[simp] theorem Reading.filter_isMarked_codeFirst (i : Nat) (code : Text) (r : Reading) :
    (codeFirst i code r).blocks.filter Block.isMarked = r.blocks.filter Block.isMarked := by
  unfold codeFirst
  split <;> simp [Block.isMarked]

/-- Some occurrences of a label have been replaced. Each stands between a character that is
not part of an identifier and a colon, with blanks before the colon or without. -/
inductive Relabelled (s : VisibilitySettings) : Text → Text → Prop
  | nil : Relabelled s [] []
  | keep (c : Char) {t t' : Text} (rest : Relabelled s t t') : Relabelled s (c :: t) (c :: t')
  | label {lead : Char} {blanks t t' : Text} (apart : Text.isIdentifier lead = false)
      (blank : ∀ c ∈ blanks, Text.isBlank c = true) (rest : Relabelled s t t') :
      Relabelled s (lead :: (s.label ++ (blanks ++ ':' :: t)))
        (lead :: (s.replacement ++ (blanks ++ ':' :: t')))

namespace Relabelled
variable {s : VisibilitySettings} {t t' u u' : Text}

theorem refl (t : Text) : Relabelled s t t := by
  induction t with
  | nil => exact .nil
  | cons c t ih => exact .keep c ih

theorem append (h : Relabelled s t t') (h' : Relabelled s u u') :
    Relabelled s (t ++ u) (t' ++ u') := by
  induction h with
  | nil => exact h'
  | keep c rest ih => exact .keep c ih
  | label apart blank rest ih => simpa using Relabelled.label apart blank ih

theorem nil_iff (h : Relabelled s t t') : t = [] ↔ t' = [] := by
  cases h <;> simp

theorem run (h : Relabelled s t t') (label : s.label.Identifier)
    (replacement : s.replacement.Identifier) (state : StringEnd.State) :
    state.run t' = state.run t := by
  have plain : ∀ {name : Text}, name.Identifier → ∀ c ∈ name, c ≠ '"' ∧ c ≠ '\\' := by
    intro name identifier c member
    obtain ⟨-, -, quote, slash⟩ := Text.isIdentifier_plain (identifier.chars c member)
    exact ⟨quote, slash⟩
  induction h generalizing state with
  | nil => rfl
  | keep c rest ih => exact ih _
  | @label lead blanks t t' apart blank rest ih =>
    -- Both names are forgotten at their end, a backslash in front of them included.
    have forgotten := StringEnd.State.run_plain (s := state.next lead) label.ne (plain label)
    have forgotten' := StringEnd.State.run_plain (s := state.next lead) replacement.ne
      (plain replacement)
    simp only [StringEnd.State.run_cons, StringEnd.State.run_append, forgotten, forgotten', ih]

theorem unclosed (h : Relabelled s t t') (label : s.label.Identifier)
    (replacement : s.replacement.Identifier)
    (unclosed : stringLiteralEnd ('"' :: t) 0 = .unclosed) :
    stringLiteralEnd ('"' :: t') 0 = .unclosed := by
  have open_ : StringEnd.scan false 1 t = .unclosed := unclosed
  rw [StringEnd.scan_unclosed, ← h.run label replacement, ← StringEnd.scan_unclosed] at open_
  exact open_

end Relabelled

/-- A piece of the text and the one that stands in its place: of the same kind, with labels
replaced in code only. -/
structure Piece.Relabels (s : VisibilitySettings) (p p' : Piece) : Prop where
  kind : p'.kind = p.kind
  code : p.kind = .code → Relabelled s p.text p'.text
  other : p.kind ≠ .code → p'.text = p.text

namespace Visibility
open Classify
variable {s : VisibilitySettings}

/-- Two texts, read side by side from where code has been gathered, fall into the same
pieces up to labels. -/
def Alike (s : VisibilitySettings) (code rest code' rest' : Text) : Prop :=
  Relabelled s rest rest' ∧ ∃ ps ps', Cut code rest ps ∧ Cut code' rest' ps' ∧
    List.Forall₂ (Piece.Relabels s) ps ps'

theorem forall₂_codeFirst {code code' : Text} {ps ps' : List Piece}
    (same : Relabelled s code code') (h : List.Forall₂ (Piece.Relabels s) ps ps') :
    List.Forall₂ (Piece.Relabels s) (Piece.codeFirst code ps) (Piece.codeFirst code' ps') := by
  unfold Piece.codeFirst
  by_cases empty : code = []
  · have empty' := same.nil_iff.mp empty
    simpa [empty, empty'] using h
  · have empty' : code' ≠ [] := fun eq => empty (same.nil_iff.mpr eq)
    simp only [List.isEmpty_iff, empty, empty', if_false]
    exact .cons ⟨rfl, fun _ => same, fun other => absurd rfl other⟩ h

namespace Alike
variable {code rest code' rest' : Text}

theorem done (same : Relabelled s code code') : Alike s code [] code' [] :=
  ⟨.nil, _, _, .done code, .done code', forall₂_codeFirst same .nil⟩

theorem skip {text text' : Text} (free : Unmarked text rest) (free' : Unmarked text' rest')
    (same : Relabelled s text text') (h : Alike s (code ++ text) rest (code' ++ text') rest') :
    Alike s code (text ++ rest) code' (text' ++ rest') := by
  obtain ⟨rests, ps, ps', cut, cut', pieces⟩ := h
  exact ⟨same.append rests, ps, ps', cut.skip free, cut'.skip free', pieces⟩

theorem skip_same {text : Text} {c : Char} {rest rest' : Text} (free : Unmarked text (c :: rest))
    (h : Alike s (code ++ text) (c :: rest) (code' ++ text) (c :: rest')) :
    Alike s code (text ++ c :: rest) code' (text ++ c :: rest') :=
  h.skip free (free.congr rest') (.refl text)

theorem stray (label : s.label.Identifier) (replacement : s.replacement.Identifier)
    (unclosed : stringLiteralEnd ('"' :: rest) 0 = .unclosed)
    (h : Alike s (code ++ ['"']) rest (code' ++ ['"']) rest') :
    Alike s code ('"' :: rest) code' ('"' :: rest') := by
  obtain ⟨rests, ps, ps', cut, cut', pieces⟩ := h
  exact ⟨.keep '"' rests, ps, ps', .stray unclosed cut,
    .stray (rests.unclosed label replacement unclosed) cut', pieces⟩

theorem block {text : Text} {marker : Marker} {kind : BlockKind} {n : Nat}
    (here : Marker.at? text = some marker) (opens : opened text marker = .block kind n)
    (same : Relabelled s code code') (h : Alike s [] (text.drop n) [] rest') :
    Alike s code text code' (text.take n ++ rest') := by
  obtain ⟨rests, ps, ps', cut, cut', pieces⟩ := h
  obtain ⟨-, -, ne⟩ := opened_bounds here opens
  have whole := (Relabelled.refl (s := s) (text.take n)).append rests
  rw [List.take_append_drop] at whole
  refine ⟨whole, _, _, .block here opens cut, .verbatim here opens rests.nil_iff.mp cut', ?_⟩
  exact forall₂_codeFirst same (.cons ⟨rfl, fun code => absurd code ne, fun _ => rfl⟩ pieces)

end Alike

theorem unmarked_label {lead : Char} {name blanks : Text} (quote : lead ≠ '"')
    (identifier : name.Identifier) (blank : ∀ c ∈ blanks, Text.isBlank c = true) (rest : Text) :
    Unmarked (lead :: (name ++ (blanks ++ [':']))) rest := by
  have plain : ∀ c ∈ name ++ (blanks ++ [':']), c ≠ '/' ∧ c ≠ '"' := by
    intro c member
    rcases List.mem_append.mp member with member | member
    · obtain ⟨slash, -, quote, -⟩ := Text.isIdentifier_plain (identifier.chars c member)
      exact ⟨slash, quote⟩
    · rcases List.mem_append.mp member with member | member
      · exact Text.isBlank_plain (blank c member)
      · rw [List.mem_singleton.mp member]
        decide
  refine ⟨?_, .of_plain plain⟩
  -- A slash in front of the name opens nothing.
  obtain ⟨ne, chars⟩ := identifier
  cases name with
  | nil => exact absurd rfl ne
  | cons c name =>
    obtain ⟨slash, star, -, -⟩ := Text.isIdentifier_plain (chars c List.mem_cons_self)
    simp [Marker.at?, quote, slash, star]

structure Taken (l text : Text) (pos : Nat) (found : Match) (lead : Char) (blanks : Text) :
    Prop where
  ahead : pos ≤ found.span.start
  stop : found.span.stop = found.span.start + (1 + l.length + blanks.length + 1)
  inside : found.span.stop ≤ text.length
  clear : Marker.Clear text pos found.span.start
  quote : lead ≠ '"'
  apart : Text.isIdentifier lead = false
  blank : ∀ c ∈ blanks, Text.isBlank c = true
  eq : text.drop found.span.start = lead :: (l ++ (blanks ++ ':' :: text.drop found.span.stop))
  groups : found.groups.map (·.map (·.slice text)) =
    [some (found.span.slice text), some [lead], some l, some (blanks ++ [':'])]

theorem step?_label {text l : Text} {pos : Nat} {found : Match}
    (taken : step? (Marker.next? text pos) (construct? (.label l) text pos) =
      some (.construct found)) : ∃ lead blanks, Taken l text pos found lead blanks := by
  obtain ⟨answer, first⟩ := step?_construct taken
  have clear := clear_before (Nat.le_refl pos) rfl first
  rw [Matcher.label_eq_leftmost, (Matcher.labelAt?_anchored l).construct?] at answer
  obtain ⟨ahead, -, inside⟩ := (Matcher.labelAt?_anchored l).bounds answer
  obtain ⟨n, here, le, matched, -, rfl⟩ := Matcher.leftmost_some answer
  obtain ⟨lead, blanks, eq, apart, blank, span, -, groups⟩ := Matcher.labelAt?_groups matched
  have marker := marker_at_construct ahead rfl taken
  have start : (here.shift n).span.start = n := by simp [Match.shift, Span.shift, span]
  have stop : (here.shift n).span.stop = n + here.span.stop := rfl
  rw [start] at clear marker
  refine ⟨lead, blanks, by rwa [start], by rw [start, stop, span], inside, by rwa [start], ?_,
    apart, blank, ?_, ?_⟩
  · rintro rfl
    rw [eq] at marker
    cases marker .stringLiteral rfl
  · rw [start, stop, ← List.drop_drop]
    exact eq
  · rw [Match.shift, List.map_map]
    simp only [Function.comp_def, Option.map_map, Span.slice_shift]
    exact groups

@[simp] theorem render_nil : render s [] = [] := rfl

@[simp] theorem render_codeFirst (i : Nat) (code : Text) (r : Reading) :
    render s (r.codeFirst i code).blocks = code ++ render s r.blocks := by
  unfold Reading.codeFirst
  split
  · simp_all
  · rfl

theorem render_block {b : Block} (kind : b.kind ≠ .construct) (bs : List Block) :
    render s (b :: bs) = b.text ++ render s bs := by
  rw [render, List.flatMap_cons]
  congr 1
  unfold renderBlock
  split
  · exact absurd ‹_› kind
  · rfl

namespace Taken
variable {text : Text} {pos : Nat} {found : Match} {lead : Char} {blanks : Text}

theorem render_construct (h : Taken s.label text pos found lead blanks) (piece : Text)
    (bs : List Block) :
    render s (⟨.construct, found.span, piece, found.groups.map (·.map (·.slice text))⟩ :: bs) =
      (lead :: (s.replacement ++ (blanks ++ [':']))) ++ render s bs := by
  rw [render, List.flatMap_cons, h.groups]
  simp [renderBlock, Block.capture?, render]

theorem relabelled (h : Taken s.label text pos found lead blanks) :
    Relabelled s (lead :: (s.label ++ (blanks ++ [':'])))
      (lead :: (s.replacement ++ (blanks ++ [':']))) :=
  .label h.apart h.blank .nil

theorem clear_stop {l : Text} (h : Taken l text pos found lead blanks) (name : l.Identifier) :
    Marker.Clear text pos found.span.stop := by
  intro k lo hi
  by_cases before : k < found.span.start
  · exact h.clear k lo before
  · have split : text.drop found.span.start =
        (lead :: (l ++ (blanks ++ [':']))) ++ text.drop found.span.stop := by
      rw [h.eq]
      simp
    have stop := h.stop
    have free := (unmarked_label h.quote name h.blank (text.drop found.span.stop)).drop
      (k := k - found.span.start) (by
        simp only [List.length_cons, List.length_append, List.length_nil]
        omega)
    rwa [← split, List.drop_drop, Nat.add_sub_cancel' (by omega)] at free

theorem alike (h : Taken s.label text pos found lead blanks) (label : s.label.Identifier)
    (replacement : s.replacement.Identifier) {code code' out : Text}
    (rest : Alike s
      (code ++ text.slice pos found.span.start ++ (lead :: (s.label ++ (blanks ++ [':']))))
      (text.drop found.span.stop)
      (code' ++ text.slice pos found.span.start ++ (lead :: (s.replacement ++ (blanks ++ [':']))))
      out) :
    Alike s code (text.drop pos) code'
      (text.slice pos found.span.start ++
        ((lead :: (s.replacement ++ (blanks ++ [':']))) ++ out)) := by
  have free := Unmarked.of_clear h.clear h.ahead
  have passed := rest.skip (unmarked_label h.quote label h.blank _)
    (unmarked_label h.quote replacement h.blank _) h.relabelled
  have whole : text.slice pos found.span.start ++
      ((lead :: (s.label ++ (blanks ++ [':']))) ++ text.drop found.span.stop) = text.drop pos := by
    rw [← Text.slice_append_drop h.ahead, h.eq]
    simp
  rw [h.eq] at free
  rw [← whole]
  refine passed.skip_same ?_
  simpa using free

end Taken

theorem quote_drop {text : Text} {i : Nat} (h : Marker.at? (text.drop i) = some .stringLiteral) :
    text.drop i = '"' :: text.drop (i + 1) := by
  obtain ⟨rest, eq⟩ := Marker.at?_eq_some.mp h
  rw [← List.drop_drop, ← eq]
  rfl

/-- What is left of a text and what is made of it are alike, wherever the reader stands. -/
theorem readFromAnew_alike (label : s.label.Identifier) (replacement : s.replacement.Identifier)
    {text : Text} {steps plain pos : Nat} (le : plain ≤ pos) (within : pos ≤ text.length)
    (enough : text.length ≤ pos + steps)
    (ok : (readFromAnew (.label s.label) text steps plain pos).failure = none)
    {code code' : Text} (same : Relabelled s code code') :
    ∃ out, render s (readFromAnew (.label s.label) text steps plain pos).blocks =
        text.slice plain pos ++ out ∧ Alike s code (text.drop pos) code' out := by
  induction steps generalizing plain pos code code' with
  | zero =>
    obtain rfl : pos = text.length := by omega
    refine ⟨[], ?_, ?_⟩
    · simp [readFromAnew, text.slice_length]
    · simpa using Alike.done same
  | succ steps ih =>
    rw [readFromAnew] at ok ⊢
    cases taken : step? (Marker.next? text pos) (construct? (.label s.label) text pos) with
    | none =>
      have clear := Marker.next?_none (step?_none taken) text.length
      have free := Unmarked.of_clear clear within
      rw [text.slice_length, List.drop_length] at free
      refine ⟨text.drop pos, ?_, ?_⟩
      · rw [Text.slice_append_drop le]
        simp
      · have rest := Alike.done (same.append (.refl (text.drop pos)))
        simpa using rest.skip free free (.refl _)
    | some step =>
      cases step with
      | construct found =>
        obtain ⟨lead, blanks, found_label⟩ := step?_label taken
        have ahead := found_label.ahead
        have stop := found_label.stop
        simp only [taken, Reading.codeFirst_failure, Reading.blockFirst_failure] at ok
        obtain ⟨out, rendered, rest⟩ := ih (Nat.le_refl _) found_label.inside (by omega) ok
          ((same.append (.refl (text.slice pos found.span.start))).append found_label.relabelled)
        refine ⟨_, ?_, found_label.alike label replacement rest⟩
        rw [Text.slice_self, List.nil_append] at rendered
        rw [render_codeFirst, Reading.blockFirst_blocks, found_label.render_construct, rendered,
          ← text.slice_append_slice le ahead]
        simp
      | marker kind i =>
        have next := Marker.next?_some (step?_marker taken)
        have ahead := next.ahead
        have i_lt := Marker.lt_length_of_at? next.here
        have free := Unmarked.of_clear next.clear ahead
        simp only [taken] at ok ⊢
        cases opens : opened (text.drop i) kind with
        | stray =>
          obtain ⟨rfl, unclosed⟩ := opened_stray opens
          have quote := quote_drop next.here
          have upTo : text.slice pos (i + 1) = text.slice pos i ++ ['"'] := by
            rw [← text.slice_append_slice ahead (Nat.le_add_right i 1), Text.slice_add, quote]
            rfl
          simp only [opens] at ok ⊢
          obtain ⟨out, rendered, rest⟩ := ih (by omega : plain ≤ i + 1) i_lt (by omega) ok
            (same.append (.refl (text.slice pos (i + 1))))
          rw [upTo, ← List.append_assoc, ← List.append_assoc] at rest
          rw [quote] at unclosed free
          refine ⟨text.slice pos i ++ '"' :: out, ?_, ?_⟩
          · rw [rendered, ← text.slice_append_slice le (by omega : pos ≤ i + 1), upTo]
            simp
          · rw [← Text.slice_append_drop ahead, quote]
            exact (rest.stray label replacement unclosed).skip_same free
        | unterminated => simp [opens] at ok
        | block block length =>
          obtain ⟨proper, inside, ne⟩ := block_bounds next opens
          simp only [opens, Reading.codeFirst_failure, Reading.blockFirst_failure] at ok
          obtain ⟨out, rendered, rest⟩ := ih (Nat.le_refl _) inside (by omega) ok .nil
          rw [Text.slice_self, List.nil_append] at rendered
          rw [← List.drop_drop] at rest
          have piece := Alike.block next.here opens
            (same.append (.refl (text.slice pos i))) rest
          refine ⟨text.slice pos i ++ ((text.drop i).take length ++ out), ?_, ?_⟩
          · rw [render_codeFirst, Reading.blockFirst_blocks,
              render_block (opened_ne_construct opens), rendered, Text.slice_add,
              ← text.slice_append_slice le ahead]
            simp
          · obtain ⟨n, rfl⟩ := Nat.exists_eq_succ_of_ne_zero (Nat.ne_of_gt proper)
            obtain ⟨c, tail, eq⟩ := List.exists_cons_of_length_pos
              (by rw [List.length_drop]; omega : 0 < (text.drop i).length)
            rw [← Text.slice_append_drop ahead]
            rw [eq] at piece free ⊢
            exact piece.skip_same free

/-- The labels are no reason to fail: the reader that passes over them fails alike, and finds
the same comments and literals. -/
theorem readFromAnew_never {l : Text} (name : l.Identifier) {text : Text}
    {steps plain plain' pos : Nat} (within : pos ≤ text.length)
    (enough : text.length ≤ pos + steps) :
    ∃ r, Scan .never text plain' pos r ∧
      r.failure = (readFromAnew (.label l) text steps plain pos).failure ∧
      r.blocks.filter Block.isMarked =
        (readFromAnew (.label l) text steps plain pos).blocks.filter Block.isMarked := by
  induction steps generalizing plain plain' pos with
  | zero => exact ⟨_, .done fun k lo hi => by omega, by simp [readFromAnew], by simp [readFromAnew]⟩
  | succ steps ih =>
    rw [readFromAnew]
    cases taken : step? (Marker.next? text pos) (construct? (.label l) text pos) with
    | none =>
      exact ⟨_, .done (Marker.next?_none (step?_none taken) _), by simp, by simp⟩
    | some step =>
      cases step with
      | construct found =>
        obtain ⟨lead, blanks, found_label⟩ := step?_label taken
        have ahead := found_label.ahead
        have stop := found_label.stop
        obtain ⟨r, scan, failure, marked⟩ := ih found_label.inside (by omega)
        refine ⟨r, scan.back (by omega) (found_label.clear_stop name), ?_, ?_⟩
        · simpa using failure
        · simpa [Block.isMarked] using marked
      | marker kind i =>
        have next := Marker.next?_some (step?_marker taken)
        have ahead := next.ahead
        have i_lt := Marker.lt_length_of_at? next.here
        cases opens : opened (text.drop i) kind with
        | stray =>
          obtain ⟨r, scan, failure, marked⟩ := ih i_lt (by omega)
          exact ⟨r, .stray next opens scan, by simpa [opens] using failure,
            by simpa [opens] using marked⟩
        | unterminated => exact ⟨_, .unterminated next opens, by simp [opens], by simp [opens]⟩
        | block block length =>
          obtain ⟨proper, inside, -⟩ := block_bounds next opens
          obtain ⟨r, scan, failure, marked⟩ := ih inside (by omega)
          refine ⟨_, .block next opens scan, by simpa [opens] using failure, ?_⟩
          simp [opens, List.filter_cons, marked]

theorem read_label_never {l : Text} (name : l.Identifier) (text : Text) :
    (read (.label l) text).failure = (read .never text).failure ∧
      (read (.label l) text).blocks.filter Block.isMarked =
        (read .never text).blocks.filter Block.isMarked := by
  obtain ⟨r, scan, failure, marked⟩ : ∃ r, Scan .never text 0 0 r ∧
      r.failure = (readFromAnew (.label l) text text.length 0 0).failure ∧
      r.blocks.filter Block.isMarked =
        (readFromAnew (.label l) text text.length 0 0).blocks.filter Block.isMarked :=
    readFromAnew_never name (Nat.zero_le _) (Nat.le_add_left _ _)
  rw [read_eq_readFromAnew (Matcher.label_steady l text) (Nat.le_refl _), ← failure, ← marked,
    (read_scan (Matcher.never_lawful text)).unique scan]
  exact ⟨rfl, rfl⟩

end Visibility

open Visibility in
/-- The visibility stage leaves the lexical structure alone. It succeeds on the texts that can
be read without it, and its output is then read into as many blocks of the same kinds:
comments and literals as they were, and code in which labels are replaced. -/
theorem visibility_keeps_structure {settings : Settings}
    (label : settings.visibility.label.Identifier)
    (replacement : settings.visibility.replacement.Identifier) (text : Text) :
    ((∃ out, Stage.visibility.apply settings text = .ok out) ↔
        ∃ blocks, classify .never text = .ok blocks) ∧
      ∀ out, Stage.visibility.apply settings text = .ok out →
        ∃ blocks blocks', classify .never text = .ok blocks ∧ classify .never out = .ok blocks' ∧
          List.Forall₂ (Piece.Relabels settings.visibility) (blocks.map Block.piece)
            (blocks'.map Block.piece) := by
  obtain ⟨failure, -⟩ := read_label_never label text
  refine ⟨⟨?_, ?_⟩, ?_⟩
  · rintro ⟨out, applied⟩
    obtain ⟨blocks, read, -⟩ := Stage.apply_ok applied
    obtain ⟨ok, -⟩ := classify_eq_ok.mp read
    exact ⟨_, classify_eq_ok.mpr ⟨failure ▸ ok, rfl⟩⟩
  · rintro ⟨blocks, read⟩
    obtain ⟨ok, -⟩ := classify_eq_ok.mp read
    exact ⟨_, Stage.apply_eq (classify_eq_ok.mpr ⟨failure.trans ok, rfl⟩)⟩
  · intro out applied
    obtain ⟨blocks, read, rfl⟩ := Stage.apply_ok applied
    obtain ⟨ok, rfl⟩ := classify_eq_ok.mp read
    have anew := read_eq_readFromAnew
      (Matcher.label_steady settings.visibility.label text) (Nat.le_refl _)
    obtain ⟨out, rendered, -, ps, ps', cut, cut', pieces⟩ := readFromAnew_alike label replacement
      (Nat.le_refl 0) (Nat.zero_le text.length) (Nat.le_add_left _ _) (anew ▸ ok) .nil
    rw [← anew, Text.slice_self, List.nil_append] at rendered
    rw [List.drop_zero] at cut
    rw [← rendered] at cut'
    obtain ⟨blocks, before, rfl⟩ := classify_of_cut cut
    obtain ⟨blocks', after, rfl⟩ := classify_of_cut cut'
    exact ⟨blocks, blocks', before, after, pieces⟩

/-- A quote that nothing closes stands before a label behind a backslash; another label
follows a slash. -/
theorem visibility_keeps_structure_stray : ∃ blocks blocks',
    Stage.visibility.apply {} "\"private:\"/private : /*private:*/'\"'\\private:".toList =
        .ok "\"private:\"/public : /*private:*/'\"'\\public:".toList ∧
      classify .never "\"private:\"/private : /*private:*/'\"'\\private:".toList = .ok blocks ∧
      classify .never "\"private:\"/public : /*private:*/'\"'\\public:".toList = .ok blocks' ∧
      blocks.map (·.kind) = [.stringLiteral, .code, .blockComment, .code] ∧
      List.Forall₂ (Piece.Relabels {}) (blocks.map Block.piece) (blocks'.map Block.piece) := by
  have applied :
      Stage.visibility.apply {} "\"private:\"/private : /*private:*/'\"'\\private:".toList =
        .ok "\"private:\"/public : /*private:*/'\"'\\public:".toList := by
    decide +kernel
  obtain ⟨-, keeps⟩ := @visibility_keeps_structure {}
    ⟨by decide, List.all_eq_true.mp (by decide +kernel)⟩
    ⟨by decide, List.all_eq_true.mp (by decide +kernel)⟩
    "\"private:\"/private : /*private:*/'\"'\\private:".toList
  obtain ⟨blocks, blocks', before, after, pieces⟩ := keeps _ applied
  refine ⟨blocks, blocks', applied, before, after, ?_, pieces⟩
  obtain ⟨-, rfl⟩ := classify_eq_ok.mp before
  decide +kernel

end Amalgam
