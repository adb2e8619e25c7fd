import Amalgam.Proofs.Classify.Construct
import Amalgam.Proofs.Classify.Memory
import Amalgam.Proofs.Classify.Partition
import Amalgam.Stage.Basic

/-! Stages keep every line at its number. What a stage writes for a block has as many newlines
as the block, whatever the block is replaced by; what it takes back, blanks in front of a
comment, has none. -/
namespace Amalgam

namespace Text

def CutTo (t kept : Text) : Prop :=
  ∃ blanks, t = kept ++ blanks ∧ ∀ c ∈ blanks, isSpaceOrTab c = true

namespace CutTo
variable {s t kept : Text}

theorem refl (t : Text) : CutTo t t := ⟨[], by simp, by simp⟩

theorem trans (h : CutTo s t) (h' : CutTo t kept) : CutTo s kept := by
  obtain ⟨blanks, rfl, plain⟩ := h
  obtain ⟨more, rfl, plain'⟩ := h'
  refine ⟨more ++ blanks, by simp, ?_⟩
  intro c member
  rcases List.mem_append.mp member with member | member
  · exact plain' c member
  · exact plain c member

theorem dropWhileEnd (t : Text) : CutTo t (t.dropWhileEnd isSpaceOrTab) := by
  refine ⟨(t.reverse.takeWhile isSpaceOrTab).reverse, ?_, ?_⟩
  · rw [Text.dropWhileEnd, ← List.reverse_append, List.takeWhile_append_dropWhile,
      List.reverse_reverse]
  · intro c member
    exact List.all_eq_true.mp List.all_takeWhile c (List.mem_reverse.mp member)

theorem newlines (h : CutTo t kept) : kept.newlines = t.newlines := by
  obtain ⟨blanks, rfl, plain⟩ := h
  have none : '\n' ∉ blanks := fun member => absurd (plain _ member) (by decide)
  rw [newlines_append, newlines_eq_zero.mpr none, Nat.add_zero]

end CutTo
end Text

namespace Wrap

theorem not_mem_fillFrom {c : Char} (ne : c ≠ ' ') {limit length : Nat} {line : Text}
    {ws : List Text} (opened : c ∉ line) (free : ∀ w ∈ ws, c ∉ w) :
    ∀ l ∈ fillFrom limit line length ws, c ∉ l := by
  fun_induction fillFrom limit line length ws with
  | case1 => simp
  | case2 line => simpa using opened
  | case3 line length w ws empty ih =>
    obtain ⟨word, free⟩ := List.forall_mem_cons.mp free
    exact ih word free
  | case4 line length w ws started fits ih =>
    obtain ⟨word, free⟩ := List.forall_mem_cons.mp free
    refine ih ?_ free
    simp [opened, ne, word]
  | case5 line length w ws started full ih =>
    obtain ⟨word, free⟩ := List.forall_mem_cons.mp free
    exact List.forall_mem_cons.mpr ⟨opened, ih word free⟩

theorem not_mem_words {c : Char} (ne : c ≠ ' ') {limit : Nat} {ws : List Text}
    (free : ∀ w ∈ ws, c ∉ w) : ∀ l ∈ words limit ws, c ∉ l :=
  not_mem_fillFrom ne List.not_mem_nil free

theorem not_mem_reflow {c : Char} (ne : c ≠ ' ') {limit : Nat} {gathered lines : List Text}
    (free : ∀ w ∈ gathered, c ∉ w) (said : ∀ line ∈ lines, c ∉ line) :
    ∀ l ∈ reflow limit gathered lines, c ∉ l := by
  fun_induction reflow limit gathered lines with
  | case1 gathered => exact not_mem_words ne free
  | case2 gathered line rest ends ih =>
    intro l member
    rcases List.mem_append.mp member with member | member
    · exact not_mem_words ne free l member
    · rcases List.mem_cons.mp member with rfl | member
      · exact List.not_mem_nil
      · exact ih (by simp) (List.forall_mem_cons.mp said).2 l member
  | case3 gathered line rest goesOn ih =>
    obtain ⟨first, said⟩ := List.forall_mem_cons.mp said
    refine ih ?_ said
    intro w member
    rcases List.mem_append.mp member with member | member
    · exact free w member
    · exact fun inside =>
        first (Text.mem_of_mem_splitWhen (List.mem_of_mem_filter member) inside)

end Wrap

namespace DocLog
variable {s : DocLogSettings}

theorem mem_of_mem_undecorate {line : Text} {c : Char} (h : c ∈ undecorate line) : c ∈ line := by
  unfold undecorate at h
  split at h
  · rename_i rest eq
    have inRest : c ∈ rest := (List.dropWhile_sublist _).subset (Text.mem_of_mem_trim h)
    exact (List.dropWhile_sublist Text.isSpaceOrTab).subset (eq ▸ List.mem_cons_of_mem _ inRest)
  · exact Text.mem_of_mem_trim h

theorem parse?_body {comment : Text} {c : Tagged} (h : parse? s comment = some c) :
    c.body = ((Text.splitWhen (· == '\n') comment).drop 1).dropLast.map undecorate := by
  simp only [parse?, Option.bind_eq_bind, Option.bind_eq_some_iff] at h
  obtain ⟨-, -, -, -, flagged, -, closed⟩ := h
  split at closed
  · cases closed
    rfl
  · cases closed

theorem mem_body {comment : Text} {c : Tagged} (h : parse? s comment = some c) {line : Text}
    (member : line ∈ c.body) :
    ∃ piece ∈ Text.splitWhen (· == '\n') comment, ∀ x ∈ line, x ∈ piece := by
  rw [parse?_body h] at member
  obtain ⟨piece, piece_mem, rfl⟩ := List.mem_map.mp member
  exact ⟨piece, List.mem_of_mem_drop ((List.dropLast_sublist _).subset piece_mem),
    fun x => mem_of_mem_undecorate⟩

theorem newline_not_mem_body {comment : Text} {c : Tagged} (h : parse? s comment = some c) :
    ∀ line ∈ c.body, '\n' ∉ line := by
  intro line member inside
  obtain ⟨piece, cut, sub⟩ := mem_body h member
  exact Text.not_mem_of_mem_splitWhen cut (by decide) (sub _ inside)

theorem tagged?_some {b : Block} {c : Tagged} (h : tagged? s b = some c) :
    b.kind = .blockComment ∧ parse? s b.text = some c := by
  unfold tagged? at h
  split at h
  · rename_i kind
    exact ⟨kind, h⟩
  · cases h

theorem not_mem_bodyLines {x : Char} (dash : x ≠ '-') (space : x ≠ ' ') {c : Tagged}
    (h : ∀ line ∈ c.body, x ∉ line) : ∀ line ∈ bodyLines s c, x ∉ line := by
  have ruled : ∀ line ∈ c.body.map (bodyLine s), x ∉ line := by
    intro line member
    obtain ⟨said, said_mem, rfl⟩ := List.mem_map.mp member
    unfold bodyLine
    split
    · simp [dash]
    · exact h said said_mem
  unfold bodyLines
  simp only
  split
  · exact Wrap.not_mem_reflow space (by simp) ruled
  · exact ruled

theorem newline_not_mem_statement {c : Tagged} (sink : '\n' ∉ s.sink)
    (h : ∀ line ∈ c.body, '\n' ∉ line) : '\n' ∉ statement s c := by
  have joined : '\n' ∉ List.intercalate ['\\', 'n'] (bodyLines s c) :=
    Text.not_mem_intercalate (by decide) (not_mem_bodyLines (by decide) (by decide) h)
  simp [statement, sink, joined]

theorem newlines_push {b : Block} (sink : '\n' ∉ s.sink) :
    (push s [] b).newlines = b.text.newlines := by
  unfold push
  split
  · simp [Text.newlines]
  · rename_i c found
    have said := newline_not_mem_body (tagged?_some found).2
    have written := newline_not_mem_statement sink said
    simp [Text.newlines, List.count_eq_zero.mpr written]

theorem push_append (written front : Text) (b : Block) :
    ∃ kept, Text.CutTo front.reverse kept.reverse ∧
      push s (written ++ front) b = push s written b ++ kept := by
  unfold push
  split
  · exact ⟨front, .refl _, by simp⟩
  · rw [List.dropWhile_append]
    split
    · rename_i c found blank
      have cut := Text.CutTo.dropWhileEnd front.reverse
      rw [Text.dropWhileEnd, List.reverse_reverse] at cut
      refine ⟨_, cut, ?_⟩
      rw [List.isEmpty_iff.mp blank, List.append_nil]
    · exact ⟨front, .refl _, by simp⟩

theorem foldl_push_append (written front : Text) (blocks : List Block) :
    ∃ kept, Text.CutTo front.reverse kept.reverse ∧
      blocks.foldl (push s) (written ++ front) = blocks.foldl (push s) written ++ kept := by
  induction blocks generalizing written front with
  | nil => exact ⟨front, .refl _, rfl⟩
  | cons b blocks ih =>
    obtain ⟨kept, cut, eq⟩ := push_append (s := s) written front b
    obtain ⟨left, cut', eq'⟩ := ih (push s written b) kept
    refine ⟨left, cut.trans cut', ?_⟩
    rw [List.foldl_cons, List.foldl_cons, eq, eq']

end DocLog

/-- What stages write by the settings, other than what they read, stands on one line. -/
structure Settings.SingleLine (settings : Settings) : Prop where
  label : '\n' ∉ settings.visibility.label
  replacement : '\n' ∉ settings.visibility.replacement
  wrapper : '\n' ∉ settings.annotations.wrapper
  attributeName : '\n' ∉ settings.annotations.attributeName
  sink : '\n' ∉ settings.docLog.sink

theorem Annotate.newline_not_mem_payload (inner : Text) : '\n' ∉ payload inner :=
  Text.not_mem_replace (by decide) (by simp)

namespace Stage
variable {settings : Settings} {stage : Stage} {text : Text} {blocks : List Block}

theorem matcher_lawful (settings : Settings) (stage : Stage) (text : Text) :
    (stage.matcher settings).Lawful text := by
  cases stage with
  | visibility => exact (Matcher.label_steady _ text).lawful
  | docLog => exact Matcher.never_lawful text
  | annotate => exact Matcher.annotationAt?_anchored.lawful text

/-- What is written for blocks does not depend on those behind them, but for blanks at its end;
and not on those in front. -/
theorem render_append (settings : Settings) (stage : Stage) (before after : List Block) :
    ∃ kept, (stage.render settings before).CutTo kept ∧
      stage.render settings (before ++ after) = kept ++ stage.render settings after := by
  cases stage with
  | visibility => exact ⟨_, .refl _, List.flatMap_append⟩
  | annotate => exact ⟨_, .refl _, List.flatMap_append⟩
  | docLog =>
    obtain ⟨kept, cut, eq⟩ := DocLog.foldl_push_append (s := settings.docLog) []
      (before.foldl (DocLog.push settings.docLog) []) after
    refine ⟨kept.reverse, cut, ?_⟩
    simp only [render, DocLog.render, List.foldl_append]
    rw [← List.reverse_append, ← eq, List.nil_append]

theorem newlines_render_block (single : settings.SingleLine)
    (h : classify (stage.matcher settings) text = .ok blocks) {b : Block} (member : b ∈ blocks) :
    (stage.render settings [b]).newlines = b.text.newlines := by
  cases stage with
  | visibility =>
    simp only [render, Visibility.render, List.flatMap_cons, List.flatMap_nil, List.append_nil,
      Visibility.renderBlock]
    split
    · rename_i kind
      obtain ⟨lead, blanks, -, -, eq, captures⟩ := classify_label h member kind
      simp [Block.capture?, captures, eq, Text.newlines, List.count_cons,
        List.count_eq_zero.mpr single.label, List.count_eq_zero.mpr single.replacement]
    · rfl
  | docLog =>
    have pushed := DocLog.newlines_push (b := b) single.sink
    simpa [render, DocLog.render, Text.newlines] using pushed
  | annotate =>
    simp only [render, Annotate.render, List.flatMap_cons, List.flatMap_nil, List.append_nil,
      Annotate.renderBlock]
    split
    · rename_i kind
      obtain ⟨inner, -, eq, captures⟩ := classify_annotation h member kind
      have payload := List.count_eq_zero.mpr (Annotate.newline_not_mem_payload inner)
      simp [Annotate.replacement, Block.capture?, captures, eq, Text.newlines, payload,
        List.count_eq_zero.mpr single.wrapper,
        List.count_eq_zero.mpr single.attributeName]
    · rfl

theorem newlines_render
    (each : ∀ b ∈ blocks, (stage.render settings [b]).newlines = b.text.newlines) :
    (stage.render settings blocks).newlines = Text.newlines (blocks.flatMap (·.text)) := by
  induction blocks with
  | nil => cases stage <;> rfl
  | cons b blocks ih =>
    obtain ⟨first, later⟩ := List.forall_mem_cons.mp each
    obtain ⟨kept, cut, eq⟩ := render_append settings stage [b] blocks
    rw [← List.singleton_append, eq, Text.newlines_append, cut.newlines, first, ih later,
      List.flatMap_append, Text.newlines_append, List.flatMap_singleton]

theorem apply_eq (h : classify (stage.matcher settings) text = .ok blocks) :
    stage.apply settings text = .ok (stage.render settings blocks) := by
  rw [apply, h]

theorem apply_ok {out : Text} (h : stage.apply settings text = .ok out) :
    ∃ blocks, classify (stage.matcher settings) text = .ok blocks ∧
      out = stage.render settings blocks := by
  unfold apply at h
  split at h
  · rename_i blocks cut
    cases h
    exact ⟨blocks, cut, rfl⟩
  · cases h

theorem newlines_apply (single : settings.SingleLine) {out : Text}
    (h : stage.apply settings text = .ok out) : out.newlines = text.newlines := by
  obtain ⟨blocks, cut, rfl⟩ := apply_ok h
  have partition := Block.Partition.of_classify (matcher_lawful settings stage text) cut
  rw [newlines_render fun b member => newlines_render_block single cut member,
    partition.flatMap_text, List.drop_zero]

theorem newlines_applyAll (single : settings.SingleLine) {stages : List Stage} {out : Text}
    (h : applyAll settings stages text = .ok out) : out.newlines = text.newlines := by
  induction stages generalizing text with
  | nil =>
    cases h
    rfl
  | cons stage stages ih =>
    unfold applyAll at h
    split at h
    · rename_i changed step
      rw [ih h, newlines_apply single step]
    · cases h

/-- Stages, in any order and number, keep the count of newlines. In what a single stage makes
of a text, each block starts on the line it started on, and what takes its place has as many
newlines; only blanks at the end of what was written for the blocks in front of it, or for
the block itself, can have gone. -/
theorem lines_kept (single : settings.SingleLine) :
    (∀ stages text out, applyAll settings stages text = .ok out →
      out.newlines = text.newlines) ∧
    ∀ stage text blocks, classify (matcher settings stage) text = .ok blocks →
      ∀ before b after, blocks = before ++ b :: after →
        ∃ ahead own, stage.apply settings text =
            .ok (ahead ++ (own ++ stage.render settings after)) ∧
          (stage.render settings before).CutTo ahead ∧ (stage.render settings [b]).CutTo own ∧
          ahead.newlines = Text.newlines (text.take b.span.start) ∧
          own.newlines = b.text.newlines := by
  refine ⟨fun stages text out => newlines_applyAll single, ?_⟩
  rintro stage text _ cut before b after rfl
  obtain ⟨ahead, cutAhead, eq⟩ := render_append settings stage before (b :: after)
  obtain ⟨own, cutOwn, eq'⟩ := render_append settings stage [b] after
  have partition := Block.Partition.of_classify (matcher_lawful settings stage text) cut
  have each : ∀ c ∈ before ++ b :: after,
      (stage.render settings [c]).newlines = c.text.newlines :=
    fun c member => newlines_render_block single cut member
  refine ⟨ahead, own, ?_, cutAhead, cutOwn, ?_, ?_⟩
  · rw [apply_eq cut, eq, ← List.singleton_append, eq']
  · rw [cutAhead.newlines, newlines_render fun c member => each c (List.mem_append_left _ member),
      partition.flatMap_text_before]
  · rw [cutOwn.newlines, each b (by simp)]

/-- The comment takes the tab in front of it along. -/
theorem lines_kept_tagged : ∃ out ahead own,
    applyAll {} [.annotate, .docLog, .visibility, .docLog]
      "[[a,\n b]];\t/** @info(format)\n * c  d\n *\n * e\n */\n private :".toList = .ok out ∧
    out.newlines = 6 ∧
    apply {} .docLog
      "[[a,\n b]];\t/** @info(format)\n * c  d\n *\n * e\n */\n private :".toList =
        .ok (ahead ++ (own ++ "\n private :".toList)) ∧
    Text.CutTo "[[a,\n b]];\t".toList ahead ∧ ahead.newlines = 1 ∧ own.newlines = 4 := by
  have single : ({} : Settings).SingleLine := by
    constructor <;> decide
  obtain ⟨run, step⟩ := lines_kept single
  have ran : applyAll {} [.annotate, .docLog, .visibility, .docLog]
      "[[a,\n b]];\t/** @info(format)\n * c  d\n *\n * e\n */\n private :".toList =
        .ok ("PROTEST_HIDE([[clang::annotate(\"a,b\")]])\n;" ++
          "logger() << \"c d\\n\\ne\" << \"\\n\";\n\n\n\n\n public :").toList := by
    decide +kernel
  have cut : classify .never
      "[[a,\n b]];\t/** @info(format)\n * c  d\n *\n * e\n */\n private :".toList =
        .ok ([⟨.code, ⟨0, 11⟩, "[[a,\n b]];\t".toList, []⟩] ++
          ⟨.blockComment, ⟨11, 48⟩, "/** @info(format)\n * c  d\n *\n * e\n */".toList, []⟩ ::
          [⟨.code, ⟨48, 59⟩, "\n private :".toList, []⟩]) := by
    decide +kernel
  obtain ⟨ahead, own, applied, before, -, above, within⟩ := step .docLog _ _ cut _ _ _ rfl
  refine ⟨_, ahead, own, ran, (run _ _ _ ran).trans ?_, applied, before, above.trans ?_, within⟩
  all_goals decide

end Stage
end Amalgam
