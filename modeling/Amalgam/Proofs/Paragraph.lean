import Amalgam.Proofs.Text
import Amalgam.Proofs.Wrap
import Amalgam.Stage.DocLog

/-! Paragraphs are filled each for itself. Blank lines end them, and so does a word that is as
long as a line, as a rule is: no other word finds room beside it. What is filled holds the same
words as before, so to fill it once more changes nothing. -/
namespace Amalgam

/-- A function that writes `sep` for each element with `p`, and treats what stands on its two
sides apart, is known by what it does to the pieces between those elements. -/
theorem eq_intercalate_splitOnP {α β : Type} {p : α → Bool} {f g : List α → List β} {sep : List β}
    (plain : ∀ xs, (∀ x ∈ xs, p x = false) → f xs = g xs)
    (cut : ∀ xs x ys, p x = true → f (xs ++ x :: ys) = f xs ++ sep ++ f ys) (xs : List α) :
    f xs = sep.intercalate ((xs.splitOnP p).map g) := by
  induction h : xs.length using Nat.strongRecOn generalizing xs with
  | ind n ih =>
    cases first : xs.find? p with
    | none =>
      have off : ∀ x ∈ xs, p x = false := by simpa using first
      simp [List.splitOnP_eq_singleton off, plain xs off]
    | some x =>
      have ⟨here, before, after, whole, off⟩ := List.find?_eq_some_iff_append.mp first
      have off : ∀ y ∈ before, p y = false := by simpa using off
      have shorter : after.length < n := by
        rw [← h, whole, List.length_append, List.length_cons]
        omega
      rw [whole, cut before x after here, plain before off, ih _ shorter after rfl,
        List.splitOnP_append_cons_of_forall_mem off x here, List.map_cons,
        List.intercalate_cons_of_ne_nil (by simp)]

namespace Text

def IsWord (w : Text) : Prop := w ≠ [] ∧ ∀ c ∈ w, isBlank c = false

theorem isWord_of_mem_words {t w : Text} (h : w ∈ words t) : IsWord w := by
  have ⟨piece, proper⟩ := List.mem_filter.mp h
  refine ⟨by simpa using proper, fun c member => ?_⟩
  cases blank : isBlank c with
  | false => rfl
  | true => exact absurd member (not_mem_of_mem_splitWhen piece blank)

theorem words_append {c : Char} (blank : isBlank c = true) (s t : Text) :
    words (s ++ c :: t) = words s ++ words t := by
  rw [words, splitWhen_append blank, List.filter_append, words, words]

theorem IsWord.words_eq {w : Text} (h : IsWord w) : words w = [w] := by
  have ⟨ne, plain⟩ := h
  simp [words, splitWhen_plain plain, ne]

theorem words_blank {t : Text} (blank : t.all isBlank = true) : words t = [] := by
  induction t with
  | nil => rfl
  | cons c t ih =>
    have ⟨first, rest⟩ : isBlank c = true ∧ t.all isBlank = true := by
      simpa using blank
    exact (words_append first [] t).trans (ih rest)

theorem not_blank_of_words {t : Text} (h : words t ≠ []) : t.all isBlank = false := by
  cases blank : t.all isBlank with
  | false => rfl
  | true => exact absurd (words_blank blank) h

end Text

namespace Wrap
open Text (IsWord)
variable {limit : Nat}

theorem words_joined {group : List Text} (said : ∀ w ∈ group, IsWord w) :
    Text.words (joined group) = group := by
  induction group with
  | nil => rfl
  | cons w group ih =>
    have ⟨first, said⟩ := List.forall_mem_cons.mp said
    cases group with
    | nil => rw [joined_singleton, first.words_eq]
    | cons v group =>
      rw [joined_cons_cons, Text.words_append rfl, first.words_eq, ih said]
      rfl

theorem words_read {ws : List Text} (said : ∀ w ∈ ws, IsWord w) :
    ∃ groups : List (List Text), words limit ws = groups.map joined ∧ groups.flatten = ws ∧
      ∀ group ∈ groups, group ≠ [] ∧ Text.words (joined group) = group := by
  have ⟨groups, eq, split⟩ := @words_groups limit ws fun w member => (said w member).1
  refine ⟨groups, eq, split.whole, fun group member => ⟨split.proper group member, ?_⟩⟩
  refine words_joined fun w inside => said w ?_
  rw [← split.whole]
  exact List.mem_flatten_of_mem member inside

theorem flatMap_words {ws : List Text} (said : ∀ w ∈ ws, IsWord w) :
    (words limit ws).flatMap Text.words = ws := by
  have ⟨groups, eq, whole, groupsRead⟩ := @words_read limit ws said
  calc (words limit ws).flatMap Text.words
      = (groups.map fun group => Text.words (joined group)).flatten := by
        rw [eq, List.flatMap_def, List.map_map]
        rfl
    _ = (groups.map fun group => group).flatten := by
        rw [List.map_congr_left fun group member => (groupsRead group member).2]
    _ = ws := by rw [List.map_id', whole]

theorem words_not_blank {ws : List Text} (said : ∀ w ∈ ws, IsWord w) :
    ∀ line ∈ words limit ws, line.all Text.isBlank = false := by
  have ⟨groups, eq, _, groupsRead⟩ := @words_read limit ws said
  intro line member
  rw [eq] at member
  have ⟨group, inside, line_eq⟩ := List.mem_map.mp member
  have ⟨ne, same⟩ := groupsRead group inside
  refine Text.not_blank_of_words ?_
  rwa [← line_eq, same]

section reflow
variable {line : Text} (gathered lines : List Text)

theorem reflow_ends (blank : line.all Text.isBlank = true) :
    reflow limit gathered (line :: lines) =
      words limit gathered ++ ([[]] ++ reflow limit [] lines) := by
  simp [reflow, blank]

theorem reflow_goesOn (shown : line.all Text.isBlank = false) :
    reflow limit gathered (line :: lines) = reflow limit (gathered ++ Text.words line) lines := by
  simp [reflow, shown]

end reflow

theorem reflow_plain {lines : List Text} (plain : ∀ line ∈ lines, line.all Text.isBlank = false)
    (gathered : List Text) :
    reflow limit gathered lines = words limit (gathered ++ lines.flatMap Text.words) := by
  induction lines generalizing gathered with
  | nil => simp [reflow]
  | cons line lines ih =>
    have ⟨first, plain⟩ := List.forall_mem_cons.mp plain
    rw [reflow_goesOn gathered lines first, ih plain, List.flatMap_cons, List.append_assoc]

theorem reflow_append {below out : List Text}
    (ends : ∀ gathered, reflow limit gathered below = words limit gathered ++ out)
    (gathered above : List Text) :
    reflow limit gathered (above ++ below) = reflow limit gathered above ++ out := by
  induction above generalizing gathered with
  | nil => exact ends gathered
  | cons line above ih =>
    rw [List.cons_append]
    cases blank : line.all Text.isBlank with
    | true => simp [reflow_ends _ _ blank, ih]
    | false => rw [reflow_goesOn _ _ blank, reflow_goesOn _ _ blank, ih]

theorem paragraphs_blank {line : Text} (blank : line.all Text.isBlank = true)
    (above below : List Text) :
    paragraphs limit (above ++ line :: below) =
      paragraphs limit above ++ [[]] ++ paragraphs limit below := by
  rw [List.append_assoc]
  exact reflow_append (fun gathered => reflow_ends gathered below blank) [] above

/-- The words of each paragraph, for paragraphs that end at the lines with `ends`. -/
def wordsBetween (ends : Text → Bool) (lines : List Text) : List (List Text) :=
  (lines.splitOnP ends).map (·.flatMap Text.words)

theorem isWord_of_mem_wordsBetween {ends : Text → Bool} {lines ws : List Text}
    (h : ws ∈ wordsBetween ends lines) : ∀ w ∈ ws, IsWord w := by
  intro w member
  have ⟨piece, _, eq⟩ := List.mem_map.mp h
  subst eq
  have ⟨line, _, inside⟩ := List.mem_flatMap.mp member
  exact Text.isWord_of_mem_words inside

def filled (limit : Nat) (texts : List (List Text)) : List Text :=
  List.intercalate [[]] (texts.map (words limit))

theorem paragraphs_eq_filled (limit : Nat) (lines : List Text) :
    paragraphs limit lines = filled limit (wordsBetween (·.all Text.isBlank) lines) := by
  rw [filled, wordsBetween, List.map_map]
  refine eq_intercalate_splitOnP ?_ ?_ lines
  · intro lines plain
    exact reflow_plain plain []
  · intro above line below blank
    exact paragraphs_blank blank above below

theorem wordsBetween_filled {texts : List (List Text)} (said : ∀ ws ∈ texts, ∀ w ∈ ws, IsWord w)
    (ne : texts ≠ []) : wordsBetween (· == []) (filled limit texts) = texts := by
  have proper : ∀ lines ∈ texts.map (words limit), [] ∉ lines := by
    intro lines member empty
    have ⟨ws, inside, eq⟩ := List.mem_map.mp member
    subst eq
    have blank := words_not_blank (said ws inside) [] empty
    cases blank
  have cut : (filled limit texts).splitOnP (· == []) = texts.map (words limit) := by
    rw [← List.splitOn_eq_splitOnP]
    exact List.splitOn_intercalate [] proper (by simpa using ne)
  have same : ∀ ws ∈ texts, (words limit ws).flatMap Text.words = ws :=
    fun ws inside => flatMap_words (said ws inside)
  rw [wordsBetween, cut, List.map_map]
  calc texts.map ((·.flatMap Text.words) ∘ words limit)
      = texts.map fun ws => ws := List.map_congr_left same
    _ = texts := List.map_id' texts

theorem paragraphs_filled {texts : List (List Text)} (said : ∀ ws ∈ texts, ∀ w ∈ ws, IsWord w) :
    paragraphs limit (filled limit texts) = filled limit texts := by
  have single : ∀ ws : List Text, (∀ w ∈ ws, IsWord w) →
      paragraphs limit (words limit ws) = words limit ws := by
    intro ws said
    rw [paragraphs, reflow_plain (words_not_blank said), List.nil_append, flatMap_words said]
  induction texts with
  | nil => rfl
  | cons ws texts ih =>
    have ⟨first, said⟩ := List.forall_mem_cons.mp said
    cases texts with
    | nil => simpa [filled] using single ws first
    | cons vs texts =>
      have parts : filled limit (ws :: vs :: texts) =
          words limit ws ++ [[]] ++ filled limit (vs :: texts) := List.intercalate_cons_cons
      rw [parts, List.append_assoc, List.singleton_append, paragraphs_blank rfl, single ws first,
        ih said]
      simp

/-- Filling keeps the paragraphs: cut at its blank lines, a text falls into as many of them as
the filled one does at its empty lines, with the same words in each. And filled lines are not
changed by filling them again. -/
theorem paragraphs_keep_words (limit : Nat) (lines : List Text) :
    wordsBetween (· == []) (paragraphs limit lines) = wordsBetween (·.all Text.isBlank) lines ∧
      paragraphs limit (paragraphs limit lines) = paragraphs limit lines := by
  have said : ∀ ws ∈ wordsBetween (·.all Text.isBlank) lines, ∀ w ∈ ws, IsWord w :=
    fun ws member => isWord_of_mem_wordsBetween member
  rw [paragraphs_eq_filled]
  exact ⟨wordsBetween_filled said (by simp [wordsBetween]), paragraphs_filled said⟩

/-- A rule: a word that leaves no room on its line for another one. -/
structure IsRule (limit : Nat) (r : Text) : Prop where
  word : IsWord r
  long : limit ≤ r.length

theorem fill_rule {r : Text} (rule : IsRule limit r) (line : Text) (before after : List Text) :
    fill limit line (before ++ r :: after) = fill limit line before ++ fill limit r after := by
  have long := rule.long
  induction before generalizing line with
  | nil =>
    cases line with
    | nil => simp [fill]
    | cons c line =>
      rw [List.nil_append, fill_breaks (by simp) (by omega), fill_nil (by simp)]
      rfl
  | cons w before ih =>
    rw [List.cons_append, fill, fill]
    split
    · exact ih w
    · split
      · exact ih _
      · rw [ih w]
        rfl

theorem fill_behind_rule {r : Text} (rule : IsRule limit r) (after : List Text) :
    fill limit r after = r :: words limit after := by
  have ⟨⟨ne, _⟩, long⟩ := rule
  cases after with
  | nil => exact fill_nil ne
  | cons w after => rw [fill_breaks ne (by omega), words_eq_fill, fill_open]

theorem words_rule {r : Text} (rule : IsRule limit r) (before after : List Text) :
    words limit (before ++ r :: after) = words limit before ++ [r] ++ words limit after := by
  rw [words_eq_fill, fill_rule rule, fill_behind_rule rule, ← words_eq_fill, List.append_cons]

theorem reflow_gathered {r : Text} (rule : IsRule limit r) (before after lines : List Text) :
    reflow limit (before ++ r :: after) lines =
      words limit before ++ [r] ++ reflow limit after lines := by
  induction lines generalizing after with
  | nil => exact words_rule rule before after
  | cons line lines ih =>
    rw [reflow, reflow]
    split
    · rw [words_rule rule, List.append_assoc]
    · rw [List.append_assoc, List.cons_append, ih]

/-- What stands above a rule and what stands below it are filled each for itself. -/
theorem paragraphs_rule {r : Text} (rule : IsRule limit r) (above below : List Text) :
    paragraphs limit (above ++ r :: below) =
      paragraphs limit above ++ [r] ++ paragraphs limit below := by
  have one := rule.word.words_eq
  have shown : r.all Text.isBlank = false := Text.not_blank_of_words (by simp [one])
  have ends : ∀ gathered, reflow limit gathered (r :: below) =
      words limit gathered ++ ([r] ++ paragraphs limit below) := by
    intro gathered
    rw [reflow_goesOn _ _ shown, one, reflow_gathered rule, List.append_assoc]
    rfl
  rw [List.append_assoc]
  exact reflow_append ends [] above

end Wrap

namespace DocLog
variable {s : DocLogSettings}

theorem isRule_dashes {n : Nat} (pos : 1 ≤ n) : Wrap.IsRule n (List.replicate n '-') := by
  refine ⟨⟨?_, ?_⟩, ?_⟩
  · exact List.ne_nil_of_length_pos (by rwa [List.length_replicate])
  · intro c member
    rw [List.eq_of_mem_replicate member]
    rfl
  · simp

/-- A formatted comment is filled between its separators, and a rule stands for each of them. -/
theorem bodyLines_separated (pos : 1 ≤ s.lineLength) {c : Tagged} (formatted : c.formatted = true) :
    bodyLines s c = List.intercalate [List.replicate s.lineLength '-']
      ((c.body.splitOnP s.separatorTags.contains).map (Wrap.paragraphs s.lineLength)) := by
  have lines : bodyLines s c = Wrap.paragraphs s.lineLength (c.body.map (bodyLine s)) := by
    simp [bodyLines, formatted]
  rw [lines]
  refine eq_intercalate_splitOnP (f := fun body => Wrap.paragraphs _ (body.map (bodyLine s)))
    ?_ ?_ c.body
  · intro body plain
    have same : ∀ line ∈ body, bodyLine s line = line := by
      intro line member
      rw [bodyLine, plain line member, if_neg Bool.false_ne_true]
    rw [List.map_congr_left same, List.map_id']
  · intro above tag below separator
    have rule : bodyLine s tag = List.replicate s.lineLength '-' := by
      rw [bodyLine, separator, if_pos rfl]
    rw [List.map_append, List.map_cons, rule]
    exact Wrap.paragraphs_rule (isRule_dashes pos) _ _

end DocLog

/-- A word that is as long as a line has a line to itself, and what stands above it and below it
is filled as if the other were not there. So each separator of a formatted comment becomes one
rule, and the lines between the separators are filled by themselves. -/
theorem paragraphs_part_at_rules {limit : Nat} (pos : 1 ≤ limit) :
    (∀ (above : List Text) (r : Text) (below : List Text),
      (∀ c ∈ r, Text.isBlank c = false) → limit ≤ r.length →
        Wrap.paragraphs limit (above ++ [r] ++ below) =
          Wrap.paragraphs limit above ++ [r] ++ Wrap.paragraphs limit below) ∧
      ∀ (s : DocLogSettings) (c : DocLog.Tagged), s.lineLength = limit → c.formatted = true →
        DocLog.bodyLines s c = List.intercalate [List.replicate limit '-']
          ((c.body.splitOnP s.separatorTags.contains).map (Wrap.paragraphs limit)) := by
  constructor
  · intro above r below plain long
    have ne : r ≠ [] := List.ne_nil_of_length_pos (Nat.lt_of_lt_of_le pos long)
    rw [List.append_assoc, List.singleton_append]
    exact Wrap.paragraphs_rule ⟨⟨ne, plain⟩, long⟩ above below
  · intro s c eq formatted
    subst eq
    exact DocLog.bodyLines_separated pos formatted

/-- Two rules in a row, between words that would fit on one line, and a word behind them that is
longer than the line. -/
theorem paragraphs_part_at_rules_twice :
    Wrap.paragraphs 5 (["a".toList] ++ ["=====".toList] ++ ["b".toList, "c".toList]) =
        ["a".toList] ++ ["=====".toList] ++ ["b c".toList] ∧
      DocLog.bodyLines { lineLength := 5 }
          ⟨true, ["a".toList, "@separator".toList, "@seperator".toList, "b longer".toList]⟩ =
        ["a".toList, "-----".toList, "-----".toList, "b".toList, "longer".toList] := by
  have ⟨parted, separated⟩ := @paragraphs_part_at_rules 5 (by decide)
  constructor
  · have plain : ∀ c ∈ "=====".toList, Text.isBlank c = false := by simp [Text.isBlank]
    exact (parted _ _ _ plain (by decide)).trans (by decide +kernel)
  · exact (separated { lineLength := 5 } _ rfl rfl).trans (by decide +kernel)

end Amalgam
