import Amalgam.Include
import Amalgam.Proofs.Text

/-! How an include can be written. The parser accepts exactly the lines that have such a
spelling, and no line has two. A line that asks for its file to be included once has none. -/
namespace Amalgam

def IncludeForm.mark : IncludeForm → Char
  | .quoted => '"'
  | .angled => '<'

namespace Directive
variable {number : Nat} {t : Text} {d : Directive}

/-- The parts of a line that includes a file. Either closing delimiter goes with either form. -/
structure Spelling where
  before : Text
  inner : Text
  gap : Text
  form : IncludeForm
  target : Text
  closing : Char
  after : Text
  before_blank : ∀ c ∈ before, Text.isBlank c = true
  inner_blank : ∀ c ∈ inner, Text.isBlank c = true
  gap_blank : ∀ c ∈ gap, Text.isBlank c = true
  gap_ne : gap ≠ []
  target_ne : target ≠ []
  target_free : '"' ∉ target ∧ '>' ∉ target
  closes : closing = '"' ∨ closing = '>'
  after_blank : ∀ c ∈ after, Text.isBlank c = true

namespace Spelling

def line (s : Spelling) : Text :=
  s.before ++ '#' :: (s.inner ++ ("include".toList ++
    (s.gap ++ s.form.mark :: (s.target ++ s.closing :: s.after))))

def directive (s : Spelling) (number : Nat) : Directive := ⟨s.target, s.form, number⟩

end Spelling

theorem opening?_eq_some {c : Char} {form : IncludeForm} :
    opening? c = some form ↔ c = form.mark := by
  constructor
  · intro h
    unfold opening? at h
    split at h <;> cases h <;> rfl
  · rintro rfl
    cases form <;> rfl

@[simp] theorem opening?_mark (form : IncludeForm) : opening? form.mark = some form :=
  opening?_eq_some.mpr rfl

theorem isClosing_iff {c : Char} : (!isClosing c) = false ↔ c = '"' ∨ c = '>' := by
  simp only [isClosing, Bool.not_eq_false', Bool.or_eq_true, beq_iff_eq]

theorem not_isClosing_iff {target : Text} :
    (∀ c ∈ target, (!isClosing c) = true) ↔ '"' ∉ target ∧ '>' ∉ target := by
  simp only [isClosing, Bool.not_eq_true', Bool.or_eq_false_iff, beq_eq_false_iff_ne]
  constructor
  · intro free
    exact ⟨fun member => (free _ member).1 rfl, fun member => (free _ member).2 rfl⟩
  · rintro ⟨quote, angle⟩ c member
    exact ⟨ne_of_mem_of_not_mem member quote, ne_of_mem_of_not_mem member angle⟩

theorem isBlank_mark (form : IncludeForm) : Text.isBlank form.mark = false := by
  cases form <;> decide

theorem parseTarget?_eq_some : parseTarget? number t = some d ↔
    ∃ form target closing after, t = form.mark :: (target ++ closing :: after) ∧ target ≠ [] ∧
      (∀ c ∈ target, (!isClosing c) = true) ∧ (!isClosing closing) = false ∧
      (∀ c ∈ after, Text.isBlank c = true) ∧ d = ⟨target, form, number⟩ := by
  constructor
  · intro h
    cases t with
    | nil => cases h
    | cons c cs =>
      simp only [parseTarget?, Option.bind_eq_bind, Option.bind_eq_some_iff, opening?_eq_some,
        Text.drop_length_takeWhile] at h
      obtain ⟨form, rfl, h⟩ := h
      split at h
      · cases h
      · rename_i closing after behind
        split at h
        · rename_i proper
          simp only [Bool.and_eq_true, List.all_eq_true] at proper
          obtain ⟨closes, target, free, rfl⟩ := Text.dropWhile_eq_cons.mp behind
          rw [Text.takeWhile_append_cons free closes] at h proper
          cases h
          exact ⟨form, target, closing, after, rfl, by simpa using proper.1, free, closes,
            proper.2, rfl⟩
        · cases h
  · rintro ⟨form, target, closing, after, rfl, ne, free, closes, blank, rfl⟩
    simp only [parseTarget?, Option.bind_eq_bind, opening?_mark, Option.bind_some,
      Text.takeWhile_append_cons free closes, List.drop_left]
    rw [if_pos]
    simpa [ne] using blank

theorem after?_trimStart (c : Char) (lead : Text) (plain : Text.isBlank c = false) {rest : Text} :
    Text.after? (c :: lead) (Text.trimStart t) = some rest ↔
      ∃ blanks, (∀ b ∈ blanks, Text.isBlank b = true) ∧ t = blanks ++ c :: (lead ++ rest) := by
  rw [Text.after?_eq_some, List.cons_append, Text.trimStart, Text.dropWhile_eq_cons]
  simp [plain]

theorem exists_spelling {line : Text} (h : parse? line number = some d) :
    ∃ s : Spelling, s.line = line ∧ s.directive number = d := by
  simp only [parse?, Option.bind_eq_bind, Option.bind_eq_some_iff] at h
  obtain ⟨rest, hash, rest', keyword, h⟩ := h
  obtain ⟨before, before_blank, rfl⟩ := (after?_trimStart '#' [] (by decide)).mp hash
  obtain ⟨inner, inner_blank, rfl⟩ :=
    (after?_trimStart 'i' "nclude".toList (by decide)).mp keyword
  split at h
  · cases h
  · rename_i c cs
    split at h
    · rename_i blank
      obtain ⟨form, target, closing, after, eq, ne, free, closes, after_blank, rfl⟩ :=
        parseTarget?_eq_some.mp h
      obtain ⟨-, gap, gap_blank, eq⟩ := Text.dropWhile_eq_cons.mp eq
      have gap_ne : gap ≠ [] := by
        rintro rfl
        cases eq
        exact absurd blank (by simp [isBlank_mark])
      refine ⟨⟨before, inner, gap, form, target, closing, after, before_blank, inner_blank,
        gap_blank, gap_ne, ne, not_isClosing_iff.mp free, isClosing_iff.mp closes, after_blank⟩,
        ?_, rfl⟩
      rw [eq]
      rfl
    · cases h

namespace Spelling

theorem parse?_line (s : Spelling) (number : Nat) :
    parse? s.line number = some (s.directive number) := by
  have target : parseTarget? number (s.form.mark :: (s.target ++ s.closing :: s.after)) =
      some (s.directive number) :=
    parseTarget?_eq_some.mpr ⟨s.form, s.target, s.closing, s.after, rfl, s.target_ne,
      not_isClosing_iff.mpr s.target_free, isClosing_iff.mpr s.closes, s.after_blank, rfl⟩
  have gap : Text.trimStart (s.gap ++ s.form.mark :: (s.target ++ s.closing :: s.after)) =
      s.form.mark :: (s.target ++ s.closing :: s.after) :=
    Text.dropWhile_eq_cons.mpr ⟨isBlank_mark s.form, s.gap, s.gap_blank, rfl⟩
  obtain ⟨b, bs, first⟩ := List.exists_cons_of_ne_nil s.gap_ne
  have blank : Text.isBlank b = true := s.gap_blank b (by simp [first])
  simp only [parse?, Option.bind_eq_bind, Option.bind_eq_some_iff]
  refine ⟨_, (after?_trimStart '#' [] (by decide)).mpr ⟨s.before, s.before_blank, rfl⟩, _,
    (after?_trimStart 'i' "nclude".toList (by decide)).mpr
      ⟨s.inner, s.inner_blank, rfl⟩, ?_⟩
  rw [first] at gap ⊢
  simp only [List.cons_append, blank, if_true] at gap ⊢
  rw [gap]
  exact target

theorem line_injective : Function.Injective line := by
  intro s s' eq
  obtain ⟨before, -, eq⟩ := Text.append_cons_inj s.before_blank (by decide) s'.before_blank
    (by decide) eq
  obtain ⟨inner, -, eq⟩ := Text.append_cons_inj (c := 'i') s.inner_blank (by decide)
    s'.inner_blank (by decide) eq
  have eq := (List.append_right_inj "nclude".toList).mp eq
  obtain ⟨gap, mark, eq⟩ := Text.append_cons_inj s.gap_blank (isBlank_mark _) s'.gap_blank
    (isBlank_mark _) eq
  obtain ⟨target, closing, after⟩ := Text.append_cons_inj (not_isClosing_iff.mpr s.target_free)
    (isClosing_iff.mpr s.closes) (not_isClosing_iff.mpr s'.target_free)
    (isClosing_iff.mpr s'.closes) eq
  have form : s.form = s'.form := by
    have both := opening?_mark s.form
    rw [mark, opening?_mark] at both
    exact (Option.some.inj both).symm
  cases s
  cases s'
  cases before; cases inner; cases gap; cases form; cases target; cases closing; cases after
  rfl

theorem isPragmaOnce_line (s : Spelling) : isPragmaOnce s.line = false := by
  rw [isPragmaOnce, Bool.eq_false_iff, Ne, List.isPrefixOf_iff_prefix]
  intro once
  have start : Text.trimStart s.line = '#' :: (s.inner ++ _) :=
    Text.dropWhile_eq_cons.mpr ⟨by decide, s.before, s.before_blank, rfl⟩
  have letters : "#pragma once".toList = '#' :: 'p' :: "ragma once".toList := by decide
  have once := once.trans (Text.trim_prefix_trimStart s.line)
  rw [start, letters, List.cons_prefix_cons] at once
  -- Behind the `#` stands a blank or the `i`, and not the `p`.
  cases inner : s.inner with
  | nil =>
    rw [inner] at once
    exact absurd (List.cons_prefix_cons.mp once.2).1 (by decide)
  | cons b bs =>
    rw [inner] at once
    obtain ⟨rfl, -⟩ := List.cons_prefix_cons.mp once.2
    exact absurd (s.inner_blank 'p' (by simp [inner])) (by decide)

end Spelling

theorem parse?_eq_some {line : Text} : parse? line number = some d ↔
    ∃ s : Spelling, s.line = line ∧ s.directive number = d := by
  constructor
  · exact exists_spelling
  · rintro ⟨s, rfl, rfl⟩
    exact s.parse?_line number

theorem parse?_target {line : Text} (h : parse? line number = some d) : d.target ≠ [] := by
  obtain ⟨s, -, rfl⟩ := exists_spelling h
  exact s.target_ne

/-- A line is an include exactly if it has a spelling, and it has one spelling only. No include
asks for its file to be included once, so either may be looked for first. -/
theorem parse?_spelled (line : Text) (number : Nat) :
    (∀ d, parse? line number = some d ↔
      ∃ s : Spelling, s.line = line ∧ s.directive number = d) ∧
    (∀ s s' : Spelling, s.line = line → s'.line = line → s = s') ∧
    (∀ d, parse? line number = some d → isPragmaOnce line = false) ∧
    ∀ {α : Type} (once copied : α) (included : Directive → α),
      (if isPragmaOnce line then once else (parse? line number).elim copied included) =
        (parse? line number).elim (if isPragmaOnce line then once else copied) included := by
  have apart : ∀ d, parse? line number = some d → isPragmaOnce line = false := by
    intro d parsed
    obtain ⟨s, rfl, -⟩ := exists_spelling parsed
    exact s.isPragmaOnce_line
  refine ⟨fun d => parse?_eq_some, ?_, apart, ?_⟩
  · intro s s' eq eq'
    exact Spelling.line_injective (eq.trans eq'.symm)
  · intro α once copied included
    cases parsed : parse? line number with
    | none => rfl
    | some d => simp [apart d parsed]

end Directive
end Amalgam
