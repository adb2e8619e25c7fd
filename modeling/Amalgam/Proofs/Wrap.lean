import Amalgam.Wrap

/-! Greedy filling makes the fewest lines. The lines are the words in groups, each of them one
word or short enough. Beside any other grouping, filling stays ahead: when that one has used up
some of its groups, filling has closed no more lines than there are groups, whatever stands on
the line that is open. -/
namespace Amalgam.Wrap
variable {limit : Nat}

def joined (group : List Text) : Text := List.intercalate [' '] group

/-- A line may hold one word of any length, or several words within the limit. -/
def Fits (limit : Nat) (group : List Text) : Prop :=
  group.length = 1 ∨ (joined group).length ≤ limit

/-- The words, in order, cut into groups that can be lines. -/
structure Split (limit : Nat) (ws : List Text) (groups : List (List Text)) : Prop where
  whole : groups.flatten = ws
  proper : ∀ group ∈ groups, group ≠ []
  fits : ∀ group ∈ groups, Fits limit group

@[simp] theorem joined_singleton (w : Text) : joined [w] = w := by
  simp [joined]

theorem joined_cons_cons (v w : Text) (ws : List Text) :
    joined (v :: w :: ws) = v ++ ' ' :: joined (w :: ws) := by
  simp [joined, List.intercalate_cons_cons]

theorem joined_merge (v w : Text) (ws : List Text) :
    joined ((v ++ ' ' :: w) :: ws) = joined (v :: w :: ws) := by
  cases ws with
  | nil => simp [joined_cons_cons]
  | cons u ws => simp [joined_cons_cons]

theorem joined_concat {group : List Text} (ne : group ≠ []) (w : Text) :
    joined (group ++ [w]) = joined group ++ ' ' :: w := by
  induction group with
  | nil => exact absurd rfl ne
  | cons v group ih =>
    cases group with
    | nil => simp [joined_cons_cons]
    | cons u group =>
      rw [List.cons_append, List.cons_append, joined_cons_cons, ← List.cons_append,
        ih (by simp), joined_cons_cons, List.append_assoc, List.cons_append]

theorem length_le_joined (w : Text) (ws : List Text) :
    w.length ≤ (joined (w :: ws)).length := by
  cases ws with
  | nil => simp
  | cons v ws => simp [joined_cons_cons]

theorem joined_ne_nil {w : Text} (ne : w ≠ []) (ws : List Text) : joined (w :: ws) ≠ [] := by
  have longer := length_le_joined w ws
  have pos := List.length_pos_iff.mpr ne
  exact List.ne_nil_of_length_pos (Nat.lt_of_lt_of_le pos longer)

theorem Fits.of_cons_cons {v w : Text} {ws : List Text} (h : Fits limit (v :: w :: ws)) :
    (joined (v :: w :: ws)).length ≤ limit := by
  cases h with
  | inl single => simp at single
  | inr short => exact short

theorem Fits.tail {w : Text} {ws : List Text} (h : Fits limit (w :: ws)) : Fits limit ws := by
  cases ws with
  | nil => exact .inr (Nat.zero_le _)
  | cons v ws =>
    have short := h.of_cons_cons
    simp only [joined_cons_cons, List.length_append, List.length_cons] at short
    exact .inr (by omega)

/-- Filling on from the open line, measured anew at each word. -/
def fill (limit : Nat) : (line : Text) → List Text → List Text
  | line, [] => if line.isEmpty then [] else [line]
  | line, w :: ws =>
    if line.isEmpty then fill limit w ws
    else if line.length + 1 + w.length ≤ limit then fill limit (line ++ ' ' :: w) ws
    else line :: fill limit w ws

/-- The count is the length of the open line, whichever way a word goes. -/
theorem fillFrom_length (line : Text) (ws : List Text) :
    fillFrom limit line line.length ws = fill limit line ws := by
  induction ws generalizing line with
  | nil => rfl
  | cons w ws ih =>
    have counted : line.length + (1 + w.length) = (line ++ ' ' :: w).length := by
      rw [List.length_append, List.length_cons, Nat.add_comm 1]
    rw [fillFrom, fill, ih w, counted, ih (line ++ ' ' :: w)]

theorem words_eq_fill (ws : List Text) : words limit ws = fill limit [] ws :=
  fillFrom_length [] ws

section fill
variable {line w : Text} {ws : List Text}

theorem fill_nil (ne : line ≠ []) : fill limit line [] = [line] := by
  simp [fill, ne]

theorem fill_open (w : Text) (ws : List Text) : fill limit [] (w :: ws) = fill limit w ws := by
  simp [fill]

theorem fill_joins (ne : line ≠ []) (room : line.length + 1 + w.length ≤ limit) :
    fill limit line (w :: ws) = fill limit (line ++ ' ' :: w) ws := by
  simp [fill, ne, room]

theorem fill_breaks (ne : line ≠ []) (full : ¬ line.length + 1 + w.length ≤ limit) :
    fill limit line (w :: ws) = line :: fill limit w ws := by
  simp [fill, ne, full]

end fill

theorem fill_groups {group ws : List Text} (ne : group ≠ []) (opened : joined group ≠ [])
    (fits : Fits limit group) (proper : ∀ w ∈ ws, w ≠ []) :
    ∃ groups, fill limit (joined group) ws = groups.map joined ∧
      Split limit (group ++ ws) groups := by
  induction ws generalizing group with
  | nil =>
    refine ⟨[group], fill_nil opened, ?_, ?_, ?_⟩
    · simp
    · simpa using ne
    · simpa using fits
  | cons w ws ih =>
    have ⟨first, proper⟩ := List.forall_mem_cons.mp proper
    by_cases room : (joined group).length + 1 + w.length ≤ limit
    · have line := joined_concat ne w
      have short : (joined (group ++ [w])).length ≤ limit := by
        rw [line, List.length_append, List.length_cons]
        omega
      have ⟨groups, eq, split⟩ := ih (by simp) (by simp [line]) (.inr short) proper
      refine ⟨groups, ?_, by simpa using split⟩
      rw [fill_joins opened room, ← line, eq]
    · have ⟨groups, eq, split⟩ :=
        ih (List.cons_ne_nil w []) (joined_ne_nil first []) (.inl rfl) proper
      rw [joined_singleton] at eq
      refine ⟨group :: groups, by rw [fill_breaks opened room, eq, List.map_cons], ?_, ?_, ?_⟩
      · simp [split.whole]
      · exact List.forall_mem_cons.mpr ⟨ne, split.proper⟩
      · exact List.forall_mem_cons.mpr ⟨fits, split.fits⟩

theorem words_groups {ws : List Text} (proper : ∀ w ∈ ws, w ≠ []) :
    ∃ groups, words limit ws = groups.map joined ∧ Split limit ws groups := by
  cases ws with
  | nil => exact ⟨[], rfl, rfl, by simp, by simp⟩
  | cons w ws =>
    have ⟨first, proper⟩ := List.forall_mem_cons.mp proper
    have fits : Fits limit [w] := .inl rfl
    have ⟨groups, eq, split⟩ :=
      fill_groups (List.cons_ne_nil w []) (joined_ne_nil first []) fits proper
    refine ⟨groups, ?_, split⟩
    rw [words_eq_fill, fill_open, ← eq, joined_singleton]

theorem fill_append {line : Text} {ws : List Text} (ne : line ≠ [])
    (fits : Fits limit (line :: ws)) (rest : List Text) :
    fill limit line (ws ++ rest) = fill limit (joined (line :: ws)) rest := by
  induction ws generalizing line with
  | nil => simp
  | cons w ws ih =>
    have short := fits.of_cons_cons
    rw [← joined_merge] at short ⊢
    have room := length_le_joined (line ++ ' ' :: w) ws
    rw [List.length_append, List.length_cons] at room
    rw [List.cons_append, fill_joins ne (by omega), ih (by simp) (.inr short)]

/-- A group more of words takes at most a line more: it fits on a line, so once one of its
words has opened a line, the others go there too. -/
theorem length_fill_append {group rest : List Text} {bound : Nat}
    (ahead : ∀ line, line ≠ [] → (fill limit line rest).length ≤ bound)
    (fits : Fits limit group) (proper : ∀ w ∈ group, w ≠ []) {line : Text} (ne : line ≠ []) :
    (fill limit line (group ++ rest)).length ≤ bound + 1 := by
  induction group generalizing line with
  | nil => exact Nat.le_succ_of_le (ahead line ne)
  | cons w group ih =>
    have ⟨first, proper⟩ := List.forall_mem_cons.mp proper
    rw [List.cons_append]
    by_cases room : line.length + 1 + w.length ≤ limit
    · rw [fill_joins ne room]
      exact ih fits.tail proper (by simp)
    · rw [fill_breaks ne room, fill_append first fits]
      exact Nat.succ_le_succ (ahead _ (joined_ne_nil first group))

/-- Filling stays ahead of every grouping, whatever stands on the open line. -/
theorem length_fill_flatten {groups : List (List Text)} (fits : ∀ group ∈ groups, Fits limit group)
    (proper : ∀ w ∈ groups.flatten, w ≠ []) {line : Text} (ne : line ≠ []) :
    (fill limit line groups.flatten).length ≤ groups.length + 1 := by
  induction groups generalizing line with
  | nil => simp [fill_nil ne]
  | cons group groups ih =>
    have ⟨groupFits, fits⟩ := List.forall_mem_cons.mp fits
    have ⟨groupProper, proper⟩ := List.forall_mem_append.mp proper
    exact length_fill_append (fun line ne => ih fits proper ne) groupFits groupProper ne

theorem length_words_le {ws : List Text} {groups : List (List Text)} (split : Split limit ws groups)
    (proper : ∀ w ∈ ws, w ≠ []) : (words limit ws).length ≤ groups.length := by
  have ⟨whole, nonempty, fits⟩ := split
  subst whole
  match groups with
  | [] => exact Nat.le_refl 0
  | [] :: groups => exact absurd rfl (nonempty [] (by simp))
  | (w :: group) :: groups =>
    have ⟨groupFits, fits⟩ := List.forall_mem_cons.mp fits
    have ⟨first, proper⟩ := List.forall_mem_cons.mp proper
    have ⟨_, proper⟩ := List.forall_mem_append.mp proper
    -- The first group is one line so far, and filling goes on from there.
    rw [words_eq_fill, List.flatten_cons, List.cons_append, fill_open,
      fill_append first groupFits]
    exact length_fill_flatten fits proper (joined_ne_nil first group)

/-- Greedy filling keeps all words, whole and in order. Each line is one word or within the
limit, and no other division of the words into such lines has fewer of them. -/
theorem words_fewest {ws : List Text} (proper : ∀ w ∈ ws, w ≠ []) (limit : Nat) :
    ∃ groups, words limit ws = groups.map joined ∧ Split limit ws groups ∧
      ∀ others, Split limit ws others → groups.length ≤ others.length := by
  have ⟨groups, eq, split⟩ := @words_groups limit ws proper
  refine ⟨groups, eq, split, fun others other => ?_⟩
  have fewest := length_words_le other proper
  rwa [eq, List.length_map] at fewest

/-- Words that fit exactly, and one that is too long for a line, at the limit 5. -/
theorem words_fewest_overlong : ∃ ws groups,
    ws = ["ab".toList, "cd".toList, "e".toList, "unbroken".toList, "äö".toList, "üß".toList] ∧
      (∀ w ∈ ws, w ≠ []) ∧
      words 5 ws = ["ab cd".toList, "e".toList, "unbroken".toList, "äö üß".toList] ∧
      words 5 ws = groups.map joined ∧ Split 5 ws groups ∧
      ∀ others, Split 5 ws others → groups.length ≤ others.length := by
  have proper : ∀ w ∈ ["ab".toList, "cd".toList, "e".toList, "unbroken".toList, "äö".toList,
      "üß".toList], w ≠ [] := by decide
  have ⟨groups, fewest⟩ := words_fewest proper 5
  exact ⟨_, groups, rfl, proper, by decide, fewest⟩

end Amalgam.Wrap
