import Amalgam.Text.Blank

/-! Facts about cutting, trimming and replacing in texts. -/
namespace Amalgam.Text

theorem splitWhen_ne_nil {p : Char → Bool} (t : Text) : splitWhen p t ≠ [] := by
  cases t with
  | nil => simp [splitWhen]
  | cons c t =>
    unfold splitWhen
    split
    · simp
    · split <;> simp

theorem mem_of_mem_splitWhen {p : Char → Bool} {t piece : Text} (h : piece ∈ splitWhen p t)
    {c : Char} (member : c ∈ piece) : c ∈ t := by
  induction t generalizing piece with
  | nil =>
    obtain rfl : piece = [] := by simpa [splitWhen] using h
    cases member
  | cons d t ih =>
    unfold splitWhen at h
    split at h
    · cases List.mem_cons.mp h with
      | inl first => simp [first] at member
      | inr later => exact List.mem_cons_of_mem d (ih later member)
    · cases pieces : splitWhen p t with
      | nil => exact absurd pieces (splitWhen_ne_nil t)
      | cons first others =>
        rw [pieces] at h ih
        cases List.mem_cons.mp h with
        | inl here =>
          rw [here] at member
          cases List.mem_cons.mp member with
          | inl eq => simp [eq]
          | inr behind => exact List.mem_cons_of_mem d (ih (by simp) behind)
        | inr later => exact List.mem_cons_of_mem d (ih (List.mem_cons_of_mem _ later) member)

theorem not_mem_of_mem_splitWhen {p : Char → Bool} {t piece : Text} (h : piece ∈ splitWhen p t)
    {c : Char} (hc : p c = true) : c ∉ piece := by
  induction t generalizing piece with
  | nil => simp_all [splitWhen]
  | cons d ds ih =>
    unfold splitWhen at h
    split at h
    · rcases List.mem_cons.mp h with rfl | h
      · simp
      · exact ih h
    · rename_i plain
      have apart : c ≠ d := fun eq => plain (eq ▸ hc)
      split at h
      · simp_all
      · rename_i first others eq
        rw [eq] at ih
        rcases List.mem_cons.mp h with rfl | h
        · exact List.not_mem_cons_of_ne_of_not_mem apart (ih (by simp))
        · exact ih (List.mem_cons_of_mem _ h)

theorem splitWhen_append {p : Char → Bool} {c : Char} (sep : p c = true) (s t : Text) :
    splitWhen p (s ++ c :: t) = splitWhen p s ++ splitWhen p t := by
  induction s with
  | nil => simp [splitWhen, sep]
  | cons d s ih =>
    rw [List.cons_append, splitWhen, splitWhen, ih]
    split
    · rfl
    · cases pieces : splitWhen p s with
      | nil => exact absurd pieces (splitWhen_ne_nil s)
      | cons piece pieces => rfl

theorem splitWhen_plain {p : Char → Bool} {t : Text} (plain : ∀ c ∈ t, p c = false) :
    splitWhen p t = [t] := by
  induction t with
  | nil => rfl
  | cons c t ih =>
    have first : p c = false := plain c (by simp)
    have others : splitWhen p t = [t] := ih fun d member => plain d (by simp [member])
    simp [splitWhen, first, others]

theorem mem_of_mem_chomp {line : Text} {c : Char} (h : c ∈ chomp line) : c ∈ line := by
  unfold chomp at h
  split at h
  · exact (List.dropLast_sublist _).subset h
  · exact h

theorem newline_not_mem_of_mem_lines {t line : Text} (h : line ∈ lines t) : '\n' ∉ line := by
  have pieces : ∀ piece ∈ splitWhen (· == '\n') t, '\n' ∉ piece :=
    fun piece hp => not_mem_of_mem_splitWhen hp (by decide)
  rcases List.mem_append.mp h with h | h
  · obtain ⟨piece, hp, rfl⟩ := List.mem_map.mp h
    exact fun hn => pieces piece ((List.dropLast_sublist _).subset hp) (mem_of_mem_chomp hn)
  · have last := (List.mem_filter.mp h).1
    exact pieces line (List.mem_of_getLast? (Option.mem_toList.mp last))

theorem after?_eq_some {lead t rest : Text} : after? lead t = some rest ↔ t = lead ++ rest := by
  fun_induction after? lead t with
  | case1 t => simp
  | case2 => simp
  | case3 lead d t ih => simpa using ih
  | case4 c lead d t apart => simp [Ne.symm apart]

theorem after?_append (lead t : Text) : after? lead (lead ++ t) = some t :=
  after?_eq_some.mpr rfl

section cut
variable {p : Char → Bool} {s s' t t' : Text} {c c' : Char}

theorem takeWhile_append_cons (hs : ∀ d ∈ s, p d = true) (hc : p c = false) :
    (s ++ c :: t).takeWhile p = s := by
  rw [List.takeWhile_append_of_pos hs, List.takeWhile_cons_of_neg (by simp [hc]), List.append_nil]

theorem append_cons_inj (hs : ∀ d ∈ s, p d = true) (hc : p c = false)
    (hs' : ∀ d ∈ s', p d = true) (hc' : p c' = false) (eq : s ++ c :: t = s' ++ c' :: t') :
    s = s' ∧ c = c' ∧ t = t' := by
  have first : s = s' := by
    rw [← takeWhile_append_cons hs hc, eq, takeWhile_append_cons hs' hc']
  rw [first] at eq
  exact ⟨first, List.cons_eq_cons.mp (List.append_cancel_left eq)⟩

theorem dropWhile_eq_cons : t.dropWhile p = c :: t' ↔
    p c = false ∧ ∃ s, (∀ d ∈ s, p d = true) ∧ t = s ++ c :: t' := by
  constructor
  · intro eq
    have stops := List.head?_dropWhile_not p t
    rw [eq] at stops
    refine ⟨stops, t.takeWhile p, List.all_eq_true.mp List.all_takeWhile, ?_⟩
    rw [← eq, List.takeWhile_append_dropWhile]
  · rintro ⟨stops, s, hs, rfl⟩
    rw [List.dropWhile_append_of_pos hs, List.dropWhile_cons_of_neg (by simp [stops])]

theorem drop_length_takeWhile (p : Char → Bool) (t : Text) :
    t.drop (t.takeWhile p).length = t.dropWhile p := by
  have whole := List.prefix_iff_eq_append.mp (List.takeWhile_prefix p (l := t))
  exact List.append_cancel_left (whole.trans List.takeWhile_append_dropWhile.symm)

end cut

theorem trim_prefix_trimStart (t : Text) : trim t <+: trimStart t := by
  rw [trim, dropWhileEnd, ← List.reverse_suffix, List.reverse_reverse]
  exact List.dropWhile_suffix _

theorem isPrefix_trim (first : Char) (lead : Text) (last : Char) (rest : Text)
    (hf : isBlank first = false) (hl : isBlank last = false) :
    first :: (lead ++ [last]) <+: trim (first :: (lead ++ [last]) ++ rest) := by
  have start : trimStart (first :: (lead ++ [last]) ++ rest) =
      first :: (lead ++ [last]) ++ rest := by
    simp [trimStart, hf]
  rw [trim, start, dropWhileEnd, ← List.reverse_suffix, List.reverse_reverse,
    List.reverse_append, List.dropWhile_append]
  split
  · simp [hl]
  · exact List.suffix_append _ _

theorem mem_of_mem_trim {t : Text} {c : Char} (h : c ∈ trim t) : c ∈ t := by
  have inner : c ∈ (trimStart t).reverse :=
    (List.dropWhile_sublist _).subset (List.mem_reverse.mp h)
  exact (List.dropWhile_sublist _).subset (List.mem_reverse.mp inner)

theorem not_mem_intercalate {c : Char} {between : Text} {pieces : List Text}
    (apart : c ∉ between) (free : ∀ piece ∈ pieces, c ∉ piece) :
    c ∉ List.intercalate between pieces := by
  induction pieces with
  | nil => simp
  | cons first pieces ih =>
    have tail := ih fun piece member => free piece (List.mem_cons_of_mem _ member)
    cases pieces with
    | nil => simpa using free first
    | cons second pieces =>
      rw [List.intercalate_cons_cons, List.mem_append, List.mem_append]
      rintro ((inFirst | inBetween) | inRest)
      · exact free first List.mem_cons_self inFirst
      · exact apart inBetween
      · exact tail inRest

theorem replace_cons (c : Char) (r : Text) (d : Char) (t : Text) :
    replace c r (d :: t) = (if d = c then r else [d]) ++ replace c r t := rfl

theorem not_mem_replace {c x : Char} {r t : Text} (hr : x ∉ r) (ht : x ∉ t) :
    x ∉ replace c r t := by
  intro h
  obtain ⟨d, hd, hx⟩ := List.mem_flatMap.mp h
  split at hx
  · exact hr hx
  · rw [List.mem_singleton] at hx
    exact ht (hx ▸ hd)

section slice
variable (t : Text)

theorem slice_add (i n : Nat) : slice t i (i + n) = (t.drop i).take n := by
  rw [slice, Nat.add_sub_cancel_left]

@[simp] theorem slice_self (i : Nat) : slice t i i = [] := by
  simp [slice]

theorem slice_length (i : Nat) : slice t i t.length = t.drop i :=
  List.take_of_length_le (by simp)

theorem length_slice {i j : Nat} (le : i ≤ j) (inside : j ≤ t.length) :
    i + (slice t i j).length = j := by
  rw [slice, List.length_take, List.length_drop]
  omega

theorem slice_append_slice {i j k : Nat} (le : i ≤ j) (le' : j ≤ k) :
    slice t i j ++ slice t j k = slice t i k := by
  have cut : k - i = (j - i) + (k - j) := by omega
  rw [slice, slice, slice, cut, List.take_add, List.drop_drop, Nat.add_sub_cancel' le]

end slice

theorem slice_append_drop {t : Text} {i j : Nat} (le : i ≤ j) :
    slice t i j ++ t.drop j = t.drop i := by
  have behind : (t.drop i).drop (j - i) = t.drop j := by
    rw [List.drop_drop, Nat.add_sub_cancel' le]
  rw [slice, ← behind, List.take_append_drop]

theorem drop_eq_slice_append {t : Text} {i j : Nat} {c : Char} (le : i ≤ j)
    (here : t[j]? = some c) : t.drop i = slice t i j ++ c :: t.drop (j + 1) := by
  obtain ⟨inside, eq⟩ := List.getElem?_eq_some_iff.mp here
  rw [← eq, ← List.drop_eq_getElem_cons inside, slice_append_drop le]

theorem byteLen_append (s t : Text) : byteLen (s ++ t) = byteLen s + byteLen t := by
  induction s with
  | nil => simp [byteLen]
  | cons c cs ih => rw [List.cons_append, byteLen, byteLen, ih, Nat.add_assoc]

theorem byteLen_pos {t : Text} (ne : t ≠ []) : 0 < byteLen t := by
  cases t with
  | nil => exact absurd rfl ne
  | cons c cs => exact Nat.add_pos_left c.utf8Size_pos _

theorem byteOffset_length (t : Text) : byteOffset t t.length = byteLen t := by
  rw [byteOffset, List.take_length]

theorem byteOffset_add_byteLen_slice (t : Text) {i j : Nat} (le : i ≤ j) :
    byteOffset t i + byteLen (slice t i j) = byteOffset t j := by
  have whole := slice_append_slice t (Nat.zero_le i) le
  simp only [slice, List.drop_zero, Nat.sub_zero] at whole
  rw [byteOffset, byteOffset, ← whole, byteLen_append, slice]

theorem newlines_append (s t : Text) : newlines (s ++ t) = newlines s + newlines t :=
  List.count_append

theorem newlines_eq_zero {t : Text} : newlines t = 0 ↔ '\n' ∉ t := List.count_eq_zero

section leftmost
variable {α : Type} {p : Text → Option α}

theorem leftmost_some {t : Text} {n : Nat} {a : α} (h : leftmost p t = some (n, a)) :
    n ≤ t.length ∧ p (t.drop n) = some a ∧ ∀ i < n, p (t.drop i) = none := by
  induction t generalizing n with
  | nil =>
    obtain ⟨b, found, eq⟩ := Option.map_eq_some_iff.mp h
    cases eq
    exact ⟨Nat.le_refl _, found, by simp⟩
  | cons c cs ih =>
    unfold leftmost at h
    split at h
    · rename_i found
      cases h
      exact ⟨Nat.zero_le _, found, by simp⟩
    · rename_i missed
      obtain ⟨⟨k, b⟩, found, eq⟩ := Option.map_eq_some_iff.mp h
      cases eq
      obtain ⟨le, here, before⟩ := ih found
      refine ⟨Nat.succ_le_succ le, here, ?_⟩
      intro i hi
      cases i with
      | zero => exact missed
      | succ i => exact before i (Nat.lt_of_succ_lt_succ hi)

theorem leftmost_none {t : Text} (h : leftmost p t = none) (i : Nat) : p (t.drop i) = none := by
  induction t generalizing i with
  | nil => simpa [leftmost] using h
  | cons c cs ih =>
    unfold leftmost at h
    split at h
    · cases h
    · rename_i missed
      cases i with
      | zero => exact missed
      | succ i => exact ih (Option.map_eq_none_iff.mp h) i

end leftmost

theorem indexOf?_some {pattern t : Text} {n : Nat} (h : indexOf? pattern t = some n) :
    pattern <+: t.drop n ∧ ∀ i < n, ¬ pattern <+: t.drop i := by
  obtain ⟨⟨k, u⟩, found, rfl⟩ := Option.map_eq_some_iff.mp h
  obtain ⟨-, here, before⟩ := leftmost_some found
  constructor
  · simpa [List.isPrefixOf_iff_prefix] using here
  · intro i hi stands
    simpa [List.isPrefixOf_iff_prefix, stands] using before i hi

theorem indexOf?_none {pattern t : Text} (h : indexOf? pattern t = none) (i : Nat) :
    ¬ pattern <+: t.drop i := by
  intro stands
  have missed := leftmost_none (Option.map_eq_none_iff.mp h) i
  simp [List.isPrefixOf_iff_prefix, stands] at missed

theorem indexOf?_drop_some {pattern t : Text} {i n : Nat}
    (h : indexOf? pattern (t.drop i) = some n) :
    pattern <+: t.drop (i + n) ∧ ∀ k, i ≤ k → k < i + n → ¬ pattern <+: t.drop k := by
  obtain ⟨stands, before⟩ := indexOf?_some h
  rw [List.drop_drop] at stands
  refine ⟨stands, fun k le lt => ?_⟩
  have apart := before (k - i) (by omega)
  rwa [List.drop_drop, Nat.add_sub_cancel' le] at apart

theorem indexOf?_drop_none {pattern t : Text} {i : Nat} (h : indexOf? pattern (t.drop i) = none)
    {k : Nat} (le : i ≤ k) : ¬ pattern <+: t.drop k := by
  have apart := indexOf?_none h (k - i)
  rwa [List.drop_drop, Nat.add_sub_cancel' le] at apart

end Amalgam.Text
