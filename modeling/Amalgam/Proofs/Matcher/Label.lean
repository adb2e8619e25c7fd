import Amalgam.Proofs.Matcher

/-! The search for access labels. It goes from one place of the name to the next and looks at
what is around it; what it finds is the first place, character by character, at which a label
with the character in front of it stands. -/
namespace Amalgam.Matcher
variable {l t text : Text} {start : Nat} {found : Match}

/-- One character that is not part of an identifier, the label, blanks, a colon. -/
def labelAt? (label : Text) : Text → Option Match
  | [] => none
  | c :: cs =>
    if label.isEmpty || !label.isPrefixOf cs || Text.isIdentifier c then none
    else
      let rest := cs.drop label.length
      let blanks := (rest.takeWhile Text.isBlank).length
      if [':'].isPrefixOf (rest.drop blanks) then
        let stop := 1 + label.length + blanks + 1
        some ⟨⟨0, stop⟩, [some ⟨0, stop⟩, some ⟨0, 1⟩, some ⟨1, 1 + label.length⟩,
          some ⟨1 + label.length, stop⟩]⟩
      else none

theorem labelAt?_some {label : Text} (h : labelAt? label t = some found) :
    ∃ lead blanks rest, t = lead :: (label ++ (blanks ++ ':' :: rest)) ∧ label ≠ [] ∧
      Text.isIdentifier lead = false ∧ (∀ c ∈ blanks, Text.isBlank c = true) ∧
      found = ⟨⟨0, 1 + label.length + blanks.length + 1⟩,
        [some ⟨0, 1 + label.length + blanks.length + 1⟩, some ⟨0, 1⟩,
          some ⟨1, 1 + label.length⟩,
          some ⟨1 + label.length, 1 + label.length + blanks.length + 1⟩]⟩ := by
  cases t with
  | nil => cases h
  | cons lead cs =>
    simp only [labelAt?] at h
    split at h
    · cases h
    · rename_i passed
      simp only [Bool.or_eq_true, Bool.not_eq_true', not_or, List.isEmpty_iff,
        Bool.not_eq_false, Bool.not_eq_true] at passed
      obtain ⟨⟨named, start⟩, apart⟩ := passed
      obtain ⟨rest, rfl⟩ := List.isPrefixOf_iff_prefix.mp start
      rw [List.drop_left] at h
      split at h
      · rename_i colon
        obtain ⟨behind, colon⟩ := List.isPrefixOf_iff_prefix.mp colon
        cases h
        refine ⟨lead, rest.takeWhile Text.isBlank, behind, ?_, named, apart, ?_, rfl⟩
        · have whole :=
            List.prefix_iff_eq_append.mp (List.takeWhile_prefix Text.isBlank (l := rest))
          rw [← colon] at whole
          exact congrArg (fun t => lead :: (label ++ t)) whole.symm
        · intro c inside
          exact List.all_eq_true.mp List.all_takeWhile c inside
      · cases h

theorem labelAt?_anchored (label : Text) : Anchored (labelAt? label) := by
  intro t found h
  obtain ⟨lead, blanks, rest, rfl, -, -, -, rfl⟩ := labelAt?_some h
  refine ⟨rfl, Nat.succ_pos _, ?_⟩
  simp only [List.length_cons, List.length_append]
  omega

theorem labelAt?_none {n : Nat} (missing : ¬ l <+: text.drop (n + 1)) :
    labelAt? l (text.drop n) = none := by
  cases drop : text.drop n with
  | nil => rfl
  | cons c cs =>
    rw [← List.drop_drop, drop, List.drop_one, List.tail_cons] at missing
    have unmatched : l.isPrefixOf cs = false := by
      rw [← Bool.not_eq_true, List.isPrefixOf_iff_prefix]
      exact missing
    simp [labelAt?, unmatched]

/-- Around a place of the name a label is looked for as it is from the character in front. -/
theorem labelNamed?_succ {n : Nat} (named : l ≠ []) (stands : l <+: text.drop (n + 1)) :
    labelNamed? l text start (n + 1) =
      if n < start then none else (labelAt? l (text.drop n)).map (·.shift n) := by
  obtain ⟨rest, behind⟩ := stands
  have lt : n < text.length := by
    have length := congrArg List.length behind
    have long := List.length_pos_iff.mpr named
    rw [List.length_append, List.length_drop] at length
    omega
  have lead : (text.take (n + 1)).getLast? = some text[n] := by
    rw [List.take_succ_eq_append_getElem lt, List.getLast?_concat]
  have whole : text.drop n = text[n] :: (l ++ rest) := by
    rw [List.drop_eq_getElem_cons lt, behind]
  have tail : text.drop (n + 1 + l.length) = rest := by
    rw [← List.drop_drop, ← behind, List.drop_left]
  have further (k : Nat) : text.drop (n + 1 + l.length + k) = rest.drop k := by
    rw [← List.drop_drop, tail]
  have matched : l.isPrefixOf (l ++ rest) = true :=
    List.isPrefixOf_iff_prefix.mpr (List.prefix_append l rest)
  rw [labelNamed?, lead, whole, labelAt?]
  by_cases early : n < start
  · simp [early]
  by_cases joined : Text.isIdentifier text[n] = true
  · simp [joined]
  simp only [tail, further, Nat.add_sub_cancel, early, joined, List.isEmpty_eq_false_iff.mpr named,
    matched, List.drop_left, decide_false, Bool.not_true, Bool.or_self, Bool.false_eq_true,
    if_false]
  split
  · simp [Match.shift, Span.shift, Nat.add_assoc]
  · rfl

/-- If no label has its name in front of `search`, the search from there on finds the first. -/
theorem labelFrom?_eq_leftmost {search : Nat} (named : l ≠ [])
    (before : ∀ n, start ≤ n → n + 1 < search → labelAt? l (text.drop n) = none) :
    labelFrom? l text start search = leftmost (labelAt? l) text start := by
  fun_induction labelFrom? l text start search with
  | case1 search inside missing =>
    symm
    refine leftmost_eq_none fun n le => ?_
    by_cases early : n + 1 < search
    · exact before n le early
    · exact labelAt?_none (Text.indexOf?_drop_none missing (Nat.le_of_not_lt early))
  | case2 search inside skipped place found around =>
    obtain ⟨stands, skips⟩ := Text.indexOf?_drop_some place
    cases first : search + skipped with
    | zero =>
      rw [first] at around
      cases around
    | succ n =>
      rw [first] at around stands skips
      rw [labelNamed?_succ named stands] at around
      split at around
      · cases around
      · rename_i ahead
        obtain ⟨here, matched, rfl⟩ := Option.map_eq_some_iff.mp around
        symm
        refine leftmost_eq_some (Nat.le_of_not_lt ahead) matched fun k le lt => ?_
        by_cases early : k + 1 < search
        · exact before k le early
        · exact labelAt?_none (skips _ (Nat.le_of_not_lt early) (Nat.succ_lt_succ lt))
  | case3 search inside skipped place missed ih =>
    obtain ⟨stands, skips⟩ := Text.indexOf?_drop_some place
    -- The places that were passed over, and the one that was looked at.
    refine ih fun n le lt => ?_
    by_cases early : n + 1 < search
    · exact before n le early
    by_cases here : n + 1 = search + skipped
    · rw [← here] at missed stands
      rw [labelNamed?_succ named stands, if_neg (Nat.not_lt.mpr le)] at missed
      exact Option.map_eq_none_iff.mp missed
    · exact labelAt?_none (skips _ (Nat.le_of_not_lt early) (by omega))
  | case4 search outside =>
    symm
    refine leftmost_eq_none fun n le => ?_
    by_cases early : n + 1 < search
    · exact before n le early
    · refine labelAt?_none fun stands => named (List.prefix_nil.mp ?_)
      rwa [List.drop_eq_nil_of_le (by omega)] at stands

theorem label_eq_leftmost (l : Text) : label l = leftmost (labelAt? l) := by
  funext text start
  unfold label
  split
  · rename_i empty
    symm
    refine leftmost_eq_none fun n _ => ?_
    cases text.drop n <;> simp [labelAt?, empty]
  · rename_i named
    exact labelFrom?_eq_leftmost (by simpa using named) fun n le lt => by omega

end Amalgam.Matcher
