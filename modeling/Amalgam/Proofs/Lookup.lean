/-! Looking things up in lists, where what was put in last counts: by a key, the newest entry
being at the front, and in the order in which things came. -/
namespace Amalgam
variable {α β : Type}

section key
variable [BEq α] [LawfulBEq α] {entries : List (α × β)} {k k' : α}

theorem lookup_filter_ne (ne : k' ≠ k) :
    (entries.filter (·.1 != k)).lookup k' = entries.lookup k' := by
  induction entries with
  | nil => rfl
  | cons entry entries ih =>
    obtain ⟨l, e⟩ := entry
    by_cases here : l = k
    · have missed : (k' == l) = false := by simpa [here] using ne
      rw [List.lookup_cons, missed, List.filter_cons_of_neg (by simp [here])]
      exact ih
    · rw [List.filter_cons_of_pos (by simpa using here), List.lookup_cons, List.lookup_cons, ih]

theorem lookup_insert [Decidable (k' = k)] (v : β) :
    ((k, v) :: entries.filter (·.1 != k)).lookup k' =
      if k' = k then some v else entries.lookup k' := by
  split
  · rename_i same
    simp [same]
  · rename_i apart
    have missed : (k' == k) = false := by simpa using apart
    simp only [List.lookup_cons, missed]
    exact lookup_filter_ne apart

theorem lookup_eq_some_iff_mem {v : β} (nodup : (entries.map (·.1)).Nodup) :
    entries.lookup k = some v ↔ (k, v) ∈ entries := by
  rw [List.lookup_eq_some_iff]
  constructor
  · rintro ⟨before, after, rfl, -⟩
    simp
  · intro member
    obtain ⟨before, after, rfl⟩ := List.append_of_mem member
    refine ⟨before, after, rfl, fun entry earlier => ?_⟩
    rw [List.map_append, List.nodup_append] at nodup
    have apart := nodup.2.2 entry.1 (List.mem_map_of_mem earlier) k (by simp)
    simpa using apart.symm

end key

theorem find?_reverse_eq_some {f : α → Bool} {l : List α} {a : α} :
    l.reverse.find? f = some a ↔
      f a = true ∧ ∃ before after, l = before ++ a :: after ∧ ∀ b ∈ after, f b = false := by
  rw [List.find?_eq_some_iff_append]
  refine and_congr_right fun _ => ?_
  constructor
  · rintro ⟨later, earlier, eq, missed⟩
    refine ⟨earlier.reverse, later.reverse, ?_, ?_⟩
    · rw [← List.reverse_reverse l, eq]
      simp
    · simpa using missed
  · rintro ⟨before, after, rfl, missed⟩
    refine ⟨after.reverse, before.reverse, by simp, ?_⟩
    simpa using missed

end Amalgam
