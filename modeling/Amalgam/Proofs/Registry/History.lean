import Amalgam.Proofs.Registry
import Amalgam.Proofs.Text.Bytes

/-! A registry as a view on the registrations that made it. By a name it answers with the last
pipeline of that name, by an alias with the last pipeline of the name that had the alias last,
and what it lists are the last pipelines of all names, in the order of the names' bytes. -/
namespace Amalgam

def Pipeline.nameBytes (p : Pipeline) : List UInt8 := p.name.toUTF8.data.toList

namespace Registry
variable {r : Registry} {history : List Pipeline} {n : String} {p q : Pipeline}

/-- `p` is the last of some pipelines that fulfils a condition. -/
def Last (fulfils : Pipeline → Prop) (history : List Pipeline) (p : Pipeline) : Prop :=
  fulfils p ∧ ∃ before after, history = before ++ p :: after ∧ ∀ q ∈ after, ¬ fulfils q

/-- What to answer by `n`, after some registrations. -/
inductive Answer (history : List Pipeline) (n : String) : Option Pipeline → Prop
  | named {p : Pipeline} (last : Last (·.name = n) history p) : Answer history n (some p)
  | known {q p : Pipeline} (unnamed : ∀ s ∈ history, s.name ≠ n)
      (last : Last (n ∈ ·.aliases) history q) (target : Last (·.name = q.name) history p) :
      Answer history n (some p)
  | unknown (unnamed : ∀ s ∈ history, s.name ≠ n) (unlisted : ∀ s ∈ history, n ∉ s.aliases) :
      Answer history n none

theorem Last.mem {fulfils : Pipeline → Prop} (h : Last fulfils history p) : p ∈ history := by
  obtain ⟨-, before, after, rfl, -⟩ := h
  simp

namespace Records

theorem lookup_iff_last (h : r.Records history) {name : String} :
    r.aliases.lookup n = some name ↔ ∃ q, Last (n ∈ ·.aliases) history q ∧ q.name = name := by
  rw [h.known_iff]
  constructor
  · rintro ⟨before, q, after, eq, target, listed, unlisted⟩
    exact ⟨q, ⟨listed, before, after, eq, unlisted⟩, target⟩
  · rintro ⟨q, ⟨listed, before, after, eq, unlisted⟩, target⟩
    exact ⟨before, q, after, eq, target, listed, unlisted⟩

theorem unlisted_iff (h : r.Records history) :
    r.aliases.lookup n = none ↔ ∀ s ∈ history, n ∉ s.aliases := by
  rw [h.known]
  simp

theorem answer (h : r.Records history) (n : String) : Answer history n (r.get? n) := by
  unfold get?
  split
  · rename_i p named
    exact .named (h.named_iff.mp named)
  · rename_i missed
    have unnamed := h.unnamed_iff.mp missed
    cases known : r.aliases.lookup n with
    | none => exact .unknown unnamed (h.unlisted_iff.mp known)
    | some name =>
      obtain ⟨q, last, rfl⟩ := h.lookup_iff_last.mp known
      -- The pipeline that had the alias was registered, so its name is not unknown.
      cases target : r.named? q.name with
      | none => exact absurd rfl (h.unnamed_iff.mp target q last.mem)
      | some p =>
        rw [Option.bind_some, target]
        exact .known unnamed last (h.named_iff.mp target)

theorem get?_eq_iff (h : r.Records history) {answer : Option Pipeline} :
    r.get? n = answer ↔ Answer history n answer := by
  constructor
  · rintro rfl
    exact h.answer n
  · intro known
    unfold get?
    cases known with
    | named last => rw [h.named_iff.mpr last]
    | known unnamed last target =>
      rw [h.unnamed_iff.mpr unnamed, h.lookup_iff_last.mpr ⟨_, last, rfl⟩]
      exact h.named_iff.mpr target
    | unknown unnamed unlisted =>
      rw [h.unnamed_iff.mpr unnamed, h.unlisted_iff.mpr unlisted]
      rfl

end Records

/-- Every pipeline is kept under its own name, and under no other. -/
structure Keyed (r : Registry) : Prop where
  nodup : (r.entries.map (·.1)).Nodup
  own : ∀ entry ∈ r.entries, entry.1 = entry.2.name

namespace Keyed

theorem empty : Keyed {} := ⟨List.nodup_nil, by simp⟩

theorem register (h : r.Keyed) (p : Pipeline) : (r.register p).Keyed := by
  constructor
  · refine List.nodup_cons.mpr ⟨?_, h.nodup.sublist (List.filter_sublist.map _)⟩
    simp
  · intro entry member
    cases List.mem_cons.mp member with
    | inl new => rw [new]
    | inr old => exact h.own entry (List.mem_of_mem_filter old)

theorem foldl (h : r.Keyed) (ps : List Pipeline) : (ps.foldl Registry.register r).Keyed := by
  induction ps generalizing r with
  | nil => exact h
  | cons p ps ih => exact ih (h.register p)

theorem mem_iff (h : r.Keyed) : p ∈ r.pipelines ↔ r.named? p.name = some p := by
  rw [pipelines, List.mem_mergeSort, named?, lookup_eq_some_iff_mem h.nodup, List.mem_map]
  constructor
  · rintro ⟨entry, member, rfl⟩
    rwa [← h.own entry member]
  · exact fun member => ⟨_, member, rfl⟩

theorem names_nodup (h : r.Keyed) : (r.pipelines.map (·.name)).Nodup := by
  have perm : (r.pipelines.map (·.name)).Perm (r.entries.map (·.1)) := by
    refine ((List.mergeSort_perm _ _).map _).trans (.of_eq ?_)
    rw [List.map_map]
    exact List.map_congr_left fun entry member => (h.own entry member).symm
  exact perm.nodup_iff.mpr h.nodup

theorem pairwise (h : r.Keyed) : r.pipelines.Pairwise (·.name < ·.name) := by
  have apart : r.pipelines.Pairwise (·.name ≠ ·.name) := List.pairwise_map.mp h.names_nodup
  exact (r.pipelines_sorted.and apart).imp fun ⟨le, ne⟩ => lt_of_le_of_ne le ne

end Keyed

/-- After some registrations, look-ups answer as the last ones say, and the listing is in the
order of the names' bytes and has for each name the last pipeline of that name. -/
theorem reads_history (history : List Pipeline) :
    (∀ n answer, (history.foldl register {}).get? n = answer ↔ Answer history n answer) ∧
    (history.foldl register {}).pipelines.Pairwise (·.nameBytes < ·.nameBytes) ∧
    ∀ p, p ∈ (history.foldl register {}).pipelines ↔ Last (·.name = p.name) history p := by
  have records : (history.foldl register {}).Records history := Records.empty.foldl history
  have keyed : (history.foldl register {}).Keyed := Keyed.empty.foldl history
  exact ⟨fun n answer => records.get?_eq_iff, keyed.pairwise.imp toUTF8_lt,
    fun p => keyed.mem_iff.trans records.named_iff⟩

end Registry
end Amalgam
