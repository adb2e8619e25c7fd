import Mathlib.Data.List.Nodup
import Mathlib.Data.String.Basic
import Amalgam.Pipeline
import Amalgam.Proofs.Lookup

/-! What a registry answers after some registrations. It knows for each name the last pipeline
of that name, and for each alias the name of the last pipeline that had it. So a pipeline that
is registered again is replaced, but what it was known by is not: its former aliases lead to
the one that took its place. -/
namespace Amalgam.Registry
variable {r : Registry} {history : List Pipeline} {n : String} {p : Pipeline}

theorem named?_register (r : Registry) (p : Pipeline) (n : String) :
    (r.register p).named? n = if n = p.name then some p else r.named? n :=
  lookup_insert p

theorem lookup_foldl_insert (nicknames : List String) (name n : String)
    (aliases : List (String × String)) :
    (nicknames.foldl (fun as a => insert a name as) aliases).lookup n =
      if n ∈ nicknames then some name else aliases.lookup n := by
  induction nicknames generalizing aliases with
  | nil => simp
  | cons a nicknames ih =>
    rw [List.foldl_cons, ih, insert, lookup_insert]
    by_cases here : n = a <;> simp [here]

theorem lookup_register (r : Registry) (p : Pipeline) (n : String) :
    (r.register p).aliases.lookup n =
      if n ∈ p.aliases then some p.name else r.aliases.lookup n :=
  lookup_foldl_insert p.aliases p.name n r.aliases

theorem pipelines_sorted (r : Registry) : r.pipelines.Pairwise (·.name ≤ ·.name) := by
  have sorted : r.pipelines.Pairwise fun p q => decide (p.name ≤ q.name) = true :=
    List.pairwise_mergeSort (by simpa using fun _ _ _ => le_trans)
      (by simpa using fun _ _ => le_total _ _) _
  exact sorted.imp of_decide_eq_true

/-- The listing does not depend on the order in which pipelines are kept. -/
theorem pipelines_eq {ps : List Pipeline} (perm : (r.entries.map (·.2)).Perm ps)
    (ordered : ps.Pairwise (·.name < ·.name)) : r.pipelines = ps := by
  have kept : r.pipelines.Perm ps := (List.mergeSort_perm _ _).trans perm
  have apart : (ps.map (·.name)).Nodup := List.pairwise_map.mpr (ordered.imp ne_of_lt)
  refine kept.eq_of_pairwise (fun p q first second le ge => ?_) r.pipelines_sorted
    (ordered.imp le_of_lt)
  exact List.inj_on_of_nodup_map apart (kept.mem_iff.mp first) second (le_antisymm le ge)

/-- The registry says what some registrations, in this order, have left. -/
structure Records (r : Registry) (history : List Pipeline) : Prop where
  named : ∀ n, r.named? n = history.reverse.find? (·.name == n)
  known : ∀ n, r.aliases.lookup n =
    (history.reverse.find? (·.aliases.contains n)).map (·.name)

namespace Records

theorem empty : Records {} [] := ⟨fun _ => rfl, fun _ => rfl⟩

theorem register (h : r.Records history) (p : Pipeline) :
    (r.register p).Records (history ++ [p]) := by
  constructor
  · intro n
    rw [named?_register, h.named, List.reverse_concat]
    by_cases here : n = p.name
    · simp [here]
    · simp [here, Ne.symm here]
  · intro n
    rw [lookup_register, h.known, List.reverse_concat]
    by_cases here : n ∈ p.aliases <;> simp [here]

theorem standard : Records standard standard.pipelines := by
  have listed : Registry.standard.pipelines = Registry.standard.entries.reverse.map (·.2) :=
    pipelines_eq (.swap _ _ _) (by decide +kernel)
  rw [listed]
  exact (empty.register _).register _

theorem foldl (h : r.Records history) (ps : List Pipeline) :
    (ps.foldl Registry.register r).Records (history ++ ps) := by
  induction ps generalizing r history with
  | nil => simpa using h
  | cons p ps ih => simpa using ih (h.register p)

theorem named_iff (h : r.Records history) : r.named? n = some p ↔ p.name = n ∧
    ∃ before after, history = before ++ p :: after ∧ ∀ q ∈ after, q.name ≠ n := by
  rw [h.named, find?_reverse_eq_some]
  simp

theorem known_iff (h : r.Records history) {name : String} :
    r.aliases.lookup n = some name ↔ ∃ before q after, history = before ++ q :: after ∧
      q.name = name ∧ n ∈ q.aliases ∧ ∀ s ∈ after, n ∉ s.aliases := by
  rw [h.known, Option.map_eq_some_iff]
  constructor
  · rintro ⟨q, found, rfl⟩
    obtain ⟨listed, before, after, eq, unlisted⟩ := find?_reverse_eq_some.mp found
    exact ⟨before, q, after, eq, rfl, by simpa using listed, by simpa using unlisted⟩
  · rintro ⟨before, q, after, eq, rfl, listed, unlisted⟩
    refine ⟨q, find?_reverse_eq_some.mpr ⟨by simpa using listed, before, after, eq, ?_⟩, rfl⟩
    simpa using unlisted

end Records

/-- What a pipeline is known by although it does not say so: it replaced a pipeline `q` that
had the alias, and neither it nor anything else behind `q` has it. -/
structure LeftBehind (history : List Pipeline) (n : String) (p : Pipeline) : Prop where
  unnamed : ∀ s ∈ history, s.name ≠ n
  replaced : ∃ before q between after, history = before ++ q :: (between ++ p :: after) ∧
    q.name = p.name ∧ n ∈ q.aliases ∧ (∀ s ∈ between ++ p :: after, n ∉ s.aliases) ∧
    ∀ s ∈ after, s.name ≠ p.name

theorem Records.unnamed_iff (h : r.Records history) :
    r.named? n = none ↔ ∀ s ∈ history, s.name ≠ n := by
  rw [h.named]
  simp

theorem Records.leftBehind (h : r.Records history) (found : r.get? n = some p)
    (name : n ≠ p.name) (foreign : n ∉ p.aliases) : LeftBehind history n p := by
  unfold get? at found
  split at found
  · rename_i q named
    cases found
    exact absurd (h.named_iff.mp named).1.symm name
  · rename_i unnamed
    obtain ⟨m, known, named⟩ := Option.bind_eq_some_iff.mp found
    obtain rfl := (h.named_iff.mp named).1
    obtain ⟨before, q, behind, eq, same, listed, unlisted⟩ := h.known_iff.mp known
    refine ⟨h.unnamed_iff.mp unnamed, before, q, ?_⟩
    -- Of those behind `q`, the last one of the name is `p`; without any it would be `q`.
    cases later : behind.reverse.find? (·.name == p.name) with
    | none =>
      have last : r.named? p.name = some q :=
        h.named_iff.mpr ⟨same, before, behind, eq, by simpa using later⟩
      cases named.symm.trans last
      exact absurd listed foreign
    | some s =>
      obtain ⟨name', between, after, rfl, last⟩ := find?_reverse_eq_some.mp later
      have last' : r.named? p.name = some s :=
        h.named_iff.mpr ⟨by simpa using name', before ++ q :: between, after, by simp [eq],
          by simpa using last⟩
      cases named.symm.trans last'
      exact ⟨between, after, eq, same, listed, unlisted, by simpa using last⟩

theorem Records.get?_of_leftBehind (h : r.Records history) (left : LeftBehind history n p) :
    r.get? n = some p ∧ n ≠ p.name ∧ n ∉ p.aliases := by
  obtain ⟨unnamed, before, q, between, after, eq, same, listed, unlisted, last⟩ := left
  have known : r.aliases.lookup n = some p.name :=
    h.known_iff.mpr ⟨before, q, between ++ p :: after, eq, same, listed, unlisted⟩
  have named : r.named? p.name = some p :=
    h.named_iff.mpr ⟨rfl, before ++ q :: between, after, by simp [eq], last⟩
  refine ⟨?_, (unnamed p (by simp [eq])).symm, unlisted p (by simp)⟩
  rw [get?, h.unnamed_iff.mpr unnamed, known]
  exact named

/-- A look-up gives a pipeline by something that is neither its name nor one of its aliases
exactly if a pipeline that it replaced has left that behind. -/
theorem get?_not_own_iff {start : Registry} (fresh : start = {} ∨ start = standard)
    (registered : List Pipeline) (n : String) (p : Pipeline) :
    (registered.foldl register start).get? n = some p ∧ ¬ (n = p.name ∨ n ∈ p.aliases) ↔
      LeftBehind (start.pipelines ++ registered) n p := by
  have begun : start.Records start.pipelines := by
    rcases fresh with rfl | rfl
    · simpa [pipelines] using Records.empty
    · exact .standard
  have records := begun.foldl registered
  rw [not_or]
  exact ⟨fun ⟨found, name, foreign⟩ => records.leftBehind found name foreign,
    records.get?_of_leftBehind⟩

/-- The short name of a standard pipeline outlives it. -/
theorem get?_not_own_iff_short : ∃ p, p.aliases = [] ∧
    (standard.register p).get? "sut" = some p ∧ LeftBehind (standard.pipelines ++ [p]) "sut" p := by
  refine ⟨{ name := "source-under-test" }, rfl, by decide +kernel, ?_⟩
  exact (get?_not_own_iff (.inr rfl) [_] "sut" _).mp ⟨by decide +kernel, by decide⟩

/-- A pipeline without aliases is found by a foreign name. -/
theorem get?_by_former_alias : ∃ (registered : List Pipeline) (n : String) (p : Pipeline),
    (registered.foldl register {}).get? n = some p ∧ ¬ (n = p.name ∨ n ∈ p.aliases) :=
  ⟨[{ name := "a", aliases := ["x"] }, { name := "a" }], "x", { name := "a" },
    by decide +kernel, by decide⟩

end Amalgam.Registry
