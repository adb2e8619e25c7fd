import Amalgam.Proofs.Path
import Mathlib.Data.List.Basic

/-! Normal paths: from the root or some steps up, and then names only. Normalising leads to
one of these and changes none of them. So a path may be normalised at any time: what is joined
to it, and normalised then, comes to the same. -/
namespace Amalgam.Path
variable {p q : Path} {fromRoot : Bool} {c : Component} {cs : List Component}

/-- A component with a piece of its own, which is read as this component again. -/
structure Component.Spelled (c : Component) : Prop where
  ne_nil : c.text ≠ []
  slashless : '/' ∉ c.text
  read : component? c.text = some c

theorem Component.spelled_parent : Component.parent.Spelled :=
  ⟨by decide, by decide, rfl⟩

theorem component?_text {t : Text} (h : component? t = some c) : c.text = t := by
  unfold component? at h
  split at h <;> cases h <;> rfl

def steps (p : Path) : List Component := p.pieces.filterMap component?

theorem spelled_of_mem_steps (h : c ∈ p.steps) : c.Spelled := by
  obtain ⟨piece, member, read⟩ := List.mem_filterMap.mp h
  have text := component?_text read
  refine ⟨?_, ?_, text ▸ read⟩
  · rw [text]
    simpa using (List.mem_filter.mp member).2
  · rw [text]
    exact slash_not_mem_pieces member

def stack (p : Path) : List Component := p.components.foldl push []

theorem stack_eq (p : Path) :
    p.stack = p.steps.foldl push (if p.isAbsolute then [.root] else []) := by
  unfold stack components
  split
  · rfl
  · split <;> rfl

theorem steps_join (relative : q.isAbsolute = false) : (p.join q).steps = p.steps ++ q.steps := by
  rw [steps, pieces_join relative, List.filterMap_append]
  rfl

theorem stack_join (relative : q.isAbsolute = false) :
    (p.join q).stack = q.steps.foldl push p.stack := by
  rw [stack_eq, stack_eq, isAbsolute_join_relative relative, steps_join relative,
    List.foldl_append]

/-- Components in normal form, last first. -/
inductive Normal : (fromRoot : Bool) → List Component → Prop
  | root : Normal true [.root]
  | here : Normal false []
  | up {cs : List Component} (below : Normal false cs) (climbs : ∀ c ∈ cs, c = .parent) :
      Normal false (.parent :: cs)
  | name {fromRoot : Bool} {n : Text} {cs : List Component} (below : Normal fromRoot cs)
      (spelled : (Component.name n).Spelled) : Normal fromRoot (.name n :: cs)

theorem push_name (cs : List Component) (n : Text) : push cs (.name n) = .name n :: cs := by
  simp [push]

theorem push_parent (climbs : ∀ c ∈ cs, c = .parent) : push cs .parent = .parent :: cs := by
  cases cs with
  | nil => rfl
  | cons c cs =>
    rw [climbs c (by simp)]
    rfl

namespace Normal

theorem push (h : Normal fromRoot cs) (spelled : c.Spelled) :
    Normal fromRoot (Path.push cs c) := by
  cases c with
  | root => exact absurd rfl spelled.ne_nil
  | current => cases spelled.read
  | name n =>
    rw [push_name]
    exact .name h spelled
  | parent =>
    cases h with
    | root => exact .root
    | here => exact .up .here (by simp)
    | up below climbs => exact .up (.up below climbs) (by simpa using climbs)
    | name below spelled => exact below

theorem foldl (h : Normal fromRoot cs) {steps : List Component}
    (spelled : ∀ c ∈ steps, c.Spelled) : Normal fromRoot (steps.foldl Path.push cs) := by
  induction steps generalizing cs with
  | nil => exact h
  | cons c steps ih =>
    obtain ⟨first, others⟩ := List.forall_mem_cons.mp spelled
    exact ih (h.push first) others

theorem foldl_reverse (h : Normal fromRoot cs) : cs.reverse.foldl Path.push [] = cs := by
  rw [List.foldl_reverse]
  induction h with
  | root => rfl
  | here => rfl
  | up below climbs ih => rw [List.foldr_cons, ih, push_parent climbs]
  | name below spelled ih => rw [List.foldr_cons, ih, push_name]

theorem shape (h : Normal fromRoot cs) : ∃ (climbs : Nat) (names : List Text),
    cs.reverse = (if fromRoot then [.root] else List.replicate climbs .parent) ++
      names.map .name ∧ ∀ n ∈ names, (Component.name n).Spelled := by
  induction h with
  | root => exact ⟨0, [], rfl, by simp⟩
  | here => exact ⟨0, [], rfl, by simp⟩
  | @up cs below climbs ih =>
    refine ⟨cs.length + 1, [], ?_, by simp⟩
    rw [List.eq_replicate_of_mem climbs]
    simp [List.replicate_succ']
  | @name fromRoot n cs below spelled ih =>
    obtain ⟨climbs, names, eq, others⟩ := ih
    refine ⟨climbs, names ++ [n], by simp [eq], ?_⟩
    intro m member
    cases List.mem_append.mp member with
    | inl before => exact others m before
    | inr last =>
      rw [List.mem_singleton.mp last]
      exact spelled

end Normal

theorem normal_stack (p : Path) : Normal p.isAbsolute p.stack := by
  rw [stack_eq]
  refine Normal.foldl ?_ fun c => spelled_of_mem_steps
  cases p.isAbsolute with
  | true => exact .root
  | false => exact .here

section spelled
variable (spelled : ∀ c ∈ cs, c.Spelled)
include spelled

theorem filterMap_component? : (cs.map Component.text).filterMap component? = cs := by
  rw [List.filterMap_map]
  exact (List.filterMap_congr fun c member => (spelled c member).read).trans List.filterMap_some

theorem pieces_spelled : (ofComponents cs).pieces = cs.map Component.text ∧
    (ofComponents (.root :: cs)).pieces = cs.map Component.text := by
  have slashless : ∀ c ∈ .root :: cs, '/' ∉ c.text :=
    List.forall_mem_cons.mpr ⟨by decide, fun c member => (spelled c member).slashless⟩
  have filled : (cs.map Component.text).filter (!·.isEmpty) = cs.map Component.text := by
    refine List.filter_eq_self.mpr fun t member => ?_
    obtain ⟨c, inside, rfl⟩ := List.mem_map.mp member
    simpa using (spelled c inside).ne_nil
  constructor
  · rw [pieces_ofComponents (List.forall_mem_cons.mp slashless).2, filled]
  · rw [pieces_ofComponents slashless, List.map_cons, List.filter_cons_of_neg (by decide), filled]

theorem isAbsolute_spelled : (ofComponents cs).isAbsolute = false := by
  cases cs with
  | nil => rfl
  | cons c cs =>
    obtain ⟨first, -⟩ := List.forall_mem_cons.mp spelled
    obtain ⟨d, ds, text⟩ := List.exists_cons_of_ne_nil first.ne_nil
    have plain : d ≠ '/' := by
      rintro rfl
      exact first.slashless (by simp [text])
    unfold ofComponents
    split
    · rename_i eq
      cases eq
      exact absurd rfl first.ne_nil
    · cases cs <;> simp [isAbsolute, text, plain]

theorem components_spelled : (ofComponents cs).components = cs := by
  have named : (ofComponents cs).pieces.head? ≠ some ['.'] := by
    rw [(pieces_spelled spelled).1]
    cases cs with
    | nil => simp
    | cons c cs =>
      intro current
      have text : c.text = ['.'] := by simpa using current
      have read := (spelled c (by simp)).read
      rw [text] at read
      cases read
  rw [components, if_neg (by simp [isAbsolute_spelled spelled]), if_neg named,
    (pieces_spelled spelled).1]
  exact filterMap_component? spelled

end spelled

theorem components_rooted {names : List Text}
    (named : ∀ n ∈ names, (Component.name n).Spelled) :
    (ofComponents (.root :: names.map .name)).components = .root :: names.map .name := by
  have spelled : ∀ c ∈ names.map Component.name, c.Spelled := by simpa using named
  rw [components, if_pos (isAbsolute_ofComponents_root names), (pieces_spelled spelled).2,
    filterMap_component? spelled]

theorem Normal.components (h : Normal fromRoot cs) :
    (ofComponents cs.reverse).isAbsolute = fromRoot ∧
      (ofComponents cs.reverse).components = cs.reverse := by
  obtain ⟨climbs, names, eq, named⟩ := h.shape
  cases fromRoot with
  | true =>
    have root : cs.reverse = .root :: names.map .name := by simpa using eq
    rw [root]
    exact ⟨isAbsolute_ofComponents_root names, components_rooted named⟩
  | false =>
    have all : ∀ c ∈ cs.reverse, c.Spelled := by
      intro c member
      rw [eq] at member
      cases List.mem_append.mp member with
      | inl climb =>
        have parent := List.eq_of_mem_replicate (by simpa using climb)
        rw [parent]
        exact Component.spelled_parent
      | inr name =>
        obtain ⟨n, inside, rfl⟩ := List.mem_map.mp name
        exact named n inside
    exact ⟨isAbsolute_spelled all, components_spelled all⟩

theorem isAbsolute_normalize (p : Path) : p.normalize.isAbsolute = p.isAbsolute :=
  (normal_stack p).components.1

theorem components_normalize (p : Path) : p.normalize.components = p.stack.reverse :=
  (normal_stack p).components.2

theorem stack_normalize (p : Path) : p.normalize.stack = p.stack := by
  rw [stack, components_normalize, (normal_stack p).foldl_reverse]

theorem normalize_congr (h : p.stack = q.stack) : p.normalize = q.normalize := by
  rw [normalize, normalize, ← stack, ← stack, h]

theorem join_absolute (absolute : q.isAbsolute = true) : p.join q = q := by
  rw [join, if_pos absolute]

theorem normalize_join (p q : Path) : (p.normalize.join q).normalize = (p.join q).normalize := by
  cases absolute : q.isAbsolute with
  | true => rw [join_absolute absolute, join_absolute absolute]
  | false =>
    apply normalize_congr
    rw [stack_join absolute, stack_join absolute, stack_normalize]

theorem normalize_join_join (p q r : Path) :
    ((p.join q).join r).normalize = (p.join (q.join r)).normalize := by
  cases last : r.isAbsolute with
  | true => rw [join_absolute last, join_absolute last, join_absolute last]
  | false =>
    cases middle : q.isAbsolute with
    | true => rw [join_absolute middle, join_absolute (isAbsolute_join middle)]
    | false =>
      have relative : (q.join r).isAbsolute = false := by
        rw [isAbsolute_join_relative last, middle]
      apply normalize_congr
      rw [stack_join last, stack_join middle, stack_join relative, steps_join last,
        List.foldl_append]

theorem normalize_shape (p : Path) : ∃ (climbs : Nat) (names : List Text),
    p.normalize.components =
      (if p.isAbsolute then [.root] else List.replicate climbs .parent) ++ names.map .name := by
  obtain ⟨climbs, names, eq, -⟩ := (normal_stack p).shape
  exact ⟨climbs, names, (components_normalize p).trans eq⟩

theorem current_not_mem_normalize (p : Path) : .current ∉ p.normalize.components := by
  obtain ⟨climbs, names, eq⟩ := normalize_shape p
  rw [eq]
  cases p.isAbsolute <;> simp [List.mem_replicate]

section absolutize
variable {base : Path} (absolute : base.isAbsolute = true)
include absolute

theorem isAbsolute_absolutize (p : Path) : (p.absolutize base).isAbsolute = true := by
  rw [absolutize, isAbsolute_normalize, isAbsolute_join absolute]

theorem parent_not_mem_absolutize (p : Path) : .parent ∉ (p.absolutize base).components := by
  obtain ⟨climbs, names, eq⟩ := normalize_shape (base.join p)
  rw [absolutize, eq, isAbsolute_join absolute]
  simp

theorem absolutize_join (p q : Path) :
    ((p.absolutize base).join q).absolutize base = (p.join q).absolutize base :=
  calc
    ((p.absolutize base).join q).absolutize base
        = ((base.join p).normalize.join q).normalize := by
          rw [absolutize, join_absolute (isAbsolute_join (isAbsolute_absolutize absolute p))]
          rfl
    _ = ((base.join p).join q).normalize := normalize_join (base.join p) q
    _ = (p.join q).absolutize base := normalize_join_join base p q

end absolutize

/-- A normalised path starts at the root or goes up, as the path did, and has names only behind
that. Normalising it again changes nothing, before or behind a join; so a path that is made
absolute can be gone on from as the path itself. -/
theorem normalize_canonical (p : Path) :
    .current ∉ p.normalize.components ∧
    (∃ (climbs : Nat) (names : List Text), p.normalize.components =
      (if p.isAbsolute then [.root] else List.replicate climbs .parent) ++ names.map .name) ∧
    p.normalize.isAbsolute = p.isAbsolute ∧
    p.normalize.normalize = p.normalize ∧
    (∀ q : Path, (p.normalize.join q).normalize = (p.join q).normalize) ∧
    ∀ base : Path, base.isAbsolute = true →
      (p.absolutize base).isAbsolute = true ∧
      .current ∉ (p.absolutize base).components ∧
      .parent ∉ (p.absolutize base).components ∧
      ∀ q : Path, ((p.absolutize base).join q).absolutize base = (p.join q).absolutize base := by
  refine ⟨current_not_mem_normalize p, normalize_shape p, isAbsolute_normalize p,
    normalize_congr (stack_normalize p), normalize_join p, ?_⟩
  intro base absolute
  exact ⟨isAbsolute_absolutize absolute p, current_not_mem_normalize (base.join p),
    parent_not_mem_absolutize absolute p, absolutize_join absolute p⟩

example : (ofString "./a//../../b/c/.").normalize = ofString "../b/c" := by decide +kernel

end Amalgam.Path
