import Amalgam.Proofs.FileTree.Walk
import Amalgam.Proofs.Path.Normal
import Mathlib.Data.List.Basic
import Mathlib.Data.List.Induction

/-! Locations and the paths that name them. Where there are no links, walking along a path and
normalising it as a text come to the same place: the names of the location that a walk has
reached are the names that normalising has kept. And from the root, the names of a location
lead back to it. -/
namespace Amalgam

namespace FileTree
variable {t : FileTree} {base : WorkingDir} {links : Nat} {loc d : Location} {names : List Text}

structure Proper (n : Text) : Prop extends Named n where
  slashless : '/' ∉ n
  nulFree : Char.ofNat 0 ∉ n
  short : Text.byteLen n ≤ maxName

/-- A directory, be it that it may not be entered. -/
abbrev IsDirectory (t : FileTree) (loc : Location) : Prop :=
  (t.get? loc).map Entry.isDirectory = some true

theorem isDirectory_iff :
    t.IsDirectory loc ↔ t.get? loc = some .directory ∨ t.get? loc = some .closed := by
  cases there : t.get? loc with
  | none => simp [there]
  | some e => cases e <;> simp [there, Entry.isDirectory]

/-- A location that is in directories all the way from the root. -/
inductive Rooted (t : FileTree) : Location → Prop
  | root : Rooted t []
  | child {loc : Location} {n : Text} (parent : Rooted t loc)
      (dir : t.IsDirectory loc) (proper : Proper n) : Rooted t (loc ++ [n])

namespace Rooted

theorem proper (h : Rooted t loc) {n : Text} (member : n ∈ loc) : Proper n := by
  induction h with
  | root => cases member
  | child parent dir proper ih =>
    cases List.mem_append.mp member with
    | inl before => exact ih before
    | inr last =>
      rw [List.mem_singleton.mp last]
      exact proper

theorem dropLast (h : Rooted t loc) : Rooted t loc.dropLast := by
  cases h with
  | root => exact .root
  | child parent dir proper =>
    rw [List.dropLast_concat]
    exact parent

end Rooted

theorem forall_take_concat {P : Location → Prop} {n : Text} :
    (∀ k < (loc ++ [n]).length, P ((loc ++ [n]).take k)) ↔
      (∀ k < loc.length, P (loc.take k)) ∧ P loc := by
  constructor
  · intro h
    refine ⟨fun k less => ?_, ?_⟩
    · have above := h k (by simp; omega)
      rwa [List.take_append_of_le_length (Nat.le_of_lt less)] at above
    · simpa using h loc.length (by simp)
  · rintro ⟨above, last⟩ k less
    rw [List.length_append, List.length_singleton, Nat.lt_succ_iff] at less
    rw [List.take_append_of_le_length less]
    cases Nat.lt_or_eq_of_le less with
    | inl inner => exact above k inner
    | inr whole => rwa [whole, List.take_length]

theorem rooted_iff : Rooted t loc ↔
    (∀ n ∈ loc, Proper n) ∧ ∀ k < loc.length, t.IsDirectory (loc.take k) := by
  constructor
  · intro h
    refine ⟨fun n member => h.proper member, ?_⟩
    induction h with
    | root => simp
    | child parent dir proper ih => exact forall_take_concat.mpr ⟨ih, dir⟩
  · rintro ⟨proper, dirs⟩
    induction loc using List.reverseRecOn with
    | nil => exact .root
    | append_singleton loc n ih =>
      obtain ⟨above, dir⟩ := forall_take_concat.mp dirs
      exact .child (ih (fun m member => proper m (by simp [member])) above) dir
        (proper n (by simp))

instance (n : Text) : Decidable (Proper n) :=
  decidable_of_iff ((n ≠ [] ∧ n ≠ ['.'] ∧ n ≠ ['.', '.']) ∧ '/' ∉ n ∧ Char.ofNat 0 ∉ n ∧
      Text.byteLen n ≤ maxName)
    ⟨fun ⟨⟨ne, current, parent⟩, rest⟩ => ⟨⟨ne, current, parent⟩, rest.1, rest.2.1, rest.2.2⟩,
    fun h => ⟨⟨h.ne_nil, h.ne_current, h.ne_parent⟩, h.slashless, h.nulFree, h.short⟩⟩

instance (t : FileTree) (loc : Location) : Decidable (t.get? loc = some .directory) :=
  match t.get? loc with
  | some .directory => isTrue rfl
  | some .closed | some (.file _) | some (.locked _) | some (.link _) => isFalse (by simp)
  | none => isFalse (by simp)

instance (t : FileTree) (loc : Location) : Decidable (Rooted t loc) :=
  decidable_of_iff _ rooted_iff.symm

/-- Every directory above a location may be entered. -/
def Reachable (t : FileTree) (loc : Location) : Prop :=
  ∀ k < loc.length, t.get? (loc.take k) = some .directory

instance (t : FileTree) (loc : Location) : Decidable (Reachable t loc) :=
  inferInstanceAs (Decidable (∀ k < loc.length, t.get? (loc.take k) = some .directory))

namespace Reachable

theorem root : Reachable t [] := fun _ less => absurd less (Nat.not_lt_zero _)

theorem concat_iff {n : Text} :
    Reachable t (loc ++ [n]) ↔ Reachable t loc ∧ t.get? loc = some .directory :=
  forall_take_concat (P := fun above => t.get? above = some .directory)

theorem dropLast (h : Reachable t loc) : Reachable t loc.dropLast := by
  cases loc using List.reverseRecOn with
  | nil => exact .root
  | append_singleton loc n =>
    rw [List.dropLast_concat]
    exact (concat_iff.mp h).1

end Reachable

namespace Walk

theorem append {middle : Location} {more : List Text} (h : Walk t false links loc names middle)
    (free : t.LinkFree) (h' : Walk t false links middle more d) :
    Walk t false links loc (names ++ more) d := by
  induction h with
  | done => exact h'
  | stay dir here next ih => exact .stay dir here (ih h')
  | up dir next ih => exact .up dir (ih h')
  | down dir named slash short there plain next ih =>
    exact .down dir named rfl short there plain (ih h')
  | fresh dir named short creates => cases creates
  | link dir named slash short there => exact absurd there (free _ _)

theorem rooted (h : Walk t false links loc names d) (free : t.LinkFree) (start : Rooted t loc)
    (plain : ∀ n ∈ names, '/' ∉ n ∧ Char.ofNat 0 ∉ n) : Rooted t d := by
  induction h with
  | done => exact start
  | stay dir here next ih => exact ih start fun n member => plain n (by simp [member])
  | up dir next ih => exact ih start.dropLast fun n member => plain n (by simp [member])
  | @down links loc d n rest e dir named slash short there kind next ih =>
    obtain ⟨slashless, nulFree⟩ := plain n (by simp)
    have proper : Proper n := ⟨named, slashless, nulFree, short⟩
    exact ih (.child start (isDirectory_iff.mpr (.inl dir)) proper)
      fun m member => plain m (by simp [member])
  | fresh dir named short creates => cases creates
  | link dir named slash short there => exact absurd there (free _ _)

theorem reachable (h : Walk t false links loc names d) (free : t.LinkFree)
    (start : Reachable t loc) : Reachable t d := by
  induction h with
  | done => exact start
  | stay dir here next ih => exact ih start
  | up dir next ih => exact ih start.dropLast
  | down dir named slash short there kind next ih =>
    exact ih (Reachable.concat_iff.mpr ⟨start, dir⟩)
  | fresh dir named short creates => cases creates
  | link dir named slash short there => exact absurd there (free _ _)

end Walk

theorem Rooted.walk (h : Rooted t loc) (reach : Reachable t loc) (free : t.LinkFree) {e : Entry}
    (there : t.get? loc = some e) : Walk t false links [] loc loc := by
  induction h generalizing e with
  | root => exact .done _ _
  | @child loc n parent dir proper ih =>
    obtain ⟨above, dir⟩ := Reachable.concat_iff.mp reach
    have front : Walk t false links [] loc loc := ih above dir
    refine front.append free (.down dir proper.toNamed rfl proper.short there ?_ (.done _ _))
    rintro target rfl
    exact free _ _ there

theorem Rooted.walkWith_denied {follow : Location → List Text → Except Fault Location}
    {front rest : Location} (h : Rooted t (front ++ rest))
    (shut : ∃ k < rest.length, t.get? (front ++ rest.take k) = some .closed) :
    t.walkWith false follow front rest = .error .denied := by
  induction rest generalizing front with
  | nil =>
    obtain ⟨k, less, -⟩ := shut
    cases less
  | cons n rest ih =>
    obtain ⟨proper, dirs⟩ := rooted_iff.mp h
    have above : ∀ k, k ≤ rest.length → t.IsDirectory (front ++ (n :: rest).take k) := by
      intro k le
      have dir := dirs (front.length + k) (by simp; omega)
      rwa [List.take_length_add_append] at dir
    obtain dir | closed := isDirectory_iff.mp (by simpa using above 0 (Nat.zero_le _))
    · obtain ⟨k, less, closed⟩ := shut
      cases k with
      | zero =>
        rw [List.take_zero, List.append_nil, dir] at closed
        cases closed
      | succ k =>
        have less : k < rest.length := Nat.lt_of_succ_lt_succ less
        have child : t.IsDirectory (front ++ [n]) := by
          simpa using above 1 (by omega)
        have onward : t.walkWith false follow (front ++ [n]) rest = .error .denied :=
          ih (by simpa using h) ⟨k, less, by simpa using closed⟩
        rw [walkWith_named dir (proper n (by simp)).toNamed, if_neg (by simp),
          if_neg (Nat.not_lt.mpr (proper n (by simp)).short)]
        obtain there | there := isDirectory_iff.mp child <;> simp [there, onward]
    · simp [walkWith, closed]

def stack (loc : Location) : List Path.Component := (.root :: loc.map .name).reverse

theorem stack_concat (loc : Location) (n : Text) : stack (loc ++ [n]) = .name n :: stack loc := by
  simp [stack]

theorem push_name (loc : Location) (n : Text) :
    Path.push (stack loc) (.name n) = stack (loc ++ [n]) := by
  rw [stack_concat, Path.push_name]

theorem push_parent (loc : Location) : Path.push (stack loc) .parent = stack loc.dropLast := by
  cases loc using List.reverseRecOn with
  | nil => rfl
  | append_singleton loc n =>
    rw [stack_concat, List.dropLast_concat]
    rfl

theorem component?_named {n : Text} (named : Named n) : Path.component? n = some (.name n) := by
  unfold Path.component?
  split
  · exact absurd rfl named.ne_current
  · exact absurd rfl named.ne_parent
  · rfl

theorem Proper.spelled {n : Text} (h : Proper n) : (Path.Component.name n).Spelled :=
  ⟨h.ne_nil, h.slashless, component?_named h.toNamed⟩

/-- The directories that a walk goes through are the names that normalising keeps: `..` takes
back a name from both. -/
theorem Walk.stack (h : Walk t false links loc names d) (free : t.LinkFree) :
    ((names.filter (!·.isEmpty)).filterMap Path.component?).foldl Path.push (stack loc) =
      FileTree.stack d := by
  induction h with
  | done => rfl
  | stay dir here next ih =>
    cases here with
    | inl empty => simpa [empty] using ih
    | inr current => simpa [current, Path.component?] using ih
  | @up links loc d rest dir next ih =>
    rw [← push_parent] at ih
    simpa [Path.component?] using ih
  | @down links loc d n rest e dir named slash short there plain next ih =>
    rw [← push_name] at ih
    simpa [named.ne_nil, component?_named named] using ih
  | fresh dir named short creates => cases creates
  | link dir named slash short there => exact absurd there (free _ _)

section path

theorem isAbsolute_pathOf (loc : Location) : (pathOf loc).isAbsolute = true :=
  Path.isAbsolute_ofComponents_root loc

theorem pieces_pathOf (proper : ∀ n ∈ loc, Proper n) : (pathOf loc).pieces = loc := by
  have spelled : ∀ c ∈ loc.map Path.Component.name, c.Spelled := by
    simpa using fun n member => (proper n member).spelled
  rw [pathOf, (Path.pieces_spelled spelled).2, List.map_map]
  exact List.map_id loc

theorem components_pathOf (proper : ∀ n ∈ loc, Proper n) :
    (pathOf loc).components = .root :: loc.map .name :=
  Path.components_rooted fun n member => (proper n member).spelled

theorem steps_pathOf (proper : ∀ n ∈ loc, Proper n) : steps (pathOf loc) = loc := by
  rw [steps, pieces_pathOf proper, if_neg]
  intro asks
  rw [Bool.and_eq_true, beq_iff_eq] at asks
  obtain ⟨slash, some⟩ := asks
  cases loc using List.reverseRecOn with
  | nil => cases some
  | append_singleton loc n =>
    have last := proper n (by simp)
    obtain ⟨c, ends⟩ : ∃ c, n.getLast? = Option.some c :=
      Option.isSome_iff_exists.mp (by simp [last.ne_nil])
    rw [pathOf, Path.ofComponents_root, if_neg (by simp), List.flatMap_append] at slash
    obtain rfl : c = '/' := by simpa [ends, List.getLast?_cons] using slash
    exact last.slashless (List.mem_of_getLast? ends)

theorem nul_not_mem_pathOf (proper : ∀ n ∈ loc, Proper n) :
    Char.ofNat 0 ∉ (pathOf loc).text := by
  rw [pathOf, Path.ofComponents_root]
  split
  · decide
  · intro member
    obtain ⟨n, inside, at_⟩ := List.mem_flatMap.mp member
    cases List.mem_cons.mp at_ with
    | inl eq => cases eq
    | inr inName => exact (proper n inside).nulFree inName

theorem check_pathOf (proper : ∀ n ∈ loc, Proper n) : check (pathOf loc) =
    if maxPath ≤ Text.byteLen (pathOf loc).text then .error .nameTooLong else .ok () := by
  have nulFree := nul_not_mem_pathOf proper
  have ne : (pathOf loc).text ≠ [] := by
    intro empty
    have absolute := isAbsolute_pathOf loc
    rw [Path.isAbsolute, empty] at absolute
    cases absolute
  rw [check, if_neg (by simpa using nulFree), if_neg (by simpa using ne)]

end path

end FileTree

/-- A working directory that is there. Directories above it, and it itself, may have been closed
since it was entered. -/
structure WorkingDir.Entered (base : WorkingDir) (t : FileTree) : Prop where
  present : base.removed = false
  rooted : t.Rooted base.location
  dir : t.IsDirectory base.location

/-- A working directory that is there, in directories that may be entered all the way from the
root. -/
structure WorkingDir.Within (base : WorkingDir) (t : FileTree) : Prop extends
    base.Entered t where
  reachable : t.Reachable base.location
  dir_open : t.get? base.location = some .directory

instance (base : WorkingDir) (t : FileTree) : Decidable (base.Entered t) :=
  decidable_of_iff (base.removed = false ∧ t.Rooted base.location ∧ t.IsDirectory base.location)
    ⟨fun ⟨present, rooted, dir⟩ => ⟨present, rooted, dir⟩, fun h => ⟨h.present, h.rooted, h.dir⟩⟩

instance (base : WorkingDir) (t : FileTree) : Decidable (base.Within t) :=
  decidable_of_iff (base.Entered t ∧ t.Reachable base.location ∧
      t.get? base.location = some .directory)
    ⟨fun ⟨entered, reachable, dir⟩ => ⟨entered, reachable, dir⟩,
    fun h => ⟨h.toEntered, h.reachable, h.dir_open⟩⟩

namespace FileTree
variable {t : FileTree} {base : WorkingDir} {loc : Location} {p : Path}

theorem locate_ok (present : base.removed = false) : t.locate base p = .ok loc ↔
    check p = .ok () ∧
      Walk t false maxLinks (if p.isAbsolute then [] else base.location) (steps p) loc := by
  have starts : origin base p (steps p) =
      .ok (if p.isAbsolute then [] else base.location, steps p) := by
    cases absolute : p.isAbsolute <;> simp [origin, absolute, present]
  simp only [locate, bind_ok, starts]
  constructor
  · rintro ⟨⟨⟩, checked, origin, eq, walk⟩
    cases eq
    exact ⟨checked, walk_iff.mp walk⟩
  · rintro ⟨checked, walk⟩
    exact ⟨(), checked, _, rfl, walk_iff.mpr walk⟩

theorem filter_steps (p : Path) : (steps p).filter (!·.isEmpty) = p.pieces := by
  unfold steps
  split <;> simp [Path.pieces]

theorem locate_rooted (entered : base.Entered t) (free : t.LinkFree)
    (h : t.locate base p = .ok loc) : Rooted t loc := by
  obtain ⟨checked, walk⟩ := (locate_ok entered.present).mp h
  have start : Rooted t (if p.isAbsolute then [] else base.location) := by
    split
    · exact .root
    · exact entered.rooted
  have nulFree : Char.ofNat 0 ∉ p.text := by
    intro member
    simp [check, member] at checked
  refine walk.rooted free start fun n member => ?_
  by_cases empty : n = []
  · simp [empty]
  · have piece : n ∈ p.pieces := by
      rw [← filter_steps]
      simp [member, empty]
    exact ⟨Path.slash_not_mem_pieces piece, fun nul => nulFree (Path.mem_of_mem_pieces piece nul)⟩

theorem locate_reachable (within : base.Within t) (free : t.LinkFree)
    (h : t.locate base p = .ok loc) : Reachable t loc := by
  obtain ⟨-, walk⟩ := (locate_ok within.present).mp h
  refine walk.reachable free ?_
  split
  · exact .root
  · exact within.reachable

theorem stack_pathOf (proper : ∀ n ∈ loc, Proper n) : (pathOf loc).stack = stack loc := by
  rw [Path.stack, components_pathOf proper]
  clear proper
  induction loc using List.reverseRecOn with
  | nil => rfl
  | append_singleton loc n ih =>
    rw [List.map_append, ← List.cons_append, List.foldl_append, ih]
    exact push_name loc n

/-- Normalising a path, seen from the working directory, gives the path of the location to
which it leads. -/
theorem absolutize_pathOf (entered : base.Entered t) (free : t.LinkFree)
    (h : t.locate base p = .ok loc) : p.absolutize (pathOf base.location) = pathOf loc := by
  have kept := ((locate_ok entered.present).mp h).2.stack free
  rw [filter_steps] at kept
  have whole : ((pathOf base.location).join p).stack = stack loc := by
    cases absolute : p.isAbsolute with
    | true =>
      rw [if_pos absolute] at kept
      rw [Path.join_absolute absolute, Path.stack_eq, if_pos absolute]
      exact kept
    | false =>
      rw [if_neg (by simp [absolute])] at kept
      rw [Path.stack_join absolute, stack_pathOf fun n member => entered.rooted.proper member]
      exact kept
  rw [Path.absolutize, Path.normalize, ← Path.stack, whole, stack, List.reverse_reverse, pathOf]

theorem locate_pathOf (rooted : Rooted t loc) :
    t.locate base (pathOf loc) =
      if maxPath ≤ Text.byteLen (pathOf loc).text then .error .nameTooLong
      else t.walk false maxLinks [] loc := by
  have proper : ∀ n ∈ loc, Proper n := fun n member => rooted.proper member
  have starts : origin base (pathOf loc) (steps (pathOf loc)) = .ok ([], loc) := by
    rw [origin, if_pos (isAbsolute_pathOf loc), steps_pathOf proper]
  rw [locate, check_pathOf proper]
  split
  · rfl
  · rw [starts]
    rfl

theorem locate_pathOf_reachable (rooted : Rooted t loc) (free : t.LinkFree)
    (short : Text.byteLen (pathOf loc).text < maxPath) (reach : Reachable t loc) {e : Entry}
    (there : t.get? loc = some e) : t.locate base (pathOf loc) = .ok loc := by
  rw [locate_pathOf rooted, if_neg (Nat.not_le.mpr short)]
  exact walk_iff.mpr (rooted.walk reach free there)

theorem locate_pathOf_denied (rooted : Rooted t loc)
    (short : Text.byteLen (pathOf loc).text < maxPath) (shut : ¬ Reachable t loc) :
    t.locate base (pathOf loc) = .error .denied := by
  rw [locate_pathOf rooted, if_neg (Nat.not_le.mpr short)]
  obtain ⟨k, less, closed⟩ : ∃ k < loc.length, t.get? (loc.take k) = some .closed := by
    simp only [Reachable, not_forall] at shut
    obtain ⟨k, less, other⟩ := shut
    exact ⟨k, less, (isDirectory_iff.mp ((rooted_iff.mp rooted).2 k less)).resolve_left other⟩
  have whole : Rooted t ([] ++ loc) := rooted
  exact whole.walkWith_denied ⟨k, less, closed⟩

end FileTree
end Amalgam
