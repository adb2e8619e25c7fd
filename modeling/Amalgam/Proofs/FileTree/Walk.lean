import Amalgam.Execute
import Amalgam.Proofs.Lookup
import Amalgam.Proofs.Text

/-! Walks through a tree: which steps lead from a directory along names. A walk to a directory
sees directories and links only, so it goes on in every tree that has the same ones; and a
name that may be created is created in the directory that the names before it lead to. -/
namespace Amalgam.FileTree
variable {t t' : FileTree}

section entries

theorem get?_erase {loc : Location} (ne : loc ≠ []) (loc' : Location) :
    (t.erase loc).get? loc' = if loc' = loc then none else t.get? loc' := by
  cases loc' with
  | nil => simp [get?, ne.symm]
  | cons n ns =>
    split
    · rename_i eq
      rw [get?, eq, List.lookup_eq_none_iff]
      · intro entry member
        have apart : entry.1 ≠ loc := by simpa using (List.mem_filter.mp member).2
        exact bne_iff_ne.mpr apart.symm
      · simp
    · rename_i apart
      exact lookup_filter_ne apart

theorem get?_set {loc : Location} (ne : loc ≠ []) (e : Entry) (loc' : Location) :
    (t.set loc e).get? loc' = if loc' = loc then some e else t.get? loc' := by
  cases loc' with
  | nil => simp [get?, ne.symm]
  | cons n ns => exact lookup_insert e

def LinkFree (t : FileTree) : Prop := ∀ loc target, t.get? loc ≠ some (.link target)

theorem LinkFree.of_entries (h : ∀ entry ∈ t.entries, ∀ target, entry.2 ≠ .link target) :
    t.LinkFree := by
  intro loc target there
  cases loc with
  | nil => cases there
  | cons n ns =>
    obtain ⟨before, after, eq, -⟩ := List.lookup_eq_some_iff.mp there
    exact h (n :: ns, .link target) (by simp [eq]) target rfl

end entries

theorem bind_ok {α β : Type} {x : Except Fault α} {f : α → Except Fault β} {b : β} :
    (x >>= f) = .ok b ↔ ∃ a, x = .ok a ∧ f a = .ok b := by
  cases x with
  | error e => simp [bind, Except.bind]
  | ok a => simp [bind, Except.bind]

structure Named (n : Text) : Prop where
  ne_nil : n ≠ []
  ne_current : n ≠ ['.']
  ne_parent : n ≠ ['.', '.']

/-- The steps from `loc` along names to `d`, through at most so many links. -/
inductive Walk (t : FileTree) (create : Bool) :
    (links : Nat) → (loc : Location) → List Text → (d : Location) → Prop
  | done (links : Nat) (loc : Location) : Walk t create links loc [] loc
  | stay {links : Nat} {loc d : Location} {n : Text} {rest : List Text}
      (dir : t.get? loc = some .directory) (here : n = [] ∨ n = ['.'])
      (next : Walk t create links loc rest d) : Walk t create links loc (n :: rest) d
  | up {links : Nat} {loc d : Location} {rest : List Text} (dir : t.get? loc = some .directory)
      (next : Walk t create links loc.dropLast rest d) :
      Walk t create links loc (['.', '.'] :: rest) d
  | down {links : Nat} {loc d : Location} {n : Text} {rest : List Text} {e : Entry}
      (dir : t.get? loc = some .directory) (named : Named n)
      (slash : (create && rest == [[]]) = false) (short : Text.byteLen n ≤ maxName)
      (there : t.get? (loc ++ [n]) = some e) (plain : ∀ target, e ≠ .link target)
      (next : Walk t create links (loc ++ [n]) rest d) : Walk t create links loc (n :: rest) d
  | fresh {links : Nat} {loc : Location} {n : Text} (dir : t.get? loc = some .directory)
      (named : Named n) (short : Text.byteLen n ≤ maxName) (creates : create = true)
      (missing : t.get? (loc ++ [n]) = none) : Walk t create links loc [n] (loc ++ [n])
  | link {links : Nat} {loc d : Location} {n : Text} {rest : List Text} {target : Path}
      (dir : t.get? loc = some .directory) (named : Named n)
      (slash : (create && rest == [[]]) = false) (short : Text.byteLen n ≤ maxName)
      (there : t.get? (loc ++ [n]) = some (.link target))
      (next : Walk t create links (if target.isAbsolute then [] else loc)
        (steps target ++ rest) d) :
      Walk t create (links + 1) loc (n :: rest) d

section
variable {create : Bool} {links : Nat} {follow : Location → List Text → Except Fault Location}

theorem walkWith_named {loc : Location} {n : Text} (dir : t.get? loc = some .directory)
    (named : Named n) (rest : List Text) :
    t.walkWith create follow loc (n :: rest) =
      if create && rest == [[]] then .error .isADirectory
      else if Text.byteLen n > maxName then .error .nameTooLong
      else match t.get? (loc ++ [n]) with
        | none => if create && rest.isEmpty then .ok (loc ++ [n]) else .error .notFound
        | some (.link target) =>
          follow (if target.isAbsolute then [] else loc) (steps target ++ rest)
        | some _ => t.walkWith create follow (loc ++ [n]) rest := by
  have here : ¬ (n == [] || n == ['.']) = true := by simp [named.ne_nil, named.ne_current]
  have up : ¬ (n == ['.', '.']) = true := by simp [named.ne_parent]
  rw [walkWith, dir]
  exact (if_neg here).trans (if_neg up)

theorem walkWith_iff (follows : ∀ loc names d, follow loc names = .ok d ↔
      ∃ k, links = k + 1 ∧ Walk t create k loc names d)
    {loc d : Location} {names : List Text} :
    t.walkWith create follow loc names = .ok d ↔ Walk t create links loc names d := by
  induction names generalizing loc with
  | nil =>
    constructor
    · intro h
      cases h
      exact .done _ _
    · intro h
      cases h
      rfl
  | cons n rest ih =>
    constructor
    · intro h
      have dir : t.get? loc = some .directory := by
        rw [walkWith] at h
        split at h
        · assumption
        · cases h
        · cases h
        · cases h
      by_cases here : n = [] ∨ n = ['.']
      · refine .stay dir here (ih.mp ?_)
        rcases here with rfl | rfl <;> simpa [walkWith, dir] using h
      by_cases parent : n = ['.', '.']
      · subst parent
        refine .up dir (ih.mp ?_)
        simpa [walkWith, dir] using h
      have named : Named n := ⟨fun eq => here (.inl eq), fun eq => here (.inr eq), parent⟩
      rw [walkWith_named dir named] at h
      split at h
      · cases h
      · rename_i slash
        have slash := Bool.eq_false_iff.mpr slash
        split at h
        · cases h
        · rename_i short
          have short := Nat.le_of_not_gt short
          split at h
          · rename_i missing
            split at h
            · rename_i last
              cases h
              simp only [Bool.and_eq_true, List.isEmpty_iff] at last
              obtain ⟨creates, rfl⟩ := last
              exact .fresh dir named short creates missing
            · cases h
          · rename_i there
            obtain ⟨k, rfl, next⟩ := (follows _ _ _).mp h
            exact .link dir named slash short there next
          · rename_i plain there
            exact .down dir named slash short there plain (ih.mp h)
    · intro h
      cases h with
      | stay dir here next => rcases here with rfl | rfl <;> simpa [walkWith, dir] using ih.mpr next
      | up dir next => simpa [walkWith, dir] using ih.mpr next
      | down dir named slash short there plain next =>
        rename_i e
        rw [walkWith_named dir named, slash, if_neg Bool.false_ne_true,
          if_neg (Nat.not_lt.mpr short), there]
        cases e with
        | link target => exact absurd rfl (plain target)
        | file | locked | directory | closed => exact ih.mpr next
      | fresh dir named short creates missing =>
        rw [walkWith_named dir named, if_neg (by simp), if_neg (Nat.not_lt.mpr short), missing]
        simp [creates]
      | link dir named slash short there next =>
        rw [walkWith_named dir named, slash, if_neg Bool.false_ne_true,
          if_neg (Nat.not_lt.mpr short), there]
        exact (follows _ _ _).mpr ⟨_, rfl, next⟩

theorem walk_iff {loc d : Location} {names : List Text} :
    t.walk create links loc names = .ok d ↔ Walk t create links loc names d := by
  induction links generalizing loc names d with
  | zero => exact walkWith_iff fun loc names d => by simp
  | succ links ih =>
    refine walkWith_iff fun loc names d => ?_
    rw [ih]
    constructor
    · exact fun walk => ⟨links, rfl, walk⟩
    · rintro ⟨k, eq, walk⟩
      cases eq
      exact walk

end

/-- Whatever is not a file is still there. -/
def Keeps (t t' : FileTree) : Prop :=
  ∀ loc e, t.get? loc = some e → e.content? = none → t'.get? loc = some e

namespace Walk
variable {create : Bool} {links : Nat} {loc d : Location} {names : List Text}

theorem ends (h : Walk t create links loc names d) (other : t.get? loc ≠ some .directory) :
    d = loc := by
  cases h with
  | done => rfl
  | stay dir | up dir | down dir | fresh dir | link dir => exact absurd dir other

theorem keeps (h : Walk t false links loc names d) (same : t.Keeps t')
    (dir : t.get? d = some .directory) : Walk t' false links loc names d := by
  induction h with
  | done => exact .done _ _
  | stay here stays next ih => exact .stay (same _ _ here rfl) stays (ih dir)
  | up here next ih => exact .up (same _ _ here rfl) (ih dir)
  | @down links loc d n rest e here named slash short there plain next ih =>
    refine .down (same _ _ here rfl) named slash short (same _ _ there ?_) plain (ih dir)
    by_cases leads : t.get? (loc ++ [n]) = some .directory
    · cases there.symm.trans leads
      rfl
    · exact absurd (next.ends leads ▸ dir) leads
  | fresh here named short creates => cases creates
  | link here named slash short there next ih =>
    exact .link (same _ _ here rfl) named slash short (same _ _ there rfl) (ih dir)

/-- What is known of the entry that a path names: the directory it is in, and where a walk
ends that may create it. A link leads on to some other place. -/
def Last (t : FileTree) (links : Nat) (loc : Location) (front : List Text) (n : Text)
    (d : Location) : Prop :=
  ∃ parent, Walk t false links loc front parent ∧ t.get? parent = some .directory ∧
    Text.byteLen n ≤ maxName ∧
    ((∀ target, t.get? (parent ++ [n]) ≠ some (.link target)) → d = parent ++ [n])

theorem last_single {n : Text} (h : Walk t true links loc [n] d) (named : Named n) :
    Last t links loc [] n d := by
  cases h with
  | stay dir here =>
    rcases here with rfl | rfl
    · exact absurd rfl named.ne_nil
    · exact absurd rfl named.ne_current
  | up => exact absurd rfl named.ne_parent
  | down dir named slash short there plain next =>
    cases next
    exact ⟨loc, .done _ _, dir, short, fun _ => rfl⟩
  | fresh dir named short creates missing => exact ⟨loc, .done _ _, dir, short, fun _ => rfl⟩
  | link dir named slash short there next =>
    exact ⟨loc, .done _ _, dir, short, fun plain => absurd there (plain _)⟩

theorem last {front : List Text} {n : Text} (h : Walk t true links loc (front ++ [n]) d)
    (named : Named n) : Last t links loc front n d := by
  generalize eq : front ++ [n] = names at h
  induction h generalizing front with
  | done => simp at eq
  | stay dir here next ih =>
    cases front with
    | nil =>
      cases eq
      exact last_single (.stay dir here next) named
    | cons m front =>
      cases eq
      obtain ⟨parent, walk, rest⟩ := ih rfl
      exact ⟨parent, .stay dir here walk, rest⟩
  | up dir next ih =>
    cases front with
    | nil =>
      cases eq
      exact last_single (.up dir next) named
    | cons m front =>
      cases eq
      obtain ⟨parent, walk, rest⟩ := ih rfl
      exact ⟨parent, .up dir walk, rest⟩
  | down dir named' slash short there plain next ih =>
    cases front with
    | nil =>
      cases eq
      exact last_single (.down dir named' slash short there plain next) named
    | cons m front =>
      cases eq
      obtain ⟨parent, walk, rest⟩ := ih rfl
      exact ⟨parent, .down dir named' (by simp) short there plain walk, rest⟩
  | fresh dir named' short creates missing =>
    cases front with
    | nil =>
      cases eq
      exact last_single (.fresh dir named' short creates missing) named
    | cons m front => simp at eq
  | link dir named' slash short there next ih =>
    cases front with
    | nil =>
      cases eq
      exact last_single (.link dir named' slash short there next) named
    | cons m front =>
      cases eq
      obtain ⟨parent, walk, rest⟩ := ih (List.append_assoc _ _ _)
      exact ⟨parent, .link dir named' (by simp) short there walk, rest⟩

end Walk
end Amalgam.FileTree
