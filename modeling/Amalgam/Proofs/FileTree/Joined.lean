import Amalgam.Proofs.FileTree.Rooted

/-! Paths that go on from a directory. Where there are no links, what a joined path leads to
depends on the directory alone and not on how the directory is spelled; so a directory may as
well be given by the path of its location, as long as both paths can be opened. -/
namespace Amalgam

namespace Path
variable {p q : Path}

theorem pieces_ne_nil (relative : q.isAbsolute = false) (ne : q.text ≠ []) : q.pieces ≠ [] := by
  cases q with
  | mk text =>
    cases text with
    | nil => exact absurd rfl ne
    | cons c text =>
      have plain : (c == '/') = false := by simpa [isAbsolute] using relative
      cases split : Text.splitWhen (· == '/') text with
      | nil => exact absurd split (Text.splitWhen_ne_nil text)
      | cons piece pieces => simp [Path.pieces, Text.splitWhen, plain, split]

end Path

namespace FileTree
variable {t : FileTree} {base : WorkingDir} {links : Nat} {loc d : Location} {p q : Path}

namespace Walk
variable {names more : List Text} {middle d' : Location}

theorem unique (h : Walk t false links loc names d) (h' : Walk t false links loc names d') :
    d = d' := by
  have same := (walk_iff.mpr h).symm.trans (walk_iff.mpr h')
  exact Except.ok.inj same

theorem split (h : Walk t false links loc (names ++ more) d) (free : t.LinkFree) :
    ∃ middle, Walk t false links loc names middle ∧ Walk t false links middle more d := by
  induction names generalizing loc with
  | nil => exact ⟨loc, .done _ _, h⟩
  | cons n names ih =>
    rw [List.cons_append] at h
    generalize eq : names ++ more = rest at h
    cases h with
    | stay dir here next =>
      obtain ⟨middle, front, back⟩ := ih (eq ▸ next)
      exact ⟨middle, .stay dir here front, back⟩
    | up dir next =>
      obtain ⟨middle, front, back⟩ := ih (eq ▸ next)
      exact ⟨middle, .up dir front, back⟩
    | down dir named slash short there plain next =>
      obtain ⟨middle, front, back⟩ := ih (eq ▸ next)
      exact ⟨middle, .down dir named rfl short there plain front, back⟩
    | fresh dir named short creates => cases creates
    | link dir named slash short there => exact absurd there (free _ _)

theorem append_iff (h : Walk t false links loc names middle) (free : t.LinkFree) :
    Walk t false links loc (names ++ more) d ↔ Walk t false links middle more d := by
  constructor
  · intro whole
    obtain ⟨middle', front, back⟩ := whole.split free
    rwa [h.unique front]
  · exact h.append free

end Walk

structure DirectoryAt (t : FileTree) (base : WorkingDir) (p : Path) (loc : Location) : Prop where
  located : t.locate base p = .ok loc
  dir : t.get? loc = some .directory

def start (base : WorkingDir) (p : Path) : Location :=
  if p.isAbsolute then [] else base.location

theorem check_ok : check p = .ok () ↔
    Char.ofNat 0 ∉ p.text ∧ p.text ≠ [] ∧ Text.byteLen p.text < maxPath := by
  unfold check
  by_cases nul : Char.ofNat 0 ∈ p.text
  · simp [nul]
  by_cases empty : p.text = []
  · simp [empty]
  by_cases long : maxPath ≤ Text.byteLen p.text
  · simp [nul, empty, long]
  · simp [nul, empty, long, Nat.lt_of_not_le long]

theorem DirectoryAt.walk (h : DirectoryAt t base p loc) (present : base.removed = false)
    (free : t.LinkFree) : Walk t false maxLinks (start base p) p.pieces loc := by
  have walk : Walk t false maxLinks (start base p) (steps p) loc :=
    ((locate_ok present).mp h.located).2
  unfold steps at walk
  split at walk
  · obtain ⟨middle, front, back⟩ := walk.split free
    cases back with
    | stay dir here next =>
      cases next
      exact front
    | down dir named => exact absurd rfl named.ne_nil
    | fresh dir named => exact absurd rfl named.ne_nil
    | link dir named => exact absurd rfl named.ne_nil
  · exact walk

theorem steps_join (relative : q.isAbsolute = false) (ne : q.text ≠ []) :
    steps (p.join q) = p.pieces ++ steps q := by
  obtain ⟨between, text, -⟩ := Path.join_text (p := p) relative
  have last : (p.join q).text.getLast? = q.text.getLast? := by
    rw [text, ← List.append_assoc, List.getLast?_append_of_ne_nil _ ne]
  have named := Path.pieces_ne_nil relative ne
  have named' : (p.join q).pieces ≠ [] := by
    rw [Path.pieces_join relative]
    simp [named]
  unfold steps
  rw [last, Path.pieces_join relative]
  split
  · rename_i slash
    rw [if_pos (by simp_all), List.append_assoc]
  · rename_i slash
    rw [if_neg (by simp_all)]

theorem locate_join (present : base.removed = false) (free : t.LinkFree)
    (walk : Walk t false maxLinks (start base p) p.pieces loc) (relative : q.isAbsolute = false)
    (ne : q.text ≠ []) : t.locate base (p.join q) = .ok d ↔
      check (p.join q) = .ok () ∧ Walk t false maxLinks loc (steps q) d := by
  rw [locate_ok present, steps_join relative ne, Path.isAbsolute_join_relative relative]
  exact and_congr_right fun _ => walk.append_iff free

theorem check_join (nulFree : Char.ofNat 0 ∉ p.text) (relative : q.isAbsolute = false)
    (ne : q.text ≠ []) : check (p.join q) = .ok () ↔
      Char.ofNat 0 ∉ q.text ∧ Text.byteLen (p.join q).text < maxPath := by
  obtain ⟨between, text, slashes⟩ := Path.join_text (p := p) relative
  have apart : Char.ofNat 0 ∉ between := fun member => absurd (slashes member) (by decide)
  rw [check_ok, text]
  simp [nulFree, apart, ne]

/-- A directory may be spelled as it is given or as seen from the root: what is joined to it
leads to the same places, unless one of the two paths is too long and the other is not. -/
theorem locate_absolutize_join (within : base.Within t) (free : t.LinkFree)
    (h : DirectoryAt t base p loc) (relative : q.isAbsolute = false) (ne : q.text ≠ [])
    (fits : maxPath ≤ Text.byteLen (p.join q).text ↔
      maxPath ≤ Text.byteLen ((p.absolutize (pathOf base.location)).join q).text) :
    t.locate base ((p.absolutize (pathOf base.location)).join q) = .ok d ↔
      t.locate base (p.join q) = .ok d := by
  have spelled := absolutize_pathOf within.toEntered free h.located
  have rooted := locate_rooted within.toEntered free h.located
  have reach := locate_reachable within free h.located
  have proper : ∀ n ∈ loc, Proper n := fun n member => rooted.proper member
  have walk : Walk t false maxLinks (start base (pathOf loc)) (pathOf loc).pieces loc := by
    rw [start, if_pos (isAbsolute_pathOf loc), pieces_pathOf proper]
    exact rooted.walk reach free h.dir
  have nulFree : Char.ofNat 0 ∉ p.text :=
    (check_ok.mp ((locate_ok within.present).mp h.located).1).1
  rw [spelled] at fits ⊢
  rw [locate_join within.present free walk relative ne,
    locate_join within.present free (h.walk within.present free) relative ne,
    check_join (nul_not_mem_pathOf proper) relative ne, check_join nulFree relative ne,
    ← Nat.not_le, ← Nat.not_le, fits]

end FileTree
end Amalgam
