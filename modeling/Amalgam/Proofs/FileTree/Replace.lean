import Amalgam.Proofs.FileTree.Walk
import Amalgam.Proofs.Path

/-! Replacing a file by way of another one beside it. What changes are the place of the file
and the place beside it, and nothing else; if the file cannot be replaced, what was written
beside it is taken away again. -/
namespace Amalgam

namespace FileTree
variable {t t' : FileTree} {base : WorkingDir}

theorem origin_getLast? {p : Path} {names rest : List Text} {start : Location} {n : Text}
    (h : origin base p names = .ok (start, rest)) (last : names.getLast? = some n)
    (named : Named n) : rest.getLast? = some n := by
  unfold origin at h
  split at h
  · cases h
    exact last
  · split at h
    · -- From a directory that is gone, the names count behind the first `..`.
      have kept : (names.dropWhile fun m => m == [] || m == ['.']).getLast? = some n := by
        rw [← List.takeWhile_append_dropWhile (p := fun m : Text => m == [] || m == ['.'])
          (l := names), List.getLast?_append, Option.or_eq_some_iff] at last
        rcases last with kept | ⟨-, dropped⟩
        · exact kept
        · have blank := List.all_eq_true.mp List.all_takeWhile n (List.mem_of_getLast? dropped)
          simp [named.ne_nil, named.ne_current] at blank
      split at h
      · rename_i empty
        rw [empty] at kept
        cases kept
      · rename_i m others eq
        rw [eq] at kept
        split at h
        · rename_i parent
          cases h
          cases rest with
          | nil =>
            obtain rfl : m = n := by simpa using kept
            exact absurd (by simpa using parent) named.ne_parent
          | cons o others => simpa using kept
        · cases h
    · cases h
      exact last

theorem place_ok {p : Path} {loc : Location} : t.place base p = .ok loc ↔
    check p = .ok () ∧ ∃ start front n parent, origin base p p.pieces = .ok (start, front ++ [n]) ∧
      Walk t false maxLinks start front parent ∧ t.get? parent = some .directory ∧
      n ≠ ['.'] ∧ n ≠ ['.', '.'] ∧ Text.byteLen n ≤ maxName ∧ loc = parent ++ [n] := by
  simp only [place, bind_ok]
  constructor
  · rintro ⟨⟨⟩, checked, ⟨start, names⟩, starts, h⟩
    refine ⟨checked, ?_⟩
    simp only at h
    split at h
    · cases h
    · rename_i n last
      obtain ⟨front, rfl⟩ := List.getLast?_eq_some_iff.mp last
      rw [List.dropLast_concat, bind_ok] at h
      obtain ⟨parent, walk, h⟩ := h
      split at h
      · rename_i dir
        split at h
        · cases h
        · rename_i plain
          split at h
          · cases h
          · rename_i short
            cases h
            simp only [Bool.or_eq_true, beq_iff_eq, not_or] at plain
            exact ⟨start, front, n, parent, starts, walk_iff.mp walk, dir, plain.1, plain.2,
              Nat.le_of_not_gt short, rfl⟩
      · cases h
      · cases h
      · cases h
  · rintro ⟨checked, start, front, n, parent, starts, walk, dir, current, parents, short, rfl⟩
    refine ⟨(), checked, _, starts, ?_⟩
    simp only [List.getLast?_concat, List.dropLast_concat]
    rw [bind_ok]
    refine ⟨parent, walk_iff.mpr walk, ?_⟩
    simp [dir, current, parents, Nat.not_lt.mpr short]

theorem Keeps.place (keeps : t.Keeps t') {p : Path} {loc : Location}
    (h : t.place base p = .ok loc) : t'.place base p = .ok loc := by
  obtain ⟨checked, start, front, n, parent, starts, walk, dir, rest⟩ := place_ok.mp h
  exact place_ok.mpr ⟨checked, start, front, n, parent, starts, walk.keeps keeps dir,
    keeps _ _ dir rfl, rest⟩

theorem place_ne_nil {p : Path} {loc : Location} (h : t.place base p = .ok loc) : loc ≠ [] := by
  obtain ⟨-, -, front, n, parent, -, -, -, -, -, -, rfl⟩ := place_ok.mp h
  simp

theorem locate_staging {path : Path} {loc : Location}
    (h : t.locate base (staging path) true = .ok loc) :
    ∃ beside, t.place base (staging path) = .ok beside ∧
      ((∀ target, t.get? beside ≠ some (.link target)) → loc = beside) := by
  have ends : (staging path).text.getLast? = some 'p' := by
    simp [staging]
  obtain ⟨n, last, end_⟩ := Path.getLast?_pieces ends (by decide)
  have named : Named n := by
    refine ⟨?_, ?_, ?_⟩ <;> rintro rfl <;> cases end_
  have names : steps (staging path) = (staging path).pieces := by
    simp [steps, ends]
  simp only [locate, bind_ok, names] at h
  obtain ⟨⟨⟩, checked, ⟨start, rest⟩, starts, walk⟩ := h
  obtain ⟨front, rfl⟩ := List.getLast?_eq_some_iff.mp (origin_getLast? starts last named)
  obtain ⟨parent, walk, dir, short, same⟩ := (walk_iff.mp walk).last named
  exact ⟨_, place_ok.mpr ⟨checked, start, front, n, parent, starts, walk, dir,
    named.ne_current, named.ne_parent, short, rfl⟩, same⟩

theorem writable_ok {p : Path} {loc : Location} (h : t.writable base p = .ok loc) :
    t.locate base p true = .ok loc ∧
      ∀ e, t.get? loc = some e → (∀ target, e ≠ .link target) → ∃ content, e = .file content := by
  simp only [writable, bind_ok] at h
  obtain ⟨loc, found, h⟩ := h
  split at h
  · cases h
  · cases h
  · cases h
  · cases h
    refine ⟨found, fun e there plain => ?_⟩
    cases e with
    | file content => exact ⟨content, rfl⟩
    | link target => exact absurd rfl (plain target)
    | locked | directory | closed => simp_all

theorem rename_ok {p q : Path} (h : t.rename base p q = .ok t') :
    ∃ source target e, t.place base p = .ok source ∧ t.place base q = .ok target ∧
      t.get? source = some e ∧ t' = (t.erase source).set target e := by
  simp only [rename, bind_ok] at h
  obtain ⟨source, from_, target, onto, h⟩ := h
  split at h
  · cases h
  · rename_i e there
    split at h
    · cases h
    · split at h
      · cases h
      · cases h
        exact ⟨source, target, e, from_, onto, there, rfl⟩

theorem keeps_set {loc : Location} (ne : loc ≠ []) {content : ByteArray}
    (free : ∀ e, t.get? loc = some e → ∃ old, e = .file old) :
    t.Keeps (t.set loc (.file content)) ∧ (t.set loc (.file content)).Keeps t := by
  constructor
  · intro loc' e there plain
    rw [get?_set ne, if_neg]
    · exact there
    · rintro rfl
      obtain ⟨old, rfl⟩ := free e there
      cases plain
  · intro loc' e there plain
    rw [get?_set ne] at there
    split at there
    · cases there
      cases plain
    · exact there

/-- Nothing stands where a file is written first. -/
def Vacant (t : FileTree) (base : WorkingDir) (path : Path) : Prop :=
  ∀ beside, t.place base (staging path) = .ok beside → t.get? beside = none

def Unlinked (t : FileTree) (base : WorkingDir) (path : Path) : Prop :=
  ∀ beside target, t.place base (staging path) = .ok beside → t.get? beside ≠ some (.link target)

theorem LinkFree.unlinked (h : t.LinkFree) (path : Path) : t.Unlinked base path :=
  fun beside target _ => h beside target

theorem writable_staging {path : Path} {beside : Location} (unlinked : t.Unlinked base path)
    (h : t.writable base (staging path) = .ok beside) :
    t.place base (staging path) = .ok beside ∧
      ∀ content, t.Keeps (t.set beside (.file content)) ∧
        (t.set beside (.file content)).Keeps t := by
  obtain ⟨found, free⟩ := writable_ok h
  obtain ⟨there, place, same⟩ := locate_staging found
  obtain rfl := same fun target => unlinked there target place
  refine ⟨place, fun content => keeps_set (place_ne_nil place) fun e here => free e here ?_⟩
  rintro target rfl
  exact unlinked beside target place here

section within
variable {room : Room}

theorem writeWithin_cases (room : Room) (t : FileTree) (base : WorkingDir) (p : Path)
    (content : ByteArray) :
    (∃ e, t.writeWithin room base p content = (t, some e)) ∨
      ∃ loc, t.writable base p = .ok loc ∧
        (t.writeWithin room base p content = (t.set loc (.file content), none) ∨
          ∃ n, room t loc = some n ∧ n < content.size ∧ t.writeWithin room base p content =
            (t.set loc (.file (content.extract 0 n)), some .noSpace)) := by
  unfold writeWithin
  cases allowed : t.writable base p with
  | error e => exact .inl ⟨e, rfl⟩
  | ok loc =>
    refine .inr ⟨loc, rfl, ?_⟩
    cases bounded : room t loc with
    | none => simp [bounded]
    | some n =>
      by_cases fits : content.size ≤ n
      · simp [bounded, fits]
      · simp [bounded, fits, Nat.lt_of_not_le fits]

/-- Replacing a file: nothing is written, or it is in its place, or it could not be moved there
and is gone, or room ran out. -/
theorem replaceFileWithin_cases {path : Path} (room : Room) (text : Text)
    (unlinked : t.Unlinked base path) :
    ∃ t' fault, t.replaceFileWithin room base path text = (t', fault) ∧
      (fault.isSome = true ∧ t' = t ∨
        ∃ beside, t.place base (staging path) = .ok beside ∧
          ((fault = none ∧ ∃ place, t.place base path = .ok place ∧ ∀ loc, t'.get? loc =
              if loc = place then some (.file (String.ofList text).toUTF8)
              else if loc = beside then none else t.get? loc) ∨
            (fault.isSome = true ∧ ∀ loc, t'.get? loc =
              if loc = beside then none else t.get? loc) ∨
            (fault = some .noSpace ∧ ∃ n, room t beside = some n ∧
              n < (String.ofList text).toUTF8.size ∧ ∀ loc, t'.get? loc =
                if loc = beside then some (.file ((String.ofList text).toUTF8.extract 0 n))
                else t.get? loc))) := by
  unfold replaceFileWithin
  obtain ⟨e, wrote⟩ | ⟨beside, allowed, wrote | ⟨n, bounded, long, wrote⟩⟩ :=
    writeWithin_cases room t base (staging path) (String.ofList text).toUTF8
  · rw [wrote]
    exact ⟨_, _, rfl, .inl ⟨rfl, rfl⟩⟩
  · obtain ⟨besidePlace, keeps⟩ := writable_staging unlinked allowed
    obtain ⟨keeps, keeps'⟩ := keeps (String.ofList text).toUTF8
    have ne := place_ne_nil besidePlace
    simp only [wrote]
    cases moved : (t.set beside (.file (String.ofList text).toUTF8)).rename base (staging path)
        path with
    | ok renamed =>
      obtain ⟨source, place, e, from_, onto, there, rfl⟩ := rename_ok moved
      cases (keeps.place besidePlace).symm.trans from_
      have placed := keeps'.place onto
      rw [get?_set ne, if_pos rfl] at there
      cases there
      refine ⟨_, _, rfl, .inr ⟨beside, besidePlace, .inl ⟨rfl, place, placed, fun loc => ?_⟩⟩⟩
      rw [get?_set (place_ne_nil placed), get?_erase ne, get?_set ne]
      split
      · rfl
      · split <;> simp_all
    | error e =>
      have removed : (t.set beside (.file (String.ofList text).toUTF8)).remove base
          (staging path) = .ok ((t.set beside (.file (String.ofList text).toUTF8)).erase beside) := by
        simp only [remove, bind_ok]
        refine ⟨beside, keeps.place besidePlace, ?_⟩
        rw [get?_set ne, if_pos rfl]
        rfl
      simp only [removed]
      refine ⟨_, _, rfl, .inr ⟨beside, besidePlace, .inr (.inl ⟨rfl, fun loc => ?_⟩)⟩⟩
      rw [get?_erase ne, get?_set ne]
      split <;> rfl
  · obtain ⟨place, -⟩ := writable_staging unlinked allowed
    rw [wrote]
    exact ⟨_, _, rfl, .inr ⟨beside, place, .inr (.inr
      ⟨rfl, n, bounded, long, get?_set (place_ne_nil place) _⟩)⟩⟩

theorem replaceFileWithin_ok {path : Path} {text : Text} (unlinked : t.Unlinked base path)
    (h : t.replaceFileWithin room base path text = (t', none)) :
    ∃ place beside, t.place base path = .ok place ∧ t.place base (staging path) = .ok beside ∧
      ∀ loc, t'.get? loc =
        if loc = place then some (.file (String.ofList text).toUTF8)
        else if loc = beside then none else t.get? loc := by
  obtain ⟨t', fault, eq, ⟨failed, -⟩ | ⟨beside, besidePlace, ⟨-, place, placed, get⟩ |
    ⟨failed, -⟩ | ⟨failed, -⟩⟩⟩ := replaceFileWithin_cases room text unlinked <;>
    cases h.symm.trans eq
  · cases failed
  · exact ⟨place, beside, placed, besidePlace, get⟩
  · cases failed
  · cases failed

theorem replaceFileWithin_keeps {path : Path} {text : Text} (links : t.LinkFree)
    (h : t.replaceFileWithin room base path text = (t', none)) : t'.LinkFree ∧ t'.Keeps t := by
  obtain ⟨place, beside, -, -, get⟩ := replaceFileWithin_ok (links.unlinked path) h
  constructor
  · intro loc target there
    rw [get] at there
    split at there
    · cases there
    · split at there
      · cases there
      · exact links loc target there
  · intro loc e there plain
    rw [get] at there
    split at there
    · cases there
      cases plain
    · split at there
      · cases there
      · exact there

/-- The tree when room has run out: what fitted of a file is left where it was written first. -/
def CutOff (room : Room) (t : FileTree) (base : WorkingDir) (path : Path) (text : Text)
    (t' : FileTree) : Prop :=
  ∃ beside n, t.place base (staging path) = .ok beside ∧ room t beside = some n ∧
    n < (String.ofList text).toUTF8.size ∧
    ∀ loc, t'.get? loc =
      if loc = beside then some (.file ((String.ofList text).toUTF8.extract 0 n)) else t.get? loc

/-- If a file cannot be replaced and nothing stood where it was written first, everything is as
it was, unless room has run out. -/
theorem replaceFileWithin_failed {path : Path} {text : Text} {fault : Fault}
    (vacant : t.Vacant base path)
    (h : t.replaceFileWithin room base path text = (t', some fault)) :
    (∀ loc, t'.get? loc = t.get? loc) ∨
      fault = .noSpace ∧ CutOff room t base path text t' := by
  have unlinked : t.Unlinked base path := by
    intro beside target place
    simp [vacant beside place]
  obtain ⟨t', fault', eq, ⟨-, rfl⟩ | ⟨beside, place, ⟨done, -⟩ | ⟨-, get⟩ |
    ⟨full, n, bounded, long, get⟩⟩⟩ := replaceFileWithin_cases room text unlinked <;>
    cases h.symm.trans eq
  · exact .inl fun loc => rfl
  · cases done
  · refine .inl fun loc => ?_
    rw [get]
    split
    · rename_i eq
      rw [eq, vacant beside place]
    · rfl
  · cases full
    exact .inr ⟨rfl, beside, n, place, bounded, long, get⟩

end within

theorem not_cutOff_endless {path : Path} {text : Text} :
    ¬ CutOff .endless t base path text t' := by
  rintro ⟨beside, n, -, bounded, -⟩
  cases bounded

end FileTree
end Amalgam
