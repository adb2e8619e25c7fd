import Amalgam.Proofs.FileTree.Rooted
import Amalgam.Proofs.Merge.Termination

/-! What is probed is what is read. An include is resolved to the path of the location at
which it was found, so a merge that has read its root fails only at what a header holds, or at
a header that was found from the working directory and cannot be opened from the root: its path
is too long, or it or a directory above it may not be opened. -/
namespace Amalgam

namespace FileTree
variable {t : FileTree} {base : WorkingDir} {p q : Path} {loc : Location}

structure Denotes (t : FileTree) (base : WorkingDir) (p : Path) (loc : Location) : Prop where
  located : t.locate base p = .ok loc
  file : ∃ content, t.content? loc = some content

theorem isFile_iff : (t.disk base).isFile p = true ↔ ∃ loc, t.Denotes base p loc := by
  simp only [disk, isFile]
  cases located : t.locate base p with
  | error e => exact ⟨nofun, fun ⟨_, denotes⟩ => nomatch located.symm.trans denotes.located⟩
  | ok loc =>
    rw [Option.isSome_iff_exists]
    constructor
    · exact fun file => ⟨loc, located, file⟩
    · rintro ⟨loc', located', file⟩
      cases located.symm.trans located'
      exact file

/-- The file at a location, or a directory above it, may not be opened. -/
def Barred (t : FileTree) (loc : Location) : Prop :=
  ¬ t.Reachable loc ∨ ∃ content, t.get? loc = some (.locked content)

theorem read_congr (h : t.locate base p = .ok loc) (h' : t.locate base q = .ok loc) :
    t.read base p = t.read base q := by
  rw [read, read, h, h']

theorem read_pathOf (base : WorkingDir) (rooted : Rooted t loc) (free : t.LinkFree)
    {content : ByteArray} (file : t.content? loc = some content) :
    t.read base (pathOf loc) = .ok content ∨
      t.read base (pathOf loc) = .error .nameTooLong ∧ maxPath ≤ Text.byteLen (pathOf loc).text ∨
      t.read base (pathOf loc) = .error .denied ∧ t.Barred loc := by
  obtain ⟨e, there, holds⟩ := Option.bind_eq_some_iff.mp file
  by_cases long : maxPath ≤ Text.byteLen (pathOf loc).text
  · refine .inr (.inl ⟨?_, long⟩)
    rw [read, locate_pathOf rooted, if_pos long]
  have short := Nat.lt_of_not_le long
  by_cases reach : t.Reachable loc
  · have located : t.locate base (pathOf loc) = .ok loc :=
      locate_pathOf_reachable rooted free short reach there
    cases e with
    | file content' =>
      cases holds
      refine .inl ?_
      simp [read, located, there]
    | locked content' =>
      refine .inr (.inr ⟨?_, .inr ⟨content', there⟩⟩)
      simp [read, located, there]
    | directory | closed | link target => cases holds
  · refine .inr (.inr ⟨?_, .inl reach⟩)
    rw [read, locate_pathOf_denied rooted short reach]

theorem disk_cwd (entered : base.Entered t) : (t.disk base).cwd = .ok (pathOf base.location) := by
  simp [disk, entered.present]

end FileTree

namespace SearchPaths
variable {s : SearchPaths} {t : FileTree} {base : WorkingDir} {d : Directive} {p : Path}

theorem resolve?_some (entered : base.Entered t) (free : t.LinkFree)
    (h : s.resolve? (t.disk base) d = some p) :
    ∃ before found after loc, s.candidates ⟨d.target⟩ = before ++ found :: after ∧
      (∀ q ∈ before, ∀ loc, ¬ t.Denotes base q loc) ∧ t.Denotes base found loc ∧
      t.Rooted loc ∧ p = FileTree.pathOf loc := by
  obtain ⟨found, first, settled⟩ := Option.map_eq_some_iff.mp h
  obtain ⟨isFile, before, after, candidates, others⟩ := List.find?_eq_some_iff_append.mp first
  obtain ⟨loc, denotes⟩ := FileTree.isFile_iff.mp isFile
  have rooted := FileTree.locate_rooted entered free denotes.located
  have path : p = FileTree.pathOf loc := by
    rw [← settled, settle, FileTree.disk_cwd entered]
    exact FileTree.absolutize_pathOf entered free denotes.located
  refine ⟨before, found, after, loc, candidates, fun q member loc' denotes' => ?_, denotes,
    rooted, path⟩
  have missed := others q member
  rw [FileTree.isFile_iff.mpr ⟨loc', denotes'⟩] at missed
  cases missed

theorem resolve?_none (h : s.resolve? (t.disk base) d = none) {q : Path}
    (member : q ∈ s.candidates ⟨d.target⟩) (loc : Location) : ¬ t.Denotes base q loc := by
  intro denotes
  have missed := List.find?_eq_none.mp (Option.map_eq_none_iff.mp h) q member
  exact missed (FileTree.isFile_iff.mpr ⟨loc, denotes⟩)

end SearchPaths

namespace Merge
variable {disk : Disk} {search : SearchPaths} {e : MergeError}

theorem readHeader_error {path : Path} (h : readHeader disk path = .error e) :
    (∃ fault, disk.read path = .error fault ∧ e = .read path fault) ∨
      e = .read path .notUtf8 ∨ e = .emptyHeader path := by
  rw [readHeader, Disk.readText] at h
  cases read : disk.read path with
  | error fault =>
    rw [read] at h
    cases h
    exact .inl ⟨fault, rfl, rfl⟩
  | ok content =>
    cases decoded : Disk.decode content with
    | none =>
      simp only [read, decoded] at h
      cases h
      exact .inr (.inl rfl)
    | some header =>
      simp only [read, decoded] at h
      cases header with
      | nil =>
        cases h
        exact .inr (.inr rfl)
      | cons c header => cases h

/-- A header that an include is resolved to cannot be read, or it is empty. -/
def Unread (disk : Disk) (search : SearchPaths) (e : MergeError) : Prop :=
  ∃ d path, search.resolve? disk d = some path ∧ readHeader disk path = .error e

theorem lines_failure {inner : Path → Text → Visited → Progress}
    (inside : ∀ path header visited e, (inner path header visited).failure = some e →
      e = .nesting ∨ Unread disk search e)
    {file : Path} {number : Nat} {ls : List Text} {visited : Visited}
    (h : (lines disk search inner file number ls visited).failure = some e) :
    e = .nesting ∨ Unread disk search e := by
  induction ls generalizing number visited with
  | nil => cases h
  | cons text rest ih =>
    rcases lines_cases disk search file number text rest visited with
      ⟨event, -, -, eq⟩ | ⟨site, path, entered, e', step, unread, eq⟩ |
      ⟨site, path, entered, header, -, -, eq⟩
    · rw [eq] at h
      exact ih h
    · rw [eq] at h
      cases h
      cases step with
      | inlined once parsed found fresh => exact .inr ⟨_, path, found, unread⟩
    · rw [eq] at h
      cases failed : (inner path header entered).failure with
      | some e' =>
        rw [Progress.andThen_failed failed] at h
        exact inside path header entered e h
      | none =>
        rw [Progress.andThen_done failed] at h
        exact ih h

theorem file_failure {depth : Nat} {path : Path} {text : Text} {visited : Visited}
    (h : (file disk search depth path text visited).failure = some e) :
    e = .nesting ∨ Unread disk search e := by
  induction depth generalizing path text visited e with
  | zero =>
    cases h
    exact .inl rfl
  | succ depth ih => exact lines_failure (fun path header visited e failed => ih failed) h

theorem mergeSource_error {markers : MarkerSettings} {root : Path} {text : Text}
    (h : mergeSource disk search markers root text = .error e) : Unread disk search e := by
  rw [mergeSource, Progress.output] at h
  split at h
  · rename_i failed
    cases h
    cases file_failure failed with
    | inl nesting => exact absurd (nesting ▸ failed) (source_ne_nesting disk search root text)
    | inr unread => exact unread
  · cases h

end Merge

def aboveTree : FileTree where
  entries := [(["d".toList], .closed), (["h".toList], .file ⟨#[0xff]⟩),
    (["m".toList], .file "#include <h>".toUTF8)]

def aboveDir : WorkingDir := { location := ["d".toList] }

def aboveSearch : SearchPaths := ⟨[.ofString ".", .ofString "/d/..", .ofString "//.//"]⟩

/-- Sixteen directories in each other, each name of 63 characters of four bytes. -/
def deepDirs : Location :=
  ["tmp".toList, "vfs-0000000000".toList] ++ List.replicate 16 (List.replicate 63 '𝄞')

def deepHeader : Text := List.replicate 15 '𝄞'

def deepSource : Text := "#include <".toList ++ deepHeader ++ ['>']

def deepTree : FileTree where
  entries := ((List.range 18).map fun k => (deepDirs.take (k + 1), .directory)) ++
    [(deepDirs ++ [deepHeader], .file "int h;".toUTF8),
      (deepDirs.take 2 ++ ["m.c".toList], .file (String.ofList deepSource).toUTF8)]

def deepDir : WorkingDir := { location := deepDirs }

def lockedTree : FileTree where
  entries := [(["h".toList], .locked "int h;".toUTF8), (["m".toList], .file "#include <h>".toUTF8)]

def closedTree : FileTree where
  entries := [(["d".toList], .closed), (["d".toList, "w".toList], .directory),
    (["d".toList, "w".toList, "h".toList], .file "int h;".toUTF8),
    (["m".toList], .file "#include <h>".toUTF8)]

def closedDir : WorkingDir := { location := ["d".toList, "w".toList] }

end Amalgam
