import Amalgam.Disk

/-! A tree of files, directories and symbolic links, and how paths are resolved in
it. Each entry is kept under its location, the names that lead to it from the
root; the root itself always is a directory that may be entered. -/
namespace Amalgam

abbrev Location := List Text

inductive Entry where
  | file (content : ByteArray)
  /-- A file that may not be opened. -/
  | locked (content : ByteArray)
  | directory
  /-- A directory that may be neither opened nor entered: no name in it can be looked up. -/
  | closed
  | link (target : Path)

namespace Entry

def content? : Entry → Option ByteArray
  | .file content | .locked content => some content
  | _ => none

def isDirectory : Entry → Bool
  | .directory | .closed => true
  | _ => false

end Entry

structure FileTree where
  entries : List (Location × Entry) := []

/-- Where relative paths start. The directory may have been removed since it was
entered. -/
structure WorkingDir where
  location : Location := []
  removed : Bool := false
  deriving DecidableEq, Repr

namespace FileTree

def get? (t : FileTree) : Location → Option Entry
  | [] => some .directory
  | loc => t.entries.lookup loc

def content? (t : FileTree) (loc : Location) : Option ByteArray :=
  (t.get? loc).bind Entry.content?

def erase (t : FileTree) (loc : Location) : FileTree :=
  ⟨t.entries.filter (·.1 != loc)⟩

def set (t : FileTree) (loc : Location) (e : Entry) : FileTree :=
  ⟨(loc, e) :: (t.erase loc).entries⟩

def maxName : Nat := 255

/-- Paths have fewer bytes than this. -/
def maxPath : Nat := 4096

def maxLinks : Nat := 40

/-- The names that lead along a path. A slash at the end asks for a directory, and
counts as an empty name. -/
def steps (p : Path) : List Text :=
  if p.text.getLast? == some '/' && !p.pieces.isEmpty then p.pieces ++ [[]] else p.pieces

/-- Goes on from a directory along names, links included. `follow` goes on behind a
link. A missing last name is an answer if `create` is set; then it cannot have a
slash behind it. -/
def walkWith (t : FileTree) (create : Bool)
    (follow : Location → List Text → Except Fault Location) :
    Location → List Text → Except Fault Location
  | loc, [] => .ok loc
  | loc, n :: rest =>
    match t.get? loc with
    | some .directory =>
      if n == [] || n == ['.'] then walkWith t create follow loc rest
      else if n == ['.', '.'] then walkWith t create follow loc.dropLast rest
      else if create && rest == [[]] then .error .isADirectory
      else if Text.byteLen n > maxName then .error .nameTooLong
      else
        let child := loc ++ [n]
        match t.get? child with
        | none => if create && rest.isEmpty then .ok child else .error .notFound
        | some (.link target) =>
          follow (if target.isAbsolute then [] else loc) (steps target ++ rest)
        | some _ => walkWith t create follow child rest
    | some .closed => .error .denied
    | some _ => .error .notADirectory
    | none => .error .notFound

def walk (t : FileTree) (create : Bool) : (links : Nat) → Location → List Text →
    Except Fault Location
  | 0 => t.walkWith create fun _ _ => .error .tooManyLinks
  | links + 1 => t.walkWith create (walk t create links)

def check (p : Path) : Except Fault Unit :=
  if p.text.contains (Char.ofNat 0) then .error .nulInName
  else if p.text.isEmpty then .error .notFound
  else if maxPath ≤ Text.byteLen p.text then .error .nameTooLong
  else .ok ()

/-- Where the names along a path start, and those still to go. Nothing is found in a
directory that was removed, though `..` still leads out of it. -/
def origin (base : WorkingDir) (p : Path) (names : List Text) :
    Except Fault (Location × List Text) :=
  if p.isAbsolute then .ok ([], names)
  else if base.removed then
    match names.dropWhile fun n => n == [] || n == ['.'] with
    | [] => .ok (base.location, [])
    | n :: rest =>
      if n == ['.', '.'] then .ok (base.location.dropLast, rest) else .error .notFound
  else .ok (base.location, names)

def locate (t : FileTree) (base : WorkingDir) (p : Path) (create : Bool := false) :
    Except Fault Location := do
  check p
  let (start, names) ← origin base p (steps p)
  t.walk create maxLinks start names

/-- Whether a path leads to a file. Nothing is opened for that. -/
def isFile (t : FileTree) (base : WorkingDir) (p : Path) : Bool :=
  match t.locate base p with
  | .ok loc => (t.content? loc).isSome
  | .error _ => false

def read (t : FileTree) (base : WorkingDir) (p : Path) : Except Fault ByteArray :=
  match t.locate base p with
  | .error e => .error e
  | .ok loc =>
    match t.get? loc with
    | some (.file content) => .ok content
    | some (.locked _) | some .closed => .error .denied
    | some .directory => .error .isADirectory
    | some (.link _) => .error .tooManyLinks
    | none => .error .notFound

/-- Where a file is written, a new one or over an old one; a link is followed. -/
def writable (t : FileTree) (base : WorkingDir) (p : Path) : Except Fault Location := do
  let loc ← t.locate base p true
  match t.get? loc with
  | some .directory | some .closed => .error .isADirectory
  | some (.locked _) => .error .denied
  | _ => .ok loc

def write (t : FileTree) (base : WorkingDir) (p : Path) (content : ByteArray) :
    Except Fault FileTree := do
  .ok (t.set (← t.writable base p) (.file content))

/-- How many bytes a file can take at a location of a tree, if there is an end to it. -/
abbrev Room := FileTree → Location → Option Nat

def Room.endless : Room := fun _ _ => none

/-- Writes a file as far as there is room for it. Gives the tree as it then is, and what
went wrong: a file that does not fit is left cut off. -/
def writeWithin (room : Room) (t : FileTree) (base : WorkingDir) (p : Path)
    (content : ByteArray) : FileTree × Option Fault :=
  match t.writable base p with
  | .error e => (t, some e)
  | .ok loc =>
    match room t loc with
    | none => (t.set loc (.file content), none)
    | some n =>
      if content.size ≤ n then (t.set loc (.file content), none)
      else (t.set loc (.file (content.extract 0 n)), some .noSpace)

def place (t : FileTree) (base : WorkingDir) (p : Path) : Except Fault Location := do
  check p
  let (start, names) ← origin base p p.pieces
  match names.getLast? with
  | none => .error .busy
  | some n =>
    let loc ← t.walk false maxLinks start names.dropLast
    match t.get? loc with
    | some .directory =>
      if n == ['.'] || n == ['.', '.'] then .error .busy
      else if Text.byteLen n > maxName then .error .nameTooLong
      else .ok (loc ++ [n])
    | some .closed => .error .denied
    | some _ => .error .notADirectory
    | none => .error .notFound

def rename (t : FileTree) (base : WorkingDir) (p q : Path) : Except Fault FileTree := do
  let source ← t.place base p
  let target ← t.place base q
  match t.get? source with
  | none => .error .notFound
  | some e =>
    if q.text.getLast? == some '/' then .error .notADirectory
    else if ((t.get? target).map Entry.isDirectory).getD false then .error .isADirectory
    else .ok ((t.erase source).set target e)

def remove (t : FileTree) (base : WorkingDir) (p : Path) : Except Fault FileTree := do
  let loc ← t.place base p
  match t.get? loc with
  | none => .error .notFound
  | some e => if e.isDirectory then .error .isADirectory else .ok (t.erase loc)

def link (t : FileTree) (base : WorkingDir) (p target : Path) : Except Fault FileTree := do
  let loc ← t.place base p
  .ok (t.set loc (.link target))

def makeDir (t : FileTree) (base : WorkingDir) (p : Path) : Except Fault FileTree :=
  match t.locate base p with
  | .ok _ => .ok t
  | .error .notFound => do
    let loc ← t.place base p
    .ok (t.set loc .directory)
  | .error e => .error e

def makeDirs (t : FileTree) (base : WorkingDir) (p : Path) : Except Fault FileTree :=
  let start : List Path.Component := if p.isAbsolute then [.root] else []
  let paths := (List.range p.pieces.length).map fun i =>
    Path.ofComponents (start ++ (p.pieces.take (i + 1)).map .name)
  paths.foldlM (fun t p => t.makeDir base p) t

def contents (t : FileTree) : List ByteArray :=
  t.entries.filterMap fun
    | (_, .file content) => some content
    | _ => none

def files (t : FileTree) : List (Location × ByteArray) :=
  t.entries.filterMap fun (loc, e) => e.content?.map (loc, ·)

/-- The regular files that differ between two trees: the new content, nothing for a
file that is gone. -/
def changes (old new : FileTree) : List (Location × Option ByteArray) :=
  let altered := new.files.filter fun (loc, content) =>
    (old.content? loc).map (·.data) != some content.data
  let gone := old.files.filter fun (loc, _) => !(new.files.any (·.1 == loc))
  altered.map (fun (loc, content) => (loc, some content)) ++ gone.map fun (loc, _) => (loc, none)

theorem get?_file_mem {t : FileTree} {loc : Location} {b : ByteArray}
    (h : t.get? loc = some (.file b)) : b ∈ t.contents := by
  cases loc with
  | nil => simp [get?] at h
  | cons n ns =>
    obtain ⟨l, r, he, _⟩ := List.lookup_eq_some_iff.1 h
    exact List.mem_filterMap.2 ⟨(n :: ns, .file b), by simp [he], rfl⟩

theorem read_mem {t : FileTree} {base : WorkingDir} {p : Path} {b : ByteArray}
    (h : t.read base p = .ok b) : b ∈ t.contents := by
  unfold read at h
  split at h
  · simp at h
  · split at h <;> simp_all
    exact get?_file_mem (by assumption)

def pathOf (loc : Location) : Path := .ofComponents (.root :: loc.map .name)

/-- What can be found and read from a working directory. One that was removed has no path. -/
def disk (t : FileTree) (base : WorkingDir) : Disk where
  cwd := if base.removed then .error .notFound else .ok (pathOf base.location)
  isFile := t.isFile base
  read := t.read base
  contents := t.contents
  read_mem := read_mem

end FileTree
end Amalgam
