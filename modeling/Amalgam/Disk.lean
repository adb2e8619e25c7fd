import Amalgam.Path

/-! What can be found and read: a working directory and files by path, as the
operating system resolves paths, together with why reading may fail. A file that is
found may still not be readable. -/
namespace Amalgam

inductive Fault where
  | notFound | denied | busy | notADirectory | isADirectory | noSpace | nameTooLong
  | tooManyLinks | nulInName | notUtf8
  deriving DecidableEq, Repr

def Fault.message : Fault → String
  | .notFound => "No such file or directory (os error 2)"
  | .denied => "Permission denied (os error 13)"
  | .busy => "Device or resource busy (os error 16)"
  | .notADirectory => "Not a directory (os error 20)"
  | .isADirectory => "Is a directory (os error 21)"
  | .noSpace => "No space left on device (os error 28)"
  | .nameTooLong => "File name too long (os error 36)"
  | .tooManyLinks => "Too many levels of symbolic links (os error 40)"
  | .nulInName => "file name contained an unexpected NUL byte"
  | .notUtf8 => "stream did not contain valid UTF-8"

/-- A view for reading. There are finitely many contents, though each may be found
under many paths. -/
structure Disk where
  cwd : Except Fault Path
  isFile : Path → Bool
  read : Path → Except Fault ByteArray
  contents : List ByteArray
  read_mem : ∀ {p b}, read p = .ok b → b ∈ contents

namespace Disk

/-- A disk known by what was read from it, and by the files that were found and could
not be read; other paths count as missing. -/
def ofReadings (cwd : Except Fault Path) (readings : List (Path × Except Fault ByteArray))
    (locked : List Path := []) : Disk where
  cwd := cwd
  isFile := fun p => ((readings.lookup p).bind Except.toOption).isSome || locked.contains p
  read := fun p => (readings.lookup p).getD (.error .notFound)
  contents := readings.filterMap (·.2.toOption)
  read_mem := by
    intro p b h
    cases hl : readings.lookup p with
    | none => simp [hl] at h
    | some r =>
      obtain ⟨l, rest, he, _⟩ := List.lookup_eq_some_iff.1 hl
      simp only [hl, Option.getD_some] at h
      exact List.mem_filterMap.2 ⟨(p, r), by simp [he], by simp [h, Except.toOption]⟩

def decode (b : ByteArray) : Option Text := (String.fromUTF8? b).map String.toList

def readText (d : Disk) (p : Path) : Except Fault Text :=
  match d.read p with
  | .error e => .error e
  | .ok b =>
    match decode b with
    | some t => .ok t
    | none => .error .notUtf8

def texts (d : Disk) : List Text := d.contents.filterMap decode

end Disk
end Amalgam
