import Amalgam.Disk
import Amalgam.Include

/-! Search paths: the directories in which included files are looked for. -/
namespace Amalgam

structure SearchPaths where
  dirs : List Path
  deriving DecidableEq, Repr

namespace SearchPaths

def withBase (dirs : List Path) (base : Path) : SearchPaths := ⟨dirs.map (·.absolutize base)⟩

def candidates (s : SearchPaths) (target : Path) : List Path :=
  if target.isAbsolute then [target] else s.dirs.map (·.join target)

/-- Where a file that was found is read from, and the name it goes by. -/
def settle (disk : Disk) (found : Path) : Path :=
  match disk.cwd with
  | .ok cwd => found.absolutize cwd
  | .error _ => found.normalize

/-- The first candidate that is a file. Without one the header is left to the compiler. -/
def resolve? (s : SearchPaths) (disk : Disk) (d : Directive) : Option Path :=
  ((s.candidates ⟨d.target⟩).find? disk.isFile).map (settle disk)

end SearchPaths
end Amalgam
