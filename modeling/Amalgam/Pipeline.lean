import Amalgam.Stage.Basic

/-! Pipelines: named lists of stages, found by name or alias. -/
namespace Amalgam

structure Pipeline where
  name : String
  description : String := ""
  aliases : List String := []
  /-- Run in this order, behind the merge. -/
  stages : List Stage := []
  deriving DecidableEq, Repr

/-- The pipeline of each name, and the name that each alias stands for. No key has two
entries. -/
structure Registry where
  entries : List (String × Pipeline) := []
  aliases : List (String × String) := []
  deriving DecidableEq, Repr

namespace Registry

def insert {α : Type} (key : String) (value : α) (entries : List (String × α)) :
    List (String × α) :=
  (key, value) :: entries.filter (·.1 != key)

def register (r : Registry) (p : Pipeline) : Registry :=
  ⟨insert p.name p r.entries, p.aliases.foldl (fun as a => insert a p.name as) r.aliases⟩

def pipelines (r : Registry) : List Pipeline :=
  (r.entries.map (·.2)).mergeSort fun p q => p.name ≤ q.name

def named? (r : Registry) (name : String) : Option Pipeline := r.entries.lookup name

/-- A name goes before an alias. -/
def get? (r : Registry) (name : String) : Option Pipeline :=
  match r.named? name with
  | some p => some p
  | none => (r.aliases.lookup name).bind r.named?

def standard : Registry :=
  (({} : Registry).register {
    name := "full"
    description := "Test harness: visibility + doc-log + annotation"
    stages := [.visibility, .docLog, .annotate] }).register {
    name := "source-under-test"
    description := "Production source: annotation only"
    aliases := ["sut"]
    stages := [.annotate] }

end Registry
end Amalgam
