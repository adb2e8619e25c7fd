import Amalgam.Proofs.FileTree.Joined
import Amalgam.Proofs.Include
import Amalgam.Proofs.Merge.Accounting
import Amalgam.Proofs.Merge.Resolution

/-! What a merge owes to its search paths. It asks them about includes and nothing else, so
search paths that give the same answers lead to the same merge; and a merge that had an answer
for each of its includes is the same with any search paths that keep these answers. -/
namespace Amalgam

namespace SearchPaths

theorem resolve?_append {disk : Disk} {dirs : List Path} {d : Directive} {path : Path}
    (found : resolve? ⟨dirs⟩ disk d = some path) (more : List Path) :
    resolve? ⟨dirs ++ more⟩ disk d = some path := by
  obtain ⟨first, here, settled⟩ := Option.map_eq_some_iff.mp found
  have there : (candidates ⟨dirs ++ more⟩ ⟨d.target⟩).find? disk.isFile = some first := by
    by_cases absolute : Path.isAbsolute ⟨d.target⟩
    · simpa [candidates, absolute] using here
    · have relative : (dirs.map (·.join ⟨d.target⟩)).find? disk.isFile = some first := by
        simpa [candidates, absolute] using here
      rw [candidates, if_neg absolute, List.map_append, List.find?_append, relative]
      rfl
  rw [resolve?, there, ← settled]
  rfl

end SearchPaths

namespace Merge
variable {disk : Disk} {search search' : SearchPaths}

section run
variable {file : Path} {number : Nat} {visited after : Visited} {events : List Event}

theorem Step.of_answers {l : SourceLine} {event : Event}
    (keeps : ∀ d path, search.resolve? disk d = some path → search'.resolve? disk d = some path)
    (step : Step disk search visited l event after)
    (resolved : ∀ site line, event ≠ .external site line) :
    Step disk search' visited l event after := by
  cases step with
  | pragmaOnce once => exact .pragmaOnce once
  | copied once plain => exact .copied once plain
  | external once parsed missing => exact absurd rfl (resolved _ _)
  | elided once parsed found known => exact .elided once parsed (keeps _ _ found) known
  | inlined once parsed found fresh => exact .inlined once parsed (keeps _ _ found) fresh

theorem Run.of_answers {ls : List Text}
    (keeps : ∀ d path, search.resolve? disk d = some path → search'.resolve? disk d = some path)
    (run : Run disk search file number ls visited events after)
    (resolved : ∀ site line, .external site line ∉ events) :
    Run disk search' file number ls visited events after := by
  induction run with
  | done file number visited => exact .done file number visited
  | line step quiet tail ih =>
    have here : ∀ site line, _ ≠ Event.external site line :=
      fun site line eq => resolved site line (eq ▸ List.mem_cons_self)
    have later := ih fun site line member => resolved site line (List.mem_cons_of_mem _ member)
    exact .line (step.of_answers keeps here) quiet later
  | inlined step read inner tail ihInner ihTail =>
    have inside := ihInner fun site line member => resolved site line (by simp [member])
    have later := ihTail fun site line member => resolved site line (by simp [member])
    exact .inlined (step.of_answers keeps (by simp)) read inside later

theorem lines_of_step {inner : Path → Text → Visited → Progress} {text : Text} {event : Event}
    (step : Step disk search visited ⟨file, number, text⟩ event after)
    (quiet : event.introduced? = none) (rest : List Text) :
    lines disk search inner file number (text :: rest) visited =
      (lines disk search inner file (number + 1) rest after).after [event] := by
  cases step with
  | pragmaOnce once => simp_all [lines]
  | copied once plain => simp_all [lines]
  | external once parsed missing => simp_all [lines]
  | elided once parsed found known => simp_all [lines]
  | inlined once parsed found fresh => cases quiet

theorem lines_of_inlined {inner : Path → Text → Visited → Progress} {text header : Text}
    {site : Site} {path : Path}
    (step : Step disk search visited ⟨file, number, text⟩ (.inlined site path) after)
    (read : readHeader disk path = .ok header) (rest : List Text) :
    lines disk search inner file number (text :: rest) visited =
      ((inner path header after).after [.inlined site path]).andThen fun visited =>
        (lines disk search inner file (number + 1) rest visited).after
          [.leave path, .resume file (number + 1)] := by
  cases step with
  | inlined once parsed found fresh => simp_all [lines]

/-- A run is found by any depth that is large enough. -/
theorem Run.lines_eq {ls : List Text} (run : Run disk search file number ls visited events after) :
    ∃ least, ∀ depth, least ≤ depth →
      lines disk search (Merge.file disk search depth) file number ls visited =
        ⟨events, after, none⟩ := by
  induction run with
  | done file number visited => exact ⟨0, fun depth _ => rfl⟩
  | line step quiet tail ih =>
    obtain ⟨least, enough⟩ := ih
    refine ⟨least, fun depth le => ?_⟩
    rw [lines_of_step step quiet, enough depth le]
    rfl
  | @inlined file path number _ header _ _ _ _ _ _ _ _ step read inner tail ihInner ihTail =>
    obtain ⟨least, enough⟩ := ihInner
    obtain ⟨least', enough'⟩ := ihTail
    refine ⟨max (least + 1) least', fun depth le => ?_⟩
    obtain ⟨outer, rfl⟩ : ∃ outer, depth = outer + 1 := ⟨depth - 1, by omega⟩
    have within := enough outer (by omega)
    have behind := enough' (outer + 1) (by omega)
    rw [lines_of_inlined step read, Merge.file, within]
    simp [Progress.after, Progress.andThen, behind]

end run

theorem source_of_run {root : Path} {text : Text} {events : List Event} {after : Visited}
    (run : Run disk search root 1 text.lines ⟨[root]⟩ events after) :
    source disk search root text = ⟨.origin root :: .enter root :: events, after, none⟩ := by
  obtain ⟨least, enough⟩ := run.lines_eq
  have deep := source_eq_file disk search root text
    (Nat.le_add_right ((results disk search text).card + 1) least)
  rw [← deep, Nat.add_right_comm, file, enough _ (by omega)]
  rfl

end Merge

/-- Search directories behind a list that left no include external are never asked: with them
the merge gives the same text and the same report. -/
theorem merge_append_dirs {disk : Disk} {dirs : List Path} {markers : MarkerSettings} {root : Path}
    {out : Output} (merged : merge disk ⟨dirs⟩ markers root = .ok out)
    (resolved : out.report.external = []) (more : List Path) :
    merge disk ⟨dirs ++ more⟩ markers root = .ok out := by
  unfold merge at merged ⊢
  cases opened : Merge.openRoot disk root with
  | error e =>
    rw [opened] at merged
    cases merged
  | ok found =>
    obtain ⟨path, text⟩ := found
    simp only [opened] at merged ⊢
    obtain ⟨succeeded, rfl⟩ := Progress.output_ok merged
    obtain ⟨events, eq, run⟩ := Merge.source_run succeeded
    have none : ∀ site line, .external site line ∉ events := by
      intro site line member
      have reported := (@Report.mem_external path _ site).mpr
        ⟨line, List.mem_cons_of_mem (.origin path) (List.mem_cons_of_mem (.enter path) member)⟩
      rw [eq] at resolved
      rw [resolved] at reported
      cases reported
    have again := Merge.source_of_run
      (run.of_answers (fun d p found => SearchPaths.resolve?_append found more) none)
    rw [mergeSource, again, eq]
    rfl

def shadowDisk : Disk :=
  .ofReadings (.ok (.ofString "/w")) [
    (.ofString "/w/m.c", .ok "#include \"a.h\"\n#include \"a.h\"\nint m;".toUTF8),
    (.ofString "/w/i/a.h", .ok "#include <b.h>\nint a;".toUTF8),
    (.ofString "/w/i/b.h", .ok "#include <a.h>".toUTF8),
    (.ofString "/w/j/a.h", .ok "int other;".toUTF8)]

theorem merge_append_dirs_shadowed : ∃ out,
    merge shadowDisk ⟨[.ofString "/w/i"]⟩ {} (.ofString "m.c") = .ok out ∧
      out.report.inlined = [.ofString "/w/i/a.h", .ofString "/w/i/b.h"] ∧
      out.report.external = [] ∧
      merge shadowDisk ⟨[.ofString "/w/i", .ofString "/w/j"]⟩ {} (.ofString "m.c") = .ok out := by
  have report : ((merge shadowDisk ⟨[.ofString "/w/i"]⟩ {} (.ofString "m.c")).toOption.map
      fun out => (out.report.inlined, out.report.external)) =
      some ([.ofString "/w/i/a.h", .ofString "/w/i/b.h"], []) := by decide +kernel
  cases merged : merge shadowDisk ⟨[.ofString "/w/i"]⟩ {} (.ofString "m.c") with
  | error e =>
    rw [merged] at report
    cases report
  | ok out =>
    rw [merged] at report
    obtain ⟨inlined, external⟩ := Prod.mk.inj (Option.some.inj report)
    exact ⟨out, rfl, inlined, external, merge_append_dirs merged external [.ofString "/w/j"]⟩

namespace Merge
variable {disk : Disk} {search search' : SearchPaths}

def Agree (disk : Disk) (search search' : SearchPaths) (text : Text) : Prop :=
  ∀ d ∈ Directive.all text, search.resolve? disk d = search'.resolve? disk d

/-- A text that a merge may come to read: that of the root, or that of a header to which an
include in such a text is resolved. -/
inductive Consulted (disk : Disk) (search : SearchPaths) (root : Path) : Text → Prop
  | root {path : Path} {text : Text} (opened : openRoot disk root = .ok (path, text)) :
      Consulted disk search root text
  | header {text header : Text} {d : Directive} {path : Path}
      (includer : Consulted disk search root text) (included : d ∈ Directive.all text)
      (resolved : search.resolve? disk d = some path)
      (read : readHeader disk path = .ok header) : Consulted disk search root header

theorem Consulted.mem_texts {root : Path} {text : Text} (h : Consulted disk search root text) :
    text ∈ disk.texts := by
  cases h with
  | root opened =>
    obtain ⟨cwd, -, -, read⟩ := openRoot_ok opened
    exact disk.mem_texts read
  | header includer included resolved read => exact disk.mem_texts (readText_of_readHeader read)

theorem lines_agree {inner inner' : Path → Text → Visited → Progress} {text : Text}
    (agree : Agree disk search search' text)
    (inside : ∀ d ∈ Directive.all text, ∀ path header visited,
      search.resolve? disk d = some path → readHeader disk path = .ok header →
        inner path header visited = inner' path header visited)
    {file : Path} {number : Nat} {ls : List Text} {visited : Visited}
    (own : ∀ l ∈ numbered file number ls, ∀ d, Directive.parse? l.text l.number = some d →
      d ∈ Directive.all text) :
    lines disk search inner file number ls visited =
      lines disk search' inner' file number ls visited := by
  induction ls generalizing number visited with
  | nil => rfl
  | cons line rest ih =>
    have later : ∀ visited, lines disk search inner file (number + 1) rest visited =
        lines disk search' inner' file (number + 1) rest visited :=
      fun visited => ih fun l member => own l (by simp [member])
    cases once : isPragmaOnce line with
    | true => simp [lines, once, later]
    | false =>
      cases parsed : Directive.parse? line number with
      | none => simp [lines, once, parsed, later]
      | some d =>
        have included := own ⟨file, number, line⟩ (by simp) d parsed
        have same := agree d included
        cases found : search'.resolve? disk d with
        | none => simp [lines, once, parsed, same, found, later]
        | some path =>
          cases fresh : visited.visit? path with
          | none => simp [lines, once, parsed, same, found, fresh, later]
          | some entered =>
            cases read : readHeader disk path with
            | error e => simp [lines, once, parsed, same, found, fresh, read]
            | ok header =>
              have within := inside d included path header entered (same.trans found) read
              simp [lines, once, parsed, same, found, fresh, read, later, within]

theorem file_agree {root : Path}
    (agree : ∀ text, Consulted disk search root text → Agree disk search search' text)
    {depth : Nat} {path : Path} {text : Text} {visited : Visited}
    (consulted : Consulted disk search root text) :
    file disk search depth path text visited = file disk search' depth path text visited := by
  induction depth generalizing path text visited with
  | zero => rfl
  | succ depth ih =>
    have within : lines disk search (file disk search depth) path 1 text.lines visited =
        lines disk search' (file disk search' depth) path 1 text.lines visited := by
      refine lines_agree (agree text consulted) ?_ fun l member d => mem_all member
      intro d included inner header visited resolved read
      exact ih (.header consulted included resolved read)
    rw [file, within, file]

theorem merge_agree {root : Path}
    (agree : ∀ text, Consulted disk search root text → Agree disk search search' text)
    (markers : MarkerSettings) :
    merge disk search markers root = merge disk search' markers root := by
  unfold merge
  cases opened : openRoot disk root with
  | error e => rfl
  | ok found =>
    obtain ⟨path, text⟩ := found
    -- The two bounds on the depth may differ; there is a depth that is enough for both.
    obtain ⟨depth, enough, enough'⟩ : ∃ depth, (results disk search text).card + 1 ≤ depth ∧
        (results disk search' text).card + 1 ≤ depth :=
      ⟨_, Nat.le_max_left _ _, Nat.le_max_right _ _⟩
    have same : source disk search path text = source disk search' path text := by
      rw [← source_eq_file disk search path text enough,
        ← source_eq_file disk search' path text enough', file_agree agree (.root opened)]
    simp only [mergeSource, same]

end Merge

namespace SearchPaths
variable {t : FileTree} {base : WorkingDir} {dirs : List Path} {d : Directive}

/-- Of the two spellings of a directory, as it is given and as seen from the root, both can be
opened with a target joined to them, or neither. -/
def FitAlike (base : WorkingDir) (target dir : Path) : Prop :=
  FileTree.maxPath ≤ Text.byteLen (dir.join target).text ↔
    FileTree.maxPath ≤
      Text.byteLen ((dir.absolutize (FileTree.pathOf base.location)).join target).text

instance (base : WorkingDir) (target dir : Path) : Decidable (FitAlike base target dir) :=
  inferInstanceAs (Decidable (_ ↔ _))

theorem candidate_absolutize (within : base.Within t) (free : t.LinkFree) {dir target : Path}
    {loc : Location} (there : t.DirectoryAt base dir loc) (relative : target.isAbsolute = false)
    (ne : target.text ≠ []) (fits : FitAlike base target dir) :
    (t.disk base).isFile ((dir.absolutize (FileTree.pathOf base.location)).join target) =
        (t.disk base).isFile (dir.join target) ∧
      ((t.disk base).isFile (dir.join target) = true →
        settle (t.disk base) ((dir.absolutize (FileTree.pathOf base.location)).join target) =
          settle (t.disk base) (dir.join target)) := by
  have same : ∀ d, t.locate base ((dir.absolutize (FileTree.pathOf base.location)).join target) =
      .ok d ↔ t.locate base (dir.join target) = .ok d :=
    fun d => FileTree.locate_absolutize_join within free there relative ne fits
  constructor
  · rw [Bool.eq_iff_iff, FileTree.isFile_iff, FileTree.isFile_iff]
    constructor
    · rintro ⟨d, located, file⟩
      exact ⟨d, (same d).mp located, file⟩
    · rintro ⟨d, located, file⟩
      exact ⟨d, (same d).mpr located, file⟩
  · intro isFile
    obtain ⟨d, located, -⟩ := FileTree.isFile_iff.mp isFile
    rw [settle, settle, FileTree.disk_cwd within.toEntered]
    exact (FileTree.absolutize_pathOf within.toEntered free ((same d).mpr located)).trans
      (FileTree.absolutize_pathOf within.toEntered free located).symm

theorem resolve?_withBase (within : base.Within t) (free : t.LinkFree)
    (there : ∀ dir ∈ dirs, ∃ loc, t.DirectoryAt base dir loc) (ne : d.target ≠ [])
    (fits : ∀ dir ∈ dirs, FitAlike base ⟨d.target⟩ dir) :
    (withBase dirs (FileTree.pathOf base.location)).resolve? (t.disk base) d =
      resolve? ⟨dirs⟩ (t.disk base) d := by
  unfold resolve? candidates
  by_cases absolute : Path.isAbsolute ⟨d.target⟩
  · rw [if_pos absolute, if_pos absolute]
  rw [if_neg absolute, if_neg absolute, withBase]
  induction dirs with
  | nil => rfl
  | cons dir dirs ih =>
    obtain ⟨loc, here⟩ := there dir List.mem_cons_self
    obtain ⟨probed, settled⟩ := candidate_absolutize within free here
      (Bool.eq_false_iff.mpr absolute) ne (fits dir List.mem_cons_self)
    have later := ih (fun dir member => there dir (List.mem_cons_of_mem _ member))
      fun dir member => fits dir (List.mem_cons_of_mem _ member)
    simp only [List.map_cons, List.find?_cons, probed]
    cases isFile : (t.disk base).isFile (dir.join ⟨d.target⟩) with
    | true => simp [settled isFile]
    | false => exact later

end SearchPaths

def besideTree : FileTree where
  entries := [(["w".toList], .directory), (["w".toList, "i".toList], .directory),
    (["w".toList, "h".toList], .file "int h;".toUTF8),
    (["w".toList, "m".toList], .file "#include <../h>\n#include <./.././/h>".toUTF8)]

def besideDir : WorkingDir := { location := ["w".toList] }

/-- A directory, spelled with as many slashes as a path has room for. -/
def slashedDir : Path := ⟨'d' :: List.replicate 4094 '/'⟩

def slashedTree : FileTree where
  entries := [(["d".toList], .directory), (["d".toList, "h".toList], .file "int h;".toUTF8),
    (["m".toList], .file "#include <h>".toUTF8)]

end Amalgam
