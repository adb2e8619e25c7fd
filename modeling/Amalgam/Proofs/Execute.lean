import Mathlib.Data.List.Basic
import Amalgam.Proofs.FileTree.Replace

/-! What a run to files leaves behind. A run that fails before it writes changes nothing. One
that succeeds leaves its output and its report, if the two do not get in each other's way and
no other file stands where one of them is written first. A report that cannot be written is
noticed too late: the output is there by then. -/
namespace Amalgam
open FileTree

namespace Executor
variable {room : Room} {x : Executor} {t t' : FileTree} {base : WorkingDir} {name : String}
  {root : Path} {search : SearchPaths} {output : Path} {report : Option Path}

theorem executeToFileWithin_error {e : PipelineError}
    (h : x.executeToFileWithin room t base name root search output report = (t', .error e)) :
    ((∀ path fault, e ≠ .write path fault) ∧ t' = t) ∨
      ∃ result, x.execute (t.disk base) name root search = .ok result ∧
        ((∃ fault, e = .write output fault ∧
            t.replaceFileWithin room base output result.text = (t', some fault)) ∨
          ∃ path fault written, report = some path ∧ e = .write path fault ∧
            t.replaceFileWithin room base output result.text = (written, none) ∧
            written.replaceFileWithin room base path result.report.json = (t', some fault)) := by
  unfold executeToFileWithin at h
  split at h
  · rename_i cause failed
    cases h
    refine .inl ⟨?_, rfl⟩
    rintro path fault rfl
    unfold execute at failed
    split at failed
    · cases failed
    · split at failed
      · cases failed
      · split at failed <;> cases failed
  · rename_i result ran
    refine .inr ⟨result, ran, ?_⟩
    unfold writeAllWithin at h
    split at h
    · rename_i failed
      cases h
      exact .inl ⟨_, rfl, failed⟩
    · rename_i written wrote
      split at h
      · cases h
      · split at h
        · rename_i failed
          cases h
          exact .inr ⟨_, _, written, rfl, rfl, wrote, failed⟩
        · cases h

theorem executeToFileWithin_ok {path : Path} {result : Output}
    (h : x.executeToFileWithin room t base name root search output (some path) =
      (t', .ok result)) :
    ∃ written, t.replaceFileWithin room base output result.text = (written, none) ∧
      written.replaceFileWithin room base path result.report.json = (t', none) := by
  unfold executeToFileWithin at h
  split at h
  · cases h
  · unfold writeAllWithin at h
    split at h
    · cases h
    · rename_i written wrote
      simp only at h
      split at h
      · cases h
      · rename_i reported
        cases h
        exact ⟨written, wrote, reported⟩

/-- What a run that fails leaves behind where room may run out. Beside a file that does not
fit, what fitted of it stays; and if it is the report, the output is there as well. -/
theorem executeToFileWithin_failed {e : PipelineError}
    (failed : x.executeToFileWithin room t base name root search output report =
      (t', .error e)) :
    ((∀ path fault, e ≠ .write path fault) → t' = t) ∧
      (t.Vacant base output →
        (∀ loc, t'.get? loc = t.get? loc) ∨
          (∃ result : Output, e = .write output .noSpace ∧
            CutOff room t base output result.text t') ∨
          ∃ path fault result written, report = some path ∧ e = .write path fault ∧
            x.execute (t.disk base) name root search = .ok result ∧
            t.replaceFileWithin room base output result.text = (written, none) ∧
            (written.Vacant base path → (∀ loc, t'.get? loc = written.get? loc) ∨
              fault = .noSpace ∧ CutOff room written base path result.report.json t')) := by
  obtain ⟨-, rfl⟩ | ⟨result, ran, ⟨fault, rfl, failure⟩ |
    ⟨path, fault, written, rfl, rfl, wrote, failure⟩⟩ := executeToFileWithin_error failed
  · exact ⟨fun _ => rfl, fun _ => .inl fun _ => rfl⟩
  · refine ⟨fun other => absurd rfl (other _ _), fun vacant => ?_⟩
    obtain same | ⟨rfl, cut⟩ := replaceFileWithin_failed vacant failure
    · exact .inl same
    · exact .inr (.inl ⟨result, rfl, cut⟩)
  · exact ⟨fun other => absurd rfl (other _ _), fun _ => .inr (.inr
      ⟨path, fault, result, written, rfl, rfl, ran, wrote,
        fun vacant => replaceFileWithin_failed vacant failure⟩)⟩

/-- A run that fails before it writes leaves the tree as it is. If nothing stands where the
output is written first, a run that fails changes nothing at all, unless it is the report
that cannot be written: the output is there then, and nothing else has changed. -/
theorem executeToFile_failed {e : PipelineError}
    (failed : x.executeToFile t base name root search output report = (t', .error e)) :
    ((∀ path fault, e ≠ .write path fault) → t' = t) ∧
      (t.Vacant base output →
        (∀ loc, t'.get? loc = t.get? loc) ∨
          ∃ path fault result written, report = some path ∧ e = .write path fault ∧
            x.execute (t.disk base) name root search = .ok result ∧
            t.replaceFile base output result.text = (written, none) ∧
            (written.Vacant base path → ∀ loc, t'.get? loc = written.get? loc)) := by
  obtain ⟨early, late⟩ := executeToFileWithin_failed failed
  refine ⟨early, fun vacant => ?_⟩
  obtain same | ⟨result, -, cut⟩ | ⟨path, fault, result, written, reported, rfl, ran, wrote, after⟩ :=
    late vacant
  · exact .inl same
  · exact absurd cut not_cutOff_endless
  · refine .inr ⟨path, fault, result, written, reported, rfl, ran, wrote, fun free => ?_⟩
    exact (after free).resolve_right fun ⟨_, cut⟩ => not_cutOff_endless cut

end Executor

def withSource (others : List (Location × Entry)) : FileTree :=
  ⟨(["m".toList], .file .empty) :: others⟩

def runSource (t : FileTree) (output : String) (report : Option String) :
    FileTree × Except PipelineError Output :=
  ({} : Executor).executeToFile t {} "sut" (.ofString "m") ⟨[]⟩ (.ofString output)
    (report.map .ofString)

/-- The output cannot take the place of a directory, and what was written beside is gone. -/
theorem executeToFile_failed_directory :
    (runSource (withSource [(["o".toList], .directory)]) "o" none).2 =
        .error (.write (.ofString "o") .isADirectory) ∧
      ∀ loc, (runSource (withSource [(["o".toList], .directory)]) "o" none).1.get? loc =
        (withSource [(["o".toList], .directory)]).get? loc := by
  have failed : (runSource (withSource [(["o".toList], .directory)]) "o" none).2 =
      .error (.write (.ofString "o") .isADirectory) := by decide +kernel
  have vacant : (withSource [(["o".toList], .directory)]).Vacant {} (.ofString "o") := by
    intro beside place
    have there : (withSource [(["o".toList], .directory)]).place {} (staging (.ofString "o")) =
        .ok ["o.tmp".toList] := by decide +kernel
    cases place.symm.trans there
    rfl
  obtain ⟨-, unchanged⟩ := Executor.executeToFile_failed (Prod.ext rfl failed)
  obtain same | ⟨path, fault, result, written, reported, -⟩ := unchanged vacant
  · exact ⟨failed, same⟩
  · cases reported

/-- Two runs that fail and change files: the report has no directory to go to, and the output
is there; the output cannot take the place of a directory, and a file beside it is gone. -/
theorem executeToFile_failed_late :
    (runSource (withSource []) "o" (some "d/r")).2 = .error (.write (.ofString "d/r") .notFound) ∧
      (runSource (withSource []) "o" (some "d/r")).1.content? ["o".toList] ≠ none ∧
      (withSource []).content? ["o".toList] = none ∧
    (runSource (withSource [(["o".toList], .directory), (["o.tmp".toList], .file .empty)]) "o"
        none).2 = .error (.write (.ofString "o") .isADirectory) ∧
      (runSource (withSource [(["o".toList], .directory), (["o.tmp".toList], .file .empty)]) "o"
        none).1.content? ["o.tmp".toList] = none ∧
      (withSource [(["o".toList], .directory), (["o.tmp".toList], .file .empty)]).content?
        ["o.tmp".toList] ≠ none := by
  decide +kernel

namespace Executor
variable {x : Executor} {t t' : FileTree} {base : WorkingDir} {name : String} {root : Path}
  {search : SearchPaths} {output : Path}

theorem executeToFile_get? {report : Path} {result : Output} (links : t.LinkFree)
    (h : x.executeToFile t base name root search output (some report) = (t', .ok result)) :
    ∃ out outBeside rep repBeside, t.place base output = .ok out ∧
      t.place base (staging output) = .ok outBeside ∧ t.place base report = .ok rep ∧
      t.place base (staging report) = .ok repBeside ∧
      ∀ loc, t'.get? loc =
        if loc = rep then some (.file (String.ofList result.report.json).toUTF8)
        else if loc = repBeside then none
        else if loc = out then some (.file (String.ofList result.text).toUTF8)
        else if loc = outBeside then none else t.get? loc := by
  obtain ⟨written, wrote, reported⟩ := executeToFileWithin_ok h
  obtain ⟨links', keeps⟩ := replaceFileWithin_keeps links wrote
  obtain ⟨out, outBeside, placed, beside, get⟩ :=
    replaceFileWithin_ok (links.unlinked output) wrote
  obtain ⟨rep, repBeside, placed', beside', get'⟩ :=
    replaceFileWithin_ok (links'.unlinked report) reported
  refine ⟨out, outBeside, rep, repBeside, placed, beside, keeps.place placed',
    keeps.place beside', fun loc => ?_⟩
  rw [get', get]

/-- A run that succeeds leaves its output and its report, and every other file as it was,
provided that the output does not stand where the report is written first and that no other
file stands where one of the two is. -/
theorem executeToFile_leaves {report : Path} {result : Output} (links : t.LinkFree)
    (ran : x.executeToFile t base name root search output (some report) = (t', .ok result))
    (apart : t.place base output ≠ t.place base report)
    (clear : t.place base output ≠ t.place base (staging report))
    (free : ∀ path ∈ [output, report], ∀ loc, t.place base (staging path) = .ok loc →
      t.place base report = .ok loc ∨ t.content? loc = none) :
    ∃ out rep, t.place base output = .ok out ∧ t.place base report = .ok rep ∧
      t'.content? out = some (String.ofList result.text).toUTF8 ∧
      t'.content? rep = some (String.ofList result.report.json).toUTF8 ∧
      ∀ loc, loc ≠ out → loc ≠ rep → t'.content? loc = t.content? loc := by
  obtain ⟨out, outBeside, rep, repBeside, placed, beside, placed', beside', get⟩ :=
    executeToFile_get? links ran
  refine ⟨out, rep, placed, placed', ?_, ?_, fun loc other other' => ?_⟩
  · have ne : out ≠ rep := fun eq => apart (by rw [placed, placed', eq])
    have ne' : out ≠ repBeside := fun eq => clear (by rw [placed, beside', eq])
    rw [content?, get, if_neg ne, if_neg ne', if_pos rfl]
    rfl
  · rw [content?, get, if_pos rfl]
    rfl
  · have emptied : ∀ path ∈ [output, report], t.place base (staging path) = .ok loc →
        t.content? loc = none := by
      intro path member there
      rcases free path member loc there with eq | none
      · cases placed'.symm.trans eq
        exact absurd rfl other'
      · exact none
    have get := get loc
    rw [if_neg other', if_neg other] at get
    by_cases under : loc = repBeside
    · rw [if_pos under] at get
      rw [emptied report (by simp) (under ▸ beside'), content?, get]
      rfl
    · rw [if_neg under] at get
      by_cases under' : loc = outBeside
      · rw [if_pos under'] at get
        rw [emptied output (by simp) (under' ▸ beside), content?, get]
        rfl
      · rw [if_neg under'] at get
        rw [content?, content?, get]

end Executor

/-- Both files are new, and the source is still there. -/
theorem executeToFile_leaves_both :
    ∃ result, (runSource (withSource []) "o" (some "r")).2 = .ok result ∧
      (runSource (withSource []) "o" (some "r")).1.content? ["o".toList] =
        some (String.ofList result.text).toUTF8 ∧
      (runSource (withSource []) "o" (some "r")).1.content? ["r".toList] =
        some (String.ofList result.report.json).toUTF8 ∧
      (runSource (withSource []) "o" (some "r")).1.content? ["m".toList] =
        (withSource []).content? ["m".toList] := by
  have ran : ∃ result, (runSource (withSource []) "o" (some "r")).2 = .ok result := by
    cases h : (runSource (withSource []) "o" (some "r")).2 with
    | ok result => exact ⟨result, rfl⟩
    | error e =>
      have fine : (runSource (withSource []) "o" (some "r")).2.toBool = true := by decide +kernel
      rw [h] at fine
      cases fine
  obtain ⟨result, ran⟩ := ran
  have links : (withSource []).LinkFree := .of_entries (by simp [withSource])
  have place : ∀ n ∈ ["o", "r", "o.tmp", "r.tmp"],
      (withSource []).place {} (.ofString n) = .ok [n.toList] := by decide +kernel
  obtain ⟨out, rep, placed, placed', written, reported, others⟩ :=
    Executor.executeToFile_leaves links (Prod.ext rfl ran) (by decide +kernel) (by decide +kernel)
      (by
        intro path member loc there
        refine .inr ?_
        rcases List.mem_pair.mp member with rfl | rfl
        · cases there.symm.trans (place "o.tmp" (by simp))
          rfl
        · cases there.symm.trans (place "r.tmp" (by simp))
          rfl)
  cases placed.symm.trans (place "o" (by simp))
  cases placed'.symm.trans (place "r" (by simp))
  exact ⟨result, ran, written, reported, others _ (by decide) (by decide)⟩

/-- Two runs that succeed and lose a file: the report is written first where the output is,
and the output is written first where another file is. -/
theorem executeToFile_loses_file :
    (runSource (withSource []) "r.tmp" (some "r")).2.toBool = true ∧
      (withSource []).place {} (.ofString "r.tmp") ≠ (withSource []).place {} (.ofString "r") ∧
      (runSource (withSource []) "r.tmp" (some "r")).1.content? ["r.tmp".toList] = none ∧
    (runSource (withSource [(["o.tmp".toList], .file .empty)]) "o" (some "r")).2.toBool = true ∧
      (runSource (withSource [(["o.tmp".toList], .file .empty)]) "o" (some "r")).1.content?
        ["o.tmp".toList] = none ∧
      (withSource [(["o.tmp".toList], .file .empty)]).content? ["o.tmp".toList] ≠ none := by
  decide +kernel

end Amalgam
