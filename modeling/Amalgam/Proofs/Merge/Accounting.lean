import Amalgam.Proofs.Merge.Run
import Mathlib.Data.List.Nodup

/-! Reports account for every include. The includes of the root and of the files brought
in are those that brought in a file, those that were dropped and those that were left,
each in one of the three lists and there once; no file is brought in twice. -/
namespace Amalgam

def SourceLine.site? (l : SourceLine) : Option Site :=
  if isPragmaOnce l.text then none
  else (Directive.parse? l.text l.number).map (Site.mk l.file)

def Event.site? : Event → Option Site
  | .external site _ => some site
  | .elided site _ => some site
  | .inlined site _ => some site
  | _ => none

def Report.includes (disk : Disk) (r : Report) : List Site :=
  (r.origin :: r.inlined).flatMap fun p =>
    (numbered p 1 (disk.linesOf p)).filterMap SourceLine.site?

/-- A report is complete and says nothing twice. `introduced` are the includes that
brought in a file, each with that file. -/
structure Report.Accounts (disk : Disk) (search : SearchPaths) (r : Report)
    (introduced : List (Site × Path)) : Prop where
  readable : ∀ p ∈ r.origin :: r.inlined, ∃ text, disk.readText p = .ok text
  apart : (r.origin :: r.inlined).Pairwise fun p q => p.same q = false
  brought : introduced.map (·.2) = r.inlined
  sites : (introduced.map (·.1) ++ (r.elided.map (·.1) ++ r.external)).Perm (r.includes disk)
  single : ∀ site ∈ r.includes disk, (introduced.map (·.1)).count site +
    ((r.elided.map (·.1)).count site + r.external.count site) = 1
  total : r.inlined.length + r.elided.length + r.external.length = (r.includes disk).length
  resolved : ∀ entry ∈ introduced, search.resolve? disk entry.1.directive = some entry.2
  known : ∀ entry ∈ r.elided, search.resolve? disk entry.1.directive = some entry.2 ∧
    ∃ q ∈ r.origin :: r.inlined, entry.2.same q = true
  missing : ∀ site ∈ r.external, search.resolve? disk site.directive = none

theorem sites_perm (root : Path) (events : List Event) :
    ((introductions events).map (·.1) ++ ((Report.ofEvents root events).elided.map (·.1) ++
      (Report.ofEvents root events).external)).Perm (events.filterMap Event.site?) := by
  induction events with
  | nil => exact .refl _
  | cons e events ih =>
    cases e with
    | external site line =>
      exact (List.perm_middle.append_left _).trans (List.perm_middle.trans (ih.cons site))
    | elided site path => exact List.perm_middle.trans (ih.cons site)
    | inlined site path => exact ih.cons site
    | _ => exact ih

namespace Merge
variable {disk : Disk} {search : SearchPaths} {file : Path} {number : Nat} {ls : List Text}
  {visited after : Visited} {events : List Event}

theorem Step.site {l : SourceLine} {event : Event} (h : Step disk search visited l event after) :
    event.site? = l.site? := by
  cases h with
  | pragmaOnce once => simp [Event.site?, SourceLine.site?, once]
  | copied once plain => simp [Event.site?, SourceLine.site?, once, plain]
  | external once parsed missing => simp [Event.site?, SourceLine.site?, once, parsed]
  | elided once parsed found known => simp [Event.site?, SourceLine.site?, once, parsed]
  | inlined once parsed found fresh => simp [Event.site?, SourceLine.site?, once, parsed]

theorem Run.sites (run : Run disk search file number ls visited events after) :
    (events.filterMap Event.site?).Perm
      ((numbered file number ls ++ broughtIn disk events).filterMap SourceLine.site?) := by
  obtain ⟨ledger, steps, eq, perm⟩ := run.ledger
  have onLines : events.filterMap Event.site? = (ledger.map (·.2)).filterMap Event.site? := by
    rw [eq, List.filterMap_filter]
    apply List.filterMap_congr
    intro e _
    cases e <;> rfl
  have ofLines : (ledger.map (·.2)).filterMap Event.site? =
      (ledger.map (·.1)).filterMap SourceLine.site? := by
    rw [List.filterMap_map, List.filterMap_map]
    apply List.filterMap_congr
    intro entry member
    obtain ⟨_, _, step⟩ := steps entry member
    exact step.site
  rw [onLines, ofLines]
  exact perm.filterMap _

end Merge

theorem SourceLine.site?_place {l : SourceLine} {site : Site} (h : l.site? = some site) :
    site.place = l.place := by
  unfold site? at h
  split at h
  · cases h
  · obtain ⟨d, parsed, rfl⟩ := Option.map_eq_some_iff.mp h
    simp [Site.place, place, Directive.parse?_line parsed]

theorem sites_nodup {lines : List SourceLine}
    (h : lines.Pairwise fun l l' => l.place ≠ l'.place) :
    (lines.filterMap SourceLine.site?).Nodup := by
  refine List.pairwise_filterMap.mpr (h.imp ?_)
  intro l l' apart site hl site' hl' eq
  rw [← SourceLine.site?_place hl, ← SourceLine.site?_place hl', eq] at apart
  exact apart rfl

namespace Merge
variable {disk : Disk} {search : SearchPaths}

theorem includes_ofEvents {root : Path} {text : Text} (read : disk.readText root = .ok text)
    (events : List Event) :
    (Report.ofEvents root events).includes disk =
      (numbered root 1 text.lines ++ broughtIn disk events).filterMap SourceLine.site? := by
  have lines : disk.linesOf root = text.lines := by simp [Disk.linesOf, read]
  change (root :: (Report.ofEvents root events).inlined).flatMap _ = _
  rw [Report.ofEvents_inlined, List.flatMap_cons, lines, List.filterMap_append, broughtIn,
    List.filterMap_flatMap]

theorem Run.accounts {root : Path} {text : Text} {events : List Event} {after : Visited}
    (run : Run disk search root 1 text.lines ⟨[root]⟩ events after)
    (read : disk.readText root = .ok text) :
    (Report.ofEvents root events).Accounts disk search (introductions events) := by
  have perm := (sites_perm root events).trans run.sites
  rw [← includes_ofEvents read] at perm
  have nodup : ((Report.ofEvents root events).includes disk).Nodup := by
    rw [includes_ofEvents read]
    exact sites_nodup (merged_apart root text.lines events run.files_nodup)
  have files : ∀ p, p ∈ root :: inlinedPaths events ↔ p ∈ after.paths := by
    intro p
    simp [run.paths, or_comm]
  constructor
  case readable =>
    rw [Report.ofEvents_inlined]
    exact List.forall_mem_cons.mpr ⟨⟨text, read⟩, fun p hp => run.readable hp⟩
  case apart =>
    rw [Report.ofEvents_inlined]
    exact run.apart
  case brought =>
    rw [Report.ofEvents_inlined]
    rfl
  case sites => exact perm
  case single =>
    intro site member
    rw [← List.count_append, ← List.count_append, perm.count_eq]
    exact List.count_eq_one_of_mem nodup member
  case total =>
    rw [← perm.length_eq, Report.ofEvents_inlined]
    simp [inlinedPaths, Nat.add_assoc]
  case resolved =>
    rintro ⟨site, path⟩ member
    obtain ⟨_, -, _, _, step⟩ := run.step_of_mem (mem_introductions.mp member) rfl
    cases step
    assumption
  case known =>
    rintro ⟨site, path⟩ member
    have event := Report.mem_elided.mp member
    obtain ⟨_, -, _, _, step⟩ := run.step_of_mem event rfl
    obtain ⟨q, hq, same⟩ := run.elided_known event
    refine ⟨?_, q, ?_, same⟩
    · cases step
      assumption
    · rw [Report.ofEvents_inlined]
      exact (files q).mpr hq
  case missing =>
    intro site member
    obtain ⟨line, event⟩ := Report.mem_external.mp member
    obtain ⟨_, -, _, _, step⟩ := run.step_of_mem event rfl
    cases step
    assumption

end Merge

theorem openRoot_ok {disk : Disk} {root path : Path} {source : Text}
    (h : Merge.openRoot disk root = .ok (path, source)) :
    ∃ cwd, disk.cwd = .ok cwd ∧ path = root.absolutize cwd ∧ disk.readText path = .ok source := by
  unfold Merge.openRoot at h
  split at h
  · cases h
  · rename_i cwd hc
    simp only at h
    split at h
    · cases h
    · cases h
      exact ⟨cwd, hc, rfl, by assumption⟩

/-- A merge that succeeds reports each include once: as one that brought in a file, as one
that was dropped since its file is there already, or as one that names no file here. -/
theorem merge_accounts {disk : Disk} {search : SearchPaths} {markers : MarkerSettings}
    {root : Path} {out : Output} (h : merge disk search markers root = .ok out) :
    ∃ cwd source, disk.cwd = .ok cwd ∧ disk.readText (root.absolutize cwd) = .ok source ∧
      out.report.origin = root.absolutize cwd ∧
      out.report.Accounts disk search
        (introductions (Merge.source disk search (root.absolutize cwd) source).events) := by
  unfold merge at h
  split at h
  · cases h
  · rename_i path source opened
    obtain ⟨cwd, hc, rfl, read⟩ := openRoot_ok opened
    obtain ⟨ok, rfl⟩ := Progress.output_ok h
    obtain ⟨events, eq, run⟩ := Merge.source_run ok
    refine ⟨cwd, source, hc, read, rfl, ?_⟩
    rw [eq]
    exact run.accounts read

/-- Files that include each other are merged once, and their includes are told apart. -/
theorem merge_accounts_mutual : ∃ out cwd source,
    merge mutualDisk mutualSearch {} (.ofString "m.c") = .ok out ∧
      (out.report.inlined.length, out.report.elided.length, out.report.external.length) =
        (1, 2, 1) ∧
      out.report.Accounts mutualDisk mutualSearch (introductions
        (Merge.source mutualDisk mutualSearch ((Path.ofString "m.c").absolutize cwd) source).events)
    := by
  have counts : ((merge mutualDisk mutualSearch {} (.ofString "m.c")).toOption.map fun out =>
      (out.report.inlined.length, out.report.elided.length, out.report.external.length)) =
      some (1, 2, 1) := by decide +kernel
  cases h : merge mutualDisk mutualSearch {} (.ofString "m.c") with
  | error e =>
    rw [h] at counts
    cases counts
  | ok out =>
    rw [h] at counts
    obtain ⟨cwd, source, -, -, -, accounts⟩ := merge_accounts h
    exact ⟨out, cwd, source, rfl, Option.some.inj counts, accounts⟩

end Amalgam
