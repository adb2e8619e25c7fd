import Amalgam.Merge.Basic

/-! Merges that come to their end, as a relation between the lines of a file and the
events they lead to. `Step` says what can become of one line and `Run` what becomes of
the lines of a file; `source_run` ties both to the function that merges. Whatever holds
along a run is shown by induction on it. -/
namespace Amalgam

def Disk.linesOf (disk : Disk) (path : Path) : List Text :=
  match disk.readText path with
  | .ok text => text.lines
  | .error _ => []

theorem Path.same_comm (p q : Path) : p.same q = q.same p := BEq.comm

theorem Path.same_self (p : Path) : p.same p = true := BEq.rfl

structure SourceLine where
  file : Path
  number : Nat
  text : Text
  deriving DecidableEq, Repr

def SourceLine.place (l : SourceLine) : Path × Nat := (l.file, l.number)

def numbered (file : Path) (number : Nat) (lines : List Text) : List SourceLine :=
  (lines.zipIdx number).map fun (text, i) => ⟨file, i, text⟩

@[simp] theorem numbered_nil (file : Path) (number : Nat) : numbered file number [] = [] := rfl

@[simp] theorem numbered_cons (file : Path) (number : Nat) (line : Text) (rest : List Text) :
    numbered file number (line :: rest) =
      ⟨file, number, line⟩ :: numbered file (number + 1) rest := rfl

def Site.place (s : Site) : Path × Nat := (s.file, s.directive.line)

def Event.place? : Event → Option (Path × Nat)
  | .pragmaOnce file number => some (file, number)
  | .copied file number _ => some (file, number)
  | .external site _ => some site.place
  | .elided site _ => some site.place
  | .inlined site _ => some site.place
  | _ => none

def Event.introduced? : Event → Option (Site × Path)
  | .inlined site path => some (site, path)
  | _ => none

def introductions (events : List Event) : List (Site × Path) :=
  events.filterMap Event.introduced?

def inlinedPaths (events : List Event) : List Path := (introductions events).map (·.2)

@[simp] theorem inlinedPaths_append (a b : List Event) :
    inlinedPaths (a ++ b) = inlinedPaths a ++ inlinedPaths b := by
  simp [inlinedPaths, introductions]

theorem inlinedPaths_cons_none {e : Event} (h : e.introduced? = none) (events : List Event) :
    inlinedPaths (e :: events) = inlinedPaths events := by
  simp [inlinedPaths, introductions, h]

theorem inlinedPaths_nested (site : Site) (path file : Path) (number : Nat)
    (inside events : List Event) :
    inlinedPaths (.inlined site path :: .enter path ::
      (inside ++ .leave path :: .resume file number :: events)) =
      path :: (inlinedPaths inside ++ inlinedPaths events) := by
  change path :: inlinedPaths (inside ++ .leave path :: .resume file number :: events) = _
  rw [inlinedPaths_append]
  rfl

theorem Report.ofEvents_inlined (root : Path) (events : List Event) :
    (Report.ofEvents root events).inlined = inlinedPaths events := by
  simp only [Report.ofEvents, inlinedPaths, introductions, List.map_filterMap]
  congr 1
  funext e
  cases e <;> rfl

theorem Report.mem_elided {root : Path} {events : List Event} {site : Site} {path : Path} :
    (site, path) ∈ (Report.ofEvents root events).elided ↔ .elided site path ∈ events := by
  simp only [Report.ofEvents, List.mem_filterMap]
  constructor
  · rintro ⟨e, he, eq⟩
    cases e <;> simp_all
  · intro h
    exact ⟨_, h, rfl⟩

theorem Report.mem_external {root : Path} {events : List Event} {site : Site} :
    site ∈ (Report.ofEvents root events).external ↔ ∃ line, .external site line ∈ events := by
  simp only [Report.ofEvents, List.mem_filterMap]
  constructor
  · rintro ⟨e, he, eq⟩
    cases e <;> simp_all
    exact ⟨_, he⟩
  · rintro ⟨line, h⟩
    exact ⟨_, h, rfl⟩

theorem mem_introductions {events : List Event} {site : Site} {path : Path} :
    (site, path) ∈ introductions events ↔ .inlined site path ∈ events := by
  simp only [introductions, List.mem_filterMap]
  constructor
  · rintro ⟨e, he, eq⟩
    cases e <;> simp_all [Event.introduced?]
  · intro h
    exact ⟨_, h, rfl⟩

namespace Merge
variable {disk : Disk} {search : SearchPaths}

/-- The event that a line leads to, and the files merged before and after it. -/
inductive Step (disk : Disk) (search : SearchPaths) :
    Visited → SourceLine → Event → Visited → Prop
  | pragmaOnce {visited : Visited} {l : SourceLine} (once : isPragmaOnce l.text = true) :
      Step disk search visited l (.pragmaOnce l.file l.number) visited
  | copied {visited : Visited} {l : SourceLine} (once : isPragmaOnce l.text = false)
      (plain : Directive.parse? l.text l.number = none) :
      Step disk search visited l (.copied l.file l.number l.text) visited
  | external {visited : Visited} {l : SourceLine} {d : Directive}
      (once : isPragmaOnce l.text = false) (parsed : Directive.parse? l.text l.number = some d)
      (missing : search.resolve? disk d = none) :
      Step disk search visited l (.external ⟨l.file, d⟩ l.text) visited
  | elided {visited : Visited} {l : SourceLine} {d : Directive} {path : Path}
      (once : isPragmaOnce l.text = false) (parsed : Directive.parse? l.text l.number = some d)
      (found : search.resolve? disk d = some path) (known : visited.visit? path = none) :
      Step disk search visited l (.elided ⟨l.file, d⟩ path) visited
  | inlined {visited after : Visited} {l : SourceLine} {d : Directive} {path : Path}
      (once : isPragmaOnce l.text = false) (parsed : Directive.parse? l.text l.number = some d)
      (found : search.resolve? disk d = some path) (fresh : visited.visit? path = some after) :
      Step disk search visited l (.inlined ⟨l.file, d⟩ path) after

/-- The lines of `file` from line `number` on lead to these events, and to these files
merged before and after them. -/
inductive Run (disk : Disk) (search : SearchPaths) :
    Path → Nat → List Text → Visited → List Event → Visited → Prop
  | done (file : Path) (number : Nat) (visited : Visited) :
      Run disk search file number [] visited [] visited
  | line {file : Path} {number : Nat} {text : Text} {rest : List Text}
      {visited middle after : Visited} {event : Event} {events : List Event}
      (step : Step disk search visited ⟨file, number, text⟩ event middle)
      (keeps : event.introduced? = none)
      (tail : Run disk search file (number + 1) rest middle events after) :
      Run disk search file number (text :: rest) visited (event :: events) after
  | inlined {file path : Path} {number : Nat} {text header : Text} {rest : List Text}
      {site : Site} {visited entered left after : Visited} {inside events : List Event}
      (step : Step disk search visited ⟨file, number, text⟩ (.inlined site path) entered)
      (read : readHeader disk path = .ok header)
      (inner : Run disk search path 1 header.lines entered inside left)
      (tail : Run disk search file (number + 1) rest left events after) :
      Run disk search file number (text :: rest) visited
        (.inlined site path :: .enter path ::
          (inside ++ .leave path :: .resume file (number + 1) :: events)) after

theorem readText_of_readHeader {path : Path} {header : Text}
    (h : readHeader disk path = .ok header) : disk.readText path = .ok header := by
  unfold readHeader at h
  split at h
  · cases h
  · cases h
  · cases h
    assumption

theorem linesOf_of_readHeader {path : Path} {header : Text}
    (h : readHeader disk path = .ok header) : disk.linesOf path = header.lines := by
  simp [Disk.linesOf, readText_of_readHeader h]

end Merge

@[simp] theorem Progress.after_failure (events : List Event) (p : Progress) :
    (p.after events).failure = p.failure := rfl

@[simp] theorem Progress.after_events (events : List Event) (p : Progress) :
    (p.after events).events = events ++ p.events := rfl

@[simp] theorem Progress.after_visited (events : List Event) (p : Progress) :
    (p.after events).visited = p.visited := rfl

theorem Progress.andThen_success {p : Progress} {next : Visited → Progress}
    (h : (p.andThen next).failure = none) :
    p.failure = none ∧ (next p.visited).failure = none ∧
      p.andThen next = (next p.visited).after p.events := by
  cases hp : p.failure with
  | none =>
    simp only [andThen, hp, after_failure] at h ⊢
    exact ⟨trivial, h, trivial⟩
  | some e => simp [andThen, hp] at h

theorem Progress.output_ok {p : Progress} {markers : MarkerSettings} {root : Path} {out : Output}
    (h : p.output markers root = .ok out) :
    p.failure = none ∧ out = ⟨Event.text markers p.events, .ofEvents root p.events⟩ := by
  unfold output at h
  split at h
  · cases h
  · cases h
    exact ⟨by assumption, rfl⟩

namespace Merge
variable {disk : Disk} {search : SearchPaths}

def Faithful (disk : Disk) (search : SearchPaths) (inner : Path → Text → Visited → Progress) :
    Prop :=
  ∀ path source visited, (inner path source visited).failure = none →
    ∃ events, (inner path source visited).events = .enter path :: events ∧
      Run disk search path 1 source.lines visited events (inner path source visited).visited

theorem lines_run {inner : Path → Text → Visited → Progress} (hi : Faithful disk search inner)
    (file : Path) (number : Nat) (ls : List Text) (visited : Visited)
    (h : (lines disk search inner file number ls visited).failure = none) :
    Run disk search file number ls visited
      (lines disk search inner file number ls visited).events
      (lines disk search inner file number ls visited).visited := by
  induction ls generalizing number visited with
  | nil => exact .done file number visited
  | cons text rest ih =>
    -- Four of the five outcomes add one event and go on with the rest.
    have goOn : ∀ event, Step disk search visited ⟨file, number, text⟩ event visited →
        event.introduced? = none →
        lines disk search inner file number (text :: rest) visited =
          (lines disk search inner file (number + 1) rest visited).after [event] →
        Run disk search file number (text :: rest) visited
          (lines disk search inner file number (text :: rest) visited).events
          (lines disk search inner file number (text :: rest) visited).visited := by
      intro event step keeps eq
      rw [eq] at h ⊢
      exact .line step keeps (ih _ _ h)
    cases once : isPragmaOnce text with
    | true => exact goOn _ (.pragmaOnce once) rfl (by simp [lines, once])
    | false =>
      cases parsed : Directive.parse? text number with
      | none => exact goOn _ (.copied once parsed) rfl (by simp [lines, once, parsed])
      | some d =>
        cases found : search.resolve? disk d with
        | none =>
          exact goOn _ (.external once parsed found) rfl (by simp [lines, once, parsed, found])
        | some path =>
          cases fresh : visited.visit? path with
          | none =>
            exact goOn _ (.elided once parsed found fresh) rfl
              (by simp [lines, once, parsed, found, fresh])
          | some entered =>
            cases read : readHeader disk path with
            | error e => simp [lines, once, parsed, found, fresh, read] at h
            | ok header =>
              simp only [lines, once, parsed, found, fresh, read, Bool.false_eq_true,
                if_false] at h ⊢
              obtain ⟨innerOk, tailOk, eq⟩ := Progress.andThen_success h
              obtain ⟨inside, insideEq, innerRun⟩ := hi path header entered innerOk
              rw [eq]
              simpa [insideEq] using
                Run.inlined (.inlined once parsed found fresh) read innerRun (ih _ _ tailOk)

theorem file_faithful (depth : Nat) : Faithful disk search (file disk search depth) := by
  induction depth with
  | zero =>
    intro path source visited h
    cases h
  | succ depth ih =>
    intro path source visited h
    exact ⟨_, rfl, lines_run ih path 1 source.lines visited h⟩

/-- A merge that succeeds is a run from its root. -/
theorem source_run {root : Path} {text : Text} (h : (source disk search root text).failure = none) :
    ∃ events, (source disk search root text).events = .origin root :: .enter root :: events ∧
      Run disk search root 1 text.lines ⟨[root]⟩ events (source disk search root text).visited := by
  obtain ⟨events, eq, run⟩ := file_faithful _ root text ⟨[root]⟩ h
  exact ⟨events, by simp [source, eq], run⟩

end Merge

namespace Visited

def Distinct (v : Visited) : Prop := v.paths.Pairwise fun p q => p.same q = false

theorem visit?_some {v after : Visited} {p : Path} (h : v.visit? p = some after) :
    after.paths = p :: v.paths ∧ ∀ q ∈ v.paths, p.same q = false := by
  unfold visit? at h
  split at h
  · cases h
  · rename_i fresh
    cases h
    refine ⟨rfl, ?_⟩
    simpa [contains] using fresh

theorem visit?_none {v : Visited} {p : Path} (h : v.visit? p = none) :
    ∃ q ∈ v.paths, p.same q = true := by
  unfold visit? at h
  split at h
  · rename_i known
    simpa [contains] using known
  · cases h

end Visited

namespace Merge
variable {disk : Disk} {search : SearchPaths} {file : Path} {number : Nat} {ls : List Text}
  {visited after : Visited} {events : List Event}

theorem Step.paths {l : SourceLine} {event : Event} (h : Step disk search visited l event after) :
    after.paths = inlinedPaths [event] ++ visited.paths := by
  cases h with
  | inlined once parsed found fresh => exact (Visited.visit?_some fresh).1
  | _ => rfl

theorem Step.place {l : SourceLine} {event : Event} (h : Step disk search visited l event after) :
    event.place? = some l.place := by
  cases h with
  | pragmaOnce | copied => rfl
  | external once parsed missing =>
    simp [Event.place?, Site.place, SourceLine.place, Directive.parse?_line parsed]
  | elided once parsed found known =>
    simp [Event.place?, Site.place, SourceLine.place, Directive.parse?_line parsed]
  | inlined once parsed found fresh =>
    simp [Event.place?, Site.place, SourceLine.place, Directive.parse?_line parsed]

theorem Step.distinct {l : SourceLine} {event : Event}
    (h : Step disk search visited l event after) (hd : visited.Distinct) : after.Distinct := by
  cases h with
  | inlined once parsed found fresh =>
    obtain ⟨eq, apart⟩ := Visited.visit?_some fresh
    unfold Visited.Distinct at hd ⊢
    rw [eq]
    exact List.pairwise_cons.mpr ⟨apart, hd⟩
  | _ => exact hd

theorem Run.paths (run : Run disk search file number ls visited events after) :
    after.paths = (inlinedPaths events).reverse ++ visited.paths := by
  induction run with
  | done => rfl
  | line step keeps tail ih =>
    have same := step.paths
    rw [inlinedPaths_cons_none keeps] at same ⊢
    rw [ih, same]
    rfl
  | inlined step read inner tail ihInner ihTail =>
    rw [ihTail, ihInner, step.paths, inlinedPaths_nested]
    simp [inlinedPaths, introductions, Event.introduced?]

theorem Run.distinct (run : Run disk search file number ls visited events after)
    (hd : visited.Distinct) : after.Distinct := by
  induction run with
  | done => exact hd
  | line step keeps tail ih => exact ih (step.distinct hd)
  | inlined step read inner tail ihInner ihTail => exact ihTail (ihInner (step.distinct hd))

theorem Run.apart {root : Path} (run : Run disk search file number ls ⟨[root]⟩ events after) :
    (root :: inlinedPaths events).Pairwise fun p q => p.same q = false := by
  have distinct : after.Distinct := run.distinct (List.pairwise_singleton _ _)
  rw [Visited.Distinct, run.paths, ← List.reverse_cons, List.pairwise_reverse] at distinct
  exact distinct.imp fun apart => (Path.same_comm _ _).trans apart

theorem Run.files_nodup {root : Path} (run : Run disk search file number ls ⟨[root]⟩ events after) :
    (root :: inlinedPaths events).Nodup :=
  run.apart.imp fun apart eq => by simp [eq, Path.same_self] at apart

theorem Run.mono (run : Run disk search file number ls visited events after) {p : Path}
    (hp : p ∈ visited.paths) : p ∈ after.paths := by
  rw [run.paths]
  exact List.mem_append_right _ hp

theorem Run.elided_known (run : Run disk search file number ls visited events after)
    {site : Site} {path : Path} (h : .elided site path ∈ events) :
    ∃ q ∈ after.paths, path.same q = true := by
  induction run with
  | done => cases h
  | line step keeps tail ih =>
    rcases List.mem_cons.mp h with rfl | h
    · cases step with
      | elided once parsed found known =>
        obtain ⟨q, hq, same⟩ := Visited.visit?_none known
        exact ⟨q, tail.mono hq, same⟩
    · exact ih h
  | inlined step read inner tail ihInner ihTail =>
    simp only [List.mem_cons, List.mem_append, reduceCtorEq, false_or] at h
    rcases h with h | h
    · obtain ⟨q, hq, same⟩ := ihInner h
      exact ⟨q, tail.mono hq, same⟩
    · exact ihTail h

theorem Run.readable (run : Run disk search file number ls visited events after) {p : Path}
    (hp : p ∈ inlinedPaths events) : ∃ text, disk.readText p = .ok text := by
  induction run with
  | done => cases hp
  | line step keeps tail ih =>
    rw [inlinedPaths_cons_none keeps] at hp
    exact ih hp
  | inlined step read inner tail ihInner ihTail =>
    rw [inlinedPaths_nested, List.mem_cons, List.mem_append] at hp
    rcases hp with rfl | hp | hp
    · exact ⟨_, readText_of_readHeader read⟩
    · exact ihInner hp
    · exact ihTail hp

def broughtIn (disk : Disk) (events : List Event) : List SourceLine :=
  (inlinedPaths events).flatMap fun p => numbered p 1 (disk.linesOf p)

theorem mem_numbered {file : Path} {number : Nat} {ls : List Text} {l : SourceLine} :
    l ∈ numbered file number ls ↔
      l.file = file ∧ number ≤ l.number ∧ ls[l.number - number]? = some l.text := by
  obtain ⟨f, n, t⟩ := l
  simp only [numbered, List.mem_map, Prod.exists, List.mem_zipIdx_iff_le_and_getElem?_sub,
    SourceLine.mk.injEq]
  constructor
  · rintro ⟨_, _, ⟨le, eq⟩, rfl, rfl, rfl⟩
    exact ⟨rfl, le, eq⟩
  · rintro ⟨rfl, le, eq⟩
    exact ⟨t, n, ⟨le, eq⟩, rfl, rfl, rfl⟩

theorem numbered_apart (file : Path) (number : Nat) (ls : List Text) :
    (numbered file number ls).Pairwise fun l l' => l.place ≠ l'.place := by
  induction ls generalizing number with
  | nil => exact .nil
  | cons text rest ih =>
    refine List.pairwise_cons.mpr ⟨?_, ih (number + 1)⟩
    intro l hl eq
    have le := (mem_numbered.mp hl).2.1
    have same : number = l.number := congrArg Prod.snd eq
    omega

theorem merged_apart (root : Path) (ls : List Text) (events : List Event)
    (h : (root :: inlinedPaths events).Nodup) :
    (numbered root 1 ls ++ broughtIn disk events).Pairwise fun l l' => l.place ≠ l'.place := by
  obtain ⟨fresh, distinct⟩ := List.nodup_cons.mp h
  have inside : ∀ l ∈ broughtIn disk events, l.file ∈ inlinedPaths events := by
    intro l hl
    obtain ⟨p, hp, hl⟩ := List.mem_flatMap.mp hl
    rwa [(mem_numbered.mp hl).1]
  refine List.pairwise_append.mpr ⟨numbered_apart root 1 ls, ?_, ?_⟩
  · refine List.pairwise_flatMap.mpr ⟨fun p _ => numbered_apart p 1 _, ?_⟩
    refine distinct.imp fun ne l hl l' hl' eq => ne ?_
    rw [← (mem_numbered.mp hl).1, ← (mem_numbered.mp hl').1]
    exact congrArg Prod.fst eq
  · intro l hl l' hl' eq
    have same : l.file = l'.file := congrArg Prod.fst eq
    rw [(mem_numbered.mp hl).1] at same
    exact fresh (same ▸ inside l' hl')

theorem broughtIn_nested (site : Site) (path file : Path) (number : Nat)
    (inside events : List Event) :
    broughtIn disk (.inlined site path :: .enter path ::
      (inside ++ .leave path :: .resume file number :: events)) =
      numbered path 1 (disk.linesOf path) ++ broughtIn disk inside ++ broughtIn disk events := by
  simp [broughtIn, inlinedPaths_nested]

/-- Each line of each merged file is dealt with by one event, and by no other. -/
theorem Run.ledger (run : Run disk search file number ls visited events after) :
    ∃ ledger : List (SourceLine × Event),
      (∀ entry ∈ ledger, ∃ before after, Step disk search before entry.1 entry.2 after) ∧
      ledger.map (·.2) = events.filter (·.place?.isSome) ∧
      (ledger.map (·.1)).Perm (numbered file number ls ++ broughtIn disk events) := by
  induction run with
  | done => exact ⟨[], by simp, rfl, .refl _⟩
  | line step keeps tail ih =>
    obtain ⟨ledger, steps, eq, perm⟩ := ih
    refine ⟨(_, _) :: ledger, List.forall_mem_cons.mpr ⟨⟨_, _, step⟩, steps⟩, ?_, ?_⟩
    · rw [List.map_cons, eq, List.filter_cons_of_pos (by simp [step.place])]
    · simp only [List.map_cons, numbered_cons, List.cons_append, broughtIn,
        inlinedPaths_cons_none keeps]
      exact perm.cons _
  | @inlined parent path number text _ _ site _ _ _ _ _ _ step read inner tail ihInner ihTail =>
    obtain ⟨ledger, steps, eq, perm⟩ := ihTail
    obtain ⟨ledgerIn, stepsIn, eqIn, permIn⟩ := ihInner
    refine ⟨(⟨parent, number, text⟩, .inlined site path) :: (ledgerIn ++ ledger), ?_, ?_, ?_⟩
    · exact List.forall_mem_cons.mpr ⟨⟨_, _, step⟩, List.forall_mem_append.mpr ⟨stepsIn, steps⟩⟩
    · simp [eq, eqIn, Event.place?]
    · rw [broughtIn_nested, linesOf_of_readHeader read]
      simp only [List.map_cons, List.map_append, numbered_cons, List.cons_append]
      -- The lines behind the include stand in front of the file's, but were merged last.
      exact .cons _ ((permIn.append perm).trans (List.perm_append_comm_assoc _ _ _))

theorem Run.step_of_mem (run : Run disk search file number ls visited events after)
    {e : Event} (he : e ∈ events) (placed : e.place?.isSome) :
    ∃ l ∈ numbered file number ls ++ broughtIn disk events,
      ∃ before after, Step disk search before l e after := by
  obtain ⟨ledger, steps, eq, perm⟩ := run.ledger
  have member : e ∈ ledger.map (·.2) := by
    rw [eq]
    exact List.mem_filter.mpr ⟨he, placed⟩
  obtain ⟨⟨l, e⟩, hentry, rfl⟩ := List.mem_map.mp member
  exact ⟨l, perm.subset (List.mem_map_of_mem hentry), steps _ hentry⟩

end Merge

/-- Events on the way through `file` and the files of `paths`: these were entered and
left, and `file` only goes on. -/
def Event.Within (file : Path) (paths : List Path) : Event → Prop
  | .origin _ => False
  | .enter path => path ∈ paths
  | .leave path => path ∈ paths
  | .resume path _ => path ∈ file :: paths
  | _ => True

theorem Event.Within.mono {file file' : Path} {paths paths' : List Path} {e : Event}
    (h : e.Within file paths) (hf : file ∈ file' :: paths') (hp : paths ⊆ paths') :
    e.Within file' paths' := by
  cases e with
  | origin path => exact h
  | enter path => exact hp h
  | leave path => exact hp h
  | resume path number =>
    rcases List.mem_cons.mp h with rfl | h
    · exact hf
    · exact List.mem_cons_of_mem _ (hp h)
  | _ => trivial

namespace Merge
variable {disk : Disk} {search : SearchPaths} {file : Path} {number : Nat} {ls : List Text}
  {visited after : Visited} {events : List Event}

theorem Run.within (run : Run disk search file number ls visited events after) :
    ∀ e ∈ events, e.Within file (inlinedPaths events) := by
  induction run with
  | done => simp
  | line step keeps tail ih =>
    rw [inlinedPaths_cons_none keeps]
    refine List.forall_mem_cons.mpr ⟨?_, ih⟩
    cases step <;> trivial
  | @inlined file path number _ _ _ _ _ _ _ _ inside events step read inner tail ihInner ihTail =>
    intro e he
    rw [inlinedPaths_nested]
    have brought : path ∈ path :: (inlinedPaths inside ++ inlinedPaths events) := by simp
    simp only [List.mem_cons, List.mem_append] at he
    rcases he with rfl | rfl | he | rfl | rfl | he
    · trivial
    · exact brought
    · exact (ihInner e he).mono (by simp) fun p hp => by simp [hp]
    · exact brought
    · exact List.mem_cons_self
    · exact (ihTail e he).mono (by simp) fun p hp => by simp [hp]

end Merge

def mutualDisk : Disk :=
  .ofReadings (.ok (.ofString "/w")) [
    (.ofString "/w/m.c", .ok "#include \"a.h\"\n#include \"a.h\"\n#include <v>\nint m;\n".toUTF8),
    (.ofString "/w/a.h", .ok "#pragma once\n#include \"m.c\"\nint a;".toUTF8)]

def mutualSearch : SearchPaths := ⟨[.ofString "/w"]⟩

end Amalgam
