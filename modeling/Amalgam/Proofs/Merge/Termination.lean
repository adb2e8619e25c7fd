import Amalgam.Proofs.Merge.Run
import Mathlib.Data.Finset.Card
import Mathlib.Data.Finset.SDiff

/-! Merging comes to an end. Each nested file is marked before it is entered, was not marked
before, and is one of finitely many: what the includes of the root and of the files on disk
resolve to. So there is a bound on how deep files are nested, and it is never reached. -/
namespace Amalgam

theorem Progress.andThen_done {p : Progress} (h : p.failure = none) (events : List Event)
    (next : Visited → Progress) :
    (p.after events).andThen next = (next p.visited).after (events ++ p.events) := by
  simp [andThen, h]

theorem Progress.andThen_failed {p : Progress} {e : MergeError} (h : p.failure = some e)
    (events : List Event) (next : Visited → Progress) :
    (p.after events).andThen next = p.after events := by
  simp [andThen, h]

theorem inlinedPaths_cons_inlined (site : Site) (path : Path) (events : List Event) :
    inlinedPaths (.inlined site path :: events) = path :: inlinedPaths events := rfl

theorem Disk.mem_texts {disk : Disk} {path : Path} {text : Text}
    (h : disk.readText path = .ok text) : text ∈ disk.texts := by
  unfold readText at h
  split at h
  · cases h
  · rename_i b read
    split at h
    · rename_i t decoded
      cases h
      exact List.mem_filterMap.mpr ⟨b, disk.read_mem read, decoded⟩
    · cases h

namespace Merge
variable {disk : Disk} {search : SearchPaths}

theorem lines_cases (disk : Disk) (search : SearchPaths) (file : Path) (number : Nat) (text : Text)
    (rest : List Text) (visited : Visited) :
    (∃ event, Step disk search visited ⟨file, number, text⟩ event visited ∧
      event.introduced? = none ∧ ∀ inner,
        lines disk search inner file number (text :: rest) visited =
          (lines disk search inner file (number + 1) rest visited).after [event]) ∨
    (∃ site path entered e,
      Step disk search visited ⟨file, number, text⟩ (.inlined site path) entered ∧
      readHeader disk path = .error e ∧ ∀ inner,
        lines disk search inner file number (text :: rest) visited =
          ⟨[.inlined site path], entered, some e⟩) ∨
    ∃ site path entered header,
      Step disk search visited ⟨file, number, text⟩ (.inlined site path) entered ∧
      readHeader disk path = .ok header ∧ ∀ inner,
        lines disk search inner file number (text :: rest) visited =
          ((inner path header entered).after [.inlined site path]).andThen fun visited =>
            (lines disk search inner file (number + 1) rest visited).after
              [.leave path, .resume file (number + 1)] := by
  cases once : isPragmaOnce text with
  | true => exact .inl ⟨_, .pragmaOnce once, rfl, fun inner => by simp [lines, once]⟩
  | false =>
    cases parsed : Directive.parse? text number with
    | none => exact .inl ⟨_, .copied once parsed, rfl, fun inner => by simp [lines, once, parsed]⟩
    | some d =>
      cases found : search.resolve? disk d with
      | none =>
        exact .inl ⟨_, .external once parsed found, rfl,
          fun inner => by simp [lines, once, parsed, found]⟩
      | some path =>
        cases fresh : visited.visit? path with
        | none =>
          exact .inl ⟨_, .elided once parsed found fresh, rfl,
            fun inner => by simp [lines, once, parsed, found, fresh]⟩
        | some entered =>
          cases read : readHeader disk path with
          | error e =>
            exact .inr (.inl ⟨_, path, entered, e, .inlined once parsed found fresh, read,
              fun inner => by simp [lines, once, parsed, found, fresh, read]⟩)
          | ok header =>
            exact .inr (.inr ⟨_, path, entered, header, .inlined once parsed found fresh, read,
              fun inner => by simp [lines, once, parsed, found, fresh, read]⟩)

theorem readHeader_ne_nesting {path : Path} {e : MergeError}
    (h : readHeader disk path = .error e) : e ≠ .nesting := by
  unfold readHeader at h
  split at h <;> cases h <;> simp

theorem lines_congr {inner inner' : Path → Text → Visited → Progress}
    (agree : ∀ path header visited, (inner path header visited).failure ≠ some .nesting →
      inner' path header visited = inner path header visited)
    {file : Path} {number : Nat} {ls : List Text} {visited : Visited}
    (h : (lines disk search inner file number ls visited).failure ≠ some .nesting) :
    lines disk search inner' file number ls visited =
      lines disk search inner file number ls visited := by
  induction ls generalizing number visited with
  | nil => rfl
  | cons text rest ih =>
    rcases lines_cases disk search file number text rest visited with
      ⟨event, -, -, eq⟩ | ⟨site, path, entered, e, -, -, eq⟩ |
      ⟨site, path, entered, header, -, -, eq⟩
    · rw [eq] at h
      rw [eq, eq, ih h]
    · rw [eq, eq]
    · rw [eq] at h
      rw [eq, eq]
      cases failed : (inner path header entered).failure with
      | some e =>
        rw [Progress.andThen_failed failed] at h
        rw [agree _ _ _ h, Progress.andThen_failed failed, Progress.andThen_failed failed]
      | none =>
        rw [Progress.andThen_done failed] at h
        rw [agree _ _ _ (by simp [failed]), Progress.andThen_done failed,
          Progress.andThen_done failed]
        exact congrArg _ (congrArg _ (ih h))

theorem file_succ {depth : Nat} {path : Path} {text : Text} {visited : Visited}
    (h : (file disk search depth path text visited).failure ≠ some .nesting) :
    file disk search (depth + 1) path text visited = file disk search depth path text visited := by
  induction depth generalizing path text visited with
  | zero => exact absurd rfl h
  | succ depth ih =>
    have same : lines disk search (file disk search (depth + 1)) path 1 text.lines visited =
        lines disk search (file disk search depth) path 1 text.lines visited :=
      lines_congr (fun _ _ _ enough => ih enough) h
    rw [file, same, file]

theorem file_of_le {depth depth' : Nat} {path : Path} {text : Text} {visited : Visited}
    (h : (file disk search depth path text visited).failure ≠ some .nesting)
    (le : depth ≤ depth') :
    file disk search depth' path text visited = file disk search depth path text visited := by
  induction depth', le using Nat.le_induction with
  | base => rfl
  | succ depth' _ ih => rw [file_succ (by rwa [ih]), ih]

def room (reach : List Path) (visited : Visited) : Nat :=
  ((reach.map Path.components).toFinset \ (visited.paths.map Path.components).toFinset).card

theorem room_mono {reach : List Path} {visited visited' : Visited}
    (h : visited.paths ⊆ visited'.paths) : room reach visited' ≤ room reach visited := by
  refine Finset.card_le_card (Finset.sdiff_subset_sdiff (Finset.Subset.refl _) ?_)
  intro c hc
  rw [List.mem_toFinset] at hc ⊢
  exact List.map_subset _ h hc

theorem room_visit {reach : List Path} {visited entered : Visited} {path : Path}
    (h : visited.visit? path = some entered) (member : path ∈ reach) :
    room reach entered < room reach visited := by
  obtain ⟨paths, fresh⟩ := Visited.visit?_some h
  refine Finset.card_lt_card (Finset.ssubset_iff_of_subset ?_ |>.mpr ⟨path.components, ?_, ?_⟩)
  · refine Finset.sdiff_subset_sdiff (Finset.Subset.refl _) ?_
    intro c hc
    rw [List.mem_toFinset] at hc ⊢
    rw [paths]
    exact List.mem_cons_of_mem _ hc
  · rw [Finset.mem_sdiff, List.mem_toFinset, List.mem_toFinset]
    refine ⟨List.mem_map_of_mem member, ?_⟩
    intro known
    obtain ⟨q, hq, same⟩ := List.mem_map.mp known
    have apart := fresh q hq
    simp [Path.same, same] at apart
  · simp [paths]

def Leads (disk : Disk) (search : SearchPaths) (reach : List Path) (file : Path) (number : Nat)
    (ls : List Text) : Prop :=
  ∀ l ∈ numbered file number ls, ∀ d path, Directive.parse? l.text l.number = some d →
    search.resolve? disk d = some path → path ∈ reach

def Closed (disk : Disk) (search : SearchPaths) (reach : List Path) : Prop :=
  ∀ text ∈ disk.texts, ∀ file, Leads disk search reach file 1 text.lines

theorem Leads.step {reach : List Path} {file : Path} {number : Nat} {text : Text}
    {rest : List Text} {visited entered : Visited} {site : Site} {path : Path}
    (leads : Leads disk search reach file number (text :: rest))
    (h : Step disk search visited ⟨file, number, text⟩ (.inlined site path) entered) :
    visited.visit? path = some entered ∧ path ∈ reach := by
  cases h with
  | inlined once parsed found fresh =>
    exact ⟨fresh, leads ⟨file, number, text⟩ (by simp) _ _ parsed found⟩

theorem Leads.tail {reach : List Path} {file : Path} {number : Nat} {text : Text}
    {rest : List Text} (leads : Leads disk search reach file number (text :: rest)) :
    Leads disk search reach file (number + 1) rest := by
  intro l hl
  exact leads l (by simp [hl])

theorem Closed.header {reach : List Path} (closed : Closed disk search reach) {path : Path}
    {header : Text} (h : readHeader disk path = .ok header) :
    Leads disk search reach path 1 header.lines :=
  closed header (disk.mem_texts (readText_of_readHeader h)) path

/-- How the marked files grow along events: each of them was not marked before and is one of
`reach`, and a file is entered only when it has just been marked. -/
inductive Marks (reach : List Path) : List Path → List Event → List Path → Prop
  | done (seen : List Path) : Marks reach seen [] seen
  | other {seen later : List Path} {e : Event} {events : List Event}
      (keeps : e.introduced? = none) (stays : ∀ path, e ≠ .enter path)
      (rest : Marks reach seen events later) : Marks reach seen (e :: events) later
  | marked {seen later : List Path} {site : Site} {path : Path} {events : List Event}
      (member : path ∈ reach) (fresh : ∀ q ∈ seen, path.same q = false)
      (rest : Marks reach (path :: seen) events later) :
      Marks reach seen (.inlined site path :: events) later
  | entered {seen later : List Path} {site : Site} {path : Path} {events : List Event}
      (member : path ∈ reach) (fresh : ∀ q ∈ seen, path.same q = false)
      (rest : Marks reach (path :: seen) events later) :
      Marks reach seen (.inlined site path :: .enter path :: events) later

namespace Marks
variable {reach seen middle later : List Path} {events more : List Event}

theorem append (h : Marks reach seen events middle) (h' : Marks reach middle more later) :
    Marks reach seen (events ++ more) later := by
  induction h with
  | done => exact h'
  | other keeps stays rest ih => exact .other keeps stays (ih h')
  | marked member fresh rest ih => exact .marked member fresh (ih h')
  | entered member fresh rest ih => exact .entered member fresh (ih h')

theorem paths (h : Marks reach seen events later) :
    later = (inlinedPaths events).reverse ++ seen := by
  induction h with
  | done => rfl
  | other keeps stays rest ih => rw [ih, inlinedPaths_cons_none keeps]
  | marked member fresh rest ih =>
    rw [ih, inlinedPaths_cons_inlined]
    simp
  | entered member fresh rest ih =>
    rw [ih, inlinedPaths_cons_inlined, inlinedPaths_cons_none rfl]
    simp

theorem subset (h : Marks reach seen events later) : seen ⊆ later := by
  rw [h.paths]
  exact List.subset_append_right _ _

/-- In front of each file that is entered stands the include that has just marked it. -/
theorem enter (h : Marks reach seen events later) {earlier behind : List Event} {path : Path}
    (eq : events = earlier ++ .enter path :: behind) :
    ∃ before site, earlier = before ++ [.inlined site path] ∧ path ∈ reach ∧
      ∀ q ∈ seen ++ inlinedPaths before, path.same q = false := by
  induction h generalizing earlier with
  | done => simp at eq
  | other keeps stays rest ih =>
    cases earlier with
    | nil =>
      cases eq
      exact absurd rfl (stays path)
    | cons e earlier =>
      cases eq
      obtain ⟨before, site, rfl, member, fresh⟩ := ih rfl
      refine ⟨_ :: before, site, rfl, member, ?_⟩
      rwa [inlinedPaths_cons_none keeps]
  | marked _ _ rest ih =>
    cases earlier with
    | nil => cases eq
    | cons e earlier =>
      cases eq
      obtain ⟨before, site, rfl, member, fresh⟩ := ih rfl
      refine ⟨_ :: before, site, rfl, member, fun q hq => fresh q ?_⟩
      rw [inlinedPaths_cons_inlined] at hq
      simpa [or_left_comm] using hq
  | entered member fresh rest ih =>
    cases earlier with
    | nil => cases eq
    | cons e earlier =>
      cases earlier with
      | nil =>
        cases eq
        exact ⟨[], _, rfl, member, by simpa [inlinedPaths, introductions] using fresh⟩
      | cons e' earlier =>
        cases eq
        obtain ⟨before, site, rfl, member, fresh⟩ := ih rfl
        refine ⟨_ :: _ :: before, site, rfl, member, fun q hq => fresh q ?_⟩
        rw [inlinedPaths_cons_inlined, inlinedPaths_cons_none rfl] at hq
        simpa [or_left_comm] using hq

end Marks

def Marking (disk : Disk) (reach : List Path) (inner : Path → Text → Visited → Progress) : Prop :=
  ∀ (site : Site) path header (visited : Visited) entered, readHeader disk path = .ok header →
    visited.visit? path = some entered → path ∈ reach →
    Marks reach visited.paths (.inlined site path :: (inner path header entered).events)
      (inner path header entered).visited.paths

theorem lines_marks {reach : List Path} {inner : Path → Text → Visited → Progress}
    (marking : Marking disk reach inner) {file : Path} {number : Nat} {ls : List Text}
    {visited : Visited} (leads : Leads disk search reach file number ls) :
    Marks reach visited.paths (lines disk search inner file number ls visited).events
      (lines disk search inner file number ls visited).visited.paths := by
  induction ls generalizing number visited with
  | nil => exact .done _
  | cons text rest ih =>
    rcases lines_cases disk search file number text rest visited with
      ⟨event, step, keeps, eq⟩ | ⟨site, path, entered, e, step, -, eq⟩ |
      ⟨site, path, entered, header, step, read, eq⟩
    · rw [eq]
      refine .other keeps ?_ (ih leads.tail)
      rintro path rfl
      cases step
    · rw [eq]
      obtain ⟨visit, member⟩ := leads.step step
      obtain ⟨paths, fresh⟩ := Visited.visit?_some visit
      refine .marked member fresh ?_
      rw [paths]
      exact .done _
    · rw [eq]
      obtain ⟨visit, member⟩ := leads.step step
      have inside := marking site path header visited entered read visit member
      cases failed : (inner path header entered).failure with
      | some e =>
        rw [Progress.andThen_failed failed]
        exact inside
      | none =>
        rw [Progress.andThen_done failed]
        refine inside.append ?_
        exact .other rfl (by simp) (.other rfl (by simp) (ih leads.tail))

theorem file_marking {reach : List Path} (closed : Closed disk search reach) (depth : Nat) :
    Marking disk reach (file disk search depth) := by
  induction depth with
  | zero =>
    intro site path header visited entered read visit member
    obtain ⟨paths, fresh⟩ := Visited.visit?_some visit
    refine .marked member fresh ?_
    rw [← paths]
    exact .done _
  | succ depth ih =>
    intro site path header visited entered read visit member
    obtain ⟨paths, fresh⟩ := Visited.visit?_some visit
    refine .entered member fresh ?_
    rw [← paths]
    exact lines_marks ih (closed.header read)

theorem lines_ne_nesting {reach : List Path} {inner : Path → Text → Visited → Progress}
    {depth : Nat} (marking : Marking disk reach inner)
    (enough : ∀ path header visited, readHeader disk path = .ok header →
      room reach visited < depth → (inner path header visited).failure ≠ some .nesting)
    {file : Path} {number : Nat} {ls : List Text} {visited : Visited}
    (leads : Leads disk search reach file number ls) (fits : room reach visited ≤ depth) :
    (lines disk search inner file number ls visited).failure ≠ some .nesting := by
  induction ls generalizing number visited with
  | nil => simp [lines]
  | cons text rest ih =>
    rcases lines_cases disk search file number text rest visited with
      ⟨event, -, -, eq⟩ | ⟨site, path, entered, e, -, unread, eq⟩ |
      ⟨site, path, entered, header, step, read, eq⟩
    · rw [eq]
      exact ih leads.tail fits
    · rw [eq]
      simpa using readHeader_ne_nesting unread
    · rw [eq]
      obtain ⟨visit, member⟩ := leads.step step
      cases failed : (inner path header entered).failure with
      | some e =>
        rw [Progress.andThen_failed failed]
        exact enough path header entered read (Nat.lt_of_lt_of_le (room_visit visit member) fits)
      | none =>
        rw [Progress.andThen_done failed]
        have grown := (marking site path header visited entered read visit member).subset
        exact ih leads.tail (Nat.le_trans (room_mono grown) fits)

/-- A file is merged without running out of depth, if there is more depth than room. -/
theorem file_ne_nesting {reach : List Path} (closed : Closed disk search reach) {depth : Nat}
    {path : Path} {text : Text} {visited : Visited}
    (leads : Leads disk search reach path 1 text.lines) (fits : room reach visited < depth) :
    (file disk search depth path text visited).failure ≠ some .nesting := by
  induction depth generalizing path text visited with
  | zero => cases fits
  | succ depth ih =>
    exact lines_ne_nesting (file_marking closed depth)
      (fun path header visited read fits => ih (closed.header read) fits) leads
      (Nat.le_of_lt_succ fits)

end Merge

/-- How many files are open behind an event, if `k` are open in front of it. -/
def Event.openBehind (k : Nat) : Event → Nat
  | .enter _ => k + 1
  | .leave _ => k - 1
  | _ => k

/-- The most files that are open at a time. `k` of them are open before the events. -/
def mostOpen (k : Nat) : List Event → Nat
  | [] => k
  | e :: events => max k (mostOpen (e.openBehind k) events)

def openAfter (k : Nat) (events : List Event) : Nat := events.foldl Event.openBehind k

theorem openAfter_cons (k : Nat) (e : Event) (events : List Event) :
    openAfter k (e :: events) = openAfter (e.openBehind k) events := rfl

theorem openAfter_append (k : Nat) (a b : List Event) :
    openAfter k (a ++ b) = openAfter (openAfter k a) b := List.foldl_append

theorem openAfter_le_mostOpen (k : Nat) (events : List Event) :
    openAfter k events ≤ mostOpen k events := by
  induction events generalizing k with
  | nil => exact Nat.le_refl _
  | cons e events ih => exact Nat.le_trans (ih _) (Nat.le_max_right _ _)

theorem le_mostOpen (k : Nat) (events : List Event) : k ≤ mostOpen k events := by
  cases events with
  | nil => exact Nat.le_refl _
  | cons e events => exact Nat.le_max_left _ _

theorem mostOpen_append (k : Nat) (a b : List Event) :
    mostOpen k (a ++ b) = max (mostOpen k a) (mostOpen (openAfter k a) b) := by
  induction a generalizing k with
  | nil => simp [mostOpen, openAfter, le_mostOpen]
  | cons e a ih =>
    simp only [List.cons_append, mostOpen, ih, openAfter, List.foldl_cons, Nat.max_assoc]

namespace Merge
variable {disk : Disk} {search : SearchPaths}

/-- With so many files open, `n` more at most are opened at a time; all are closed again at the
end, but for `stays`. -/
def Opens (n stays : Nat) (p : Progress) : Prop :=
  ∀ k, mostOpen k p.events ≤ k + n ∧ (p.failure = none → openAfter k p.events = k + stays)

theorem lines_opens {inner : Path → Text → Visited → Progress} {n : Nat}
    (opens : ∀ path header visited, Opens n 1 (inner path header visited))
    (file : Path) (number : Nat) (ls : List Text) (visited : Visited) :
    Opens n 0 (lines disk search inner file number ls visited) := by
  induction ls generalizing number visited with
  | nil => exact fun k => ⟨Nat.le_add_right _ _, fun _ => rfl⟩
  | cons text rest ih =>
    intro k
    rcases lines_cases disk search file number text rest visited with
      ⟨event, step, keeps, eq⟩ | ⟨site, path, entered, e, -, -, eq⟩ |
      ⟨site, path, entered, header, -, -, eq⟩
    · have same : event.openBehind k = k := by
        cases step <;> rfl
      obtain ⟨most, after⟩ := ih (number + 1) visited k
      rw [eq]
      simp only [Progress.after_events, List.cons_append, List.nil_append, mostOpen, openAfter,
        List.foldl_cons, same, Progress.after_failure]
      exact ⟨by omega, after⟩
    · rw [eq]
      simp [mostOpen, Event.openBehind]
    · rw [eq]
      obtain ⟨most, after⟩ := opens path header entered k
      cases failed : (inner path header entered).failure with
      | some e =>
        rw [Progress.andThen_failed failed]
        simp only [Progress.after_events, List.cons_append, List.nil_append, mostOpen,
          Event.openBehind, Progress.after_failure, failed]
        exact ⟨by omega, by simp⟩
      | none =>
        rw [Progress.andThen_done failed]
        obtain ⟨mostRest, afterRest⟩ := ih (number + 1) (inner path header entered).visited k
        have inside := after failed
        have reached := openAfter_le_mostOpen k (inner path header entered).events
        simp only [Progress.after_events, Progress.after_failure, List.cons_append,
          List.nil_append, mostOpen, mostOpen_append, openAfter_append, openAfter_cons,
          Event.openBehind, inside, Nat.add_sub_cancel]
        exact ⟨by omega, afterRest⟩

theorem file_opens (depth : Nat) (path : Path) (text : Text) (visited : Visited) :
    Opens depth 1 (file disk search depth path text visited) := by
  induction depth generalizing path text visited with
  | zero => exact fun k => ⟨Nat.le_refl _, by simp [file]⟩
  | succ depth ih =>
    intro k
    have inside : Opens depth 0 (lines disk search (file disk search depth) path 1 text.lines
        visited) := lines_opens ih path 1 text.lines visited
    obtain ⟨most, after⟩ := inside (k + 1)
    simp only [file, Progress.after_events, Progress.after_failure, List.cons_append,
      List.nil_append, mostOpen, openAfter_cons, Event.openBehind]
    exact ⟨by omega, after⟩

/-- What the includes of the root and of the files on disk resolve to, each file once. -/
def results (disk : Disk) (search : SearchPaths) (source : Text) : Finset (List Path.Component) :=
  ((reachable disk search source).map Path.components).toFinset

theorem mem_all {text : Text} {file : Path} {l : SourceLine} {d : Directive}
    (h : l ∈ numbered file 1 text.lines) (parsed : Directive.parse? l.text l.number = some d) :
    d ∈ Directive.all text := by
  obtain ⟨-, one, line⟩ := mem_numbered.mp h
  refine List.mem_filterMap.mpr ⟨(l.text, l.number - 1), ?_, ?_⟩
  · exact List.mem_zipIdx_iff_getElem?.mpr line
  · rwa [← Nat.sub_add_cancel one] at parsed

theorem leads_of_mem {source text : Text} (h : text ∈ source :: disk.texts) (file : Path) :
    Leads disk search (reachable disk search source) file 1 text.lines := by
  intro l hl d path parsed found
  exact List.mem_filterMap.mpr ⟨d, List.mem_flatMap.mpr ⟨text, h, mem_all hl parsed⟩, found⟩

theorem reachable_closed (disk : Disk) (search : SearchPaths) (source : Text) :
    Closed disk search (reachable disk search source) :=
  fun _ member file => leads_of_mem (List.mem_cons_of_mem _ member) file

theorem room_le (disk : Disk) (search : SearchPaths) (source : Text) (visited : Visited) :
    room (reachable disk search source) visited ≤ (results disk search source).card :=
  Finset.card_le_card Finset.sdiff_subset

section source
variable (disk : Disk) (search : SearchPaths) (root : Path) (text : Text)

theorem file_results_ne_nesting :
    (file disk search ((results disk search text).card + 1) root text ⟨[root]⟩).failure ≠
      some .nesting :=
  file_ne_nesting (reachable_closed disk search text) (leads_of_mem List.mem_cons_self root)
    (Nat.lt_succ_of_le (room_le disk search text _))

/-- A merge is what any depth gives that has place for the root and all results. -/
theorem source_eq_file {depth : Nat} (le : (results disk search text).card + 1 ≤ depth) :
    (file disk search depth root text ⟨[root]⟩).after [.origin root] =
      source disk search root text := by
  have few : (results disk search text).card ≤ (reachable disk search text).length := by
    refine Nat.le_trans (List.toFinset_card_le _) ?_
    rw [List.length_map]
  have enough := file_results_ne_nesting disk search root text
  rw [source, file_of_le enough le, file_of_le enough (Nat.succ_le_succ few)]

theorem source_ne_nesting : (source disk search root text).failure ≠ some .nesting := by
  rw [← source_eq_file disk search root text (Nat.le_refl _)]
  exact file_results_ne_nesting disk search root text

theorem source_mostOpen :
    mostOpen 0 (source disk search root text).events ≤ (results disk search text).card + 1 := by
  rw [← source_eq_file disk search root text (Nat.le_refl _)]
  obtain ⟨most, -⟩ := file_opens ((results disk search text).card + 1) root text ⟨[root]⟩ 0
  simpa [mostOpen, Event.openBehind] using most

theorem source_marks : ∃ events, (source disk search root text).events =
      .origin root :: .enter root :: events ∧
    Marks (reachable disk search text) [root] events
      (source disk search root text).visited.paths :=
  ⟨_, rfl, lines_marks (file_marking (reachable_closed disk search text) _)
    (leads_of_mem List.mem_cons_self root)⟩

end source
end Merge

theorem mergeSource_cases (disk : Disk) (search : SearchPaths) (markers : MarkerSettings)
    (root : Path) (source : Text) :
    (∃ out, mergeSource disk search markers root source = .ok out) ∨
      ∃ e, e ≠ .nesting ∧ mergeSource disk search markers root source = .error e := by
  have ends := Merge.source_ne_nesting disk search root source
  unfold mergeSource Progress.output
  split
  · rename_i e failed
    exact .inr ⟨e, fun eq => ends (eq ▸ failed), rfl⟩
  · exact .inl ⟨_, rfl⟩

/-- Merging comes to an end, whatever includes and links lead to. A nested file is entered
only when it has just been marked, was not marked before, and is one of those that includes
resolve to; never more files are open than these and the root; and a depth of that many is
enough, so that the result is a text or an error of another kind. -/
theorem mergeSource_ends (disk : Disk) (search : SearchPaths) (root : Path) (source : Text) :
    (∀ depth, (Merge.results disk search source).card + 1 ≤ depth →
      (Merge.file disk search depth root source ⟨[root]⟩).after [.origin root] =
        Merge.source disk search root source) ∧
      mostOpen 0 (Merge.source disk search root source).events ≤
        (Merge.results disk search source).card + 1 ∧
      (Merge.source disk search root source).visited.paths =
        (inlinedPaths (Merge.source disk search root source).events).reverse ++ [root] ∧
      (∀ earlier path later,
        (Merge.source disk search root source).events = earlier ++ .enter path :: later →
        earlier = [.origin root] ∧ path = root ∨
          ∃ before site, earlier = before ++ [.inlined site path] ∧
            path ∈ Merge.reachable disk search source ∧
            ∀ q ∈ root :: inlinedPaths before, path.same q = false) ∧
      ∀ markers, (∃ out, mergeSource disk search markers root source = .ok out) ∨
        ∃ e, e ≠ .nesting ∧ mergeSource disk search markers root source = .error e := by
  obtain ⟨events, front, marks⟩ := Merge.source_marks disk search root source
  refine ⟨fun depth le => Merge.source_eq_file disk search root source le,
    Merge.source_mostOpen disk search root source, ?_, ?_,
    fun markers => mergeSource_cases disk search markers root source⟩
  · rw [front, inlinedPaths_cons_none rfl, inlinedPaths_cons_none rfl]
    exact marks.paths
  intro earlier path later eq
  rw [front] at eq
  match earlier with
  | [] => cases eq
  | [_] =>
    cases eq
    exact .inl ⟨rfl, rfl⟩
  | _ :: _ :: earlier =>
    cases eq
    obtain ⟨before, site, rfl, member, fresh⟩ := marks.enter rfl
    exact .inr ⟨_ :: _ :: before, site, rfl, member, fresh⟩

end Amalgam
