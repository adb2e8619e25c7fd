import Amalgam.Proofs.Merge.Run
import Amalgam.Proofs.Text
import Mathlib.Data.List.Basic

/-! Which source line a compiler takes each line of a merged text for. It reads the
`#line` directives in the text and counts from them; the main statement says that it
finds each line of each merged file once, under its own file and number. -/
namespace Amalgam

/-- The rest of a string literal, which has to end with the text. A backslash stands for
the character behind it. -/
def literal? : Text → Option Text
  | [] => none
  | '\\' :: c :: cs => (literal? cs).map (c :: ·)
  | '"' :: cs => if cs.isEmpty then some [] else none
  | c :: cs => (literal? cs).map (c :: ·)

def readDirective? (line : Text) : Option (Path × Nat) := do
  let rest ← Text.after? "#line ".toList line
  let digits := rest.takeWhile Char.isDigit
  let name ← Text.after? [' ', '"'] (rest.drop digits.length)
  let file ← literal? name
  if digits.isEmpty then none else some (⟨file⟩, Nat.ofDigitChars 10 digits 0)

/-- What a compiler takes the lines of a stream for. Behind a directive the next line is
the one it names; before the first directive nothing is known. -/
def interpret : (here : Option (Path × Nat)) → List Text → List ((Path × Nat) × Text)
  | _, [] => []
  | here, line :: rest =>
    match readDirective? line, here with
    | some place, _ => interpret (some place) rest
    | none, some (file, number) =>
      ((file, number), line) :: interpret (some (file, number + 1)) rest
    | none, none => interpret none rest

/-- The lines of a stream that are taken for the line at `place`. -/
def takenFor (stream : Text) (place : Path × Nat) : List Text :=
  ((interpret none (stream.splitOn '\n')).filter (·.1 = place)).map (·.2)

def looksDirective (line : Text) : Bool := "#line".toList.isPrefixOf (Text.trim line)

theorem Path.escaped_cons (c : Char) (cs : Text) :
    Path.escaped ⟨c :: cs⟩ =
      (if c = '"' ∨ c = '\\' then ['\\', c] else [c]) ++ Path.escaped ⟨cs⟩ := by
  unfold Path.escaped
  by_cases slash : c = '\\'
  · subst c
    simp [Text.replace_cons]
  · by_cases quote : c = '"'
    · subst c
      simp [Text.replace_cons]
    · simp [Text.replace_cons, slash, quote]

theorem literal?_escaped (p : Path) : literal? (p.escaped ++ ['"']) = some p.text := by
  obtain ⟨cs⟩ := p
  induction cs with
  | nil => rfl
  | cons c cs ih =>
    rw [Path.escaped_cons]
    split
    · simp [literal?, ih]
    · rename_i plain
      rw [not_or] at plain
      simp [literal?, plain, ih]

theorem lineDirective_eq (number : Nat) (file : Path) :
    lineDirective number file = "#line ".toList ++
      (Nat.toDigits 10 number ++ ([' ', '"'] ++ (file.escaped ++ ['"']))) := by
  have quote : " \"".toList = [' ', '"'] := by decide
  have digits : (toString number).toList = Nat.toDigits 10 number := by
    rw [Nat.toString_eq_ofList_toDigits, String.toList_ofList]
  unfold lineDirective
  rw [digits, quote]
  simp only [List.append_assoc]

theorem readDirective?_lineDirective (number : Nat) (file : Path) :
    readDirective? (lineDirective number file) = some (file, number) := by
  have digits : ∀ c ∈ Nat.toDigits 10 number, c.isDigit = true :=
    fun c hc => Nat.isDigit_of_mem_toDigits (by omega) (by omega) hc
  have span : (Nat.toDigits 10 number ++ ([' ', '"'] ++ (file.escaped ++ ['"']))).takeWhile
      Char.isDigit = Nat.toDigits 10 number := by
    rw [List.takeWhile_append_of_pos digits]
    simp
  rw [readDirective?, lineDirective_eq, Text.after?_append]
  simp only [Option.bind_eq_bind, Option.bind_some, span, List.drop_left, Text.after?_append,
    literal?_escaped, Nat.ofDigitChars_ten_toDigits]
  simp [Nat.toDigits_ne_nil]

theorem readDirective?_eq_none {line : Text} (h : looksDirective line = false) :
    readDirective? line = none := by
  by_contra some
  obtain ⟨place, eq⟩ := Option.ne_none_iff_exists'.mp some
  unfold readDirective? at eq
  obtain ⟨rest, lead, -⟩ := Option.bind_eq_some_iff.mp eq
  have kept : "#line".toList <+: Text.trim line := by
    rw [Text.after?_eq_some.mp lead]
    exact Text.isPrefix_trim '#' ['l', 'i', 'n'] 'e' (' ' :: rest) (by decide) (by decide)
  rw [looksDirective, List.isPrefixOf_iff_prefix.mpr kept] at h
  cases h

/-- The line that an event adds, and what it is taken for. The marker behind a file
counts as one more line of it. -/
def Event.shown? (disk : Disk) (markers : MarkerSettings) (e : Event) :
    Option ((Path × Nat) × Text) :=
  match e with
  | .leave path => (e.line? markers).map (((path, (disk.linesOf path).length + 1), ·))
  | _ =>
    match e.place?, e.line? markers with
    | some place, some text => some (place, text)
    | _, _ => none

theorem Event.shown?_filter (disk : Disk) (markers : MarkerSettings) {e : Event}
    (stays : ∀ path, e ≠ .leave path) (place : Path × Nat) :
    (e.shown? disk markers).filter (·.1 = place) =
      if e.place? = some place then e.shown? disk markers else none := by
  have shown : e.shown? disk markers =
      e.place?.bind fun place => (e.line? markers).map (place, ·) := by
    cases e with
    | leave path => exact absurd rfl (stays path)
    | _ => rfl
  rw [shown]
  cases e.place? <;> cases e.line? markers <;> simp [Option.filter]

theorem interpret_cons_directive (here : Option (Path × Nat)) (number : Nat) (file : Path)
    (rest : List Text) :
    interpret here (lineDirective number file :: rest) = interpret (some (file, number)) rest := by
  simp [interpret, readDirective?_lineDirective]

theorem interpret_cons_plain {line : Text} (h : readDirective? line = none) (file : Path)
    (number : Nat) (rest : List Text) :
    interpret (some (file, number)) (line :: rest) =
      ((file, number), line) :: interpret (some (file, number + 1)) rest := by
  simp [interpret, h]

theorem readDirective?_comment (t : Text) : readDirective? ('/' :: t) = none := by
  simp [readDirective?, Text.after?]

namespace Merge
variable {disk : Disk} {search : SearchPaths} {file : Path} {number : Nat} {ls : List Text}
  {visited after : Visited} {events : List Event}

theorem Step.shown {l : SourceLine} {event : Event} (markers : MarkerSettings)
    (h : Step disk search visited l event after) (keeps : event.introduced? = none)
    (clean : looksDirective l.text = false) :
    ∃ text, event.line? markers = some text ∧ readDirective? text = none ∧
      event.shown? disk markers = some (l.place, text) := by
  have place := h.place
  cases h with
  | pragmaOnce once => exact ⟨_, rfl, readDirective?_comment _, rfl⟩
  | copied once plain => exact ⟨_, rfl, readDirective?_eq_none clean, rfl⟩
  | external once parsed missing =>
    exact ⟨_, rfl, readDirective?_eq_none clean, by simp [Event.shown?, place, Event.line?]⟩
  | elided once parsed found known =>
    exact ⟨[], rfl, rfl, by simp [Event.shown?, place, Event.line?]⟩
  | inlined once parsed found fresh => cases keeps

/-- A compiler that stands at the first line of a run reads the run's lines as they are
shown, and then stands behind its last line. -/
theorem Run.interpreted (markers : MarkerSettings)
    (run : Run disk search file number ls visited events after)
    (clean : ∀ l ∈ numbered file number ls ++ broughtIn disk events,
      looksDirective l.text = false) (more : List Text) :
    interpret (some (file, number)) (events.filterMap (Event.line? markers) ++ more) =
      events.filterMap (Event.shown? disk markers) ++
        interpret (some (file, number + ls.length)) more := by
  induction run generalizing more with
  | done => rfl
  | @line file number text rest _ _ _ event events step keeps tail ih =>
    rw [numbered_cons, List.cons_append, List.forall_mem_cons] at clean
    obtain ⟨shownText, isLine, plain, isShown⟩ := step.shown markers keeps clean.1
    have rest : broughtIn disk (event :: events) = broughtIn disk events := by
      rw [broughtIn, inlinedPaths_cons_none keeps, broughtIn]
    rw [List.filterMap_cons_some isLine, List.filterMap_cons_some isShown, List.cons_append,
      interpret_cons_plain plain, ih (rest ▸ clean.2)]
    simp [SourceLine.place, Nat.add_assoc, Nat.add_comm 1]
  | @inlined file path number text header rest site _ _ _ _ inside events step read inner tail
      ihInner ihTail =>
    rw [broughtIn_nested, linesOf_of_readHeader read] at clean
    have cleanInner : ∀ l ∈ numbered path 1 header.lines ++ broughtIn disk inside,
        looksDirective l.text = false := by
      intro l hl
      exact clean l (List.mem_append_right _ (List.mem_append_left _ hl))
    have cleanTail : ∀ l ∈ numbered file (number + 1) rest ++ broughtIn disk events,
        looksDirective l.text = false := by
      intro l hl
      rcases List.mem_append.mp hl with hl | hl
      · exact clean l (List.mem_append_left _ (List.mem_cons_of_mem _ hl))
      · exact clean l (List.mem_append_right _ (List.mem_append_right _ hl))
    -- The directive at the start of the file, its lines, the marker, the directive behind it.
    have inside := ihInner cleanInner
    have behind := ihTail cleanTail more
    have marker : readDirective? ("// ".toList ++ (markers.commentLabel ++
        (": end of file ".toList ++ path.text))) = none := readDirective?_comment _
    simp only [List.filterMap_cons, List.filterMap_append, Event.line?, Event.shown?, Event.place?,
      Option.map_some, List.append_assoc, List.cons_append, interpret_cons_directive, inside,
      linesOf_of_readHeader read]
    rw [interpret_cons_plain marker, interpret_cons_directive, behind]
    simp [Nat.add_assoc, Nat.add_comm 1]

end Merge

theorem newline_not_mem_escaped {p : Path} (h : '\n' ∉ p.text) : '\n' ∉ p.escaped :=
  Text.not_mem_replace (by decide) (Text.not_mem_replace (by decide) h)

theorem newline_not_mem_lineDirective (number : Nat) {file : Path} (h : '\n' ∉ file.text) :
    '\n' ∉ lineDirective number file := by
  have digits : '\n' ∉ Nat.toDigits 10 number := by
    intro hn
    have digit : '\n'.isDigit = true := Nat.isDigit_of_mem_toDigits (by omega) (by omega) hn
    exact absurd digit (by decide)
  rw [lineDirective_eq]
  simp [digits, newline_not_mem_escaped h]

theorem Disk.newline_not_mem_linesOf {disk : Disk} {path : Path} {line : Text}
    (h : line ∈ disk.linesOf path) : '\n' ∉ line := by
  unfold linesOf at h
  split at h
  · exact Text.newline_not_mem_of_mem_lines h
  · cases h

namespace Merge
variable {disk : Disk} {search : SearchPaths} {root : Path} {source : Text}
  {events : List Event} {after : Visited} {markers : MarkerSettings}

theorem newline_not_mem_merged {l : SourceLine}
    (h : l ∈ numbered root 1 source.lines ++ broughtIn disk events) : '\n' ∉ l.text := by
  rcases List.mem_append.mp h with h | h
  · exact Text.newline_not_mem_of_mem_lines (List.mem_of_getElem? (mem_numbered.mp h).2.2)
  · obtain ⟨p, -, h⟩ := List.mem_flatMap.mp h
    exact Disk.newline_not_mem_linesOf (List.mem_of_getElem? (mem_numbered.mp h).2.2)

theorem Run.newline_not_mem (run : Run disk search root 1 source.lines ⟨[root]⟩ events after)
    (label : '\n' ∉ markers.commentLabel)
    (paths : ∀ p ∈ root :: inlinedPaths events, '\n' ∉ p.text)
    {e : Event} (he : e ∈ events) {text : Text} (line : e.line? markers = some text) :
    '\n' ∉ text := by
  have within := run.within e he
  cases placed : e.place?.isSome with
  | true =>
    obtain ⟨l, hl, _, _, step⟩ := run.step_of_mem he placed
    have clean := newline_not_mem_merged hl
    cases step with
    | pragmaOnce once =>
      cases line
      simp [label]
    | copied once plain =>
      cases line
      exact clean
    | external once parsed missing =>
      cases line
      exact clean
    | elided once parsed found known =>
      cases line
      simp
    | inlined once parsed found fresh => cases line
  | false =>
    cases e with
    | origin path => exact within.elim
    | enter path =>
      cases line
      exact newline_not_mem_lineDirective 1 (paths path (List.mem_cons_of_mem _ within))
    | leave path =>
      cases line
      simp [label, paths path (List.mem_cons_of_mem _ within)]
    | resume path number =>
      cases line
      exact newline_not_mem_lineDirective number (paths path within)
    | _ => cases placed

theorem Run.stream (run : Run disk search root 1 source.lines ⟨[root]⟩ events after)
    (names : '\n' ∉ markers.originDefine ∧ '\n' ∉ markers.commentLabel)
    (paths : ∀ p ∈ root :: inlinedPaths events, '\n' ∉ p.text) :
    (Event.text markers (.origin root :: .enter root :: events)).splitOn '\n' =
      (.origin root :: .enter root :: events : List Event).filterMap (Event.line? markers) := by
  have rootPlain : '\n' ∉ root.text := paths root List.mem_cons_self
  refine List.splitOn_intercalate '\n' ?_ (by simp [Event.line?])
  intro line h
  obtain ⟨e, he, eq⟩ := List.mem_filterMap.mp h
  rcases List.mem_cons.mp he with rfl | he
  · cases eq
    simp [names.1, newline_not_mem_escaped rootPlain]
  · rcases List.mem_cons.mp he with rfl | he
    · cases eq
      exact newline_not_mem_lineDirective 1 rootPlain
    · exact run.newline_not_mem names.2 paths he eq

theorem Run.interpret_stream (run : Run disk search root 1 source.lines ⟨[root]⟩ events after)
    (names : '\n' ∉ markers.originDefine ∧ '\n' ∉ markers.commentLabel)
    (paths : ∀ p ∈ root :: inlinedPaths events, '\n' ∉ p.text)
    (clean : ∀ l ∈ numbered root 1 source.lines ++ broughtIn disk events,
      looksDirective l.text = false) :
    interpret none ((Event.text markers (.origin root :: .enter root :: events)).splitOn '\n') =
      events.filterMap (Event.shown? disk markers) := by
  have first : readDirective? ("#define ".toList ++ (markers.originDefine ++ (" (\"".toList ++
      (root.escaped ++ "\")".toList)))) = none := rfl
  have whole := run.interpreted markers clean []
  rw [List.append_nil, interpret, List.append_nil] at whole
  rw [run.stream names paths]
  simp only [List.filterMap_cons, Event.line?, List.append_assoc, interpret, first,
    readDirective?_lineDirective, whole]

def Merged (disk : Disk) (root : Path) (source : Text) (r : Report) (file : Path) (text : Text) :
    Prop :=
  file = root ∧ text = source ∨ file ∈ r.inlined ∧ disk.readText file = .ok text

theorem mem_merged {l : SourceLine} :
    l ∈ numbered root 1 source.lines ++ broughtIn disk events ↔
      ∃ text, Merged disk root source (.ofEvents root events) l.file text ∧ 1 ≤ l.number ∧
        text.lines[l.number - 1]? = some l.text := by
  unfold Merged
  rw [Report.ofEvents_inlined, List.mem_append, mem_numbered]
  constructor
  · rintro (⟨rfl, le, hn⟩ | h)
    · exact ⟨source, .inl ⟨rfl, rfl⟩, le, hn⟩
    · obtain ⟨p, hp, h⟩ := List.mem_flatMap.mp h
      obtain ⟨rfl, le, hn⟩ := mem_numbered.mp h
      unfold Disk.linesOf at hn
      split at hn
      · rename_i text read
        exact ⟨text, .inr ⟨hp, read⟩, le, hn⟩
      · simp at hn
  · rintro ⟨text, ⟨file, rfl⟩ | ⟨hp, read⟩, le, hn⟩
    · exact .inl ⟨file, le, hn⟩
    · refine .inr (List.mem_flatMap.mpr ⟨l.file, hp, mem_numbered.mpr ⟨rfl, le, ?_⟩⟩)
      simpa [Disk.linesOf, read] using hn

theorem filter_eq_singleton {α β : Type} [DecidableEq β] {f : α → β} {l : List α} {a : α}
    (apart : l.Pairwise fun x y => f x ≠ f y) (h : a ∈ l) : l.filter (f · = f a) = [a] := by
  induction l with
  | nil => cases h
  | cons x xs ih =>
    obtain ⟨first, rest⟩ := List.pairwise_cons.mp apart
    rcases List.mem_cons.mp h with rfl | h
    · have none : xs.filter (f · = f a) = [] := by
        simpa [List.filter_eq_nil_iff] using fun y hy => (first y hy).symm
      simp [none]
    · simpa [first a h] using ih rest h

theorem Run.event_of_line (run : Run disk search root 1 source.lines ⟨[root]⟩ events after) {l : SourceLine}
    (hl : l ∈ numbered root 1 source.lines ++ broughtIn disk events) :
    ∃ e, events.filter (·.place? = some l.place) = [e] ∧
      ∃ before after, Step disk search before l e after := by
  obtain ⟨ledger, steps, eq, perm⟩ := run.ledger
  obtain ⟨⟨l, e⟩, entry, rfl⟩ := List.mem_map.mp (perm.symm.subset hl)
  have lines : (ledger.map (·.1)).Pairwise fun l l' => l.place ≠ l'.place := by
    rw [perm.pairwise_iff fun ne => ne.symm]
    exact merged_apart root source.lines events run.files_nodup
  have apart : ledger.Pairwise fun x y => x.1.place ≠ y.1.place := by
    simpa only [List.pairwise_map] using lines
  have single : ledger.filter (·.1.place = l.place) = [(l, e)] :=
    filter_eq_singleton (f := fun x => x.1.place) apart entry
  have placed : (ledger.map (·.2)).filter (·.place? = some l.place) = [e] := by
    rw [List.filter_map, List.filter_congr (q := (·.1.place = l.place)), single]
    · rfl
    · intro x hx
      obtain ⟨_, _, step⟩ := steps x hx
      simp [step.place]
  refine ⟨e, ?_, steps _ entry⟩
  rw [← placed, eq, List.filter_filter]
  apply List.filter_congr
  intro x _
  cases x.place? <;> simp

theorem Run.leave_apart (run : Run disk search root 1 source.lines ⟨[root]⟩ events after) {l : SourceLine}
    (hl : l ∈ numbered root 1 source.lines ++ broughtIn disk events) {path : Path}
    (left : .leave path ∈ events) : (path, (disk.linesOf path).length + 1) ≠ l.place := by
  intro eq
  have brought : path ∈ inlinedPaths events := run.within _ left
  have file : path = l.file := congrArg Prod.fst eq
  have number : (disk.linesOf path).length + 1 = l.number := congrArg Prod.snd eq
  rcases List.mem_append.mp hl with hl | hl
  · have fresh := (List.nodup_cons.mp run.files_nodup).1
    rw [← (mem_numbered.mp hl).1, ← file] at fresh
    exact fresh brought
  · obtain ⟨p, -, hl⟩ := List.mem_flatMap.mp hl
    obtain ⟨rfl, -, text⟩ := mem_numbered.mp hl
    have bound := (List.getElem?_eq_some_iff.mp text).1
    rw [← file] at bound
    omega

theorem Run.taken (run : Run disk search root 1 source.lines ⟨[root]⟩ events after)
    (names : '\n' ∉ markers.originDefine ∧ '\n' ∉ markers.commentLabel)
    (paths : ∀ p ∈ root :: inlinedPaths events, '\n' ∉ p.text)
    (clean : ∀ l ∈ numbered root 1 source.lines ++ broughtIn disk events,
      looksDirective l.text = false)
    {l : SourceLine} (hl : l ∈ numbered root 1 source.lines ++ broughtIn disk events)
    {e : Event} (only : events.filter (·.place? = some l.place) = [e]) :
    takenFor (Event.text markers (.origin root :: .enter root :: events)) l.place =
      ([e].filterMap (Event.shown? disk markers)).map (·.2) := by
  rw [takenFor, run.interpret_stream names paths clean, ← only, List.filter_filterMap,
    List.filterMap_filter]
  congr 1
  apply List.filterMap_congr
  intro x hx
  by_cases left : ∃ path, x = .leave path
  · obtain ⟨path, rfl⟩ := left
    simp [Event.shown?, Event.line?, Event.place?, run.leave_apart hl hx]
  · simpa using Event.shown?_filter disk markers (not_exists.mp left) l.place

theorem any_place_filterMap {view : Event → Option (Site × Path)} {e : Event}
    {place : Path × Nat}
    (placed : ∀ x entry, view x = some entry → x.place? = some entry.1.place)
    (only : events.filter (·.place? = some place) = [e]) :
    (events.filterMap view).any (·.1.place = place) = (view e).isSome := by
  have member : ∀ x, x ∈ events ∧ x.place? = some place ↔ x = e := by
    intro x
    rw [← List.mem_singleton (b := e), ← only, List.mem_filter, decide_eq_true_iff]
  rw [Bool.eq_iff_iff, List.any_eq_true]
  constructor
  · rintro ⟨entry, found, eq⟩
    obtain ⟨x, hx, viewed⟩ := List.mem_filterMap.mp found
    have same : entry.1.place = place := by simpa using eq
    rw [← (member x).mp ⟨hx, same ▸ placed x entry viewed⟩, viewed]
    rfl
  · intro some
    obtain ⟨entry, viewed⟩ := Option.isSome_iff_exists.mp some
    obtain ⟨he, atPlace⟩ := (member e).mpr rfl
    have same : entry.1.place = place :=
      Option.some.inj ((placed e entry viewed).symm.trans atPlace)
    exact ⟨entry, List.mem_filterMap.mpr ⟨e, he, viewed⟩, by simpa using same⟩

def dropped? : Event → Option (Site × Path)
  | .elided site path => some (site, path)
  | _ => none

theorem Run.line_taken (run : Run disk search root 1 source.lines ⟨[root]⟩ events after)
    (names : '\n' ∉ markers.originDefine ∧ '\n' ∉ markers.commentLabel)
    (paths : ∀ p ∈ root :: inlinedPaths events, '\n' ∉ p.text)
    (clean : ∀ l ∈ numbered root 1 source.lines ++ broughtIn disk events,
      looksDirective l.text = false)
    {l : SourceLine} (hl : l ∈ numbered root 1 source.lines ++ broughtIn disk events) :
    takenFor (Event.text markers (.origin root :: .enter root :: events)) l.place =
      if (introductions events).any (·.1.place = l.place) then []
      else if isPragmaOnce l.text then
        ["// ".toList ++ markers.commentLabel ++ ": #pragma once".toList]
      else if (Report.ofEvents root events).elided.any (·.1.place = l.place) then [[]]
      else [l.text] := by
  obtain ⟨e, only, _, _, step⟩ := run.event_of_line hl
  have introduced : (introductions events).any (·.1.place = l.place) = e.introduced?.isSome :=
    any_place_filterMap (fun x => by cases x <;> simp [Event.introduced?, Event.place?]) only
  have elided : (Report.ofEvents root events).elided.any (·.1.place = l.place) =
      (dropped? e).isSome :=
    any_place_filterMap (fun x => by cases x <;> simp [Event.place?]) only
  have place := step.place
  rw [run.taken names paths clean hl only, introduced, elided]
  cases step with
  | pragmaOnce once => simp [once, Event.introduced?, Event.shown?, Event.line?, Event.place?]
  | copied once plain =>
    simp [once, Event.introduced?, dropped?, Event.shown?, Event.line?, Event.place?]
  | external once parsed missing =>
    simp [once, Event.introduced?, dropped?, Event.shown?, Event.line?, Event.place?]
  | elided once parsed found known =>
    simp [once, Event.introduced?, dropped?, Event.shown?, Event.line?, Event.place?]
  | inlined once parsed found fresh => simp [Event.introduced?, Event.shown?, Event.line?]

end Merge

/-- A compiler that reads a merged text finds each line of each merged file once, under
its own number: as it was, as the marker of a `#pragma once`, or empty where an include
was dropped. A line that brought in a file is not there any more. -/
theorem mergeSource_line_provenance {disk : Disk} {search : SearchPaths} {markers : MarkerSettings}
    {root : Path} {source : Text} {out : Output}
    (h : mergeSource disk search markers root source = .ok out)
    (names : '\n' ∉ markers.originDefine ∧ '\n' ∉ markers.commentLabel)
    (paths : ∀ p ∈ root :: out.report.inlined, '\n' ∉ p.text)
    (clean : ∀ file text, Merge.Merged disk root source out.report file text →
      ∀ line ∈ text.lines, looksDirective line = false)
    {file : Path} {text : Text} (merged : Merge.Merged disk root source out.report file text)
    {k : Nat} {line : Text} (hk : text.lines[k]? = some line) :
    takenFor out.text (file, k + 1) =
      if (introductions (Merge.source disk search root source).events).any
          (·.1.place = (file, k + 1)) then []
      else if isPragmaOnce line then
        ["// ".toList ++ markers.commentLabel ++ ": #pragma once".toList]
      else if out.report.elided.any (·.1.place = (file, k + 1)) then [[]]
      else [line] := by
  obtain ⟨ok, rfl⟩ := Progress.output_ok h
  obtain ⟨events, eq, run⟩ := Merge.source_run ok
  rw [eq] at paths clean merged ⊢
  -- The two events in front of the run name no include.
  change Merge.Merged disk root source (.ofEvents root events) file text at merged
  change ∀ p ∈ root :: (Report.ofEvents root events).inlined, '\n' ∉ p.text at paths
  rw [Report.ofEvents_inlined] at paths
  have cleanLines : ∀ l ∈ numbered root 1 source.lines ++ Merge.broughtIn disk events,
      looksDirective l.text = false := by
    intro l hl
    obtain ⟨text, merged, -, hn⟩ := Merge.mem_merged.mp hl
    exact clean l.file text merged l.text (List.mem_of_getElem? hn)
  have here : (⟨file, k + 1, line⟩ : SourceLine) ∈
      numbered root 1 source.lines ++ Merge.broughtIn disk events :=
    Merge.mem_merged.mpr ⟨text, merged, by simp, by simpa using hk⟩
  exact run.line_taken names paths cleanLines here

/-- Inside of a header, the include of the source that brought it in leaves an empty line
with the number of that include. -/
theorem mergeSource_line_provenance_mutual : ∃ out,
    mergeSource mutualDisk mutualSearch {} (.ofString "/w/m.c") "#include \"a.h\"".toList =
      .ok out ∧ takenFor out.text (.ofString "/w/a.h", 2) = [[]] := by
  have header : mutualDisk.readText (.ofString "/w/a.h") =
      .ok "#pragma once\n#include \"m.c\"\nint a;".toList := by decide +kernel
  have report : ((mergeSource mutualDisk mutualSearch {} (.ofString "/w/m.c")
      "#include \"a.h\"".toList).toOption.map fun out =>
        (out.report.inlined, out.report.elided.any (·.1.place = (.ofString "/w/a.h", 2)))) =
      some ([.ofString "/w/a.h"], true) := by decide +kernel
  have kept : (introductions (Merge.source mutualDisk mutualSearch (.ofString "/w/m.c")
      "#include \"a.h\"".toList).events).any (·.1.place = (.ofString "/w/a.h", 2)) = false := by
    decide +kernel
  cases h : mergeSource mutualDisk mutualSearch {} (.ofString "/w/m.c")
      "#include \"a.h\"".toList with
  | error e =>
    rw [h] at report
    cases report
  | ok out =>
    rw [h] at report
    obtain ⟨files, dropped⟩ := Prod.mk.inj (Option.some.inj report)
    have merged : Merge.Merged mutualDisk (.ofString "/w/m.c") "#include \"a.h\"".toList out.report
        (.ofString "/w/a.h") "#pragma once\n#include \"m.c\"\nint a;".toList :=
      .inr ⟨by simp [files], header⟩
    have second : (Text.lines "#pragma once\n#include \"m.c\"\nint a;".toList)[1]? =
      some "#include \"m.c\"".toList := by decide
    refine ⟨out, rfl, ?_⟩
    rw [mergeSource_line_provenance h (by decide) ?_ ?_ merged second, kept, dropped]
    · decide
    · rw [files]
      decide
    · rintro file text (⟨rfl, rfl⟩ | ⟨hp, read⟩)
      · decide
      · rw [files, List.mem_singleton] at hp
        rw [hp, header] at read
        cases read
        decide

end Amalgam
