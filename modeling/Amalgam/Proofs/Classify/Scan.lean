import Amalgam.Proofs.Marker

/-! How a text is read. A scan says which steps the reader takes, without its memory of
what lies ahead and without a bound on its steps; every reading is such a scan. -/
namespace Amalgam

open Marker (Clear Next)

theorem Matcher.spans_lawful {ss : List Span} {text : Text}
    (inside : ∀ s ∈ ss, s.start ≤ s.stop ∧ s.stop ≤ text.length) :
    (Matcher.spans ss).Lawful text := by
  intro start found _ h
  obtain ⟨s, first, rfl⟩ := Option.map_eq_some_iff.mp h
  have ahead := List.find?_some first
  exact ⟨by simpa using ahead, inside s (List.mem_of_find?_eq_some first)⟩

namespace Reading
variable (i : Nat) (code : Text) (b : Block) (r : Reading)

@[simp] theorem codeFirst_failure : (codeFirst i code r).failure = r.failure := by
  unfold codeFirst
  split <;> rfl

@[simp] theorem blockFirst_failure : (blockFirst b r).failure = r.failure := rfl

@[simp] theorem blockFirst_blocks : (blockFirst b r).blocks = b :: r.blocks := rfl

theorem codeFirst_slice {text : Text} {i j : Nat} (le : i ≤ j) (inside : j ≤ text.length) :
    codeFirst i (text.slice i j) r =
      if i = j then r else blockFirst ⟨.code, ⟨i, j⟩, text.slice i j, []⟩ r := by
  have length := text.length_slice le inside
  by_cases eq : i = j
  · subst eq
    simp [codeFirst]
  · have ne : (text.slice i j).isEmpty = false := by
      rw [List.isEmpty_eq_false_iff, Ne, ← List.length_eq_zero_iff]
      omega
    rw [codeFirst, ne, length, if_neg eq]
    rfl

theorem forall_codeFirst {P : Block → Prop} {text : Text} {i j : Nat} {r : Reading} (le : i ≤ j)
    (inside : j ≤ text.length) (code : P ⟨.code, ⟨i, j⟩, text.slice i j, []⟩)
    (rest : ∀ b ∈ r.blocks, P b) : ∀ b ∈ (codeFirst i (text.slice i j) r).blocks, P b := by
  rw [r.codeFirst_slice le inside]
  split
  · exact rest
  · exact List.forall_mem_cons.mpr ⟨code, rest⟩

end Reading

namespace Classify
variable {m : Matcher} {text : Text}

/-- The steps that read `text` on from `pos`, with code not yet in a block from `plain` on.
A construct may have been found from further back than `pos`, and only the marker of a line
comment may stand where it starts. -/
inductive Scan (m : Matcher) (text : Text) : (plain pos : Nat) → Reading → Prop
  | done {plain pos : Nat} (clear : Clear text pos text.length) :
      Scan m text plain pos (.codeFirst plain (text.drop plain) ⟨[], none⟩)
  | construct {plain pos asked : Nat} {found : Match} {r : Reading}
      (behind : asked ≤ pos) (answer : construct? m text asked = some found)
      (ahead : pos ≤ found.span.start) (clear : Clear text pos found.span.start)
      (first : ∀ kind, Marker.at? (text.drop found.span.start) = some kind → kind = .lineComment)
      (rest : Scan m text found.span.stop found.span.stop r) :
      Scan m text plain pos
        (.codeFirst plain (text.slice plain found.span.start) <| .blockFirst
          ⟨.construct, found.span, found.span.slice text,
            found.groups.map (·.map (·.slice text))⟩ r)
  | block {plain pos i length : Nat} {marker : Marker} {kind : BlockKind} {r : Reading}
      (next : Next text pos marker i)
      (opens : opened (text.drop i) marker = .block kind length)
      (rest : Scan m text (i + length) (i + length) r) :
      Scan m text plain pos
        (.codeFirst plain (text.slice plain i) <| .blockFirst
          ⟨kind, ⟨i, i + length⟩, text.slice i (i + length), []⟩ r)
  | stray {plain pos i : Nat} {marker : Marker} {r : Reading}
      (next : Next text pos marker i) (opens : opened (text.drop i) marker = .stray)
      (rest : Scan m text plain (i + 1) r) : Scan m text plain pos r
  | unterminated {plain pos i : Nat} {marker : Marker}
      (next : Next text pos marker i) (opens : opened (text.drop i) marker = .unterminated) :
      Scan m text plain pos ⟨[], some (.ofPosition text i)⟩

theorem Ahead.get_cases {α : Type} (ahead : Ahead α) (start : α → Nat) (pos : Nat)
    (ask : Unit → Option α) :
    ahead.get start pos ask = ask () ∨
      (ahead = some none ∧ ahead.get start pos ask = none) ∨
      ∃ a, ahead = some (some a) ∧ pos ≤ start a ∧ ahead.get start pos ask = some a := by
  match ahead with
  | none => exact .inl rfl
  | some none => exact .inr (.inl ⟨rfl, rfl⟩)
  | some (some a) =>
    by_cases behind : start a < pos
    · exact .inl (if_pos behind)
    · exact .inr (.inr ⟨a, rfl, Nat.le_of_not_lt behind, if_neg behind⟩)

def Ahead.Known {α : Type} (ask : Nat → Option α) (pos : Nat) (ahead : Ahead α) : Prop :=
  ∀ answer, ahead = some answer → ∃ asked, asked ≤ pos ∧ ask asked = answer

namespace Ahead.Known
variable {α : Type} {ask : Nat → Option α} {pos : Nat}

theorem unasked : Known ask pos none := by
  intro answer h
  cases h

theorem of_answer {asked pos' : Nat} {answer : Option α} (behind : asked ≤ pos)
    (h : ask asked = answer) (le : pos ≤ pos') : Known ask pos' (some answer) := by
  intro answer' eq
  cases eq
  exact ⟨asked, Nat.le_trans behind le, h⟩

theorem get {ahead : Ahead α} (h : Known ask pos ahead) (start : α → Nat)
    (lawful : ∀ a, ask pos = some a → pos ≤ start a) :
    ∃ asked, asked ≤ pos ∧ ask asked = ahead.get start pos (fun _ => ask pos) ∧
      ∀ a, ahead.get start pos (fun _ => ask pos) = some a → pos ≤ start a := by
  rcases get_cases ahead start pos (fun _ => ask pos) with eq | ⟨rfl, eq⟩ | ⟨a, rfl, le, eq⟩
  · exact ⟨pos, Nat.le_refl _, eq.symm, by rwa [eq]⟩
  · obtain ⟨asked, behind, answer⟩ := h none rfl
    exact ⟨asked, behind, by rw [eq, answer], by simp [eq]⟩
  · obtain ⟨asked, behind, answer⟩ := h (some a) rfl
    refine ⟨asked, behind, by rw [eq, answer], ?_⟩
    intro a' eq'
    rw [eq] at eq'
    cases eq'
    exact le

end Ahead.Known

theorem step?_none {marker : Option (Marker × Nat)} {construct : Option Match}
    (h : step? marker construct = none) : marker = none := by
  unfold step? at h
  split at h
  · split at h <;> cases h
  · cases h
  · cases h
  · rfl

theorem step?_marker {marker : Option (Marker × Nat)} {construct : Option Match}
    {kind : Marker} {i : Nat} (h : step? marker construct = some (.marker kind i)) :
    marker = some (kind, i) := by
  unfold step? at h
  split at h
  · split at h <;> cases h
    rfl
  · cases h
    rfl
  · cases h
  · cases h

theorem step?_ahead {marker : Option (Marker × Nat)} {found : Match} :
    step? marker (some found) ≠ none ∧
      ∀ kind i, step? marker (some found) = some (.marker kind i) → i ≤ found.span.start := by
  cases marker with
  | none => simp [step?]
  | some next =>
    simp only [step?]
    split
    · simp
    · rename_i first
      simp only [Bool.or_eq_true, decide_eq_true_eq, not_or] at first
      simp only [ne_eq, reduceCtorEq, not_false_eq_true, true_and, Option.some.injEq,
        Step.marker.injEq]
      omega

theorem step?_construct {marker : Option (Marker × Nat)} {construct : Option Match}
    {found : Match} (h : step? marker construct = some (.construct found)) :
    construct = some found ∧ ∀ kind i, marker = some (kind, i) → found.span.start ≤ i := by
  unfold step? at h
  split at h
  · rename_i kind i next
    split at h
    · rename_i first
      cases h
      refine ⟨rfl, ?_⟩
      intro kind' i' eq
      cases eq
      simp only [Bool.or_eq_true, decide_eq_true_eq, Bool.and_eq_true, beq_iff_eq] at first
      omega
    · cases h
  · cases h
  · cases h
    exact ⟨rfl, by simp⟩
  · cases h

theorem step?_lineComment {kind : Marker} {i : Nat} {construct : Option Match} {found : Match}
    (h : step? (some (kind, i)) construct = some (.construct found)) (same : found.span.start = i) :
    kind = .lineComment := by
  cases construct with
  | none => cases h
  | some m =>
    simp only [step?] at h
    split at h
    · rename_i first
      cases h
      simpa [same] using first
    · cases h

theorem construct?_some {pos : Nat} {found : Match} (h : construct? m text pos = some found) :
    m text pos = some found ∧ found.span.start < found.span.stop := by
  simpa [construct?, Option.filter_eq_some_iff] using h

theorem construct?_bounds (lawful : m.Lawful text) {asked : Nat} {found : Match}
    (within : asked ≤ text.length) (h : construct? m text asked = some found) :
    asked ≤ found.span.start ∧ found.span.start < found.span.stop ∧
      found.span.stop ≤ text.length := by
  obtain ⟨answer, proper⟩ := construct?_some h
  obtain ⟨ahead, -, inside⟩ := lawful asked found within answer
  exact ⟨ahead, proper, inside⟩

theorem block_bounds {pos i length : Nat} {marker : Marker} {kind : BlockKind}
    (next : Next text pos marker i) (opens : opened (text.drop i) marker = .block kind length) :
    0 < length ∧ i + length ≤ text.length ∧ kind ≠ .code := by
  obtain ⟨proper, inside, ne⟩ := opened_bounds next.here opens
  have i_lt := Marker.lt_length_of_at? next.here
  rw [List.length_drop] at inside
  exact ⟨proper, by omega, ne⟩

theorem clear_before {asked pos start : Nat} {marker : Option (Marker × Nat)}
    (behind : asked ≤ pos) (answer : Marker.next? text asked = marker)
    (first : ∀ kind i, marker = some (kind, i) → start ≤ i) : Clear text pos start := by
  match marker with
  | none => exact (Marker.next?_none answer start).mono behind (Nat.le_refl _)
  | some (kind, i) => exact (Marker.next?_some answer).clear.mono behind (first kind i rfl)

theorem marker_at_construct {asked : Nat} {marker : Option (Marker × Nat)}
    {construct : Option Match} {found : Match} (behind : asked ≤ found.span.start)
    (answer : Marker.next? text asked = marker)
    (taken : step? marker construct = some (.construct found)) (kind : Marker)
    (here : Marker.at? (text.drop found.span.start) = some kind) : kind = .lineComment := by
  obtain ⟨-, first⟩ := step?_construct taken
  match marker with
  | none =>
    rw [Marker.next?_none answer _ _ behind (Nat.lt_succ_self _)] at here
    cases here
  | some (kind', i) =>
    have next := Marker.next?_some answer
    rcases Nat.eq_or_lt_of_le (first kind' i rfl) with same | before
    · rw [same, next.here] at here
      cases here
      exact step?_lineComment taken same
    · rw [next.clear _ behind before] at here
      cases here

theorem drop_drop_sub {text : Text} {plain i : Nat} (le : plain ≤ i) :
    (text.drop plain).drop (i - plain) = text.drop i := by
  rw [List.drop_drop, Nat.add_sub_cancel' le]

theorem first?_drop_drop {text : Text} {plain pos : Nat} (le : plain ≤ pos) :
    (Marker.first? ((text.drop plain).drop (pos - plain))).map
      (fun (n, kind) => (kind, pos + n)) = Marker.next? text pos := by
  rw [drop_drop_sub le, Marker.next?]

/-- The reader takes the steps of a scan: its memory is right wherever it is used, and the
steps it is given are enough, as each of them moves it on. -/
theorem readFrom_scan (lawful : m.Lawful text) {steps plain pos : Nat}
    {markers : Ahead (Marker × Nat)} {constructs : Ahead Match}
    (le : plain ≤ pos) (within : pos ≤ text.length) (enough : text.length ≤ pos + steps)
    (knownMarkers : markers.Known (Marker.next? text) pos)
    (knownConstructs : constructs.Known (construct? m text) pos) :
    Scan m text plain pos
      (readFrom m text steps plain (text.drop plain) pos markers constructs) := by
  induction steps generalizing plain pos markers constructs with
  | zero => exact .done fun k lo hi => by omega
  | succ steps ih =>
    obtain ⟨since, behind, answer, ahead⟩ := knownMarkers.get (·.2)
      fun next h => (Marker.next?_some h).ahead
    obtain ⟨since', behind', answer', ahead'⟩ := knownConstructs.get (·.span.start)
      fun found h => (construct?_bounds lawful within h).1
    simp only [readFrom, first?_drop_drop le]
    generalize markers.get (·.2) pos (fun _ => Marker.next? text pos) = marker at *
    generalize constructs.get (·.span.start) pos (fun _ => construct? m text pos) = construct at *
    -- Both answers stay good for the steps that follow.
    have markersAt : ∀ {pos'}, pos ≤ pos' → Ahead.Known (Marker.next? text) pos' (some marker) :=
      fun le => .of_answer behind answer le
    have constructsAt : ∀ {pos'}, pos ≤ pos' →
        Ahead.Known (construct? m text) pos' (some construct) :=
      fun le => .of_answer behind' answer' le
    cases taken : step? marker construct with
    | none =>
      cases step?_none taken
      exact .done ((Marker.next?_none answer _).mono behind (Nat.le_refl _))
    | some step =>
      cases step with
      | construct found =>
        obtain ⟨rfl, first⟩ := step?_construct taken
        obtain ⟨-, proper, inside⟩ :=
          construct?_bounds lawful (Nat.le_trans behind' within) answer'
        have pos_le := ahead' found rfl
        have plain_le := Nat.le_trans le pos_le
        simp only [drop_drop_sub plain_le, drop_drop_sub (Nat.le_of_lt proper)]
        refine .construct behind' answer' pos_le (clear_before behind answer first)
          (marker_at_construct (Nat.le_trans behind pos_le) answer taken) ?_
        exact ih (Nat.le_refl _) inside (by omega) (markersAt (by omega))
          (constructsAt (by omega))
      | marker kind i =>
        cases step?_marker taken
        have pos_le := ahead _ rfl
        have next := (Marker.next?_some answer).mono behind pos_le
        have i_lt := Marker.lt_length_of_at? next.here
        simp only [drop_drop_sub (Nat.le_trans le pos_le)]
        cases opens : opened (text.drop i) kind with
        | stray =>
          exact .stray next opens (ih (by omega) (by omega) (by omega) (markersAt (by omega))
            (constructsAt (by omega)))
        | unterminated => exact .unterminated next opens
        | block block length =>
          obtain ⟨proper, inside, -⟩ := block_bounds next opens
          simp only [List.drop_drop, ← Text.slice_add text i length]
          exact .block next opens (ih (Nat.le_refl _) inside (by omega) (markersAt (by omega))
            (constructsAt (by omega)))

end Classify

theorem read_scan {m : Matcher} {text : Text} (lawful : m.Lawful text) :
    Classify.Scan m text 0 0 (read m text) :=
  Classify.readFrom_scan lawful (Nat.le_refl _) (Nat.zero_le _) (Nat.le_add_left _ _)
    .unasked .unasked

theorem classify_eq_ok {m : Matcher} {text : Text} {blocks : List Block} :
    classify m text = .ok blocks ↔
      (read m text).failure = none ∧ (read m text).blocks = blocks := by
  unfold classify Reading.toExcept
  split <;> simp_all

end Amalgam
