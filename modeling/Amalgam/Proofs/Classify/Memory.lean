import Amalgam.Proofs.Classify.Scan
import Amalgam.Proofs.Matcher.Label

/-! The memory of the reader changes nothing. A reader that looks ahead anew at each step
takes the same steps, if its matcher is coherent: an answer from further back is then the
one that would be given now. -/
namespace Amalgam

namespace Classify
variable {m : Matcher} {text : Text}

theorem Ahead.Known.get_eq {α : Type} {ask : Nat → Option α} {start : α → Nat} {pos : Nat}
    {ahead : Ahead α} (h : ahead.Known ask pos) (coherent : Coherent ask start) :
    ahead.get start pos (fun _ => ask pos) = ask pos := by
  rcases get_cases ahead start pos (fun _ => ask pos) with eq | ⟨rfl, eq⟩ | ⟨a, rfl, le, eq⟩
  · exact eq
  · obtain ⟨asked, behind, answer⟩ := h none rfl
    have now : ask pos = ask asked := coherent behind (by simp [answer])
    rw [eq, now, answer]
  · obtain ⟨asked, behind, answer⟩ := h (some a) rfl
    have now : ask pos = ask asked := by
      refine coherent behind fun a' found => ?_
      rw [answer] at found
      cases found
      exact le
    rw [eq, now, answer]

theorem readFrom_eq_anew (lawful : m.Lawful text)
    (coherent : Coherent (construct? m text) (·.span.start)) {steps plain pos : Nat}
    {markers : Ahead (Marker × Nat)} {constructs : Ahead Match}
    (le : plain ≤ pos) (within : pos ≤ text.length)
    (knownMarkers : markers.Known (Marker.next? text) pos)
    (knownConstructs : constructs.Known (construct? m text) pos) :
    readFrom m text steps plain (text.drop plain) pos markers constructs =
      readFromAnew m text steps plain pos := by
  induction steps generalizing plain pos markers constructs with
  | zero => rfl
  | succ steps ih =>
    have marker := knownMarkers.get_eq (Marker.next?_coherent text)
    have construct := knownConstructs.get_eq coherent
    simp only [readFrom, readFromAnew, first?_drop_drop le, marker, construct]
    -- What is remembered from here on was asked for at `pos`.
    have markersAt : ∀ {pos'}, pos ≤ pos' →
        Ahead.Known (Marker.next? text) pos' (some (Marker.next? text pos)) :=
      fun le => .of_answer (Nat.le_refl _) rfl le
    have constructsAt : ∀ {pos'}, pos ≤ pos' →
        Ahead.Known (construct? m text) pos' (some (construct? m text pos)) :=
      fun le => .of_answer (Nat.le_refl _) rfl le
    cases taken : step? (Marker.next? text pos) (construct? m text pos) with
    | none => rfl
    | some step =>
      cases step with
      | construct found =>
        obtain ⟨answer, -⟩ := step?_construct taken
        obtain ⟨ahead, proper, inside⟩ := construct?_bounds lawful within answer
        simp only [drop_drop_sub (Nat.le_trans le ahead), drop_drop_sub (Nat.le_of_lt proper)]
        rw [ih (Nat.le_refl _) inside (markersAt (by omega)) (constructsAt (by omega))]
        rfl
      | marker kind i =>
        have next := Marker.next?_some (step?_marker taken)
        have i_lt := Marker.lt_length_of_at? next.here
        have pos_le := next.ahead
        simp only [drop_drop_sub (Nat.le_trans le pos_le)]
        cases opens : opened (text.drop i) kind with
        | stray =>
          exact ih (by omega) i_lt (markersAt (by omega)) (constructsAt (by omega))
        | unterminated => rfl
        | block block length =>
          obtain ⟨-, inside, -⟩ := block_bounds next opens
          simp only [List.drop_drop, ← Text.slice_add text i length]
          rw [ih (Nat.le_refl _) inside (markersAt (by omega)) (constructsAt (by omega))]
          rfl

theorem readFromAnew_end (lawful : m.Lawful text) (steps plain : Nat) :
    readFromAnew m text steps plain text.length =
      .codeFirst plain (text.drop plain) ⟨[], none⟩ := by
  cases steps with
  | zero => rfl
  | succ steps =>
    have marker : Marker.next? text text.length = none := by
      simp [Marker.next?, Marker.first?, Text.leftmost, Marker.at?]
    have construct : construct? m text text.length = none := by
      refine Option.eq_none_iff_forall_ne_some.mpr fun found answer => ?_
      have bounds := construct?_bounds lawful (Nat.le_refl _) answer
      omega
    rw [readFromAnew, marker, construct]
    rfl

theorem readFromAnew_spare (lawful : m.Lawful text) {steps plain pos : Nat} (spare : Nat)
    (within : pos ≤ text.length) (enough : text.length ≤ pos + steps) :
    readFromAnew m text (steps + spare) plain pos = readFromAnew m text steps plain pos := by
  induction steps generalizing plain pos with
  | zero =>
    obtain rfl : pos = text.length := by omega
    rw [readFromAnew_end lawful, readFromAnew_end lawful]
  | succ steps ih =>
    rw [Nat.succ_add, readFromAnew, readFromAnew]
    cases taken : step? (Marker.next? text pos) (construct? m text pos) with
    | none => rfl
    | some step =>
      cases step with
      | construct found =>
        obtain ⟨answer, -⟩ := step?_construct taken
        obtain ⟨ahead, proper, inside⟩ := construct?_bounds lawful within answer
        simp only [ih inside (by omega : text.length ≤ found.span.stop + steps)]
      | marker kind i =>
        have next := Marker.next?_some (step?_marker taken)
        have i_lt := Marker.lt_length_of_at? next.here
        have pos_le := next.ahead
        cases opens : opened (text.drop i) kind with
        | stray =>
          simp only [opens]
          exact ih i_lt (by omega)
        | unterminated => simp only [opens]
        | block block length =>
          obtain ⟨proper, inside, -⟩ := block_bounds next opens
          simp only [opens, ih inside (by omega : text.length ≤ i + length + steps)]

end Classify

namespace Matcher

/-- What the reader needs to trust its memory. -/
structure Steady (m : Matcher) (text : Text) : Prop where
  lawful : m.Lawful text
  coherent : Coherent (Classify.construct? m text) (·.span.start)

theorem never_steady (text : Text) : never.Steady text :=
  ⟨never_lawful text, fun _ _ _ _ => rfl⟩

theorem label_steady (l text : Text) : (label l).Steady text := by
  rw [label_eq_leftmost]
  exact ⟨(labelAt?_anchored l).lawful text, (labelAt?_anchored l).coherent text⟩

theorem annotations_steady (text : Text) : annotations.Steady text :=
  ⟨annotationAt?_anchored.lawful text, annotationAt?_anchored.coherent text⟩

end Matcher

theorem read_eq_readFromAnew {m : Matcher} {text : Text} (steady : m.Steady text) {steps : Nat}
    (enough : text.length ≤ steps) :
    read m text = Classify.readFromAnew m text steps 0 0 := by
  obtain ⟨spare, rfl⟩ := Nat.exists_eq_add_of_le enough
  rw [Classify.readFromAnew_spare steady.lawful spare (Nat.zero_le _) (Nat.le_add_left _ _)]
  exact Classify.readFrom_eq_anew steady.lawful steady.coherent (Nat.le_refl _) (Nat.zero_le _)
    .unasked .unasked

/-- The matchers of the stages may be asked anew at each step, for as many steps as there
are characters or more: blocks, captures and failures stay the same. -/
theorem read_eq_anew {m : Matcher}
    (stages : m = .never ∨ (∃ l, m = .label l) ∨ m = .annotations) (text : Text) {steps : Nat}
    (enough : text.length ≤ steps) :
    read m text = Classify.readFromAnew m text steps 0 0 ∧
      classify m text = (readAnew m text).toExcept := by
  have steady : m.Steady text := by
    rcases stages with rfl | ⟨l, rfl⟩ | rfl
    · exact Matcher.never_steady text
    · exact Matcher.label_steady l text
    · exact Matcher.annotations_steady text
  refine ⟨read_eq_readFromAnew steady enough, ?_⟩
  rw [classify, readAnew, read_eq_readFromAnew steady (Nat.le_refl _)]

/-- The label that is found first lies in a comment. -/
theorem read_eq_anew_commented :
    read (.label "p".toList) "/* p:*/\" p: \"; p :\"".toList =
        Classify.readFromAnew (.label "p".toList) "/* p:*/\" p: \"; p :\"".toList 99 0 0 ∧
      (read (.label "p".toList) "/* p:*/\" p: \"; p :\"".toList).blocks.map (·.kind) =
        [.blockComment, .stringLiteral, .code, .construct, .code] :=
  ⟨(read_eq_anew (.inr (.inl ⟨_, rfl⟩)) _ (by decide)).1, by decide +kernel⟩

end Amalgam
