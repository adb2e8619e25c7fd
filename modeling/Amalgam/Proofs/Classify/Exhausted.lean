import Amalgam.Proofs.Classify.Construct
import Amalgam.Proofs.Classify.Memory

/-! What a search from the left leaves in code. A marker goes before a construct that starts
further on, and a quote before one that starts with it, so a construct whose first character
is a quote is never found; every other one is, unless a block before it takes some of it. -/
namespace Amalgam

namespace Classify

def Unmatched (pattern : Text → Option Match) (text : Text) (i j : Nat) : Prop :=
  ∀ n, i ≤ n → n < j → pattern (text.drop n) = none ∨ text[n]? = some '"'

namespace Unmatched
variable {pattern : Text → Option Match} {text : Text} {i j k : Nat}

theorem self : Unmatched pattern text i i := by
  intro n lo hi
  omega

theorem append (h : Unmatched pattern text i j) (h' : Unmatched pattern text j k) :
    Unmatched pattern text i k := by
  intro n lo hi
  by_cases before : n < j
  · exact h n lo before
  · exact h' n (by omega) hi

theorem of_ahead (anchored : Matcher.Anchored pattern)
    (ahead : ∀ found, construct? (.leftmost pattern) text i = some found → j ≤ found.span.start) :
    Unmatched pattern text i j := by
  rw [anchored.construct?] at ahead
  exact fun n lo hi => .inl (anchored.missed ahead lo hi)

end Unmatched

/-- Nothing is left to find: in code the pattern matches at quotes only, and no construct
starts with one. -/
def Exhausted (pattern : Text → Option Match) (text : Text) (b : Block) : Prop :=
  (b.kind = .code → Unmatched pattern text b.span.start b.span.stop) ∧
    (b.kind = .construct → text[b.span.start]? ≠ some '"')

theorem readFromAnew_exhausted {pattern : Text → Option Match} (anchored : Matcher.Anchored pattern)
    {text : Text} {steps plain pos : Nat} (le : plain ≤ pos) (within : pos ≤ text.length)
    (enough : text.length ≤ pos + steps) (code : Unmatched pattern text plain pos) :
    ∀ b ∈ (readFromAnew (.leftmost pattern) text steps plain pos).blocks,
      b.kind = .code → Unmatched pattern text b.span.start b.span.stop := by
  -- Along the steps, `code` grows by what no match starts in and by the stray quotes.
  induction steps generalizing plain pos with
  | zero =>
    obtain rfl : pos = text.length := by omega
    rw [readFromAnew, ← text.slice_length]
    exact Reading.forall_codeFirst le within (fun _ => code) (by simp)
  | succ steps ih =>
    rw [readFromAnew]
    cases taken : step? (Marker.next? text pos)
        (construct? (.leftmost pattern) text pos) with
    | none =>
      have rest : Unmatched pattern text pos text.length :=
        .of_ahead anchored fun found answer => absurd (answer ▸ taken) step?_ahead.1
      simp only
      rw [← text.slice_length]
      exact Reading.forall_codeFirst (by omega) (Nat.le_refl _)
        (fun _ => code.append rest) (by simp)
    | some step =>
      cases step with
      | construct found =>
        obtain ⟨answer, -⟩ := step?_construct taken
        obtain ⟨ahead, proper, inside⟩ :=
          construct?_bounds (anchored.lawful text) within answer
        have upTo : Unmatched pattern text pos found.span.start := by
          refine .of_ahead anchored fun found' answer' => ?_
          rw [answer] at answer'
          cases answer'
          exact Nat.le_refl _
        refine Reading.forall_codeFirst (by omega) (by omega) (fun _ => code.append upTo) ?_
        exact List.forall_mem_cons.mpr ⟨by simp, ih (Nat.le_refl _) inside (by omega) .self⟩
      | marker kind i =>
        have next := Marker.next?_some (step?_marker taken)
        have ahead := next.ahead
        have i_lt := Marker.lt_length_of_at? next.here
        have upTo : Unmatched pattern text pos i :=
          .of_ahead anchored fun found answer => step?_ahead.2 kind i (answer ▸ taken)
        simp only
        cases opens : opened (text.drop i) kind with
        | stray =>
          have quote : Unmatched pattern text i (i + 1) := by
            intro n lo hi
            obtain rfl : n = i := by omega
            obtain ⟨rfl, -⟩ := opened_stray opens
            exact .inr (Marker.at?_drop_quote.mp next.here)
          exact ih (by omega) i_lt (by omega) ((code.append upTo).append quote)
        | unterminated => simp
        | block block length =>
          obtain ⟨proper, inside, ne⟩ := block_bounds next opens
          refine Reading.forall_codeFirst (by omega) (by omega) (fun _ => code.append upTo) ?_
          exact List.forall_mem_cons.mpr
            ⟨fun code => absurd code ne, ih (Nat.le_refl _) inside (by omega) .self⟩

end Classify

theorem read_exhausted {pattern : Text → Option Match} (anchored : Matcher.Anchored pattern)
    (text : Text) :
    ∀ b ∈ (read (.leftmost pattern) text).blocks, Classify.Exhausted pattern text b := by
  have steady : (Matcher.leftmost pattern).Steady text :=
    ⟨anchored.lawful text, anchored.coherent text⟩
  intro b member
  constructor
  · rw [read_eq_readFromAnew steady (Nat.le_refl _)] at member
    exact Classify.readFromAnew_exhausted anchored (Nat.le_refl _) (Nat.zero_le _)
      (Nat.le_add_left _ _) .self b member
  · intro kind
    obtain ⟨-, -, -, -, quote⟩ := (read_scan steady.lawful).construct_mem member kind
    exact quote

end Amalgam
