import Amalgam.Proofs.Text
import Amalgam.Span

/-! Spans that lie end to end. -/
namespace Amalgam.Span

/-- The spans follow one another from `i` to `j`, without gap or overlap, and none is empty. -/
def Tile : (i : Nat) → List Span → (j : Nat) → Prop
  | i, [], j => i = j
  | i, s :: ss, j => s.start = i ∧ s.start < s.stop ∧ Tile s.stop ss j

namespace Tile
variable {i j : Nat} {ss : List Span}

theorem le (h : Tile i ss j) : i ≤ j := by
  induction ss generalizing i with
  | nil => exact Nat.le_of_eq h
  | cons s ss ih =>
    obtain ⟨rfl, proper, rest⟩ := h
    have := ih rest
    omega

theorem mem (h : Tile i ss j) {s : Span} (member : s ∈ ss) : s.start ≤ j ∧ s.stop ≤ j := by
  induction ss generalizing i with
  | nil => cases member
  | cons first ss ih =>
    obtain ⟨rfl, proper, rest⟩ := h
    have stop := rest.le
    rcases List.mem_cons.mp member with rfl | later
    · omega
    · exact ih rest later

theorem append {ss' : List Span} (h : Tile i (ss ++ ss') j) :
    ∃ k, Tile i ss k ∧ Tile k ss' j := by
  induction ss generalizing i with
  | nil => exact ⟨i, rfl, h⟩
  | cons s ss ih =>
    obtain ⟨rfl, proper, rest⟩ := h
    obtain ⟨k, front, back⟩ := ih rest
    exact ⟨k, ⟨rfl, proper, front⟩, back⟩

theorem mem_proper (h : Tile i ss j) {s : Span} (member : s ∈ ss) :
    i ≤ s.start ∧ s.start < s.stop := by
  obtain ⟨before, after, rfl⟩ := List.append_of_mem member
  obtain ⟨k, front, rfl, proper, -⟩ := h.append
  exact ⟨front.le, proper⟩

theorem pairwise (h : Tile i ss j) : ss.Pairwise (·.stop ≤ ·.start) := by
  induction ss generalizing i with
  | nil => exact .nil
  | cons s ss ih =>
    obtain ⟨rfl, proper, rest⟩ := h
    exact .cons (fun later member => (rest.mem_proper member).1) (ih rest)

theorem covers (h : Tile i ss j) {n : Nat} (lo : i ≤ n) (hi : n < j) :
    ∃ s ∈ ss, s.start ≤ n ∧ n < s.stop := by
  induction ss generalizing i with
  | nil =>
    cases h
    omega
  | cons s ss ih =>
    obtain ⟨rfl, proper, rest⟩ := h
    by_cases here : n < s.stop
    · exact ⟨s, List.mem_cons_self, lo, here⟩
    · obtain ⟨s', member, holds⟩ := ih rest (by omega)
      exact ⟨s', List.mem_cons_of_mem _ member, holds⟩

theorem flatMap_slice (h : Tile i ss j) (text : Text) :
    ss.flatMap (·.slice text) = text.slice i j := by
  induction ss generalizing i with
  | nil =>
    cases h
    simp
  | cons s ss ih =>
    obtain ⟨rfl, proper, rest⟩ := h
    rw [List.flatMap_cons, ih rest, slice]
    exact text.slice_append_slice (Nat.le_of_lt proper) rest.le

theorem bytes (h : Tile i ss j) {text : Text} (inside : j ≤ text.length) :
    Tile (text.byteOffset i) (ss.map (·.bytes text)) (text.byteOffset j) := by
  induction ss generalizing i with
  | nil =>
    cases h
    rfl
  | cons s ss ih =>
    obtain ⟨rfl, proper, rest⟩ := h
    refine ⟨rfl, ?_, ih rest⟩
    have cut := text.byteOffset_add_byteLen_slice (Nat.le_of_lt proper)
    have length := text.length_slice (Nat.le_of_lt proper) (Nat.le_trans rest.le inside)
    have ne : text.slice s.start s.stop ≠ [] := by
      intro eq
      rw [eq, List.length_nil] at length
      omega
    have pos := Text.byteLen_pos ne
    simp only [Span.bytes]
    omega

end Tile
end Amalgam.Span
