import Amalgam.Path
import Amalgam.Proofs.Text

/-! The names along a path. A joined path has the names of both its parts, and a path that is
written out from names has those names again. -/
namespace Amalgam

namespace Text
variable {p : Char → Bool}

theorem getLast?_splitWhen {t : Text} {c : Char} (last : t.getLast? = some c)
    (plain : p c = false) :
    ∃ piece, (splitWhen p t).getLast? = some piece ∧ piece.getLast? = some c := by
  induction t with
  | nil => cases last
  | cons d t ih =>
    cases t with
    | nil =>
      obtain rfl : d = c := by simpa using last
      exact ⟨[d], by simp [splitWhen, plain], rfl⟩
    | cons e t =>
      rw [List.getLast?_cons_cons] at last
      obtain ⟨piece, pieceLast, ends⟩ := ih last
      unfold splitWhen
      split
      · exact ⟨piece, by simp [List.getLast?_cons, pieceLast], ends⟩
      · split
        · rename_i empty
          simp [empty] at pieceLast
        · rename_i first others eq
          rw [eq] at pieceLast
          cases others with
          | nil =>
            obtain rfl : first = piece := by simpa using pieceLast
            refine ⟨d :: first, rfl, ?_⟩
            rw [List.getLast?_cons, ends]
            rfl
          | cons second others => exact ⟨piece, by simpa using pieceLast, ends⟩

end Text

namespace Path
variable {p q : Path}

theorem getLast?_pieces {c : Char} (last : p.text.getLast? = some c) (ne : c ≠ '/') :
    ∃ n, p.pieces.getLast? = some n ∧ n.getLast? = some c := by
  obtain ⟨piece, pieceLast, ends⟩ :=
    Text.getLast?_splitWhen (p := (· == '/')) last (by simpa using ne)
  obtain ⟨front, eq⟩ := List.getLast?_eq_some_iff.mp pieceLast
  have proper : piece ≠ [] := by
    rintro rfl
    cases ends
  refine ⟨piece, ?_, ends⟩
  rw [pieces, eq, List.filter_append]
  simp [proper]

theorem slash_not_mem_pieces {n : Text} (h : n ∈ p.pieces) : '/' ∉ n :=
  Text.not_mem_of_mem_splitWhen (List.mem_filter.mp h |>.1) rfl

theorem mem_of_mem_pieces {n : Text} (h : n ∈ p.pieces) {c : Char} (member : c ∈ n) :
    c ∈ p.text :=
  Text.mem_of_mem_splitWhen (List.mem_filter.mp h |>.1) member

theorem pieces_append (s t : Text) :
    pieces ⟨s ++ '/' :: t⟩ = pieces ⟨s⟩ ++ pieces ⟨t⟩ := by
  rw [pieces, Text.splitWhen_append (by rfl), List.filter_append]
  rfl

theorem pieces_join (relative : q.isAbsolute = false) :
    (p.join q).pieces = p.pieces ++ q.pieces := by
  rw [join, if_neg (by simp [relative])]
  split
  · rename_i ends
    rw [Bool.or_eq_true] at ends
    cases ends with
    | inl empty =>
      have text : p.text = [] := by simpa using empty
      simp [pieces, text, Text.splitWhen]
    | inr slash =>
      -- The slash is there already, and divides the names as one that is put in.
      obtain ⟨front, text⟩ := List.getLast?_eq_some_iff.mp (beq_iff_eq.mp slash)
      have whole : p.pieces = pieces ⟨front⟩ ++ pieces ⟨[]⟩ := by
        rw [← pieces_append, ← text]
      rw [whole, text, List.append_assoc, List.singleton_append, pieces_append]
      simp [pieces, Text.splitWhen]
  · exact pieces_append p.text q.text

theorem isAbsolute_join (absolute : p.isAbsolute = true) : (p.join q).isAbsolute = true := by
  unfold join
  split
  · assumption
  · have head : p.text.head? = some '/' := by simpa [isAbsolute] using absolute
    split <;> simp [isAbsolute, head]

theorem join_text (relative : q.isAbsolute = false) :
    ∃ between, (p.join q).text = p.text ++ (between ++ q.text) ∧ between ⊆ ['/'] := by
  rw [join, if_neg (by simp [relative])]
  split
  · exact ⟨[], by simp, List.nil_subset _⟩
  · exact ⟨['/'], by simp, List.Subset.refl _⟩

theorem isAbsolute_join_relative (relative : q.isAbsolute = false) :
    (p.join q).isAbsolute = p.isAbsolute := by
  cases p with
  | mk text =>
    cases text with
    | nil => simpa [join, relative, isAbsolute] using relative
    | cons c text =>
      obtain ⟨between, eq, -⟩ := join_text (p := ⟨c :: text⟩) relative
      simp [isAbsolute, eq]

theorem ofComponents_root (names : List Text) :
    (ofComponents (.root :: names.map .name)).text =
      if names = [] then ['/'] else names.flatMap ('/' :: ·) := by
  have spelled : ∀ first : Text, List.intercalate ['/'] (first :: names) =
      first ++ names.flatMap ('/' :: ·) := by
    induction names with
    | nil => simp
    | cons n names ih =>
      intro first
      rw [List.intercalate_cons_cons, ih, List.flatMap_cons]
      simp
  cases names with
  | nil => rfl
  | cons n names => simpa [ofComponents, Component.text, Function.comp_def] using spelled []

theorem isAbsolute_ofComponents_root (names : List Text) :
    (ofComponents (.root :: names.map .name)).isAbsolute = true := by
  rw [isAbsolute, ofComponents_root]
  cases names <;> simp

theorem pieces_intercalate {pieces : List Text} (slashless : ∀ t ∈ pieces, '/' ∉ t) :
    Path.pieces ⟨List.intercalate ['/'] pieces⟩ = pieces.filter (!·.isEmpty) := by
  induction pieces with
  | nil => rfl
  | cons t pieces ih =>
    obtain ⟨first, others⟩ := List.forall_mem_cons.mp slashless
    have single : Path.pieces ⟨t⟩ = [t].filter (!·.isEmpty) := by
      rw [Path.pieces, Text.splitWhen_plain fun c member => by
        simpa using ne_of_mem_of_not_mem member first]
    cases pieces with
    | nil => simpa using single
    | cons t' pieces =>
      rw [List.intercalate_cons_cons, List.append_assoc, List.singleton_append, pieces_append,
        single, ih others, ← List.filter_append, List.singleton_append]

theorem pieces_ofComponents {cs : List Component} (slashless : ∀ c ∈ cs, '/' ∉ c.text) :
    (ofComponents cs).pieces = (cs.map Component.text).filter (!·.isEmpty) := by
  unfold ofComponents
  split
  · rfl
  · exact pieces_intercalate (by simpa using slashless)

end Path
end Amalgam
