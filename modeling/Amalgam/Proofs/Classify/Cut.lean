import Amalgam.Proofs.Classify.Append
import Amalgam.Proofs.Literal

/-! Reading a text by what is left of it. Which pieces a text falls into depends on the text
alone and not on where the pieces stand, so two texts can be read side by side though their
pieces differ in length. -/
namespace Amalgam

structure Piece where
  kind : BlockKind
  text : Text
  deriving DecidableEq, Repr

def Block.piece (b : Block) : Piece := ⟨b.kind, b.text⟩

def Piece.codeFirst (code : Text) (ps : List Piece) : List Piece :=
  if code.isEmpty then ps else ⟨.code, code⟩ :: ps

theorem Reading.map_piece_codeFirst (i : Nat) (code : Text) (r : Reading) :
    (codeFirst i code r).blocks.map Block.piece =
      Piece.codeFirst code (r.blocks.map Block.piece) := by
  unfold codeFirst Piece.codeFirst
  split <;> rfl

theorem Marker.at?_two (c d : Char) (t t' : Text) : at? (c :: d :: t) = at? (c :: d :: t') := by
  by_cases slash : c = '/'
  · subst slash
    by_cases star : d = '*'
    · subst star
      rfl
    · by_cases slash : d = '/'
      · subst slash
        rfl
      · simp [at?, star, slash]
  · by_cases quote : c = '"'
    · subst quote
      rfl
    · simp [at?, slash, quote]

def Unmarked : (text rest : Text) → Prop
  | [], _ => True
  | c :: text, rest => Marker.at? (c :: (text ++ rest)) = none ∧ Unmarked text rest

namespace Unmarked
variable {text text' rest : Text}

theorem append (h : Unmarked text (text' ++ rest)) (h' : Unmarked text' rest) :
    Unmarked (text ++ text') rest := by
  induction text with
  | nil => exact h'
  | cons c text ih =>
    obtain ⟨here, later⟩ := h
    exact ⟨by simpa using here, ih later⟩

theorem congr {c : Char} (h : Unmarked text (c :: rest)) (rest' : Text) :
    Unmarked text (c :: rest') := by
  induction text with
  | nil => trivial
  | cons d text ih =>
    obtain ⟨here, later⟩ := h
    refine ⟨?_, ih later⟩
    cases text with
    | nil => exact (Marker.at?_two d c rest' rest).trans here
    | cons e text => exact (Marker.at?_two d e _ _).trans here

theorem take {n : Nat} (h : Unmarked text rest) (ne : rest ≠ []) (pos : 0 < n) (next : Text) :
    Unmarked text (rest.take n ++ next) := by
  cases rest with
  | nil => exact absurd rfl ne
  | cons c rest =>
    cases n with
    | zero => cases pos
    | succ n => exact h.congr _

/-- The front of a text without markers, with another text behind it: a marker could arise only
where the two meet, and does not if the other one starts with neither a slash nor a star. -/
theorem front {behind next : Text} (h : Unmarked (text ++ behind) rest)
    (off : ∀ d ∈ next.head?, d ≠ '/' ∧ d ≠ '*') : Unmarked text next := by
  induction text with
  | nil => trivial
  | cons c text ih =>
    have ⟨here, later⟩ := h
    refine ⟨?_, ih later⟩
    cases text with
    | cons d text => exact (Marker.at?_two c d _ _).trans here
    | nil =>
      have quote : c ≠ '"' := by
        intro eq
        subst eq
        cases here
      cases next with
      | nil => simp [Marker.at?, quote]
      | cons d next =>
        have ⟨slash, star⟩ := off d rfl
        simp [Marker.at?, quote, slash, star]

theorem of_plain (plain : ∀ c ∈ text, c ≠ '/' ∧ c ≠ '"') : Unmarked text rest := by
  induction text with
  | nil => trivial
  | cons c text ih =>
    obtain ⟨⟨slash, quote⟩, plain⟩ := List.forall_mem_cons.mp plain
    exact ⟨by simp [Marker.at?, slash, quote], ih plain⟩

theorem of_forall (h : ∀ k < text.length, Marker.at? ((text ++ rest).drop k) = none) :
    Unmarked text rest := by
  induction text with
  | nil => trivial
  | cons c text ih => exact ⟨h 0 (by simp), ih fun k lt => h (k + 1) (by simpa using lt)⟩

theorem drop {k : Nat} (h : Unmarked text rest) (lt : k < text.length) :
    Marker.at? ((text ++ rest).drop k) = none := by
  induction text generalizing k with
  | nil => cases lt
  | cons c text ih =>
    cases k with
    | zero => exact h.1
    | succ k => exact ih h.2 (Nat.lt_of_succ_lt_succ lt)

theorem of_clear {i j : Nat} (h : Marker.Clear text i j) (le : i ≤ j) :
    Unmarked (text.slice i j) (text.drop j) := by
  refine of_forall fun k lt => ?_
  have bound : (text.slice i j).length ≤ j - i := List.length_take_le _ _
  rw [Text.slice_append_drop le, List.drop_drop]
  exact h (i + k) (by omega) (by omega)

end Unmarked

/-- `code` was read and is not in a piece yet, `rest` is left: the pieces that follow. -/
inductive Cut : (code rest : Text) → List Piece → Prop
  | done (code : Text) : Cut code [] (Piece.codeFirst code [])
  | plain {code rest : Text} {c : Char} {ps : List Piece} (off : Marker.at? (c :: rest) = none)
      (next : Cut (code ++ [c]) rest ps) : Cut code (c :: rest) ps
  | stray {code rest : Text} {ps : List Piece}
      (unclosed : stringLiteralEnd ('"' :: rest) 0 = .unclosed)
      (next : Cut (code ++ ['"']) rest ps) : Cut code ('"' :: rest) ps
  | block {code text : Text} {marker : Marker} {kind : BlockKind} {n : Nat} {ps : List Piece}
      (here : Marker.at? text = some marker)
      (opens : Classify.opened text marker = .block kind n) (next : Cut [] (text.drop n) ps) :
      Cut code text (Piece.codeFirst code (⟨kind, text.take n⟩ :: ps))

namespace Cut
open Classify

theorem skip {code text rest : Text} {ps : List Piece} (free : Unmarked text rest)
    (h : Cut (code ++ text) rest ps) : Cut code (text ++ rest) ps := by
  induction text generalizing code with
  | nil => simpa using h
  | cons c text ih =>
    obtain ⟨here, free⟩ := free
    exact .plain here (ih free (by simpa using h))

theorem scan {code rest : Text} {ps : List Piece} (h : Cut code rest ps) (front : Text) :
    ∃ r, Scan .never (front ++ (code ++ rest)) front.length (front.length + code.length) r ∧
      r.failure = none ∧ r.blocks.map Block.piece = ps := by
  have drop : ∀ {code rest : Text} (front : Text),
      (front ++ (code ++ rest)).drop (front.length + code.length) = rest := by
    intro code rest front
    rw [Text.drop_length_add, List.drop_left]
  have slice : ∀ {code rest : Text} (front : Text),
      (front ++ (code ++ rest)).slice front.length (front.length + code.length) = code := by
    intro code rest front
    rw [Text.slice_add, List.drop_left, List.take_left]
  have here : ∀ {code rest : Text} (front : Text) {marker : Marker},
      Marker.at? rest = some marker →
        Marker.Next (front ++ (code ++ rest)) (front.length + code.length) marker
          (front.length + code.length) := by
    intro code rest front marker found
    exact ⟨Nat.le_refl _, fun k lo hi => by omega, by rwa [drop]⟩
  induction h generalizing front with
  | done code =>
    refine ⟨_, .done fun k lo hi => ?_, ?_, ?_⟩
    · simp only [List.append_nil, List.length_append] at hi
      omega
    · simp
    · rw [Reading.map_piece_codeFirst, List.append_nil, List.drop_left]
      rfl
  | @plain code rest c ps off next ih =>
    obtain ⟨r, scan, ok, eq⟩ := ih front
    rw [List.length_append, List.append_assoc] at scan
    refine ⟨r, scan.back (Nat.le_succ _) fun k lo hi => ?_, ok, eq⟩
    obtain rfl : k = front.length + code.length := by
      simp only [List.length_singleton] at hi
      omega
    exact (congrArg Marker.at? (drop front)).trans off
  | @stray code rest ps unclosed next ih =>
    obtain ⟨r, scan, ok, eq⟩ := ih front
    rw [List.length_append, List.append_assoc] at scan
    have quote : Marker.at? ('"' :: rest) = some .stringLiteral := rfl
    refine ⟨r, .stray (here front quote) ?_ scan, ok, eq⟩
    rw [drop, opened, unclosed]
  | @block code text marker kind n ps found opens next ih =>
    obtain ⟨-, inside, -⟩ := opened_bounds found opens
    obtain ⟨r, scan, ok, eq⟩ := ih (front ++ (code ++ text.take n))
    have same : front ++ (code ++ text.take n) ++ ([] ++ text.drop n) =
        front ++ (code ++ text) := by
      simp
    have stop : (front ++ (code ++ text.take n)).length = front.length + code.length + n := by
      simp only [List.length_append, List.length_take]
      omega
    rw [same, stop, List.length_nil, Nat.add_zero] at scan
    refine ⟨_, .block (here front found) (by rwa [drop]) scan, by simpa using ok, ?_⟩
    rw [Reading.map_piece_codeFirst, slice, Reading.blockFirst_blocks, List.map_cons, eq,
      Text.slice_add, drop]
    rfl

end Cut

theorem classify_of_cut {text : Text} {ps : List Piece} (h : Cut [] text ps) :
    ∃ blocks, classify .never text = .ok blocks ∧ blocks.map Block.piece = ps := by
  obtain ⟨r, scan, ok, eq⟩ := h.scan []
  cases (read_scan (Matcher.never_lawful text)).unique scan
  exact ⟨_, classify_eq_ok.mpr ⟨ok, rfl⟩, eq⟩

namespace EndsBehind
variable {mark text : Text} {start stop stop' : Nat}

theorem unique (h : EndsBehind mark text start stop) (h' : EndsBehind mark text start stop') :
    stop = stop' := by
  rcases h with ⟨k, le, here, before, rfl⟩ | ⟨missed, rfl⟩
  · rcases h' with ⟨k', le', here', before', rfl⟩ | ⟨missed', rfl⟩
    · have first : ¬ k < k' := fun lt => before' k le lt here
      have first' : ¬ k' < k := fun lt => before k' le' lt here'
      omega
    · exact absurd here (missed' k le)
  · rcases h' with ⟨k', le', here', -, rfl⟩ | ⟨-, rfl⟩
    · exact absurd here' (missed k' le')
    · rfl

theorem take (h : EndsBehind mark text start stop) (closed : text.drop stop ≠ []) (rest : Text) :
    EndsBehind mark (text.take stop ++ rest) start stop := by
  rcases h with ⟨k, le, here, before, rfl⟩ | ⟨-, rfl⟩
  · have fits : k + mark.length < text.length := by simpa using closed
    have length : (text.take (k + mark.length)).length = k + mark.length :=
      List.length_take_of_le (Nat.le_of_lt fits)
    -- Up to there, the mark stands at the same places in both texts.
    have stands : ∀ i ≤ k, mark <+: (text.take (k + mark.length) ++ rest).drop i ↔
        mark <+: text.drop i := by
      intro i le
      have room : mark.length ≤ ((text.take (k + mark.length)).drop i).length := by
        rw [List.length_drop]
        omega
      have inside : ∀ more : Text, mark <+: (text.take (k + mark.length) ++ more).drop i ↔
          mark <+: (text.take (k + mark.length)).drop i := by
        intro more
        rw [List.drop_append_of_le_length (by omega)]
        exact ⟨fun stands => List.prefix_of_prefix_length_le stands (List.prefix_append _ _) room,
          fun stands => stands.trans (List.prefix_append _ _)⟩
      rw [inside, ← inside (text.drop (k + mark.length)), List.take_append_drop]
    refine .inl ⟨k, le, (stands k (Nat.le_refl k)).mpr here, fun j ge lt found => ?_, rfl⟩
    exact before j ge lt ((stands j (Nat.le_of_lt lt)).mp found)
  · simp at closed

end EndsBehind

theorem Classify.opened_take {text : Text} {marker : Marker} {kind : BlockKind} {n : Nat}
    (here : Marker.at? text = some marker) (opens : opened text marker = .block kind n)
    {rest : Text} (last : text.drop n = [] → rest = []) :
    Marker.at? (text.take n ++ rest) = some marker ∧
      opened (text.take n ++ rest) marker = .block kind n := by
  by_cases atEnd : text.drop n = []
  · have whole : text.take n = text := by
      simpa [atEnd] using List.take_append_drop n text
    rw [whole, last atEnd, List.append_nil]
    exact ⟨here, opens⟩
  · have stands := Marker.at?_eq_some.mp here
    have marked : marker.mark.length ≤ n → Marker.at? (text.take n ++ rest) = some marker := by
      intro le
      refine Marker.at?_eq_some.mpr (List.IsPrefix.trans ?_ (List.prefix_append _ _))
      exact List.prefix_take_iff.mpr ⟨stands, le⟩
    cases marker with
    | blockComment =>
      cases opens
      have ends := blockCommentLength_endsBehind text
      refine ⟨marked (ends.bounds stands.length_le (by simp)).1, ?_⟩
      rw [opened, (blockCommentLength_endsBehind _).unique (ends.take atEnd rest)]
    | lineComment =>
      cases opens
      have ends := lineCommentLength_endsBehind text
      refine ⟨marked (ends.bounds stands.length_le (by simp)).1, ?_⟩
      rw [opened, (lineCommentLength_endsBehind _).unique (ends.take atEnd rest)]
    | stringLiteral =>
      obtain ⟨rfl, closes⟩ := opened_literal opens
      obtain ⟨inside, behind, eq, interior, rfl⟩ := StringEnd.scan_closed closes
      refine ⟨marked (by simp [Marker.mark]), ?_⟩
      have split : text = ('"' :: (inside ++ ['"'])) ++ behind := by
        obtain ⟨body, rfl⟩ := stands
        have body_eq : body = inside ++ '"' :: behind := by simpa [Marker.mark] using eq
        simp [Marker.mark, body_eq]
      have block : text.take (0 + 1 + inside.length + 1) = '"' :: (inside ++ ['"']) := by
        rw [split]
        refine List.take_left' ?_
        simp only [List.length_cons, List.length_append, List.length_nil]
        omega
      have closed := StringEnd.scan_interior interior false 1 rest
      rw [block]
      simp [opened, stringLiteralEnd, closed]

/-- A block is read as it was, whatever follows it now, unless it was open at the end. -/
theorem Cut.verbatim {code text rest : Text} {marker : Marker} {kind : BlockKind} {n : Nat}
    {ps : List Piece} (here : Marker.at? text = some marker)
    (opens : Classify.opened text marker = .block kind n) (last : text.drop n = [] → rest = [])
    (next : Cut [] rest ps) :
    Cut code (text.take n ++ rest) (Piece.codeFirst code (⟨kind, text.take n⟩ :: ps)) := by
  obtain ⟨-, inside, -⟩ := Classify.opened_bounds here opens
  obtain ⟨here', opens'⟩ := Classify.opened_take here opens last
  have length := List.length_take_of_le inside
  have cut : Cut code (text.take n ++ rest) _ :=
    .block here' opens' (by rwa [List.drop_left' length])
  rwa [List.take_left' length] at cut

end Amalgam
