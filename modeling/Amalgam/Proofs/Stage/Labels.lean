import Amalgam.Proofs.Classify.Partition
import Amalgam.Proofs.Stage.Visibility

/-! Which labels the visibility stage replaces. A label is found together with the character
in front of it, so it stays as it is where that character is not left to be found: in a
comment or a literal that ends there, in the colon of the label before, and in a quote that
opens nothing. -/
namespace Amalgam

namespace Text

/-- Ranges that hold all blanks, and no character of an identifier. -/
def blankGaps : List (Nat × Nat) :=
  [(9, 0x20), (0x85, 0xA0), (0x1680, 0x1680), (0x2000, 0x205F), (0x3000, 0x3000)]

def liesApart (ranges gaps : List (Nat × Nat)) : Bool :=
  ranges.all fun (lo, hi) => gaps.all fun (lo', hi') => hi.blt lo' || hi'.blt lo

theorem inRanges_of_liesApart {ranges gaps : List (Nat × Nat)} (apart : liesApart ranges gaps = true)
    {c : Char} (inside : inRanges gaps c = true) : inRanges ranges c = false := by
  obtain ⟨gap, member, bounds⟩ := List.any_eq_true.mp inside
  refine List.any_eq_false.mpr fun range member' between => ?_
  have side := List.all_eq_true.mp (List.all_eq_true.mp apart range member') gap member
  simp only [Bool.and_eq_true, Bool.or_eq_true, decide_eq_true_eq, Nat.blt_eq] at bounds between side
  omega

theorem inRanges_blankGaps {c : Char} (h : isBlank c = true) : inRanges blankGaps c = true := by
  simp only [isBlank, Bool.or_eq_true, Bool.and_eq_true, decide_eq_true_eq, beq_iff_eq] at h
  simp only [inRanges, blankGaps, List.any_cons, List.any_nil, Bool.or_eq_true, Bool.and_eq_true,
    decide_eq_true_eq]
  omega

theorem contains_of_isBlank {k : Category}
    (apart : liesApart (k.ranges ++ k.alternating) blankGaps = true) {c : Char}
    (h : isBlank c = true) : k.contains c = false := by
  have outside := inRanges_of_liesApart apart (inRanges_blankGaps h)
  rw [inRanges, List.any_append, Bool.or_eq_false_iff] at outside
  rw [Category.contains, Bool.or_eq_false_iff]
  refine ⟨outside.1, List.any_eq_false.mpr fun range member every => ?_⟩
  exact List.any_eq_false.mp outside.2 range member (Bool.and_eq_true_iff.mp every).1

theorem isIdentifier_of_isBlank {c : Char} (h : isBlank c = true) : isIdentifier c = false := by
  by_cases ascii : c.toNat < 0x80
  · have low : ∀ n < 0x21, isIdentifier (.ofNat n) = false := by decide +kernel
    have bound : c.toNat < 0x21 := by
      simp only [isBlank, Bool.or_eq_true, Bool.and_eq_true, decide_eq_true_eq, beq_iff_eq] at h
      omega
    have blank := low c.toNat bound
    rwa [Char.ofNat_toNat] at blank
  · have apart : ∀ k ∈ (.letterNumber :: Category.group 'l') ++ Category.group 'n',
        liesApart (k.ranges ++ k.alternating) blankGaps = true := by decide +kernel
    have outside : ((.letterNumber :: Category.group 'l') ++ Category.group 'n').any
        (·.contains c) = false :=
      List.any_eq_false.mpr fun k member => by simp [contains_of_isBlank (apart k member) h]
    have marks : inRanges letterLikeRanges c = false :=
      inRanges_of_liesApart (by decide +kernel) (inRanges_blankGaps h)
    have underscore : c ≠ '_' := by
      rintro rfl
      exact ascii (by decide)
    obtain ⟨letters, digits⟩ := Bool.or_eq_false_iff.mp (List.any_append.symm.trans outside)
    simp [isIdentifier, isAlphanumeric, isAlphabetic, ascii, letters, digits, marks, underscore]

end Text

/-- A label: the character in front of it stands at `n`, its colon at `colon`. -/
def LabelAt (l text : Text) (n colon : Nat) : Prop :=
  ∃ lead blanks rest, text.drop n = lead :: (l ++ (blanks ++ ':' :: rest)) ∧
    Text.isIdentifier lead = false ∧ (∀ c ∈ blanks, Text.isBlank c = true) ∧
    colon = n + 1 + l.length + blanks.length

namespace LabelAt
variable {l text : Text} {n colon : Nat}

theorem matched (h : LabelAt l text n colon) (ne : l ≠ []) :
    Matcher.labelAt? l (text.drop n) ≠ none := by
  obtain ⟨lead, blanks, rest, eq, apart, blank, -⟩ := h
  rw [eq, Matcher.labelAt?]
  simp [ne, apart, Text.takeWhile_append_cons (c := ':') blank (by decide)]

theorem unique (h : LabelAt l text n colon) {colon' : Nat} (h' : LabelAt l text n colon') :
    colon = colon' := by
  obtain ⟨lead, blanks, rest, eq, -, blank, rfl⟩ := h
  obtain ⟨lead', blanks', rest', eq', -, blank', rfl⟩ := h'
  obtain ⟨-, same⟩ := List.cons_eq_cons.mp (eq.symm.trans eq')
  obtain ⟨same, -⟩ := Text.append_cons_inj blank (by decide) blank' (by decide)
    (List.append_cancel_left same)
  rw [same]

theorem isIdentifier_iff (h : LabelAt l text n colon) (name : l.Identifier) {k : Nat}
    (lo : n ≤ k) (hi : k ≤ colon) {c : Char} (here : text[k]? = some c) :
    Text.isIdentifier c = true ↔ n < k ∧ k ≤ n + l.length := by
  obtain ⟨lead, blanks, rest, eq, apart, blank, rfl⟩ := h
  obtain ⟨j, rfl⟩ := Nat.exists_eq_add_of_le lo
  rw [← List.getElem?_drop, eq] at here
  cases j with
  | zero =>
    cases here
    simp [apart]
  | succ j =>
    rw [List.getElem?_cons_succ] at here
    by_cases inName : j < l.length
    · rw [List.getElem?_append_left inName] at here
      have identifier := name.chars c (List.mem_of_getElem? here)
      simp only [identifier, true_iff]
      omega
    · rw [List.getElem?_append_right (by omega)] at here
      have other : Text.isIdentifier c = false := by
        by_cases inBlanks : j - l.length < blanks.length
        · rw [List.getElem?_append_left inBlanks] at here
          exact Text.isIdentifier_of_isBlank (blank c (List.mem_of_getElem? here))
        · rw [List.getElem?_append_right (by omega),
            show j - l.length - blanks.length = 0 by omega] at here
          cases here
          decide
      simp only [other, Bool.false_eq_true, false_iff]
      omega

theorem room (h : LabelAt l text n colon) : n + l.length < colon ∧ colon < text.length := by
  obtain ⟨lead, blanks, rest, eq, -, -, rfl⟩ := h
  have length := congrArg List.length eq
  simp only [List.length_drop, List.length_cons, List.length_append] at length
  omega

theorem eq_colon (h : LabelAt l text n colon) (name : l.Identifier) {n' colon' : Nat}
    (h' : LabelAt l text n' colon') (lt : n < n') (le : n' ≤ colon) : n' = colon := by
  have long := List.length_pos_iff.mpr name.ne
  obtain ⟨inName, inside⟩ := h'.room
  have atLead := List.getElem?_eq_getElem (l := text) (i := n') (by omega)
  have atFirst := List.getElem?_eq_getElem (l := text) (i := n' + 1) (by omega)
  have apart := h.isIdentifier_iff name (by omega) le atLead
  rw [h'.isIdentifier_iff name (Nat.le_refl n') (by omega) atLead] at apart
  by_contra ne
  have joined := h.isIdentifier_iff name (by omega) (by omega) atFirst
  rw [h'.isIdentifier_iff name (Nat.le_succ n') (by omega) atFirst] at joined
  omega

end LabelAt

/-- A match that is the label from `n` to `colon`. Its groups are the character in front of the
name, the name, and the blanks with the colon. They lie end to end, in characters and in
bytes. -/
structure Match.IsLabel (found : Match) (l text : Text) (n colon : Nat) : Prop where
  span : found.span = ⟨n, colon + 1⟩
  groups : ∃ lead name tail, found.groups = [some found.span, some lead, some name, some tail] ∧
    Span.Tile n [lead, name, tail] (colon + 1) ∧
    Span.Tile (text.byteOffset n) ([lead, name, tail].map (·.bytes text))
      (text.byteOffset (colon + 1))
  pieces : ∃ c blanks, Text.isIdentifier c = false ∧ (∀ b ∈ blanks, Text.isBlank b = true) ∧
    found.groups.map (·.map (·.slice text)) =
      [some (found.span.slice text), some [c], some l, some (blanks ++ [':'])]

theorem LabelAt.of_labelAt? {l text : Text} {n : Nat} {here : Match}
    (h : Matcher.labelAt? l (text.drop n) = some here) :
    ∃ colon, LabelAt l text n colon ∧ (here.shift n).IsLabel l text n colon := by
  obtain ⟨c, tail, -, apart', blank', -, -, pieces⟩ := Matcher.labelAt?_groups h
  obtain ⟨lead, blanks, rest, eq, named, apart, blank, rfl⟩ := Matcher.labelAt?_some h
  have long := List.length_pos_iff.mpr named
  have label : LabelAt l text n (n + 1 + l.length + blanks.length) :=
    ⟨lead, blanks, rest, eq, apart, blank, rfl⟩
  have tile : Span.Tile n [⟨n, n + 1⟩, ⟨n + 1, n + 1 + l.length⟩,
      ⟨n + 1 + l.length, n + 1 + l.length + blanks.length + 1⟩]
      (n + 1 + l.length + blanks.length + 1) := by
    simp only [Span.Tile, true_and, and_true]
    omega
  refine ⟨_, label, ?_, ⟨_, _, _, ?_, tile, tile.bytes label.room.2⟩, c, tail, apart', blank', ?_⟩
  · simp [Match.shift, Span.shift, Nat.add_assoc]
  · simp [Match.shift, Span.shift, Nat.add_assoc]
  · rw [Match.shift, List.map_map]
    simp only [Function.comp_def, Option.map_map, Span.slice_shift]
    exact pieces

theorem Matcher.label_some {l text : Text} {start : Nat} {found : Match}
    (h : label l text start = some found) :
    ∃ n colon, start ≤ n ∧ LabelAt l text n colon ∧
      (∀ k colon', start ≤ k → LabelAt l text k colon' → n ≤ k) ∧
      found.IsLabel l text n colon := by
  rw [label_eq_leftmost] at h
  obtain ⟨n, here, ahead, matched, before, rfl⟩ := leftmost_some h
  obtain ⟨lead, blanks, rest, -, named, -⟩ := labelAt?_some matched
  obtain ⟨colon, label, isLabel⟩ := LabelAt.of_labelAt? matched
  refine ⟨n, colon, ahead, label, ?_, isLabel⟩
  intro k colon' le label'
  by_contra lt
  exact label'.matched named (before k le (by omega))

/-- The matcher finds a label exactly if there is one, then the first one, and all of it. -/
theorem label_finds_first {l : Text} (named : l ≠ []) (text : Text) (start : Nat) :
    ((Matcher.label l text start).isSome = true ↔
      ∃ n colon, start ≤ n ∧ LabelAt l text n colon) ∧
    ∀ found, Matcher.label l text start = some found →
      ∃ n colon, start ≤ n ∧ LabelAt l text n colon ∧
        (∀ k colon', start ≤ k → LabelAt l text k colon' →
          n ≤ k ∧ text.byteOffset n ≤ text.byteOffset k) ∧
        found.IsLabel l text n colon := by
  constructor
  · constructor
    · intro some
      obtain ⟨found, answer⟩ := Option.isSome_iff_exists.mp some
      obtain ⟨n, colon, ahead, label, -⟩ := Matcher.label_some answer
      exact ⟨n, colon, ahead, label⟩
    · rintro ⟨n, colon, ahead, label⟩
      rw [Option.isSome_iff_ne_none, Matcher.label_eq_leftmost]
      intro none
      exact label.matched named (Matcher.leftmost_none none ahead)
  · intro found answer
    obtain ⟨n, colon, ahead, label, first, isLabel⟩ := Matcher.label_some answer
    refine ⟨n, colon, ahead, label, ?_, isLabel⟩
    intro k colon' le label'
    have before := first k colon' le label'
    have bytes := text.byteOffset_add_byteLen_slice before
    exact ⟨before, by omega⟩

/-- The first name belongs to a longer one; the second one stands between a dash and a wide
space, of three bytes each. -/
theorem label_finds_first_behind : ∃ found,
    Matcher.label "private".toList "xprivate: –private\u2003:".toList 0 = some found ∧
      found.span.bytes "xprivate: –private\u2003:".toList = ⟨10, 24⟩ ∧
      ∃ n colon, 0 ≤ n ∧ LabelAt "private".toList "xprivate: –private\u2003:".toList n colon ∧
        (∀ k colon', 0 ≤ k →
          LabelAt "private".toList "xprivate: –private\u2003:".toList k colon' →
          n ≤ k ∧ Text.byteOffset "xprivate: –private\u2003:".toList n ≤
            Text.byteOffset "xprivate: –private\u2003:".toList k) ∧
        found.IsLabel "private".toList "xprivate: –private\u2003:".toList n colon := by
  have answer : Matcher.label "private".toList "xprivate: –private\u2003:".toList 0 =
      some ⟨⟨10, 20⟩, [some ⟨10, 20⟩, some ⟨10, 11⟩, some ⟨11, 18⟩, some ⟨18, 20⟩]⟩ := by
    decide +kernel
  exact ⟨_, answer, by decide +kernel, (label_finds_first (by decide) _ 0).2 _ answer⟩

/-- A label whose name lies in a block of code, wherever the character in front of it lies. -/
def Block.HasLabel (b : Block) (l text : Text) (n : Nat) : Prop :=
  b.kind = .code ∧ (∃ colon, LabelAt l text n colon) ∧
    b.span.start ≤ n + 1 ∧ n + 1 + l.length ≤ b.span.stop

namespace Visibility
open Classify
variable {s : VisibilitySettings} {text : Text}

/-- The text from `i` on, with the label behind each of some places replaced. -/
def relabel (s : VisibilitySettings) (text : Text) : Nat → List Nat → Text
  | i, [] => text.drop i
  | i, n :: places =>
    text.slice i (n + 1) ++ (s.replacement ++ relabel s text (n + 1 + s.label.length) places)

theorem slice_append_relabel {i j : Nat} (le : i ≤ j) {places : List Nat}
    (ahead : ∀ n ∈ places, j ≤ n) :
    text.slice i j ++ relabel s text j places = relabel s text i places := by
  cases places with
  | nil => exact Text.slice_append_drop le
  | cons n places =>
    have := ahead n List.mem_cons_self
    rw [relabel, relabel, ← List.append_assoc, text.slice_append_slice le (by omega)]

def places (blocks : List Block) : List Nat :=
  (blocks.filter (·.kind = .construct)).map (·.span.start)

theorem mem_places {blocks : List Block} {n : Nat} :
    n ∈ places blocks ↔ ∃ b ∈ blocks, b.kind = .construct ∧ b.span.start = n := by
  simp [places, and_assoc]

theorem exhausted_of_classify {l : Text} {blocks : List Block} {b : Block}
    (read : classify (.label l) text = .ok blocks) (member : b ∈ blocks) :
    Exhausted (Matcher.labelAt? l) text b := by
  obtain ⟨-, rfl⟩ := classify_eq_ok.mp read
  rw [Matcher.label_eq_leftmost] at member
  exact read_exhausted (Matcher.labelAt?_anchored l) text b member

section construct
variable {l : Text} {blocks : List Block} {b : Block} (member : b ∈ blocks)
  (kind : b.kind = .construct)
include member kind

theorem drop_of_construct (read : classify (.label l) text = .ok blocks) :
    ∃ lead blanks,
      text.drop b.span.start = lead :: (l ++ (blanks ++ ':' :: text.drop b.span.stop)) ∧
      Text.isIdentifier lead = false ∧ (∀ c ∈ blanks, Text.isBlank c = true) ∧
      b.span.stop = b.span.start + 1 + l.length + blanks.length + 1 ∧
      b.captures = [some b.text, some [lead], some l, some (blanks ++ [':'])] := by
  obtain ⟨lead, blanks, apart, blank, eq, captures⟩ := classify_label read member kind
  have partition := Block.Partition.of_classify (Matcher.label_steady l text).lawful read
  obtain ⟨-, proper⟩ := partition.tile.mem_proper (List.mem_map_of_mem member)
  obtain ⟨-, inside⟩ := partition.tile.mem (List.mem_map_of_mem member)
  have piece : text.slice b.span.start b.span.stop = lead :: (l ++ (blanks ++ [':'])) :=
    (partition.slices b member).symm.trans eq
  have stop := text.length_slice (Nat.le_of_lt proper) inside
  rw [piece] at stop
  simp only [List.length_cons, List.length_append, List.length_nil] at stop
  refine ⟨lead, blanks, ?_, apart, blank, by omega, captures⟩
  rw [← Text.slice_append_drop (Nat.le_of_lt proper), piece]
  simp

theorem labelAt_of_construct (read : classify (.label l) text = .ok blocks) :
    ∃ colon, LabelAt l text b.span.start colon ∧ b.span.stop = colon + 1 := by
  obtain ⟨lead, blanks, eq, apart, blank, stop, -⟩ := drop_of_construct member kind read
  exact ⟨_, ⟨lead, blanks, _, eq, apart, blank, rfl⟩, stop⟩

theorem renderBlock_of_construct (read : classify (.label s.label) text = .ok blocks) :
    renderBlock s b = text.slice b.span.start (b.span.start + 1) ++
      (s.replacement ++ text.slice (b.span.start + 1 + s.label.length) b.span.stop) := by
  obtain ⟨lead, blanks, eq, -, -, stop, captures⟩ := drop_of_construct member kind read
  have first : text.slice b.span.start (b.span.start + 1) = [lead] := by
    rw [Text.slice_add, eq]
    rfl
  have last : text.slice (b.span.start + 1 + s.label.length) b.span.stop = blanks ++ [':'] := by
    have behind : text.drop (b.span.start + 1 + s.label.length) =
        (blanks ++ [':']) ++ text.drop b.span.stop := by
      rw [← List.drop_drop, ← List.drop_drop, eq]
      simp
    have length : b.span.stop - (b.span.start + 1 + s.label.length) = (blanks ++ [':']).length := by
      rw [List.length_append, List.length_singleton]
      omega
    rw [Text.slice, behind, length, List.take_left]
  rw [first, last, renderBlock, kind]
  simp [Block.capture?, captures]

end construct

theorem render_tile {i : Nat} {blocks : List Block}
    (tile : Span.Tile i (blocks.map (·.span)) text.length)
    (slices : ∀ b ∈ blocks, b.text = b.span.slice text)
    (labels : ∀ b ∈ blocks, b.kind = .construct →
      b.span.start + 1 + s.label.length ≤ b.span.stop ∧
      renderBlock s b = text.slice b.span.start (b.span.start + 1) ++
        (s.replacement ++ text.slice (b.span.start + 1 + s.label.length) b.span.stop)) :
    render s blocks = relabel s text i (places blocks) := by
  induction blocks generalizing i with
  | nil =>
    cases tile
    simp [places, relabel]
  | cons b bs ih =>
    obtain ⟨rfl, proper, rest⟩ := tile
    obtain ⟨slice, slices⟩ := List.forall_mem_cons.mp slices
    obtain ⟨label, labels⟩ := List.forall_mem_cons.mp labels
    have ahead : ∀ n ∈ places bs, b.span.stop ≤ n := by
      intro n member
      obtain ⟨c, hc, -, rfl⟩ := mem_places.mp member
      exact (rest.mem_proper (List.mem_map_of_mem hc)).1
    by_cases kind : b.kind = .construct
    · obtain ⟨room, rendered⟩ := label kind
      have first : places (b :: bs) = b.span.start :: places bs := by
        simp [places, kind]
      rw [first, relabel, ← slice_append_relabel room ahead, render, List.flatMap_cons, rendered,
        ← ih rest slices labels]
      simp [render]
    · have same : places (b :: bs) = places bs := by
        simp [places, kind]
      rw [same, ← slice_append_relabel (Nat.le_of_lt proper) ahead, render_block kind, slice,
        ih rest slices labels]
      rfl

theorem render_eq_relabel {blocks : List Block}
    (read : classify (.label s.label) text = .ok blocks) :
    render s blocks = relabel s text 0 (places blocks) := by
  obtain ⟨tile, slices, -⟩ :=
    Block.Partition.of_classify (Matcher.label_steady s.label text).lawful read
  refine render_tile tile slices fun b member kind => ?_
  obtain ⟨colon, label, stop⟩ := labelAt_of_construct member kind read
  have room := label.room
  exact ⟨by omega, renderBlock_of_construct member kind read⟩

theorem pairwise_places {i : Nat} {blocks : List Block}
    (partition : Block.Partition text i blocks) : (places blocks).Pairwise (· < ·) := by
  have proper : ∀ b ∈ blocks, b.span.start < b.span.stop := fun b member =>
    (partition.tile.mem_proper (List.mem_map_of_mem member)).2
  refine List.pairwise_map.mpr (List.Pairwise.filter _ ?_)
  exact partition.pairwise.imp_of_mem fun hb _ apart => Nat.lt_of_lt_of_le (proper _ hb) apart

theorem kind_ne_construct {blocks : List Block} {b : Block}
    (read : classify .never text = .ok blocks) (member : b ∈ blocks) : b.kind ≠ .construct := by
  intro kind
  obtain ⟨-, rfl⟩ := classify_eq_ok.mp read
  obtain ⟨asked, found, answer, -⟩ :=
    (read_scan (Matcher.never_lawful text)).construct_mem member kind
  cases answer

section readings
variable {l : Text} {labelled blocks : List Block}
  (read : classify (.label l) text = .ok labelled) (read' : classify .never text = .ok blocks)
include read read'

theorem mem_of_isMarked (name : l.Identifier) {b : Block} (marked : b.isMarked = true) :
    b ∈ labelled ↔ b ∈ blocks := by
  obtain ⟨-, rfl⟩ := classify_eq_ok.mp read
  obtain ⟨-, rfl⟩ := classify_eq_ok.mp read'
  obtain ⟨-, same⟩ := read_label_never name text
  have both := congrArg (b ∈ ·) same
  simpa [marked] using both

theorem code_of_construct (name : l.Identifier) {b c : Block} (hb : b ∈ labelled)
    (kind : b.kind = .construct) (hc : c ∈ blocks) {k : Nat}
    (inB : b.span.start ≤ k ∧ k < b.span.stop) (inC : c.span.start ≤ k ∧ k < c.span.stop) :
    c.kind = .code := by
  by_contra other
  have marked : c.isMarked = true := by
    simp [Block.isMarked, other, kind_ne_construct read' hc]
  have partition := Block.Partition.of_classify (Matcher.label_steady l text).lawful read
  have same := partition.unique hb ((mem_of_isMarked read read' name marked).mpr hc) inB inC
  exact kind_ne_construct read' hc (same ▸ kind)

theorem hasLabel_of_construct {b : Block} (name : l.Identifier) (hb : b ∈ labelled)
    (kind : b.kind = .construct) :
    ∃ c ∈ blocks, c.HasLabel l text b.span.start ∧ c.span.start ≠ b.span.start + 1 := by
  obtain ⟨colon, label, stop⟩ := labelAt_of_construct hb kind read
  have partition := Block.Partition.of_classify (Matcher.never_lawful text) read'
  obtain ⟨inName, inside⟩ := label.room
  obtain ⟨c, hc, lo, hi⟩ := partition.covers (Nat.zero_le b.span.start) (by omega)
  have code := code_of_construct read read' name hb kind hc (by omega) ⟨lo, hi⟩
  refine ⟨c, hc, ⟨code, ⟨colon, label⟩, by omega, ?_⟩, by omega⟩
  -- Were the name cut, the block behind would be code as well.
  by_contra cut
  obtain ⟨d, hd, start, proper, apart⟩ := partition.next hc (by omega)
  exact apart ⟨code, code_of_construct read read' name hb kind hd (k := d.span.start)
    (by omega) (by omega)⟩

theorem mem_places_of_hasLabel (name : l.Identifier) {c : Block} (hc : c ∈ blocks) {n : Nat}
    (label : c.HasLabel l text n) (start : c.span.start ≠ n + 1) (quote : text[n]? ≠ some '"')
    (apart : ∀ m ∈ places labelled, ¬ LabelAt l text m n) : n ∈ places labelled := by
  obtain ⟨code, ⟨colon, label⟩, lo, hi⟩ := label
  obtain ⟨inName, inside⟩ := label.room
  have steady := Matcher.label_steady l text
  have partition := Block.Partition.of_classify steady.lawful read
  obtain ⟨b, hb, inB⟩ := partition.covers (Nat.zero_le n) (by omega)
  by_cases construct : b.kind = .construct
  · obtain ⟨colon', found, stop⟩ := labelAt_of_construct hb construct read
    have place := mem_places.mpr ⟨b, hb, construct, rfl⟩
    by_cases here : b.span.start = n
    · exact here ▸ place
    · have shared := found.eq_colon name label (by omega) (by omega)
      exact absurd (shared ▸ found) (apart _ place)
  · by_cases plain : b.kind = .code
    · rcases (exhausted_of_classify read hb).1 plain n inB.1 inB.2 with missed | quoted
      · exact absurd missed (label.matched name.ne)
      · exact absurd quoted quote
    · have marked : b.isMarked = true := by
        simp [Block.isMarked, construct, plain]
      have partition' := Block.Partition.of_classify (Matcher.never_lawful text) read'
      have same := partition'.unique ((mem_of_isMarked read read' name marked).mp hb) hc inB
        (by omega)
      exact absurd (same ▸ code) plain

end readings
end Visibility

open Visibility in
/-- The visibility stage replaces a label in code unless the character in front of it is not
in the same block, is a quote, or is the colon of a label that is replaced. Nothing else
changes. -/
theorem visibility_relabels {settings : Settings} (label : settings.visibility.label.Identifier)
    {text out : Text} (applied : Stage.visibility.apply settings text = .ok out) :
    ∃ blocks places, classify .never text = .ok blocks ∧
      out = relabel settings.visibility text 0 places ∧ places.Pairwise (· < ·) ∧
      ∀ n, n ∈ places ↔
        (∃ b ∈ blocks, b.HasLabel settings.visibility.label text n ∧ b.span.start ≠ n + 1) ∧
          text[n]? ≠ some '"' ∧ ∀ m ∈ places, ¬ LabelAt settings.visibility.label text m n := by
  obtain ⟨labelled, read, rfl⟩ := Stage.apply_ok applied
  have partition := Block.Partition.of_classify
    (Matcher.label_steady settings.visibility.label text).lawful read
  obtain ⟨blocks, read'⟩ : ∃ blocks, classify .never text = .ok blocks := by
    obtain ⟨ok, -⟩ := classify_eq_ok.mp read
    exact ⟨_, classify_eq_ok.mpr ⟨(read_label_never label text).1 ▸ ok, rfl⟩⟩
  refine ⟨blocks, places labelled, read', render_eq_relabel read, pairwise_places partition, ?_⟩
  intro n
  constructor
  · intro place
    obtain ⟨b, hb, kind, rfl⟩ := mem_places.mp place
    obtain ⟨-, proper⟩ := partition.tile.mem_proper (List.mem_map_of_mem hb)
    refine ⟨hasLabel_of_construct read read' label hb kind, ?_, ?_⟩
    · exact (exhausted_of_classify read hb).2 kind
    · intro m place' shared
      obtain ⟨c, hc, kind', rfl⟩ := mem_places.mp place'
      obtain ⟨colon, found, stop⟩ := labelAt_of_construct hc kind' read
      have colonAt := found.unique shared
      have room := found.room
      have same := partition.unique hb hc (n := b.span.start) (by omega) (by omega)
      have := congrArg (·.span.start) same
      omega
  · rintro ⟨⟨c, hc, due, start⟩, quote, apart⟩
    exact mem_places_of_hasLabel read read' label hc due start quote apart

open Visibility in
/-- Four labels: behind a quote, a comment, a colon that stays and a colon that is taken. -/
theorem visibility_relabels_third : ∃ text blocks places,
    text = "\"private: /**/private:private:private:x".toList ∧
      Stage.visibility.apply {} text = .ok (relabel {} text 0 [21]) ∧
      classify .never text = .ok blocks ∧
      relabel {} text 0 [21] = relabel {} text 0 places ∧ places.Pairwise (· < ·) ∧
      ∀ n, n ∈ places ↔
        (∃ b ∈ blocks, b.HasLabel "private".toList text n ∧ b.span.start ≠ n + 1) ∧
          text[n]? ≠ some '"' ∧ ∀ m ∈ places, ¬ LabelAt "private".toList text m n := by
  have applied : Stage.visibility.apply {} "\"private: /**/private:private:private:x".toList =
      .ok (relabel {} "\"private: /**/private:private:private:x".toList 0 [21]) := by
    decide +kernel
  obtain ⟨blocks, places, conclusion⟩ := @visibility_relabels {}
    ⟨by decide, List.all_eq_true.mp (by decide +kernel)⟩ _ _ applied
  exact ⟨_, blocks, places, rfl, applied, conclusion⟩

/-- A label on the line behind a line comment is missed. -/
theorem visibility_misses_label : ∃ blocks b,
    Stage.visibility.apply {} "int a; // note\nprivate: int b;\n".toList =
        .ok "int a; // note\nprivate: int b;\n".toList ∧
      classify .never "int a; // note\nprivate: int b;\n".toList = .ok blocks ∧ b ∈ blocks ∧
      b.HasLabel "private".toList "int a; // note\nprivate: int b;\n".toList 14 := by
  refine ⟨_, ⟨.code, ⟨15, 31⟩, "private: int b;\n".toList, []⟩, by decide +kernel,
    classify_eq_ok.mpr ⟨by decide +kernel, rfl⟩, by decide +kernel, rfl, ⟨22, ?_⟩, by decide,
    by decide⟩
  exact ⟨'\n', [], " int b;\n".toList, by decide +kernel, by decide, by simp, by decide⟩

end Amalgam
