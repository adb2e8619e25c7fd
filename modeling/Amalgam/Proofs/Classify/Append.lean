import Amalgam.Proofs.Classify.Partition
import Amalgam.Proofs.Matcher

/-! Where reading is local. A text that ends with a newline, leaves no comment open and has
no quote in its code does not disturb what follows it: behind it a text is read as it would
be alone. -/
namespace Amalgam

open Marker (Clear Next)

namespace Text

theorem indexOf?_eq_some {pattern t : Text} {n : Nat} (here : pattern <+: t.drop n)
    (before : ∀ i < n, ¬ pattern <+: t.drop i) : indexOf? pattern t = some n := by
  cases found : indexOf? pattern t with
  | none => exact absurd here (indexOf?_none found n)
  | some k =>
    obtain ⟨there, earlier⟩ := indexOf?_some found
    rcases Nat.lt_trichotomy k n with lt | rfl | lt
    · exact absurd there (before k lt)
    · rfl
    · exact absurd here (earlier n lt)

theorem indexOf?_append {pattern t : Text} {n : Nat} (ne : pattern ≠ [])
    (h : indexOf? pattern t = some n) (more : Text) : indexOf? pattern (t ++ more) = some n := by
  obtain ⟨here, before⟩ := indexOf?_some h
  have fits := here.length_le
  have pos := List.length_pos_iff.mpr ne
  rw [List.length_drop] at fits
  have drop : ∀ i ≤ n, (t ++ more).drop i = t.drop i ++ more := by
    intro i le
    exact List.drop_append_of_le_length (by omega)
  refine indexOf?_eq_some ?_ fun i lt stands => before i lt ?_
  · rw [drop n (Nat.le_refl _)]
    exact here.trans (List.prefix_append _ _)
  · rw [drop i (Nat.le_of_lt lt)] at stands
    refine List.prefix_of_prefix_length_le stands (List.prefix_append _ _) ?_
    rw [List.length_drop]
    omega

theorem indexOf?_isSome_of_mem {c : Char} {t : Text} (h : c ∈ t) :
    ∃ n, indexOf? [c] t = some n := by
  cases found : indexOf? [c] t with
  | some n => exact ⟨n, rfl⟩
  | none =>
    obtain ⟨front, rest, rfl⟩ := List.append_of_mem h
    refine absurd ?_ (indexOf?_none found front.length)
    rw [List.drop_left]
    exact List.prefix_append [c] rest

section append
variable (s t : Text)

theorem drop_length_add (i : Nat) : (s ++ t).drop (s.length + i) = t.drop i := by
  rw [← List.drop_drop, List.drop_left]

theorem slice_append_left {i j : Nat} (le : j ≤ s.length) : slice (s ++ t) i j = slice s i j := by
  by_cases inside : i ≤ s.length
  · rw [slice, List.drop_append_of_le_length inside,
      List.take_append_of_le_length (by rw [List.length_drop]; omega), slice]
  · have empty : j - i = 0 := by omega
    rw [slice, slice, empty, List.take_zero, List.take_zero]

theorem slice_append_right (i j : Nat) :
    slice (s ++ t) (s.length + i) (s.length + j) = slice t i j := by
  rw [slice, drop_length_add, Nat.add_sub_add_left, slice]

theorem byteOffset_append_left {i : Nat} (le : i ≤ s.length) :
    byteOffset (s ++ t) i = byteOffset s i := by
  rw [byteOffset, List.take_append_of_le_length le, byteOffset]

theorem byteOffset_append_right (i : Nat) :
    byteOffset (s ++ t) (s.length + i) = byteLen s + byteOffset t i := by
  rw [byteOffset, List.take_length_add_append, byteLen_append, byteOffset]

end append
end Text

namespace StringEnd

theorem scan_append {escaped : Bool} {pos stop : Nat} {t : Text}
    (h : scan escaped pos t = .closed stop) (more : Text) :
    scan escaped pos (t ++ more) = .closed stop := by
  fun_induction scan escaped pos t with
  | case1 => cases h
  | case2 => cases h
  | case3 escaped pos c cs ih => exact ih h
  | case4 escaped pos c cs single quote =>
    obtain rfl : c = '"' := by simpa using quote
    simpa [scan] using h
  | case5 escaped pos c cs single plain ih =>
    rw [List.cons_append, scan, if_neg plain]
    · exact ih h
    · -- A backslash has a character behind it, or else nothing closes the literal.
      rintro d ds rfl eq
      cases cs with
      | nil => cases h
      | cons e es => exact single e es rfl rfl

end StringEnd

namespace Marker

theorem at?_append {t : Text} (newline : t.getLast? = some '\n') (more : Text) :
    at? (t ++ more) = at? t := by
  match t with
  | [c] =>
    cases newline
    rfl
  | c :: d :: rest =>
    simp only [List.cons_append]
    unfold at?
    split <;> simp_all

theorem Clear.append {text : Text} {i j : Nat} (h : Clear text i j) (inside : j ≤ text.length)
    (newline : text.getLast? = some '\n') (more : Text) : Clear (text ++ more) i j := by
  intro k le lt
  rw [List.drop_append_of_le_length (by omega), at?_append]
  · exact h k le lt
  · rw [List.getLast?_drop, if_neg (by omega), newline]

theorem Next.append {text : Text} {pos i : Nat} {kind : Marker} (h : Next text pos kind i)
    (newline : text.getLast? = some '\n') (more : Text) : Next (text ++ more) pos kind i := by
  have lt := lt_length_of_at? h.here
  refine ⟨h.ahead, h.clear.append (Nat.le_of_lt lt) newline more, ?_⟩
  rw [List.drop_append_of_le_length (Nat.le_of_lt lt), at?_append]
  · exact h.here
  · rw [List.getLast?_drop, if_neg (by omega), newline]

theorem Clear.behind {text : Text} {i j : Nat} (h : Clear text i j) (front : Text) :
    Clear (front ++ text) (front.length + i) (front.length + j) := by
  intro k le lt
  obtain ⟨n, rfl⟩ := Nat.exists_eq_add_of_le (Nat.le_trans (Nat.le_add_right _ _) le)
  rw [Text.drop_length_add]
  exact h n (by omega) (by omega)

theorem Next.behind {text : Text} {pos i : Nat} {kind : Marker} (h : Next text pos kind i)
    (front : Text) : Next (front ++ text) (front.length + pos) kind (front.length + i) where
  ahead := Nat.add_le_add_left h.ahead _
  clear := h.clear.behind front
  here := by
    rw [Text.drop_length_add]
    exact h.here

theorem Next.unique {text : Text} {pos i i' : Nat} {kind kind' : Marker}
    (h : Next text pos kind i) (h' : Next text pos kind' i') : i = i' ∧ kind = kind' := by
  have le : ∀ {i i' kind kind'}, Next text pos kind i → Next text pos kind' i' → i ≤ i' := by
    intro i i' kind kind' h h'
    refine Nat.le_of_not_lt fun lt => ?_
    have none := h.clear i' h'.ahead lt
    rw [h'.here] at none
    cases none
  obtain rfl := Nat.le_antisymm (le h h') (le h' h)
  have same := h.here.symm.trans h'.here
  exact ⟨rfl, Option.some.inj same⟩

theorem Next.not_clear {text : Text} {pos i : Nat} {kind : Marker} (h : Next text pos kind i) :
    ¬ Clear text pos text.length := by
  intro clear
  have none := clear i h.ahead (lt_length_of_at? h.here)
  rw [h.here] at none
  cases none

end Marker

namespace Block

def shift (n : Nat) (b : Block) : Block := { b with span := b.span.shift n }

def fuse (a b : Block) : Block :=
  { a with span := ⟨a.span.start, b.span.stop⟩, text := a.text ++ b.text }

/-- The blocks of two texts, one text behind the other. Code at the end of the first goes
together with code at the start of the second. -/
def joined : List Block → List Block → List Block
  | [], bs => bs
  | [a], b :: bs =>
    if a.kind = .code ∧ b.kind = .code then a.fuse b :: bs else a :: b :: bs
  | a :: as, bs => a :: joined as bs

def inBytes (text : Text) (b : Block) : Block := { b with span := b.span.bytes text }

def Unclosed (b : Block) : Prop :=
  b.kind = .blockComment ∧ ∀ i, 2 ≤ i → ¬ ['*', '/'] <+: b.text.drop i

theorem joined_nil (bs : List Block) : joined [] bs = bs := rfl

theorem joined_cons {a : Block} {as : List Block} (h : a.kind ≠ .code ∨ as ≠ [])
    (bs : List Block) : joined (a :: as) bs = a :: joined as bs := by
  cases as with
  | nil =>
    have ne : a.kind ≠ .code := h.resolve_right (by simp)
    cases bs with
    | nil => rfl
    | cons b bs => simp [joined, ne]
  | cons a' as => rfl

theorem joined_code_cons {a b : Block} (code : a.kind = .code) (ne : b.kind ≠ .code)
    (bs : List Block) : joined [a] (b :: bs) = a :: b :: bs := by
  simp [joined, code, ne]

theorem map_joined {f : Block → Block} (kind : ∀ b, (f b).kind = b.kind)
    (fuses : ∀ a b, f (a.fuse b) = (f a).fuse (f b)) (as bs : List Block) :
    (joined as bs).map f = joined (as.map f) (bs.map f) := by
  induction as with
  | nil => rfl
  | cons a as ih =>
    by_cases apart : a.kind ≠ .code ∨ as ≠ []
    · rw [joined_cons apart, List.map_cons, ih, List.map_cons,
        joined_cons (by simpa [kind] using apart)]
    · simp only [ne_eq, not_or, not_not] at apart
      obtain ⟨code, rfl⟩ := apart
      cases bs with
      | nil => rfl
      | cons b bs =>
        simp only [joined, code, true_and, List.map_cons, List.map_nil, kind]
        split <;> simp [fuses]

end Block

namespace Unterminated

def behind (front : Text) (e : Unterminated) : Unterminated :=
  ⟨e.offset + front.byteLen, e.line + front.newlines⟩

theorem ofPosition_behind (front text : Text) (i : Nat) :
    ofPosition (front ++ text) (front.length + i) = (ofPosition text i).behind front := by
  simp only [ofPosition, behind, Text.byteOffset_append_right, List.take_length_add_append,
    Text.newlines_append, mk.injEq]
  omega

end Unterminated

namespace Reading

/-- `t` is the reading `r` of a first text and then the reading `s` of a second one, up to
where that fails. -/
structure Continues (front : Text) (r s t : Reading) : Prop where
  failure : t.failure = s.failure.map (·.behind front)
  blocks : s.failure = none →
    t.blocks = Block.joined r.blocks (s.blocks.map (Block.shift front.length))

theorem Continues.blockFirst {front : Text} {r s t : Reading} (h : Continues front r s t)
    (i : Nat) (code : Text) {b : Block} (ne : b.kind ≠ .code) :
    Continues front (codeFirst i code (blockFirst b r)) s (codeFirst i code (blockFirst b t)) where
  failure := by simpa using h.failure
  blocks := by
    intro ok
    have rest := h.blocks ok
    unfold codeFirst
    split
    · simp [rest, Block.joined_cons (.inl ne)]
    · simp [rest, Block.joined_cons (.inl ne), Block.joined_cons (.inr _)]

theorem joined_codeFirst {text : Text} {first i j : Nat} {r : Reading} (le : first ≤ i)
    (le' : i ≤ j) (inside : j ≤ text.length) (apart : ∀ b ∈ r.blocks.head?, b.kind ≠ .code) :
    Block.joined (codeFirst first (text.slice first i) ⟨[], none⟩).blocks
        (codeFirst i (text.slice i j) r).blocks =
      (codeFirst first (text.slice first j) r).blocks := by
  rw [codeFirst_slice _ le (Nat.le_trans le' inside), codeFirst_slice _ le' inside,
    codeFirst_slice _ (Nat.le_trans le le') inside]
  by_cases start : first = i
  · subst start
    simp [Block.joined_nil]
  · rw [if_neg start, if_neg (by omega : ¬ first = j)]
    by_cases stop : i = j
    · subst stop
      rw [if_pos rfl]
      cases blocks : r.blocks with
      | nil => simp [blocks, Block.joined]
      | cons b bs =>
        have ne := apart b (by simp [blocks])
        simp [blocks, Block.joined_code_cons _ ne]
    · rw [if_neg stop]
      simp [Block.joined, Block.fuse, text.slice_append_slice le le']

theorem map_shift_codeFirst {front text : Text} {i j : Nat} {r : Reading} (r' : Reading)
    (le : i ≤ j) (inside : j ≤ text.length)
    (rest : r'.blocks = r.blocks.map (Block.shift front.length)) :
    (codeFirst i (text.slice i j) r).blocks.map (Block.shift front.length) =
      (codeFirst (front.length + i) ((front ++ text).slice (front.length + i) (front.length + j))
        r').blocks := by
  have inside' : front.length + j ≤ (front ++ text).length := by
    rw [List.length_append]
    omega
  rw [codeFirst_slice _ le inside, codeFirst_slice _ (Nat.add_le_add_left le _) inside',
    Text.slice_append_right]
  by_cases eq : i = j
  · simp [eq, rest]
  · rw [if_neg eq, if_neg (by omega)]
    simp [rest, Block.shift, Span.shift]

end Reading

namespace Classify

theorem Scan.of_next {text : Text} {plain pos i : Nat} {marker : Marker} {r : Reading}
    (next : Next text pos marker i) (h : Scan .never text plain pos r) :
    match opened (text.drop i) marker with
    | .block kind length => ∃ rest, Scan .never text (i + length) (i + length) rest ∧
        r = .codeFirst plain (text.slice plain i) (.blockFirst
          ⟨kind, ⟨i, i + length⟩, text.slice i (i + length), []⟩ rest)
    | .stray => Scan .never text plain (i + 1) r
    | .unterminated => r = ⟨[], some (.ofPosition text i)⟩ := by
  cases h with
  | done clear => exact absurd clear next.not_clear
  | construct behind answer => cases answer
  | block next' opens rest =>
    obtain ⟨rfl, rfl⟩ := next.unique next'
    rw [opens]
    exact ⟨_, rest, rfl⟩
  | stray next' opens rest =>
    obtain ⟨rfl, rfl⟩ := next.unique next'
    rw [opens]
    exact rest
  | unterminated next' opens =>
    obtain ⟨rfl, rfl⟩ := next.unique next'
    rw [opens]

theorem Scan.unique {text : Text} {plain pos : Nat} {r r' : Reading}
    (h : Scan .never text plain pos r) (h' : Scan .never text plain pos r') : r = r' := by
  induction h generalizing r' with
  | done clear =>
    cases h' with
    | done => rfl
    | construct behind answer => cases answer
    | block next => exact absurd clear next.not_clear
    | stray next => exact absurd clear next.not_clear
    | unterminated next => exact absurd clear next.not_clear
  | construct behind answer => cases answer
  | block next opens rest ih =>
    have other := h'.of_next next
    rw [opens] at other
    obtain ⟨_, rest', rfl⟩ := other
    rw [ih rest']
  | stray next opens rest ih =>
    have other := h'.of_next next
    rw [opens] at other
    exact ih other
  | unterminated next opens =>
    have other := h'.of_next next
    rw [opens] at other
    exact other.symm

theorem Scan.back {text : Text} {plain pos pos' : Nat} {r : Reading}
    (h : Scan .never text plain pos' r) (le : pos ≤ pos') (clear : Clear text pos pos') :
    Scan .never text plain pos r := by
  have next : ∀ {marker i}, Next text pos' marker i → Next text pos marker i := by
    intro marker i next
    refine ⟨Nat.le_trans le next.ahead, ?_, next.here⟩
    intro k lo hi
    by_cases before : k < pos'
    · exact clear k lo before
    · exact next.clear k (Nat.le_of_not_lt before) hi
  cases h with
  | done later =>
    refine .done fun k lo hi => ?_
    by_cases before : k < pos'
    · exact clear k lo before
    · exact later k (Nat.le_of_not_lt before) hi
  | construct behind answer => cases answer
  | block found opens rest => exact .block (next found) opens rest
  | stray found opens rest => exact .stray (next found) opens rest
  | unterminated found opens => exact .unterminated (next found) opens

/-- Behind another text, a text is read as it is alone. Code that was left open in front,
from `first` on, goes on into it. -/
theorem Scan.behind {text : Text} {plain pos first : Nat} {s : Reading}
    (h : Scan .never text plain pos s) (front : Text) (le : plain ≤ pos)
    (within : pos ≤ text.length) (lo : first ≤ front.length + plain) :
    ∃ t, Scan .never (front ++ text) first (front.length + pos) t ∧
      Reading.Continues front (.codeFirst first
        ((front ++ text).slice first (front.length + plain)) ⟨[], none⟩) s t := by
  have length : (front ++ text).length = front.length + text.length := List.length_append
  have sameOpened : ∀ i marker, opened ((front ++ text).drop (front.length + i)) marker =
      opened (text.drop i) marker := by
    intro i marker
    rw [Text.drop_length_add]
  induction h generalizing first with
  | @done plain pos clear =>
    have whole := clear.behind front
    rw [← length] at whole
    refine ⟨_, .done whole, by simp, fun _ => ?_⟩
    rw [← Text.slice_length, ← Text.slice_length text,
      Reading.map_shift_codeFirst ⟨[], none⟩ (Nat.le_trans le within) (Nat.le_refl _) rfl,
      ← length]
    exact (Reading.joined_codeFirst lo (by omega) (Nat.le_refl _) (by simp)).symm
  | construct behind answer => cases answer
  | @block plain pos i length' marker kind r next opens rest ih =>
    obtain ⟨-, inside, ne⟩ := block_bounds next opens
    obtain ⟨t, scan, continues⟩ := ih (Nat.le_refl _) inside (Nat.le_refl _)
    rw [← Nat.add_assoc] at scan
    have opens' := (sameOpened i marker).trans opens
    refine ⟨_, .block (next.behind front) opens' scan, by simpa using continues.failure, ?_⟩
    intro ok
    have later := continues.blocks (by simpa using ok)
    simp only [Text.slice_self, Reading.codeFirst, List.isEmpty_nil, if_true,
      Block.joined_nil] at later
    have bound := next.ahead
    rw [Reading.map_shift_codeFirst (.blockFirst ⟨kind, ⟨front.length + i,
        front.length + i + length'⟩, (front ++ text).slice (front.length + i)
          (front.length + i + length'), []⟩ t) (Nat.le_trans le next.ahead) (by omega)]
    · refine (Reading.joined_codeFirst lo (by omega) (by omega) ?_).symm
      simpa using ne
    · rw [Nat.add_assoc, Text.slice_append_right]
      simp [later, Block.shift, Span.shift]
  | @stray plain pos i marker r next opens rest ih =>
    have i_lt := Marker.lt_length_of_at? next.here
    obtain ⟨t, scan, continues⟩ := ih (Nat.le_succ_of_le (Nat.le_trans le next.ahead)) i_lt lo
    have opens' := (sameOpened i marker).trans opens
    exact ⟨t, .stray (next.behind front) opens' scan, continues⟩
  | @unterminated plain pos i marker next opens =>
    have opens' := (sameOpened i marker).trans opens
    refine ⟨_, .unterminated (next.behind front) opens', ?_, by simp⟩
    rw [Unterminated.ofPosition_behind]
    rfl

theorem opened_append {t : Text} {marker : Marker} {kind : BlockKind} {n : Nat}
    (here : Marker.at? t = some marker) (opens : opened t marker = .block kind n)
    (newline : t.getLast? = some '\n')
    (closed : marker = .blockComment → ∃ k, Text.indexOf? ['*', '/'] (t.drop 2) = some k)
    (more : Text) : opened (t ++ more) marker = .block kind n := by
  obtain ⟨rest, rfl⟩ := Marker.at?_eq_some.mp here
  cases marker with
  | blockComment =>
    obtain ⟨k, found⟩ := closed rfl
    have longer := Text.indexOf?_append (by simp) found more
    rw [← opens]
    simp only [Marker.mark, List.cons_append, List.nil_append, List.drop_succ_cons,
      List.drop_zero] at found longer
    simp [opened, blockCommentLength, Marker.mark, found, longer]
  | lineComment =>
    have inside : '\n' ∈ rest := by
      cases rest with
      | nil => cases newline
      | cons c cs => exact List.mem_of_getLast? (by simpa [Marker.mark] using newline)
    obtain ⟨k, found⟩ := Text.indexOf?_isSome_of_mem inside
    have longer := Text.indexOf?_append (by simp) found more
    rw [← opens]
    simp [opened, lineCommentLength, Marker.mark, found, longer]
  | stringLiteral =>
    obtain ⟨rfl, closes⟩ := opened_literal opens
    have longer : stringLiteralEnd (Marker.mark .stringLiteral ++ rest ++ more) 0 = .closed n :=
      StringEnd.scan_append closes more
    rw [opened, longer]

theorem Scan.code_mem {m : Matcher} {text : Text} {plain pos : Nat} {r : Reading}
    (h : Scan m text plain pos r) (lawful : m.Lawful text) (lt : plain < pos)
    (within : pos ≤ text.length) (ok : r.failure = none) :
    ∃ j, pos ≤ j ∧ ⟨.code, ⟨plain, j⟩, text.slice plain j, []⟩ ∈ r.blocks := by
  induction h with
  | @done plain pos clear =>
    refine ⟨text.length, within, ?_⟩
    rw [← text.slice_length plain, Reading.codeFirst_slice _ (by omega) (Nat.le_refl _),
      if_neg (by omega)]
    exact List.mem_cons_self
  | @construct plain pos asked found r behind answer ahead clear first rest ih =>
    obtain ⟨-, proper, inside⟩ :=
      construct?_bounds lawful (Nat.le_trans behind within) answer
    refine ⟨found.span.start, ahead, ?_⟩
    rw [Reading.codeFirst_slice _ (by omega) (by omega), if_neg (by omega)]
    exact List.mem_cons_self
  | @block plain pos i length marker kind r next opens rest ih =>
    have i_lt := Marker.lt_length_of_at? next.here
    have bound := next.ahead
    refine ⟨i, bound, ?_⟩
    rw [Reading.codeFirst_slice _ (by omega) (by omega), if_neg (by omega)]
    exact List.mem_cons_self
  | @stray plain pos i marker r next opens rest ih =>
    have bound := next.ahead
    obtain ⟨j, le, member⟩ := ih (by omega) (Marker.lt_length_of_at? next.here) ok
    exact ⟨j, by omega, member⟩
  | unterminated => cases ok

theorem Scan.quote_mem {m : Matcher} {text : Text} {plain i : Nat} {r : Reading}
    (h : Scan m text plain (i + 1) r) (lawful : m.Lawful text) (le : plain ≤ i)
    (here : Marker.at? (text.drop i) = some .stringLiteral) (ok : r.failure = none) :
    ∃ b ∈ r.blocks, b.kind = .code ∧ '"' ∈ b.text := by
  obtain ⟨j, lt, member⟩ := h.code_mem lawful (by omega) (Marker.lt_length_of_at? here) ok
  refine ⟨_, member, rfl, ?_⟩
  obtain ⟨rest, eq⟩ := Marker.at?_eq_some.mp here
  have quote : '"' ∈ text.slice i j := by
    obtain ⟨n, rfl⟩ := Nat.exists_eq_add_of_lt lt
    rw [Text.slice, ← eq, Nat.add_assoc, Nat.add_sub_cancel_left]
    simp [Marker.mark]
  rw [← text.slice_append_slice le (Nat.le_of_lt lt)]
  exact List.mem_append_right _ quote

end Classify

namespace Reading
variable (i : Nat) (code : Text) (b : Block) (r : Reading)

theorem mem_blockFirst {b' : Block} (h : b' ∈ b :: r.blocks) :
    b' ∈ (codeFirst i code (blockFirst b r)).blocks := by
  unfold codeFirst
  split
  · exact h
  · exact List.mem_cons_of_mem _ h

theorem getLast?_blockFirst :
    (codeFirst i code (blockFirst b r)).blocks.getLast? = some (r.blocks.getLast?.getD b) := by
  unfold codeFirst
  split <;> simp [List.getLast?_cons]

end Reading

namespace Classify

theorem Scan.blocks_at_end {text : Text} {r : Reading}
    (h : Scan .never text text.length text.length r) : r.blocks = [] := by
  have only := h.unique (.done fun k lo hi => absurd hi (Nat.not_lt.mpr lo))
  simp [only, Reading.codeFirst]

theorem Scan.comment_closed {text : Text} {plain pos i length : Nat} {kind : BlockKind}
    {r : Reading} (next : Next text pos .blockComment i)
    (opens : opened (text.drop i) .blockComment = .block kind length)
    (rest : Scan .never text (i + length) (i + length) r)
    (closed : ∀ b ∈ (Reading.codeFirst plain (text.slice plain i) (.blockFirst
      ⟨kind, ⟨i, i + length⟩, text.slice i (i + length), []⟩ r)).blocks.getLast?, ¬ b.Unclosed) :
    ∃ k, Text.indexOf? ['*', '/'] ((text.drop i).drop 2) = some k := by
  cases found : Text.indexOf? ['*', '/'] ((text.drop i).drop 2) with
  | some k => exact ⟨k, rfl⟩
  | none =>
    cases opens
    have whole : blockCommentLength (text.drop i) = (text.drop i).length := by
      rw [blockCommentLength, found]
    have i_lt := Marker.lt_length_of_at? next.here
    have atEnd : i + (text.drop i).length = text.length := by
      rw [List.length_drop]
      omega
    rw [whole, atEnd] at rest
    rw [whole, Reading.getLast?_blockFirst, rest.blocks_at_end, atEnd, text.slice_length] at closed
    refine absurd ⟨rfl, ?_⟩ (closed _ rfl)
    intro j two stands
    refine Text.indexOf?_none found (j - 2) ?_
    rwa [List.drop_drop, Nat.add_sub_cancel' two]

theorem Scan.append {front text : Text} {plain pos : Nat} {r s : Reading}
    (h : Scan .never front plain pos r) (h' : Scan .never text 0 0 s) (le : plain ≤ pos)
    (within : pos ≤ front.length) (newline : front.getLast? = some '\n') (ok : r.failure = none)
    (clean : ∀ b ∈ r.blocks, b.kind = .code → '"' ∉ b.text)
    (closed : ∀ b ∈ r.blocks.getLast?, ¬ b.Unclosed) :
    ∃ t, Scan .never (front ++ text) plain pos t ∧ Reading.Continues front r s t := by
  induction h with
  | @done plain pos clear =>
    have reached : plain ≤ front.length + 0 := Nat.le_trans le within
    obtain ⟨t, scan, continues⟩ := h'.behind front (Nat.le_refl _) (Nat.zero_le _) reached
    rw [Nat.add_zero] at scan continues
    rw [Text.slice_append_left _ _ (Nat.le_refl _), Text.slice_length] at continues
    exact ⟨t, scan.back within (clear.append (Nat.le_refl _) newline text), continues⟩
  | construct behind answer => cases answer
  | @block plain pos i length marker kind r next opens rest ih =>
    obtain ⟨-, inside, ne⟩ := block_bounds next opens
    have i_lt := Marker.lt_length_of_at? next.here
    rw [Reading.codeFirst_failure, Reading.blockFirst_failure] at ok
    have cleanRest : ∀ b ∈ r.blocks, b.kind = .code → '"' ∉ b.text :=
      fun b member => clean b (Reading.mem_blockFirst _ _ _ _ (List.mem_cons_of_mem _ member))
    have closedRest : ∀ b ∈ r.blocks.getLast?, ¬ b.Unclosed := by
      intro b last
      refine closed b ?_
      rw [Reading.getLast?_blockFirst, Option.mem_def.mp last]
      rfl
    obtain ⟨t, scan, continues⟩ := ih (Nat.le_refl _) inside ok cleanRest closedRest
    have lineEnd : (front.drop i).getLast? = some '\n' := by
      rw [List.getLast?_drop, if_neg (by omega), newline]
    have opens' : opened ((front ++ text).drop i) marker = .block kind length := by
      rw [List.drop_append_of_le_length (Nat.le_of_lt i_lt)]
      refine opened_append next.here opens lineEnd ?_ text
      rintro rfl
      exact Scan.comment_closed next opens rest closed
    refine ⟨_, .block (next.append newline text) opens' scan, ?_⟩
    rw [Text.slice_append_left _ _ (Nat.le_of_lt i_lt), Text.slice_append_left _ _ inside]
    exact continues.blockFirst _ _ ne
  | @stray plain pos i marker r next opens rest ih =>
    obtain ⟨rfl, -⟩ := opened_stray opens
    obtain ⟨b, member, code, quote⟩ :=
      rest.quote_mem (Matcher.never_lawful front) (Nat.le_trans le next.ahead) next.here ok
    exact absurd quote (clean b member code)
  | unterminated => cases ok

end Classify

theorem classify_eq_error {m : Matcher} {text : Text} {e : Unterminated} :
    classify m text = .error e ↔ (read m text).failure = some e := by
  unfold classify Reading.toExcept
  split <;> simp_all

theorem Block.map_inBytes_joined {front text : Text} {as : List Block}
    (inside : ∀ a ∈ as, a.span.start ≤ front.length ∧ a.span.stop ≤ front.length)
    (bs : List Block) :
    (joined as (bs.map (shift front.length))).map (inBytes (front ++ text)) =
      joined (as.map (inBytes front)) ((bs.map (inBytes text)).map (shift front.byteLen)) := by
  rw [map_joined (f := inBytes (front ++ text)) (fun _ => rfl) (fun _ _ => rfl), List.map_map,
    List.map_map]
  congr 1
  · refine List.map_congr_left fun a member => ?_
    obtain ⟨start, stop⟩ := inside a member
    simp only [inBytes, Span.bytes, Text.byteOffset_append_left _ _ start,
      Text.byteOffset_append_left _ _ stop]
  · refine List.map_congr_left fun b _ => ?_
    simp only [Function.comp, inBytes, shift, Span.bytes, Span.shift,
      Text.byteOffset_append_right]

/-- A text that ends with a newline, with no quote in its code and no comment left open,
does not disturb the text behind it: blocks and failures there are those of that text alone,
further on by the length of the first. -/
theorem classify_append {front : Text} {as : List Block} (newline : front.getLast? = some '\n')
    (ok : classify .never front = .ok as) (clean : ∀ a ∈ as, a.kind = .code → '"' ∉ a.text)
    (closed : ∀ a ∈ as.getLast?, ¬ a.Unclosed) (text : Text) :
    ((∃ cs, classify .never (front ++ text) = .ok cs) ↔ ∃ bs, classify .never text = .ok bs) ∧
      (∀ bs, classify .never text = .ok bs →
        classify .never (front ++ text) =
          .ok (Block.joined as (bs.map (Block.shift front.length))) ∧
        (Block.joined as (bs.map (Block.shift front.length))).map (Block.inBytes (front ++ text)) =
          Block.joined (as.map (Block.inBytes front))
            ((bs.map (Block.inBytes text)).map (Block.shift front.byteLen))) ∧
      ∀ e, classify .never text = .error e →
        classify .never (front ++ text) =
          .error ⟨e.offset + front.byteLen, e.line + front.newlines⟩ := by
  have lawful := Matcher.never_lawful
  have partition := Block.Partition.of_classify (lawful front) ok
  obtain ⟨done, rfl⟩ := classify_eq_ok.mp ok
  obtain ⟨t, scan, failure, blocks⟩ := (read_scan (lawful front)).append (read_scan (lawful text))
    (Nat.le_refl _) (Nat.zero_le _) newline done clean closed
  rw [scan.unique (read_scan (lawful (front ++ text)))] at failure blocks
  have succeeds : ∀ bs, classify .never text = .ok bs → classify .never (front ++ text) =
      .ok (Block.joined (read .never front).blocks (bs.map (Block.shift front.length))) := by
    intro bs read
    obtain ⟨none, rfl⟩ := classify_eq_ok.mp read
    exact classify_eq_ok.mpr ⟨by simp [failure, none], blocks none⟩
  have fails : ∀ e, classify .never text = .error e → classify .never (front ++ text) =
      .error (e.behind front) := by
    intro e read
    exact classify_eq_error.mpr (by simp [failure, classify_eq_error.mp read])
  refine ⟨⟨?_, fun ⟨bs, read⟩ => ⟨_, succeeds bs read⟩⟩,
    fun bs read => ⟨succeeds bs read, ?_⟩, fails⟩
  · rintro ⟨cs, whole⟩
    cases read : classify .never text with
    | ok bs => exact ⟨bs, rfl⟩
    | error e =>
      rw [fails e read] at whole
      cases whole
  · refine Block.map_inBytes_joined ?_ bs
    intro a member
    exact partition.tile.mem (List.mem_map_of_mem member)

/-- An escaped quote and one in a comment are no quotes in code. Behind them, code goes on
into the next text, and a failure there is told with all that stands in front. -/
theorem classify_append_escaped :
    (∃ cs, classify .never ("é\"\\\"\"//\"\n;\n".toList ++ "x\"y\"".toList) = .ok cs ∧
      cs.map (·.text) = ["é".toList, "\"\\\"\"".toList, "//\"\n".toList, ";\nx".toList,
        "\"y\"".toList]) ∧
      classify .never ("é\"\\\"\"//\"\n;\n".toList ++ "x\"z\\\"".toList) =
        .error ⟨13, 3⟩ := by
  have ok : classify .never "é\"\\\"\"//\"\n;\n".toList =
      .ok [⟨.code, ⟨0, 1⟩, "é".toList, []⟩, ⟨.stringLiteral, ⟨1, 5⟩, "\"\\\"\"".toList, []⟩,
        ⟨.lineComment, ⟨5, 9⟩, "//\"\n".toList, []⟩, ⟨.code, ⟨9, 11⟩, ";\n".toList, []⟩] :=
    classify_eq_ok.mpr (by decide +kernel)
  have append := classify_append (by decide) ok (by decide)
    (by rintro a ⟨⟩ ⟨kind, -⟩; cases kind)
  constructor
  · obtain ⟨-, succeeds, -⟩ := append "x\"y\"".toList
    have read : classify .never "x\"y\"".toList =
        .ok [⟨.code, ⟨0, 1⟩, ['x'], []⟩, ⟨.stringLiteral, ⟨1, 4⟩, "\"y\"".toList, []⟩] :=
      classify_eq_ok.mpr (by decide +kernel)
    exact ⟨_, (succeeds _ read).1, by decide +kernel⟩
  · obtain ⟨-, -, fails⟩ := append "x\"z\\\"".toList
    have read : classify .never "x\"z\\\"".toList = .error ⟨1, 1⟩ :=
      classify_eq_error.mpr (by decide +kernel)
    exact fails _ read

end Amalgam
