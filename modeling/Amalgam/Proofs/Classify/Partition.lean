import Mathlib.Data.List.Chain
import Amalgam.Proofs.Classify.Scan
import Amalgam.Proofs.Span

/-! The blocks of a text partition it. -/
namespace Amalgam

/-- The blocks from position `i` on: end to end, each with its piece of the text, and code
never cut in two. -/
structure Block.Partition (text : Text) (i : Nat) (blocks : List Block) : Prop where
  tile : Span.Tile i (blocks.map (·.span)) text.length
  slices : ∀ b ∈ blocks, b.text = b.span.slice text
  apart : blocks.IsChain fun a b => ¬ (a.kind = .code ∧ b.kind = .code)

namespace Block.Partition
variable {text : Text} {i : Nat} {blocks : List Block}

theorem nil (text : Text) : Partition text text.length [] :=
  ⟨rfl, by simp, .nil⟩

theorem cons {b : Block} (h : Partition text b.span.stop blocks)
    (proper : b.span.start < b.span.stop) (slice : b.text = b.span.slice text)
    (apart : ∀ c ∈ blocks.head?, ¬ (b.kind = .code ∧ c.kind = .code)) :
    Partition text b.span.start (b :: blocks) where
  tile := ⟨rfl, proper, h.tile⟩
  slices := List.forall_mem_cons.mpr ⟨slice, h.slices⟩
  apart := h.apart.cons apart

theorem codeFirst {j : Nat} {r : Reading} (h : Partition text j r.blocks) (le : i ≤ j)
    (apart : ∀ c ∈ r.blocks.head?, c.kind ≠ .code) :
    Partition text i (r.codeFirst i (text.slice i j)).blocks := by
  rw [r.codeFirst_slice le h.tile.le]
  split
  · rename_i eq
    rwa [eq]
  · refine h.cons (b := ⟨.code, ⟨i, j⟩, text.slice i j, []⟩) ?_ rfl ?_
    · simp only
      omega
    · exact fun c hc both => apart c hc both.2

theorem blockFirst {b : Block} {r : Reading} (h : Partition text b.span.stop r.blocks)
    (proper : b.span.start < b.span.stop) (slice : b.text = b.span.slice text)
    (ne : b.kind ≠ .code) : Partition text b.span.start (r.blockFirst b).blocks :=
  h.cons proper slice fun _ _ both => ne both.1

theorem flatMap_text (h : Partition text i blocks) :
    blocks.flatMap (·.text) = text.drop i := by
  calc blocks.flatMap (·.text) = blocks.flatMap (·.span.slice text) :=
        List.flatMap_congr h.slices
    _ = (blocks.map (·.span)).flatMap (·.slice text) := by rw [List.flatMap_map]
    _ = text.slice i text.length := h.tile.flatMap_slice text
    _ = text.drop i := text.slice_length i

theorem flatMap_text_before {before after : List Block} {b : Block}
    (h : Partition text 0 (before ++ b :: after)) :
    before.flatMap (·.text) = text.take b.span.start := by
  have tile := h.tile
  rw [List.map_append] at tile
  obtain ⟨k, front, rfl, -, -⟩ := tile.append
  calc before.flatMap (·.text) = before.flatMap (·.span.slice text) :=
        List.flatMap_congr fun b member => h.slices b (List.mem_append_left _ member)
    _ = (before.map (·.span)).flatMap (·.slice text) := by rw [List.flatMap_map]
    _ = text.slice 0 b.span.start := front.flatMap_slice text
    _ = text.take b.span.start := by simp [Text.slice]

theorem covers (h : Partition text i blocks) {n : Nat} (lo : i ≤ n) (hi : n < text.length) :
    ∃ b ∈ blocks, b.span.start ≤ n ∧ n < b.span.stop := by
  obtain ⟨s, member, holds⟩ := h.tile.covers lo hi
  obtain ⟨b, hb, rfl⟩ := List.mem_map.mp member
  exact ⟨b, hb, holds⟩

theorem pairwise (h : Partition text i blocks) :
    blocks.Pairwise (·.span.stop ≤ ·.span.start) :=
  List.pairwise_map.mp h.tile.pairwise

theorem unique (h : Partition text i blocks) {b c : Block} (hb : b ∈ blocks) (hc : c ∈ blocks)
    {n : Nat} (inB : b.span.start ≤ n ∧ n < b.span.stop)
    (inC : c.span.start ≤ n ∧ n < c.span.stop) : b = c := by
  obtain ⟨before, after, rfl⟩ := List.append_of_mem hb
  obtain ⟨-, behind, ahead⟩ := List.pairwise_append.mp h.pairwise
  rcases List.mem_append.mp hc with hc | hc
  · have := ahead c hc b List.mem_cons_self
    omega
  · rcases List.mem_cons.mp hc with rfl | hc
    · rfl
    · have := (List.pairwise_cons.mp behind).1 c hc
      omega

theorem next (h : Partition text i blocks) {b : Block} (hb : b ∈ blocks)
    (more : b.span.stop < text.length) :
    ∃ c ∈ blocks, c.span.start = b.span.stop ∧ c.span.start < c.span.stop ∧
      ¬ (b.kind = .code ∧ c.kind = .code) := by
  obtain ⟨before, after, rfl⟩ := List.append_of_mem hb
  obtain ⟨tile, -, apart⟩ := h
  rw [List.map_append] at tile
  obtain ⟨k, -, rfl, -, rest⟩ := tile.append
  cases after with
  | nil =>
    have atEnd : b.span.stop = text.length := rest
    omega
  | cons c after =>
    obtain ⟨start, proper, -⟩ := rest
    exact ⟨c, by simp, start, proper, (List.isChain_cons_cons.mp apart.right_of_append).1⟩

theorem byteSpans (h : Partition text i blocks) :
    Block.byteSpans (text.byteOffset i) blocks = blocks.map (·.span.bytes text) := by
  obtain ⟨tile, slices, -⟩ := h
  induction blocks generalizing i with
  | nil => rfl
  | cons b bs ih =>
    obtain ⟨rfl, proper, rest⟩ := tile
    obtain ⟨slice, later⟩ := List.forall_mem_cons.mp slices
    have stop : text.byteOffset b.span.start + b.text.byteLen = text.byteOffset b.span.stop := by
      rw [slice]
      exact text.byteOffset_add_byteLen_slice (Nat.le_of_lt proper)
    rw [Block.byteSpans, List.map_cons, stop, ih rest later]
    rfl

end Block.Partition

theorem Classify.Scan.partition {m : Matcher} {text : Text} {plain pos : Nat} {r : Reading}
    (h : Scan m text plain pos r) (lawful : m.Lawful text) (le : plain ≤ pos)
    (within : pos ≤ text.length) (ok : r.failure = none) :
    Block.Partition text plain r.blocks := by
  induction h with
  | @done plain pos clear =>
    rw [← text.slice_length plain]
    exact (Block.Partition.nil text).codeFirst (Nat.le_trans le within) (by simp)
  | @construct plain pos asked found r behind answer ahead clear first rest ih =>
    obtain ⟨-, proper, inside⟩ :=
      construct?_bounds lawful (Nat.le_trans behind within) answer
    simp only [Reading.codeFirst_failure, Reading.blockFirst_failure] at ok
    have later := ih (Nat.le_refl _) inside ok
    refine Block.Partition.codeFirst ?_ (Nat.le_trans le ahead) (by simp)
    exact Block.Partition.blockFirst (b := ⟨.construct, found.span, _, _⟩) later proper rfl
      (by simp)
  | @block plain pos i length marker kind r next opens rest ih =>
    obtain ⟨proper, inside, ne⟩ := block_bounds next opens
    simp only [Reading.codeFirst_failure, Reading.blockFirst_failure] at ok
    have later := ih (Nat.le_refl _) inside ok
    refine Block.Partition.codeFirst ?_ (Nat.le_trans le next.ahead) (by simpa using ne)
    exact Block.Partition.blockFirst (b := ⟨kind, ⟨i, i + length⟩, _, []⟩) later
      (Nat.lt_add_of_pos_right proper) rfl ne
  | @stray plain pos i marker r next opens rest ih =>
    -- The reader moves on, and what is not yet in a block still starts at `plain`.
    have i_lt := Marker.lt_length_of_at? next.here
    exact ih (Nat.le_succ_of_le (Nat.le_trans le next.ahead)) i_lt ok
  | unterminated => cases ok

theorem Block.Partition.of_classify {m : Matcher} {text : Text} {blocks : List Block}
    (lawful : m.Lawful text) (h : classify m text = .ok blocks) : Partition text 0 blocks := by
  obtain ⟨ok, rfl⟩ := classify_eq_ok.mp h
  exact (read_scan lawful).partition lawful (Nat.le_refl _) (Nat.zero_le _) ok

/-- The blocks of a text lie end to end from its start to its end, in characters and in
bytes. Each holds its piece of the text, together they hold all of it, and between two
blocks of code there is another one. -/
theorem classify_partition {m : Matcher} {text : Text} {blocks : List Block}
    (lawful : m.Lawful text) (h : classify m text = .ok blocks) :
    Span.Tile 0 (blocks.map (·.span)) text.length ∧
      Span.Tile 0 (Block.byteSpans 0 blocks) text.byteLen ∧
      Block.byteSpans 0 blocks = blocks.map (·.span.bytes text) ∧
      (∀ b ∈ blocks, b.text = b.span.slice text) ∧
      blocks.flatMap (·.text) = text ∧
      blocks.IsChain fun a b => ¬ (a.kind = .code ∧ b.kind = .code) := by
  obtain ⟨ok, rfl⟩ := classify_eq_ok.mp h
  have partition :=
    (read_scan lawful).partition lawful (Nat.le_refl _) (Nat.zero_le _) ok
  have inBytes : Block.byteSpans 0 (read m text).blocks =
      (read m text).blocks.map (·.span.bytes text) := partition.byteSpans
  have tile := partition.tile.bytes (Nat.le_refl _)
  rw [List.map_map, text.byteOffset_length] at tile
  refine ⟨partition.tile, ?_, inBytes, partition.slices, partition.flatMap_text,
    partition.apart⟩
  rw [inBytes]
  exact tile

/-- Of three matches, one lies in a comment, one takes a slash and one a quote. -/
theorem classify_partition_swallowing : ∃ blocks,
    classify (.spans [⟨2, 4⟩, ⟨7, 8⟩, ⟨9, 11⟩]) "é/*/*/a//b\"c\\\"\"'\"'".toList = .ok blocks ∧
      blocks.map (·.kind) = [.code, .blockComment, .code, .construct, .code, .construct, .code,
        .stringLiteral, .code] ∧
      Span.Tile 0 (Block.byteSpans 0 blocks) 19 ∧
      blocks.flatMap (·.text) = "é/*/*/a//b\"c\\\"\"'\"'".toList := by
  have ok : classify (.spans [⟨2, 4⟩, ⟨7, 8⟩, ⟨9, 11⟩]) "é/*/*/a//b\"c\\\"\"'\"'".toList =
      .ok (read (.spans [⟨2, 4⟩, ⟨7, 8⟩, ⟨9, 11⟩]) "é/*/*/a//b\"c\\\"\"'\"'".toList).blocks :=
    classify_eq_ok.mpr ⟨by decide +kernel, rfl⟩
  obtain ⟨-, bytes, -, -, whole, -⟩ := classify_partition (Matcher.spans_lawful (by decide)) ok
  exact ⟨_, ok, by decide +kernel, bytes, whole⟩

end Amalgam
