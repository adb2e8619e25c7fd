import Amalgam.Proofs.Stage.Comment
import Amalgam.Proofs.Stage.Statement

/-! One pass of the doc-log stage is enough. What it writes is read again piece by piece: the
blocks that stay are read as they were, and a log statement is read as code and two literals. So
the only comments left are those without a tag, and a second pass finds nothing to do. -/
namespace Amalgam

def Piece.comments (ps : List Piece) : List Text :=
  (ps.filter (·.kind == .blockComment)).map (·.text)

namespace Piece

theorem comments_cons (p : Piece) (ps : List Piece) :
    comments (p :: ps) = (if p.kind = .blockComment then [p.text] else []) ++ comments ps := by
  by_cases kind : p.kind = .blockComment <;> simp [comments, kind]

theorem comments_append (ps qs : List Piece) : comments (ps ++ qs) = comments ps ++ comments qs := by
  simp [comments]

@[simp] theorem comments_codeFirst (code : Text) (ps : List Piece) :
    comments (codeFirst code ps) = comments ps := by
  unfold codeFirst
  split
  · rfl
  · simp [comments_cons]

theorem mem_comments {b : Block} {blocks : List Block} (h : b ∈ blocks)
    (kind : b.kind = .blockComment) : b.text ∈ comments (blocks.map Block.piece) := by
  refine List.mem_map.mpr ⟨b.piece, ?_, rfl⟩
  exact List.mem_filter.mpr ⟨List.mem_map_of_mem h, by simp [Block.piece, kind]⟩

end Piece

/-- The text is read, behind whatever code is open, and `left` are the comments in it. -/
def Leaves (text : Text) (left : List Text) : Prop :=
  ∀ code, ∃ ps, Cut code text ps ∧ Piece.comments ps = left

namespace Leaves
variable {text rest : Text} {left : List Text}

theorem nil : Leaves [] [] := fun code => ⟨_, .done code, Piece.comments_codeFirst code []⟩

theorem skip (free : Unmarked text rest) (h : Leaves rest left) : Leaves (text ++ rest) left := by
  intro code
  have ⟨ps, cut, eq⟩ := h (code ++ text)
  exact ⟨ps, cut.skip free, eq⟩

theorem verbatim {marker : Marker} {kind : BlockKind} {n : Nat}
    (here : Marker.at? text = some marker)
    (opens : Classify.opened text marker = .block kind n) (last : text.drop n = [] → rest = [])
    (h : Leaves rest left) :
    Leaves (text.take n ++ rest) ((if kind = .blockComment then [text.take n] else []) ++ left) := by
  intro code
  have ⟨ps, cut, eq⟩ := h []
  refine ⟨_, .verbatim here opens last cut, ?_⟩
  rw [Piece.comments_codeFirst, Piece.comments_cons, eq]

end Leaves

namespace DocLog
open Classify
variable {s : DocLogSettings}

theorem interior_bodyLines {c : Tagged} (said : ∀ line ∈ c.body, '"' ∉ line ∧ '\\' ∉ line) :
    Interior (List.intercalate ['\\', 'n'] (bodyLines s c)) := by
  have quote := not_mem_bodyLines (s := s) (x := '"') (by decide) (by decide)
    fun line member => (said line member).1
  have slash := not_mem_bodyLines (s := s) (x := '\\') (by decide) (by decide)
    fun line member => (said line member).2
  refine ((Text.intercalate_iff_isInert _).mpr fun line member => ?_).1
  exact Text.isInert_of_not_mem (quote line member) (slash line member)

theorem leaves_statement (sink : ∀ c ∈ s.sink, c ≠ '"' ∧ c ≠ '/' ∧ c ≠ '*') {c : Tagged}
    (said : ∀ line ∈ c.body, '"' ∉ line ∧ '\\' ∉ line) (n : Nat) {rest : Text} {left : List Text}
    (h : Leaves rest left) : Leaves (statement s c ++ (List.replicate n '\n' ++ rest)) left := by
  intro code
  have plain : ∀ c ∈ s.sink, c ≠ '/' ∧ c ≠ '"' :=
    fun c member => ⟨(sink c member).2.1, (sink c member).1⟩
  have ending : ∀ c ∈ ';' :: List.replicate n '\n', c ≠ '/' ∧ c ≠ '"' := by
    simp
  have ⟨ps, cut, eq⟩ := h.skip (.of_plain ending) []
  refine ⟨_, cut_statement plain (interior_bodyLines said) cut code, ?_⟩
  simp [statementPieces, Piece.comments_cons, eq]

theorem head?_statement (sink : ∀ c ∈ s.sink, c ≠ '"' ∧ c ≠ '/' ∧ c ≠ '*') (c : Tagged)
    (rest : Text) : ∀ d ∈ (statement s c ++ rest).head?, d ≠ '/' ∧ d ≠ '*' := by
  intro d first
  cases start : s.sink with
  | nil =>
    have eq : ' ' = d := by simpa [statement, start] using first
    subst eq
    decide
  | cons e others =>
    have eq : e = d := by simpa [statement, start] using first
    subst eq
    exact (sink e (by simp [start])).2

theorem tagged?_none {b : Block} (h : b.kind = .blockComment → parse? s b.text = none) :
    tagged? s b = none := by
  unfold tagged?
  split
  · rename_i kind
    exact h kind
  · rfl

def untagged (s : DocLogSettings) (blocks : List Block) : List Text :=
  (Piece.comments (blocks.map Block.piece)).filter fun t => (parse? s t).isNone

@[simp] theorem untagged_codeFirst (i : Nat) (code : Text) (r : Reading) :
    untagged s (r.codeFirst i code).blocks = untagged s r.blocks := by
  rw [untagged, Reading.map_piece_codeFirst, Piece.comments_codeFirst, untagged]

theorem untagged_cons (b : Block) (bs : List Block) :
    untagged s (b :: bs) = untagged s [b] ++ untagged s bs := by
  have parts : Piece.comments ((b :: bs).map Block.piece) =
      Piece.comments ([b].map Block.piece) ++ Piece.comments (bs.map Block.piece) :=
    Piece.comments_append [b.piece] _
  rw [untagged, parts, List.filter_append]
  rfl

theorem untagged_of_tagged {b : Block} {c : Tagged} (h : tagged? s b = some c) :
    untagged s [b] = [] := by
  have ⟨kind, parsed⟩ := tagged?_some h
  simp [untagged, Piece.comments, Block.piece, kind, parsed]

theorem untagged_of_none {b : Block} (h : tagged? s b = none) :
    untagged s [b] = if b.kind = .blockComment then [b.text] else [] := by
  by_cases kind : b.kind = .blockComment
  · have parsed : parse? s b.text = none := by simpa [tagged?, kind] using h
    simp [untagged, Piece.comments, Block.piece, kind, parsed]
  · simp [untagged, Piece.comments, Block.piece, kind]

theorem flatten_pieces_code (i : Nat) (code : Text) :
    (pieces s (Reading.codeFirst i code ⟨[], none⟩).blocks).flatten = code := by
  unfold Reading.codeFirst
  split
  · rename_i empty
    exact (List.isEmpty_iff.mp empty).symm
  · simp [pieces, kept]

theorem flatten_pieces_block {b : Block} (kind : b.kind ≠ .code) (i : Nat) (code : Text)
    (r : Reading) :
    (pieces s (Reading.codeFirst i code (.blockFirst b r)).blocks).flatten =
      kept s (some b) code ++ (written s b ++ (pieces s r.blocks).flatten) := by
  unfold Reading.codeFirst
  split
  · rename_i empty
    rw [List.isEmpty_iff.mp empty]
    simp [pieces, kind, kept, Text.dropWhileEnd]
  · simp [pieces, kind]

/-- What takes the place of a block and of the code in front of it: the block as it was, or the
log statement, which the code meets without its blanks. -/
theorem leaves_block (sink : ∀ c ∈ s.sink, c ≠ '"' ∧ c ≠ '/' ∧ c ≠ '*') {b : Block}
    {code text rest : Text} {left : List Text} {marker : Marker} {n : Nat}
    (said : ∀ c ∈ tagged? s b, ∀ line ∈ c.body, '"' ∉ line ∧ '\\' ∉ line)
    (free : Unmarked code text) (here : Marker.at? text = some marker)
    (opens : opened text marker = .block b.kind n) (block : b.text = text.take n)
    (last : text.drop n = [] → rest = []) (h : Leaves rest left) :
    Leaves (kept s (some b) code ++ (written s b ++ rest)) (untagged s [b] ++ left) := by
  cases found : tagged? s b with
  | none =>
    obtain ⟨proper, inside, -⟩ := opened_bounds here opens
    have ne : text ≠ [] := List.ne_nil_of_length_pos (Nat.lt_of_lt_of_le proper inside)
    have same : kept s (some b) code ++ (written s b ++ rest) = code ++ (text.take n ++ rest) := by
      simp [kept, written, found, block]
    rw [same, untagged_of_none found, block]
    exact .skip (free.take ne proper rest) (.verbatim here opens last h)
  | some c =>
    obtain ⟨blanks, whole, -⟩ := Text.CutTo.dropWhileEnd code
    have same : kept s (some b) code ++ (written s b ++ rest) =
        code.dropWhileEnd Text.isSpaceOrTab ++
          (statement s c ++ (List.replicate (Text.newlines b.text) '\n' ++ rest)) := by
      simp [kept, written, found]
    rw [same, untagged_of_tagged found, List.nil_append]
    rw [whole] at free
    exact .skip (free.front (head?_statement sink c _)) (leaves_statement sink (said c found) _ h)

/-- What is written for the blocks that are read is read again, with the comments that carry no
tag. A quote in the code, which could open a literal now, is not there. -/
theorem leaves_pieces (sink : ∀ c ∈ s.sink, c ≠ '"' ∧ c ≠ '/' ∧ c ≠ '*') {text : Text}
    {plain pos : Nat} {r : Reading} (h : Scan .never text plain pos r) (le : plain ≤ pos)
    (within : pos ≤ text.length) (passed : Marker.Clear text plain pos) (ok : r.failure = none)
    (clean : ∀ b ∈ r.blocks, b.kind = .code → '"' ∉ b.text)
    (said : ∀ b ∈ r.blocks, ∀ c ∈ tagged? s b, ∀ line ∈ c.body, '"' ∉ line ∧ '\\' ∉ line) :
    Leaves (pieces s r.blocks).flatten (untagged s r.blocks) := by
  induction h with
  | @done plain pos clear =>
    have free := Unmarked.of_clear (passed.join clear) (Nat.le_trans le within)
    rw [text.slice_length, List.drop_length] at free
    rw [flatten_pieces_code, untagged_codeFirst, ← List.append_nil (text.drop plain)]
    exact .skip free .nil
  | construct behind answer => cases answer
  | @block plain pos i length marker kind r next opens rest ih =>
    have ⟨proper, inside, ne⟩ := block_bounds next opens
    have free := Unmarked.of_clear (passed.join next.clear) (Nat.le_trans le next.ahead)
    have last : (text.drop i).drop length = [] → (pieces s r.blocks).flatten = [] := by
      intro atEnd
      rw [List.drop_drop, List.drop_eq_nil_iff] at atEnd
      have stop : i + length = text.length := Nat.le_antisymm inside atEnd
      rw [stop] at rest
      rw [rest.blocks_at_end]
      rfl
    rw [Reading.codeFirst_failure, Reading.blockFirst_failure] at ok
    have cleanRest : ∀ b ∈ r.blocks, b.kind = .code → '"' ∉ b.text :=
      fun b member => clean b (Reading.mem_blockFirst _ _ _ _ (List.mem_cons_of_mem _ member))
    have saidRest : ∀ b ∈ r.blocks, ∀ c ∈ tagged? s b,
        ∀ line ∈ c.body, '"' ∉ line ∧ '\\' ∉ line :=
      fun b member => said b (Reading.mem_blockFirst _ _ _ _ (List.mem_cons_of_mem _ member))
    have left := ih (Nat.le_refl _) inside (fun k lo hi => by omega) ok cleanRest saidRest
    have saidHere := said _ (Reading.mem_blockFirst _ _ _ _ List.mem_cons_self)
    rw [flatten_pieces_block ne, untagged_codeFirst, Reading.blockFirst_blocks, untagged_cons]
    exact leaves_block sink saidHere free next.here opens (text.slice_add i length) last left
  | @stray plain pos i marker r next opens rest ih =>
    have ⟨eq, _⟩ := opened_stray opens
    subst eq
    have ⟨b, member, code, quote⟩ :=
      rest.quote_mem (Matcher.never_lawful text) (Nat.le_trans le next.ahead) next.here ok
    exact absurd quote (clean b member code)
  | unterminated => cases ok

theorem apply_read (settings : Settings) {text : Text} {blocks : List Block}
    (read : classify .never text = .ok blocks) :
    Stage.docLog.apply settings text = .ok (render settings.docLog blocks) :=
  Stage.apply_eq read

theorem pieces_untagged {blocks : List Block} (h : ∀ b ∈ blocks, tagged? s b = none) :
    pieces s blocks = blocks.map (·.text) := by
  induction blocks with
  | nil => rfl
  | cons b bs ih =>
    have ⟨first, rest⟩ := List.forall_mem_cons.mp h
    have next : ∀ t, kept s bs.head? t = t := by
      intro t
      cases bs with
      | nil => rfl
      | cons c bs => simp [kept, (List.forall_mem_cons.mp rest).1]
    simp [pieces, next, written, first, ih rest]

theorem render_untagged {text : Text} {blocks : List Block}
    (read : classify .never text = .ok blocks) (h : ∀ b ∈ blocks, tagged? s b = none) :
    render s blocks = text := by
  rw [render_eq_pieces read, pieces_untagged h, ← List.flatMap_def]
  exact (Block.Partition.of_classify (Matcher.never_lawful text) read).flatMap_text

end DocLog

open DocLog in
/-- One pass of the doc-log stage is enough, if the sink, the code and what the tagged comments
say do not meddle with quotes and comments. Its output can be read, the comments in it are those
of the text that carry no tag, and a second pass returns it as it is. -/
theorem docLog_settles {settings : Settings} {text : Text} {blocks : List Block}
    (sink : ∀ c ∈ settings.docLog.sink, c ≠ '"' ∧ c ≠ '/' ∧ c ≠ '*')
    (read : classify .never text = .ok blocks)
    (clean : ∀ b ∈ blocks, b.kind = .code → '"' ∉ b.text)
    (said : ∀ b ∈ blocks, ∀ c ∈ tagged? settings.docLog b,
      ∀ line ∈ c.body, '"' ∉ line ∧ '\\' ∉ line) :
    ∃ out blocks', Stage.docLog.apply settings text = .ok out ∧
      classify .never out = .ok blocks' ∧
      Piece.comments (blocks'.map Block.piece) = untagged settings.docLog blocks ∧
      (∀ b ∈ blocks', b.kind = .blockComment → parse? settings.docLog b.text = none) ∧
      Stage.docLog.apply settings out = .ok out := by
  have lawful := Matcher.never_lawful
  have applied := apply_read settings read
  rw [render_eq_pieces read] at applied
  have ⟨ok, eq⟩ := classify_eq_ok.mp read
  subst eq
  have ⟨ps, cut, comments⟩ := leaves_pieces sink (read_scan (lawful text)) (Nat.le_refl _)
    (Nat.zero_le _) (fun k lo hi => by omega) ok clean said []
  have ⟨blocks', again, eq⟩ := classify_of_cut cut
  subst eq
  have plain : ∀ b ∈ blocks', b.kind = .blockComment → parse? settings.docLog b.text = none := by
    intro b member kind
    have left := Piece.mem_comments member kind
    rw [comments] at left
    simpa using (List.mem_filter.mp left).2
  have unchanged := apply_read settings again
  rw [render_untagged again fun b member => tagged?_none (plain b member)] at unchanged
  exact ⟨_, blocks', applied, again, comments, plain, unchanged⟩

/-- A tagged comment behind a slash and a blank, whose body looks like the start of a comment;
a comment without a tag, one that is not closed, and a quote in a literal. -/
theorem docLog_settles_slashed : ∃ text out blocks',
    text = "a / /** @info\n * /* b // c\n */\"\\\"\" /** d */ /** @info\n".toList ∧
      out = "a /logger() << \"/* b // c\" << \"\\n\";\n\n\"\\\"\" /** d */ /** @info\n".toList ∧
      Stage.docLog.apply {} text = .ok out ∧ classify .never out = .ok blocks' ∧
      Piece.comments (blocks'.map Block.piece) = ["/** d */".toList, "/** @info\n".toList] ∧
      (∀ b ∈ blocks', b.kind = .blockComment → DocLog.parse? {} b.text = none) ∧
      Stage.docLog.apply {} out = .ok out := by
  have read : classify .never
      "a / /** @info\n * /* b // c\n */\"\\\"\" /** d */ /** @info\n".toList = .ok _ :=
    classify_eq_ok.mpr ⟨by decide +kernel, rfl⟩
  have ⟨out, blocks', applied, again, comments, plain, unchanged⟩ :=
    @docLog_settles {} _ _ (by simp) read (by decide +kernel) (by decide +kernel)
  have written : Stage.docLog.apply {}
      "a / /** @info\n * /* b // c\n */\"\\\"\" /** d */ /** @info\n".toList =
        .ok "a /logger() << \"/* b // c\" << \"\\n\";\n\n\"\\\"\" /** d */ /** @info\n".toList := by
    decide +kernel
  have same := Except.ok.inj (applied.symm.trans written)
  exact ⟨_, out, blocks', rfl, same, applied, again, comments.trans (by decide +kernel), plain,
    unchanged⟩

end Amalgam
