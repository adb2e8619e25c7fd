import Amalgam.Proofs.Classify.Shape
import Amalgam.Proofs.Stage.Labels

/-! What the doc-log stage leaves as it is. A tagged comment takes the blanks in front of it
along, from all that is written by then; they end at the latest where the block of code in
front of it starts, as no other block that something follows ends with a blank. -/
namespace Amalgam

namespace Text

def Firm (t : Text) : Prop := t.dropWhileEnd isSpaceOrTab = t

theorem firm_nil : Firm [] := rfl

def Solid (t : Text) : Prop := ∃ front c, t = front ++ [c] ∧ isSpaceOrTab c = false

theorem Solid.append {t : Text} (h : Solid t) (s : Text) : Firm (s ++ t) := by
  obtain ⟨front, c, rfl, plain⟩ := h
  simp [Firm, dropWhileEnd, plain]

theorem dropWhileEnd_append (p : Char → Bool) (s t : Text) :
    (s ++ t).dropWhileEnd p =
      if (t.dropWhileEnd p).isEmpty then s.dropWhileEnd p else s ++ t.dropWhileEnd p := by
  simp only [dropWhileEnd, List.reverse_append, List.dropWhile_append, List.isEmpty_reverse]
  split
  · rfl
  · rw [List.reverse_append, List.reverse_reverse]

theorem Firm.dropWhileEnd_append {s : Text} (h : Firm s) (t : Text) :
    (s ++ t).dropWhileEnd isSpaceOrTab = s ++ t.dropWhileEnd isSpaceOrTab := by
  rw [Text.dropWhileEnd_append]
  split
  · rename_i blank
    rw [List.isEmpty_iff.mp blank, List.append_nil]
    exact h
  · rfl

theorem slice_ends {text mark : Text} {i k : Nat} (le : i ≤ k) (here : mark <+: text.drop k) :
    text.slice i (k + mark.length) = text.slice i k ++ mark := by
  obtain ⟨rest, eq⟩ := here
  rw [← text.slice_append_slice le (Nat.le_add_right _ _), slice_add, ← eq, List.take_left]

end Text

namespace Block

/-- Two blocks that follow one another: if the first is code, the second is not, and if it is
not, no blank stands at its end. -/
def Seam (a b : Block) : Prop :=
  (a.kind = .code → b.kind ≠ .code) ∧ (a.kind ≠ .code → a.text.Solid)

theorem solid_of_shaped {text : Text} {b : Block} (slice : b.text = b.span.slice text)
    (shaped : b.Shaped text) (more : b.span.stop < text.length) (code : b.kind ≠ .code)
    (construct : b.kind ≠ .construct) : b.text.Solid := by
  rw [slice, Span.slice]
  rw [Shaped] at shaped
  cases kind : b.kind with
  | code => exact absurd kind code
  | construct => exact absurd kind construct
  | blockComment =>
    rw [kind] at shaped
    obtain ⟨-, ⟨k, le, here, -, stop⟩ | ⟨-, stop⟩⟩ := shaped
    · rw [stop, Text.slice_ends (by omega) here]
      exact ⟨text.slice b.span.start k ++ ['*'], '/', by simp, rfl⟩
    · omega
  | lineComment =>
    rw [kind] at shaped
    obtain ⟨-, ⟨k, le, here, -, stop⟩ | ⟨-, stop⟩⟩ := shaped
    · rw [stop, Text.slice_ends le here]
      exact ⟨_, '\n', rfl, rfl⟩
    · omega
  | stringLiteral =>
    rw [kind] at shaped
    obtain ⟨inside, rest, eq, -, stop⟩ := shaped
    have quote : ['"'] <+: text.drop (b.span.start + (inside.length + 1)) := by
      rw [← List.drop_drop, eq, List.drop_succ_cons, List.drop_left]
      exact ⟨rest, rfl⟩
    rw [stop]
    exact ⟨_, '"', Text.slice_ends (Nat.le_add_right _ _) quote, rfl⟩

theorem isChain_seam {text : Text} {blocks : List Block}
    (read : classify .never text = .ok blocks) : blocks.IsChain Seam := by
  have partition := Partition.of_classify (Matcher.never_lawful text) read
  have shapes : ∀ b ∈ blocks, b.text = b.span.slice text ∧ b.Shaped text := by
    obtain ⟨-, rfl⟩ := classify_eq_ok.mp read
    exact read_shaped (Matcher.never_lawful text)
  refine List.isChain_iff_forall_rel_of_append_cons_cons.mpr ?_
  rintro a b before after rfl
  have apart := (List.isChain_append_cons_cons.mp partition.apart).2.1
  refine ⟨fun code code' => apart ⟨code, code'⟩, fun code => ?_⟩
  obtain ⟨slice, shaped⟩ := shapes a (by simp)
  have tile := partition.tile
  rw [List.map_append] at tile
  obtain ⟨k, -, -, -, start, proper, rest⟩ := tile.append
  have more : a.span.stop < text.length := start ▸ Nat.lt_of_lt_of_le proper rest.le
  exact solid_of_shaped slice shaped more code (Visibility.kind_ne_construct read (by simp))

end Block

namespace DocLog
variable (s : DocLogSettings)

def written (b : Block) : Text :=
  match tagged? s b with
  | none => b.text
  | some c => statement s c ++ List.replicate (Text.newlines b.text) '\n'

def kept (next : Option Block) (t : Text) : Text :=
  if (next.bind (tagged? s)).isSome then t.dropWhileEnd Text.isSpaceOrTab else t

/-- What takes the place of each block: only code can lose blanks at its end. -/
def pieces : List Block → List Text
  | [] => []
  | b :: bs => (if b.kind = .code then kept s bs.head? b.text else written s b) :: pieces bs

variable {s}

theorem kept_eq {next : Option Block} {t : Text} (h : ∀ b ∈ next, t.Firm) :
    kept s next t = t := by
  unfold kept
  split
  · rename_i taken
    cases next with
    | none => cases taken
    | some b => exact h b rfl
  · rfl

theorem kept_code {b : Block} (h : b.kind = .code) (t : Text) : kept s (some b) t = t := by
  simp [kept, tagged?, h]

theorem written_code {b : Block} (h : b.kind = .code) : written s b = b.text := by
  simp [written, tagged?, h]

theorem kept_append {front : Text} (h : front.Firm) (next : Option Block) (t : Text) :
    kept s next (front ++ t) = front ++ kept s next t := by
  unfold kept
  split
  · exact h.dropWhileEnd_append t
  · rfl

theorem written_tagged_solid {b : Block} {c : Tagged} (h : tagged? s b = some c) :
    (written s b).Solid := by
  simp only [written, h]
  cases Text.newlines b.text with
  | zero =>
    refine ⟨s.sink ++ " << \"".toList ++ List.intercalate "\\n".toList (bodyLines s c) ++
      "\" << \"\\n\"".toList, ';', ?_, rfl⟩
    simp [statement]
  | succ n =>
    refine ⟨statement s c ++ List.replicate n '\n', '\n', ?_, rfl⟩
    rw [List.replicate_succ', List.append_assoc]

theorem reverse_push (out : Text) (b : Block) :
    (push s out.reverse b).reverse = kept s (some b) out ++ written s b := by
  unfold push kept written
  cases h : tagged? s b with
  | none => simp [h]
  | some c => simp [h, Text.dropWhileEnd]

theorem written_solid {b c : Block} (seam : b.Seam c) (code : b.kind ≠ .code) :
    (written s b).Solid := by
  cases found : tagged? s b with
  | some tagged => exact written_tagged_solid found
  | none => simpa [written, found] using seam.2 code

/-- Blocks are written one after the other, and what was written before them loses only the
blanks that the first one takes along. -/
theorem reverse_foldl_push {blocks : List Block} (chain : blocks.IsChain Block.Seam)
    {out : Text} (firm : ∀ b ∈ blocks.head?, b.kind = .code → out.Firm) :
    (blocks.foldl (push s) out.reverse).reverse =
      kept s blocks.head? out ++ (pieces s blocks).flatten := by
  induction blocks generalizing out with
  | nil => simp [kept, pieces]
  | cons b bs ih =>
    obtain ⟨seam, chain⟩ := List.isChain_cons.mp chain
    have push_eq : push s out.reverse b = (kept s (some b) out ++ written s b).reverse := by
      rw [← reverse_push, List.reverse_reverse]
    rw [List.foldl_cons, push_eq, List.head?_cons, pieces, List.flatten_cons, ← List.append_assoc]
    by_cases code : b.kind = .code
    · -- The next block is not code, and takes blanks from this one at most.
      rw [kept_code code, written_code code, if_pos code,
        ih chain fun c hc code' => absurd code' ((seam c hc).1 code), kept_append (firm b rfl code)]
    · have solid : ∀ c ∈ bs.head?, (kept s (some b) out ++ written s b).Firm :=
        fun c hc => (written_solid (seam c hc) code).append _
      rw [ih chain fun c hc _ => solid c hc, kept_eq solid, if_neg code]

theorem render_eq_pieces {text : Text} {blocks : List Block}
    (read : classify .never text = .ok blocks) : render s blocks = (pieces s blocks).flatten := by
  have written : (blocks.foldl (push s) (List.reverse [])).reverse = _ :=
    reverse_foldl_push (Block.isChain_seam read) fun _ _ _ => Text.firm_nil
  rwa [kept_eq fun _ _ => Text.firm_nil] at written

theorem pieces_append {before after : List Block} {b : Block} (code : b.kind ≠ .code) :
    ∃ ahead, ahead.length = before.length ∧
      pieces s (before ++ b :: after) = ahead ++ written s b :: pieces s after := by
  induction before with
  | nil => exact ⟨[], rfl, by simp [pieces, code]⟩
  | cons a before ih =>
    obtain ⟨ahead, length, eq⟩ := ih
    exact ⟨_ :: ahead, congrArg (· + 1) length, by rw [List.cons_append, pieces, eq]; rfl⟩

end DocLog

open DocLog in
/-- The doc-log stage writes the blocks of a text one after the other: a log statement and its
newlines for a tagged comment, code without the blanks at its end if such a comment follows,
and every other block as it is. So nothing but code loses a character. -/
theorem docLog_pieces {settings : Settings} {text : Text} {blocks : List Block}
    (read : classify .never text = .ok blocks) :
    Stage.docLog.apply settings text = .ok (pieces settings.docLog blocks).flatten ∧
      ∀ before b after, blocks = before ++ b :: after → b.kind ≠ .code →
        ∃ ahead, ahead.length = before.length ∧
          pieces settings.docLog blocks =
            ahead ++ written settings.docLog b :: pieces settings.docLog after := by
  constructor
  · have applied : Stage.docLog.apply settings text = .ok (render settings.docLog blocks) :=
      Stage.apply_eq read
    rw [applied, render_eq_pieces read]
  · rintro before b after rfl code
    exact pieces_append code

open DocLog in
/-- Three tagged comments: behind blanks alone, twice, and behind a literal. -/
theorem docLog_pieces_indented : ∃ text blocks,
    text = "// a \n \t/** @info\n * b\n */\t /** @info\n */\"c \"/** @info\n */ /* d \t*/ ".toList ∧
      classify .never text = .ok blocks ∧
      pieces {} blocks = ["// a \n".toList, [], "logger() << \"b\" << \"\\n\";\n\n".toList, [],
        "logger() << \"\" << \"\\n\";\n".toList, "\"c \"".toList,
        "logger() << \"\" << \"\\n\";\n".toList, [' '], "/* d \t*/".toList, [' ']] ∧
      Stage.docLog.apply {} text = .ok (pieces {} blocks).flatten := by
  refine ⟨_, _, rfl, classify_eq_ok.mpr ⟨by decide +kernel, rfl⟩, by decide +kernel, ?_⟩
  exact (@docLog_pieces {} _ _ (classify_eq_ok.mpr ⟨by decide +kernel, rfl⟩)).1

end Amalgam
