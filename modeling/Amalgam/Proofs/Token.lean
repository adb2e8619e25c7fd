import Amalgam.Token
import Amalgam.Proofs.Marker

/-! Reading a text token by token. No marker starts inside a token of its mode, so that a
walk over the tokens stops where a search from the left finds the marker. A literal ends in
the same way whether its inside is read by tokens or by characters. -/
namespace Amalgam

theorem Text.leftmost_skip {α : Type} {p : Text → Option α} {t : Text} {n : Nat}
    (missed : ∀ k < n, p (t.drop k) = none) (fits : n ≤ t.length) :
    leftmost p t = (leftmost p (t.drop n)).map fun r => (n + r.1, r.2) := by
  induction n generalizing t with
  | zero => simp
  | succ n ih =>
    cases t with
    | nil => cases fits
    | cons c t =>
      have rest := ih (t := t) (fun k lt => missed (k + 1) (by omega)) (Nat.le_of_succ_le_succ fits)
      have here : p (c :: t) = none := missed 0 (by omega)
      simp only [leftmost, here, rest, List.drop_succ_cons, Option.map_map]
      congr 1
      funext r
      simp only [Function.comp_apply, Prod.mk.injEq, and_true]
      omega

namespace Token
variable {α : Type} {mode : Mode} {pick : Token → Option α} {p : Text → Option α}
  {size : α → Nat}

/-- Walks over tokens until one is picked. Answers where it starts and ends, and what it was
picked for. -/
def seek (pick : Token → Option α) : List (Token × Text) → Option (Nat × Nat × α)
  | [] => none
  | (token, s) :: rest =>
    match pick token with
    | some a => some (0, s.length, a)
    | none => (seek pick rest).map fun (i, j, a) => (s.length + i, s.length + j, a)

theorem scan_flatten (mode : Mode) (t : Text) : ((scan mode t).map (·.2)).flatten = t := by
  fun_induction scan mode t with
  | case1 => rfl
  | case2 c cs token n eq ih => simp [ih]

theorem read_le (mode : Mode) (c : Char) (cs : Text) : (read mode c cs).2 ≤ cs.length := by
  unfold read
  split
  · exact (List.takeWhile_sublist _).length_le
  · split <;> simp

theorem read_text {c : Char} (cs : Text) (plain : isPlain mode c = true) :
    read mode c cs = (.text, (cs.takeWhile (isPlain mode)).length) := by
  simp [read, plain]

theorem isPlain_of_lt {cs : Text} {k : Nat} (lt : k < (cs.takeWhile (isPlain mode)).length) :
    ∃ d rest, cs.drop k = d :: rest ∧ isPlain mode d = true := by
  have fits : k < cs.length := Nat.lt_of_lt_of_le lt (List.takeWhile_sublist _).length_le
  refine ⟨cs[k], cs.drop (k + 1), List.drop_eq_getElem_cons fits, ?_⟩
  have kept := List.all_eq_true.mp List.all_takeWhile _ (List.getElem_mem lt)
  rwa [(List.takeWhile_prefix _).getElem lt] at kept

/-- The tokens of a mode that are picked stand where `p` answers, and have the size that
belongs to the answer. -/
structure Shows (mode : Mode) (pick : Token → Option α) (p : Text → Option α)
    (size : α → Nat) : Prop where
  empty : p [] = none
  text : pick .text = none
  plain : ∀ c cs, isPlain mode c = true → p (c :: cs) = none
  found : ∀ c cs a, p (c :: cs) = some a →
    pick (read mode c cs).1 = some a ∧ (read mode c cs).2 + 1 = size a
  passed : ∀ c cs, p (c :: cs) = none → isPlain mode c = false →
    pick (read mode c cs).1 = none ∧ (read mode c cs).2 = 0

namespace Shows

theorem inside (h : Shows mode pick p size) {c : Char} {cs : Text} (missed : p (c :: cs) = none) :
    pick (read mode c cs).1 = none ∧ ∀ k < (read mode c cs).2, p (cs.drop k) = none := by
  cases plain : isPlain mode c with
  | false =>
    obtain ⟨passed, single⟩ := h.passed c cs missed plain
    exact ⟨passed, fun k lt => by simp [single] at lt⟩
  | true =>
    rw [read_text cs plain]
    refine ⟨h.text, fun k lt => ?_⟩
    obtain ⟨d, rest, eq, plain'⟩ := isPlain_of_lt lt
    rw [eq]
    exact h.plain d rest plain'

/-- The walk over the tokens stops where the search from the left does. -/
theorem seek_scan (h : Shows mode pick p size) (t : Text) :
    seek pick (scan mode t) = (Text.leftmost p t).map fun r => (r.1, r.1 + size r.2, r.2) := by
  fun_induction scan mode t with
  | case1 => simp [seek, Text.leftmost, h.empty]
  | case2 c cs token n eq ih =>
    have fits : n ≤ cs.length := by simpa [eq] using read_le mode c cs
    have length : (c :: cs.take n).length = n + 1 := by simp [Nat.min_eq_left fits]
    cases here : p (c :: cs) with
    | some a =>
      obtain ⟨picked, sized⟩ := h.found c cs a here
      rw [eq] at picked sized
      simp [seek, Text.leftmost, here, picked, ← sized, Nat.min_eq_left fits]
    | none =>
      obtain ⟨picked, inside⟩ := h.inside here
      rw [eq] at picked inside
      simp only [seek, Text.leftmost, here, picked, ih, Text.leftmost_skip inside fits, length,
        Option.map_map]
      congr 1
      funext r
      simp only [Function.comp_apply, Prod.mk.injEq, and_true]
      omega

end Shows
end Token

namespace Marker

def ofToken : Token → Option Marker
  | .blockCommentOpen => some .blockComment
  | .lineCommentOpen => some .lineComment
  | .quote => some .stringLiteral
  | _ => none

theorem shows : Token.Shows .code ofToken at? fun kind => kind.mark.length where
  empty := rfl
  text := rfl
  plain c cs plain := by
    obtain ⟨slash, quote⟩ : c ≠ '/' ∧ c ≠ '"' := by simpa [Token.isPlain] using plain
    simp [at?, slash, quote]
  found c cs kind here := by
    obtain ⟨rest, eq⟩ := at?_eq_some.mp here
    cases kind <;> cases eq <;> exact ⟨rfl, rfl⟩
  passed c cs missed special := by
    -- A quote would be a marker, so this is a slash, and a lonely one.
    have quote : c ≠ '"' := by
      rintro rfl
      cases missed
    obtain rfl : c = '/' := by simpa [Token.isPlain, quote] using special
    cases cs with
    | nil => exact ⟨rfl, rfl⟩
    | cons d cs =>
      have star : d ≠ '*' := by
        rintro rfl
        cases missed
      have slash : d ≠ '/' := by
        rintro rfl
        cases missed
      simp [Token.read, Token.isPlain, star, slash, ofToken]

theorem next?_eq_seek (text : Text) (start : Nat) :
    next? text start = (Token.seek ofToken (Token.scan .code (text.drop start))).map
      fun (i, _, kind) => (kind, start + i) := by
  rw [shows.seek_scan, next?, first?, Option.map_map]
  rfl

end Marker

namespace Token

def only (kind token : Token) : Option Unit := if token = kind then some () else none

/-- What goes on from `start` ends behind the first token of a kind, or with the text. -/
def ending (mode : Mode) (kind : Token) (text : Text) (start : Nat) : Nat :=
  match seek (only kind) (scan mode (text.drop start)) with
  | some (_, stop, _) => start + stop
  | none => text.length

theorem shows_mark {kind : Token} {mark : Text} (ne : mark ≠ []) (text : kind ≠ .text)
    (found : ∀ c cs, mark <+: c :: cs →
      isPlain mode c = false ∧ (read mode c cs).1 = kind ∧ (read mode c cs).2 + 1 = mark.length)
    (passed : ∀ c cs, ¬ mark <+: c :: cs → isPlain mode c = false →
      (read mode c cs).1 ≠ kind ∧ (read mode c cs).2 = 0) :
    Shows mode (only kind) (fun s => if mark.isPrefixOf s then some () else none)
      fun _ => mark.length where
  empty := by simp [List.isPrefixOf_iff_prefix, ne]
  text := by simp [only, text.symm]
  plain c cs plain := by
    have stands : ¬ mark <+: c :: cs := by
      intro stands
      rw [(found c cs stands).1] at plain
      cases plain
    simp [List.isPrefixOf_iff_prefix, stands]
  found c cs _ here := by
    have stands : mark <+: c :: cs := by simpa [List.isPrefixOf_iff_prefix] using here
    obtain ⟨-, kind, size⟩ := found c cs stands
    exact ⟨by simp [only, kind], size⟩
  passed c cs missed special := by
    have stands : ¬ mark <+: c :: cs := by simpa [List.isPrefixOf_iff_prefix] using missed
    obtain ⟨other, single⟩ := passed c cs stands special
    exact ⟨by simp [only, other], single⟩

theorem shows_close : Shows .blockComment (only .close)
    (fun s => if ['*', '/'].isPrefixOf s then some () else none) fun _ => 2 := by
  refine shows_mark (by simp) (by simp) ?_ ?_
  · rintro c cs ⟨rest, eq⟩
    cases eq
    exact ⟨rfl, rfl, rfl⟩
  · intro c cs missed special
    obtain rfl : c = '*' := by simpa [isPlain] using special
    cases cs with
    | nil => exact ⟨by simp [read, isPlain], rfl⟩
    | cons d cs =>
      have slash : d ≠ '/' := by
        rintro rfl
        exact missed ⟨cs, rfl⟩
      simp [read, isPlain, slash]

theorem shows_newline : Shows .lineComment (only .newline)
    (fun s => if ['\n'].isPrefixOf s then some () else none) fun _ => 1 := by
  refine shows_mark (by simp) (by simp) ?_ ?_
  · rintro c cs ⟨rest, eq⟩
    cases eq
    exact ⟨rfl, rfl, rfl⟩
  · intro c cs missed special
    obtain rfl : c = '\n' := by simpa [isPlain] using special
    exact absurd ⟨cs, rfl⟩ missed

theorem ending_eq {mode : Mode} {kind : Token} {mark : Text}
    (h : Shows mode (only kind) (fun s => if mark.isPrefixOf s then some () else none)
      fun _ => mark.length) (text : Text) (start : Nat) :
    ending mode kind text start = match Text.indexOf? mark (text.drop start) with
      | some n => start + (n + mark.length)
      | none => text.length := by
  rw [ending, h.seek_scan, Text.indexOf?]
  cases Text.leftmost _ (text.drop start) <;> rfl

end Token

theorem blockCommentEnd_eq_ending {text : Text} {start : Nat} (le : start ≤ text.length) :
    blockCommentEnd text start = Token.ending .blockComment .close text (start + 2) := by
  rw [Token.ending_eq Token.shows_close, blockCommentEnd, blockCommentLength, List.drop_drop]
  cases Text.indexOf? _ (text.drop (start + 2)) with
  | none => simp [le]
  | some n =>
    simp only [List.length_cons, List.length_nil]
    omega

theorem lineCommentEnd_eq_ending {text : Text} {start : Nat} (le : start ≤ text.length) :
    lineCommentEnd text start = Token.ending .lineComment .newline text (start + 2) := by
  rw [Token.ending_eq Token.shows_newline, lineCommentEnd, lineCommentLength, List.drop_drop]
  cases Text.indexOf? _ (text.drop (start + 2)) with
  | none => simp [le]
  | some n =>
    simp only [List.length_cons, List.length_nil]
    omega

namespace StringEnd

def ofTokens (escaped : Bool) (pos : Nat) : List (Token × Text) → StringEnd
  | [] => if escaped then .escapedQuoteAtEnd else .unclosed
  | (.quote, s) :: _ => .closed (pos + s.length)
  | (.escape, s) :: rest => ofTokens (s == ['\\', '"']) (pos + s.length) rest
  | (_, s) :: rest => ofTokens false (pos + s.length) rest

theorem scan_plain {s : Text} (plain : ∀ c ∈ s, Token.isPlain .stringLiteral c = true)
    (ne : s ≠ []) (escaped : Bool) (pos : Nat) (rest : Text) :
    scan escaped pos (s ++ rest) = scan false (pos + s.length) rest := by
  induction s generalizing escaped pos with
  | nil => exact absurd rfl ne
  | cons c s ih =>
    obtain ⟨quote, slash⟩ : c ≠ '"' ∧ c ≠ '\\' := by
      simpa [Token.isPlain] using plain c (by simp)
    have here : scan escaped pos (c :: (s ++ rest)) = scan false (pos + 1) (s ++ rest) := by
      rw [scan, if_neg (by simpa using quote)]
      exact fun _ _ eq _ => slash eq
    rw [List.cons_append, here]
    cases s with
    | nil => rfl
    | cons d s =>
      rw [ih (fun c' member => plain c' (by simp [member])) (by simp)]
      simp only [List.length_cons]
      congr 1
      omega

theorem scan_eq_ofTokens (escaped : Bool) (pos : Nat) (t : Text) :
    scan escaped pos t = ofTokens escaped pos (Token.scan .stringLiteral t) := by
  generalize mode_eq : Mode.stringLiteral = mode
  fun_induction Token.scan mode t generalizing escaped pos with
  | case1 => rfl
  | case2 c cs token n eq ih =>
    subst mode_eq
    cases plain : Token.isPlain .stringLiteral c with
    | true =>
      rw [Token.read_text cs plain] at eq
      obtain ⟨rfl, length⟩ := Prod.mk.inj eq
      have run : cs.takeWhile (Token.isPlain .stringLiteral) = cs.take n := by
        rw [← length]
        exact List.prefix_iff_eq_take.mp (List.takeWhile_prefix _)
      have kept : ∀ d ∈ c :: cs.take n, Token.isPlain .stringLiteral d = true := by
        rw [← run]
        exact List.forall_mem_cons.mpr ⟨plain, List.all_eq_true.mp List.all_takeWhile⟩
      have passed := scan_plain kept (by simp) escaped pos (cs.drop n)
      rw [List.cons_append, List.take_append_drop, ih] at passed
      exact passed
    | false =>
      obtain rfl | rfl : c = '"' ∨ c = '\\' := by
        by_cases quote : c = '"' <;> simp_all [Token.isPlain]
      · cases eq
        rfl
      · cases cs with
        | nil =>
          cases eq
          exact ih false _
        | cons d cs =>
          cases eq
          exact (ih (d == '"') (pos + 2)).trans (by simp [ofTokens])

end StringEnd

theorem stringLiteralEnd_eq_ofTokens (text : Text) (start : Nat) :
    stringLiteralEnd text start =
      .ofTokens false (start + 1) (Token.scan .stringLiteral (text.drop (start + 1))) :=
  StringEnd.scan_eq_ofTokens false _ _

end Amalgam
