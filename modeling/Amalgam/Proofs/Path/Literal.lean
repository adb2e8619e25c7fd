import Amalgam.Proofs.Literal
import Amalgam.Proofs.Merge.Provenance

/-! Paths as string literals. Every backslash and every quote of a path is escaped, so what is
written between quotes is the inside of a literal that says the path. Different paths are then
written differently, whatever follows them. -/
namespace Amalgam

namespace Path
variable {p q : Path}

theorem interior_escaped (p : Path) : Interior p.escaped ∧ p.escaped.unslashed = p.text := by
  obtain ⟨t⟩ := p
  induction t with
  | nil => exact ⟨.nil, rfl⟩
  | cons c t ih =>
    obtain ⟨interior, said⟩ := ih
    rw [escaped_cons]
    split
    · exact ⟨.escape c interior, congrArg (c :: ·) said⟩
    · rename_i plain
      obtain ⟨quote, slash⟩ := not_or.mp plain
      rw [List.singleton_append, Text.unslashed_plain slash, said]
      exact ⟨.plain quote slash interior, rfl⟩

theorem stringLiteralEnd_escaped (p : Path) (rest : Text) :
    stringLiteralEnd ('"' :: (p.escaped ++ '"' :: rest)) 0 = .closed (p.escaped.length + 2) := by
  have closed := StringEnd.scan_interior p.interior_escaped.1 false 1 rest
  rw [Nat.add_right_comm, Nat.add_comm] at closed
  exact closed

/-- The closing quote of a path's literal stands in one place, so the literal can be taken off
the text that it starts. -/
theorem escaped_append_inj {rest rest' : Text} :
    p.escaped ++ '"' :: rest = q.escaped ++ '"' :: rest' ↔ p = q ∧ rest = rest' := by
  constructor
  · intro eq
    have length : p.escaped.length = q.escaped.length := by
      have closed := stringLiteralEnd_escaped p rest
      rw [eq, stringLiteralEnd_escaped q rest', StringEnd.closed.injEq] at closed
      omega
    obtain ⟨same, behind⟩ := List.append_inj eq length
    have text : p.text = q.text := by
      rw [← p.interior_escaped.2, same, q.interior_escaped.2]
    exact ⟨congrArg Path.mk text, (List.cons_eq_cons.mp behind).2⟩
  · rintro ⟨rfl, rfl⟩
    rfl

theorem lineDirective_inj {m n : Nat} :
    lineDirective m p = lineDirective n q ↔ m = n ∧ p = q := by
  constructor
  · intro eq
    have read := readDirective?_lineDirective m p
    rw [eq, readDirective?_lineDirective n q] at read
    cases read
    exact ⟨rfl, rfl⟩
  · rintro ⟨rfl, rfl⟩
    rfl

theorem origin_inj {markers : MarkerSettings} :
    (Event.origin p).line? markers = (Event.origin q).line? markers ↔ p = q := by
  have eq (p : Path) : (Event.origin p).line? markers = some ("#define ".toList ++
      markers.originDefine ++ " (\"".toList ++ (p.escaped ++ '"' :: [')'])) := by
    simp [Event.line?]
  rw [eq, eq, Option.some_inj, List.append_cancel_left_eq, escaped_append_inj]
  simp

end Path

/-- A path's literal ends at the quote that was put behind the path and says the path. Two
literals are the same, as are two directives or two definitions of the origin, only if they
are of the same path. -/
theorem path_literal_reads_back (p q : Path) (rest rest' : Text) (m n : Nat)
    (markers : MarkerSettings) :
    stringLiteralEnd ('"' :: (p.escaped ++ '"' :: rest)) 0 =
      .closed ('"' :: (p.escaped ++ ['"'])).length ∧
    p.escaped.unslashed = p.text ∧
    ('"' :: (p.escaped ++ '"' :: rest) = '"' :: (q.escaped ++ '"' :: rest') ↔
      p = q ∧ rest = rest') ∧
    (lineDirective m p = lineDirective n q ↔ m = n ∧ p = q) ∧
    ((Event.origin p).line? markers = (Event.origin q).line? markers ↔ p = q) := by
  refine ⟨?_, p.interior_escaped.2, ?_, Path.lineDirective_inj, Path.origin_inj⟩
  · simp [Path.stringLiteralEnd_escaped]
  · simp [Path.escaped_append_inj]

end Amalgam
