import Amalgam.Text.Basic

/-! Pieces of a text, by position. -/
namespace Amalgam

/-- The positions from `start` up to, not including, `stop`. -/
structure Span where
  start : Nat
  stop : Nat
  deriving DecidableEq, Repr

namespace Span

def slice (s : Span) (text : Text) : Text := text.slice s.start s.stop

def bytes (s : Span) (text : Text) : Span :=
  ⟨text.byteOffset s.start, text.byteOffset s.stop⟩

end Span

end Amalgam
