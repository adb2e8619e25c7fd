import Mathlib.Data.String.Basic
import Amalgam.Text.Basic

/-! Texts and their UTF-8 forms have the same order. A character with a greater number has the
greater bytes: with as many bytes, the numbers are compared six bits at a time from the front,
and otherwise the first byte decides. -/
namespace Amalgam

namespace Utf8

/-- A number in bytes of which the last `k` hold six bits each, and the first one, counted from
`lead`, holds what is left. -/
def spread (lead : Nat) : (k : Nat) → (n : Nat) → List UInt8
  | 0, n => [UInt8.ofNat (n + lead)]
  | k + 1, n => spread lead k (n / 64) ++ [UInt8.ofNat (n % 64 + 128)]

def further (n : Nat) : Nat :=
  if n ≤ 0x7F then 0 else if n ≤ 0x7FF then 1 else if n ≤ 0xFFFF then 2 else 3

/-- Where first bytes are counted from, so that they tell how many others follow. -/
def lead : (k : Nat) → Nat
  | 0 => 0
  | 1 => 0xC0
  | 2 => 0xE0
  | _ => 0xF0

def leadByte (n : Nat) : Nat := n / 64 ^ further n + lead (further n)

theorem toNat_lt (c : Char) : c.toNat < 0x110000 := by
  rcases c.valid with low | high
  · exact Nat.lt_trans low (by decide)
  · exact high.2

theorem utf8EncodeChar_eq (c : Char) :
    String.utf8EncodeChar c = spread (lead (further c.toNat)) (further c.toNat) c.toNat := by
  have top := toNat_lt c
  simp only [String.utf8EncodeChar, further, Char.toNat_val]
  split_ifs <;> simp (disch := omega) [spread, lead, Nat.div_div_eq_div_mul, Nat.mod_eq_of_lt]

theorem spread_eq_cons (lead k n : Nat) :
    ∃ behind, spread lead k n = UInt8.ofNat (n / 64 ^ k + lead) :: behind := by
  induction k generalizing n with
  | zero => exact ⟨[], by simp [spread]⟩
  | succ k ih =>
    obtain ⟨behind, eq⟩ := ih (n / 64)
    refine ⟨behind ++ [UInt8.ofNat (n % 64 + 128)], ?_⟩
    rw [spread, eq, Nat.div_div_eq_div_mul, ← pow_succ', List.cons_append]

theorem leadByte_lt {n : Nat} (top : n < 0x110000) : leadByte n < 256 := by
  unfold leadByte further
  split_ifs <;> simp only [lead] <;> omega

theorem leadByte_lt_leadByte {m n : Nat} (lt : m < n) (top : n < 0x110000)
    (apart : further m ≠ further n) : leadByte m < leadByte n := by
  unfold leadByte further at *
  split_ifs at * <;> simp only [lead, ne_eq, not_true_eq_false] at * <;> omega

theorem ofNat_cons_lt {m n : Nat} (lt : m < n) (fits : n < 256) (s t : List UInt8) :
    UInt8.ofNat m :: s < UInt8.ofNat n :: t := by
  refine List.cons_lt_cons_iff.mpr (.inl ?_)
  rw [UInt8.lt_iff_toNat_lt, UInt8.toNat_ofNat_of_lt' (Nat.lt_trans lt fits),
    UInt8.toNat_ofNat_of_lt' fits]
  exact lt

theorem spread_lt {lead k m n : Nat} (lt : m < n) (fits : n / 64 ^ k + lead < 256)
    (s t : List UInt8) : spread lead k m ++ s < spread lead k n ++ t := by
  induction k generalizing m n s t with
  | zero =>
    rw [pow_zero, Nat.div_one] at fits
    exact ofNat_cons_lt (Nat.add_lt_add_right lt lead) fits s t
  | succ k ih =>
    rw [spread, spread, List.append_assoc, List.append_assoc]
    by_cases front : m / 64 < n / 64
    · refine ih front ?_ _ _
      rwa [Nat.div_div_eq_div_mul, ← pow_succ']
    · have same : m / 64 = n / 64 := by omega
      rw [same]
      exact List.append_left_lt (ofNat_cons_lt (by omega) (by omega) s t)

theorem utf8EncodeChar_lt {c d : Char} (lt : c < d) (s t : List UInt8) :
    String.utf8EncodeChar c ++ s < String.utf8EncodeChar d ++ t := by
  have less : c.toNat < d.toNat := UInt32.lt_iff_toNat_lt.mp lt
  have fits := leadByte_lt (toNat_lt d)
  rw [utf8EncodeChar_eq, utf8EncodeChar_eq]
  by_cases same : further c.toNat = further d.toNat
  · rw [same]
    exact spread_lt less fits s t
  · obtain ⟨behind, eq⟩ := spread_eq_cons (lead (further c.toNat)) (further c.toNat) c.toNat
    obtain ⟨behind', eq'⟩ := spread_eq_cons (lead (further d.toNat)) (further d.toNat) d.toNat
    rw [eq, eq', List.cons_append, List.cons_append]
    exact ofNat_cons_lt (leadByte_lt_leadByte less (toNat_lt d) same) fits _ _

end Utf8

namespace Text

def bytes (t : Text) : List UInt8 := t.flatMap String.utf8EncodeChar

theorem bytes_cons (c : Char) (t : Text) : bytes (c :: t) = String.utf8EncodeChar c ++ t.bytes :=
  rfl

theorem bytes_lt {s t : Text} (lt : s < t) : s.bytes < t.bytes := by
  induction lt with
  | @nil c t =>
    obtain ⟨first, behind, eq⟩ := List.exists_cons_of_ne_nil (String.utf8EncodeChar_ne_nil (c := c))
    rw [bytes_cons, eq, List.cons_append]
    exact List.nil_lt_cons _ _
  | rel lt => exact Utf8.utf8EncodeChar_lt lt _ _
  | cons rest ih => exact List.append_left_lt ih

end Text

theorem toUTF8_eq_bytes (s : String) : s.toUTF8.data.toList = Text.bytes s.toList := by
  rw [String.toUTF8_eq_toByteArray, ← String.utf8Encode_toList, List.utf8Encode,
    List.data_toByteArray, Text.bytes]

theorem toUTF8_lt {s t : String} (lt : s < t) :
    s.toUTF8.data.toList < t.toUTF8.data.toList := by
  rw [toUTF8_eq_bytes, toUTF8_eq_bytes]
  exact Text.bytes_lt (String.lt_iff_toList_lt.mp lt)

end Amalgam
