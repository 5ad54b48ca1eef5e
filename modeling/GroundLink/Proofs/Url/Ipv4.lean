import GroundLink.Proofs.Decimal.Digits
import GroundLink.Proofs.Url.Domain.Plain
import GroundLink.Proofs.Url.Percent
import GroundLink.Url.Ipv4

/-!
# Reading IPv4 addresses

An address is read from its four bytes again, and no address is too large for them.
-/

namespace GroundLink.Url.Ipv4

open Decimal
open Text (hexValue?)

variable {cs : List Char} {n : Nat}

/-! ### Numbers -/

lemma digit?_of_isDigit {c : Char} (hc : c.isDigit = true) :
    digit? 10 c = some (c.toNat - '0'.toNat) :=
  forall_ascii (p := fun c => c.isDigit = true → digit? 10 c = some (c.toNat - '0'.toNat))
    (by decide +kernel) (toNat_lt_of_isAlphanum (by simp [Char.isAlphanum, hc])) hc

/-- Decimal digits are read as the number that they make. -/
lemma digits?_of_isDigit (h : ∀ c ∈ cs, c.isDigit = true) :
    digits? 10 cs = some (Nat.ofDigitChars 10 cs 0) := by
  unfold digits?
  generalize 0 = n
  induction cs generalizing n with
  | nil => rfl
  | cons c cs ih =>
    obtain ⟨hc, hcs⟩ := List.forall_mem_cons.mp h
    rw [List.foldlM_cons, digit?_of_isDigit hc, Nat.ofDigitChars_cons]
    exact ih hcs _

/-- A number is read from its digits, which no mark of a base begins. -/
lemma number?_digitsOf (n : Nat) : number? (digitsOf n) = some n := by
  have hread := digits?_of_isDigit (isDigit_digitsOf n)
  rw [ofDigitChars_digitsOf] at hread
  have hzero := digitsOf_ne_zero_cons n
  obtain ⟨c, cs, hdigits, -⟩ := digitsOf_cons n
  rw [hdigits] at hread hzero ⊢
  unfold number?
  split
  case h_1 heq => cases heq
  case h_2 heq => exact absurd heq (hzero _ _)
  case h_3 heq => exact absurd heq (hzero _ _)
  case h_4 heq => exact absurd heq (hzero _ _)
  case h_5 => exact hread

/-! ### Addresses -/

/-- The bytes of an address, the highest one first. -/
def bytes (n : Nat) : List Nat := [n / 2 ^ 24 % 256, n / 2 ^ 16 % 256, n / 2 ^ 8 % 256, n % 256]

lemma chars_eq (n : Nat) : chars n = List.intercalate ['.'] ((bytes n).map digitsOf) := by
  simp [chars, bytes, digitsOf, Nat.shiftRight_eq_div_pow, List.intercalate]

lemma splitOn_chars (n : Nat) : (chars n).splitOn '.' = (bytes n).map digitsOf := by
  rw [chars_eq]
  refine List.splitOn_intercalate '.' (fun digits hdigits hdot => ?_) (by simp [bytes])
  obtain ⟨byte, -, rfl⟩ := List.mem_map.mp hdigits
  exact absurd (isDigit_digitsOf byte _ hdot) (by decide)

lemma getLast?_bytes (n : Nat) :
    ((bytes n).map digitsOf).getLast? = some (digitsOf (n % 256)) := by
  simp [bytes]

lemma parts_chars (n : Nat) : parts (chars n) = (bytes n).map digitsOf := by
  unfold parts
  dsimp only
  rw [splitOn_chars, getLast?_bytes, if_neg (by simpa using digitsOf_ne_nil _)]

/-- What is written as an address is expected to be one. -/
lemma isExpected_chars (n : Nat) : isExpected (chars n) = true := by
  have hall : (digitsOf (n % 256)).all Char.isDigit = true :=
    List.all_eq_true.mpr (isDigit_digitsOf _)
  unfold isExpected
  rw [parts_chars, getLast?_bytes]
  simp [hall, digitsOf_ne_nil]

/-- An address is read from its bytes. -/
theorem read?_chars (hn : n < 2 ^ 32) : read? (chars n) = some n := by
  have hnumbers : ((bytes n).map digitsOf).mapM number? = some (bytes n) := by
    rw [mapM_eq_some]
    exact List.forall₂_map_left_iff.mpr
      (List.forall₂_same.mpr fun byte _ => number?_digitsOf byte)
  rw [read?, parts_chars, hnumbers, Option.bind_eq_bind, Option.bind_some]
  simp only [ofNumbers?, bytes, List.getLast?_cons_cons, List.getLast?_singleton,
    List.dropLast_cons_cons, List.dropLast_singleton, List.length_cons, List.length_nil,
    List.any_cons, List.any_nil, List.foldl_cons, List.foldl_nil]
  rw [if_neg (by simp; omega)]
  simp
  omega

lemma foldl_lt {bytes : List Nat} (h : ∀ byte ∈ bytes, byte ≤ 255) (n : Nat) :
    bytes.foldl (256 * · + ·) n < (n + 1) * 256 ^ bytes.length := by
  induction bytes generalizing n with
  | nil => simp
  | cons byte bytes ih =>
    obtain ⟨hbyte, hbytes⟩ := List.forall_mem_cons.mp h
    rw [List.foldl_cons, List.length_cons, Nat.pow_succ', ← Nat.mul_assoc]
    exact Nat.lt_of_lt_of_le (ih hbytes _) (Nat.mul_le_mul_right _ (by omega))

/-- Every address fits into four bytes. -/
theorem lt_of_read? (h : read? cs = some n) : n < 2 ^ 32 := by
  obtain ⟨numbers, -, hnumbers⟩ := Option.bind_eq_some_iff.mp h
  unfold ofNumbers? at hnumbers
  split at hnumbers
  case h_1 => cases hnumbers
  case h_2 last hlast =>
    dsimp only at hnumbers
    split at hnumbers
    case isTrue => cases hnumbers
    case isFalse hfits =>
      obtain rfl := Option.some.inj hnumbers
      rw [not_or, not_or, Nat.not_lt, Nat.not_le, Bool.not_eq_true, List.any_eq_false] at hfits
      obtain ⟨hcount, hsize, hbytes⟩ := hfits
      have hfold : numbers.dropLast.foldl (256 * · + ·) 0
          < (0 + 1) * 256 ^ numbers.dropLast.length :=
        foldl_lt (fun byte hbyte => by simpa using hbytes byte hbyte) 0
      have hlen : numbers.dropLast.length ≤ 3 := by
        rw [List.length_dropLast]
        omega
      generalize numbers.dropLast.foldl (256 * · + ·) 0 = value at hfold ⊢
      generalize numbers.dropLast.length = k at hfold hsize hlen ⊢
      rw [Nat.one_shiftLeft] at hsize ⊢
      have hwhole : 256 ^ k * 2 ^ (8 * (4 - k)) = 2 ^ 32 := by
        rw [show 256 = 2 ^ 8 from rfl, ← Nat.pow_mul, ← Nat.pow_add]
        congr 1
        omega
      calc value * 2 ^ (8 * (4 - k)) + last < (value + 1) * 2 ^ (8 * (4 - k)) := by
            rw [Nat.add_mul, Nat.one_mul]
            exact Nat.add_lt_add_left hsize _
        _ ≤ 256 ^ k * 2 ^ (8 * (4 - k)) := Nat.mul_le_mul_right _ (by omega)
        _ = 2 ^ 32 := hwhole

/-- An address stands for itself as a name. -/
lemma isPlain_chars (n : Nat) : Domain.IsPlain (chars n) := by
  have hdigit : ∀ c : Char, c.isDigit = true →
      c.toNat < 128 ∧ c.toLower = c ∧ Domain.isForbidden c = false := fun c hc =>
    forall_ascii (p := fun c => c.isDigit = true →
      c.toNat < 128 ∧ c.toLower = c ∧ Domain.isForbidden c = false) (by decide +kernel)
      (toNat_lt_of_isAlphanum (by simp [Char.isAlphanum, hc])) hc
  constructor
  case chars =>
    intro c hc
    rw [chars_eq] at hc
    rcases Domain.mem_intercalate hc with rfl | ⟨digits, hdigits, hc⟩
    · decide
    · obtain ⟨byte, -, rfl⟩ := List.mem_map.mp hdigits
      exact hdigit c (isDigit_digitsOf byte c hc)
  case labels =>
    intro label hlabel
    rw [splitOn_chars] at hlabel
    obtain ⟨byte, -, rfl⟩ := List.mem_map.mp hlabel
    obtain ⟨c, cs, hdigits, hc⟩ := digitsOf_cons byte
    have hne : 'x' ≠ c := fun h => by
      rw [← h] at hc
      cases hc
    rw [hdigits, Domain.Label.punycodeMark, List.isPrefixOf, beq_eq_false_iff_ne.mpr hne]
    rfl

end GroundLink.Url.Ipv4
