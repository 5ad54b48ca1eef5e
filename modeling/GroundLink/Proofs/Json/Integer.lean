import GroundLink.Proofs.Json.Parsed

/-!
# Decimal forms of integers

Wherever the decimal form of an integer stands in a text, it is read as the integer if that has 64
bits. The form of any other integer is read as a floating-point number, if it is read at all; it is
never read as another integer.
-/

namespace GroundLink.Json

open Decimal

variable {j : Json} {n : Int}

/-- A value is what the decimal form of an integer is read as in some place of a text. -/
def DecimalOf (n : Int) (j : Json) : Prop :=
  ∃ size nested rest pos c, EndsNumber rest
    ∧ readValueWith size nested ⟨chars (int n) ++ rest, pos⟩ = .ok (j, c)

/-- Digits behind a sign are read as their number, if they are read as an integer at all. -/
lemma readNumber_decimal {negative : Bool} {m : Nat} {rest : List Char} {pos : Position}
    {k : Number} {c : Cursor} (hrest : EndsNumber rest)
    (h : readNumber negative ⟨digitsOf m ++ rest, pos⟩ = .ok (k, c)) :
    (∃ x, k = .float x) ∨ k = integer negative m := by
  rcases readNumber_gives h with ⟨x, hx, -⟩ | ⟨m', -, hm', rfl⟩
  · exact .inl ⟨x, hx⟩
  · obtain ⟨pos', hspan⟩ := spanDigits_append (isDigit_digitsOf m) hrest.endsDigits pos
    rw [hspan, ofDigitChars_digitsOf] at hm'
    exact .inr (hm' ▸ rfl)

lemma integer_natAbs (n : Int) :
    (∃ x, integer (decide (n < 0)) n.natAbs = .float x)
      ∨ integer (decide (n < 0)) n.natAbs = .int n := by
  rw [integer]
  split_ifs with hneg hfloat
  · exact .inl ⟨_, rfl⟩
  · have habs : -(n.natAbs : Int) = n := by
      have := of_decide_eq_true hneg
      omega
    exact .inr (congrArg Number.int habs)
  · have habs : (n.natAbs : Int) = n := by
      rw [decide_eq_true_eq] at hneg
      omega
    exact .inr (congrArg Number.int habs)

/-- The decimal form of an integer is never read as another one. -/
lemma DecimalOf.eq_or (h : DecimalOf n j) : j = .int n ∨ ∃ x, j = .number (.float x) := by
  obtain ⟨size, nested, rest, pos, c, hrest, h⟩ := h
  change readValueWith size nested ⟨intChars n ++ rest, pos⟩ = _ at h
  have hnumber : ∃ k, j = .number k
      ∧ ((∃ x, k = .float x) ∨ k = integer (decide (n < 0)) n.natAbs) := by
    rw [intChars] at h
    split at h
    case isTrue hneg =>
      rw [List.cons_append, readValueWith_minus_eq] at h
      obtain ⟨⟨k, c'⟩, hk, heq⟩ := map_eq_ok.mp h
      cases heq
      rw [decide_eq_true hneg]
      exact ⟨k, rfl, readNumber_decimal hrest hk⟩
    case isFalse hpos =>
      obtain ⟨d, ds, hdigits, hd⟩ := digitsOf_cons n.natAbs
      rw [hdigits, List.cons_append, readValueWith_digit_eq hd, ← List.cons_append, ← hdigits] at h
      obtain ⟨⟨k, c'⟩, hk, heq⟩ := map_eq_ok.mp h
      cases heq
      rw [decide_eq_false hpos]
      exact ⟨k, rfl, readNumber_decimal hrest hk⟩
  obtain ⟨k, rfl, ⟨x, rfl⟩ | rfl⟩ := hnumber
  · exact .inr ⟨x, rfl⟩
  · rcases integer_natAbs n with ⟨x, hx⟩ | hint
    · exact .inr ⟨x, congrArg Json.number hx⟩
    · exact .inl (congrArg Json.number hint)

/-- The decimal form of an integer of 64 bits, with or without a sign, is read as the integer. -/
theorem decimalOf_iff (hlow : Int64.minValue.toInt ≤ n) (hhigh : n < UInt64.size) :
    DecimalOf n j ↔ j = .int n := by
  constructor
  · rintro ⟨size, nested, rest, pos, c, hrest, h⟩
    obtain ⟨pos', hread⟩ := @readValueWith_int size nested n hlow hhigh rest pos hrest
    rw [hread] at h
    cases h
    rfl
  · rintro rfl
    obtain ⟨pos', hread⟩ := @readValueWith_int 0 none n hlow hhigh [] .start endsNumber_nil
    exact ⟨0, none, [], .start, _, endsNumber_nil, hread⟩

end GroundLink.Json
