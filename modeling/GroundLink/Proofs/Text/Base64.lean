import GroundLink.Text.Base64
import Mathlib.Tactic.Lemma

/-!
# Base64 that is read again

Any bytes are read from their own base64 form.
-/

namespace GroundLink.Text.Base64

/-! ### Symbols -/

lemma value?_symbol {n : Nat} (h : n < 64) : value? (symbol n).toNat = some n := by
  revert n
  decide

lemma symbol_ne_pad {n : Nat} (h : n < 64) : (symbol n).toNat ≠ pad := by
  revert n
  decide

lemma utf8Size_symbol (n : Nat) : (symbol n).utf8Size = 1 := by
  have hsmall : ∀ n < 64, (symbol n).utf8Size = 1 := by decide
  by_cases h : n < 64
  · exact hsmall n h
  · rw [symbol, if_neg (by omega), if_neg (by omega), if_neg (by omega), if_neg (by omega)]
    rfl

lemma bitsAt_symbol {n : Nat} (h : n < 64) (offset : Nat) :
    bitsAt offset (symbol n).toNat = .ok n := by
  rw [bitsAt, value?_symbol h]

/-! ### The last quad -/

lemma splitLast_symbol {n : Nat} (h : n < 64) (start : Nat) (rest : List Nat) (index : Nat)
    (bits : List Nat) :
    splitLast start ((symbol n).toNat :: rest) index bits none
      = splitLast start rest (index + 1) (bits ++ [n]) none := by
  rw [splitLast, if_neg (symbol_ne_pad h), bitsAt_symbol h]
  rfl

variable {w x y z : Nat}

/-- One byte stands in two symbols, whose last bits are zero. -/
lemma decodeLast_one (hw : w < 64) (hx : x < 64) (hzero : (w * 64 + x) % 16 = 0) (start : Nat) :
    decodeLast start [(symbol w).toNat, (symbol x).toNat, pad, pad]
      = .ok [.ofNat ((w * 64 + x) / 16)] := by
  have hsplit : splitLast start [(symbol w).toNat, (symbol x).toNat, pad, pad] 0 [] none
      = .ok ([w, x], 2) := by
    rw [splitLast_symbol hw, splitLast_symbol hx]
    rfl
  simp [decodeLast, hsplit, hzero, bind, Except.bind, pure, Except.pure]

/-- Two bytes stand in three symbols, whose last bits are zero. -/
lemma decodeLast_two (hw : w < 64) (hx : x < 64) (hy : y < 64)
    (hzero : ((w * 64 + x) * 64 + y) % 4 = 0) (start : Nat) :
    decodeLast start [(symbol w).toNat, (symbol x).toNat, (symbol y).toNat, pad]
      = .ok [.ofNat (((w * 64 + x) * 64 + y) / 1024), .ofNat (((w * 64 + x) * 64 + y) / 4)] := by
  have hsplit : splitLast start [(symbol w).toNat, (symbol x).toNat, (symbol y).toNat, pad] 0 []
      none = .ok ([w, x, y], 1) := by
    rw [splitLast_symbol hw, splitLast_symbol hx, splitLast_symbol hy]
    rfl
  simp [decodeLast, hsplit, hzero, bind, Except.bind, pure, Except.pure]

/-- The three bytes of four symbols. -/
def triple (n : Nat) : List UInt8 := [.ofNat (n / 65536), .ofNat (n / 256), .ofNat n]

lemma decodeLast_three (hw : w < 64) (hx : x < 64) (hy : y < 64) (hz : z < 64) (start : Nat) :
    decodeLast start [(symbol w).toNat, (symbol x).toNat, (symbol y).toNat, (symbol z).toNat]
      = .ok (triple (((w * 64 + x) * 64 + y) * 64 + z)) := by
  have hsplit : splitLast start
      [(symbol w).toNat, (symbol x).toNat, (symbol y).toNat, (symbol z).toNat] 0 [] none
        = .ok ([w, x, y, z], 0) := by
    rw [splitLast_symbol hw, splitLast_symbol hx, splitLast_symbol hy, splitLast_symbol hz]
    rfl
  simp [decodeLast, hsplit, triple, bind, Except.bind, pure, Except.pure]

/-! ### Bytes -/

/-- A quad that others follow is read as its three bytes. -/
lemma decodeQuads_cons (hw : w < 64) (hx : x < 64) (hy : y < 64) (hz : z < 64) (start : Nat)
    {rest : List Nat} (hrest : rest ≠ []) :
    decodeQuads start ((symbol w).toNat :: (symbol x).toNat :: (symbol y).toNat
        :: (symbol z).toNat :: rest)
      = (decodeQuads (start + 4) rest).map (triple (((w * 64 + x) * 64 + y) * 64 + z) ++ ·) := by
  obtain ⟨e, rest, rfl⟩ := List.exists_cons_of_ne_nil hrest
  rw [decodeQuads, bitsAt_symbol hw, bitsAt_symbol hx, bitsAt_symbol hy, bitsAt_symbol hz]
  cases decodeQuads (start + 4) (e :: rest) <;> rfl

lemma ofNat_eq {n : Nat} {b : UInt8} (h : n % 256 = b.toNat) : UInt8.ofNat n = b :=
  UInt8.toNat_inj.mp (UInt8.toNat_ofNat.trans h)

lemma triple_eq (a b c : UInt8) :
    triple ((a.toNat * 256 + b.toNat) * 256 + c.toNat) = [a, b, c] := by
  have ha := a.toNat_lt
  have hb := b.toNat_lt
  have hc := c.toNat_lt
  rw [triple, ofNat_eq (b := a) (by omega), ofNat_eq (b := b) (by omega),
    ofNat_eq (b := c) (by omega)]

lemma encode_ne_nil {bytes : List UInt8} (h : bytes ≠ []) : encode bytes ≠ [] := by
  fun_cases encode bytes with
  | case1 => exact absurd rfl h
  | case2 => nofun
  | case3 => nofun
  | case4 => nofun

/-- Bytes are read from the numbers of their symbols. -/
lemma decodeQuads_encode {bytes : List UInt8} (h : bytes ≠ []) (start : Nat) :
    decodeQuads start ((encode bytes).map Char.toNat) = .ok bytes := by
  fun_induction encode bytes generalizing start with
  | case1 => exact absurd rfl h
  | case2 a n =>
    have ha := a.toNat_lt
    have hread := decodeLast_one (w := n / 64) (x := n % 64) (by omega) (by omega) (by omega) start
    refine hread.trans ?_
    rw [ofNat_eq (b := a) (by omega)]
  | case3 a b n =>
    have ha := a.toNat_lt
    have hb := b.toNat_lt
    have hread := decodeLast_two (w := n / 4096) (x := n / 64 % 64) (y := n % 64) (by omega)
      (by omega) (by omega) (by omega) start
    refine hread.trans ?_
    rw [ofNat_eq (b := a) (by omega), ofNat_eq (b := b) (by omega)]
  | case4 a b c rest n ih =>
    have ha := a.toNat_lt
    have hb := b.toNat_lt
    have hc := c.toNat_lt
    have hn : ((n / 262144 * 64 + n / 4096 % 64) * 64 + n / 64 % 64) * 64 + n % 64 = n := by omega
    -- The last quad is read by rules of its own, also where it is a full one.
    by_cases hrest : rest = []
    · subst hrest
      have hread := decodeLast_three (w := n / 262144) (x := n / 4096 % 64) (y := n / 64 % 64)
        (z := n % 64) (by omega) (by omega) (by omega) (by omega) start
      refine hread.trans ?_
      rw [hn, triple_eq]
    · have hne : (encode rest).map Char.toNat ≠ [] := fun hnil =>
        encode_ne_nil hrest (List.map_eq_nil_iff.mp hnil)
      have hread := decodeQuads_cons (w := n / 262144) (x := n / 4096 % 64) (y := n / 64 % 64)
        (z := n % 64) (by omega) (by omega) (by omega) (by omega) start hne
      refine hread.trans ?_
      rw [hn, triple_eq, ih hrest]
      rfl

lemma length_encode (bytes : List UInt8) : (encode bytes).length % 4 = 0 := by
  fun_induction encode bytes with
  | case1 => rfl
  | case2 => simp
  | case3 => simp
  | case4 a b c rest n ih =>
    simp only [List.length_cons]
    omega

/-- Every symbol of a base64 text is one byte. -/
lemma utf8Size_encode (bytes : List UInt8) : ∀ c ∈ encode bytes, c.utf8Size = 1 := by
  have hpad : '='.utf8Size = 1 := rfl
  fun_induction encode bytes with
  | case1 => nofun
  | case2 => simp [utf8Size_symbol, hpad]
  | case3 => simp [utf8Size_symbol, hpad]
  | case4 a b c rest n ih => simpa [utf8Size_symbol] using ih

lemma toList_loop (bytes : ByteArray) (i : Nat) (seen : List UInt8) :
    ByteArray.toList.loop bytes i seen = seen.reverse ++ bytes.data.toList.drop i := by
  fun_induction ByteArray.toList.loop bytes i seen with
  | case1 i seen hlt ih =>
    have hlength : i < bytes.data.toList.length := hlt
    have hget : bytes.get! i = bytes.data.toList[i] := by
      change bytes.data[i]! = _
      rw [getElem!_pos bytes.data i hlt, Array.getElem_toList]
    rw [ih, hget, List.drop_eq_getElem_cons hlength, List.reverse_cons, List.append_assoc]
    rfl
  | case2 i seen hge =>
    have hlength : bytes.data.toList.length ≤ i := Nat.le_of_not_lt hge
    rw [List.drop_eq_nil_of_le hlength, List.append_nil]

/-- The bytes of a text of one-byte characters are the numbers of the characters. -/
lemma toList_toUTF8 {cs : List Char} (h : ∀ c ∈ cs, c.utf8Size = 1) :
    (String.ofList cs).toUTF8.toList.map UInt8.toNat = cs.map Char.toNat := by
  have hbytes : (String.ofList cs).toUTF8.toList = cs.flatMap String.utf8EncodeChar := by
    rw [String.toUTF8, String.toByteArray_ofList, ByteArray.toList, toList_loop, List.drop_zero]
    exact List.toList_data_toByteArray
  rw [hbytes]
  clear hbytes
  induction cs with
  | nil => rfl
  | cons c cs ih =>
    have hc := h c (.head _)
    have hsmall : c.toNat < 128 := by
      have hval := UInt32.le_iff_toNat_le.mp (Char.utf8Size_eq_one_iff.mp hc)
      exact Nat.lt_succ_of_le hval
    rw [List.flatMap_cons, List.map_append, String.utf8EncodeChar_eq_singleton hc,
      ih fun d hd => h d (.tail _ hd)]
    have hbyte : c.val.toUInt8.toNat = c.toNat := by
      rw [UInt32.toNat_toUInt8]
      exact Nat.mod_eq_of_lt (Nat.lt_trans hsmall (by decide))
    rw [List.map_singleton, hbyte]
    rfl

/-- Bytes are read from the text that they are written as. -/
theorem decode_encode (bytes : List UInt8) :
    decode (String.ofList (encode bytes)).toUTF8.toList = .ok bytes := by
  rw [decode, toList_toUTF8 (utf8Size_encode bytes)]
  by_cases hnil : bytes = []
  · subst hnil
    rfl
  · have hne : (encode bytes).map Char.toNat ≠ [] := fun h =>
      encode_ne_nil hnil (List.map_eq_nil_iff.mp h)
    have hlength : ((encode bytes).map Char.toNat).length % 4 = 0 := by
      rw [List.length_map, length_encode]
    rw [if_neg hne, if_neg, decodeQuads_encode hnil]
    rintro ⟨hone, -⟩
    omega

end GroundLink.Text.Base64
