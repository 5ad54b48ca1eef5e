import GroundLink.Proofs.Result
import GroundLink.Proofs.Url.Percent
import GroundLink.Url.Ipv6
import Mathlib.Algebra.Group.Nat.Defs
import Mathlib.Data.List.TakeWhile

/-!
# Reading IPv6 addresses

An address is read from what it is written as again, and what is read is eight pieces of 16 bits.
-/

namespace GroundLink.Url.Ipv6

open Text (hexValue? hexValue?_lt hexNumber)

variable {cs ds rest : List Char} {vs pieces : List Nat} {p : Partial} {n fuel limit : Nat}

/-! ### Pieces -/

/-- A piece as it is written. -/
def hex (n : Nat) : List Char := Nat.toDigits 16 n

lemma hexValue?_digitChar (hn : n < 16) : hexValue? n.digitChar = some n := by
  revert n
  decide

lemma hexNumber_hex (n : Nat) : hexNumber (hex n) = n := by
  induction n using Nat.strongRecOn with
  | ind n ih =>
    rw [hex, Nat.toDigits_eq_if (by decide)]
    split
    case isTrue hlt => simp [hexNumber, hexValue?_digitChar hlt]
    case isFalse hge =>
      have hfront := ih (n / 16) (by omega)
      rw [hexNumber, List.foldl_append, ← hexNumber, ← hex, hfront]
      simp only [List.foldl_cons, List.foldl_nil, hexValue?_digitChar (Nat.mod_lt n (by decide)),
        Option.getD_some]
      omega

lemma hexValue?_of_mem_hex {c : Char} (hc : c ∈ hex n) : ∃ d, hexValue? c = some d := by
  induction n using Nat.strongRecOn with
  | ind n ih =>
    rw [hex, Nat.toDigits_eq_if (by decide)] at hc
    split at hc
    case isTrue hlt =>
      obtain rfl := List.mem_singleton.mp hc
      exact ⟨n, hexValue?_digitChar hlt⟩
    case isFalse hge =>
      rcases List.mem_append.mp hc with hc | hc
      · exact ih (n / 16) (by omega) hc
      · obtain rfl := List.mem_singleton.mp hc
        exact ⟨n % 16, hexValue?_digitChar (Nat.mod_lt n (by decide))⟩

lemma hex_cons (n : Nat) : ∃ c ds d, hex n = c :: ds ∧ hexValue? c = some d := by
  obtain ⟨c, ds, hds⟩ := List.exists_cons_of_ne_nil (Nat.toDigits_ne_nil (n := n) (b := 16))
  obtain ⟨d, hd⟩ := hexValue?_of_mem_hex (n := n) (c := c) (by rw [hex, hds]; simp)
  exact ⟨c, ds, d, hds, hd⟩

lemma length_hex_le (hn : n < 65536) : (hex n).length ≤ 4 :=
  (Nat.length_toDigits_le_iff (by decide) (by decide)).mpr hn

/-- The digits of a piece are split off up to what is none. -/
lemma takePiece_append {taken value : Nat} (hds : ∀ c ∈ ds, ∃ d, hexValue? c = some d)
    (hlen : ds.length ≤ limit) (hrest : ∀ c ∈ rest.head?, hexValue? c = none) :
    takePiece limit taken value (ds ++ rest)
      = (taken + ds.length, ds.foldl (fun n c => 16 * n + (hexValue? c).getD 0) value, rest) := by
  induction ds generalizing limit taken value with
  | nil =>
    cases limit with
    | zero => rfl
    | succ limit =>
      cases rest with
      | nil => rfl
      | cons c rest =>
        rw [List.nil_append, takePiece, hrest c rfl]
        rfl
  | cons c ds ih =>
    obtain ⟨⟨d, hd⟩, hds⟩ := List.forall_mem_cons.mp hds
    rw [List.length_cons] at hlen
    obtain ⟨limit, rfl⟩ : ∃ k, limit = k + 1 := ⟨limit - 1, by omega⟩
    rw [List.cons_append, takePiece, hd]
    dsimp only
    rw [ih hds (by omega), List.foldl_cons, hd, List.length_cons]
    simp only [Option.getD_some, Prod.mk.injEq, and_true]
    omega

lemma takePiece_hex (hn : n < 65536) (hrest : ∀ c ∈ rest.head?, hexValue? c = none) :
    takePiece 4 0 0 (hex n ++ rest) = ((hex n).length, n, rest) := by
  rw [takePiece_append (fun _ hc => hexValue?_of_mem_hex hc) (length_hex_le hn) hrest, Nat.zero_add,
    ← hexNumber, hexNumber_hex]

/-! ### Reading -/

/-- A partial address with a piece behind its others. -/
def Partial.push (p : Partial) (n : Nat) : Partial := { p with pieces := n :: p.pieces }

lemma Partial.count_push (p : Partial) (n : Nat) : (p.push n).count = p.count + 1 := by
  simp only [push, count, List.length_cons]
  omega

/-- A piece that is followed by another one. -/
lemma readPieces?_hex_colon (hp : p.count < 8) (hn : n < 65536) (hrest : rest ≠ []) :
    readPieces? (fuel + 1) p (hex n ++ ':' :: rest) = readPieces? fuel (p.push n) rest := by
  have htake : takePiece 4 0 0 (hex n ++ ':' :: rest) = ((hex n).length, n, ':' :: rest) :=
    takePiece_hex hn (by rintro c ⟨⟩; rfl)
  obtain ⟨c, ds, d, hhex, hd⟩ := hex_cons n
  have hcolon : c ≠ ':' := by
    rintro rfl
    cases hd
  rw [hhex] at htake ⊢
  rw [List.cons_append] at htake ⊢
  rw [readPieces?, if_neg (by omega), if_neg hcolon, htake]
  simp [hrest, Partial.push]

/-- The last piece. -/
lemma readPieces?_hex (hp : p.count < 8) (hn : n < 65536) :
    readPieces? (fuel + 2) p (hex n) = (p.push n).complete? := by
  have htake : takePiece 4 0 0 (hex n ++ []) = ((hex n).length, n, []) :=
    takePiece_hex hn (by simp)
  rw [List.append_nil] at htake
  obtain ⟨c, ds, d, hhex, hd⟩ := hex_cons n
  have hcolon : c ≠ ':' := by
    rintro rfl
    cases hd
  rw [hhex] at htake ⊢
  rw [readPieces?, if_neg (by omega), if_neg hcolon, htake]
  rfl

lemma joined_cons (n : Nat) (vs : List Nat) :
    joined (n :: vs) = hex n ++ vs.flatMap fun v => ':' :: hex v := by
  induction vs generalizing n with
  | nil => simp [joined, hex, List.intercalate]
  | cons v vs ih =>
    rw [List.flatMap_cons, List.cons_append, ← ih v]
    simp [joined, hex, List.intercalate]

lemma joined_cons_cons (n v : Nat) (vs : List Nat) :
    joined (n :: v :: vs) = hex n ++ ':' :: joined (v :: vs) := by
  rw [joined_cons, joined_cons, List.flatMap_cons, List.cons_append]

lemma joined_ne_nil (n : Nat) (vs : List Nat) : joined (n :: vs) ≠ [] := by
  obtain ⟨c, ds, d, hhex, -⟩ := hex_cons n
  rw [joined_cons, hhex]
  exact nofun

/-- A partial address with pieces behind its others. -/
def Partial.pushAll (p : Partial) (vs : List Nat) : Partial :=
  { p with pieces := vs.reverse ++ p.pieces }

lemma Partial.pushAll_cons (p : Partial) (n : Nat) (vs : List Nat) :
    p.pushAll (n :: vs) = (p.push n).pushAll vs := by
  simp [pushAll, push]

/-- Pieces up to the end of an address. -/
lemma readPieces?_joined (hcount : p.count + vs.length ≤ 8) (hvs : ∀ v ∈ vs, v < 65536)
    (hfuel : (joined vs).length < fuel) :
    readPieces? fuel p (joined vs) = (p.pushAll vs).complete? := by
  induction vs generalizing p fuel with
  | nil =>
    obtain ⟨fuel, rfl⟩ : ∃ k, fuel = k + 1 := ⟨fuel - 1, by omega⟩
    rfl
  | cons n vs ih =>
    obtain ⟨hn, hvs⟩ := List.forall_mem_cons.mp hvs
    rw [List.length_cons] at hcount
    cases vs with
    | nil =>
      have hpos : 0 < (joined [n]).length := List.length_pos_of_ne_nil (joined_ne_nil n [])
      obtain ⟨fuel, rfl⟩ : ∃ k, fuel = k + 2 := ⟨fuel - 2, by omega⟩
      rw [joined_cons, List.flatMap_nil, List.append_nil, readPieces?_hex (by omega) hn]
      rfl
    | cons v vs =>
      rw [joined_cons_cons, List.length_append, List.length_cons] at hfuel
      obtain ⟨fuel, rfl⟩ : ∃ k, fuel = k + 1 := ⟨fuel - 1, by omega⟩
      rw [joined_cons_cons, readPieces?_hex_colon (by omega) hn (joined_ne_nil v vs),
        ih (by rw [p.count_push]; omega) hvs (by omega), ← Partial.pushAll_cons]

/-- Pieces up to the zeros that are left out. -/
lemma readPieces?_gap (hgap : p.beforeGap = none) (hcount : p.count + vs.length < 8)
    (hvs : ∀ v ∈ vs, v < 65536) (hne : vs ≠ [])
    (hfuel : (joined vs ++ ':' :: ':' :: rest).length < fuel) : ∃ left, rest.length < left
      ∧ readPieces? fuel p (joined vs ++ ':' :: ':' :: rest)
        = readPieces? left ⟨[], some (vs.reverse ++ p.pieces)⟩ rest := by
  induction vs generalizing p fuel with
  | nil => exact absurd rfl hne
  | cons n vs ih =>
    obtain ⟨hn, hvs⟩ := List.forall_mem_cons.mp hvs
    rw [List.length_cons] at hcount
    cases vs with
    | nil =>
      have hpos : 0 < (joined [n]).length := List.length_pos_of_ne_nil (joined_ne_nil n [])
      rw [List.length_append, List.length_cons, List.length_cons] at hfuel
      obtain ⟨fuel, rfl⟩ : ∃ k, fuel = k + 2 := ⟨fuel - 2, by omega⟩
      refine ⟨fuel, by omega, ?_⟩
      rw [joined_cons, List.flatMap_nil, List.append_nil,
        readPieces?_hex_colon (by omega) hn (List.cons_ne_nil _ _), readPieces?,
        if_neg (by rw [p.count_push]; simp only [List.length_nil] at hcount; omega), if_pos rfl]
      simp [Partial.push, hgap]
    | cons v vs =>
      rw [joined_cons_cons, List.append_assoc, List.cons_append, List.length_append,
        List.length_cons] at hfuel
      obtain ⟨fuel, rfl⟩ : ∃ k, fuel = k + 1 := ⟨fuel - 1, by omega⟩
      have hpush : (p.push n).count + (v :: vs).length < 8 := by
        rw [p.count_push]
        omega
      have hlen : (joined (v :: vs) ++ ':' :: ':' :: rest).length < fuel := by omega
      obtain ⟨left, hleft, hread⟩ := ih (p := p.push n) hgap hpush hvs (List.cons_ne_nil _ _) hlen
      refine ⟨left, hleft, ?_⟩
      rw [joined_cons_cons, List.append_assoc, List.cons_append,
        readPieces?_hex_colon (by omega) hn (by simp), hread]
      simp [Partial.push]

/-! ### Zeros -/

/-- The run that is left out consists of zeros. -/
lemma longestZeros_le (pieces : List Nat) :
    (longestZeros pieces).2 ≤ zeros (pieces.drop (longestZeros pieces).1) := by
  unfold longestZeros
  generalize List.range pieces.length = places
  suffices h : ∀ best : Nat × Nat, best.2 ≤ zeros (pieces.drop best.1) →
      let best := places.foldl
        (fun best i =>
          let length := zeros (pieces.drop i)
          if best.2 < length then (i, length) else best)
        best
      best.2 ≤ zeros (pieces.drop best.1) from h (0, 0) (Nat.zero_le _)
  intro best hbest
  induction places generalizing best with
  | nil => exact hbest
  | cons i places ih =>
    refine ih _ ?_
    dsimp only
    split
    · exact Nat.le_refl _
    · exact hbest

/-- The pieces around a run of zeros. -/
lemma split_zeros {start length : Nat} (h : length ≤ zeros (pieces.drop start)) :
    pieces = pieces.take start ++ (List.replicate length 0 ++ pieces.drop (start + length)) := by
  have hzeros : (pieces.drop start).take length = List.replicate length 0 := by
    rw [List.eq_replicate_iff]
    have hprefix := List.takeWhile_prefix (l := pieces.drop start) (decide <| · = 0)
    have htake := List.prefix_of_prefix_length_le (List.take_prefix length (pieces.drop start))
      hprefix (Nat.le_trans (List.length_take_le _ _) h)
    refine ⟨?_, fun n hn => ?_⟩
    · rw [List.length_take]
      exact Nat.min_eq_left (Nat.le_trans h hprefix.length_le)
    · exact of_decide_eq_true (List.mem_takeWhile_imp (p := (· = 0)) (htake.subset hn))
  rw [← hzeros, ← List.drop_drop, List.take_append_drop, List.take_append_drop]

/-! ### Addresses -/

/-- Eight pieces of 16 bits. -/
structure IsAddress (pieces : List Nat) : Prop where
  length : pieces.length = 8
  lt : ∀ n ∈ pieces, n < 65536

/-- The zeros that were left out are put in again. -/
lemma complete?_gap {front back : List Nat} {length : Nat}
    (hsum : front.length + (length + back.length) = 8) (hlength : 1 ≤ length) :
    (Partial.pushAll ⟨[], some front.reverse⟩ back).complete?
      = some (front ++ (List.replicate length 0 ++ back)) := by
  have hcount : back.length + (front.length + 1) ≤ 8 := by omega
  have hrun : 8 - front.length - back.length = length := by omega
  simp [Partial.complete?, Partial.count, Partial.pushAll, hcount, hrun]

/-- An address that begins with a piece is read from this piece on. -/
lemma read?_hex (hrest : rest ≠ []) : read? (hex n ++ rest)
    = readPieces? ((hex n ++ rest).length + 1) ⟨[], none⟩ (hex n ++ rest) := by
  obtain ⟨c, ds, d, hhex, hd⟩ := hex_cons n
  have hcolon : c ≠ ':' := by
    rintro rfl
    cases hd
  obtain ⟨c', ds', hds⟩ := List.exists_cons_of_ne_nil (l := ds ++ rest) (by simp [hrest])
  rw [hhex, List.cons_append, hds]
  unfold read?
  split
  case h_1 heq => cases heq
  case h_2 heq => cases heq
  case h_3 heq => exact absurd (List.cons.inj heq).1 hcolon
  case h_4 heq => exact absurd (List.cons.inj heq).1 hcolon
  case h_5 => rfl

/-- An address is read from what it is written as. -/
theorem IsAddress.read?_chars (h : IsAddress pieces) : read? (chars pieces) = some pieces := by
  obtain ⟨hlen, hlt⟩ := h
  have hzeros := longestZeros_le pieces
  unfold chars
  generalize longestZeros pieces = run at hzeros ⊢
  obtain ⟨start, length⟩ := run
  dsimp only at hzeros ⊢
  split
  case isTrue hgap =>
    have hparts := split_zeros hzeros
    generalize hfront : pieces.take start = front at hparts ⊢
    generalize hback : pieces.drop (start + length) = back at hparts ⊢
    have hsum : front.length + (length + back.length) = 8 := by
      rw [← hlen, hparts]
      simp
    have hbacks : ∀ v ∈ back, v < 65536 := fun v hv => hlt v (List.mem_of_mem_drop (hback ▸ hv))
    have hcomplete := complete?_gap hsum (by omega)
    rw [← hparts] at hcomplete
    have hcount : (Partial.mk [] (some front.reverse)).count + back.length ≤ 8 := by
      simp only [Partial.count, List.length_nil, List.length_reverse]
      omega
    cases front with
    | nil =>
      rw [joined, List.map_nil, List.intercalate_nil, List.nil_append, read?]
      exact (readPieces?_joined hcount hbacks (Nat.lt_succ_self _)).trans hcomplete
    | cons n front =>
      have hfronts : ∀ v ∈ n :: front, v < 65536 := fun v hv =>
        hlt v (List.mem_of_mem_take (hfront ▸ hv))
      have hfront : (Partial.mk [] none).count + (n :: front).length < 8 := by
        rw [List.length_cons] at hsum ⊢
        simp only [Partial.count, List.length_nil]
        omega
      obtain ⟨left, hleft, hread⟩ := readPieces?_gap rfl hfront hfronts (List.cons_ne_nil _ _)
        (Nat.lt_succ_self (joined (n :: front) ++ ':' :: ':' :: joined back).length)
      have hbegin : read? (hex n
          ++ (front.flatMap (fun v => ':' :: hex v) ++ ':' :: ':' :: joined back)) = _ :=
        read?_hex (by simp)
      rw [← List.append_assoc, ← joined_cons] at hbegin
      rw [hbegin, hread, List.append_nil, readPieces?_joined hcount hbacks (by omega)]
      exact hcomplete
  case isFalse =>
    obtain ⟨n, rest, rfl⟩ := List.exists_cons_of_ne_nil (l := pieces) (by rintro rfl; cases hlen)
    obtain ⟨v, rest, rfl⟩ := List.exists_cons_of_ne_nil (l := rest) (by rintro rfl; cases hlen)
    have hbegin : read? (hex n ++ ':' :: joined (v :: rest)) = _ := read?_hex (by simp)
    rw [← joined_cons_cons] at hbegin
    rw [hbegin, readPieces?_joined (by simp [Partial.count, ← hlen]) hlt (Nat.lt_succ_self _)]
    simp only [Partial.complete?, Partial.pushAll, Partial.count, List.append_nil,
      List.length_reverse, hlen, List.reverse_reverse, Nat.add_zero, if_true]

/-! ### What is read -/

/-- A partial address of pieces of 16 bits. -/
structure Partial.Fits (p : Partial) : Prop where
  pieces : ∀ n ∈ p.pieces, n < 65536
  before : ∀ before ∈ p.beforeGap, ∀ n ∈ before, n < 65536

lemma Partial.Fits.push (hp : p.Fits) (hn : n < 65536) : (p.push n).Fits :=
  ⟨List.forall_mem_cons.mpr ⟨hn, hp.pieces⟩, hp.before⟩

lemma Partial.Fits.complete? (hp : p.Fits) (h : p.complete? = some pieces) : IsAddress pieces := by
  obtain ⟨items, beforeGap⟩ := p
  obtain ⟨hitems, hbefore⟩ := hp
  unfold Partial.complete? Partial.count at h
  cases beforeGap with
  | none =>
    dsimp only at h hitems
    split at h
    case isTrue hcount =>
      obtain rfl := Option.some.inj h
      exact ⟨by simpa using hcount, fun n hn => hitems n (List.mem_reverse.mp hn)⟩
    case isFalse => cases h
  | some before =>
    dsimp only at h hitems
    split at h
    case isTrue hcount =>
      obtain rfl := Option.some.inj h
      constructor
      case length =>
        simp only [List.length_append, List.length_reverse, List.length_replicate]
        omega
      case lt =>
        intro n hn
        simp only [List.mem_append, List.mem_reverse, List.mem_replicate] at hn
        rcases hn with (hn | ⟨-, rfl⟩) | hn
        · exact hbefore before rfl n hn
        · decide
        · exact hitems n hn
    case isFalse => cases h

lemma takePiece_lt {taken value : Nat} (cs : List Char) :
    (takePiece limit taken value cs).2.1 < (value + 1) * 16 ^ limit := by
  induction limit generalizing taken value cs with
  | zero => simp [takePiece]
  | succ limit ih =>
    have hpow : (value + 1) * 16 ^ (limit + 1) = (16 * value + 16) * 16 ^ limit := by
      rw [Nat.pow_succ', ← Nat.mul_assoc]
      congr 1
      omega
    have hkept : value < (value + 1) * 16 ^ (limit + 1) :=
      Nat.lt_of_lt_of_le (Nat.lt_succ_self _) (Nat.le_mul_of_pos_right _ (Nat.pow_pos (by decide)))
    cases cs with
    | nil => exact hkept
    | cons c cs =>
      rw [takePiece]
      split
      case h_1 d hd =>
        rw [hpow]
        exact Nat.lt_of_lt_of_le (ih cs) (Nat.mul_le_mul_right _ (by
          have hlt := hexValue?_lt hd
          omega))
      case h_2 => exact hkept

lemma byte?_le (h : byte? cs = some n) : n ≤ 255 := by
  unfold byte? at h
  dsimp only at h
  split at h
  case isTrue => cases h
  case isFalse =>
    split at h
    case isTrue hle => exact Option.some.inj h ▸ hle
    case isFalse => cases h

lemma ipv4Pieces?_lt (h : ipv4Pieces? cs = some vs) : ∀ n ∈ vs, n < 65536 := by
  unfold ipv4Pieces? at h
  split at h
  case h_1 a b c d hbytes =>
    obtain rfl := Option.some.inj h
    have hle : ∀ byte ∈ [a, b, c, d], byte ≤ 255 := by
      intro byte hbyte
      obtain ⟨part, -, hpart⟩ := exists_of_mem_mapM hbytes hbyte
      exact byte?_le hpart
    have ha := hle a (by simp)
    have hb := hle b (by simp)
    have hc := hle c (by simp)
    have hd := hle d (by simp)
    intro n hn
    simp only [List.mem_cons, List.not_mem_nil, or_false] at hn
    omega
  case h_2 => cases h

lemma Partial.Fits.readPieces? (hp : p.Fits) (h : readPieces? fuel p cs = some pieces) :
    IsAddress pieces := by
  induction fuel generalizing p cs with
  | zero => cases h
  | succ fuel ih =>
    cases cs with
    | nil => exact hp.complete? h
    | cons c cs =>
      rw [Ipv6.readPieces?] at h
      split at h
      case isTrue => cases h
      case isFalse =>
        split at h
        case isTrue =>
          split at h
          case h_1 => cases h
          case h_2 =>
            refine ih (p := ⟨[], some p.pieces⟩) ⟨by simp, ?_⟩ h
            rintro _ ⟨⟩
            exact hp.pieces
        case isFalse =>
          have hvalue : (takePiece 4 0 0 (c :: cs)).2.1 < (0 + 1) * 16 ^ 4 := takePiece_lt _
          generalize takePiece 4 0 0 (c :: cs) = taken at h hvalue
          obtain ⟨taken, value, rest⟩ := taken
          dsimp only at h hvalue
          split at h
          case h_1 => exact ih (hp.push hvalue) h
          case h_2 =>
            split at h
            case isTrue => cases h
            case isFalse =>
              split at h
              case h_1 last hlast =>
                refine Partial.Fits.complete? (p := ⟨last.reverse ++ p.pieces, p.beforeGap⟩)
                  ⟨fun n hn => ?_, hp.before⟩ h
                rcases List.mem_append.mp hn with hn | hn
                · exact ipv4Pieces?_lt hlast n (List.mem_reverse.mp hn)
                · exact hp.pieces n hn
              case h_2 => cases h
          case h_3 =>
            split at h
            case isTrue => cases h
            case isFalse => exact ih (hp.push hvalue) h
          case h_4 => cases h

/-- What is read is an address. -/
theorem isAddress_of_read? (h : read? cs = some pieces) : IsAddress pieces := by
  unfold read? at h
  split at h
  case h_1 => cases h
  case h_2 => cases h
  case h_3 => exact Partial.Fits.readPieces? (p := ⟨[], some []⟩) ⟨by simp, by simp⟩ h
  case h_4 => cases h
  case h_5 => exact Partial.Fits.readPieces? (p := ⟨[], none⟩) ⟨by simp, by simp⟩ h

/-! ### What is written -/

lemma mem_joined {c : Char} (hc : c ∈ joined vs) : c = ':' ∨ ∃ d, hexValue? c = some d := by
  cases vs with
  | nil => cases hc
  | cons n vs =>
    rw [joined_cons, List.mem_append, List.mem_flatMap] at hc
    rcases hc with hc | ⟨v, -, hc⟩
    · exact .inr (hexValue?_of_mem_hex hc)
    · exact (List.mem_cons.mp hc).imp_right hexValue?_of_mem_hex

/-- An address is written in colons and hexadecimal digits. -/
lemma mem_chars {c : Char} (hc : c ∈ chars pieces) : c = ':' ∨ ∃ d, hexValue? c = some d := by
  unfold chars at hc
  dsimp only at hc
  split at hc
  case isTrue =>
    simp only [List.mem_append, List.mem_cons] at hc
    rcases hc with hc | rfl | rfl | hc
    · exact mem_joined hc
    · exact .inl rfl
    · exact .inl rfl
    · exact mem_joined hc
  case isFalse => exact mem_joined hc

end GroundLink.Url.Ipv6
