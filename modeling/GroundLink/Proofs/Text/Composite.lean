import GroundLink.Proofs.Text.Table
import GroundLink.Text.Composition
import Mathlib.Data.List.Nodup

/-!
# Composites

A composite is taken apart to its letters: to characters that are no composites, and syllables of
Hangul to their consonants and vowels. What two characters are joined to has the letters of both.
-/

namespace GroundLink.Text

/-! ### The table of composites -/

namespace Composite

/-- The composites of the characters of a line. -/
def ofChars (cs : List Char) : List Composite :=
  match cs.splitOn ' ' with
  | [] => []
  | first :: words => words.filterMap fun word => match (word.splitOn '-').map hexNumber with
    | [second, whole] => some ⟨hexNumber first, second, whole⟩
    | _ => none

lemma ofLine_eq (line : String) : ofLine line = ofChars line.toList := rfl

lemma flatMap_ofLine {lines : List String} {css : List (List Char)} (h : Spelled lines css) :
    lines.flatMap ofLine = css.flatMap ofChars := by
  induction h with
  | nil => rfl
  | cons cs _ ih => rw [List.flatMap_cons, List.flatMap_cons, ih, ofLine_eq, String.toList_ofList]

/-- The consonants, vowels and syllables of Hangul. -/
def hangul : List Run := [⟨0x1100, 0x11c2⟩, ⟨0xac00, 0xd7a3⟩]

/-- The set of the composites that begin with one of a set. -/
def above (ps : List Composite) (firsts : Nat) : Nat :=
  pointSet ((ps.filter (firsts.testBit ·.first)).map (·.whole))

/-- Whether composites are told apart by what they are written as, are made of composites and
another character at most three times over, and have nothing to do with Hangul, ASCII as what
follows, or the dot. -/
def isSound (ps : List Composite) : Bool :=
  let wholes := pointSet (ps.map (·.whole))
  distinct 0 (ps.map (·.whole))
    && ps.all (fun p => decide p.first.isValidChar && decide p.second.isValidChar
      && decide p.whole.isValidChar && p.first ≠ '.'.toNat && 128 ≤ p.second && 128 ≤ p.whole
      && !Run.covers hangul p.second && !Run.covers hangul p.whole && !wholes.testBit p.second)
    && above ps (above ps (above ps wholes)) = 0

lemma isSound_flatMap {lines : List String} {css : List (List Char)} (h : Spelled lines css)
    (hcheck : isSound (css.flatMap ofChars) = true) : isSound (lines.flatMap ofLine) = true := by
  rw [flatMap_ofLine h]
  exact hcheck

set_option maxRecDepth 100000 in
lemma isSound_composites : isSound composites = true :=
  isSound_flatMap (by dsimp only; repeat first | exact .nil | apply Spelled.cons)
    (by decide +kernel)

/-- What holds of a composite of the table. -/
structure IsSound (p : Composite) : Prop where
  first_valid : p.first.isValidChar
  second_valid : p.second.isValidChar
  whole_valid : p.whole.isValidChar
  first_ne : p.first ≠ '.'.toNat
  second_le : 128 ≤ p.second
  whole_le : 128 ≤ p.whole
  second_hangul : Run.covers hangul p.second = false
  whole_hangul : Run.covers hangul p.whole = false
  second_ne : ∀ q ∈ composites, q.whole ≠ p.second

lemma isSound_of_mem {p : Composite} (hp : p ∈ composites) : p.IsSound := by
  have h := isSound_composites
  simp only [isSound, Bool.and_eq_true, decide_eq_true_eq, List.all_eq_true,
    Bool.not_eq_true'] at h
  obtain ⟨⟨⟨⟨⟨⟨⟨⟨hfirst, hsecond⟩, hwhole⟩, hdot⟩, hsecondLe⟩, hwholeLe⟩, hsecondHangul⟩,
    hwholeHangul⟩, hletter⟩ := h.1.2 p hp
  refine ⟨hfirst, hsecond, hwhole, hdot, hsecondLe, hwholeLe, hsecondHangul, hwholeHangul,
    fun q hq hqp => ?_⟩
  have hmem := testBit_pointSet.mpr (List.mem_map_of_mem (f := (·.whole)) hq)
  rw [hqp, hletter] at hmem
  cases hmem

/-- A composite is told by what it is written as. -/
lemma eq_of_whole_eq {p q : Composite} (hp : p ∈ composites) (hq : q ∈ composites)
    (h : p.whole = q.whole) : p = q := by
  have hsound := isSound_composites
  simp only [isSound, Bool.and_eq_true] at hsound
  exact List.inj_on_of_nodup_map (nodup_of_distinct hsound.1.1).1 hp hq h

end Composite

/-! ### Hangul -/

/-- Whether a character is a syllable of Hangul. -/
def IsSyllable (c : Char) : Prop := 0xac00 ≤ c.toNat ∧ c.toNat ≤ 0xd7a3

instance (c : Char) : Decidable (IsSyllable c) := inferInstanceAs (Decidable (_ ∧ _))

/-- The consonants and vowels of a syllable, the final consonant if it has one. -/
def jamo (c : Char) : List Char :=
  if IsSyllable c then
    let i := c.toNat - 0xac00
    Char.ofNat (0x1100 + i / 588) :: Char.ofNat (0x1161 + i % 588 / 28)
      :: if i % 28 = 0 then [] else [Char.ofNat (0x11a7 + i % 28)]
  else [c]

variable {a b c d : Char} {cs ds : List Char}

lemma toNat_ofNat {n : Nat} (h : n.isValidChar) : (Char.ofNat n).toNat = n := by
  rw [Char.ofNat, dif_pos h]
  rfl

lemma toNat_ofNat_of_lt {n : Nat} (h : n < 0xd800) : (Char.ofNat n).toNat = n :=
  toNat_ofNat (.inl h)

lemma jamo_of_not (h : ¬IsSyllable c) : jamo c = [c] := if_neg h

lemma covers_hangul {n : Nat} : Run.covers Composite.hangul n = true
    ↔ (0x1100 ≤ n ∧ n ≤ 0x11c2) ∨ (0xac00 ≤ n ∧ n ≤ 0xd7a3) := by
  simp [Composite.hangul, Run.covers_iff]

/-- The consonants and vowels lie in a range of their own. -/
lemma toNat_of_mem_jamo (h : IsSyllable c) (hd : d ∈ jamo c) :
    0x1100 ≤ d.toNat ∧ d.toNat ≤ 0x11c2 := by
  obtain ⟨hlow, hhigh⟩ := h
  have hfirst : (Char.ofNat (0x1100 + (c.toNat - 0xac00) / 588)).toNat
      = 0x1100 + (c.toNat - 0xac00) / 588 := toNat_ofNat_of_lt (by omega)
  have hvowel : (Char.ofNat (0x1161 + (c.toNat - 0xac00) % 588 / 28)).toNat
      = 0x1161 + (c.toNat - 0xac00) % 588 / 28 := toNat_ofNat_of_lt (by omega)
  have hlast : (Char.ofNat (0x11a7 + (c.toNat - 0xac00) % 28)).toNat
      = 0x11a7 + (c.toNat - 0xac00) % 28 := toNat_ofNat_of_lt (by omega)
  rw [jamo, if_pos ⟨hlow, hhigh⟩] at hd
  dsimp only at hd
  rcases List.mem_cons.mp hd with rfl | hd
  · omega
  rcases List.mem_cons.mp hd with rfl | hd
  · omega
  · split at hd
    · cases hd
    · rw [List.mem_singleton.mp hd]
      omega

/-! ### Letters -/

lemma halves?_eq_some (h : halves? c = some (a, b)) : ∃ p ∈ composites, p.whole = c.toNat
    ∧ a = Char.ofNat p.first ∧ b = Char.ofNat p.second := by
  obtain ⟨p, hp, hab⟩ := Option.map_eq_some_iff.mp h
  obtain ⟨rfl, rfl⟩ := Prod.mk.injEq .. ▸ hab
  exact ⟨p, List.mem_of_find?_eq_some hp, by simpa using List.find?_some hp, rfl, rfl⟩

lemma halves?_eq_none : halves? c = none ↔ ∀ p ∈ composites, p.whole ≠ c.toNat := by
  simp [halves?]

lemma halves?_of_mem {p : Composite} (hp : p ∈ composites) (h : p.whole = c.toNat) :
    halves? c = some (Char.ofNat p.first, Char.ofNat p.second) := by
  cases hhalves : halves? c with
  | none => exact absurd h (halves?_eq_none.mp hhalves p hp)
  | some ab =>
    obtain ⟨q, hq, hwhole, ha, hb⟩ := halves?_eq_some hhalves
    obtain rfl := Composite.eq_of_whole_eq hp hq (h.trans hwhole.symm)
    exact congrArg some (Prod.ext ha hb)

lemma halves?_of_hangul (h : Run.covers Composite.hangul c.toNat = true) : halves? c = none :=
  halves?_eq_none.mpr fun p hp hwhole => by
    have hsound := (Composite.isSound_of_mem hp).whole_hangul
    rw [hwhole, h] at hsound
    cases hsound

/-- The composites that are taken apart more than a number of times. -/
def deeper : Nat → Nat
  | 0 => pointSet (composites.map (·.whole))
  | depth + 1 => Composite.above composites (deeper depth)

lemma deeper_three : deeper 3 = 0 := by
  have h := Composite.isSound_composites
  simp only [Composite.isSound, Bool.and_eq_true, decide_eq_true_eq] at h
  exact h.2

lemma parts_of_halves?_eq_none (h : halves? c = none) (depth : Nat) : parts depth c = [c] := by
  cases depth with
  | zero => rfl
  | succ depth => rw [parts, h]

/-- Where a composite is taken apart often enough, there are no composites left. -/
lemma halves?_of_mem_parts {depth : Nat} (hdepth : (deeper depth).testBit c.toNat = false)
    (hd : d ∈ parts depth c) : halves? d = none := by
  induction depth generalizing c with
  | zero =>
    obtain rfl := List.mem_singleton.mp hd
    refine halves?_eq_none.mpr fun p hp hwhole => ?_
    have hmem := testBit_pointSet.mpr (List.mem_map_of_mem (f := (·.whole)) hp)
    rw [hwhole, ← deeper, hdepth] at hmem
    cases hmem
  | succ depth ih =>
    rw [parts] at hd
    split at hd
    case h_1 a b hhalves =>
      obtain ⟨p, hp, hwhole, rfl, rfl⟩ := halves?_eq_some hhalves
      have hsound := Composite.isSound_of_mem hp
      rcases List.mem_append.mp hd with hd | hd
      · refine ih ?_ hd
        rw [toNat_ofNat hsound.first_valid]
        by_contra hfirst
        rw [Bool.not_eq_false] at hfirst
        have habove : p ∈ composites.filter ((deeper depth).testBit ·.first) :=
          List.mem_filter.mpr ⟨hp, hfirst⟩
        have hmem := testBit_pointSet.mpr (List.mem_map_of_mem (f := (·.whole)) habove)
        rw [hwhole, ← Composite.above, ← deeper, hdepth] at hmem
        cases hmem
      · have hletter : halves? (Char.ofNat p.second) = none := halves?_eq_none.mpr fun q hq => by
          rw [toNat_ofNat hsound.second_valid]
          exact hsound.second_ne q hq
        rw [parts_of_halves?_eq_none hletter] at hd
        rw [List.mem_singleton.mp hd, hletter]
    case h_2 hhalves => rw [List.mem_singleton.mp hd, hhalves]

lemma parts_succ {depth : Nat} (h : ∀ d ∈ parts depth c, halves? d = none) :
    parts (depth + 1) c = parts depth c := by
  induction depth generalizing c with
  | zero => exact parts_of_halves?_eq_none (h c (by simp [parts])) 1
  | succ depth ih =>
    cases hhalves : halves? c with
    | none => rw [parts_of_halves?_eq_none hhalves, parts_of_halves?_eq_none hhalves]
    | some ab =>
      have hparts : ∀ k, parts (k + 1) c = parts k ab.1 ++ parts k ab.2 := fun k => by
        rw [parts, hhalves]
      rw [hparts] at h
      have ha := ih fun d hd => h d (List.mem_append_left _ hd)
      have hb := ih fun d hd => h d (List.mem_append_right _ hd)
      rw [hparts, hparts, ha, hb]

lemma parts_four (c : Char) : parts 4 c = parts 3 c :=
  parts_succ fun _ hd => halves?_of_mem_parts (by rw [deeper_three, Nat.zero_testBit]) hd

/-- The letters and marks that a character stands for. -/
def letters (c : Char) : List Char := (parts 4 c).flatMap jamo

lemma letters_of_halves?_eq_none (h : halves? c = none) : letters c = jamo c := by
  rw [letters, parts_of_halves?_eq_none h, List.flatMap_singleton]

lemma letters_of_halves? (h : halves? c = some (a, b)) : letters c = letters a ++ letters b := by
  have hparts : parts 4 c = parts 3 a ++ parts 3 b := by rw [parts, h]
  rw [letters, hparts, ← parts_four, ← parts_four, List.flatMap_append, letters, letters]

/-- What a character stands for stands for itself. -/
lemma letters_of_mem (hd : d ∈ letters c) : letters d = [d] := by
  rw [letters, parts_four, List.mem_flatMap] at hd
  obtain ⟨e, he, hd⟩ := hd
  have hhalves := halves?_of_mem_parts (by rw [deeper_three, Nat.zero_testBit]) he
  by_cases hsyllable : IsSyllable e
  · have hrange := toNat_of_mem_jamo hsyllable hd
    rw [letters_of_halves?_eq_none (halves?_of_hangul (covers_hangul.mpr (.inl hrange))),
      jamo_of_not fun h => by have hlow := h.1; omega]
  · rw [jamo_of_not hsyllable, List.mem_singleton] at hd
    rw [hd, letters_of_halves?_eq_none hhalves, jamo_of_not hsyllable]

/-! ### Joining two characters -/

lemma whole?_of_syllable? {n : Nat} (h : syllable? a.toNat b.toNat = some n) :
    whole? a b = some (Char.ofNat n) := by
  rw [whole?, h]

lemma whole?_eq_none (hsyllable : syllable? a.toNat b.toNat = none)
    (h : ∀ p ∈ composites, p.first = a.toNat → p.second ≠ b.toNat) : whole? a b = none := by
  rw [whole?, hsyllable]
  dsimp only
  rw [Option.map_eq_none_iff, List.find?_eq_none]
  simpa using h

lemma whole?_eq_some (h : whole? a b = some d) :
    (∃ n, syllable? a.toNat b.toNat = some n ∧ d = Char.ofNat n)
      ∨ ∃ p ∈ composites, p.first = a.toNat ∧ p.second = b.toNat ∧ d = Char.ofNat p.whole := by
  rw [whole?] at h
  split at h
  case h_1 n hn => exact .inl ⟨n, hn, (Option.some.inj h).symm⟩
  case h_2 =>
    obtain ⟨p, hp, rfl⟩ := Option.map_eq_some_iff.mp h
    have hpair := List.find?_some hp
    rw [Bool.and_eq_true, decide_eq_true_eq, decide_eq_true_eq] at hpair
    exact .inr ⟨p, List.mem_of_find?_eq_some hp, hpair.1, hpair.2, rfl⟩

lemma isSyllable_of_syllable? {m k n : Nat} (h : syllable? m k = some n) :
    IsSyllable (Char.ofNat n) := by
  unfold syllable? at h
  split at h
  · obtain rfl := Option.some.inj h
    unfold IsSyllable
    rw [toNat_ofNat_of_lt] <;> omega
  · split at h
    · obtain rfl := Option.some.inj h
      unfold IsSyllable
      rw [toNat_ofNat_of_lt] <;> omega
    · cases h

/-- No character is joined to ASCII behind it. -/
lemma whole?_of_lt (hb : b.toNat < 128) : whole? a b = none := by
  refine whole?_eq_none ?_ fun p hp _ hsecond => ?_
  · rw [syllable?, if_neg (by omega), if_neg (by omega)]
  · have hle := (Composite.isSound_of_mem hp).second_le
    omega

/-- No character is joined to a leading consonant or a syllable behind it. -/
lemma whole?_of_leading (hb : (0x1100 ≤ b.toNat ∧ b.toNat ≤ 0x1112) ∨ IsSyllable b) :
    whole? a b = none := by
  unfold IsSyllable at hb
  refine whole?_eq_none ?_ fun p hp _ hsecond => ?_
  · rw [syllable?, if_neg (by omega), if_neg (by omega)]
  · have hcovers := (Composite.isSound_of_mem hp).second_hangul
    rw [hsecond, covers_hangul.mpr (by omega)] at hcovers
    cases hcovers

/-- The consonants and vowels of the syllable of a leading consonant and a vowel. -/
lemma jamo_vowel (ha : 0x1100 ≤ a.toNat ∧ a.toNat ≤ 0x1112)
    (hb : 0x1161 ≤ b.toNat ∧ b.toNat ≤ 0x1175)
    (hc : c.toNat = 0xac00 + ((a.toNat - 0x1100) * 21 + (b.toNat - 0x1161)) * 28) :
    jamo c = [a, b] := by
  have hsyllable : IsSyllable c := by unfold IsSyllable; omega
  have hfirst : 0x1100 + (c.toNat - 0xac00) / 588 = a.toNat := by omega
  have hvowel : 0x1161 + (c.toNat - 0xac00) % 588 / 28 = b.toNat := by omega
  have hlast : (c.toNat - 0xac00) % 28 = 0 := by omega
  rw [jamo, if_pos hsyllable]
  dsimp only
  rw [if_pos hlast, hfirst, hvowel, Char.ofNat_toNat, Char.ofNat_toNat]

/-- The consonants and vowels of a syllable with a final consonant are those of the syllable without
it and the consonant. -/
lemma jamo_final (ha : IsSyllable a) (hopen : (a.toNat - 0xac00) % 28 = 0)
    (hb : 0x11a8 ≤ b.toNat ∧ b.toNat ≤ 0x11c2) (hc : c.toNat = a.toNat + (b.toNat - 0x11a7)) :
    jamo c = jamo a ++ [b] := by
  have hrange := ha
  unfold IsSyllable at hrange
  have hsyllable : IsSyllable c := by unfold IsSyllable; omega
  have hfirst : (c.toNat - 0xac00) / 588 = (a.toNat - 0xac00) / 588 := by omega
  have hvowel : (c.toNat - 0xac00) % 588 / 28 = (a.toNat - 0xac00) % 588 / 28 := by omega
  have hlast : 0x11a7 + (c.toNat - 0xac00) % 28 = b.toNat := by omega
  rw [jamo, if_pos hsyllable, jamo, if_pos ha]
  dsimp only
  rw [if_pos hopen, if_neg (by omega), hfirst, hvowel, hlast, Char.ofNat_toNat]
  rfl

/-- What two characters are joined to has the letters of both. -/
lemma letters_of_whole? (h : whole? a b = some d) (hb : letters b = [b]) :
    letters d = letters a ++ [b] := by
  have hjamo : ∀ {c : Char}, Run.covers Composite.hangul c.toNat = true → letters c = jamo c :=
    fun hc => letters_of_halves?_eq_none (halves?_of_hangul hc)
  rcases whole?_eq_some h with ⟨n, hn, rfl⟩ | ⟨p, hp, hfirst, hsecond, rfl⟩
  · unfold syllable? at hn
    split at hn
    case isTrue hpair =>
      obtain rfl := Option.some.inj hn
      have hd := toNat_ofNat_of_lt
        (n := 0xac00 + ((a.toNat - 0x1100) * 21 + (b.toNat - 0x1161)) * 28) (by omega)
      have ha : jamo a = [a] := jamo_of_not (by unfold IsSyllable; omega)
      rw [hjamo (covers_hangul.mpr (by omega)), hjamo (covers_hangul.mpr (by omega)), ha,
        jamo_vowel ⟨hpair.1, hpair.2.1⟩ hpair.2.2 hd, List.singleton_append]
    case isFalse =>
      split at hn
      case isTrue hpair =>
        obtain rfl := Option.some.inj hn
        have hd := toNat_ofNat_of_lt (n := a.toNat + (b.toNat - 0x11a7)) (by omega)
        rw [hjamo (covers_hangul.mpr (by omega)), hjamo (covers_hangul.mpr (by omega)),
          jamo_final ⟨hpair.1, hpair.2.1⟩ hpair.2.2.1 hpair.2.2.2 hd]
      case isFalse => cases hn
  · have hsound := Composite.isSound_of_mem hp
    have hhalves : halves? (Char.ofNat p.whole) = some (a, b) := by
      rw [halves?_of_mem hp (toNat_ofNat hsound.whole_valid).symm, hfirst, hsecond,
        Char.ofNat_toNat, Char.ofNat_toNat]
    rw [letters_of_halves? hhalves, hb]

/-- A syllable is what its consonants and vowels are joined to, one after the other. -/
lemma exists_of_isSyllable (h : IsSyllable c) : ∃ a b s, (0x1100 ≤ a.toNat ∧ a.toNat ≤ 0x1112)
    ∧ whole? a b = some s
    ∧ ((jamo c = [a, b] ∧ s = c) ∨ ∃ e, jamo c = [a, b, e] ∧ whole? s e = some c) := by
  have hrange := h
  unfold IsSyllable at hrange
  have ha := toNat_ofNat_of_lt (n := 0x1100 + (c.toNat - 0xac00) / 588) (by omega)
  have hb := toNat_ofNat_of_lt (n := 0x1161 + (c.toNat - 0xac00) % 588 / 28) (by omega)
  have hs := toNat_ofNat_of_lt (n := c.toNat - (c.toNat - 0xac00) % 28) (by omega)
  have he := toNat_ofNat_of_lt (n := 0x11a7 + (c.toNat - 0xac00) % 28) (by omega)
  generalize hjamo : jamo c = cs
  rw [jamo, if_pos h] at hjamo
  dsimp only at hjamo
  generalize Char.ofNat (0x1100 + (c.toNat - 0xac00) / 588) = a at ha hjamo
  generalize Char.ofNat (0x1161 + (c.toNat - 0xac00) % 588 / 28) = b at hb hjamo
  generalize Char.ofNat (0x11a7 + (c.toNat - 0xac00) % 28) = e at he hjamo
  refine ⟨a, b, Char.ofNat (c.toNat - (c.toNat - 0xac00) % 28), by omega, ?_, ?_⟩
  · refine whole?_of_syllable? ?_
    rw [syllable?, if_pos (by omega)]
    exact congrArg some (by omega)
  · split at hjamo
    case isTrue hopen =>
      refine .inl ⟨hjamo.symm, ?_⟩
      rw [hopen, Nat.sub_zero, Char.ofNat_toNat]
    case isFalse hclosed =>
      refine .inr ⟨e, hjamo.symm, ?_⟩
      generalize Char.ofNat (c.toNat - (c.toNat - 0xac00) % 28) = s at hs
      have hc : s.toNat + (e.toNat - 0x11a7) = c.toNat := by omega
      rw [← Char.ofNat_toNat c, ← hc]
      refine whole?_of_syllable? ?_
      rw [syllable?, if_neg (by omega), if_pos (by omega)]

end GroundLink.Text
