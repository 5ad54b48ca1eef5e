import GroundLink.Url.Punycode
import Mathlib.Data.List.Basic
import Mathlib.Tactic.Lemma
import Mathlib.Tactic.Ring

/-!
# Reading Punycode

A label is decoded from what it is encoded as. The encoder passes over the label once for each code
point from the least one up and counts the places that it passes; the decoder puts the code points
in one by one, and a count leads it from one place to the next.
-/

namespace GroundLink.Url.Punycode

/-! ### Digits -/

lemma digitValue?_digitChar {d : Nat} (hd : d < 36) : digitValue? (digitChar d) = some d := by
  revert d
  decide

lemma threshold_pos (k bias : Nat) : 1 ≤ threshold k bias := by
  unfold threshold
  split
  · exact Nat.le_refl 1
  · split <;> omega

lemma threshold_le (k bias : Nat) : threshold k bias ≤ 26 := by
  unfold threshold
  split
  · decide
  · split <;> omega

/-- The most characters of a label that is encoded. -/
def maxLength : Nat := 1000

/-- The most that a distance comes to: all code points at all places. -/
def maxDistance : Nat := 0x110000 * maxLength

/-- The highest bias that a distance leads to. -/
def maxBias : Nat := 215

lemma settle_le {e : Nat} (fuel : Nat) {delta k : Nat} (h : delta < 456 * 35 ^ e) :
    (settle fuel delta k).2 ≤ k + 36 * e := by
  induction fuel generalizing delta k e with
  | zero => exact Nat.le_add_right k _
  | succ fuel ih =>
    rw [settle]
    split
    case isTrue hlarge =>
      cases e with
      | zero => omega
      | succ e =>
        have hnext : delta / 35 < 456 * 35 ^ e := by
          rw [Nat.div_lt_iff_lt_mul (by decide), Nat.mul_assoc, ← Nat.pow_succ]
          exact h
        have hle := ih (k := k + 36) hnext
        omega
    case isFalse => exact Nat.le_add_right k _

/-- No distance leads to a higher bias than the highest one. -/
lemma adapt_le {delta points : Nat} {first : Bool} (hdelta : delta ≤ maxDistance) :
    adapt delta points first ≤ maxBias := by
  have hstart : ∀ half ≤ delta / 2, half + half / points < 456 * 35 ^ 5 := by
    intro half hhalf
    have hle := Nat.div_le_self half points
    unfold maxDistance maxLength at hdelta
    omega
  unfold adapt
  dsimp only
  have hhalf : (if first then delta / 700 else delta / 2) ≤ delta / 2 := by split <;> omega
  generalize (if first then delta / 700 else delta / 2) = half at hhalf ⊢
  have hk := settle_le half (k := 0) (hstart half hhalf)
  generalize settle half (half + half / points) 0 = settled at hk ⊢
  obtain ⟨rest, k⟩ := settled
  have hrest : 36 * rest / (rest + 38) < 36 := (Nat.div_lt_iff_lt_mul (by omega)).mpr (by omega)
  unfold maxBias
  dsimp only at hk ⊢
  omega

/-- The weight of a digit that is reached has at most 32 bits: thresholds are low only for the first
six digits, and behind a high one much of the distance has been read. -/
lemma weight_lt {bias j q weight : Nat} (hbias : bias ≤ maxBias) (hweight : weight ≤ 35 ^ j)
    (hq : threshold (36 * (j + 1)) bias ≤ q) (hdistance : weight * q ≤ maxDistance) :
    weight * (36 - threshold (36 * (j + 1)) bias) < UInt32.size := by
  have hsize : UInt32.size = 4294967296 := rfl
  rw [hsize]
  by_cases hlow : threshold (36 * (j + 1)) bias < 8
  · have hj : j ≤ 5 := by
      unfold threshold at hlow
      unfold maxBias at hbias
      split at hlow
      · omega
      · split at hlow <;> omega
    calc weight * (36 - threshold (36 * (j + 1)) bias)
        ≤ 35 ^ 5 * 35 := by
          have hpos := threshold_pos (36 * (j + 1)) bias
          exact Nat.mul_le_mul (Nat.le_trans hweight (Nat.pow_le_pow_right (by decide) hj))
            (by omega)
      _ < 4294967296 := by decide
  · have height : weight * 8 ≤ maxDistance :=
      Nat.le_trans (Nat.mul_le_mul_left _ (by omega)) hdistance
    have hfactor : weight * (36 - threshold (36 * (j + 1)) bias) ≤ weight * 28 :=
      Nat.mul_le_mul_left _ (by omega)
    unfold maxDistance maxLength at height
    omega

/-- A distance is read from its digits. -/
lemma readDistance_distance {bias : Nat} (hbias : bias ≤ maxBias) {fuel j q weight value : Nat}
    (hfuel : q ≤ fuel) (hweight : weight ≤ 35 ^ j) (hdistance : weight * q ≤ maxDistance)
    (rest : List Char) :
    readDistance (distance fuel bias (36 * (j + 1)) q ++ rest) bias (36 * (j + 1)) weight value
      = some (value + q * weight, rest) := by
  induction fuel generalizing j q weight value with
  | zero =>
    have hpos := threshold_pos (36 * (j + 1)) bias
    obtain rfl := Nat.le_zero.mp hfuel
    rw [distance, List.singleton_append, readDistance, digitValue?_digitChar (by decide),
      Option.bind_eq_bind, Option.bind_some, if_pos (by omega)]
    rfl
  | succ fuel ih =>
    have hpos := threshold_pos (36 * (j + 1)) bias
    have hle := threshold_le (36 * (j + 1)) bias
    have hk : 36 * (j + 1) + 36 = 36 * (j + 1 + 1) := rfl
    rw [distance]
    generalize ht : threshold (36 * (j + 1)) bias = t at hpos hle
    split
    case isTrue hlast =>
      rw [List.singleton_append, readDistance, digitValue?_digitChar (by omega),
        Option.bind_eq_bind, Option.bind_some, ht, if_pos hlast]
      rfl
    case isFalse hmore =>
      have hmod := Nat.mod_lt (q - t) (y := 36 - t) (by omega)
      have hdiv := Nat.mod_add_div (q - t) (36 - t)
      have hlt := weight_lt hbias hweight (ht ▸ Nat.not_lt.mp hmore) hdistance
      rw [ht] at hlt
      have hless : (q - t) / (36 - t) ≤ fuel :=
        Nat.le_trans (Nat.div_le_self _ _) (by omega)
      have hnext : weight * (36 - t) * ((q - t) / (36 - t)) ≤ maxDistance := by
        rw [Nat.mul_assoc]
        exact Nat.le_trans (Nat.mul_le_mul_left _ (by omega)) hdistance
      rw [List.cons_append, readDistance, digitValue?_digitChar (by omega), Option.bind_eq_bind,
        Option.bind_some, ht, if_neg (by omega), if_pos hlt, hk,
        ih (j := j + 1) hless (by rw [Nat.pow_succ]; exact Nat.mul_le_mul hweight (by omega))
          hnext]
      have hsum : q = t + (q - t) % (36 - t) + (36 - t) * ((q - t) / (36 - t)) := by omega
      refine congrArg (fun n => some (n, rest)) ?_
      calc value + (t + (q - t) % (36 - t)) * weight + (q - t) / (36 - t) * (weight * (36 - t))
          = value + (t + (q - t) % (36 - t) + (36 - t) * ((q - t) / (36 - t))) * weight := by ring
        _ = value + q * weight := by rw [← hsum]

/-! ### Readers -/

/-- How far the decoding has come. -/
structure Reader where
  point : Nat
  place : Nat
  bias : Nat
  out : List Char

/-- Digits that lead from one state of the decoding to another. -/
def Reader.Reads (digits : List Char) (r r' : Reader) : Prop :=
  ∀ fuel rest, (digits ++ rest).length < fuel → ∃ left, rest.length < left
    ∧ decodePoints fuel (digits ++ rest) r.point r.place r.bias r.out
      = decodePoints left rest r'.point r'.place r'.bias r'.out

lemma Reader.Reads.refl (r : Reader) : r.Reads [] r := fun fuel _ hfuel => ⟨fuel, hfuel, rfl⟩

lemma Reader.Reads.trans {ds ds' : List Char} {r r' r'' : Reader} (h : r.Reads ds r')
    (h' : r'.Reads ds' r'') : r.Reads (ds ++ ds') r'' := by
  intro fuel rest hfuel
  rw [List.append_assoc] at hfuel ⊢
  obtain ⟨left, hleft, heq⟩ := h fuel (ds' ++ rest) hfuel
  obtain ⟨left', hleft', heq'⟩ := h' left rest hleft
  exact ⟨left', hleft', heq.trans heq'⟩

/-- The reader behind a character that has been put in. -/
def Reader.insert (r : Reader) (c : Char) (place distance : Nat) : Reader where
  point := c.toNat
  place := place + 1
  bias := adapt distance (r.out.length + 1) (r.place = 0)
  out := r.out.take place ++ c :: r.out.drop place

lemma distance_ne_nil (fuel bias k q : Nat) : distance fuel bias k q ≠ [] := by
  cases fuel with
  | zero => exact List.cons_ne_nil _ _
  | succ fuel =>
    rw [distance]
    split <;> exact List.cons_ne_nil _ _

/-- A distance leads to the place that it is the distance to. -/
lemma Reader.reads_distance {r : Reader} {c : Char} {place q : Nat} (hbias : r.bias ≤ maxBias)
    (hq : q ≤ maxDistance) (hplace : place ≤ r.out.length)
    (h : q + (r.point * (r.out.length + 1) + r.place)
      = c.toNat * (r.out.length + 1) + place) :
    r.Reads (distance q r.bias 36 q) (r.insert c place q) := by
  intro fuel rest hfuel
  obtain ⟨d, ds, hds⟩ := List.exists_cons_of_ne_nil (distance_ne_nil q r.bias 36 q)
  have hread : readDistance (distance q r.bias 36 q ++ rest) r.bias 36 1 0
      = some (0 + q * 1, rest) :=
    readDistance_distance (j := 0) hbias (Nat.le_refl q) (by simp) (by simpa using hq) rest
  rw [Nat.zero_add, Nat.mul_one] at hread
  have hle : r.point ≤ c.toNat := by
    by_contra hlt
    have hmul : (c.toNat + 1) * (r.out.length + 1) ≤ r.point * (r.out.length + 1) :=
      Nat.mul_le_mul_right _ (by omega)
    rw [Nat.add_mul, Nat.one_mul] at hmul
    omega
  have hsum : r.place + q = place + (r.out.length + 1) * (c.toNat - r.point) := by
    have hsub := Nat.sub_mul c.toNat r.point (r.out.length + 1)
    have hmul := Nat.mul_le_mul_right (r.out.length + 1) hle
    rw [Nat.mul_comm (r.out.length + 1)]
    omega
  have hpoint : r.point + (r.place + q) / (r.out.length + 1) = c.toNat := by
    rw [hsum, Nat.add_mul_div_left _ _ (Nat.succ_pos _), Nat.div_eq_of_lt (by omega)]
    omega
  have hmod : (r.place + q) % (r.out.length + 1) = place := by
    rw [hsum, Nat.add_mul_mod_self_left, Nat.mod_eq_of_lt (by omega)]
  rw [hds] at hread hfuel ⊢
  rw [List.cons_append, List.length_cons, List.length_append] at hfuel
  rw [List.cons_append] at hread ⊢
  obtain ⟨fuel, rfl⟩ : ∃ k, fuel = k + 1 := ⟨fuel - 1, by omega⟩
  refine ⟨fuel, by omega, ?_⟩
  rw [decodePoints, hread, Option.bind_eq_bind, Option.bind_some]
  dsimp only
  have hvalid : c.toNat.isValidChar := c.valid
  rw [hpoint, hmod, if_pos hvalid, Char.ofNat_toNat]
  rfl

/-! ### Passes -/

/-- One step of the pass for a code point. -/
def scan (basic point : Nat) (p : Progress) (c : Char) : Progress :=
  if c.toNat < point then { p with delta := p.delta + 1 }
  else if c.toNat = point then
    ⟨0, adapt p.delta (p.handled + 1) (p.handled = basic), p.handled + 1,
      p.out ++ distance p.delta p.bias 36 p.delta⟩
  else p

lemma encodePoint_eq (basic point : Nat) (cs : List Char) (p : Progress) :
    encodePoint basic point (cs.map Char.toNat) p = cs.foldl (scan basic point) p := by
  rw [encodePoint, List.foldl_map]
  rfl

/-- The characters that are in place during a pass, in which those `before` have been passed. -/
def placed (point : Nat) (before after : List Char) : List Char :=
  before.filter (·.toNat ≤ point) ++ after.filter (·.toNat < point)

/-- The encoder is as far as the decoder: `place` is how far the pass has come among the characters
that are in place. -/
structure Sync (basic point place : Nat) (out : List Char) (p : Progress) (r : Reader) : Prop where
  same : r.out = out
  handled : p.handled = out.length
  distance : p.delta + (r.point * (out.length + 1) + r.place) = point * (out.length + 1) + place
  first : r.place = 0 ↔ p.handled = basic
  bias : p.bias = r.bias
  basic : basic ≤ p.handled
  le : r.bias ≤ maxBias

/-- A digit of a distance. -/
def IsDigit (c : Char) : Prop := ∃ d < 36, digitChar d = c

lemma isDigit_of_mem_distance {fuel bias k q : Nat} {c : Char} (hq : q ≤ fuel)
    (hc : c ∈ distance fuel bias k q) : IsDigit c := by
  have hpos := threshold_pos k bias
  have hle := threshold_le k bias
  induction fuel generalizing k q with
  | zero =>
    obtain rfl := Nat.le_zero.mp hq
    exact ⟨0, by decide, (List.mem_singleton.mp hc).symm⟩
  | succ fuel ih =>
    rw [distance] at hc
    split at hc
    case isTrue hlast => exact ⟨q, by omega, (List.mem_singleton.mp hc).symm⟩
    case isFalse hmore =>
      rcases List.mem_cons.mp hc with rfl | hc
      · have hmod := Nat.mod_lt (q - threshold k bias) (y := 36 - threshold k bias) (by omega)
        exact ⟨_, by omega, rfl⟩
      · exact ih (Nat.le_trans (Nat.div_le_self _ _) (by omega)) hc (threshold_pos _ _)
          (threshold_le _ _)

/-- One step of a pass: where a character is encoded, the decoder puts it in. -/
lemma Sync.scan {basic point : Nat} {before after : List Char} {c : Char} {p : Progress}
    {r : Reader} (h : Sync basic point (before.filter (·.toNat ≤ point)).length
      (placed point before (c :: after)) p r)
    (hlen : (before ++ c :: after).length ≤ maxLength) :
    ∃ digits r', (scan basic point p c).out = p.out ++ digits ∧ (∀ d ∈ digits, IsDigit d)
      ∧ r.Reads digits r'
      ∧ Sync basic point ((before ++ [c]).filter (·.toNat ≤ point)).length
        (placed point (before ++ [c]) after) (Punycode.scan basic point p c) r' := by
  have hplace : (before.filter (·.toNat ≤ point)).length
      ≤ (placed point before (c :: after)).length := by
    rw [placed, List.length_append]
    exact Nat.le_add_right _ _
  unfold Punycode.scan
  by_cases hless : c.toNat < point
  · -- The character is in place already: it is one more to pass.
    have hbefore : (before ++ [c]).filter (·.toNat ≤ point)
        = before.filter (·.toNat ≤ point) ++ [c] := by
      simp [List.filter_append, hless.le]
    have hsame : placed point (before ++ [c]) after = placed point before (c :: after) := by
      simp [placed, hbefore, hless]
    rw [if_pos hless, hbefore, hsame, List.length_append, List.length_singleton]
    refine ⟨[], r, (List.append_nil _).symm, by simp, .refl r, h.same, h.handled, ?_, h.first,
      h.bias, h.basic, h.le⟩
    have hdistance := h.distance
    dsimp only
    omega
  · rw [if_neg hless]
    by_cases heq : c.toNat = point
    · have hbefore : (before ++ [c]).filter (·.toNat ≤ point)
          = before.filter (·.toNat ≤ point) ++ [c] := by
        simp [List.filter_append, heq.le]
      have hold : placed point before (c :: after)
          = before.filter (·.toNat ≤ point) ++ after.filter (·.toNat < point) := by
        simp [placed, heq]
      have hcount : (placed point before (c :: after)).length + 1 ≤ maxLength := by
        have hfront := List.length_filter_le (fun d : Char => decide (d.toNat ≤ point)) before
        have hback := List.length_filter_le (fun d : Char => decide (d.toNat < point)) after
        rw [List.length_append, List.length_cons] at hlen
        rw [hold, List.length_append]
        omega
      have hpoint : c.toNat < 0x110000 := by
        have hvalid : c.toNat.isValidChar := c.valid
        unfold Nat.isValidChar at hvalid
        omega
      have hq : p.delta ≤ maxDistance := by
        have hmul : (point + 1) * ((placed point before (c :: after)).length + 1) ≤ maxDistance :=
          Nat.mul_le_mul (by omega) hcount
        have hdistance := h.distance
        rw [Nat.add_mul, Nat.one_mul] at hmul
        omega
      have hreads : r.Reads (Punycode.distance p.delta r.bias 36 p.delta)
          (r.insert c (before.filter (·.toNat ≤ point)).length p.delta) :=
        Reader.reads_distance h.le hq (by rw [h.same]; exact hplace)
          (by rw [h.same, heq]; exact h.distance)
      rw [if_pos heq, h.bias]
      refine ⟨_, _, rfl, fun d hd => isDigit_of_mem_distance (Nat.le_refl _) hd, hreads, ?_⟩
      have hfirst : decide (p.handled = basic) = decide (r.place = 0) :=
        decide_eq_decide.mpr h.first.symm
      have hbasic := h.basic
      constructor
      case same =>
        dsimp only [Reader.insert]
        rw [h.same, hold, List.take_left, List.drop_left]
        simp [placed, hbefore]
      case handled =>
        rw [h.handled, hold, placed, hbefore]
        simp only [List.length_append, List.length_singleton]
        omega
      case distance =>
        dsimp only [Reader.insert]
        rw [hbefore, List.length_append, List.length_singleton, heq, Nat.zero_add]
      case first =>
        dsimp only [Reader.insert]
        omega
      case bias =>
        dsimp only [Reader.insert]
        rw [hfirst, h.same, h.handled]
      case basic => exact Nat.le_succ_of_le hbasic
      case le => exact adapt_le hq
    · have hbefore : (before ++ [c]).filter (·.toNat ≤ point)
          = before.filter (·.toNat ≤ point) := by
        have hmore : ¬c.toNat ≤ point := by omega
        simp [List.filter_append, hmore]
      have hsame : placed point (before ++ [c]) after = placed point before (c :: after) := by
        simp [placed, hbefore, hless]
      rw [if_neg heq, hbefore, hsame]
      exact ⟨[], r, (List.append_nil _).symm, by simp, .refl r, h⟩

/-- A whole pass. -/
lemma Sync.pass {basic point : Nat} {before after : List Char} {p : Progress} {r : Reader}
    (h : Sync basic point (before.filter (·.toNat ≤ point)).length (placed point before after) p r)
    (hlen : (before ++ after).length ≤ maxLength) :
    ∃ digits r', (after.foldl (Punycode.scan basic point) p).out = p.out ++ digits
      ∧ (∀ d ∈ digits, IsDigit d) ∧ r.Reads digits r'
      ∧ Sync basic point ((before ++ after).filter (·.toNat ≤ point)).length
        ((before ++ after).filter (·.toNat ≤ point)) (after.foldl (Punycode.scan basic point) p)
        r' := by
  induction after generalizing before p r with
  | nil =>
    rw [placed, List.filter_nil, List.append_nil] at h
    rw [List.append_nil]
    exact ⟨[], r, (List.append_nil _).symm, by simp, .refl r, h⟩
  | cons c after ih =>
    obtain ⟨ds, r', hout, hds, hreads, hsync⟩ := h.scan hlen
    rw [List.append_cons] at hlen
    obtain ⟨ds', r'', hout', hds', hreads', hsync'⟩ := ih hsync hlen
    rw [List.append_cons before c after]
    refine ⟨ds ++ ds', r'', ?_, ?_, hreads.trans hreads', hsync'⟩
    · rw [List.foldl_cons, hout', hout, List.append_assoc]
    · exact fun d hd => (List.mem_append.mp hd).elim (hds d) (hds' d)

/-- All passes: the code points from `least` on are still to be put in. -/
lemma Sync.passes {basic least : Nat} {cs : List Char} {points : List Nat} {p : Progress}
    {r : Reader} (hsorted : points.Pairwise (· < ·)) (hleast : ∀ n ∈ points, least ≤ n)
    (hpoints : ∀ c ∈ cs, least ≤ c.toNat → c.toNat ∈ points) (hlen : cs.length ≤ maxLength)
    (h : Sync basic least 0 (cs.filter (·.toNat < least)) p r) :
    ∃ digits r', encodePoints basic (cs.map Char.toNat) points least p = p.out ++ digits
      ∧ (∀ d ∈ digits, IsDigit d) ∧ r.Reads digits r' ∧ r'.out = cs := by
  induction points generalizing least p r with
  | nil =>
    have hall : cs.filter (·.toNat < least) = cs := List.filter_eq_self.mpr fun c hc => by
      by_contra hge
      rw [decide_eq_true_eq, Nat.not_lt] at hge
      exact absurd (hpoints c hc hge) List.not_mem_nil
    exact ⟨[], r, (List.append_nil _).symm, by simp, .refl r, h.same.trans hall⟩
  | cons m points ih =>
    obtain ⟨hfirst, hsorted⟩ := List.pairwise_cons.mp hsorted
    have hm := hleast m List.mem_cons_self
    have hnone : cs.filter (·.toNat < m) = cs.filter (·.toNat < least) := by
      refine List.filter_congr fun c hc => decide_eq_decide.mpr ⟨fun hlt => ?_, fun hlt => by omega⟩
      by_contra hge
      rcases List.mem_cons.mp (hpoints c hc (by omega)) with heq | hmem
      · omega
      · have hlater := hfirst _ hmem
        omega
    have hstart : Sync basic m (([] : List Char).filter (·.toNat ≤ m)).length (placed m [] cs)
        { p with delta := p.delta + (m - least) * (p.handled + 1) } r := by
      rw [placed, List.filter_nil, List.nil_append, hnone]
      refine ⟨h.same, h.handled, ?_, h.first, h.bias, h.basic, h.le⟩
      have hdistance := h.distance
      have hsub := Nat.sub_mul m least ((cs.filter (·.toNat < least)).length + 1)
      have hmul := Nat.mul_le_mul_right ((cs.filter (·.toNat < least)).length + 1) hm
      rw [List.length_nil, h.handled]
      dsimp only
      omega
    obtain ⟨ds, r', hout, hds, hreads, hsync⟩ := hstart.pass hlen
    rw [List.nil_append] at hsync
    rw [encodePoints, encodePoint_eq]
    generalize cs.foldl (Punycode.scan basic m)
      { p with delta := p.delta + (m - least) * (p.handled + 1) } = p' at hout hsync ⊢
    have hnext : Sync basic (m + 1) 0 (cs.filter (·.toNat < m + 1))
        { p' with delta := p'.delta + 1 } r' := by
      have hfilter : cs.filter (·.toNat < m + 1) = cs.filter (·.toNat ≤ m) :=
        List.filter_congr fun c _ => decide_eq_decide.mpr Nat.lt_succ_iff
      rw [hfilter]
      refine ⟨hsync.same, hsync.handled, ?_, hsync.first, hsync.bias, hsync.basic, hsync.le⟩
      have hdistance := hsync.distance
      dsimp only
      rw [Nat.add_mul m 1, Nat.one_mul]
      omega
    have hrest : ∀ c ∈ cs, m + 1 ≤ c.toNat → c.toNat ∈ points := fun c hc hle =>
      (List.mem_cons.mp (hpoints c hc (by omega))).resolve_left (by omega)
    obtain ⟨ds', r'', hout', hds', hreads', hend⟩ :=
      ih hsorted (fun n hn => hfirst n hn) hrest hnext
    refine ⟨ds ++ ds', r'', ?_, ?_, hreads.trans hreads', hend⟩
    · rw [hout', hout, List.append_assoc]
    · exact fun d hd => (List.mem_append.mp hd).elim (hds d) (hds' d)

/-! ### Labels -/

lemma pairwise_eraseDups {ns : List Nat} (h : ns.Pairwise (· ≤ ·)) :
    ns.eraseDups.Pairwise (· < ·) := by
  match ns with
  | [] => exact List.Pairwise.nil
  | n :: ns =>
    obtain ⟨hfirst, hrest⟩ := List.pairwise_cons.mp h
    rw [List.eraseDups_cons]
    refine List.pairwise_cons.mpr ⟨fun m hm => ?_, pairwise_eraseDups (hrest.filter _)⟩
    obtain ⟨hmem, hne⟩ := List.mem_filter.mp (List.mem_eraseDups.mp hm)
    have hle := hfirst m hmem
    have hne : m ≠ n := by simpa using hne
    omega
termination_by ns.length
decreasing_by exact Nat.lt_succ_of_le (List.length_filter_le _ _)

/-- The ASCII characters of a label. -/
def basic (cs : List Char) : List Char := cs.filter (·.toNat < 128)

/-- What a label begins with when it is encoded. -/
def start (cs : List Char) : List Char := if (basic cs).isEmpty then [] else basic cs ++ ['-']

lemma isDigit_ne_hyphen {c : Char} (hc : IsDigit c) : c ≠ '-' := by
  obtain ⟨d, hd, rfl⟩ := hc
  revert d
  decide

/-- What a label is encoded as: its ASCII characters, and digits that lead to the others. -/
lemma encode_spec {cs : List Char} (hlen : cs.length ≤ maxLength) :
    ∃ digits r, encode cs = start cs ++ digits ∧ (∀ d ∈ digits, IsDigit d)
      ∧ Reader.Reads digits ⟨128, 0, 72, basic cs⟩ r ∧ r.out = cs := by
  have hsorted : (((cs.map Char.toNat).filter (128 ≤ ·)).mergeSort.eraseDups).Pairwise (· < ·) := by
    refine pairwise_eraseDups ?_
    have hle : ((cs.map Char.toNat).filter (128 ≤ ·)).mergeSort.Pairwise
        fun a b => decide (a ≤ b) = true :=
      List.pairwise_mergeSort
        (fun a b c hab hbc => by simp only [decide_eq_true_eq] at hab hbc ⊢; omega)
        (fun a b => by simp only [Bool.or_eq_true, decide_eq_true_eq]; omega) _
    simpa using hle
  have hsync : Sync (basic cs).length 128 0 (cs.filter (·.toNat < 128))
      ⟨0, 72, (basic cs).length, start cs⟩ ⟨128, 0, 72, basic cs⟩ :=
    ⟨rfl, rfl, Nat.zero_add _, by simp, rfl, Nat.le_refl _, (by decide : 72 ≤ maxBias)⟩
  obtain ⟨digits, r, hout, hdigits, hreads, hend⟩ := hsync.passes hsorted
    (fun n hn => by simpa using (List.mem_filter.mp (List.mem_mergeSort.mp
      (List.mem_eraseDups.mp hn))).2)
    (fun c hc hge => List.mem_eraseDups.mpr (List.mem_mergeSort.mpr
      (List.mem_filter.mpr ⟨List.mem_map_of_mem hc, by simpa using hge⟩))) hlen
  exact ⟨digits, r, hout, hdigits, hreads, hend⟩

/-- What a label is encoded in: its ASCII characters, hyphens and digits. -/
lemma mem_encode {cs : List Char} (hlen : cs.length ≤ maxLength) {c : Char} (hc : c ∈ encode cs) :
    (c ∈ cs ∧ c.toNat < 128) ∨ c = '-' ∨ IsDigit c := by
  obtain ⟨digits, r, hencode, hdigits, -⟩ := encode_spec hlen
  rw [hencode, List.mem_append] at hc
  rcases hc with hc | hc
  · unfold start at hc
    split at hc
    · cases hc
    · rcases List.mem_append.mp hc with hc | hc
      · exact .inl (by simpa [basic] using hc)
      · exact .inr (.inl (List.mem_singleton.mp hc))
  · exact .inr (.inr (hdigits c hc))

/-- A label is decoded from what it is encoded as. -/
theorem decode?_encode {cs : List Char} (hlen : cs.length ≤ maxLength) :
    decode? (encode cs) = some cs := by
  obtain ⟨digits, r, hencode, hdigits, hreads, hend⟩ := encode_spec hlen
  have htail : ((encode cs).reverse.takeWhile (· ≠ '-')).reverse = digits := by
    have hall : ∀ c ∈ digits.reverse, decide (c ≠ '-') = true := fun c hc =>
      decide_eq_true (isDigit_ne_hyphen (hdigits c (List.mem_reverse.mp hc)))
    rw [hencode, List.reverse_append, List.takeWhile_append_of_pos hall]
    have hstop : (start cs).reverse.takeWhile (· ≠ '-') = [] := by
      unfold start
      split <;> simp
    rw [hstop, List.append_nil, List.reverse_reverse]
  have hfront : ((encode cs).take ((encode cs).length - digits.length)).dropLast = basic cs := by
    rw [hencode, List.length_append, Nat.add_sub_cancel, List.take_left, start]
    split
    case isTrue hempty => rw [List.isEmpty_iff.mp hempty, List.dropLast_nil]
    case isFalse => rw [List.dropLast_concat]
  obtain ⟨left, hleft, hdecode⟩ := hreads (digits.length + 1) [] (by simp)
  rw [List.append_nil] at hdecode
  obtain ⟨left, rfl⟩ : ∃ k, left = k + 1 := ⟨left - 1, by rw [List.length_nil] at hleft; omega⟩
  unfold decode?
  dsimp only
  rw [htail, hfront, hdecode, decodePoints, hend]

end GroundLink.Url.Punycode
