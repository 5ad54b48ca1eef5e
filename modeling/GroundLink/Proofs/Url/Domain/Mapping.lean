import GroundLink.Proofs.Text.Composite
import GroundLink.Proofs.Url.Percent
import GroundLink.Url.Domain.Mapping

/-!
# What the characters of a name are read as

A character that another one is read as is read as itself, and so are the characters that such
characters are composed to or made of: a name is mapped once.
-/

namespace GroundLink.Url.Domain

open Text

/-! ### Rows -/

namespace Row

/-- The row of the characters of a line. -/
def ofChars (cs : List Char) : Row :=
  match cs.splitOn ' ' with
  | [] => ⟨0, #[]⟩
  | word :: words =>
    let first := hexNumber word
    let reading (word : List Char) (place : Nat) : List Char :=
      if word = ['='] then [Char.ofNat (first + place)]
      else (word.splitOn '.').map fun digits => Char.ofNat (hexNumber digits)
    ⟨first, ((words.zipIdx).map fun p => reading p.1 p.2).toArray⟩

lemma ofLine_eq (line : String) : ofLine line = ofChars line.toList := rfl

lemma map_ofLine {lines : List String} {css : List (List Char)} (h : Spelled lines css) :
    lines.map ofLine = css.map ofChars := by
  induction h with
  | nil => rfl
  | cons cs _ ih => rw [List.map_cons, List.map_cons, ih, ofLine_eq, String.toList_ofList]

/-- The places of readings that are not those of the code points from `first` on. -/
def changedFrom (first : Nat) : List (List Char) → Nat
  | [] => 0
  | cs :: css => Nat.bit (cs ≠ [Char.ofNat first]) (changedFrom (first + 1) css)

/-- The set of the code points that stand for others. -/
def changed (r : Row) : Nat := changedFrom r.first r.readings.toList <<< r.first

/-- The set of the code points that others stand for. -/
def written (r : Row) : Nat := pointSet (r.readings.toList.flatten.map Char.toNat)

end Row

/-! ### Unsteady code points -/

/-- The set of the code points that are not read as themselves: those that are refused, left out or
stand for others, and capitals. -/
def unsteadyIn (rows : List Row) (refused silent : List Run) : Nat :=
  union (Run.mask ⟨'A'.toNat, 'Z'.toNat⟩ :: Run.maskAll refused :: Run.maskAll silent
    :: rows.map Row.changed)

/-- The code points that are read as themselves whatever the tables are: ASCII without capitals, and
the syllables of Hangul. -/
def plainRuns : List Run := [⟨0, 0x40⟩, ⟨0x5b, 0x7f⟩, ⟨0xac00, 0xd7a3⟩]

/-- Whether what characters are read as is read as itself, and composites are if and only if both
parts of them are. -/
def isClosed (rows : List Row) (refused silent : List Run) (composites : List Composite) : Bool :=
  let unsteady := unsteadyIn rows refused silent
  unsteady &&& union (Run.maskAll plainRuns :: rows.map Row.written) = 0
    && composites.all fun p =>
      unsteady.testBit p.whole == (unsteady.testBit p.first || unsteady.testBit p.second)

lemma isClosed_of_spelled {rowLines refusedLines silentLines compositeLines : List String}
    {rowChars refusedChars silentChars compositeChars : List (List Char)}
    (hrows : Spelled rowLines rowChars) (hrefused : Spelled refusedLines refusedChars)
    (hsilent : Spelled silentLines silentChars)
    (hcomposites : Spelled compositeLines compositeChars)
    (h : isClosed (rowChars.map Row.ofChars) (Run.ofChars refusedChars) (Run.ofChars silentChars)
      (compositeChars.flatMap Composite.ofChars) = true) :
    isClosed (rowLines.map Row.ofLine) (Run.readAll refusedLines) (Run.readAll silentLines)
      (compositeLines.flatMap Composite.ofLine) = true := by
  rw [Row.map_ofLine hrows, Run.readAll_eq hrefused, Run.readAll_eq hsilent,
    Composite.flatMap_ofLine hcomposites]
  exact h

set_option maxRecDepth 100000 in
lemma isClosed_tables : isClosed rows refusedRuns silentRuns composites = true :=
  isClosed_of_spelled (by dsimp only; repeat first | exact .nil | apply Spelled.cons)
    (by dsimp only; repeat first | exact .nil | apply Spelled.cons)
    (by repeat first | exact .nil | apply Spelled.cons)
    (by repeat first | exact .nil | apply Spelled.cons) (by decide +kernel)

/-- The set of the code points that are not read as themselves. -/
def unsteady : Nat := unsteadyIn rows refusedRuns silentRuns

/-- Whether a character is read as itself. -/
def IsSteady (c : Char) : Prop := unsteady.testBit c.toNat = false

variable {a b c d : Char} {cs ds : List Char}

lemma testBit_unsteadyIn {rows : List Row} {refused silent : List Run} {n : Nat} :
    (unsteadyIn rows refused silent).testBit n = true ↔ ('A'.toNat ≤ n ∧ n ≤ 'Z'.toNat)
      ∨ Run.covers refused n = true ∨ Run.covers silent n = true
      ∨ ∃ r ∈ rows, r.changed.testBit n = true := by
  simp [unsteadyIn, testBit_union, Run.testBit_mask, Run.testBit_maskAll, Run.contains_iff]

lemma isSteady_iff : IsSteady c ↔ ¬('A'.toNat ≤ c.toNat ∧ c.toNat ≤ 'Z'.toNat)
    ∧ Run.covers refusedRuns c.toNat = false ∧ Run.covers silentRuns c.toNat = false
    ∧ ∀ r ∈ rows, r.changed.testBit c.toNat = false := by
  rw [IsSteady, ← Bool.not_eq_true, unsteady, testBit_unsteadyIn]
  simp

lemma Row.testBit_changedFrom {first k : Nat} {css : List (List Char)} :
    (changedFrom first css).testBit k = true
      ↔ ∃ cs, css[k]? = some cs ∧ cs ≠ [Char.ofNat (first + k)] := by
  induction css generalizing first k with
  | nil => simp [changedFrom]
  | cons cs css ih =>
    rw [changedFrom]
    cases k with
    | zero => simp
    | succ k =>
      rw [Nat.testBit_bit_succ, ih, List.getElem?_cons_succ, Nat.add_assoc, Nat.add_comm 1 k]

lemma Row.testBit_changed {r : Row} {n : Nat} : r.changed.testBit n = true
    ↔ ∃ cs, r.reading? n = some cs ∧ cs ≠ [Char.ofNat n] := by
  rw [changed, Nat.testBit_shiftLeft, Bool.and_eq_true, decide_eq_true_eq, testBit_changedFrom,
    reading?]
  by_cases hn : r.first ≤ n
  · rw [if_pos hn, Nat.add_sub_cancel' hn, Array.getElem?_toList]
    simp [hn]
  · simp [hn]

lemma reading?_of_isSteady (h : IsSteady c) : reading? c = some [c] := by
  obtain ⟨hcapital, hrefused, hsilent, hrows⟩ := isSteady_iff.mp h
  by_cases hc : c.toNat < 128
  · rw [reading?_of_lt hc]
    have hlower : c.toLower = c := forall_ascii
      (p := fun c => ¬('A'.toNat ≤ c.toNat ∧ c.toNat ≤ 'Z'.toNat) → c.toLower = c)
      (by decide +kernel) hc hcapital
    rw [hlower]
  · unfold reading?
    dsimp only
    rw [if_neg hc, hrefused, hsilent]
    cases hfind : rows.findSome? (·.reading? c.toNat) with
    | none => rfl
    | some cs =>
      obtain ⟨r, hr, hread⟩ := List.exists_of_findSome?_eq_some hfind
      have hcs : cs = [c] := by
        by_contra hne
        have hbit : r.changed.testBit c.toNat = true :=
          Row.testBit_changed.mpr ⟨cs, hread, by rwa [Char.ofNat_toNat]⟩
        rw [hrows r hr] at hbit
        cases hbit
      rw [hcs]
      rfl

lemma isSteady_of_mem_union {n : Nat} (hn : (union (Run.maskAll plainRuns
    :: rows.map Row.written)).testBit n = true) : unsteady.testBit n = false := by
  have hclosed := isClosed_tables
  simp only [isClosed, Bool.and_eq_true, decide_eq_true_eq] at hclosed
  have hbit := congrArg (Nat.testBit · n) hclosed.1
  rw [Nat.testBit_and, hn, Bool.and_true, Nat.zero_testBit] at hbit
  exact hbit

lemma isSteady_of_plain (h : Run.covers plainRuns c.toNat = true) : IsSteady c := by
  refine isSteady_of_mem_union (testBit_union.mpr ⟨_, List.mem_cons_self, ?_⟩)
  rw [Run.testBit_maskAll, h]

/-- What characters are read as is read as itself. -/
lemma isSteady_of_mem_reading? (h : reading? c = some cs) (hd : d ∈ cs) : IsSteady d := by
  by_cases hc : c.toNat < 128
  · rw [reading?_of_lt hc] at h
    cases h
    obtain rfl := List.mem_singleton.mp hd
    exact isSteady_of_plain (forall_ascii
      (p := fun c => Run.covers plainRuns c.toLower.toNat = true) (by decide +kernel) hc)
  · unfold reading? at h
    dsimp only at h
    rw [if_neg hc] at h
    split at h
    case isTrue => cases h
    case isFalse hrefused =>
      split at h
      case isTrue =>
        cases h
        cases hd
      case isFalse hsilent =>
        cases hfind : rows.findSome? (·.reading? c.toNat) with
        | none =>
          rw [hfind] at h
          cases h
          obtain rfl := List.mem_singleton.mp hd
          refine isSteady_iff.mpr ⟨?_, by simpa using hrefused, by simpa using hsilent, ?_⟩
          · have hz : 'Z'.toNat < 128 := by decide
            omega
          · intro r hr
            by_contra hbit
            rw [Bool.not_eq_false, Row.testBit_changed] at hbit
            obtain ⟨cs, hread, -⟩ := hbit
            have hnone := List.findSome?_eq_none_iff.mp hfind r hr
            rw [hread] at hnone
            cases hnone
        | some ds =>
          rw [hfind] at h
          cases h
          obtain ⟨r, hr, hread⟩ := List.exists_of_findSome?_eq_some hfind
          refine isSteady_of_mem_union (testBit_union.mpr
            ⟨r.written, List.mem_cons_of_mem _ (List.mem_map_of_mem hr), testBit_pointSet.mpr ?_⟩)
          refine List.mem_map_of_mem (List.mem_flatten.mpr ⟨ds, ?_, hd⟩)
          unfold Row.reading? at hread
          split at hread
          · exact Array.mem_toList_iff.mpr (Array.mem_of_getElem? hread)
          · cases hread

/-- A composite is read as itself if and only if both parts of it are. -/
lemma unsteady_composite {p : Composite} (hp : p ∈ composites) : unsteady.testBit p.whole
    = (unsteady.testBit p.first || unsteady.testBit p.second) := by
  have hclosed := isClosed_tables
  simp only [isClosed, Bool.and_eq_true, List.all_eq_true, beq_iff_eq] at hclosed
  exact hclosed.2 p hp

lemma IsSteady.of_halves? (h : halves? c = some (a, b)) (hc : IsSteady c) :
    IsSteady a ∧ IsSteady b := by
  obtain ⟨p, hp, hwhole, rfl, rfl⟩ := halves?_eq_some h
  have hsound := Composite.isSound_of_mem hp
  rw [IsSteady, ← hwhole, unsteady_composite hp, Bool.or_eq_false_iff] at hc
  rw [IsSteady, IsSteady, toNat_ofNat hsound.first_valid, toNat_ofNat hsound.second_valid]
  exact hc

lemma IsSteady.of_whole? (h : whole? a b = some c) (ha : IsSteady a) (hb : IsSteady b) :
    IsSteady c := by
  rcases whole?_eq_some h with ⟨n, hn, rfl⟩ | ⟨p, hp, hfirst, hsecond, rfl⟩
  · refine isSteady_of_plain (Run.covers_iff.mpr ⟨⟨0xac00, 0xd7a3⟩, by simp [plainRuns], ?_⟩)
    exact isSyllable_of_syllable? hn
  · have hsound := Composite.isSound_of_mem hp
    rw [IsSteady, toNat_ofNat hsound.whole_valid, unsteady_composite hp, hfirst, hsecond,
      Bool.or_eq_false_iff]
    exact ⟨ha, hb⟩

end GroundLink.Url.Domain
