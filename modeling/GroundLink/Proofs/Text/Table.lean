import GroundLink.Text.Run
import Mathlib.Data.Nat.Bitwise
import Mathlib.Tactic.Lemma

/-!
# Tables of code points

What holds of a whole table is tried out on the characters of its lines. A set of code points is
held as the binary digits of a number, so that unions and memberships are quickly computed.
-/

namespace GroundLink.Text

/-! ### Lines -/

/-- The characters of lines. -/
inductive Spelled : List String → List (List Char) → Prop
  | nil : Spelled [] []
  | cons {lines : List String} {css : List (List Char)} (cs : List Char) :
    Spelled lines css → Spelled (String.ofList cs :: lines) (cs :: css)

lemma Spelled.map_toList {lines : List String} {css : List (List Char)} (h : Spelled lines css) :
    lines.map String.toList = css := by
  induction h with
  | nil => rfl
  | cons cs _ ih => rw [List.map_cons, String.toList_ofList, ih]

namespace Run

/-- The runs that are written in lines. -/
def ofChars (css : List (List Char)) : List Run :=
  css.flatMap fun cs => (cs.splitOn ' ').map ofWord

lemma readAll_eq {lines : List String} {css : List (List Char)} (h : Spelled lines css) :
    readAll lines = ofChars css := by
  rw [ofChars, ← h.map_toList, List.flatMap_map]
  rfl

/-- No code point below all runs of a table is in one of them. -/
lemma covers_readAll_eq_false {lines : List String} {css : List (List Char)} {k n : Nat}
    (h : Spelled lines css) (hk : (ofChars css).all (k ≤ ·.first) = true) (hn : n < k) :
    covers (readAll lines) n = false := by
  rw [readAll_eq h, covers, List.any_eq_false]
  intro r hr
  have hfirst := List.all_eq_true.mp hk r hr
  rw [decide_eq_true_eq] at hfirst
  rw [contains_iff]
  omega

lemma exists_of_classOf? {α : Type} {classes : List (α × List String)} {n : Nat} {a : α}
    (h : classOf? (readClasses classes) n = some a) :
    ∃ p ∈ classes, p.1 = a ∧ covers (readAll p.2) n = true := by
  obtain ⟨c, hc, rfl⟩ := Option.map_eq_some_iff.mp h
  obtain ⟨p, hp, rfl⟩ := List.mem_map.mp (List.mem_of_find?_eq_some hc)
  exact ⟨p, hp, rfl, by simpa using List.find?_some hc⟩

/-- The lines of each class of a table. -/
inductive SpelledClasses {α : Type} : List (α × List String) → List (α × List (List Char)) → Prop
  | nil : SpelledClasses [] []
  | cons {a : α} {lines : List String} {css : List (List Char)} {classes : List (α × List String)}
    {spelled : List (α × List (List Char))} : Spelled lines css → SpelledClasses classes spelled →
    SpelledClasses ((a, lines) :: classes) ((a, css) :: spelled)

lemma readClasses_eq {α : Type} {classes : List (α × List String)}
    {spelled : List (α × List (List Char))} (h : SpelledClasses classes spelled) :
    readClasses classes = spelled.map fun p => (p.1, ofChars p.2) := by
  induction h with
  | nil => rfl
  | cons hlines _ ih =>
    rw [readClasses, List.map_cons, ← readClasses, ih, List.map_cons, readAll_eq hlines]

end Run

/-! ### Sets -/

/-- The union of sets. -/
def union (sets : List Nat) : Nat := sets.foldr (· ||| ·) 0

lemma testBit_union {sets : List Nat} {n : Nat} :
    (union sets).testBit n = true ↔ ∃ m ∈ sets, m.testBit n = true := by
  induction sets with
  | nil => simp [union]
  | cons m sets ih =>
    rw [union, List.foldr_cons, Nat.testBit_or, ← union, Bool.or_eq_true, ih]
    simp only [List.mem_cons, exists_eq_or_imp]

/-- The set of some code points. -/
def pointSet (ns : List Nat) : Nat := union (ns.map (2 ^ ·))

lemma testBit_pointSet {ns : List Nat} {n : Nat} : (pointSet ns).testBit n = true ↔ n ∈ ns := by
  simp [pointSet, testBit_union, Nat.testBit_two_pow]

namespace Run

/-- The set of the code points in a run. -/
def mask (r : Run) : Nat := (2 ^ (r.last + 1 - r.first) - 1) <<< r.first

/-- The set of the code points in some runs. -/
def maskAll (runs : List Run) : Nat := union (runs.map mask)

lemma testBit_mask (r : Run) (n : Nat) : r.mask.testBit n = r.contains n := by
  rw [mask, Nat.testBit_shiftLeft, Nat.testBit_two_pow_sub_one, contains, Bool.eq_iff_iff]
  simp only [Bool.and_eq_true, decide_eq_true_eq]
  omega

lemma testBit_maskAll (runs : List Run) (n : Nat) : (maskAll runs).testBit n = covers runs n := by
  rw [Bool.eq_iff_iff, maskAll, testBit_union, covers, List.any_eq_true]
  simp [testBit_mask]

end Run

/-- Whether code points are distinct, and none of them is in a set. -/
def distinct (seen : Nat) : List Nat → Bool
  | [] => true
  | n :: ns => !seen.testBit n && distinct (2 ^ n ||| seen) ns

lemma nodup_of_distinct {seen : Nat} {ns : List Nat} (h : distinct seen ns = true) :
    ns.Nodup ∧ ∀ n ∈ ns, seen.testBit n = false := by
  induction ns generalizing seen with
  | nil => exact ⟨.nil, by simp⟩
  | cons n ns ih =>
    rw [distinct, Bool.and_eq_true, Bool.not_eq_true'] at h
    obtain ⟨hnodup, hseen⟩ := ih h.2
    have hrest : ∀ m ∈ ns, n ≠ m ∧ seen.testBit m = false := by
      intro m hm
      have hbit := hseen m hm
      rw [Nat.testBit_or, Nat.testBit_two_pow, Bool.or_eq_false_iff,
        decide_eq_false_iff_not] at hbit
      exact hbit
    exact ⟨List.nodup_cons.mpr ⟨fun hn => (hrest n hn).1 rfl, hnodup⟩,
      List.forall_mem_cons.mpr ⟨h.1, fun m hm => (hrest m hm).2⟩⟩

end GroundLink.Text
