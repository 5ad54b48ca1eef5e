import GroundLink.Text.Composition
import Mathlib.Data.List.Chain
import Mathlib.Tactic.Lemma

/-!
# The order of marks

Marks of different classes may stand in any order: a text is the same as another if putting marks in
their order cannot tell them apart. A text in order stays as it is.
-/

namespace GroundLink.Text

variable {cs cs' ds ds' es : List Char} {a b c : Char}

/-- Puts the characters of a text behind others, the last one of which comes first. -/
def putAll (cs done : List Char) : List Char := cs.foldl (fun done c => putMark c done) done

lemma putAll_append (cs ds done : List Char) :
    putAll (cs ++ ds) done = putAll ds (putAll cs done) :=
  List.foldl_append

lemma putMark_of_class_eq_zero (hc : combiningClass c = 0) (done : List Char) :
    putMark c done = c :: done := by
  cases done <;> simp [putMark, hc]

/-! ### Texts with the same marks -/

/-- Texts that differ only in the order of marks of different classes. -/
def Alike (cs ds : List Char) : Prop := ∀ done, putAll cs done = putAll ds done

namespace Alike

lemma refl (cs : List Char) : Alike cs cs := fun _ => rfl

lemma trans (h : Alike cs ds) (h' : Alike ds es) : Alike cs es := fun done =>
  (h done).trans (h' done)

lemma append (h : Alike cs cs') (h' : Alike ds ds') : Alike (cs ++ ds) (cs' ++ ds') := by
  intro done
  rw [putAll_append, putAll_append, h, h']

lemma orderMarks_eq (h : Alike cs ds) : orderMarks cs = orderMarks ds :=
  congrArg List.reverse (h [])

end Alike

lemma putMark_comm (ha : 0 < combiningClass a) (hb : 0 < combiningClass b)
    (hne : combiningClass a ≠ combiningClass b) (done : List Char) :
    putMark a (putMark b done) = putMark b (putMark a done) := by
  induction done with
  | nil =>
    simp only [putMark, ha, hb, true_and]
    split <;> split <;> first | rfl | omega
  | cons d done ih =>
    by_cases had : combiningClass a < combiningClass d <;>
      by_cases hbd : combiningClass b < combiningClass d
    · simp [putMark, ha, hb, had, hbd, ih]
    · have hab : combiningClass a < combiningClass b := by omega
      simp [putMark, ha, hb, had, hbd, hab]
    · have hba : combiningClass b < combiningClass a := by omega
      simp [putMark, ha, hb, had, hbd, hba]
    · simp only [putMark, ha, hb, had, hbd, true_and, if_false]
      split <;> split <;> first | rfl | omega

/-- A mark passes marks of other classes. -/
lemma alike_swap (hc : 0 < combiningClass c)
    (hes : ∀ e ∈ es, 0 < combiningClass e ∧ combiningClass e ≠ combiningClass c) :
    Alike (c :: es) (es ++ [c]) := by
  induction es with
  | nil => exact .refl _
  | cons e es ih =>
    obtain ⟨⟨he, hne⟩, hes⟩ := List.forall_mem_cons.mp hes
    have hswap : Alike [c, e] [e, c] := fun done => putMark_comm he hc hne done
    exact (hswap.append (.refl es)).trans ((Alike.refl [e]).append (ih hes))

/-! ### Texts in order -/

/-- Whether marks stand in the order of their classes, behind one of a given class. -/
def InOrder (least : Nat) (cs : List Char) : Prop :=
  (least :: cs.map combiningClass).IsChain fun m n => n = 0 ∨ m ≤ n

lemma inOrder_nil (least : Nat) : InOrder least [] := List.isChain_singleton _

lemma inOrder_cons {least : Nat} : InOrder least (c :: cs)
    ↔ (combiningClass c = 0 ∨ least ≤ combiningClass c) ∧ InOrder (combiningClass c) cs :=
  List.isChain_cons_cons

lemma inOrder_of_forall {least : Nat} (h : ∀ c ∈ cs, combiningClass c = 0) : InOrder least cs := by
  induction cs generalizing least with
  | nil => exact inOrder_nil least
  | cons c cs ih =>
    obtain ⟨hc, hcs⟩ := List.forall_mem_cons.mp h
    exact inOrder_cons.mpr ⟨.inl hc, ih hcs⟩

lemma putAll_of_inOrder {least : Nat} {done : List Char} (h : InOrder least cs)
    (hdone : ∀ d ∈ done.head?, combiningClass d ≤ least) : putAll cs done = cs.reverse ++ done := by
  induction cs generalizing least done with
  | nil => rfl
  | cons c cs ih =>
    obtain ⟨hc, hcs⟩ := inOrder_cons.mp h
    have hput : putMark c done = c :: done := by
      cases done with
      | nil => rfl
      | cons d done =>
        have hd := hdone d rfl
        rw [putMark, if_neg (by omega)]
    calc putAll (c :: cs) done = putAll cs (c :: done) := congrArg (putAll cs) hput
      _ = cs.reverse ++ c :: done := ih hcs fun d hd => by cases hd; exact Nat.le_refl _
      _ = (c :: cs).reverse ++ done := by simp

/-- A text in order stays as it is. -/
lemma orderMarks_of_inOrder (h : InOrder 0 cs) : orderMarks cs = cs := by
  have hput : putAll cs [] = cs.reverse ++ [] := putAll_of_inOrder h (by simp)
  rw [orderMarks, ← putAll, hput, List.append_nil, List.reverse_reverse]

/-- Whether what is done stands in order, the last character first. -/
def IsDone (done : List Char) : Prop :=
  done.IsChain fun c d => combiningClass c = 0 ∨ combiningClass d ≤ combiningClass c

lemma IsDone.putMark {done : List Char} (h : IsDone done) (c : Char) : IsDone (putMark c done) := by
  induction done with
  | nil => exact List.isChain_singleton _
  | cons d done ih =>
    rw [Text.putMark]
    split
    case isTrue hlow =>
      have htail := ih (List.isChain_cons.mp h).2
      refine List.isChain_cons.mpr ⟨fun e he => ?_, htail⟩
      -- The next character is the mark, or it was the next one before.
      have hhead : e = c ∨ e ∈ done.head? := by
        cases done with
        | nil => exact .inl (Option.some.inj he).symm
        | cons d' done =>
          rw [Text.putMark] at he
          split at he
          · exact .inr he
          · exact .inl (Option.some.inj he).symm
      rcases hhead with rfl | hhead
      · exact .inr hlow.2.le
      · exact (List.isChain_cons.mp h).1 e hhead
    case isFalse hhigh => exact List.isChain_cons_cons.mpr ⟨by omega, h⟩

/-- Putting marks in order puts them in order. -/
lemma inOrder_orderMarks (cs : List Char) : InOrder 0 (orderMarks cs) := by
  have hdone : ∀ (cs done : List Char), IsDone done → IsDone (putAll cs done) := by
    intro cs
    induction cs with
    | nil => exact fun done h => h
    | cons c cs ih => exact fun done h => ih _ (h.putMark c)
  have hchain := hdone cs [] List.isChain_nil
  rw [InOrder, List.isChain_cons, orderMarks, List.isChain_map]
  exact ⟨fun n _ => .inr (Nat.zero_le n), List.isChain_reverse.mpr hchain⟩

/-! ### Characters that keep their place -/

lemma putMark_append (hb : combiningClass b = 0) (c : Char) (ds done : List Char) :
    putMark c (ds ++ b :: done) = putMark c ds ++ b :: done := by
  induction ds with
  | nil => simp [putMark, hb]
  | cons d ds ih =>
    rw [List.cons_append, putMark, putMark]
    split
    · rw [ih, List.cons_append]
    · rfl

/-- What stands before a character that keeps its place is put in order apart from what stands
behind it. -/
lemma orderMarks_append_cons (hb : combiningClass b = 0) (cs ds : List Char) :
    orderMarks (cs ++ b :: ds) = orderMarks cs ++ b :: orderMarks ds := by
  have hput : ∀ es done, putAll ds (es ++ b :: done) = putAll ds es ++ b :: done := by
    induction ds with
    | nil => exact fun es done => rfl
    | cons d ds ih =>
      intro es done
      calc putAll ds (putMark d (es ++ b :: done))
          = putAll ds (putMark d es ++ b :: done) := by rw [putMark_append hb]
        _ = putAll ds (putMark d es) ++ b :: done := ih _ _
  have hall : putAll (cs ++ b :: ds) [] = putAll ds [] ++ b :: putAll cs [] := by
    calc putAll (cs ++ b :: ds) [] = putAll ds (putMark b (putAll cs [])) := putAll_append ..
      _ = putAll ds ([] ++ b :: putAll cs []) := by
        rw [putMark_of_class_eq_zero hb, List.nil_append]
      _ = putAll ds [] ++ b :: putAll cs [] := hput [] _
  rw [orderMarks, ← putAll, hall, orderMarks, orderMarks, ← putAll, ← putAll]
  simp

end GroundLink.Text
