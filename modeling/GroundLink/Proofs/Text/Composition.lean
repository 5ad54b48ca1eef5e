import GroundLink.Proofs.Text.Composite
import GroundLink.Proofs.Text.Order

/-!
# The composed form

A text is composed once: its composed form stands for the same letters and marks in the same order,
and is what these are composed to.
-/

namespace GroundLink.Text

variable {a b c d letter : Char} {cs ds between : List Char} {most : Nat}

/-! ### Classes -/

/-- Whether runs lie apart from others. -/
def areApart (runs others : List Run) : Bool :=
  runs.all fun r => others.all fun s => r.last < s.first || s.last < r.first

lemma covers_of_areApart {runs others : List Run} (h : areApart runs others = true) {n : Nat}
    (hn : Run.covers others n = true) : Run.covers runs n = false := by
  by_contra hcovers
  rw [Bool.not_eq_false] at hcovers
  obtain ⟨r, hr, hrun⟩ := Run.covers_iff.mp hcovers
  obtain ⟨s, hs, hother⟩ := Run.covers_iff.mp hn
  have hapart := List.all_eq_true.mp (List.all_eq_true.mp h r hr) s hs
  rw [Bool.or_eq_true, decide_eq_true_eq, decide_eq_true_eq] at hapart
  omega

/-- Whether all runs of a table of classes lie apart from others. -/
def classesApart {α : Type} (classes : List (α × List Run)) (others : List Run) : Bool :=
  classes.all fun p => areApart p.2 others

lemma classesApart_readClasses {α : Type} {classes : List (α × List String)}
    {spelled : List (α × List (List Char))} (h : Run.SpelledClasses classes spelled)
    {others : List Run}
    (hcheck : classesApart (spelled.map fun p => (p.1, Run.ofChars p.2)) others = true) :
    classesApart (Run.readClasses classes) others = true := by
  rw [Run.readClasses_eq h]
  exact hcheck

lemma classesApart_combiningRuns : classesApart combiningRuns Composite.hangul = true :=
  classesApart_readClasses
    (by
      dsimp only
      repeat first
        | exact .nil
        | apply Run.SpelledClasses.cons
        | apply Spelled.cons)
    (by decide +kernel)

/-- Hangul has no marks. -/
lemma combiningClass_of_hangul (h : Run.covers Composite.hangul c.toNat = true) :
    combiningClass c = 0 := by
  have hnone : Run.classOf? combiningRuns c.toNat = none := by
    rw [Run.classOf?, Option.map_eq_none_iff, List.find?_eq_none]
    intro p hp
    rw [covers_of_areApart (List.all_eq_true.mp classesApart_combiningRuns p hp) h]
    exact Bool.false_ne_true
  rw [combiningClass, hnone]
  exact ite_self 0

/-! ### Steps -/

/-- What a letter is joined to by a character that reaches it. -/
def reached (letter : Char) (between : List Char) (c : Char) : Option Char :=
  if between.head?.all fun d => combiningClass d < combiningClass c then whole? letter c else none

lemma joinTo_cons (letter : Char) (between : List Char) (c : Char) (cs : List Char) :
    joinTo letter between (c :: cs) = match reached letter between c with
      | some d => joinTo d between cs
      | none => if combiningClass c = 0 then letter :: (between.reverse ++ joinTo c [] cs)
        else joinTo letter (c :: between) cs := rfl

lemma reached_eq_none (h : whole? letter c = none) (between : List Char) :
    reached letter between c = none := by
  rw [reached, h, ite_self]

lemma whole?_of_reached (h : reached letter between c = some d) : whole? letter c = some d := by
  unfold reached at h
  split at h
  · exact h
  · cases h

lemma reached_nil (letter c : Char) : reached letter [] c = whole? letter c := rfl

lemma joinAll_cons (c : Char) (cs : List Char) :
    joinAll (c :: cs) = if combiningClass c = 0 then joinTo c [] cs else c :: joinAll cs := by
  unfold joinAll
  by_cases hc : combiningClass c = 0
  · simp [hc]
  · simp [hc, Nat.pos_of_ne_zero hc]

/-! ### Syllables -/

lemma combiningClass_of_isSyllable (h : IsSyllable c) : combiningClass c = 0 :=
  combiningClass_of_hangul (covers_hangul.mpr (.inr h))

lemma combiningClass_of_mem_jamo (h : IsSyllable c) (hd : d ∈ jamo c) : combiningClass d = 0 :=
  combiningClass_of_hangul (covers_hangul.mpr (.inl (toNat_of_mem_jamo h hd)))

/-- A syllable that is spelled out is joined again. -/
lemma joinAll_jamo (h : IsSyllable c) (cs : List Char) :
    joinAll (jamo c ++ cs) = joinTo c [] cs := by
  obtain ⟨a, b, s, ha, hab, hs⟩ := exists_of_isSyllable h
  have hclass : combiningClass a = 0 :=
    combiningClass_of_hangul (covers_hangul.mpr (.inl (by omega)))
  rcases hs with ⟨hjamo, rfl⟩ | ⟨e, hjamo, hse⟩
  · rw [hjamo, List.cons_append, joinAll_cons, if_pos hclass, List.cons_append, joinTo_cons,
      reached_nil, hab]
    rfl
  · rw [hjamo, List.cons_append, joinAll_cons, if_pos hclass, List.cons_append, joinTo_cons,
      reached_nil, hab, List.cons_append]
    dsimp only
    rw [joinTo_cons, reached_nil, hse]
    rfl

/-- A syllable is joined to nothing before it. -/
lemma joinTo_jamo (h : IsSyllable c) (letter : Char) (between cs : List Char) :
    joinTo letter between (jamo c ++ cs) = letter :: (between.reverse ++ joinTo c [] cs) := by
  rw [← joinAll_jamo h]
  obtain ⟨a, b, s, ha, hab, hs⟩ := exists_of_isSyllable h
  have hclass : combiningClass a = 0 :=
    combiningClass_of_hangul (covers_hangul.mpr (.inl (by omega)))
  have hcons : ∃ rest, jamo c = a :: rest := by
    rcases hs with ⟨hjamo, -⟩ | ⟨e, hjamo, -⟩ <;> exact ⟨_, hjamo⟩
  obtain ⟨rest, hrest⟩ := hcons
  rw [hrest, List.cons_append, joinTo_cons, reached_eq_none (whole?_of_leading (.inl ha)),
    joinAll_cons, if_pos hclass, if_pos hclass]

lemma joinTo_flatMap_jamo (letter : Char) (between cs : List Char) :
    joinTo letter between (cs.flatMap jamo) = joinTo letter between cs := by
  induction cs generalizing letter between with
  | nil => rfl
  | cons c cs ih =>
    rw [List.flatMap_cons]
    by_cases hc : IsSyllable c
    · rw [joinTo_jamo hc, ih, joinTo_cons, reached_eq_none (whole?_of_leading (.inr hc))]
      exact (if_pos (combiningClass_of_isSyllable hc)).symm
    · rw [jamo_of_not hc, List.singleton_append, joinTo_cons, joinTo_cons, ih]
      simp only [ih]

/-- Syllables may be spelled out before characters are joined. -/
lemma joinAll_flatMap_jamo (cs : List Char) : joinAll (cs.flatMap jamo) = joinAll cs := by
  induction cs with
  | nil => rfl
  | cons c cs ih =>
    rw [List.flatMap_cons]
    by_cases hc : IsSyllable c
    · rw [joinAll_jamo hc, joinTo_flatMap_jamo, joinAll_cons,
        if_pos (combiningClass_of_isSyllable hc)]
    · rw [jamo_of_not hc, List.singleton_append, joinAll_cons, joinAll_cons, joinTo_flatMap_jamo,
        ih]

lemma jamo_ne_nil (c : Char) : jamo c ≠ [] := by
  unfold jamo
  split <;> exact List.cons_ne_nil _ _

lemma putMark_of_head {done : List Char} (h : ∀ d ∈ done.head?, combiningClass d = 0) (c : Char) :
    putMark c done = c :: done := by
  cases done with
  | nil => rfl
  | cons d done => rw [putMark, h d rfl, if_neg (by omega)]

lemma putMark_flatMap_jamo (hc : ¬IsSyllable c) (done : List Char) :
    putMark c (done.flatMap fun d => (jamo d).reverse)
      = (putMark c done).flatMap fun d => (jamo d).reverse := by
  induction done with
  | nil => simp [putMark, jamo_of_not hc]
  | cons d done ih =>
    rw [List.flatMap_cons]
    by_cases hd : IsSyllable d
    · rw [putMark_of_head, putMark_of_head, List.flatMap_cons, List.flatMap_cons, jamo_of_not hc]
      · rfl
      · intro e he
        obtain rfl := Option.some.inj he
        exact combiningClass_of_isSyllable hd
      · intro e he
        obtain ⟨x, xs, hxs⟩ :=
          List.exists_cons_of_ne_nil (List.reverse_ne_nil_iff.mpr (jamo_ne_nil d))
        rw [hxs] at he
        obtain rfl := Option.some.inj he
        have hx : x ∈ (jamo d).reverse := hxs ▸ List.mem_cons_self
        exact combiningClass_of_mem_jamo hd (List.mem_reverse.mp hx)
    · rw [jamo_of_not hd, List.reverse_singleton, List.singleton_append, putMark, putMark]
      split
      · rw [ih, List.flatMap_cons, jamo_of_not hd]
        rfl
      · rw [List.flatMap_cons, List.flatMap_cons, jamo_of_not hc, jamo_of_not hd]
        rfl

lemma putAll_jamo (c : Char) (done : List Char) :
    putAll (jamo c) (done.flatMap fun d => (jamo d).reverse)
      = (putMark c done).flatMap fun d => (jamo d).reverse := by
  by_cases hc : IsSyllable c
  · have hput : ∀ (cs done : List Char), (∀ c ∈ cs, combiningClass c = 0) →
        putAll cs done = cs.reverse ++ done := by
      intro cs
      induction cs with
      | nil => exact fun done _ => rfl
      | cons c cs ih =>
        intro done h
        obtain ⟨hc, hcs⟩ := List.forall_mem_cons.mp h
        calc putAll (c :: cs) done = putAll cs (c :: done) :=
            congrArg (putAll cs) (putMark_of_class_eq_zero hc done)
          _ = cs.reverse ++ c :: done := ih _ hcs
          _ = (c :: cs).reverse ++ done := by simp
    rw [hput _ _ fun d hd => combiningClass_of_mem_jamo hc hd,
      putMark_of_class_eq_zero (combiningClass_of_isSyllable hc), List.flatMap_cons]
  · rw [← putMark_flatMap_jamo hc, jamo_of_not hc]
    rfl

/-- Syllables may be spelled out before marks are put in order. -/
lemma orderMarks_flatMap_jamo (cs : List Char) :
    orderMarks (cs.flatMap jamo) = (orderMarks cs).flatMap jamo := by
  have hput : ∀ done, putAll (cs.flatMap jamo) (done.flatMap fun d => (jamo d).reverse)
      = (putAll cs done).flatMap fun d => (jamo d).reverse := by
    induction cs with
    | nil => exact fun done => rfl
    | cons c cs ih =>
      intro done
      rw [List.flatMap_cons, putAll_append, putAll_jamo, ih]
      rfl
  have hnil := hput []
  rw [List.flatMap_nil] at hnil
  rw [orderMarks, ← putAll, hnil, List.reverse_flatMap, orderMarks, ← putAll]
  simp [Function.comp_def]

/-! ### Letters of what is joined -/

/-- A text of characters that stand for themselves. -/
def AreLetters (cs : List Char) : Prop := ∀ c ∈ cs, letters c = [c]

lemma AreLetters.flatMap (h : AreLetters cs) : cs.flatMap letters = cs := by
  have hmap : cs.flatMap letters = cs.flatMap fun c => [c] := List.flatMap_congr h
  rw [hmap, List.flatMap_singleton']

lemma areLetters_cons : AreLetters (c :: cs) ↔ letters c = [c] ∧ AreLetters cs :=
  List.forall_mem_cons

lemma areLetters_nil : AreLetters [] := by
  simp [AreLetters]

lemma areLetters_reverse : AreLetters cs.reverse ↔ AreLetters cs := by
  simp [AreLetters]

/-- Marks between a letter and a character that may reach it: the last of them, which comes first,
has the highest class, and no class is above a bound. -/
structure AreBetween (most : Nat) (between : List Char) : Prop where
  mark : ∀ e ∈ between, 0 < combiningClass e ∧ combiningClass e ≤ most
  last : ∀ d ∈ between.head?, ∀ e ∈ between, combiningClass e ≤ combiningClass d

lemma areBetween_nil : AreBetween most [] := ⟨by simp, by simp⟩

/-- A character reaches a letter over marks of lower classes. -/
lemma lt_of_reached (hbetween : AreBetween most between) (h : reached letter between c = some d) :
    ∀ e ∈ between, combiningClass e < combiningClass c := by
  unfold reached at h
  split at h
  case isTrue hlow =>
    intro e he
    obtain ⟨b, rest, rfl⟩ := List.exists_cons_of_ne_nil (List.ne_nil_of_mem he)
    have hlow : combiningClass b < combiningClass c := by simpa using hlow
    have hlast := hbetween.last b rfl e he
    omega
  case isFalse => cases h

/-- A character that reaches a letter may stand before what is between them. -/
lemma alike_reached (hmarks : ∀ e ∈ between, 0 < combiningClass e)
    (hlow : ∀ e ∈ between, combiningClass e < combiningClass c) :
    Alike (c :: between.reverse) (between.reverse ++ [c]) := by
  cases between with
  | nil => exact .refl _
  | cons b between =>
    have hb := hlow b List.mem_cons_self
    refine alike_swap (by omega) fun e he => ?_
    have hmem := List.mem_reverse.mp he
    exact ⟨hmarks e hmem, (hlow e hmem).ne⟩

/-- What characters are joined to has the letters of all of them. -/
lemma alike_joinTo (letter : Char) (hcs : AreLetters cs) (hletters : AreLetters between)
    (hbetween : AreBetween most between) (horder : InOrder most cs) :
    Alike ((joinTo letter between cs).flatMap letters)
      (letters letter ++ (between.reverse ++ cs)) := by
  induction cs generalizing letter between most with
  | nil =>
    rw [joinTo, List.flatMap_cons, (areLetters_reverse.mpr hletters).flatMap, List.append_nil]
    exact .refl _
  | cons c cs ih =>
    obtain ⟨hc, hcs⟩ := areLetters_cons.mp hcs
    obtain ⟨hleast, horder⟩ := inOrder_cons.mp horder
    rw [joinTo_cons]
    split
    case h_1 d hreached =>
      have hlow := lt_of_reached hbetween hreached
      have hmost : AreBetween (combiningClass c) between :=
        ⟨fun e he => ⟨(hbetween.mark e he).1, (hlow e he).le⟩, hbetween.last⟩
      have hjoined := ih d hcs hletters hmost horder
      rw [letters_of_whole? (whole?_of_reached hreached) hc, List.append_assoc,
        List.singleton_append] at hjoined
      have hswap := (alike_reached (fun e he => (hbetween.mark e he).1) hlow).append (.refl cs)
      rw [List.append_assoc, List.singleton_append] at hswap
      exact hjoined.trans ((Alike.refl _).append hswap)
    case h_2 =>
      split
      case isTrue hzero =>
        rw [List.flatMap_cons, List.flatMap_append, (areLetters_reverse.mpr hletters).flatMap]
        have hjoined := ih c hcs areLetters_nil areBetween_nil horder
        rw [hc, List.reverse_nil, List.nil_append, List.singleton_append] at hjoined
        exact (Alike.refl _).append ((Alike.refl _).append hjoined)
      case isFalse hmark =>
        have hnext : AreBetween (combiningClass c) (c :: between) := by
          have hle : ∀ e ∈ between, combiningClass e ≤ combiningClass c := fun e he => by
            have hmark := (hbetween.mark e he).2
            omega
          exact {
            mark := List.forall_mem_cons.mpr
              ⟨by omega, fun e he => ⟨(hbetween.mark e he).1, hle e he⟩⟩
            last := by
              intro d hd
              obtain rfl := Option.some.inj hd
              exact List.forall_mem_cons.mpr ⟨Nat.le_refl _, hle⟩ }
        have hjoined := ih letter hcs (areLetters_cons.mpr ⟨hc, hletters⟩) hnext horder
        rw [List.reverse_cons, List.append_assoc, List.singleton_append] at hjoined
        exact hjoined

/-- What a text in order is joined to has its letters. -/
lemma alike_joinAll (hcs : AreLetters cs) (horder : InOrder most cs) :
    Alike ((joinAll cs).flatMap letters) cs := by
  induction cs generalizing most with
  | nil => exact .refl _
  | cons c cs ih =>
    obtain ⟨hc, hcs⟩ := areLetters_cons.mp hcs
    obtain ⟨-, horder⟩ := inOrder_cons.mp horder
    rw [joinAll_cons]
    split
    case isTrue =>
      have hjoined := alike_joinTo c hcs areLetters_nil areBetween_nil horder
      rw [hc, List.reverse_nil, List.nil_append, List.singleton_append] at hjoined
      exact hjoined
    case isFalse =>
      rw [List.flatMap_cons, hc]
      exact (Alike.refl [c]).append (ih hcs horder)

/-! ### The composed form -/

lemma joinTo_of_lt (hcs : ∀ c ∈ cs, c.toNat < 128) (c : Char) : joinTo c [] cs = c :: cs := by
  induction cs generalizing c with
  | nil => rfl
  | cons d cs ih =>
    obtain ⟨hd, hcs⟩ := List.forall_mem_cons.mp hcs
    have hclass : combiningClass d = 0 := if_pos hd
    rw [joinTo_cons, reached_nil, whole?_of_lt hd]
    dsimp only
    rw [if_pos hclass, ih hcs]
    rfl

/-- The composed form of ASCII is no case of its own. -/
lemma composed_eq (cs : List Char) : composed cs = joinAll (orderMarks (cs.flatMap (parts 4))) := by
  unfold composed
  split
  case isTrue hall =>
    have hascii : ∀ c ∈ cs, c.toNat < 128 := by simpa using hall
    have hclass : ∀ c ∈ cs, combiningClass c = 0 := fun c hc => if_pos (hascii c hc)
    have hparts : cs.flatMap (parts 4) = cs := by
      have hone : cs.flatMap (parts 4) = cs.flatMap fun c => [c] := List.flatMap_congr fun c hc =>
        parts_of_halves?_eq_none (halves?_eq_none.mpr fun p hp hwhole => by
          have hle := (Composite.isSound_of_mem hp).whole_le
          have hlt := hascii c hc
          omega) 4
      rw [hone, List.flatMap_singleton']
    rw [hparts, orderMarks_of_inOrder (inOrder_of_forall hclass)]
    cases cs with
    | nil => rfl
    | cons c cs =>
      rw [joinAll_cons, if_pos (hclass c List.mem_cons_self),
        joinTo_of_lt (List.forall_mem_cons.mp hascii).2]
  case isFalse => rfl

/-- A text is composed from its letters. -/
lemma composed_eq_joinAll (cs : List Char) :
    composed cs = joinAll (orderMarks (cs.flatMap letters)) := by
  have hletters : cs.flatMap letters = (cs.flatMap (parts 4)).flatMap jamo :=
    List.flatMap_assoc.symm
  rw [composed_eq, hletters, orderMarks_flatMap_jamo, joinAll_flatMap_jamo]

/-- A composed text is composed already. -/
theorem composed_composed (cs : List Char) : composed (composed cs) = composed cs := by
  have hletters : AreLetters (orderMarks (cs.flatMap letters)) := by
    intro c hc
    have hmem := (orderMarks_perm _).mem_iff.mp hc
    obtain ⟨d, -, hd⟩ := List.mem_flatMap.mp hmem
    exact letters_of_mem hd
  have horder := inOrder_orderMarks (cs.flatMap letters)
  rw [composed_eq_joinAll (composed cs), composed_eq_joinAll cs,
    (alike_joinAll hletters horder).orderMarks_eq, orderMarks_of_inOrder horder]

/-! ### Texts with dots -/

lemma reached_dot (letter : Char) (between : List Char) : reached letter between '.' = none :=
  reached_eq_none (whole?_of_lt (by decide)) between

lemma dot_reached (between : List Char) (c : Char) : reached '.' between c = none := by
  refine reached_eq_none (whole?_eq_none ?_ fun p hp hfirst => ?_) between
  · rw [syllable?, if_neg (by simp), if_neg (by simp)]
  · exact absurd hfirst (Composite.isSound_of_mem hp).first_ne

lemma joinTo_dot (between cs : List Char) :
    joinTo '.' between cs = '.' :: (between.reverse ++ joinAll cs) := by
  induction cs generalizing between with
  | nil => simp [joinTo, joinAll]
  | cons c cs ih =>
    rw [joinTo_cons, dot_reached, joinAll_cons]
    dsimp only
    split
    · rfl
    · rw [ih, List.reverse_cons, List.append_assoc, List.singleton_append]

lemma joinTo_append_dot (letter : Char) (between cs ds : List Char) :
    joinTo letter between (cs ++ '.' :: ds) = joinTo letter between cs ++ '.' :: joinAll ds := by
  induction cs generalizing letter between with
  | nil =>
    have hclass : combiningClass '.' = 0 := rfl
    rw [List.nil_append, joinTo_cons, reached_dot]
    dsimp only
    rw [if_pos hclass, joinTo_dot, List.reverse_nil, List.nil_append]
    rfl
  | cons c cs ih =>
    rw [List.cons_append, joinTo_cons, joinTo_cons]
    split
    · exact ih _ _
    · split
      · rw [ih, List.cons_append, List.append_assoc]
      · exact ih _ _

lemma joinAll_append_dot (cs ds : List Char) :
    joinAll (cs ++ '.' :: ds) = joinAll cs ++ '.' :: joinAll ds := by
  induction cs with
  | nil =>
    have hclass : combiningClass '.' = 0 := rfl
    rw [List.nil_append, joinAll_cons, if_pos hclass, joinTo_dot]
    rfl
  | cons c cs ih =>
    rw [List.cons_append, joinAll_cons, joinAll_cons]
    split
    · exact joinTo_append_dot c [] cs ds
    · rw [ih, List.cons_append]

/-- What stands before a dot is composed apart from what stands behind it. -/
theorem composed_append_dot (cs ds : List Char) :
    composed (cs ++ '.' :: ds) = composed cs ++ '.' :: composed ds := by
  have hclass : combiningClass '.' = 0 := rfl
  have hdot : parts 4 '.' = ['.'] := by
    refine parts_of_halves?_eq_none (halves?_eq_none.mpr fun p hp hwhole => ?_) 4
    have hle := (Composite.isSound_of_mem hp).whole_le
    rw [hwhole] at hle
    exact absurd hle (by decide)
  rw [composed_eq, composed_eq, composed_eq, List.flatMap_append, List.flatMap_cons, hdot,
    List.singleton_append, orderMarks_append_cons hclass, joinAll_append_dot]

/-! ### Characters of the composed form -/

section Closed

variable {p : Char → Prop} (hhalves : ∀ {c a b}, halves? c = some (a, b) → p c → p a ∧ p b)
  (hwhole : ∀ {a b c}, whole? a b = some c → p a → p b → p c)

include hhalves in
lemma forall_mem_parts (depth : Nat) (hc : p c) : ∀ d ∈ parts depth c, p d := by
  induction depth generalizing c with
  | zero => exact List.forall_mem_singleton.mpr hc
  | succ depth ih =>
    rw [parts]
    split
    case h_1 a b hab =>
      obtain ⟨ha, hb⟩ := hhalves hab hc
      exact List.forall_mem_append.mpr ⟨ih ha, ih hb⟩
    case h_2 => exact List.forall_mem_singleton.mpr hc

include hwhole in
lemma forall_mem_joinTo (hletter : p letter) (hbetween : ∀ c ∈ between, p c) (hcs : ∀ c ∈ cs, p c) :
    ∀ c ∈ joinTo letter between cs, p c := by
  induction cs generalizing letter between with
  | nil =>
    exact List.forall_mem_cons.mpr ⟨hletter, fun c hc => hbetween c (List.mem_reverse.mp hc)⟩
  | cons c cs ih =>
    obtain ⟨hc, hcs⟩ := List.forall_mem_cons.mp hcs
    rw [joinTo_cons]
    split
    case h_1 d hreached => exact ih (hwhole (whole?_of_reached hreached) hletter hc) hbetween hcs
    case h_2 =>
      split
      · exact List.forall_mem_cons.mpr ⟨hletter, List.forall_mem_append.mpr
          ⟨fun d hd => hbetween d (List.mem_reverse.mp hd), ih hc (by simp) hcs⟩⟩
      · exact ih hletter (List.forall_mem_cons.mpr ⟨hc, hbetween⟩) hcs

include hhalves hwhole in
/-- What is kept by taking characters apart and joining them holds of the composed form. -/
lemma forall_mem_composed (hcs : ∀ c ∈ cs, p c) : ∀ c ∈ composed cs, p c := by
  have hjoin : ∀ ds, (∀ d ∈ ds, p d) → ∀ d ∈ joinAll ds, p d := by
    intro ds
    induction ds with
    | nil => exact fun _ d hd => nomatch hd
    | cons d ds ih =>
      intro hds
      obtain ⟨hd, hds⟩ := List.forall_mem_cons.mp hds
      rw [joinAll_cons]
      split
      · exact forall_mem_joinTo hwhole hd (by simp) hds
      · exact List.forall_mem_cons.mpr ⟨hd, ih hds⟩
  rw [composed_eq]
  refine hjoin _ fun d hd => ?_
  obtain ⟨c, hc, hd⟩ := List.mem_flatMap.mp ((orderMarks_perm _).mem_iff.mp hd)
  exact forall_mem_parts hhalves 4 (hcs c hc) d hd

end Closed

/-- Composition makes no dots. -/
lemma dot_notMem_composed (h : '.' ∉ cs) : '.' ∉ composed cs := by
  have hne : ∀ {n : Nat}, n.isValidChar → n ≠ '.'.toNat → Char.ofNat n ≠ '.' := by
    intro n hvalid hn heq
    rw [← heq, toNat_ofNat hvalid] at hn
    exact hn rfl
  have hdot : '.'.toNat < 128 := by decide
  have hall : ∀ c ∈ composed cs, c ≠ '.' :=
    forall_mem_composed ?_ ?_ fun c hc heq => h (heq ▸ hc)
  · exact fun hmem => hall '.' hmem rfl
  · rintro c a b hab -
    obtain ⟨p, hp, -, rfl, rfl⟩ := halves?_eq_some hab
    have hsound := Composite.isSound_of_mem hp
    exact ⟨hne hsound.first_valid hsound.first_ne,
      hne hsound.second_valid (by have hle := hsound.second_le; omega)⟩
  · rintro a b d hab - -
    rcases whole?_eq_some hab with ⟨n, hn, rfl⟩ | ⟨p, hp, -, -, rfl⟩
    · rintro heq
      have hlow := (isSyllable_of_syllable? hn).1
      rw [heq] at hlow
      exact absurd hlow (by decide)
    · have hsound := Composite.isSound_of_mem hp
      exact hne hsound.whole_valid (by have hle := hsound.whole_le; omega)

lemma composed_intercalate (rows : List (List Char)) :
    composed (List.intercalate ['.'] rows) = List.intercalate ['.'] (rows.map composed) := by
  induction rows with
  | nil => rfl
  | cons row rows ih =>
    cases rows with
    | nil => simp
    | cons row' rows =>
      rw [List.map_cons] at ih
      rw [List.intercalate_cons_cons, List.append_assoc, List.singleton_append, composed_append_dot,
        ih, List.map_cons, List.map_cons, List.intercalate_cons_cons, List.append_assoc,
        List.singleton_append]

lemma notMem_of_mem_splitOn {mark : Char} (h : ds ∈ cs.splitOn mark) : mark ∉ ds := by
  induction cs generalizing ds with
  | nil => simp_all
  | cons c cs ih =>
    rw [List.splitOn_cons_eq_if_modifyHead] at h
    split at h
    case isTrue =>
      rcases List.mem_cons.mp h with rfl | h
      · exact List.not_mem_nil
      · exact ih h
    case isFalse hne =>
      obtain ⟨row, rows, hrows⟩ := List.exists_cons_of_ne_nil (List.splitOn_ne_nil mark cs)
      rw [hrows] at h ih
      rcases List.mem_cons.mp h with rfl | h
      · rw [List.mem_cons, not_or]
        exact ⟨fun hmark => hne (by simp [hmark]), ih List.mem_cons_self⟩
      · exact ih (List.mem_cons_of_mem _ h)

/-- Each part of a composed text between dots is composed. -/
theorem composed_of_mem_splitOn (h : composed cs = cs) (hds : ds ∈ cs.splitOn '.') :
    composed ds = ds := by
  have hrows : ∀ row ∈ cs.splitOn '.', '.' ∉ row := fun row => notMem_of_mem_splitOn
  have hcomposed : ∀ row ∈ (cs.splitOn '.').map composed, '.' ∉ row := by
    intro row hrow
    obtain ⟨row, hmem, rfl⟩ := List.mem_map.mp hrow
    exact dot_notMem_composed (hrows row hmem)
  have hne := List.splitOn_ne_nil '.' cs
  have hcs : List.intercalate ['.'] (cs.splitOn '.') = cs := List.intercalate_splitOn '.'
  rw [← hcs, composed_intercalate] at h
  have hsplit := congrArg (List.splitOn '.') h
  rw [List.splitOn_intercalate '.' hcomposed (by simp),
    List.splitOn_intercalate '.' hrows hne] at hsplit
  exact List.map_inj_left.mp (hsplit.trans (List.map_id _).symm) ds hds

end GroundLink.Text
