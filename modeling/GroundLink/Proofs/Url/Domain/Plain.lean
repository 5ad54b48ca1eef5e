import GroundLink.Proofs.Result
import GroundLink.Proofs.Text.Table
import GroundLink.Url.Domain

/-!
# Plain names

A name in lower-case ASCII without Punycode is written as it is.
-/

namespace GroundLink.Url.Domain

open Text

variable {cs ds : List Char}

/-! ### Rows of texts -/

lemma intercalate_cons (mark : Char) (cs : List Char) (rest : List (List Char)) :
    List.intercalate [mark] (cs :: rest) = cs ++ rest.flatMap (mark :: ·) := by
  induction rest generalizing cs with
  | nil => simp [List.intercalate]
  | cons ds rest ih =>
    rw [List.flatMap_cons, List.cons_append, ← ih ds]
    simp [List.intercalate]

lemma mem_intercalate {mark c : Char} {rows : List (List Char)} :
    c ∈ List.intercalate [mark] rows → c = mark ∨ ∃ row ∈ rows, c ∈ row := by
  cases rows with
  | nil => exact nofun
  | cons row rows =>
    rw [intercalate_cons, List.mem_append, List.mem_flatMap]
    rintro (hc | ⟨row', hrow, hc⟩)
    · exact .inr ⟨row, List.mem_cons_self, hc⟩
    · exact (List.mem_cons.mp hc).imp_right fun hc => ⟨row', List.mem_cons_of_mem _ hrow, hc⟩

lemma mem_of_mem_splitOn {mark c : Char} {row : List Char} (hrow : row ∈ cs.splitOn mark)
    (hc : c ∈ row) : c ∈ cs := by
  have hcs : List.intercalate [mark] (cs.splitOn mark) = cs := List.intercalate_splitOn mark
  generalize cs.splitOn mark = rows at hrow hcs
  obtain ⟨row', rows, rfl⟩ := List.exists_cons_of_ne_nil (List.ne_nil_of_mem hrow)
  rw [← hcs, intercalate_cons, List.mem_append, List.mem_flatMap]
  rcases List.mem_cons.mp hrow with rfl | hrow
  · exact .inl hc
  · exact .inr ⟨row, hrow, List.mem_cons_of_mem _ hc⟩

/-! ### What is read -/

lemma labels?_eq_some {labels : List Label} : labels? cs = some labels ↔ ∃ read,
    readings? cs = some read ∧ (∀ c ∈ composed read, isForbidden c = false)
      ∧ ((composed read).splitOn '.').mapM Label.read? = some labels := by
  rw [labels?, Option.bind_eq_bind, Option.bind_eq_some_iff]
  refine exists_congr fun read => and_congr_right fun _ => ?_
  dsimp only
  split
  case isTrue hforbidden =>
    obtain ⟨c, hc, hforbidden⟩ := List.any_eq_true.mp hforbidden
    have hnone : ¬∀ c ∈ composed read, isForbidden c = false := fun h => by
      rw [h c hc] at hforbidden
      cases hforbidden
    simp [hnone]
  case isFalse hallowed => simp_all

lemma ofChars?_eq_some : Domain.ofChars? cs = some ds ↔ ∃ labels, labels? cs = some labels
    ∧ agree labels = true ∧ List.intercalate ['.'] (labels.map (·.written)) = ds := by
  rw [Domain.ofChars?, Option.bind_eq_bind, Option.bind_eq_some_iff]
  refine exists_congr fun labels => and_congr_right fun _ => ?_
  split <;> simp_all

/-! ### Plain names -/

/-- A name that stands for itself, label by label. -/
structure IsPlain (cs : List Char) : Prop where
  chars : ∀ c ∈ cs, c.toNat < 128 ∧ c.toLower = c ∧ isForbidden c = false
  labels : ∀ l ∈ cs.splitOn '.', Label.punycodeMark.isPrefixOf l = false

/-- ASCII is written from left to right. -/
lemma isRightToLeft_of_lt {c : Char} (h : c.toNat < 128) : isRightToLeft c = false := by
  by_contra hright
  have hclass : ∃ d, (d = Direction.rightToLeft ∨ d = .arabicDigit)
      ∧ Run.classOf? directionRuns c.toNat = some d := by
    cases hd : Run.classOf? directionRuns c.toNat with
    | none => simp [isRightToLeft, direction, hd] at hright
    | some d =>
      simp only [isRightToLeft, direction, hd, Option.getD_some, Bool.not_eq_false,
        Bool.or_eq_true, decide_eq_true_eq] at hright
      exact ⟨d, hright, rfl⟩
  obtain ⟨d, hd, hclass⟩ := hclass
  obtain ⟨p, hp, hpd, hcovers⟩ := Run.exists_of_classOf? hclass
  -- The classes of letters and digits from right to left are the first two of the table.
  rcases List.mem_cons.mp hp with rfl | hp
  · rw [Run.covers_readAll_eq_false (by dsimp only; repeat first | exact .nil | apply Spelled.cons)
      (by decide +kernel) h] at hcovers
    cases hcovers
  rcases List.mem_cons.mp hp with rfl | hp
  · rw [Run.covers_readAll_eq_false (by dsimp only; repeat first | exact .nil | apply Spelled.cons)
      (by decide +kernel) h] at hcovers
    cases hcovers
  · have hmem := hpd ▸ List.mem_map_of_mem (f := Prod.fst) hp
    revert hmem
    rcases hd with rfl | rfl <;> decide +kernel

/-- A text of characters that stand for themselves is read as itself. -/
lemma readings?_eq_self (h : ∀ c ∈ cs, reading? c = some [c]) : readings? cs = some cs := by
  have hmap : cs.mapM reading? = some (cs.map ([·])) := by
    rw [mapM_eq_some]
    exact List.forall₂_map_right_iff.mpr (List.forall₂_same.mpr h)
  rw [readings?, hmap, Option.map_some, ← List.flatMap_def, List.flatMap_singleton']

/-- A text from left to right agrees with every other. -/
lemma agree_of_forall {labels : List Label}
    (h : ∀ label ∈ labels, ∀ c ∈ label.text, c.toNat < 128) : agree labels = true := by
  have hnone : labels.any (·.text.any isRightToLeft) = false := by
    rw [List.any_eq_false]
    intro label hlabel
    rw [Bool.not_eq_true, List.any_eq_false]
    intro c hc
    rw [isRightToLeft_of_lt (h label hlabel c hc)]
    exact Bool.false_ne_true
  rw [agree, hnone]
  rfl

/-- A plain name is written as it is. -/
lemma IsPlain.ofChars? (h : IsPlain cs) : Domain.ofChars? cs = some cs := by
  have hread : readings? cs = some cs := readings?_eq_self fun c hc => by
    rw [reading?_of_lt (h.chars c hc).1, (h.chars c hc).2.1]
  have hcomposed : composed cs = cs := composed_eq_self fun c hc => (h.chars c hc).1
  have hascii : ∀ l ∈ cs.splitOn '.', ∀ c ∈ l, c.toNat < 128 := fun l hl c hc =>
    (h.chars c (mem_of_mem_splitOn hl hc)).1
  have hlabels : (cs.splitOn '.').mapM Label.read?
      = some ((cs.splitOn '.').map fun l => ⟨l, l⟩) := by
    rw [mapM_eq_some]
    refine List.forall₂_map_right_iff.mpr (List.forall₂_same.mpr fun l hl => ?_)
    have hall : l.all isAscii = true :=
      List.all_eq_true.mpr fun c hc => decide_eq_true (hascii l hl c hc)
    rw [Label.read?, h.labels l hl, hall]
    rfl
  have hagree : agree ((cs.splitOn '.').map fun l => ⟨l, l⟩) = true := by
    refine agree_of_forall fun label hlabel => ?_
    obtain ⟨l, hl, rfl⟩ := List.mem_map.mp hlabel
    exact hascii l hl
  refine ofChars?_eq_some.mpr ⟨_, labels?_eq_some.mpr ⟨cs, hread, ?_, ?_⟩, hagree, ?_⟩
  · rw [hcomposed]
    exact fun c hc => (h.chars c hc).2.2
  · rw [hcomposed, hlabels]
  · rw [List.map_map]
    exact (congrArg _ (List.map_id _)).trans (List.intercalate_splitOn '.')

end GroundLink.Url.Domain
