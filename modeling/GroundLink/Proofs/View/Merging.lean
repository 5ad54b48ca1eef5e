import GroundLink.View.Merge
import Mathlib.Data.List.Induction
import Mathlib.Data.List.Nodup

/-!
# The algebra of merges

Items that are gathered one after another are kept one to a name. A gathered list is known by the
order in which the names first appear and by the last item under each name, and from this come the
laws of merging: it is associative, the same update merged twice counts once, and an entry that
names nothing twice absorbs itself.
-/

namespace GroundLink.View

open Model

variable {α : Type} {name : α → String}

/-! ### Items by name -/

/-- A list with one item to a name is known by its names and by what is found under each of them. -/
lemma eq_of_find? {xs ys : List α} (hdistinct : (xs.map name).Nodup)
    (hnames : xs.map name = ys.map name)
    (hfind : ∀ n, xs.find? (name · = n) = ys.find? (name · = n)) : xs = ys := by
  induction xs generalizing ys with
  | nil => exact (List.map_eq_nil_iff.mp hnames.symm).symm
  | cons x xs ih =>
    cases ys with
    | nil => cases hnames
    | cons y ys =>
      rw [List.map_cons, List.nodup_cons] at hdistinct
      obtain ⟨hx, hdistinct⟩ := hdistinct
      obtain ⟨hname, htail⟩ := List.cons.inj hnames
      have hxy : x = y := by simpa [hname] using hfind (name y)
      subst hxy
      congr 1
      refine ih hdistinct htail fun n => ?_
      by_cases hn : name x = n
      · have hnone : ∀ zs : List α, zs.map name = xs.map name → zs.find? (name · = n) = none := by
          intro zs hzs
          rw [← hzs, List.mem_map, not_exists] at hx
          rw [List.find?_eq_none]
          intro z hz heq
          exact hx z ⟨hz, (of_decide_eq_true heq).trans hn.symm⟩
        rw [hnone xs rfl, hnone ys htail.symm]
      · simpa [hn] using hfind n

/-- Where no two items have the same name, each of them is found under its own. -/
lemma find?_eq_some_iff_mem {xs : List α} (hdistinct : (xs.map name).Nodup) {x : α} {n : String} :
    xs.find? (name · = n) = some x ↔ x ∈ xs ∧ name x = n := by
  constructor
  · intro hfind
    have hname := List.find?_some hfind
    exact ⟨List.mem_of_find?_eq_some hfind, of_decide_eq_true hname⟩
  · rintro ⟨hx, rfl⟩
    cases hfind : xs.find? (name · = name x) with
    | none => exact absurd (decide_eq_true rfl) (List.find?_eq_none.mp hfind x hx)
    | some y =>
      have hname := List.find?_some hfind
      have hy := List.mem_of_find?_eq_some hfind
      exact congrArg some (List.inj_on_of_nodup_map hdistinct hy hx (of_decide_eq_true hname))

@[simp] lemma names_put (x : α) (ys : List α) :
    (put name x ys).map name
      = if name x ∈ ys.map name then ys.map name else ys.map name ++ [name x] := by
  induction ys with
  | nil => simp
  | cons y ys ih =>
    by_cases h : name y = name x
    · simp [put, h]
    · simp only [put, if_neg h, List.map_cons, ih, List.mem_cons, Ne.symm h, false_or]
      split <;> rfl

@[simp] lemma find?_put (x : α) (ys : List α) (n : String) :
    (put name x ys).find? (name · = n)
      = if name x = n then some x else ys.find? (name · = n) := by
  induction ys with
  | nil => by_cases h : name x = n <;> simp [h]
  | cons y ys ih =>
    by_cases hy : name y = name x
    · by_cases h : name x = n <;> simp [put, hy, h]
    · by_cases h : name x = n
      · have hyn : name y ≠ n := fun hyn => hy (hyn.trans h.symm)
        simp [put, hyn, ih, h]
      · simp [put, hy, List.find?_cons, ih, h]

/-- An item is put where the first one with its name is. -/
lemma set_eq_put {x : α} {ys : List α} {i : Nat}
    (h : ys.findIdx? (name · = name x) = some i) : ys.set i x = put name x ys := by
  induction ys generalizing i with
  | nil => cases h
  | cons y ys ih =>
    by_cases hy : name y = name x
    · obtain rfl : 0 = i := by simpa [List.findIdx?_cons, hy] using h
      simp [put, hy]
    · obtain ⟨j, hj, rfl⟩ : ∃ j, ys.findIdx? (name · = name x) = some j ∧ j + 1 = i := by
        simpa [List.findIdx?_cons, hy] using h
      rw [put, if_neg hy, List.set_cons_succ, ih hj]

/-- An item whose name is new is put at the end. -/
lemma append_eq_put {x : α} {ys : List α} (h : name x ∉ ys.map name) :
    ys ++ [x] = put name x ys := by
  induction ys with
  | nil => rfl
  | cons y ys ih =>
    rw [List.map_cons, List.mem_cons, not_or] at h
    rw [put, if_neg (Ne.symm h.1), List.cons_append, ih h.2]

/-! ### Gathering -/

/-- The items of a list, one to a name. -/
def gather (name : α → String) (xs : List α) : List α :=
  xs.foldl (fun gathered x => put name x gathered) []

lemma mergeNamed_eq (xs ys : List α) : mergeNamed name xs ys = gather name (xs ++ ys) := rfl

@[simp] lemma gather_nil : gather name [] = [] := rfl

lemma gather_concat (xs : List α) (x : α) :
    gather name (xs ++ [x]) = put name x (gather name xs) := by
  simp [gather]

lemma eraseDups_concat (ns : List String) (n : String) :
    (ns ++ [n]).eraseDups = if n ∈ ns then ns.eraseDups else ns.eraseDups ++ [n] := by
  by_cases h : n ∈ ns
  · simp [List.eraseDups_append, List.removeAll, h]
  · simp [List.eraseDups_append, List.removeAll, h, List.eraseDups_cons]

/-- Names keep the places of their first appearance. -/
theorem names_gather (xs : List α) : (gather name xs).map name = (xs.map name).eraseDups := by
  induction xs using List.reverseRecOn with
  | nil => rfl
  | append_singleton xs x ih =>
    rw [gather_concat, names_put, ih, List.map_append, List.map_singleton, eraseDups_concat]
    simp only [List.mem_eraseDups]

/-- Of the items with a name, the last one counts. -/
theorem find?_gather (xs : List α) (n : String) :
    (gather name xs).find? (name · = n) = xs.reverse.find? (name · = n) := by
  induction xs using List.reverseRecOn with
  | nil => rfl
  | append_singleton xs x ih =>
    rw [gather_concat, find?_put, ih, List.reverse_append, List.reverse_singleton,
      List.singleton_append, List.find?_cons]
    by_cases h : name x = n <;> simp [h]

lemma nodup_eraseDups (ns : List String) : ns.eraseDups.Nodup := by
  induction ns using List.reverseRecOn with
  | nil => exact List.nodup_nil
  | append_singleton ns n ih =>
    rw [eraseDups_concat]
    split
    case isTrue => exact ih
    case isFalse h =>
      refine List.nodup_append.mpr ⟨ih, List.nodup_singleton n, ?_⟩
      rintro m hm _ hn rfl
      rw [List.mem_singleton] at hn
      exact h (hn ▸ List.mem_eraseDups.mp hm)

/-- No name is gathered twice. -/
theorem nodup_gather (xs : List α) : ((gather name xs).map name).Nodup := by
  rw [names_gather]
  exact nodup_eraseDups _

/-- What is gathered depends on the order of the names and on the last items alone. -/
lemma gather_congr {xs ys : List α}
    (hnames : (xs.map name).eraseDups = (ys.map name).eraseDups)
    (hlast : ∀ n, xs.reverse.find? (name · = n) = ys.reverse.find? (name · = n)) :
    gather name xs = gather name ys := by
  refine eq_of_find? (nodup_gather xs) ?_ fun n => ?_
  · rw [names_gather, names_gather, hnames]
  · rw [find?_gather, find?_gather, hlast]

/-- A list that names nothing twice is gathered as it is. -/
theorem gather_eq_self {xs : List α} (h : (xs.map name).Nodup) : gather name xs = xs := by
  induction xs using List.reverseRecOn with
  | nil => rfl
  | append_singleton xs x ih =>
    rw [List.map_append, List.map_singleton, List.nodup_append] at h
    obtain ⟨hxs, -, hx⟩ := h
    rw [gather_concat, ih hxs, ← append_eq_put]
    exact fun hmem => hx _ hmem _ (List.mem_singleton_self _) rfl

lemma find?_reverse_gather (xs : List α) (n : String) :
    (gather name xs).reverse.find? (name · = n) = xs.reverse.find? (name · = n) := by
  rw [← find?_gather (gather name xs), gather_eq_self (nodup_gather xs), find?_gather]

lemma eraseDups_append_eraseDups (ms ns : List String) :
    (ms ++ ns.eraseDups).eraseDups = (ms ++ ns).eraseDups := by
  induction ns using List.reverseRecOn with
  | nil => rfl
  | append_singleton ns n ih =>
    rw [← List.append_assoc, eraseDups_concat, eraseDups_concat]
    by_cases hn : n ∈ ns
    · rw [if_pos hn, ih, if_pos (List.mem_append_right _ hn)]
    · rw [if_neg hn, ← List.append_assoc, eraseDups_concat, ih]
      simp only [List.mem_append, List.mem_eraseDups]

lemma eraseDups_eraseDups_append (ms ns : List String) :
    (ms.eraseDups ++ ns).eraseDups = (ms ++ ns).eraseDups := by
  induction ns using List.reverseRecOn with
  | nil => simpa using eraseDups_append_eraseDups [] ms
  | append_singleton ns n ih =>
    rw [← List.append_assoc, eraseDups_concat, ih, ← List.append_assoc, eraseDups_concat]
    simp only [List.mem_append, List.mem_eraseDups]

lemma eraseDups_append_of_subset {ms ns : List String} (h : ns ⊆ ms) :
    (ms ++ ns).eraseDups = ms.eraseDups := by
  induction ns using List.reverseRecOn with
  | nil => rw [List.append_nil]
  | append_singleton ns n ih =>
    obtain ⟨hns, hn⟩ := List.append_subset.mp h
    rw [← List.append_assoc, eraseDups_concat, if_pos, ih hns]
    exact List.mem_append_left _ (hn (List.mem_singleton_self n))

/-- Items may be gathered before others are put behind them. -/
theorem gather_gather_append (xs ys : List α) :
    gather name (gather name xs ++ ys) = gather name (xs ++ ys) := by
  refine gather_congr ?_ fun n => ?_
  · rw [List.map_append, names_gather, eraseDups_eraseDups_append, List.map_append]
  · rw [List.reverse_append, List.find?_append, find?_reverse_gather, List.reverse_append,
      List.find?_append]

/-- Items may be gathered before they are put behind others. -/
theorem gather_append_gather (xs ys : List α) :
    gather name (xs ++ gather name ys) = gather name (xs ++ ys) := by
  refine gather_congr ?_ fun n => ?_
  · rw [List.map_append, names_gather, eraseDups_append_eraseDups, List.map_append]
  · rw [List.reverse_append, List.find?_append, find?_reverse_gather, List.reverse_append,
      List.find?_append]

/-- Items that are gathered twice in succession count once. -/
theorem gather_append_append (xs ys : List α) :
    gather name (xs ++ ys ++ ys) = gather name (xs ++ ys) := by
  refine gather_congr ?_ fun n => ?_
  · rw [List.map_append]
    exact eraseDups_append_of_subset (List.map_subset name (List.subset_append_right xs ys))
  · rw [List.reverse_append, List.find?_append, List.reverse_append, List.find?_append]
    cases ys.reverse.find? (name · = n) <;> rfl

/-! ### Merging -/

theorem mergeNamed_assoc (xs ys zs : List α) :
    mergeNamed name (mergeNamed name xs ys) zs = mergeNamed name xs (mergeNamed name ys zs) := by
  simp only [mergeNamed_eq, gather_gather_append, gather_append_gather, List.append_assoc]

/-- Items that are merged a second time change nothing. -/
theorem mergeNamed_again (xs ys : List α) :
    mergeNamed name (mergeNamed name xs ys) ys = mergeNamed name xs ys := by
  simp only [mergeNamed_eq, gather_gather_append, gather_append_append]

theorem mergeNamed_self {xs : List α} (h : (xs.map name).Nodup) :
    mergeNamed name xs xs = xs := by
  have hagain : gather name ([] ++ xs ++ xs) = gather name ([] ++ xs) :=
    gather_append_append [] xs
  rw [mergeNamed_eq]
  simpa [gather_eq_self h] using hagain

lemma isSome_mergeAssignments (a b : Option (List Assignment)) :
    (mergeAssignments a b).isSome = (a.isSome || b.isSome) := by
  cases a <;> cases b <;> rfl

lemma getD_mergeAssignments (a b : Option (List Assignment)) :
    (mergeAssignments a b).getD [] = mergeNamed Assignment.name (a.getD []) (b.getD []) := by
  cases a <;> cases b <;> rfl

/-- Assignments are known by whether there are any, and by what they are. -/
lemma assignments_ext {a b : Option (List Assignment)} (hsome : a.isSome = b.isSome)
    (hget : a.getD [] = b.getD []) : a = b := by
  cases a with
  | none => cases b with
    | none => rfl
    | some ys => cases hsome
  | some xs => cases b with
    | none => cases hsome
    | some ys => exact congrArg some hget

theorem mergeAssignments_assoc (a b c : Option (List Assignment)) :
    mergeAssignments (mergeAssignments a b) c = mergeAssignments a (mergeAssignments b c) := by
  apply assignments_ext
  · simp only [isSome_mergeAssignments, Bool.or_assoc]
  · simp only [getD_mergeAssignments, mergeNamed_assoc]

theorem mergeAssignments_again (a b : Option (List Assignment)) :
    mergeAssignments (mergeAssignments a b) b = mergeAssignments a b := by
  apply assignments_ext
  · simp only [isSome_mergeAssignments, Bool.or_assoc, Bool.or_self]
  · simp only [getD_mergeAssignments, mergeNamed_again]

/-- Partial updates may be combined before they are merged into an entry. -/
theorem merge_assoc (a b c : CommandEntry) : merge (merge a b) c = merge a (merge b c) := by
  simp only [merge, mergeNamed_assoc, mergeAssignments_assoc, CommandEntry.mk.injEq, true_and,
    and_true]
  refine ⟨?_, ?_, ?_⟩
  · cases c.aliases <;> rfl
  · cases c.sequenceNumber <;> rfl
  · cases c.commandId <;> rfl

/-- An update that is merged a second time changes nothing. -/
theorem merge_again (a b : CommandEntry) : merge (merge a b) b = merge a b := by
  simp only [merge, mergeNamed_again, mergeAssignments_again, CommandEntry.mk.injEq, true_and,
    and_true]
  refine ⟨?_, ?_, ?_⟩
  · cases b.aliases <;> rfl
  · cases b.sequenceNumber <;> rfl
  · cases b.commandId <;> rfl

end GroundLink.View

namespace GroundLink.Model.CommandEntry

/-- No attribute and no assignment is named twice. -/
structure NamesOnce (e : CommandEntry) : Prop where
  attributes : (e.attributes.map (·.name)).Nodup
  assignments : ∀ xs ∈ e.assignments, (xs.map (·.name)).Nodup

end GroundLink.Model.CommandEntry

namespace GroundLink.View

open Model

lemma namesOnce_merge (a b : CommandEntry) : (merge a b).NamesOnce where
  attributes := nodup_gather _
  assignments := by
    intro xs hxs
    have hget : xs
        = mergeNamed Assignment.name (a.assignments.getD []) (b.assignments.getD []) := by
      rw [← getD_mergeAssignments]
      exact (congrArg (Option.getD · []) hxs).symm
    rw [hget]
    exact nodup_gather _

/-- An entry that names nothing twice absorbs itself. -/
theorem merge_self {a : CommandEntry} (h : a.NamesOnce) : merge a a = a := by
  have hassignments : mergeAssignments a.assignments a.assignments = a.assignments := by
    cases ha : a.assignments with
    | none => rfl
    | some xs => exact congrArg some (mergeNamed_self (h.assignments xs ha))
  have hor : ∀ {β : Type} (o : Option β), (o <|> o) = o := by
    intro β o
    cases o <;> rfl
  simp only [merge, mergeNamed_self h.attributes, hassignments, hor]

end GroundLink.View
