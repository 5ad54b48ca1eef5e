import GroundLink.Model.Parameter
import GroundLink.Proofs.Schema.Fields
import Mathlib.Data.List.Nodup

/-!
# Mappings

A mapping lists its numbers in their order, each of them once, and every mapping that is read is one
of this kind. It is known by the name of each number. Of two mappings that are put over one another
the upper one counts for each number that it has.
-/

namespace GroundLink.Model

open Schema

namespace Mapping

/-- The numbers ascend, so that each of them has one name. -/
def Ordered (m : Mapping) : Prop := m.Pairwise (·.1 < ·.1)

instance (m : Mapping) : Decidable m.Ordered := inferInstanceAs (Decidable (List.Pairwise _ _))

variable {m m' known new : Mapping} {id k : UInt32} {name : ObjectName}

@[simp] lemma ordered_nil : Ordered [] := .nil

lemma ordered_cons {p : UInt32 × ObjectName} :
    Ordered (p :: m) ↔ (∀ q ∈ m, p.1 < q.1) ∧ m.Ordered :=
  List.pairwise_cons

/-! ### Names -/

@[simp] lemma find?_nil (k : UInt32) : find? k [] = none := rfl

lemma find?_cons (k : UInt32) (p : UInt32 × ObjectName) (m : Mapping) :
    find? k (p :: m) = if p.1 = k then some p.2 else find? k m := rfl

lemma find?_eq_none (h : ∀ p ∈ m, p.1 ≠ k) : find? k m = none := by
  induction m with
  | nil => rfl
  | cons p m ih =>
    rw [find?_cons, if_neg (h p List.mem_cons_self), ih fun q hq => h q (List.mem_cons_of_mem p hq)]

lemma find?_insert (id k : UInt32) (name : ObjectName) (m : Mapping) :
    find? k (insert id name m) = if id = k then some name else find? k m := by
  induction m with
  | nil => rfl
  | cons p m ih =>
    rw [insert]
    split
    case isTrue hid =>
      rw [find?_cons, find?_cons, ← hid]
      by_cases hk : id = k <;> simp [hk]
    case isFalse hid =>
      split
      · rfl
      · rw [find?_cons, find?_cons, ih]
        by_cases hk : id = k
        · rw [if_neg fun hp => hid (hk.trans hp.symm), if_pos hk, if_pos hk]
        · rw [if_neg hk, if_neg hk]

/-- Where each number has one name, a mapping lists what is found in it. -/
lemma mem_iff (h : (m.map (·.1)).Nodup) : (k, name) ∈ m ↔ find? k m = some name := by
  induction m with
  | nil => simp
  | cons p m ih =>
    obtain ⟨hp, hm⟩ := List.nodup_cons.mp h
    rw [List.mem_cons, find?_cons, ih hm]
    by_cases hk : p.1 = k
    · have hnone : find? k m = none := find?_eq_none fun q hq heq =>
        hp (List.mem_map.mpr ⟨q, hq, heq.trans hk.symm⟩)
      subst hk
      simp [hnone, Prod.ext_iff, eq_comm]
    · have hne : (k, name) ≠ p := fun heq => hk (congrArg Prod.fst heq).symm
      rw [if_neg hk]
      simp [hne]

/-- Of two mappings that are put over one another the upper one counts. -/
theorem find?_union (hnew : (new.map (·.1)).Nodup) (k : UInt32) :
    find? k (known.union new) = (find? k new).or (find? k known) := by
  induction new generalizing known with
  | nil => rfl
  | cons p new ih =>
    obtain ⟨hp, hnew⟩ := List.nodup_cons.mp hnew
    have hfold : known.union (p :: new) = (insert p.1 p.2 known).union new := rfl
    rw [hfold, ih hnew, find?_insert, find?_cons]
    by_cases hk : p.1 = k
    · have hnone : find? k new = none := find?_eq_none fun q hq heq =>
        hp (List.mem_map.mpr ⟨q, hq, heq.trans hk.symm⟩)
      simp [hk, hnone]
    · simp [hk]

/-! ### Order -/

lemma insert_subset {p : UInt32 × ObjectName} (hp : p ∈ insert id name m) :
    p = (id, name) ∨ p ∈ m := by
  induction m with
  | nil => exact .inl (List.mem_singleton.mp hp)
  | cons q m ih =>
    rw [insert] at hp
    split at hp
    · exact (List.mem_cons.mp hp).imp_right (List.mem_cons_of_mem q)
    · split at hp
      · exact List.mem_cons.mp hp
      · rcases List.mem_cons.mp hp with rfl | hp
        · exact .inr List.mem_cons_self
        · exact (ih hp).imp_right (List.mem_cons_of_mem q)

lemma ordered_insert (h : m.Ordered) : (insert id name m).Ordered := by
  induction m with
  | nil => exact List.pairwise_singleton ..
  | cons p m ih =>
    obtain ⟨hp, hm⟩ := ordered_cons.mp h
    rw [insert]
    split
    case isTrue hid => exact ordered_cons.mpr ⟨fun q hq => hid ▸ hp q hq, hm⟩
    case isFalse hid =>
      split
      case isTrue hlt =>
        refine ordered_cons.mpr ⟨fun q hq => ?_, h⟩
        rcases List.mem_cons.mp hq with rfl | hq
        · exact hlt
        · exact UInt32.lt_trans hlt (hp q hq)
      case isFalse hlt =>
        refine ordered_cons.mpr ⟨fun q hq => ?_, ih hm⟩
        rcases insert_subset hq with rfl | hq
        · exact UInt32.lt_of_le_of_ne (UInt32.not_lt.mp hlt) (Ne.symm hid)
        · exact hp q hq

lemma ordered_union (h : known.Ordered) (new : Mapping) : (known.union new).Ordered := by
  induction new generalizing known with
  | nil => exact h
  | cons p new ih => exact ih (ordered_insert h)

lemma Ordered.nodup (h : m.Ordered) : (m.map (·.1)).Nodup :=
  List.pairwise_map.mpr (h.imp UInt32.ne_of_lt)

/-- A mapping is known by the names of the numbers. -/
theorem Ordered.ext (h : Ordered m) (h' : Ordered m') (hnames : ∀ k, find? k m = find? k m') :
    m = m' := by
  have hperm : m.Perm m' := by
    rw [List.perm_ext_iff_of_nodup (.of_map _ h.nodup) (.of_map _ h'.nodup)]
    rintro ⟨k, name⟩
    rw [mem_iff h.nodup, mem_iff h'.nodup, hnames]
  refine hperm.eq_of_pairwise (fun p q _ _ hpq hqp => ?_) h h'
  exact absurd hqp (UInt32.lt_asymm hpq)

/-- The names of a mapping may be put into it in any order. -/
lemma Ordered.union_perm (h : m.Ordered) (hperm : m'.Perm m) : union [] m' = m := by
  have hnodup : (m'.map (·.1)).Nodup := (hperm.map _).nodup_iff.mpr h.nodup
  refine (ordered_union ordered_nil m').ext h fun k => Option.ext fun name => ?_
  rw [find?_union hnodup, find?_nil, Option.or_none, ← mem_iff hnodup, ← mem_iff h.nodup]
  exact hperm.mem_iff

theorem read_gives : Reader.Gives read (fun _ => True) Ordered := by
  intro j m _ hm
  obtain ⟨ms, -, rfl⟩ := map_eq_ok.mp hm
  exact ordered_union ordered_nil ms

end Mapping

namespace ParameterData

/-- The mapping of a frame lists its numbers in their order. -/
def Ordered (d : ParameterData) : Prop := ∀ m ∈ d.mapping, m.Ordered

theorem read_gives : Reader.Gives read (fun _ => True) Ordered := by
  refine Fields.Gives.read (P := Ordered) ?_ encloses_true _ _
  have hmapping : Fields.Gives (.maybe "mapping" Mapping.read) (fun _ => True)
      fun o => ∀ m ∈ o, m.Ordered :=
    Fields.maybe_gives Mapping.read_gives
  refine ((hmapping.map mk).seq (Fields.gives_true _)).imp ?_
  rintro d ⟨_, values, ⟨mapping, hordered, rfl⟩, -, rfl⟩
  exact hordered

end ParameterData

end GroundLink.Model
