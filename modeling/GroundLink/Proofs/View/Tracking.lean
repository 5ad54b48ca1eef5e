import GroundLink.Proofs.Model.Mapping
import GroundLink.View.ParameterTracker
import Mathlib.Data.List.Induction

/-!
# What a tracker picks

A number means what the newest mapping that has it says, and this is what a tracker knows at any
time. Of a frame it picks the last value of its parameter, by the mappings up to that frame. What
comes before the first mapping is lost.
-/

namespace GroundLink.View

open Model

namespace ParameterTracker

variable {t : ParameterTracker} {name : String} {frames earlier : List ParameterData}
  {frame : ParameterData}

/-! ### Names and values -/

/-- The name that frames give a number: the one in the newest mapping that has it. -/
def nameOf (frames : List ParameterData) (id : UInt32) : Option ObjectName :=
  (frames.filterMap (·.mapping)).reverse.findSome? (Mapping.find? id)

/-- The value of a parameter in a frame behind others: the last one whose number means it. -/
def valueOf (name : String) (earlier : List ParameterData) (frame : ParameterData) :
    Option ParameterValue :=
  ((frame.values.getD []).filter fun v =>
    (nameOf (earlier ++ [frame]) v.id).any (·.name = name)).getLast?

/-- The values of a parameter in frames behind others. -/
def valuesOf (name : String) : List ParameterData → List ParameterData → List ParameterValue
  | _, [] => []
  | earlier, frame :: frames =>
    (valueOf name earlier frame).toList ++ valuesOf name (earlier ++ [frame]) frames

lemma nameOf_concat (frames : List ParameterData) (frame : ParameterData) (id : UInt32) :
    nameOf (frames ++ [frame]) id
      = (frame.mapping.bind (Mapping.find? id)).or (nameOf frames id) := by
  cases hmapping : frame.mapping with
  | none => simp [nameOf, List.filterMap_append, hmapping]
  | some m =>
    rw [nameOf, List.filterMap_append, List.filterMap_cons_some hmapping, List.filterMap_nil,
      List.reverse_append, List.reverse_singleton, List.singleton_append, List.findSome?_cons,
      Option.bind_some]
    cases Mapping.find? id m <;> rfl

/-- Frames without a mapping name nothing. -/
lemma nameOf_eq_none (h : ∀ f ∈ frames, f.mapping = none) (id : UInt32) :
    nameOf frames id = none := by
  have hnone : frames.filterMap (·.mapping) = [] := List.filterMap_eq_nil_iff.mpr h
  rw [nameOf, hnone]
  rfl

/-- Frames without a mapping do not count for what comes behind them. -/
lemma nameOf_append (h : ∀ f ∈ earlier, f.mapping = none) (frames : List ParameterData)
    (id : UInt32) : nameOf (earlier ++ frames) id = nameOf frames id := by
  have hnone : earlier.filterMap (·.mapping) = [] := List.filterMap_eq_nil_iff.mpr h
  rw [nameOf, List.filterMap_append, hnone, List.nil_append, nameOf]

/-- A value that is picked is one of the frame, and its number means the parameter. -/
lemma valueOf_spec {v : ParameterValue} (hv : valueOf name earlier frame = some v) :
    v ∈ frame.values.getD [] ∧ ∃ n, nameOf (earlier ++ [frame]) v.id = some n ∧ n.name = name := by
  have hmem := List.mem_of_getLast? hv
  rw [List.mem_filter] at hmem
  obtain ⟨hvalue, hname⟩ := hmem
  refine ⟨hvalue, ?_⟩
  cases hfound : nameOf (earlier ++ [frame]) v.id with
  | none => simp [hfound] at hname
  | some n => exact ⟨n, rfl, by simpa [hfound] using hname⟩

/-- Frames without a mapping do not count for the values behind them. -/
lemma valuesOf_skip (name : String) (h : ∀ f ∈ earlier, f.mapping = none)
    (seen frames : List ParameterData) :
    valuesOf name (earlier ++ seen) frames = valuesOf name seen frames := by
  induction frames generalizing seen with
  | nil => rfl
  | cons frame frames ih =>
    rw [valuesOf, valuesOf, List.append_assoc, ih, valueOf, valueOf]
    simp only [List.append_assoc, nameOf_append h]

/-- What comes before the first mapping is lost. -/
theorem valuesOf_append (name : String) (h : ∀ f ∈ earlier, f.mapping = none)
    (frames : List ParameterData) :
    valuesOf name [] (earlier ++ frames) = valuesOf name [] frames := by
  induction earlier with
  | nil => rfl
  | cons frame earlier ih =>
    have hframe : ∀ f ∈ [frame], f.mapping = none := by simpa using h frame List.mem_cons_self
    have hvalue : valueOf name [] frame = none := by simp [valueOf, nameOf_eq_none hframe]
    rw [List.cons_append, valuesOf, hvalue, Option.toList_none, List.nil_append, List.nil_append,
      ← List.append_nil [frame], valuesOf_skip name hframe,
      ih fun f hf => h f (List.mem_cons_of_mem frame hf)]

/-! ### Trackers -/

/-- A tracker that has taken some frames. -/
def after (t : ParameterTracker) (frames : List ParameterData) : ParameterTracker :=
  frames.foldl (fun t frame => (t.apply frame).2) t

/-- What a tracker knows from some frames. -/
structure Knows (t : ParameterTracker) (name : String) (frames : List ParameterData) : Prop where
  name : t.name = name
  waits : t.known = none ↔ ∀ f ∈ frames, f.mapping = none
  /-- The mappings so far are put over one another, the newer over the older ones. -/
  known : ∀ m, t.known = some m ↔ (∃ f ∈ frames, f.mapping ≠ none) ∧ m.Ordered
    ∧ ∀ id, m.find? id = nameOf frames id

lemma knows_start (name : String) : (start name).Knows name [] := by
  refine ⟨rfl, ?_, fun m => ?_⟩ <;> simp [start]

/-- What is known of the names is enough to know a tracker. -/
lemma knows_of {m : Mapping} (hname : t.name = name) (hknown : t.known = some m)
    (hmapped : ∃ f ∈ frames, f.mapping ≠ none) (hordered : m.Ordered)
    (hnames : ∀ id, Mapping.find? id m = nameOf frames id) : t.Knows name frames := by
  refine ⟨hname, ?_, fun m' => ?_⟩
  · rw [hknown]
    obtain ⟨f, hf, hne⟩ := hmapped
    exact ⟨by rintro ⟨⟩, fun hall => absurd (hall f hf) hne⟩
  · rw [hknown, Option.some.injEq]
    constructor
    · rintro rfl
      exact ⟨hmapped, hordered, hnames⟩
    · rintro ⟨-, hordered', hnames'⟩
      exact hordered.ext hordered' fun id => (hnames id).trans (hnames' id).symm

/-- A tracker learns from the next frame. -/
theorem Knows.apply (h : t.Knows name frames) (hframe : frame.Ordered) :
    (t.apply frame).2.Knows name (frames ++ [frame]) := by
  cases hmapping : frame.mapping with
  | none =>
    have hsame : ∀ id, nameOf (frames ++ [frame]) id = nameOf frames id := by
      intro id
      rw [nameOf_concat, hmapping]
      rfl
    refine ⟨h.name, ?_, fun m => ?_⟩
    · rw [known_apply, hmapping, learn, h.waits]
      simp [or_imp, forall_and, hmapping]
    · rw [known_apply, hmapping, learn, h.known]
      simp [hsame, or_and_right, exists_or, hmapping]
  | some new =>
    have hnew : new.Ordered := hframe new hmapping
    have hmapped : ∃ f ∈ frames ++ [frame], f.mapping ≠ none :=
      ⟨frame, by simp, by simp [hmapping]⟩
    cases hknown : t.known with
    | none =>
      have hlearned : (t.apply frame).2.known = some new := by
        rw [known_apply, hmapping, hknown]
        rfl
      refine knows_of h.name hlearned hmapped hnew fun id => ?_
      rw [nameOf_concat, hmapping, nameOf_eq_none (h.waits.mp hknown), Option.or_none]
      rfl
    | some old =>
      obtain ⟨-, hold, hnames⟩ := (h.known old).mp hknown
      have hlearned : (t.apply frame).2.known = some (old.union new) := by
        rw [known_apply, hmapping, hknown]
        rfl
      refine knows_of h.name hlearned hmapped (Mapping.ordered_union hold new) fun id => ?_
      rw [nameOf_concat, hmapping, Mapping.find?_union hnew.nodup, hnames]
      rfl

/-- A tracker picks the value by what it knows with the frame. -/
theorem Knows.picks (h : (t.apply frame).2.Knows name (frames ++ [frame])) :
    (t.apply frame).1 = valueOf name frames frame := by
  have hpicked : (t.apply frame).1
      = (frame.values.bind fun values => (t.apply frame).2.known.bind fun m =>
          (values.filter (concerns (t.apply frame).2.name m)).getLast?) := rfl
  rw [hpicked, valueOf]
  cases hvalues : frame.values with
  | none => rfl
  | some values =>
    rw [Option.bind_some, Option.getD_some]
    cases hknown : (t.apply frame).2.known with
    | none => simp [nameOf_eq_none (h.waits.mp hknown)]
    | some m =>
      obtain ⟨-, -, hnames⟩ := (h.known m).mp hknown
      rw [Option.bind_some, h.name]
      congr 2
      funext v
      rw [concerns, hnames]

/-- What a tracker knows after any frames. -/
theorem knows_after (name : String) (frames : List ParameterData)
    (hframes : ∀ f ∈ frames, f.Ordered) : ((start name).after frames).Knows name frames := by
  induction frames using List.reverseRecOn with
  | nil => exact knows_start name
  | append_singleton frames frame ih =>
    have hknows := ih fun f hf => hframes f (List.mem_append_left _ hf)
    rw [after, List.foldl_append]
    exact hknows.apply (hframes frame (by simp))

end ParameterTracker

end GroundLink.View
