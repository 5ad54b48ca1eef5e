import GroundLink.Proofs.Url.Parser
import Mathlib.Tactic.Tauto

/-!
# Paths

The segments of a path, behind whatever path they are put.
-/

namespace GroundLink.Url

variable {k : SchemeKind} {s : List Char} {items done segs last : List (List Char)}

/-- Whether a segment is one of those that are resolved. -/
def isDots (s : List Char) : Bool := isDoubleDot s || isSingleDot s

/-- A segment that is read as it is written. -/
structure SettledSegment (s : List Char) : Prop where
  dots : isDots s = false
  clean : ∀ c ∈ s, escapesPath c = false ∧ isSlash .special c = false

/-! ### Splitting -/

/-- The segments of a path are found in it, as it is written. -/
lemma splitSegments_chars (hs : ∀ c ∈ s, isSlash k c = false)
    (hitems : ∀ t ∈ items, ∀ c ∈ t, isSlash k c = false) :
    splitSegments k (s ++ (Path.segments items).chars) = s :: items := by
  induction items generalizing s with
  | nil =>
    rw [Path.chars, List.flatMap_nil, List.append_nil]
    exact List.splitOnP_eq_singleton hs
  | cons t items ih =>
    obtain ⟨ht, hitems⟩ := List.forall_mem_cons.mp hitems
    rw [Path.chars, List.flatMap_cons, List.cons_append]
    exact (List.splitOnP_append_cons_of_forall_mem hs '/' rfl _).trans
      (congrArg (s :: ·) (ih ht hitems))

/-! ### Dots -/

/-- Where segments lead, the last one of which comes first. -/
def walk (done segs : List (List Char)) : List (List Char) :=
  segs.foldl
    (fun done s => if isDoubleDot s then stepUp done else if isSingleDot s then done else s :: done)
    done

/-- Segments that are no dots stay behind what comes before them. -/
lemma resolveDots_append (hk : k ≠ .file) (hlast : ∀ s ∈ last, isDots s = false) (hne : last ≠ [])
    (done segs : List (List Char)) :
    resolveDots k done (segs ++ last) = (walk done segs).reverse ++ last := by
  induction segs generalizing done with
  | nil =>
    clear hne
    rw [List.nil_append, walk, List.foldl_nil]
    induction last generalizing done with
    | nil => rw [resolveDots, List.append_nil]
    | cons s last ih =>
      obtain ⟨hs, hlast⟩ := List.forall_mem_cons.mp hlast
      unfold isDots at hs
      rw [resolveDots, hs, if_neg (by simp), addSegment, if_neg (by simp [hk]), ih hlast,
        List.reverse_cons, List.append_assoc, List.singleton_append]
  | cons s segs ih =>
    have hmore : (segs ++ last).isEmpty = false := by simp [hne]
    rw [List.cons_append, resolveDots, walk, List.foldl_cons]
    cases hdouble : isDoubleDot s <;> cases hsingle : isSingleDot s <;>
      simp only [hmore, Bool.or_self, Bool.or_true, Bool.true_or, Bool.false_eq_true, if_true,
        if_false] <;> rw [← walk]
    · rw [addSegment, if_neg (by simp [hk])]
      exact ih (s :: done)
    · exact ih done
    · exact ih (stepUp done)
    · exact ih (stepUp done)

/-- Segments that are no dots are left as they are. -/
lemma resolveDots_eq_self (hk : k ≠ .file) (hitems : ∀ s ∈ items, isDots s = false) :
    resolveDots k [] items = items := by
  cases items with
  | nil => rfl
  | cons s items => exact resolveDots_append hk hitems (by simp) [] []

/-- A segment that is resolved stands for one dot or two. -/
lemma decode_of_isDots (h : isDots s = true) :
    decode s = ['.'].flatMap String.utf8EncodeChar
      ∨ decode s = ['.', '.'].flatMap String.utf8EncodeChar := by
  have hall : ∀ t ∈ [".", "%2e", "..", "%2e.", ".%2e", "%2e%2e"], ∀ s ∈ spellings t.toList,
      decode s = ['.'].flatMap String.utf8EncodeChar
        ∨ decode s = ['.', '.'].flatMap String.utf8EncodeChar := by
    decide +kernel
  simp only [isDots, isDoubleDot, isSingleDot, Bool.or_eq_true, List.any_eq_true,
    decide_eq_true_eq] at h
  have hs := mem_spellings s
  rcases h with ⟨t, ht, hlower⟩ | ⟨t, ht, hlower⟩
  all_goals
    rw [← hlower] at hs
    refine hall t ?_ s hs
    simp only [List.mem_cons, List.not_mem_nil, or_false] at ht ⊢
    tauto

/-! ### Reading -/

/-- The segments that come before others, behind a path. -/
def folder : List Char → List (List Char)
  | [] => []
  | _ :: cs => (walk [] ((splitSegments .special cs).map (encode escapesPath))).reverse

/-- Segments that are put behind a path are found behind its folder. -/
lemma readPath_append {cs : List Char} (hcs : ∀ c ∈ cs.head?, isSlash .special c = true)
    (hslash : ∀ s ∈ items, ∀ c ∈ s, isSlash .special c = false)
    (hdots : ∀ s ∈ items, isDots (encode escapesPath s) = false) (hne : items ≠ []) :
    readPath .special (cs ++ (Path.segments items).chars)
      = .segments (folder cs ++ items.map (encode escapesPath)) := by
  have hdots' : ∀ s ∈ items.map (encode escapesPath), isDots s = false := by
    simpa using hdots
  obtain ⟨t, items, rfl⟩ := List.exists_cons_of_ne_nil hne
  obtain ⟨ht, hrest⟩ := List.forall_mem_cons.mp hslash
  have hsplit : (t ++ (Path.segments items).chars).splitOnP (isSlash .special) = t :: items :=
    splitSegments_chars ht hrest
  cases cs with
  | nil =>
    rw [List.nil_append, Path.chars, List.flatMap_cons, List.cons_append, readPath,
      if_pos (by decide), readSegments, splitSegments, ← Path.chars, hsplit,
      resolveDots_eq_self (by decide) hdots']
    rfl
  | cons c cs =>
    rw [List.cons_append, readPath, if_pos (hcs c rfl), readSegments, Path.chars,
      List.flatMap_cons, List.cons_append, splitSegments, List.splitOnP_append_cons _ _ (by rfl),
      ← Path.chars, hsplit, List.map_append,
      resolveDots_append (by decide) hdots' (by simp)]
    rfl

/-- A path is read from what it is written as. -/
lemma readPath_chars (hitems : ∀ s ∈ items, SettledSegment s) (hne : items ≠ []) :
    readPath .special (Path.segments items).chars = .segments items := by
  have hencode : ∀ s ∈ items, encode escapesPath s = s := fun s hs =>
    encode_eq_self fun c hc => ((hitems s hs).clean c hc).1
  have hread : readPath .special ([] ++ (Path.segments items).chars)
      = .segments (folder [] ++ items.map (encode escapesPath)) :=
    readPath_append (by simp) (fun s hs c hc => ((hitems s hs).clean c hc).2)
      (fun s hs => (hencode s hs).symm ▸ (hitems s hs).dots) hne
  rwa [List.map_congr_left (g := id) hencode, List.map_id] at hread

end GroundLink.Url
