import GroundLink.Proofs.Model.Mapping
import GroundLink.Proofs.Model.Name
import GroundLink.Proofs.Model.Value
import Mathlib.Data.List.Perm.Basic

/-!
# Parameters are recovered

The keys of a mapping are its numbers in decimal. They stand in the order of their texts and not of
the numbers, but a mapping is the same whatever order its numbers are put into it.
-/

namespace GroundLink

open Json Schema Schema.Fields

namespace Schema

/-- A natural number of 32 bits is read from its digits. -/
lemma numericKey_digitsOf (id : UInt32) :
    numericKey (String.ofList (Decimal.digitsOf id.toNat)) = .ok id := by
  have hsize : id.toNat < UInt64.size := Nat.lt_trans id.toNat_lt_size (by decide)
  obtain ⟨pos, hread⟩ := readNumber_digitsOf false hsize [] .start endsNumber_nil
  obtain ⟨c, cs, hdigits, hc⟩ := Decimal.digitsOf_cons id.toNat
  have hcursor : Cursor.ofString (String.ofList (Decimal.digitsOf id.toNat))
      = ⟨c :: cs, .start⟩ := by
    rw [Cursor.ofString, String.toList_ofList, hdigits]
  rw [List.append_nil, hdigits] at hread
  have hid : uint32 (.number (integer false id.toNat)) = .ok id := uint32_nat id
  simp only [numericKey, hcursor]
  split
  case h_1 heq =>
    cases heq
    cases hc
  case h_2 d ds _ heq =>
    cases heq
    simp only [hc, if_true, pure_bind, hread, hid]
    rfl
  case h_3 heq => cases heq

end Schema

namespace Model

variable {depth : Nat}

/-! ### Mappings -/

namespace Mapping

/-- The key of a number. -/
def key (id : UInt32) : String := String.ofList (Decimal.digitsOf id.toNat)

lemma key_injective : Function.Injective key := by
  intro id id' h
  have hread := (numericKey_digitsOf id).symm.trans
    ((congrArg numericKey h).trans (numericKey_digitsOf id'))
  cases hread
  rfl

/-- A number and its name are read from a member. -/
def ReadFrom (m : String × Json) (p : UInt32 × ObjectName) : Prop :=
  (do return (← numericKey m.1, ← ObjectName.read .direct m.2) :
    Except ReadError (UInt32 × ObjectName)) = .ok p

lemma readFrom_reread (p : UInt32 × ObjectName) :
    ReadFrom (key p.1, .object (reread p.2.members)) p := by
  rw [ReadFrom]
  dsimp only
  rw [key, numericKey_digitsOf, ObjectName.read_reread]
  rfl

/-- Numbers are recovered with their names, whichever order their keys are read in. -/
lemma recovers {m : Mapping} (h : m.Ordered) : Recovers (depth + 2) read json m := by
  intro _
  let written : List (String × Json × Json) :=
    m.map fun p => (key p.1, p.2.json, .object (reread p.2.members))
  let found : List (String × Json) := m.map fun p => (key p.1, .object (reread p.2.members))
  have hwritten : Rereads (depth + 2) (json m) (.object (insertAll [] found)) := by
    have hnames : ∀ t ∈ written, Rereads (depth + 1) t.2.1 t.2.2 :=
      List.forall_mem_map.mpr fun p _ => p.2.rereads depth
    have hobject := Rereads.object written hnames
    rwa [List.map_map, List.map_map] at hobject
  have hkeys : (found.map (·.1)).Nodup := by
    have hsame : found.map (·.1) = (m.map (·.1)).map key := by
      simp only [found, List.map_map, Function.comp_def]
    rw [hsame]
    exact h.nodup.map key_injective
  have hreads : List.Forall₂ ReadFrom found m :=
    List.forall₂_map_left_iff.mpr (List.forall₂_same.mpr fun p _ => readFrom_reread p)
  have hfound : (insertAll [] found).Perm found := insertAll_perm hkeys
  obtain ⟨m', hread, hperm⟩ := List.perm_comp_forall₂ hfound hreads
  refine ⟨.object (insertAll [] found), hwritten, ?_⟩
  have hmembers : members numericKey (ObjectName.read .direct) (.object (insertAll [] found))
      = .ok m' := mapM_eq_ok.mpr hread
  rw [read, hmembers, Except.map, h.union_perm hperm]

theorem read_faithful (depth : Nat) : read.Faithful (depth + 2) json :=
  fun j _ _ hm => recovers (read_gives j _ trivial hm)

end Mapping

/-! ### Values -/

theorem ParameterValue.read_faithful (depth : Nat) :
    ParameterValue.read.Faithful (depth + 2) json := by
  have hvalue := Value.read_faithful depth
  refine Faithful.read (.seq (.seq (.seq (.seq
    (.map (required_faithful "numericId" uint32_faithful) ?_)
    (maybe_faithful "rawValue" hvalue nofun))
    (required_faithful "engValue" hvalue))
    (required_faithful "generationTime" instant_faithful))
    (maybe_faithful "acquisitionTime" instant_faithful nofun)) _ _
  exact fun _ _ _ _ _ => ⟨rfl, by simp⟩

theorem ParameterData.read_faithful (depth : Nat) :
    ParameterData.read.Faithful (depth + 4) json := by
  have hvalues := list_faithful (ParameterValue.read_faithful depth)
  refine Faithful.read (.seq
    (.map (maybe_faithful "mapping" (Mapping.read_faithful _) nofun) ?_)
    (maybe_faithful "values" hvalues nofun)) _ _
  exact fun _ _ => ⟨rfl, by simp⟩

end Model

end GroundLink
