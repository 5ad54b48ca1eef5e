import GroundLink.Model.Parameter

/-!
# Tracking one parameter

The frames of a parameter subscription name parameters by number. A tracker learns the numbers from
the mappings and picks the values of one parameter, whose namespace does not matter.
-/

namespace GroundLink.View

open Model

/-- The name of a parameter, and the numbers that are known; none are before the first mapping. -/
structure ParameterTracker where
  name : String
  known : Option Mapping
deriving Inhabited

namespace ParameterTracker

/-- A tracker that has seen nothing. -/
def start (name : String) : ParameterTracker := ⟨name, none⟩

/-- The numbers that are known behind a frame. -/
def learn (known announced : Option Mapping) : Option Mapping :=
  match known, announced with
  | known, none => known
  | none, some new => some new
  | some old, some new => some (old.union new)

/-- Whether a value is one of the parameter. -/
def concerns (name : String) (known : Mapping) (v : ParameterValue) : Bool :=
  (known.find? v.id).any (·.name = name)

/-- Takes a frame. The value is the last one of the parameter in it, if it has any. -/
def apply (t : ParameterTracker) (data : ParameterData) :
    Option ParameterValue × ParameterTracker :=
  let known := learn t.known data.mapping
  let picked := do
    let values ← data.values
    let mapping ← known
    (values.filter (concerns t.name mapping)).getLast?
  (picked, { t with known })

@[simp] theorem name_apply (t : ParameterTracker) (data : ParameterData) :
    (t.apply data).2.name = t.name := rfl

@[simp] theorem known_apply (t : ParameterTracker) (data : ParameterData) :
    (t.apply data).2.known = learn t.known data.mapping := rfl

end ParameterTracker

end GroundLink.View
