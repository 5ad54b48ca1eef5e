import GroundLink.Model.Name
import GroundLink.Proofs.Schema.Members

/-!
# Names that are read again

A name is read from its own text, with its namespace if it has one.
-/

namespace GroundLink

open Json Schema Schema.Fields

namespace Model.ObjectName

/-- The members of a name. -/
def members (n : ObjectName) : List (String × Option Json) :=
  [("name", some (.string n.name)), ("namespace", n.space.map .string)]

lemma rereads (n : ObjectName) (depth : Nat) :
    Rereads (depth + 1) n.json (.object (reread n.members)) :=
  .record (.cons ⟨rfl, .some (.string _)⟩ (.cons ⟨rfl, rereads_option .string _⟩ .nil))

lemma read_reread (n : ObjectName) (origin : Origin) :
    read origin (.object (reread n.members)) = .ok n := by
  have hfinds : fields.Finds n.members n :=
    ((finds_string "name" n.name).map mk).seq (finds_maybeString "namespace" n.space)
  exact hfinds.read (by simp [members]) ..

end Model.ObjectName

end GroundLink
