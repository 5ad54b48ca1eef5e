import GroundLink.Proofs.Model.Name
import GroundLink.Proofs.Protocol.Ids
import GroundLink.Protocol.Request

/-!
# Requests that are read again

The text of a numbered request is read as the same number and the same request, whatever its options
are and whichever of them it has.
-/

namespace GroundLink

open Json Schema Schema.Fields

namespace Protocol

open Model

lemma RequestType.read_name (t : RequestType) (origin : Origin) :
    read origin (.string t.name) = .ok t := by
  cases t <;> rfl

/-! ### Options -/

namespace Request

/-- A request is made of its type and of what its options have been read as. -/
def ReadsOptions (r : Request) (w : Option Json) : Prop :=
  w.elim (r.type.bare? = some r) fun j => r.type.options .held j = .ok r

lemma options_reread (r : Request) (depth : Nat) :
    ∃ w, Option.Rel (Rereads (depth + 3)) r.options? w ∧ r.ReadsOptions w := by
  cases r with
  | time i p =>
    refine ⟨_, .some (.record (.cons ⟨rfl, .some (.string i)⟩
      (.cons ⟨rfl, .some (.string p)⟩ .nil))), ?_⟩
    exact (((finds_string "instance" i).map time).seq (finds_string "processor" p)).read (by simp)
      "TimeOptions" .held
  | links i =>
    refine ⟨_, .some (.record (.cons ⟨rfl, .some (.string i)⟩ .nil)), ?_⟩
    exact ((finds_string "instance" i).map links).read (by simp) "LinksOptions" .held
  | commands i p past =>
    refine ⟨_, .some (.record (.cons ⟨rfl, .some (.string i)⟩ (.cons ⟨rfl, .some (.string p)⟩
      (.cons ⟨rfl, rereads_option .bool past⟩ .nil)))), ?_⟩
    exact ((((finds_string "instance" i).map commands).seq (finds_string "processor" p)).seq
      (finds_maybeBool "ignorePastCommands" past)).read (by simp) "CommandsOptions" .held
  | parameters i p names fromCache onExpiration =>
    let items := names.map fun n => Json.object (reread n.members)
    have hitems : Rereads (depth + 2) (.array (names.map ObjectName.json)) (.array items) :=
      .arrayMap names fun n _ => n.rereads depth
    have hnames : list (ObjectName.read .held) (.array items) = .ok names :=
      list_map fun n _ => n.read_reread .held
    refine ⟨some (.object (reread [("instance", some (.string i)), ("processor", some (.string p)),
      ("id", some (.array items)), ("sendFromCache", fromCache.map .bool),
      ("updateOnExpiration", onExpiration.map .bool)])), ?_, ?_⟩
    · exact .some (.record (.cons ⟨rfl, .some (.string i)⟩ (.cons ⟨rfl, .some (.string p)⟩
        (.cons ⟨rfl, .some hitems⟩ (.cons ⟨rfl, rereads_option .bool fromCache⟩
          (.cons ⟨rfl, rereads_option .bool onExpiration⟩ .nil))))))
    · exact ((((((finds_string "instance" i).map parameters).seq
        (finds_string "processor" p)).seq (finds_required "id" hnames)).seq
        (finds_maybeBool "sendFromCache" fromCache)).seq
        (finds_maybeBool "updateOnExpiration" onExpiration)).read
          (by simp) "ParametersOptions" .held
  | events i =>
    refine ⟨_, .some (.record (.cons ⟨rfl, .some (.string i)⟩ .nil)), ?_⟩
    exact ((finds_string "instance" i).map events).read (by simp) "EventsOptions" .held
  | cancel c =>
    refine ⟨_, .some (.record (.cons ⟨rfl, .some (rereads_uint64 c.val _)⟩ .nil)), ?_⟩
    exact ((finds_required "call" c.read_json).map cancel).read (by simp)
      "CancelOptions" .held
  | status => exact ⟨none, .none, rfl⟩
  | state => exact ⟨none, .none, rfl⟩

/-! ### Requests -/

/-- A request is read among the members of an object, wherever its type and its options are
found. -/
lemma readMembers_eq {r : Request} {all : List (String × Json)}
    (htype : lookup "type" all = some (.string r.typeName))
    (hoptions : r.ReadsOptions (lookup "options" all)) (origin : Origin) :
    readMembers origin all = .ok r := by
  have hname : RequestType.read origin (.string r.typeName) = .ok r.type := r.type.read_name origin
  rw [readMembers, htype]
  dsimp only
  rw [hname]
  cases hlookup : lookup "options" all with
  | some j =>
    rw [hlookup] at hoptions
    exact hoptions
  | none =>
    rw [hlookup] at hoptions
    change r.type.bare? = some r at hoptions
    dsimp only [bind, Except.bind]
    rw [hoptions]
    rfl

end Request

/-- A numbered request is read from its own text. -/
theorem NumberedRequest.read_text (r : NumberedRequest) :
    ∃ j, parse r.text = .ok j ∧ read j = .ok r := by
  obtain ⟨w, hrel, hoptions⟩ := r.request.options_reread 123
  let ms : List (String × Option Json) :=
    [("id", some r.id.json), ("type", some (.string r.request.typeName)), ("options", w)]
  have hkeys : (ms.map (·.1)).Nodup := by simp [ms]
  have hrereads : Rereads depthLimit r.json (.object (reread ms)) :=
    .record (.cons ⟨rfl, .some (rereads_uint64 r.id.val _)⟩
      (.cons ⟨rfl, .some (.string _)⟩ (.cons ⟨rfl, hrel⟩ .nil)))
  refine ⟨.object (reread ms), hrereads.parse, ?_⟩
  have hid : lookup "id" (reread ms) = some r.id.json := lookup_reread hkeys (.head _)
  have htype : lookup "type" (reread ms) = some (.string r.request.typeName) :=
    lookup_reread hkeys (.tail _ (.head _))
  have hfound : lookup "options" (reread ms) = w :=
    lookup_reread hkeys (.tail _ (.tail _ (.head _)))
  have hrequest := Request.readMembers_eq htype (hfound.symm ▸ hoptions) .held
  simp only [read, hid]
  rw [r.id.read_json, hrequest]
  rfl

/-- Every numbered request has a text that is read as this request and as no other. -/
theorem NumberedRequest.text_faithful :
    (∀ r : NumberedRequest, ∃ j, parse r.text = .ok j ∧ read j = .ok r)
    ∧ Function.Injective NumberedRequest.text := by
  refine ⟨read_text, fun r r' htext => ?_⟩
  obtain ⟨j, hparse, hread⟩ := r.read_text
  obtain ⟨j', hparse', hread'⟩ := r'.read_text
  rw [htext, hparse'] at hparse
  cases hparse
  cases hread.symm.trans hread'
  rfl

end Protocol

end GroundLink
