import GroundLink.Proofs.Model.Part
import GroundLink.Proofs.Protocol.Envelope
import GroundLink.Proofs.Protocol.Frame

/-!
# What is looked at of frames

A frame is read from its outer members and, as its type says, from some members of its data. All
other members may be anything.
-/

namespace GroundLink.Protocol

open Json Model Schema Schema.Fields

/-! ### Data -/

namespace Rejection

def part : Part := .record [("code", .whole), ("type", .whole), ("msg", .whole)]

lemma read_looksAt : read.LooksAt part :=
  LooksAt.read (.seq (.seq (.map (required_whole _ _) _) (required_whole _ _)) (required_whole _ _))
    (by simp) _ _

end Rejection

namespace Reply

def part : Part := .record [("replyTo", .whole), ("exception", Rejection.part)]

lemma read_looksAt (call : Option CallId) : (read call).LooksAt part := by
  have hfields : ((fields call).read "RawReplyData" .direct).LooksAt part :=
    LooksAt.read (.seq (.map (nullable_whole _ _) _)
      (nullable_looksAt _ Rejection.read_looksAt)) (by simp) _ _
  intro j
  by_cases hj : j = .null
  · rw [(part.null_iff j).mpr hj, hj]
  · rw [read_of_ne_null hj, read_of_ne_null (mt (part.null_iff j).mp hj), hfields j]

end Reply

namespace Payload

/-- The members that a payload about a topic is read from. -/
def part : Topic → Part
  | .time => MissionTime.part
  | .links => Link.allPart
  | .commands => CommandEntry.part
  | .parameters => ParameterData.part
  | .events => Event.part

lemma read_looksAt (t : Topic) : (read t).LooksAt (part t) := by
  cases t with
  | time => exact looksAt_map MissionTime.read_looksAt _
  | links => exact looksAt_map Link.readAll_looksAt _
  | commands => exact looksAt_map CommandEntry.read_looksAt _
  | parameters => exact looksAt_map ParameterData.read_looksAt _
  | events => exact looksAt_map Event.read_looksAt _

end Payload

/-! ### Frames -/

namespace Frame

/-- The members of the data that a frame of a type is read from. -/
def dataPart : Option Json → Part
  | some (.string "reply") => Reply.part
  | some (.string "state") => ServerState.part
  | some (.string name) => match Topic.ofName? name with
    | some t => Payload.part t
    | none => .whole
  | _ => .whole

/-- The type of a frame, which a list begins with. -/
def typeOf? : Json → Option Json
  | .object ms => lookup "type" ms
  | .array xs => xs.head?
  | _ => none

/-- The members that a frame is read from. -/
def part (j : Json) : Json :=
  Part.record ([("type", .whole), ("call", .whole), ("seq", .whole)]
    ++ [("data", dataPart (typeOf? j))]) j

/-- The keys of the outer members. -/
def keys : List String := ["type", "call", "seq", "data"]

/-- A member under another key is no part of a frame. -/
lemma part_insert {key : String} (h : key ∉ keys) (v : Json) (ms : List (String × Json)) :
    part (.object (insert key v ms)) = part (.object ms) := by
  obtain ⟨htype, hother⟩ := not_or.mp (mt List.mem_cons.mpr h)
  have htag : typeOf? (.object (insert key v ms)) = typeOf? (.object ms) :=
    lookup_insert_of_ne htype v ms
  rw [part, htag, part]
  refine congrArg Json.object (Part.ofMembers_insert ?_ v ms)
  simpa [keys, List.lookup_eq_none_iff] using h

lemma read_part (j : Json) : Envelope.read (part j)
    = (Envelope.read j).map fun e => { e with data := dataPart (typeOf? j) e.data } := by
  have hany : ∀ {α : Type} {key : String} {reader : Reader α},
      (nullable key reader).Gives (fun _ => True) fun _ => True := gives_true _
  refine read_kept (.seq (.seq (.map (nullable_whole _ _) _) (nullable_whole _ _))
    (nullable_whole _ _)) ?_ (by simp) _ _ j
  refine (((hany.map Envelope.mk).seq hany).seq hany).imp ?_
  rintro _ ⟨_, _, ⟨_, _, ⟨_, -, rfl⟩, -, rfl⟩, -, rfl⟩ d
  rfl

lemma dataPart_of_topic (t : Topic) : dataPart (some (.string t.name)) = Payload.part t := by
  cases t <;> rfl

lemma dataPart_of_not_mem {name : String} (h : name ∉ types) :
    dataPart (some (.string name)) = .whole := by
  simp only [dataPart]
  split
  case h_1 heq =>
    cases heq
    exact absurd (by decide) h
  case h_2 heq =>
    cases heq
    exact absurd (by decide) h
  case h_3 heq =>
    cases heq
    cases htopic : Topic.ofName? name with
    | none => rfl
    | some t =>
      have hname : t.name = name := by simpa using List.find?_some htopic
      exact absurd (hname ▸ mem_types_of_topic t) h
  case h_4 hne => exact absurd rfl (hne name)

/-- An envelope holds the same with the part of its data that its type looks at. -/
lemma ofEnvelope_part {e : Envelope} {tag : Option Json}
    (h : ∀ name, e.type = some name → tag = some (.string name)) :
    ofEnvelope { e with data := dataPart tag e.data } = ofEnvelope e := by
  obtain ⟨type, call, seq, data⟩ := e
  cases type with
  | none => rfl
  | some name =>
    obtain rfl := h name rfl
    by_cases hname : name ∈ types
    · rcases List.mem_cons.mp hname with rfl | hname
      · exact congrArg (fun r => (orMalformed "reply" r).map Frame.reply)
          (Reply.read_looksAt call data)
      rcases List.mem_cons.mp hname with rfl | hname
      · exact congrArg (fun r => (orMalformed "state" r).map Frame.state)
          (ServerState.read_looksAt data)
      obtain ⟨t, -, rfl⟩ := List.mem_map.mp hname
      rw [dataPart_of_topic]
      -- Without both numbers the data are not looked at.
      cases call with
      | none => cases t <;> rfl
      | some c =>
        cases seq with
        | none => cases t <;> rfl
        | some n =>
          rw [ofEnvelope_event rfl rfl rfl, ofEnvelope_event rfl rfl rfl]
          exact congrArg (fun r => (orMalformed t.name r).map fun p => Frame.event ⟨c, n, p⟩)
            (Payload.read_looksAt t data)
    · rw [dataPart_of_not_mem hname]
      rfl

/-- The type of an envelope is the one that its value has. -/
lemma typeOf_of_read {j : Json} {e : Envelope} (h : Envelope.read j = .ok e) {name : String}
    (htype : e.type = some name) : typeOf? j = some (.string name) := by
  cases j with
  | object ms => exact (Envelope.read_object.mp h).type_iff.mp htype
  | array items =>
    obtain ⟨j, rest, rfl, hj⟩ := Envelope.read_array h
    exact string_exact.optional_iff.mp (htype ▸ hj)
  | _ => cases h

/-- A frame is the same as the frame that its part is. -/
theorem ofJson_part (j : Json) : ofJson (part j) = ofJson j := by
  have hpart := read_part j
  cases hread : Envelope.read j with
  | error reason =>
    rw [hread] at hpart
    rw [ofJson_of_error hpart, ofJson_of_error hread]
  | ok e =>
    rw [hread] at hpart
    exact ofJson_congr hpart hread (ofEnvelope_part fun _ => typeOf_of_read hread)

end Frame

end GroundLink.Protocol
