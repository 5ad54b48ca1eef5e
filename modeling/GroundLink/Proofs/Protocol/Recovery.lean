import GroundLink.Proofs.Model.Parameter
import GroundLink.Proofs.Model.Recovery
import GroundLink.Proofs.Protocol.Frame

/-!
# Frames that are recovered

A known frame is written as the server writes it, and is the frame that this text is again.
-/

namespace GroundLink.Protocol

open Json Model Schema Schema.Fields

variable {depth : Nat}

/-! ### Replies -/

theorem Rejection.read_faithful (depth : Nat) : Rejection.read.Faithful (depth + 1) json := by
  refine Faithful.read (.seq (.seq (.map (required_faithful "code" int64_faithful) ?_)
    (required_faithful "type" string_faithful))
    (required_faithful "msg" string_faithful)) _ _
  exact fun _ _ _ => ⟨rfl, by simp⟩

namespace Reply

variable {call : Option CallId}

lemma fields_faithful (call : Option CallId) (depth : Nat) :
    ((fields call).read "RawReplyData" .direct).Faithful (depth + 2) json := by
  refine Faithful.read (.seq
    (.map (nullable_faithful "replyTo" RequestId.read_faithful nofun) ?_)
    (nullable_faithful "exception" (Rejection.read_faithful depth) nofun)) _ _
  exact fun _ _ => ⟨rfl, by simp⟩

lemma read_of_fields {j : Json} {r : Reply}
    (h : (fields call).read "RawReplyData" .direct j = .ok r) : read call j = .ok r := by
  have hne : j ≠ .null := by
    rintro rfl
    cases h
  rwa [read_of_ne_null hne]

/-- Data that are null are written as those of a reply to nothing. -/
theorem read_faithful (call : Option CallId) (depth : Nat) :
    (read call).Faithful (depth + 2) json := by
  intro j r hj hr hfree
  have hfields : ∃ j, Parsed (depth + 2) j
      ∧ (fields call).read "RawReplyData" .direct j = .ok r := by
    -- Null is read like an object without members, and is written like one.
    by_cases hnull : j = .null
    · subst hnull
      cases hr
      exact ⟨.object [], .object ascending_nil (List.forall_mem_nil _), rfl⟩
    · exact ⟨j, hj, (read_of_ne_null hnull).symm.trans hr⟩
  obtain ⟨j, hj, hread⟩ := hfields
  obtain ⟨w, hw, hread⟩ := fields_faithful call depth j r hj hread hfree
  exact ⟨w, hw, read_of_fields hread⟩

end Reply

/-! ### Updates -/

namespace Payload

/-- The data of an update as the server sends them. -/
def data : Payload → Json
  | .links ls => Link.allJson ls
  | p => p.json

theorem read_faithful (t : Topic) (depth : Nat) : (read t).Faithful (depth + 5) data := by
  cases t with
  | time => exact faithful_map (MissionTime.read_faithful _) fun _ => rfl
  | links => exact faithful_map (Link.readAll_faithful _) fun _ => rfl
  | commands => exact faithful_map (CommandEntry.read_faithful _) fun _ => rfl
  | parameters => exact faithful_map (ParameterData.read_faithful _) fun _ => rfl
  | events => exact faithful_map (Event.read_faithful _) fun _ => rfl

end Payload

/-! ### Envelopes -/

namespace Envelope

/-- An envelope as the server writes it. -/
def json (e : Envelope) : Json :=
  .record [("type", e.type.map .string), ("call", e.call.map CallId.json),
    ("seq", e.seq.map fun n => .nat n.toNat), ("data", some e.data)]

/-- The data of an envelope have been parsed, one level below. -/
lemma data_parsed {j : Json} {e : Envelope} (hj : Parsed (depth + 1) j) (h : read j = .ok e) :
    Parsed depth e.data := by
  have hany : ∀ {α : Type} {key : String} {reader : Reader α},
      (nullable key reader).Gives (Parsed depth) fun _ => True :=
    field_gives (fun _ _ _ _ => trivial) (fun _ _ => trivial) nofun
  have hdata : (withDefault "data" any .null).Gives (Parsed depth) (Parsed depth) := by
    refine field_gives (fun j _ hj h => ?_) ?_ ?_
    · cases h
      exact hj
    all_goals
      rintro _ ⟨⟩
      exact .null
  refine Gives.read (P := fun e : Envelope => Parsed depth e.data)
    ((((hany.map mk).seq hany).seq hany).seq hdata |>.imp ?_) parsed_encloses _ _ j e hj h
  rintro _ ⟨_, d, ⟨_, _, ⟨_, _, ⟨_, -, rfl⟩, -, rfl⟩, -, rfl⟩, hd, rfl⟩
  exact hd

/-- An envelope is read again, but for its data. -/
lemma read_text {e : Envelope} {w : Json} (hw : Rereads 126 e.data w) :
    ∃ j, parse e.json.text = .ok j ∧ read j = .ok { e with data := w } := by
  let ms : List (String × Option Json) := [("type", e.type.map .string),
    ("call", e.call.map CallId.json), ("seq", e.seq.map fun n => .nat n.toNat), ("data", some w)]
  have hrereads : Rereads depthLimit e.json (.object (reread ms)) :=
    .record (.cons ⟨rfl, rereads_option .string _⟩
      (.cons ⟨rfl, rereads_option (fun c => rereads_uint64 c.val _) _⟩
        (.cons ⟨rfl, rereads_option (rereads_uint64 · _) _⟩ (.cons ⟨rfl, .some hw⟩ .nil))))
  have htype : (nullable "type" string).Finds [("type", e.type.map .string)] e.type :=
    finds_nullable "type" (fun _ => rfl) _
  have hcall : (nullable "call" CallId.read).Finds [("call", e.call.map CallId.json)] e.call :=
    finds_nullable "call" (fun c => optional_of_not_null (by rintro ⟨⟩) c.read_json) _
  have hseq : (nullable "seq" uint64).Finds [("seq", e.seq.map fun n => .nat n.toNat)] e.seq :=
    finds_nullable "seq" (fun n => optional_of_not_null (by rintro ⟨⟩) (uint64_nat n)) _
  have hdata : (withDefault "data" any .null).Finds [("data", some w)] w := finds_field "data" rfl
  have hfinds : fields.Finds ms { e with data := w } :=
    (((htype.map mk).seq hcall).seq hseq).seq hdata
  exact ⟨_, hrereads.parse, hfinds.read (by simp [ms]) ..⟩

end Envelope

/-! ### Frames -/

namespace Frame

/-- The envelope that a known frame is sent in. -/
def envelope? : Frame → Option Envelope
  | .reply r => some ⟨some "reply", r.call, none, r.json⟩
  | .state s => some ⟨some "state", none, none, s.json⟩
  | .event u => some ⟨some u.payload.topic.name, some u.call, some u.seq, u.payload.data⟩
  | .unknown _ => none

/-- A known frame as the server writes it. -/
def json? (f : Frame) : Option Json := f.envelope?.map Envelope.json

/-- There is no floating-point number in a frame. -/
def FloatFree (f : Frame) : Prop := ∀ j ∈ f.json?, j.FloatFree

/-- What an envelope holds is held once more, when it has been written and read. -/
lemma recovers_of_held {e : Envelope} {f : Frame} (h : Held e f) (hdata : Parsed 126 e.data) :
    ∃ e', f.envelope? = some e' ∧ (Json.FloatFree e'.data →
      ∃ w, Rereads 126 e'.data w ∧ Held { e' with data := w } f) := by
  cases h with
  | reply _ hread =>
    refine ⟨_, rfl, fun hfree => ?_⟩
    obtain ⟨w, hw, hagain⟩ := Reply.read_faithful e.call 124 _ _ hdata hread hfree
    exact ⟨w, hw, .reply rfl ((Reply.read_iff.mp hread).1 ▸ hagain)⟩
  | state _ hread =>
    refine ⟨_, rfl, fun hfree => ?_⟩
    obtain ⟨w, hw, hagain⟩ := ServerState.read_faithful 123 _ _ hdata hread hfree
    exact ⟨w, hw, .state rfl hagain⟩
  | event _ _ _ hread =>
    refine ⟨_, rfl, fun hfree => ?_⟩
    obtain ⟨w, hw, hagain⟩ := Payload.read_faithful _ 121 _ _ hdata hread hfree
    exact ⟨w, hw, .event rfl rfl rfl hagain⟩

/-- A known frame without floating-point numbers is the frame that its own text is again. -/
theorem decode_json {text : String} {f : Frame} (h : decode text = f)
    (hknown : ∀ fault, f ≠ .unknown fault) (hfree : f.FloatFree) :
    ∃ j, f.json? = some j ∧ decode j.text = f := by
  obtain ⟨j, e, hparse, he, hheld⟩ := held_of_decode h hknown
  have hdata : Parsed 126 e.data := Envelope.data_parsed (parsed_of_parse hparse) he
  obtain ⟨e', henvelope, hrecovers⟩ := recovers_of_held hheld hdata
  have hjson : f.json? = some e'.json := by rw [json?, henvelope]; rfl
  have hmembers := floatFree_record.mp (hfree _ hjson)
  have hdata' : Json.FloatFree e'.data :=
    hmembers _ (.tail _ (.tail _ (.tail _ (.head _)))) _ rfl
  obtain ⟨w, hw, hagain⟩ := hrecovers hdata'
  obtain ⟨j', hparse', hread⟩ := Envelope.read_text hw
  refine ⟨e'.json, hjson, ?_⟩
  rw [decode_of_parse hparse', ofJson_of_held hread hagain]

/-- An entry of the command history in the form of a list, with keys and a time as no server writes
them. -/
def entryText : String :=
  "[\"commands\",5,18446744073709551615,[\"1\",\"/on\",\x7b\"b\":\"2\",\"a\":\"1\"\x7d,"
    ++ "\"ops\",null,null,[[\"x\",[\"BINARY\",\"aGk=\"]],[\"y\",[\"SINT64\",\" -7 \"]],"
    ++ "[\"z\",[\"AGGREGATE\",[null,\x7b\x7d]]]],"
    ++ "\"2017-01-01T01:59:60.5+02:00\"]]"

theorem decode_json_entry :
    ∃ f j, decode entryText = f ∧ (∀ fault, f ≠ .unknown fault) ∧ f.FloatFree
      ∧ f.json? = some j ∧ decode j.text = f := by
  have hany : (decode entryText).json?.any isFloatFree = true := by decide +kernel
  obtain ⟨j, hj, hjfree⟩ := Option.any_eq_true .. |>.mp hany
  have hknown : ∀ fault, decode entryText ≠ .unknown fault := by
    intro fault h
    rw [h] at hj
    cases hj
  have hfree : (decode entryText).FloatFree := by
    intro j' hj'
    cases hj.symm.trans hj'
    exact floatFree_of_isFloatFree j hjfree
  obtain ⟨j', hj', hagain⟩ := decode_json rfl hknown hfree
  exact ⟨_, j', rfl, hknown, hfree, hj', hagain⟩

example : (decode "[\"time\",5,7,[\"2024-05-01T02:00:00+02:00\"]]").json?.map Json.text
    = some ("\x7b\"type\":\"time\",\"call\":5,\"seq\":7,"
      ++ "\"data\":\x7b\"value\":\"2024-05-01T00:00:00Z\"\x7d\x7d") := by
  decide +kernel

end Frame

end GroundLink.Protocol
