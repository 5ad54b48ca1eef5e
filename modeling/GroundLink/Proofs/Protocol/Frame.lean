import GroundLink.Proofs.Result
import GroundLink.Protocol.Frame
import Mathlib.Data.List.Basic

/-!
# What an envelope holds

An envelope holds a reply, the state or an event, if its type says so and its data can be read as
one. All other envelopes are faults: of three kinds, by whether the type is missing, known or
unknown.
-/

namespace GroundLink.Protocol

open Model Schema

/-! ### Replies -/

namespace Reply

variable {call : Option CallId} {j : Json}

lemma read_of_ne_null (h : j ≠ .null) :
    read call j = (fields call).read "RawReplyData" .direct j := by
  cases j with
  | null => exact absurd rfl h
  | _ => rfl

lemma fields_ofMembers (call : Option CallId) (ms : List (String × Json)) :
    (fields call).ofMembers ms
      = ((fields none).ofMembers ms).map fun r => { r with call := call } := by
  let request : Fields (Option RequestId) := .nullable "replyTo" RequestId.read
  let rejection : Fields (Option Rejection) := .nullable "exception" Rejection.read
  change (Fields.seq (Fields.seq (Fields.pure (mk call)) request) rejection).ofMembers ms
    = ((Fields.seq (Fields.seq (Fields.pure (mk none)) request) rejection).ofMembers ms).map _
  simp only [Fields.seq, Fields.pure]
  cases request.ofMembers ms <;> cases rejection.ofMembers ms <;> rfl

lemma fields_ofItems (call : Option CallId) (index : Nat) (items : List Json) :
    (fields call).ofItems index items
      = ((fields none).ofItems index items).map fun p => ({ p.1 with call := call }, p.2) := by
  let request : Fields (Option RequestId) := .nullable "replyTo" RequestId.read
  let rejection : Fields (Option Rejection) := .nullable "exception" Rejection.read
  change (Fields.seq (Fields.seq (Fields.pure (mk call)) request) rejection).ofItems index items
    = ((Fields.seq (Fields.seq (Fields.pure (mk none)) request) rejection).ofItems index items).map
      _
  simp only [Fields.seq, Fields.pure, bind, Except.bind]
  cases request.ofItems index items with
  | error e => rfl
  | ok p =>
    obtain ⟨a, index, items⟩ := p
    dsimp only [pure, Except.pure]
    cases rejection.ofItems index items <;> rfl

/-- The call of a reply has no part in how its data are read. -/
lemma read_eq (call : Option CallId) (j : Json) :
    read call j = (read none j).map fun r => { r with call := call } := by
  cases j with
  | object ms =>
    change ((fields call).ofMembers ms).mapError Failure.error
      = (((fields none).ofMembers ms).mapError Failure.error).map _
    rw [fields_ofMembers]
    cases (fields none).ofMembers ms <;> rfl
  | array items =>
    change (fields call).readItems _ _ items = ((fields none).readItems _ _ items).map _
    rw [Fields.readItems, fields_ofItems, Fields.readItems]
    cases (fields none).ofItems 0 items with
    | error e => cases e <;> rfl
    | ok p =>
      obtain ⟨r, taken, rest⟩ := p
      cases rest <;> rfl
  | _ => rfl

lemma read_iff {r : Reply} :
    read call j = .ok r ↔ r.call = call ∧ read none j = .ok { r with call := none } := by
  rw [read_eq call, map_eq_ok]
  constructor
  · rintro ⟨r, hr, rfl⟩
    refine ⟨rfl, ?_⟩
    obtain ⟨r', -, rfl⟩ := map_eq_ok.mp ((read_eq none j).symm.trans hr)
    exact hr
  · rintro ⟨rfl, hr⟩
    exact ⟨_, hr, rfl⟩

end Reply

/-! ### Envelopes -/

namespace Frame

/-- The types of the frames that are known. -/
def types : List String := "reply" :: "state" :: Topic.all.map Topic.name

/-- An envelope holds a frame. -/
inductive Held (e : Envelope) : Frame → Prop
  | reply {r : Reply} : e.type = some "reply" → Reply.read e.call e.data = .ok r → Held e (.reply r)
  | state {s : ServerState} : e.type = some "state" → ServerState.read e.data = .ok s →
      Held e (.state s)
  | event {u : Update} : e.type = some u.payload.topic.name → e.call = some u.call →
      e.seq = some u.seq → Payload.read u.payload.topic e.data = .ok u.payload → Held e (.event u)

/-- What becomes of an envelope. -/
inductive Outcome (e : Envelope) : Except FrameError Frame → Prop
  | untyped : e.type = none → Outcome e (.error .missingType)
  | held {f : Frame} : Held e f → Outcome e (.ok f)
  | malformed {name reason : String} : e.type = some name → name ∈ types → (∀ f, ¬ Held e f) →
      Outcome e (.error (.malformed name reason))
  | unknown {name : String} : e.type = some name → name ∉ types →
      Outcome e (.error (.unknownType name))

variable {e : Envelope} {f : Frame}

lemma ofEnvelope_event {t : Topic} {c : CallId} {n : UInt64} (htype : e.type = some t.name)
    (hcall : e.call = some c) (hseq : e.seq = some n) :
    ofEnvelope e = (orMalformed t.name (Payload.read t e.data)).map fun p => .event ⟨c, n, p⟩ := by
  rw [ofEnvelope, htype, hcall, hseq]
  cases t <;> rfl

/-- What an envelope holds is read from it. -/
lemma ofEnvelope_of_held (h : Held e f) : ofEnvelope e = .ok f := by
  cases h with
  | reply htype hread =>
    rw [ofEnvelope, htype, hread]
    rfl
  | state htype hread =>
    rw [ofEnvelope, htype, hread]
    rfl
  | event htype hcall hseq hread =>
    rw [ofEnvelope_event htype hcall hseq, hread]
    rfl

lemma topic_read {t : Topic} {j : Json} {p : Payload} (h : Payload.read t j = .ok p) :
    p.topic = t := by
  cases t with
  | _ =>
    obtain ⟨_, -, rfl⟩ := map_eq_ok.mp h
    rfl

lemma mem_types_of_topic (t : Topic) : t.name ∈ types := by cases t <;> decide

lemma not_mem_types {name : String} (hreply : name ≠ "reply") (hstate : name ≠ "state")
    (h : Topic.ofName? name = none) : name ∉ types := by
  intro hmem
  rcases List.mem_cons.mp hmem with rfl | hmem
  · exact hreply rfl
  rcases List.mem_cons.mp hmem with rfl | hmem
  · exact hstate rfl
  obtain ⟨t, -, rfl⟩ := List.mem_map.mp hmem
  rw [Topic.ofName?_name] at h
  cases h

lemma held_of_event {t : Topic} {c : CallId} {n : UInt64} {p : Payload}
    (htype : e.type = some t.name) (hcall : e.call = some c) (hseq : e.seq = some n)
    (hread : Payload.read t e.data = .ok p) : Held e (.event ⟨c, n, p⟩) := by
  obtain rfl := topic_read hread
  exact .event htype hcall hseq hread

/-- A fault of a known type is the outcome where the envelope does not hold anything. -/
lemma outcome_malformed {name reason : String} (htype : e.type = some name) (hname : name ∈ types)
    (h : ofEnvelope e = .error (.malformed name reason)) : Outcome e (ofEnvelope e) := by
  rw [h]
  refine .malformed htype hname fun f hf => ?_
  cases (ofEnvelope_of_held hf).symm.trans h

lemma outcome_of_orMalformed {α : Type} {name : String} {result : Except ReadError α}
    {frame : α → Frame} (htype : e.type = some name) (hname : name ∈ types)
    (h : ofEnvelope e = (orMalformed name result).map frame)
    (hheld : ∀ a, result = .ok a → Held e (frame a)) : Outcome e (ofEnvelope e) := by
  cases hresult : result with
  | ok a =>
    have hframe : ofEnvelope e = .ok (frame a) := by rw [h, hresult]; rfl
    rw [hframe]
    exact .held (hheld a hresult)
  | error reason =>
    have hfault : ofEnvelope e = .error (.malformed name reason.message) := by
      rw [h, hresult]
      rfl
    exact outcome_malformed htype hname hfault

theorem outcome (e : Envelope) : Outcome e (ofEnvelope e) := by
  cases htype : e.type with
  | none =>
    have hfault : ofEnvelope e = .error .missingType := by rw [ofEnvelope, htype]; rfl
    rw [hfault]
    exact .untyped htype
  | some name =>
    by_cases hreply : name = "reply"
    · subst hreply
      refine outcome_of_orMalformed htype (by decide) ?_ fun _ => .reply htype
      rw [ofEnvelope, htype]
      rfl
    by_cases hstate : name = "state"
    · subst hstate
      refine outcome_of_orMalformed htype (by decide) ?_ fun _ => .state htype
      rw [ofEnvelope, htype]
      rfl
    cases htopic : Topic.ofName? name with
    | none =>
      have hfault : ofEnvelope e = .error (.unknownType name) := by
        rw [ofEnvelope, htype]
        split
        case h_1 heq => cases heq
        case h_2 heq => exact absurd (Option.some.inj heq) hreply
        case h_3 heq => exact absurd (Option.some.inj heq) hstate
        case h_4 heq =>
          cases heq
          rw [htopic]
          rfl
      rw [hfault]
      exact .unknown htype (not_mem_types hreply hstate htopic)
    | some t =>
      obtain rfl : t.name = name := by simpa using List.find?_some htopic
      have hname := mem_types_of_topic t
      cases hcall : e.call with
      | none =>
        have hfault : ofEnvelope e = .error (.malformed t.name "missing call") := by
          rw [ofEnvelope, htype, hcall]
          cases t <;> rfl
        exact outcome_malformed htype hname hfault
      | some c =>
        cases hseq : e.seq with
        | none =>
          have hfault : ofEnvelope e = .error (.malformed t.name "missing seq") := by
            rw [ofEnvelope, htype, hcall, hseq]
            cases t <;> rfl
          exact outcome_malformed htype hname hfault
        | some n =>
          exact outcome_of_orMalformed htype hname (ofEnvelope_event htype hcall hseq)
            fun _ => held_of_event htype hcall hseq

/-! ### Texts -/

/-- The frame that a value is. -/
def ofJson (j : Json) : Frame :=
  match Envelope.read j with
  | .error reason => .unknown (.malformed "frame" reason.message)
  | .ok e => match ofEnvelope e with
    | .ok f => f
    | .error fault => .unknown fault

lemma ofJson_of_error {j : Json} {reason : ReadError} (h : Envelope.read j = .error reason) :
    ofJson j = .unknown (.malformed "frame" reason.message) := by
  simp only [ofJson, h]

lemma ofJson_congr {j j' : Json} {e e' : Envelope} (he : Envelope.read j = .ok e)
    (he' : Envelope.read j' = .ok e') (h : ofEnvelope e = ofEnvelope e') :
    ofJson j = ofJson j' := by
  simp only [ofJson, he, he', h]

lemma decode_of_error {text : String} {fault : Json.SyntaxError}
    (h : Json.parse text = .error fault) : decode text = .unknown (.invalidJson fault.message) := by
  rw [decode, read, h]
  rfl

lemma decode_of_parse {text : String} {j : Json} (h : Json.parse text = .ok j) :
    decode text = ofJson j := by
  rw [decode, read, h, ofJson]
  dsimp only
  cases Envelope.read j <;> rfl

lemma ofJson_of_held {j : Json} (he : Envelope.read j = .ok e) (h : Held e f) : ofJson j = f := by
  rw [ofJson, he]
  dsimp only
  rw [ofEnvelope_of_held h]

/-- A frame that is known has been held by an envelope. -/
lemma held_of_decode {text : String} (h : decode text = f) (hf : ∀ fault, f ≠ .unknown fault) :
    ∃ j e, Json.parse text = .ok j ∧ Envelope.read j = .ok e ∧ Held e f := by
  cases hparse : Json.parse text with
  | error fault => exact absurd (h.symm.trans (decode_of_error hparse)) (hf _)
  | ok j =>
    rw [decode_of_parse hparse, ofJson] at h
    split at h
    case h_1 reason _ => exact absurd h.symm (hf _)
    case h_2 e he =>
      have hout := outcome e
      split at h
      case h_1 f' hof =>
        subst h
        rw [hof] at hout
        cases hout with
        | held hheld => exact ⟨j, e, rfl, he, hheld⟩
      case h_2 fault _ => exact absurd h.symm (hf _)

end Frame

end GroundLink.Protocol
