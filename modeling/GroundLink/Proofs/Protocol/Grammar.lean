import GroundLink.Proofs.Json.Parsed
import GroundLink.Proofs.Protocol.Part

/-!
# The grammar of frames

The members of an object make one frame: their outer members may have no frame's shape, or lack a
type, or have one that no frame has; with the type of a frame, they are this frame if it can be read
from them, and malformed otherwise.
-/

namespace GroundLink.Protocol

open Json Model Schema

variable {α : Type} {ms : List (String × Json)}

lemma Payload.read_null_ne (t : Topic) (p : Payload) : Payload.read t .null ≠ .ok p := by
  cases t <;> nofun

namespace Frame

/-- The outer members have a shape that no frame has: a type that is not a string, or a number of a
call or an event that is not written as a natural number of 64 bits. -/
def Misshapen (ms : List (String × Json)) : Prop :=
  (∃ j, lookup "type" ms = some j ∧ j ≠ .null ∧ ∀ s, j ≠ .string s)
    ∨ ∃ key ∈ ["call", "seq"], ∃ j, lookup key ms = some j ∧ j ≠ .null
      ∧ ∀ n < UInt64.size, j ≠ .nat n

/-- The members of an object make a known frame. -/
inductive Accepts (ms : List (String × Json)) : Frame → Prop
  | bareReply {c : Option CallId} : lookup "type" ms = some (.string "reply") →
      Stands CallId.json (lookup "call" ms) c →
      lookup "data" ms = none ∨ lookup "data" ms = some .null → Accepts ms (.reply ⟨c, none, none⟩)
  | reply {r : Reply} {j : Json} : lookup "type" ms = some (.string "reply") →
      Stands CallId.json (lookup "call" ms) r.call → lookup "data" ms = some j →
      Reply.read none j = .ok { r with call := none } → Accepts ms (.reply r)
  | state {s : ServerState} {j : Json} : lookup "type" ms = some (.string "state") →
      lookup "data" ms = some j → ServerState.read j = .ok s → Accepts ms (.state s)
  | event {u : Update} {j : Json} : lookup "type" ms = some (.string u.payload.topic.name) →
      lookup "call" ms = some u.call.json → lookup "seq" ms = some (.nat u.seq.toNat) →
      lookup "data" ms = some j → Payload.read u.payload.topic j = .ok u.payload →
      Accepts ms (.event u)

variable {e : Envelope} {f : Frame}

/-! ### Outer members -/

lemma exists_stands_iff {json : α → Json} {member : Option Json} :
    (∃ o, Stands json member o) ↔ ¬ ∃ j, member = some j ∧ j ≠ .null ∧ ∀ a, j ≠ json a := by
  constructor
  · rintro ⟨o, ho⟩ ⟨j, rfl, hnull, hj⟩
    cases o with
    | none => exact ho.elim nofun fun heq => hnull (Option.some.inj heq)
    | some a => exact hj a (Option.some.inj ho)
  · intro h
    cases member with
    | none => exact ⟨none, .inl rfl⟩
    | some j =>
      by_cases hnull : j = .null
      · exact ⟨none, .inr (congrArg some hnull)⟩
      by_cases hj : ∃ a, j = json a
      · obtain ⟨a, rfl⟩ := hj
        exact ⟨some a, rfl⟩
      · exact absurd ⟨j, rfl, hnull, not_exists.mp hj⟩ h

lemma ne_uint64_iff {j : Json} :
    (∀ n < UInt64.size, j ≠ .nat n) ↔ ∀ n : UInt64, j ≠ .nat n.toNat := by
  refine ⟨fun h n => h _ n.toNat_lt_size, fun h n hn => ?_⟩
  have hne := h (.ofNat n)
  rwa [UInt64.toNat_ofNat_of_lt' hn] at hne

/-- Members are misshapen where they stand for no envelope. -/
lemma misshapen_iff : Misshapen ms ↔ ¬ ∃ e : Envelope, e.Written ms := by
  have hwritten : (∃ e : Envelope, e.Written ms)
      ↔ (∃ t, Stands .string (lookup "type" ms) t) ∧ (∃ c, Stands CallId.json (lookup "call" ms) c)
        ∧ ∃ n, Stands (fun n : UInt64 => .nat n.toNat) (lookup "seq" ms) n := by
    constructor
    · rintro ⟨e, he⟩
      exact ⟨⟨_, he.type⟩, ⟨_, he.call⟩, ⟨_, he.seq⟩⟩
    · rintro ⟨⟨t, ht⟩, ⟨c, hc⟩, ⟨n, hn⟩⟩
      exact ⟨⟨t, c, n, _⟩, ht, hc, hn, rfl⟩
  have hcall : ∀ j, (∀ c : CallId, j ≠ c.json) ↔ ∀ n : UInt64, j ≠ .nat n.toNat :=
    fun j => ⟨fun h n => h ⟨n⟩, fun h c => h c.val⟩
  rw [hwritten, exists_stands_iff, exists_stands_iff, exists_stands_iff]
  simp only [Misshapen, List.mem_cons, List.not_mem_nil, or_false, exists_eq_or_imp,
    exists_eq_left, ne_uint64_iff, hcall, not_and_or, not_not]

/-! ### Known frames -/

/-- Nothing but a reply is read from data that are not there. -/
lemma lookup_data {reader : Reader α} {a : α} (he : e.Written ms) (hnull : reader .null ≠ .ok a)
    (h : reader e.data = .ok a) : ∃ j, lookup "data" ms = some j ∧ reader j = .ok a := by
  rw [← he.data] at h
  cases hlookup : lookup "data" ms with
  | none =>
    rw [hlookup] at h
    exact absurd h hnull
  | some j =>
    rw [hlookup] at h
    exact ⟨j, rfl, h⟩

lemma accepts_of_held (he : e.Written ms) (h : Held e f) : Accepts ms f := by
  cases h with
  | @reply r htype hread =>
    have htype := he.type_iff.mp htype
    obtain ⟨hrcall, hread⟩ := Reply.read_iff.mp hread
    have hcall : Stands CallId.json (lookup "call" ms) r.call := hrcall ▸ he.call
    by_cases hnull : lookup "data" ms = none ∨ lookup "data" ms = some .null
    · have hdata : e.data = .null := by
        rw [← he.data]
        rcases hnull with hnone | hnull
        · rw [hnone]; rfl
        · rw [hnull]; rfl
      rw [hdata] at hread
      obtain ⟨c, request, rejection⟩ := r
      cases hread
      exact .bareReply htype hcall hnull
    · obtain ⟨j, hj⟩ := Option.ne_none_iff_exists'.mp (not_or.mp hnull).1
      have hdata : e.data = j := by rw [← he.data, hj]; rfl
      exact .reply htype hcall hj (hdata ▸ hread)
  | state htype hread =>
    obtain ⟨j, hj, hread⟩ := lookup_data he (by nofun) hread
    exact .state (he.type_iff.mp htype) hj hread
  | @event u htype hcall hseq hread =>
    obtain ⟨j, hj, hread⟩ := lookup_data he (Payload.read_null_ne _ _) hread
    have hcall' := he.call
    have hseq' := he.seq
    rw [hcall] at hcall'
    rw [hseq] at hseq'
    exact .event (he.type_iff.mp htype) hcall' hseq' hj hread

lemma held_of_accepts (he : e.Written ms) (h : Accepts ms f) : Held e f := by
  have hdata : ∀ {j}, lookup "data" ms = some j → e.data = j := fun hj => by
    rw [← he.data, hj]
    rfl
  cases h with
  | bareReply htype hcall hnull =>
    have hcall := callId_exact.stands_inj he.call hcall
    refine .reply (he.type_iff.mpr htype) (Reply.read_iff.mpr ⟨hcall.symm, ?_⟩)
    rcases hnull with hnone | hnull
    · rw [← he.data, hnone]
      rfl
    · rw [hdata hnull]
      rfl
  | reply htype hcall hj hread =>
    have hcall := callId_exact.stands_inj he.call hcall
    exact .reply (he.type_iff.mpr htype)
      (Reply.read_iff.mpr ⟨hcall.symm, (hdata hj).symm ▸ hread⟩)
  | state htype hj hread =>
    exact .state (he.type_iff.mpr htype) ((hdata hj).symm ▸ hread)
  | @event u _ htype hcall hseq hj hread =>
    have hcall : Stands CallId.json (lookup "call" ms) (some u.call) := hcall
    have hseq : Stands (fun n : UInt64 => .nat n.toNat) (lookup "seq" ms) (some u.seq) := hseq
    exact .event (he.type_iff.mpr htype) (callId_exact.stands_inj he.call hcall)
      (uint64_exact.stands_inj he.seq hseq) ((hdata hj).symm ▸ hread)

/-! ### Verdicts -/

/-- Which frame the members of an object are. -/
inductive Verdict (ms : List (String × Json)) : Frame → Prop
  | misshapen {reason : String} : Misshapen ms → Verdict ms (.unknown (.malformed "frame" reason))
  | untyped : ¬ Misshapen ms → Stands .string (lookup "type" ms) none →
      Verdict ms (.unknown .missingType)
  | known {f : Frame} : ¬ Misshapen ms → Accepts ms f → Verdict ms f
  | malformed {name reason : String} : ¬ Misshapen ms → lookup "type" ms = some (.string name) →
      name ∈ types → (∀ g, ¬ Accepts ms g) → Verdict ms (.unknown (.malformed name reason))
  | unknownType {name : String} : ¬ Misshapen ms → lookup "type" ms = some (.string name) →
      name ∉ types → Verdict ms (.unknown (.unknownType name))

theorem verdict (ms : List (String × Json)) : Verdict ms (ofJson (.object ms)) := by
  by_cases hshape : Misshapen ms
  · rw [ofJson]
    cases hread : Envelope.read (.object ms) with
    | error reason => exact .misshapen hshape
    | ok e => exact absurd ⟨e, Envelope.read_object.mp hread⟩ (misshapen_iff.mp hshape)
  · obtain ⟨e, he⟩ := not_not.mp (mt misshapen_iff.mpr hshape)
    have hout := outcome e
    rw [ofJson, Envelope.read_object.mpr he]
    dsimp only
    generalize ofEnvelope e = result at hout
    cases hout with
    | untyped htype =>
      have hnone := he.type
      rw [htype] at hnone
      exact .untyped hshape hnone
    | held h => exact .known hshape (accepts_of_held he h)
    | malformed htype hname hnone =>
      exact .malformed hshape (he.type_iff.mp htype) hname
        fun g hg => hnone g (held_of_accepts he hg)
    | unknown htype hname => exact .unknownType hshape (he.type_iff.mp htype) hname

/-- The frame of an object is of a kind if and only if the members meet the conditions of this
kind. -/
structure Decodes (ms : List (String × Json)) (f : Frame) : Prop where
  misshapen : (∃ reason, f = .unknown (.malformed "frame" reason)) ↔ Misshapen ms
  untyped : f = .unknown .missingType
    ↔ ¬ Misshapen ms ∧ (lookup "type" ms = none ∨ lookup "type" ms = some .null)
  known : ∀ g, (∀ fault, g ≠ .unknown fault) → (f = g ↔ ¬ Misshapen ms ∧ Accepts ms g)
  malformed : ∀ name, name ≠ "frame" → ((∃ reason, f = .unknown (.malformed name reason))
    ↔ ¬ Misshapen ms ∧ lookup "type" ms = some (.string name) ∧ name ∈ types
      ∧ ∀ g, ¬ Accepts ms g)
  unknownType : ∀ name, f = .unknown (.unknownType name)
    ↔ ¬ Misshapen ms ∧ lookup "type" ms = some (.string name) ∧ name ∉ types
  json : ∀ message, f ≠ .unknown (.invalidJson message)

lemma Accepts.ne_unknown (h : Accepts ms f) (fault : FrameError) : f ≠ .unknown fault := by
  cases h <;> nofun

lemma Accepts.exists_type (h : Accepts ms f) :
    ∃ name ∈ types, lookup "type" ms = some (.string name) := by
  cases h with
  | bareReply htype => exact ⟨_, by decide, htype⟩
  | reply htype => exact ⟨_, by decide, htype⟩
  | state htype => exact ⟨_, by decide, htype⟩
  | event htype => exact ⟨_, mem_types_of_topic _, htype⟩

/-- Members that are not misshapen make one known frame at most. -/
lemma Accepts.unique {g : Frame} (hshape : ¬ Misshapen ms) (hf : Accepts ms f) (hg : Accepts ms g) :
    f = g := by
  obtain ⟨e, he⟩ := not_not.mp (mt misshapen_iff.mpr hshape)
  have hread := ofEnvelope_of_held (held_of_accepts he hf)
  cases hread.symm.trans (ofEnvelope_of_held (held_of_accepts he hg))
  rfl

lemma not_untyped {name : String} (htype : lookup "type" ms = some (.string name)) :
    ¬ Stands .string (lookup "type" ms) none := by
  rw [htype]
  exact string_exact.not_stands_none name

lemma type_inj {name name' : String} (h : lookup "type" ms = some (.string name))
    (h' : lookup "type" ms = some (.string name')) : name = name' := by
  cases h.symm.trans h'
  rfl

namespace Verdict

variable (h : Verdict ms f)
include h

lemma misshapen_iff : (∃ reason, f = .unknown (.malformed "frame" reason)) ↔ Misshapen ms := by
  constructor
  · rintro ⟨reason, rfl⟩
    cases h with
    | misshapen hshape => exact hshape
    | known _ hf => exact absurd rfl (hf.ne_unknown _)
    | malformed _ _ hname => exact absurd hname (by decide)
  · intro hshape
    cases h with
    | misshapen => exact ⟨_, rfl⟩
    | untyped hnot | known hnot | malformed hnot | unknownType hnot => exact absurd hshape hnot

lemma untyped_iff :
    f = .unknown .missingType ↔ ¬ Misshapen ms ∧ Stands .string (lookup "type" ms) none := by
  constructor
  · rintro rfl
    cases h with
    | untyped hshape htype => exact ⟨hshape, htype⟩
    | known _ hf => exact absurd rfl (hf.ne_unknown _)
  · rintro ⟨hshape, hnone⟩
    cases h with
    | misshapen hnot => exact absurd hnot hshape
    | untyped => rfl
    | known _ hf =>
      obtain ⟨name, -, htype⟩ := hf.exists_type
      exact absurd hnone (not_untyped htype)
    | malformed _ htype | unknownType _ htype => exact absurd hnone (not_untyped htype)

lemma known_iff {g : Frame} (hg : ∀ fault, g ≠ .unknown fault) :
    f = g ↔ ¬ Misshapen ms ∧ Accepts ms g := by
  constructor
  · rintro rfl
    cases h with
    | known hshape hf => exact ⟨hshape, hf⟩
    | misshapen | untyped | malformed | unknownType => exact absurd rfl (hg _)
  · rintro ⟨hshape, hg⟩
    obtain ⟨name, hname, htype⟩ := hg.exists_type
    cases h with
    | misshapen hnot => exact absurd hnot hshape
    | untyped _ hnone => exact absurd hnone (not_untyped htype)
    | known _ hf => exact hf.unique hshape hg
    | malformed _ _ _ hnone => exact absurd hg (hnone g)
    | unknownType _ htype' hname' => exact absurd (type_inj htype htype' ▸ hname) hname'

lemma malformed_iff {name : String} (hne : name ≠ "frame") :
    (∃ reason, f = .unknown (.malformed name reason))
      ↔ ¬ Misshapen ms ∧ lookup "type" ms = some (.string name) ∧ name ∈ types
        ∧ ∀ g, ¬ Accepts ms g := by
  constructor
  · rintro ⟨reason, rfl⟩
    cases h with
    | misshapen => exact absurd rfl hne
    | known _ hf => exact absurd rfl (hf.ne_unknown _)
    | malformed hshape htype hname hnone => exact ⟨hshape, htype, hname, hnone⟩
  · rintro ⟨hshape, htype, hname, hnone⟩
    cases h with
    | misshapen hnot => exact absurd hnot hshape
    | untyped _ huntyped => exact absurd huntyped (not_untyped htype)
    | known _ hf => exact absurd hf (hnone f)
    | malformed _ htype' =>
      cases type_inj htype htype'
      exact ⟨_, rfl⟩
    | unknownType _ htype' hname' => exact absurd (type_inj htype htype' ▸ hname) hname'

lemma unknownType_iff {name : String} : f = .unknown (.unknownType name)
    ↔ ¬ Misshapen ms ∧ lookup "type" ms = some (.string name) ∧ name ∉ types := by
  constructor
  · rintro rfl
    cases h with
    | known _ hf => exact absurd rfl (hf.ne_unknown _)
    | unknownType hshape htype hname => exact ⟨hshape, htype, hname⟩
  · rintro ⟨hshape, htype, hname⟩
    cases h with
    | misshapen hnot => exact absurd hnot hshape
    | untyped _ huntyped => exact absurd huntyped (not_untyped htype)
    | known _ hf =>
      obtain ⟨name', hname', htype'⟩ := hf.exists_type
      exact absurd (type_inj htype' htype ▸ hname') hname
    | malformed _ htype' hname' => exact absurd (type_inj htype' htype ▸ hname') hname
    | unknownType _ htype' =>
      cases type_inj htype htype'
      rfl

lemma decodes : Decodes ms f where
  misshapen := h.misshapen_iff
  untyped := h.untyped_iff
  known _ := h.known_iff
  malformed _ := h.malformed_iff
  unknownType _ := h.unknownType_iff
  json message := by
    rintro rfl
    cases h with
    | known _ hf => exact absurd rfl (hf.ne_unknown _)

end Verdict

/-! ### Texts -/

/-- Texts of which the same is looked at are the same frame. -/
lemma decode_of_part {text text' : String} {j j' : Json} (h : parse text = .ok j)
    (h' : parse text' = .ok j') (hpart : part j' = part j) : decode text' = decode text := by
  rw [decode_of_parse h', decode_of_parse h, ← ofJson_part j', hpart, ofJson_part]

/-- A text is the frame that its JSON is: one by the members of an object, a malformed one if the
JSON is neither an object nor a list, and invalid if there is none. Nothing but the part of a frame
decides which frame it is, and so nothing does under a key that no outer member has. -/
theorem decode_grammar (text : String) :
    (∀ fault, parse text = .error fault → decode text = .unknown (.invalidJson fault.message))
    ∧ (∀ j, parse text = .ok j → (∀ ms, j ≠ .object ms) → (∀ items, j ≠ .array items) →
        ∃ reason, decode text = .unknown (.malformed "frame" reason))
    ∧ (∀ ms, parse text = .ok (.object ms) → Decodes ms (decode text))
    ∧ (∀ text' j j', parse text = .ok j → parse text' = .ok j' → part j' = part j →
        decode text' = decode text)
    ∧ (∀ text' ms key v, parse text = .ok (.object ms) → key ∉ keys →
        parse text' = .ok (.object (insert key v ms)) → decode text' = decode text) := by
  refine ⟨fun _ => decode_of_error, fun j hparse hobject harray => ?_, fun ms hparse => ?_,
    fun text' j j' => decode_of_part, fun text' ms key v hparse hkey hparse' => ?_⟩
  · rw [decode_of_parse hparse]
    cases j with
    | object ms => exact absurd rfl (hobject ms)
    | array items => exact absurd rfl (harray items)
    | _ => exact ⟨_, rfl⟩
  · rw [decode_of_parse hparse]
    exact (verdict ms).decodes
  · exact decode_of_part hparse hparse' (part_insert hkey v ms)

/-- A member that no frame has and no time either. -/
def zoneMember (zone : Option String) : List (String × Json) :=
  zone.toList.map fun z => ("zone", .string z)

/-- A frame about the time, which may have a further member inside its data and outside of them. -/
def timeMembers (inside outside : Option String) : List (String × Json) :=
  [("call", .nat 5),
    ("data", .object (("value", .string "2024-05-01T00:00:00Z") :: zoneMember inside)),
    ("seq", .nat 7), ("type", .string "time")] ++ zoneMember outside

/-- The text of a frame about the time. -/
def timeText (inside outside : Option String) : String :=
  (Json.object (timeMembers inside outside)).text

lemma parse_timeText (inside outside : Option String) :
    parse (timeText inside outside) = .ok (.object (timeMembers inside outside)) := by
  let data := ("value", Json.string "2024-05-01T00:00:00Z") :: zoneMember inside
  have hzone : ∀ {depth zone}, ∀ m ∈ zoneMember zone, Rereads depth m.2 m.2 :=
    List.forall_mem_map.mpr fun z _ => .string z
  have hdata : Rereads 126 (.object data) (.object data) := by
    refine .ascending (ascending_iff_keys.mpr ?_) (List.forall_mem_cons.mpr ⟨.string _, hzone⟩)
    cases inside with
    | none => exact (by decide : ["value"].Pairwise (· < ·))
    | some z => exact (by decide : ["value", "zone"].Pairwise (· < ·))
  have hascending : Ascending (timeMembers inside outside) := by
    rw [ascending_iff_keys]
    cases outside with
    | none => exact (by decide : ["call", "data", "seq", "type"].Pairwise (· < ·))
    | some z => exact (by decide : ["call", "data", "seq", "type", "zone"].Pairwise (· < ·))
  refine (Rereads.ascending hascending ?_).parse
  simp only [timeMembers, List.forall_mem_append, List.forall_mem_cons]
  exact ⟨⟨.int (by decide) (by decide), hdata, .int (by decide) (by decide), .string _,
    List.forall_mem_nil _⟩, hzone⟩

theorem decode_grammar_time :
    decode "" = .unknown (.invalidJson "EOF while parsing a value at line 1 column 0")
    ∧ (∃ reason, decode (Json.nat 3).text = .unknown (.malformed "frame" reason))
    ∧ Decodes (timeMembers none none) (decode (timeText none none))
    ∧ (decode (timeText none none)).label = "time"
    ∧ decode (timeText (some "UTC") none) = decode (timeText none none)
    ∧ decode (timeText none (some "UTC")) = decode (timeText none none) := by
  have hempty : ∃ fault, parse "" = .error fault
      ∧ fault.message = "EOF while parsing a value at line 1 column 0" := ⟨_, rfl, by decide⟩
  obtain ⟨fault, hempty, hmessage⟩ := hempty
  have hnat : parse (Json.nat 3).text = .ok (.nat 3) :=
    Rereads.parse (.int (by decide) (by decide))
  obtain ⟨-, -, hobject, hpart, hinsert⟩ := decode_grammar (timeText none none)
  refine ⟨hmessage ▸ (decode_grammar "").1 fault hempty,
    (decode_grammar _).2.1 _ hnat nofun nofun, hobject _ (parse_timeText ..), by decide +kernel,
    hpart _ _ _ (parse_timeText ..) (parse_timeText (some "UTC") none) rfl,
    hinsert _ _ "zone" (.string "UTC") (parse_timeText ..) (by decide) ?_⟩
  exact parse_timeText none (some "UTC")

end Frame

end GroundLink.Protocol
