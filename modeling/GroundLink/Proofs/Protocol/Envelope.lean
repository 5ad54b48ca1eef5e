import GroundLink.Proofs.Protocol.Ids
import GroundLink.Proofs.Schema.Part
import GroundLink.Protocol.Frame

/-!
# Outer members

The type of an envelope and the numbers of its call and its event may be left out or null, and are
read from nothing but what they are written as.
-/

namespace GroundLink.Protocol

open Json Schema Schema.Fields

variable {α : Type} {ms : List (String × Json)}

/-! ### Members that may be left out -/

/-- A member that may be left out or null stands for nothing, or for what it is written as. -/
def Stands (json : α → Json) (member : Option Json) : Option α → Prop
  | none => member = none ∨ member = some .null
  | some a => member = some (json a)

/-- A reader reads nothing but what is written, and nothing is written as null. -/
structure Exact (reader : Reader α) (json : α → Json) : Prop where
  read_iff : ∀ j a, reader j = .ok a ↔ j = json a
  not_null : ∀ a, json a ≠ .null

lemma string_exact : Exact string .string where
  read_iff j s := by
    cases j with
    | string s' => exact ⟨by rintro ⟨⟩; rfl, by rintro ⟨⟩; rfl⟩
    | _ => exact ⟨nofun, nofun⟩
  not_null _ := nofun

lemma uint64_exact : Exact uint64 fun n => .nat n.toNat where
  read_iff j n := by
    refine ⟨fun h => ?_, fun h => h ▸ uint64_nat n⟩
    obtain ⟨i, hi, rfl⟩ := map_eq_ok.mp h
    cases j with
    | number m =>
      cases m with
      | int m =>
        simp only [Schema.int] at hi
        split at hi
        case isTrue hm =>
          obtain rfl := Except.ok.inj hi
          have hsize : m.toNat < UInt64.size := by omega
          rw [UInt64.toNat_ofNat_of_lt' hsize, Json.nat, Int.toNat_of_nonneg hm.1]
        case isFalse => cases hi
      | _ => cases hi
    | _ => cases hi
  not_null _ := nofun

lemma callId_exact : Exact CallId.read CallId.json where
  read_iff j c := by
    refine ⟨fun h => ?_, fun h => h ▸ c.read_json⟩
    obtain ⟨n, hn, rfl⟩ := map_eq_ok.mp h
    exact (uint64_exact.read_iff j n).mp hn
  not_null _ := nofun

namespace Exact

variable {reader : Reader α} {json : α → Json}

lemma optional_iff (h : Exact reader json) {j : Json} {o : Option α} :
    optional reader j = .ok o ↔ Stands json (some j) o := by
  by_cases hj : j = .null
  · subst hj
    cases o with
    | none => exact iff_of_true rfl (.inr rfl)
    | some a => exact iff_of_false nofun fun heq => h.not_null a (Option.some.inj heq).symm
  · rw [optional_of_ne_null hj, map_eq_ok]
    cases o with
    | none =>
      refine iff_of_false (by rintro ⟨a, -, ⟨⟩⟩) ?_
      rintro (⟨⟨⟩⟩ | heq)
      exact hj (Option.some.inj heq)
    | some a =>
      constructor
      · rintro ⟨b, hb, hba⟩
        cases hba
        exact congrArg some ((h.read_iff j a).mp hb)
      · exact fun heq => ⟨a, (h.read_iff j a).mpr (Option.some.inj heq), rfl⟩

lemma nullable_iff (h : Exact reader json) {key : String} {o : Option α} :
    (nullable key reader).ofMembers ms = .ok o ↔ Stands json (lookup key ms) o := by
  simp only [nullable, field]
  cases lookup key ms with
  | none =>
    cases o with
    | none => exact iff_of_true rfl (.inl rfl)
    | some a => exact iff_of_false (by rintro ⟨⟩) (by rintro ⟨⟩)
  | some j =>
    rw [← h.optional_iff]
    dsimp only
    cases optional reader j with
    | ok o' => exact ⟨by rintro ⟨⟩; rfl, by rintro ⟨⟩; rfl⟩
    | error e => exact ⟨by rintro ⟨⟩, by rintro ⟨⟩⟩

lemma not_stands_none (h : Exact reader json) (a : α) : ¬ Stands json (some (json a)) none := by
  rintro (⟨⟨⟩⟩ | heq)
  exact h.not_null a (Option.some.inj heq)

/-- A member stands for one thing only. -/
lemma stands_inj (h : Exact reader json) {member : Option Json} {o o' : Option α}
    (ho : Stands json member o) (ho' : Stands json member o') : o = o' := by
  cases member with
  | none =>
    have hnone : ∀ {o}, Stands json none o → o = none := fun {o} ho => by
      cases o with
      | none => rfl
      | some a => cases ho
    exact (hnone ho).trans (hnone ho').symm
  | some j =>
    cases (h.optional_iff.mpr ho).symm.trans (h.optional_iff.mpr ho')
    rfl

end Exact

/-! ### Envelopes -/

namespace Envelope

/-- The members of an object stand for an envelope. -/
structure Written (e : Envelope) (ms : List (String × Json)) : Prop where
  type : Stands .string (lookup "type" ms) e.type
  call : Stands CallId.json (lookup "call" ms) e.call
  seq : Stands (fun n : UInt64 => .nat n.toNat) (lookup "seq" ms) e.seq
  data : (lookup "data" ms).getD .null = e.data

/-- An object is read as the envelope that its members stand for. -/
theorem read_object {e : Envelope} : read (.object ms) = .ok e ↔ e.Written ms := by
  change (fields.ofMembers ms).mapError Failure.error = .ok e ↔ _
  rw [mapError_eq_ok, fields, ofMembers_kept, map_eq_ok]
  constructor
  · rintro ⟨g, hg, rfl⟩
    obtain ⟨_, n, hcalls, hseq, rfl⟩ := seq_ofMembers_ok.mp hg
    obtain ⟨_, c, htypes, hcall, rfl⟩ := seq_ofMembers_ok.mp hcalls
    obtain ⟨_, t, hmk, htype, rfl⟩ := seq_ofMembers_ok.mp htypes
    cases hmk
    exact ⟨string_exact.nullable_iff.mp htype, callId_exact.nullable_iff.mp hcall,
      uint64_exact.nullable_iff.mp hseq, rfl⟩
  · rintro ⟨htype, hcall, hseq, hdata⟩
    refine ⟨mk e.type e.call e.seq, seq_ofMembers_ok.mpr ⟨_, _, seq_ofMembers_ok.mpr ⟨_, _,
      seq_ofMembers_ok.mpr ⟨_, _, rfl, string_exact.nullable_iff.mpr htype, rfl⟩,
      callId_exact.nullable_iff.mpr hcall, rfl⟩, uint64_exact.nullable_iff.mpr hseq, rfl⟩, ?_⟩
    rw [hdata]

lemma Written.type_iff {e : Envelope} (he : e.Written ms) {name : String} :
    e.type = some name ↔ lookup "type" ms = some (.string name) := by
  constructor
  · intro h
    have htype := he.type
    rwa [h] at htype
  · exact fun h => string_exact.stands_inj he.type h

/-- A list that is read as an envelope begins with its type. -/
lemma read_array {e : Envelope} {items : List Json} (h : read (.array items) = .ok e) :
    ∃ j rest, items = j :: rest ∧ optional string j = .ok e.type := by
  obtain ⟨_, hitems⟩ := readItems_ok.mp h
  rw [fields, ofItems_kept, map_eq_ok] at hitems
  obtain ⟨⟨g, _, _⟩, hitems, heq⟩ := hitems
  obtain ⟨_, _, _, _, hcalls, -, rfl⟩ := seq_ofItems_ok.mp hitems
  obtain ⟨_, _, _, _, htypes, -, rfl⟩ := seq_ofItems_ok.mp hcalls
  obtain ⟨_, _, _, _, hmk, htype, rfl⟩ := seq_ofItems_ok.mp htypes
  cases hmk
  obtain ⟨rfl, -⟩ := Prod.mk.inj heq
  obtain ⟨j, rfl, hj⟩ := nullable_ofItems htype
  exact ⟨j, _, rfl, hj⟩

end Envelope

end GroundLink.Protocol
