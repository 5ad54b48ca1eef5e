import GroundLink.Model.Command
import GroundLink.Model.Event
import GroundLink.Model.Link
import GroundLink.Model.MissionTime
import GroundLink.Model.Parameter
import GroundLink.Model.ServerState
import GroundLink.Proofs.Schema.Part

/-!
# What is looked at of what the server tells

Each record is read from the members under its own keys, each value from its type and from the
members of its kind. All other members may be anything.
-/

namespace GroundLink.Model

open Json Protocol Schema Schema.Fields

/-! ### Names, time and links -/

namespace ObjectName

def part : Part := .record [("name", .whole), ("namespace", .whole)]

lemma read_looksAt (origin : Origin) : (read origin).LooksAt part :=
  LooksAt.read (.seq (.map (required_whole _ _) _) (maybe_whole _ _)) (by simp) _ _

end ObjectName

namespace MissionTime

def part : Part := .record [("value", .whole)]

lemma read_looksAt : read.LooksAt part :=
  LooksAt.read (.map (required_whole _ _) _) (by simp) _ _

end MissionTime

namespace LinkAction

def part : Part :=
  .record [("id", .whole), ("label", .whole), ("style", .whole), ("enabled", .whole),
    ("checked", .whole)]

lemma read_looksAt : read.LooksAt part :=
  LooksAt.read (.seq (.seq (.seq (.seq (.map (required_whole _ _) _)
    (required_whole _ _)) (required_whole _ _)) (required_whole _ _)) (withDefault_whole _ _ _))
    (by simp) _ _

end LinkAction

namespace Link

def part : Part :=
  .record [("instance", .whole), ("name", .whole), ("type", .whole), ("spec", .whole),
    ("disabled", .whole), ("status", .whole), ("dataInCount", .whole), ("dataOutCount", .whole),
    ("detailedStatus", .whole), ("parentName", .whole), ("actions", LinkAction.part.items),
    ("parameters", .whole)]

lemma read_looksAt : read.LooksAt part :=
  LooksAt.read (.seq (.seq (.seq (.seq (.seq (.seq (.seq (.seq (.seq (.seq (.seq
    (.map (required_whole _ _) _)
    (required_whole _ _)) (required_whole _ _)) (maybe_whole _ _)) (withDefault_whole _ _ _))
    (required_whole _ _)) (required_whole _ _)) (required_whole _ _)) (maybe_whole _ _))
    (maybe_whole _ _)) (maybe_looksAt _ (list_looksAt LinkAction.read_looksAt))) (maybe_whole _ _))
    (by simp) _ _

def allPart : Part := .record [("links", part.items)]

lemma readAll_looksAt : readAll.LooksAt allPart :=
  LooksAt.read (.map (withDefault_looksAt _ (list_looksAt read_looksAt) _) _) (by simp) _ _

end Link

/-! ### Values -/

namespace Value

/-- The keys that a value of a type is read from. -/
def keys (tag : Option Json) : List String :=
  "type" :: match tag.map ValueKind.read with
    | some (.ok kind) => kind.key :: kind.alias?.toList
    | _ => []

/-- The members that a value is read from, by its type. -/
def part : Part where
  of
    | .object ms => .object (ms.filter fun m => m.1 ∈ keys (lookup "type" ms))
    | j => j
  null_iff j := by cases j <;> simp

lemma lookup_filter {ks : List String} {key : String} (h : key ∈ ks) (ms : List (String × Json)) :
    lookup key (ms.filter fun m => m.1 ∈ ks) = lookup key ms := by
  induction ms with
  | nil => rfl
  | cons m ms ih =>
    by_cases hm : m.1 ∈ ks
    · rw [List.filter_cons_of_pos (by simpa using hm), lookup, lookup, ih]
    · have hne : m.1 ≠ key := fun heq => hm (heq ▸ h)
      rw [List.filter_cons_of_neg (by simpa using hm), ih, lookup, if_neg hne]

lemma readMembers_congr {kind : ValueKind} {ms ms' : List (String × Json)}
    (h : ∀ key ∈ kind.key :: kind.alias?.toList, lookup key ms' = lookup key ms) :
    readMembers kind ms' = readMembers kind ms := by
  have hother : kind.alias?.bind (lookup · ms') = kind.alias?.bind (lookup · ms) := by
    cases halias : kind.alias? with
    | none => rfl
    | some key => exact h key (by rw [halias]; exact .tail _ (.head _))
  rw [readMembers, readMembers, h _ (.head _), hother]

lemma read_looksAt : read.LooksAt part := by
  intro j
  cases j with
  | object ms =>
    have hlookup := fun key (h : key ∈ keys (lookup "type" ms)) => lookup_filter h ms
    have htype := hlookup "type" (.head _)
    change read (.object (ms.filter fun m => m.1 ∈ keys (lookup "type" ms))) = _
    simp only [read, htype]
    cases htag : lookup "type" ms with
    | none => rfl
    | some tag =>
      dsimp only
      cases hkind : ValueKind.read tag with
      | error e => rfl
      | ok kind =>
        refine readMembers_congr fun key hkey => ?_
        rw [← htag]
        exact hlookup key (by rw [keys, htag, Option.map_some, hkind]; exact .tail _ hkey)
  | _ => rfl

end Value

/-! ### Parameters -/

namespace ParameterValue

def part : Part :=
  .record [("numericId", .whole), ("rawValue", Value.part), ("engValue", Value.part),
    ("generationTime", .whole), ("acquisitionTime", .whole)]

lemma read_looksAt : read.LooksAt part :=
  LooksAt.read (.seq (.seq (.seq (.seq (.map (required_whole _ _) _)
    (maybe_looksAt _ Value.read_looksAt)) (required_looksAt _ Value.read_looksAt))
    (required_whole _ _)) (maybe_whole _ _)) (by simp) _ _

end ParameterValue

lemma Mapping.read_looksAt : Mapping.read.LooksAt ObjectName.part.values :=
  looksAt_map (members_looksAt numericKey (ObjectName.read_looksAt .direct)) _

namespace ParameterData

def part : Part :=
  .record [("mapping", ObjectName.part.values), ("values", ParameterValue.part.items)]

lemma read_looksAt : read.LooksAt part :=
  LooksAt.read (.seq (.map (maybe_looksAt _ Mapping.read_looksAt) _)
    (maybe_looksAt _ (list_looksAt ParameterValue.read_looksAt))) (by simp) _ _

end ParameterData

/-! ### Commands and events -/

namespace CommandId

def part : Part :=
  .record [("generationTime", .whole), ("origin", .whole), ("sequenceNumber", .whole),
    ("commandName", .whole)]

lemma read_looksAt : read.LooksAt part :=
  LooksAt.read (.seq (.seq (.seq (.map (required_whole _ _) _)
    (required_whole _ _)) (required_whole _ _)) (required_whole _ _)) (by simp) _ _

end CommandId

namespace Attribute

def part : Part := .record [("name", .whole), ("value", Value.part)]

lemma read_looksAt : read.LooksAt part :=
  LooksAt.read (.seq (.map (required_whole _ _) _) (required_looksAt _ Value.read_looksAt))
    (by simp) _ _

end Attribute

namespace Assignment

def part : Part := .record [("name", .whole), ("value", Value.part), ("userInput", .whole)]

lemma read_looksAt : read.LooksAt part :=
  LooksAt.read (.seq (.seq (.map (required_whole _ _) _)
    (required_looksAt _ Value.read_looksAt)) (withDefault_whole _ _ _)) (by simp) _ _

end Assignment

namespace CommandEntry

def part : Part :=
  .record [("id", .whole), ("commandName", .whole), ("aliases", .whole), ("origin", .whole),
    ("sequenceNumber", .whole), ("commandId", CommandId.part), ("attr", Attribute.part.items),
    ("generationTime", .whole), ("assignments", Assignment.part.items)]

lemma read_looksAt : read.LooksAt part :=
  LooksAt.read (.seq (.seq (.seq (.seq (.seq (.seq (.seq (.seq (.map (required_whole _ _) _)
    (required_whole _ _)) (maybe_whole _ _)) (required_whole _ _)) (maybe_whole _ _))
    (maybe_looksAt _ CommandId.read_looksAt))
    (withDefault_looksAt _ (list_looksAt Attribute.read_looksAt) _)) (required_whole _ _))
    (maybe_looksAt _ (list_looksAt Assignment.read_looksAt))) (by simp) _ _

end CommandEntry

namespace Event

def part : Part :=
  .record [("source", .whole), ("generationTime", .whole), ("receptionTime", .whole),
    ("seqNumber", .whole), ("type", .whole), ("message", .whole), ("severity", .whole)]

lemma read_looksAt : read.LooksAt part :=
  LooksAt.read (.seq (.seq (.seq (.seq (.seq (.seq (.map (required_whole _ _) _)
    (required_whole _ _)) (required_whole _ _)) (required_whole _ _)) (maybe_whole _ _))
    (required_whole _ _)) (required_whole _ _)) (by simp) _ _

end Event

/-! ### Server state -/

namespace OpenCall

def part : Part := .record [("call", .whole), ("type", .whole), ("options", .whole)]

lemma read_looksAt : read.LooksAt part :=
  LooksAt.read (.seq (.seq (.map (required_whole _ _) _) (required_whole _ _)) (maybe_whole _ _))
    (by simp) _ _

end OpenCall

namespace ServerState

def part : Part := .record [("calls", OpenCall.part.items)]

lemma read_looksAt : read.LooksAt part :=
  LooksAt.read (.map (withDefault_looksAt _ (list_looksAt OpenCall.read_looksAt) _) _) (by simp) _ _

end ServerState

end GroundLink.Model
