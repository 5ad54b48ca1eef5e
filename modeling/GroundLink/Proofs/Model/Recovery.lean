import GroundLink.Model.Command
import GroundLink.Model.Event
import GroundLink.Model.Link
import GroundLink.Model.MissionTime
import GroundLink.Model.ServerState
import GroundLink.Proofs.Model.Value
import GroundLink.Proofs.Protocol.Ids

/-!
# What the server tells is recovered

Whatever has been read of the time, the links, the commands, the events and the state of the server
is recovered.
-/

namespace GroundLink

open Json Schema Schema.Fields

variable {depth : Nat}

namespace Model

open Protocol

/-! ### Names to choose from -/

lemma choice_faithful {α : Type} {choices : List (String × α)} {origin : Origin} {name : α → String}
    (hname : ∀ a, named choices (name a) = .ok a) :
    (choice choices origin).Faithful depth fun a => .string (name a) :=
  faithful_of_read (fun _ => .string _) hname

lemma Severity.read_faithful : Severity.read.Faithful depth fun s => .string s.name :=
  choice_faithful fun s => by cases s <;> rfl

lemma ActionStyle.read_faithful : ActionStyle.read.Faithful depth fun s => .string s.name :=
  choice_faithful fun s => by cases s <;> rfl

/-! ### Time and links -/

theorem MissionTime.read_faithful (depth : Nat) : MissionTime.read.Faithful (depth + 1) json := by
  refine Faithful.read (.map (required_faithful "value" instant_faithful) ?_) _ _
  exact fun _ => ⟨rfl, by simp⟩

theorem LinkAction.read_faithful (depth : Nat) : LinkAction.read.Faithful (depth + 1) json := by
  refine Faithful.read (.seq (.seq (.seq (.seq (.map (required_faithful "id" string_faithful) ?_)
    (required_faithful "label" string_faithful))
    (required_faithful "style" ActionStyle.read_faithful))
    (required_faithful "enabled" bool_faithful))
    (withDefault_faithful "checked" bool_faithful fun _ => ⟨_, .bool false, rfl⟩)) _ _
  exact fun _ _ _ _ _ => ⟨rfl, by simp⟩

theorem Link.read_faithful (depth : Nat) : Link.read.Faithful (depth + 3) json := by
  have hactions := list_faithful (LinkAction.read_faithful depth)
  refine Faithful.read (.seq (.seq (.seq (.seq (.seq (.seq (.seq (.seq (.seq (.seq (.seq
    (.map (required_faithful "instance" string_faithful) ?_)
    (required_faithful "name" string_faithful))
    (required_faithful "type" string_faithful))
    (maybe_faithful "spec" string_faithful nofun))
    (withDefault_faithful "disabled" bool_faithful fun _ => ⟨_, .bool false, rfl⟩))
    (required_faithful "status" string_faithful))
    (required_faithful "dataInCount" lenientUInt64_faithful))
    (required_faithful "dataOutCount" lenientUInt64_faithful))
    (maybe_faithful "detailedStatus" string_faithful nofun))
    (maybe_faithful "parentName" string_faithful nofun))
    (maybe_faithful "actions" hactions nofun))
    (maybe_faithful "parameters" (list_faithful string_faithful) nofun)) _ _
  exact fun _ _ _ _ _ _ _ _ _ _ _ _ => ⟨rfl, by simp⟩

theorem Link.readAll_faithful (depth : Nat) : Link.readAll.Faithful (depth + 5) allJson := by
  have hlinks := list_faithful (Link.read_faithful depth)
  refine Faithful.read (.map (withDefault_faithful "links" hlinks empty_recovers) ?_) _ _
  exact fun _ => ⟨rfl, by simp⟩

/-! ### Commands -/

theorem CommandId.read_faithful (depth : Nat) : CommandId.read.Faithful (depth + 1) json := by
  refine Faithful.read (.seq (.seq (.seq
    (.map (required_faithful "generationTime" instant_faithful) ?_)
    (required_faithful "origin" string_faithful))
    (required_faithful "sequenceNumber" int64_faithful))
    (required_faithful "commandName" string_faithful)) _ _
  exact fun _ _ _ _ => ⟨rfl, by simp⟩

theorem Attribute.read_faithful (depth : Nat) : Attribute.read.Faithful (depth + 2) json := by
  refine Faithful.read (.seq (.map (required_faithful "name" string_faithful) ?_)
    (required_faithful "value" (Value.read_faithful depth))) _ _
  exact fun _ _ => ⟨rfl, by simp⟩

theorem Assignment.read_faithful (depth : Nat) : Assignment.read.Faithful (depth + 2) json := by
  refine Faithful.read (.seq (.seq (.map (required_faithful "name" string_faithful) ?_)
    (required_faithful "value" (Value.read_faithful depth)))
    (withDefault_faithful "userInput" bool_faithful fun _ => ⟨_, .bool false, rfl⟩)) _ _
  exact fun _ _ _ => ⟨rfl, by simp⟩

theorem CommandEntry.read_faithful (depth : Nat) : CommandEntry.read.Faithful (depth + 4) json := by
  have hattributes := list_faithful (Attribute.read_faithful depth)
  have hassignments := list_faithful (Assignment.read_faithful depth)
  refine Faithful.read (.seq (.seq (.seq (.seq (.seq (.seq (.seq (.seq
    (.map (required_faithful "id" string_faithful) ?_)
    (required_faithful "commandName" string_faithful))
    (maybe_faithful "aliases" strings_faithful nofun))
    (required_faithful "origin" string_faithful))
    (maybe_faithful "sequenceNumber" int64_faithful nofun))
    (maybe_faithful "commandId" (CommandId.read_faithful _) nofun))
    (withDefault_faithful "attr" hattributes empty_recovers))
    (required_faithful "generationTime" instant_faithful))
    (maybe_faithful "assignments" hassignments nofun)) _ _
  exact fun _ _ _ _ _ _ _ _ _ => ⟨rfl, by simp⟩

/-! ### Events -/

theorem Event.read_faithful (depth : Nat) : Event.read.Faithful (depth + 1) json := by
  refine Faithful.read (.seq (.seq (.seq (.seq (.seq (.seq
    (.map (required_faithful "source" string_faithful) ?_)
    (required_faithful "generationTime" instant_faithful))
    (required_faithful "receptionTime" instant_faithful))
    (required_faithful "seqNumber" lenientInt64_faithful))
    (maybe_faithful "type" string_faithful nofun))
    (required_faithful "message" string_faithful))
    (required_faithful "severity" Severity.read_faithful)) _ _
  exact fun _ _ _ _ _ _ _ => ⟨rfl, by simp⟩

/-! ### Server state -/

theorem OpenCall.read_faithful (depth : Nat) : OpenCall.read.Faithful (depth + 1) json := by
  refine Faithful.read (.seq (.seq (.map (required_faithful "call" CallId.read_faithful) ?_)
    (required_faithful "type" string_faithful))
    (maybeAny_faithful "options")) _ _
  exact fun _ _ _ => ⟨rfl, by simp⟩

theorem ServerState.read_faithful (depth : Nat) : ServerState.read.Faithful (depth + 3) json := by
  have hcalls := list_faithful (OpenCall.read_faithful depth)
  refine Faithful.read (.map (withDefault_faithful "calls" hcalls empty_recovers) ?_) _ _
  exact fun _ => ⟨rfl, by simp⟩

end Model

end GroundLink
