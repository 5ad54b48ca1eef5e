import GroundLink.Proofs.Json.Parsed
import GroundLink.Proofs.Schema.Fields
import GroundLink.Proofs.Schema.Members
import GroundLink.Proofs.Text.Base64
import GroundLink.Proofs.Time.Reading

/-!
# Values that are recovered

A value that a reader has given is recovered, if the reader gives it once more from the text that it
is written as. A record is recovered where each of its fields is.
-/

namespace GroundLink.Schema

open Json

variable {α β : Type} {depth : Nat}

/-! ### Readers -/

/-- A value without floating-point numbers is given once more from what it is written as. -/
def Recovers (depth : Nat) (reader : Reader α) (json : α → Json) (a : α) : Prop :=
  FloatFree (json a) → ∃ w, Rereads depth (json a) w ∧ reader w = .ok a

/-- Whatever a reader gives is recovered. -/
def Reader.Faithful (reader : Reader α) (depth : Nat) (json : α → Json) : Prop :=
  reader.Gives (Parsed depth) (Recovers depth reader json)

lemma faithful_of_read {reader : Reader α} {json : α → Json}
    (hreads : ∀ a, Rereads depth (json a) (json a)) (hread : ∀ a, reader (json a) = .ok a) :
    reader.Faithful depth json :=
  fun _ a _ _ _ => ⟨json a, hreads a, hread a⟩

lemma faithful_map {reader : Reader α} {f : α → β} {json : α → Json} {json' : β → Json}
    (h : reader.Faithful depth json) (hjson : ∀ a, json' (f a) = json a) :
    Reader.Faithful (fun j => (reader j).map f) depth json' := by
  intro j b hj hb hfree
  obtain ⟨a, ha, rfl⟩ := map_eq_ok.mp hb
  rw [hjson] at hfree ⊢
  obtain ⟨w, hw, hread⟩ := h j a hj ha hfree
  exact ⟨w, hw, map_eq_ok.mpr ⟨a, hread, rfl⟩⟩

lemma string_faithful : string.Faithful depth .string := faithful_of_read .string fun _ => rfl

lemma bool_faithful : bool.Faithful depth .bool := faithful_of_read .bool fun _ => rfl

lemma instant_faithful : instant.Faithful depth fun t => .string t.text := by
  intro j t _ hread _
  refine ⟨_, .string _, ?_⟩
  cases j with
  | string s =>
    simp only [instant] at hread
    split at hread
    case h_1 t' ht =>
      cases hread
      have hchars : t.text.toList = t.chars := String.toList_ofList
      simp only [instant, hchars, Time.Instant.read_chars (Time.Instant.valid_of_read ht)]
    case h_2 => cases hread
  | _ => cases hread

lemma bytes_faithful :
    bytes.Faithful depth fun b => .string (String.ofList (Text.Base64.encode b)) := by
  refine faithful_of_read (fun _ => .string _) fun b => bind_eq_ok.mpr ⟨_, rfl, ?_⟩
  rw [Text.Base64.decode_encode]
  rfl

lemma uint32_faithful : uint32.Faithful depth fun n => .nat n.toNat :=
  faithful_of_read (rereads_uint32 · depth) uint32_nat

lemma uint64_faithful : uint64.Faithful depth fun n => .nat n.toNat :=
  faithful_of_read (rereads_uint64 · depth) uint64_nat

lemma int32_faithful : int32.Faithful depth fun n => .int n.toInt :=
  faithful_of_read (rereads_int32 · depth) int32_int

lemma int64_faithful : int64.Faithful depth fun n => .int n.toInt :=
  faithful_of_read (rereads_int64 · depth) int64_int

lemma lenientUInt64_faithful : lenientUInt64.Faithful depth fun n => .nat n.toNat :=
  faithful_of_read (rereads_uint64 · depth) lenientUInt64_nat

lemma lenientInt64_faithful : lenientInt64.Faithful depth fun n => .int n.toInt :=
  faithful_of_read (rereads_int64 · depth) lenientInt64_int

/-! ### Lists -/

/-- The items of a list are recovered together where each of them is. -/
lemma recovers_list {reader : Reader α} {json : α → Json} {as : List α}
    (h : ∀ a ∈ as, Recovers depth reader json a) :
    Recovers (depth + 1) (list reader) (fun as => .array (as.map json)) as := by
  intro hfree
  rw [floatFree_array, List.forall_mem_map] at hfree
  have hitems : ∃ xs : List (Json × Json), (∀ x ∈ xs, Rereads depth x.1 x.2)
      ∧ as.map json = xs.map (·.1)
      ∧ List.Forall₂ (fun w a => reader w = .ok a) (xs.map (·.2)) as := by
    induction as with
    | nil => exact ⟨[], nofun, rfl, .nil⟩
    | cons a as ih =>
      obtain ⟨ha, has⟩ := List.forall_mem_cons.mp h
      obtain ⟨hfirst, hfree⟩ := List.forall_mem_cons.mp hfree
      obtain ⟨w, hw, hread⟩ := ha hfirst
      obtain ⟨xs, hxs, hjson, hreads⟩ := ih has hfree
      exact ⟨(json a, w) :: xs, List.forall_mem_cons.mpr ⟨hw, hxs⟩, congrArg (json a :: ·) hjson,
        .cons hread hreads⟩
  obtain ⟨xs, hxs, hjson, hreads⟩ := hitems
  refine ⟨.array (xs.map (·.2)), ?_, mapM_eq_ok.mpr hreads⟩
  change Rereads _ (.array (as.map json)) _
  exact hjson ▸ .array xs hxs

lemma empty_recovers {reader : Reader α} {json : α → Json} :
    Recovers (depth + 1) (list reader) (fun as => .array (as.map json)) [] :=
  recovers_list (List.forall_mem_nil _)

lemma parsed_encloses : Encloses (Parsed (depth + 1)) (Parsed depth) :=
  ⟨fun _ => Parsed.items, fun _ => Parsed.members⟩

lemma list_faithful {reader : Reader α} {json : α → Json} (h : reader.Faithful depth json) :
    (list reader).Faithful (depth + 1) fun as => .array (as.map json) :=
  (list_gives h parsed_encloses).imp fun _ => recovers_list

/-- Strings under some keys are written as they have been read. -/
lemma strings_faithful : Reader.Faithful (members .ok string) (depth + 1) fun ss =>
    .object (ss.map fun (key, s) => (key, .string s)) := by
  intro j ss hj hread hfree
  cases j with
  | object ms =>
    have hreads : List.Forall₂ (fun m s => (do return (← .ok m.1, ← string m.2) :
        Except ReadError (String × String)) = .ok s) ms ss := mapM_eq_ok.mp hread
    have hsame : ss.map (fun (key, s) => (key, Json.string s)) = ms := by
      clear hread hj hfree
      induction hreads with
      | nil => rfl
      | @cons m s ms ss hm _ ih =>
        obtain ⟨key, j⟩ := m
        cases j with
        | string s' =>
          cases hm
          exact congrArg ((key, Json.string s') :: ·) ih
        | _ => cases hm
    dsimp only at hfree ⊢
    rw [hsame] at hfree ⊢
    exact ⟨_, hj.rereads hfree, hread⟩
  | _ => cases hread

/-! ### Optional values -/

/-- A value of any kind that is not null is held. -/
lemma optional_any_gives : Reader.Gives (optional any) (Parsed depth)
    fun o => ∀ v ∈ o, Parsed depth v ∧ optional any v = .ok (some v) := by
  intro j o hj ho v hv
  subst hv
  cases j with
  | null => cases ho
  | _ =>
    cases ho
    exact ⟨hj, rfl⟩

lemma optional_of_not_null {reader : Reader α} {j : Json} {a : α}
    (hnull : reader .null ≠ .ok a) (h : reader j = .ok a) : optional reader j = .ok (some a) := by
  have hj : j ≠ .null := by
    rintro rfl
    exact hnull h
  rw [optional_of_ne_null hj, h]
  rfl

/-! ### Fields -/

/-- Some members, and what they are read as. -/
def RereadsMembers (depth : Nat) (ms ns : List (String × Option Json)) : Prop :=
  List.Forall₂ (fun m n => m.1 = n.1 ∧ Option.Rel (Rereads depth) m.2 n.2) ms ns

namespace Fields

/-- Fields make a record of what its members are read as, if there is no floating-point number among
them. -/
def Recovers (depth : Nat) (fields : Fields α) (ms : List (String × Option Json)) (a : α) : Prop :=
  (∀ m ∈ ms, ∀ v ∈ m.2, FloatFree v) → ∃ ns, RereadsMembers depth ms ns ∧ fields.Finds ns a

/-- Whatever fields give is recovered; `Written a ms` says which members it is written with. -/
def Faithful (depth : Nat) (fields : Fields α)
    (Written : α → List (String × Option Json) → Prop) : Prop :=
  fields.Gives (Parsed depth) fun a => ∃ ms, Written a ms ∧ fields.Recovers depth ms a

lemma Recovers.seq {f : Fields (α → β)} {x : Fields α} {g : α → β} {a : α}
    {ms ns : List (String × Option Json)} (hf : f.Recovers depth ms g)
    (hx : x.Recovers depth ns a) :
    (f <*> x).Recovers depth (ms ++ ns) (g a) := by
  intro hfree
  rw [List.forall_mem_append] at hfree
  obtain ⟨ms', hms, hg⟩ := hf hfree.1
  obtain ⟨ns', hns, ha⟩ := hx hfree.2
  exact ⟨ms' ++ ns', List.rel_append hms hns, hg.seq ha⟩

section Records

variable {Written : β → List (String × Option Json) → Prop} {member : α → String × Option Json}

/-- A record with one more field is recovered, and is written with one more member. -/
lemma Faithful.seq {f : Fields (α → β)} {x : Fields α}
    (hf : f.Faithful depth fun g ms => ∀ a, Written (g a) (ms ++ [member a]))
    (hx : x.Faithful depth fun a ms => ms = [member a]) : (f <*> x).Faithful depth Written := by
  refine (Gives.seq hf hx).imp ?_
  rintro b ⟨g, a, ⟨ms, hwritten, hg⟩, ⟨_, rfl, ha⟩, rfl⟩
  exact ⟨ms ++ [member a], hwritten a, hg.seq ha⟩

lemma Faithful.map {g : α → β} {x : Fields α} (hx : x.Faithful depth fun a ms => ms = [member a])
    (hg : ∀ a, Written (g a) [member a]) : (g <$> x).Faithful depth Written := by
  have hpure : Fields.Faithful depth (pure g)
      fun g ms => ∀ a, Written (g a) (ms ++ [member a]) :=
    pure_gives ⟨[], hg, fun _ => ⟨[], .nil, finds_pure g⟩⟩
  exact hpure.seq hx

end Records

/-! ### Single fields -/

section Members

variable {reader : Reader α} {json : α → Json} {key : String} {absent unlisted : Option α} {a : α}

lemma field_recovers {j : Json} (h : FloatFree j → ∃ w, Rereads depth j w ∧ reader w = .ok a) :
    (field key reader absent unlisted).Recovers depth [(key, some j)] a := by
  intro hfree
  obtain ⟨w, hw, hread⟩ := h (hfree _ (.head _) _ rfl)
  exact ⟨[(key, some w)], .cons ⟨rfl, .some hw⟩ .nil, finds_field key hread⟩

lemma field_recovers_absent :
    (field key reader (some a) unlisted).Recovers depth [(key, none)] a :=
  fun _ => ⟨[(key, none)], .cons ⟨rfl, .none⟩ .nil, finds_absent key reader a unlisted⟩

lemma required_faithful (key : String) (h : reader.Faithful depth json) :
    (required key reader).Faithful depth fun a ms => ms = [(key, some (json a))] :=
  field_gives (h.imp fun _ ha => ⟨_, rfl, field_recovers ha⟩) nofun nofun

lemma withDefault_faithful (key : String) (h : reader.Faithful depth json)
    (ha : Schema.Recovers depth reader json a) :
    (withDefault key reader a).Faithful depth fun a ms => ms = [(key, some (json a))] := by
  have hdefault : ∀ b ∈ some a, ∃ ms, ms = [(key, some (json b))]
      ∧ (withDefault key reader a).Recovers depth ms b := by
    rintro _ ⟨⟩
    exact ⟨_, rfl, field_recovers ha⟩
  exact field_gives (h.imp fun _ ha => ⟨_, rfl, field_recovers ha⟩) hdefault hdefault

lemma optional_faithful {unlisted : Option (Option α)} (key : String)
    (h : reader.Faithful depth json) (hnull : ∀ a, reader .null ≠ .ok a)
    (hunlisted : ∀ o ∈ unlisted, o = none) :
    (field key (optional reader) (some none) unlisted).Faithful depth
      fun o ms => ms = [(key, o.map json)] := by
  have hnone : ∃ ms, ms = [(key, (none : Option α).map json)]
      ∧ (field key (optional reader) (some none) unlisted).Recovers depth ms none :=
    ⟨_, rfl, field_recovers_absent⟩
  refine field_gives ((optional_gives h).imp fun o ho => ?_) ?_ ?_
  · cases o with
    | none => exact hnone
    | some a =>
      refine ⟨_, rfl, field_recovers fun hfree => ?_⟩
      obtain ⟨w, hw, hread⟩ := ho a rfl hfree
      exact ⟨w, hw, optional_of_not_null (hnull a) hread⟩
  · rintro _ ⟨⟩
    exact hnone
  · intro o ho
    exact hunlisted o ho ▸ hnone

lemma maybe_faithful (key : String) (h : reader.Faithful depth json)
    (hnull : ∀ a, reader .null ≠ .ok a) :
    (maybe key reader).Faithful depth fun o ms => ms = [(key, o.map json)] :=
  optional_faithful key h hnull fun _ ho => (Option.some.inj ho).symm

lemma nullable_faithful (key : String) (h : reader.Faithful depth json)
    (hnull : ∀ a, reader .null ≠ .ok a) :
    (nullable key reader).Faithful depth fun o ms => ms = [(key, o.map json)] :=
  optional_faithful key h hnull nofun

/-- A value of any kind is recovered as it is. -/
lemma maybeAny_faithful (key : String) :
    (maybe key any).Faithful depth fun o ms => ms = [(key, o)] := by
  have habsent : (field key (optional any) (some none) (some none)).Recovers depth
      [(key, none)] none :=
    field_recovers_absent
  have hnone : ∀ o ∈ some none, ∃ ms, ms = [(key, o)] ∧ (maybe key any).Recovers depth ms o := by
    rintro _ ⟨⟩
    exact ⟨_, rfl, habsent⟩
  refine field_gives (optional_any_gives.imp fun o ho => ?_) hnone hnone
  cases o with
  | none => exact hnone none rfl
  | some v =>
    obtain ⟨hparsed, hread⟩ := ho v rfl
    have hv : (field key (optional any) (some none) (some none)).Recovers depth [(key, some v)]
        (some v) :=
      field_recovers fun hfree => ⟨v, hparsed.rereads hfree, hread⟩
    exact ⟨_, rfl, hv⟩

end Members

/-! ### Records -/

lemma keys_rereadsMembers {ms ns : List (String × Option Json)} (h : RereadsMembers depth ms ns) :
    ms.map (·.1) = ns.map (·.1) := by
  induction h with
  | nil => rfl
  | cons hmn _ ih => exact congrArg₂ List.cons hmn.1 ih

/-- A record is recovered that is written with the members of its fields, each key once. -/
theorem Faithful.read {fields : Fields α} {json : α → Json}
    (h : fields.Faithful depth fun a ms => json a = record ms ∧ (ms.map (·.1)).Nodup)
    (name : String) (origin : Origin) :
    (fields.read name origin).Faithful (depth + 1) json := by
  refine (Gives.read h parsed_encloses name origin).imp ?_
  rintro a ⟨ms, ⟨hjson, hkeys⟩, ha⟩ hfree
  rw [hjson, floatFree_record] at hfree
  obtain ⟨ns, hns, hfinds⟩ := ha hfree
  have hread := hfinds.read (keys_rereadsMembers hns ▸ hkeys) name origin
  exact ⟨_, hjson ▸ .record hns, hread⟩

end Fields

end GroundLink.Schema
