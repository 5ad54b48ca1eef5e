import GroundLink.Proofs.Result
import GroundLink.Schema.Fields

/-!
# What records give

A record is made of what its fields give, whether it is read from an object or from a list. So a
property that each reader of a field ensures holds of every record that is read. Where a reader
ensures it only of what it gives from values of a kind, the values inside an object or a list have
to be of that kind.
-/

namespace GroundLink.Schema

open Json

variable {α β : Type} {Q Q' : Json → Prop} {P : α → Prop}

/-! ### Readers -/

/-- Whatever a reader gives from values of a kind has a property. -/
def Reader.Gives (reader : Reader α) (Q : Json → Prop) (P : α → Prop) : Prop :=
  ∀ j a, Q j → reader j = .ok a → P a

lemma Reader.Gives.imp {reader : Reader α} {P' : α → Prop} (h : reader.Gives Q P)
    (hP : ∀ a, P a → P' a) : reader.Gives Q P' :=
  fun j a hj ha => hP a (h j a hj ha)

lemma optional_of_ne_null {reader : Reader α} {j : Json} (h : j ≠ .null) :
    optional reader j = (reader j).map some := by
  cases j with
  | null => exact absurd rfl h
  | _ => rfl

/-- What is given by a reader of something optional: nothing, or what is given from a value that is
not null. -/
lemma optional_gives {reader : Reader α} (h : reader.Gives Q P) :
    Reader.Gives (optional reader) Q fun o => ∀ a ∈ o, P a := by
  intro j o hj ho a ha
  subst ha
  cases j with
  | null => cases ho
  | _ =>
    obtain ⟨b, hread, hb⟩ := map_eq_ok.mp ho
    cases hb
    exact h _ _ hj hread

/-- The values inside a list or an object of some kind are of another kind. -/
structure Encloses (Q' Q : Json → Prop) : Prop where
  items : ∀ xs, Q' (.array xs) → ∀ x ∈ xs, Q x
  members : ∀ ms, Q' (.object ms) → ∀ m ∈ ms, Q m.2

lemma encloses_true : Encloses (fun _ => True) fun _ => True :=
  ⟨fun _ _ _ _ => trivial, fun _ _ _ _ => trivial⟩

lemma Encloses.and {Q' Q R' R : Json → Prop} (h : Encloses Q' Q) (h' : Encloses R' R) :
    Encloses (fun j => Q' j ∧ R' j) fun j => Q j ∧ R j where
  items := fun xs ⟨hq, hr⟩ x hx => ⟨h.items xs hq x hx, h'.items xs hr x hx⟩
  members := fun ms ⟨hq, hr⟩ m hm => ⟨h.members ms hq m hm, h'.members ms hr m hm⟩

/-- A list holds what is given from its items. -/
lemma list_gives {reader : Reader α} (h : reader.Gives Q P) (hinside : Encloses Q' Q) :
    (list reader).Gives Q' fun as => ∀ a ∈ as, P a := by
  intro j as hj has
  cases j with
  | array xs =>
    have hreads : List.Forall₂ (fun x a => reader x = .ok a) xs as := mapM_eq_ok.mp has
    have hxs := hinside.items xs hj
    clear has hj
    induction hreads with
    | nil => exact List.forall_mem_nil _
    | @cons x a _ _ hread _ ih =>
      obtain ⟨hx, hxs⟩ := List.forall_mem_cons.mp hxs
      exact List.forall_mem_cons.mpr ⟨h x a hx hread, ih hxs⟩
  | _ => cases has

/-! ### Fields -/

namespace Fields

lemma seq_ofMembers_ok {f : Fields (α → β)} {x : Fields α} {ms : List (String × Json)} {b : β} :
    (f <*> x).ofMembers ms = .ok b
      ↔ ∃ g a, f.ofMembers ms = .ok g ∧ x.ofMembers ms = .ok a ∧ g a = b := by
  change (Fields.seq f x).ofMembers ms = .ok b ↔ _
  simp only [Fields.seq]
  cases f.ofMembers ms with
  | error e => cases x.ofMembers ms <;> exact ⟨nofun, by rintro ⟨_, _, ⟨⟩, -⟩⟩
  | ok g =>
    cases x.ofMembers ms with
    | error e => exact ⟨nofun, by rintro ⟨_, _, -, ⟨⟩, -⟩⟩
    | ok a => exact ⟨fun h => ⟨g, a, rfl, rfl, Except.ok.inj h⟩, by rintro ⟨_, _, ⟨⟩, ⟨⟩, rfl⟩; rfl⟩

lemma seq_ofItems_ok {f : Fields (α → β)} {x : Fields α} {index : Nat} {items : List Json}
    {r : β × Nat × List Json} :
    (f <*> x).ofItems index items = .ok r
      ↔ ∃ g a index' items', f.ofItems index items = .ok (g, index', items')
        ∧ x.ofItems index' items' = .ok (a, r.2) ∧ g a = r.1 := by
  obtain ⟨b, index'', items''⟩ := r
  change (Fields.seq f x).ofItems index items = _ ↔ _
  simp only [Fields.seq, bind_eq_ok]
  constructor
  · rintro ⟨⟨g, index', items'⟩, hg, ⟨a, _⟩, ha, ⟨⟩⟩
    exact ⟨g, a, index', items', hg, ha, rfl⟩
  · rintro ⟨g, a, index', items', hg, ha, rfl⟩
    exact ⟨_, hg, _, ha, rfl⟩

/-- A list has an item in the place of a field that may be null. -/
lemma nullable_ofItems {key : String} {reader : Reader α} {o : Option α} {index index' : Nat}
    {items rest : List Json}
    (h : (nullable key reader).ofItems index items = .ok (o, index', rest)) :
    ∃ j, items = j :: rest ∧ optional reader j = .ok o := by
  cases items with
  | nil => cases h
  | cons j items =>
    simp only [nullable, field] at h
    split at h
    case h_1 o' hread =>
      cases h
      exact ⟨j, rfl, hread⟩
    case h_2 => cases h

lemma readItems_ok {fields : Fields α} {expected : String} {origin : Origin} {items : List Json}
    {a : α} : fields.readItems expected origin items = .ok a
      ↔ ∃ taken, fields.ofItems 0 items = .ok (a, taken, []) := by
  rw [readItems]
  cases fields.ofItems 0 items with
  | error e => cases e <;> exact ⟨nofun, by rintro ⟨_, ⟨⟩⟩⟩
  | ok r =>
    obtain ⟨b, taken, rest⟩ := r
    cases rest with
    | nil => exact ⟨by rintro ⟨⟩; exact ⟨taken, rfl⟩, by rintro ⟨_, ⟨⟩⟩; rfl⟩
    | cons => exact ⟨nofun, by rintro ⟨_, ⟨⟩⟩⟩

/-- Whatever fields give from values of a kind has a property. -/
structure Gives (fields : Fields α) (Q : Json → Prop) (P : α → Prop) : Prop where
  ofMembers : ∀ ms a, (∀ m ∈ ms, Q m.2) → fields.ofMembers ms = .ok a → P a
  ofItems : ∀ index items a taken rest, (∀ x ∈ items, Q x) →
    fields.ofItems index items = .ok (a, taken, rest) → P a ∧ ∀ x ∈ rest, Q x

lemma Gives.imp {fields : Fields α} {P' : α → Prop} (h : fields.Gives Q P)
    (hP : ∀ a, P a → P' a) : fields.Gives Q P' where
  ofMembers ms a hms ha := hP a (h.ofMembers ms a hms ha)
  ofItems index items a taken rest hitems ha :=
    (h.ofItems index items a taken rest hitems ha).imp_left (hP a)

lemma gives_true (fields : Fields α) : fields.Gives (fun _ => True) fun _ => True where
  ofMembers _ _ _ _ := trivial
  ofItems _ _ _ _ _ _ _ := ⟨trivial, fun _ _ => trivial⟩

/-- A record with one more field is made of what the other fields and this one give. -/
lemma Gives.seq {f : Fields (α → β)} {x : Fields α} {F : (α → β) → Prop} (hf : f.Gives Q F)
    (hx : x.Gives Q P) : (f <*> x).Gives Q fun b => ∃ g a, F g ∧ P a ∧ b = g a where
  ofMembers ms b hms hb := by
    obtain ⟨g, a, hg, ha, rfl⟩ := seq_ofMembers_ok.mp hb
    exact ⟨g, a, hf.ofMembers ms g hms hg, hx.ofMembers ms a hms ha, rfl⟩
  ofItems index items b taken rest hitems hb := by
    obtain ⟨g, a, index', items', hg, ha, rfl⟩ := seq_ofItems_ok.mp hb
    obtain ⟨hF, hitems'⟩ := hf.ofItems _ _ _ _ _ hitems hg
    obtain ⟨hP, hrest⟩ := hx.ofItems _ _ _ _ _ hitems' ha
    exact ⟨⟨g, a, hF, hP, rfl⟩, hrest⟩

lemma pure_gives {a : α} (h : P a) : Gives (pure a) Q P where
  ofMembers ms b _ hb := by
    cases hb
    exact h
  ofItems index items b taken rest hitems hb := by
    cases hb
    exact ⟨h, hitems⟩

lemma Gives.map {x : Fields α} (hx : x.Gives Q P) (f : α → β) :
    (f <$> x).Gives Q fun b => ∃ a, P a ∧ b = f a :=
  (Gives.seq (pure_gives (P := fun g => g = f) rfl) hx).imp fun _ ⟨_, a, hg, ha, hb⟩ =>
    ⟨a, ha, by rw [hb, hg]⟩

lemma field_gives {key : String} {reader : Reader α} {absent unlisted : Option α}
    (hreader : reader.Gives Q P) (habsent : ∀ a ∈ absent, P a) (hunlisted : ∀ a ∈ unlisted, P a) :
    (field key reader absent unlisted).Gives Q P where
  ofMembers ms a hms ha := by
    simp only [field] at ha
    split at ha
    case h_1 j hlookup =>
      split at ha
      case h_1 a' hread =>
        cases ha
        exact hreader _ _ (hms _ (Json.mem_of_lookup hlookup)) hread
      case h_2 => cases ha
    case h_2 =>
      split at ha
      case h_1 a' =>
        cases ha
        exact habsent a rfl
      case h_2 => cases ha
  ofItems index items a taken rest hitems ha := by
    simp only [field] at ha
    split at ha
    case h_1 j items =>
      obtain ⟨hj, hitems⟩ := List.forall_mem_cons.mp hitems
      split at ha
      case h_1 a' hread =>
        cases ha
        exact ⟨hreader _ _ hj hread, hitems⟩
      case h_2 => cases ha
    case h_2 =>
      split at ha
      case h_1 a' =>
        cases ha
        exact ⟨hunlisted a rfl, hitems⟩
      case h_2 => cases ha

lemma maybe_gives {key : String} {reader : Reader α} (h : reader.Gives Q P) :
    (maybe key reader).Gives Q fun o => ∀ a ∈ o, P a := by
  have hnone : ∀ o ∈ (some none : Option (Option α)), ∀ a ∈ o, P a := by
    rintro o ho a ha
    cases ho
    cases ha
  exact field_gives (optional_gives h) hnone hnone

/-- A record that is read is given by its fields. -/
theorem Gives.read {fields : Fields α} (h : fields.Gives Q P) (hinside : Encloses Q' Q)
    (name : String) (origin : Origin) : Reader.Gives (fields.read name origin) Q' P := by
  intro j a hj ha
  cases j with
  | object ms => exact h.ofMembers ms a (hinside.members ms hj) (mapError_eq_ok.mp ha)
  | array items =>
    obtain ⟨taken, hitems⟩ := readItems_ok.mp ha
    exact (h.ofItems _ _ _ _ _ (hinside.items items hj) hitems).1
  | _ => cases ha

end Fields

end GroundLink.Schema
