import GroundLink.Proofs.Schema.Fields

/-!
# Another value in the place of one field

Where another value is put in the place of one field of a record that is read, the record is read
still, with what the value gives in the field and all other fields as before, unless the value is
refused: then so is the record.
-/

namespace GroundLink

/-- Another value in the place of one field of a record: under its key, or at its place of the
list. -/
def Json.replaced (j : Json) (key : String) (place : Nat) (b : Json) : Json :=
  match j with
  | .object ms => .object (insert key b ms)
  | .array xs => .array (xs.set place b)
  | j => j

namespace Schema

open Json

variable {α β ι : Type} {key key' : String} {place : Nat} {reader : Reader ι} {put : ι → α → α}

namespace Fields

/-- Some fields do not look at a key, nor behind their places of a list. -/
structure Passes (fields : Fields α) (key : String) : Prop where
  ofMembers : ∀ ms b, fields.ofMembers (insert key b ms) = fields.ofMembers ms
  ofItems : ∀ index items a taken rest, fields.ofItems index items = .ok (a, taken, rest) →
    ∀ place b, fields.ofItems index (items.set (fields.count + place) b)
      = .ok (a, taken, rest.set place b)

lemma passes_pure (a : α) : Passes (pure a) key where
  ofMembers _ _ := rfl
  ofItems index items a' taken rest h place b := by
    cases h
    change Except.ok (a, index, items.set (0 + place) b) = _
    rw [Nat.zero_add]

lemma passes_field {reader : Reader α} {absent unlisted : Option α} (hkey : key ≠ key') :
    (field key' reader absent unlisted).Passes key where
  ofMembers ms b := by simp only [field, lookup_insert_of_ne hkey]
  ofItems index items a taken rest h place b := by
    change (field key' reader absent unlisted).ofItems index (items.set (1 + place) b) = _
    cases items with
    | nil =>
      simp only [field] at h
      split at h
      case h_1 a' =>
        cases h
        rfl
      case h_2 => cases h
    | cons j items =>
      rw [Nat.add_comm, List.set_cons_succ]
      simp only [field] at h ⊢
      split at h
      case h_1 a' hread =>
        cases h
        rfl
      case h_2 => cases h

lemma passes_maybe {reader : Reader α} (hkey : key ≠ key') : (maybe key' reader).Passes key := by
  rw [maybe]
  exact passes_field hkey

lemma Passes.seq {f : Fields (α → β)} {x : Fields α} (hf : f.Passes key) (hx : x.Passes key) :
    (f <*> x).Passes key where
  ofMembers ms b := by
    change (Fields.seq f x).ofMembers _ = (Fields.seq f x).ofMembers _
    simp only [Fields.seq, hf.ofMembers, hx.ofMembers]
  ofItems index items b taken rest h place c := by
    obtain ⟨g, a, index', items', hg, ha, rfl⟩ := seq_ofItems_ok.mp h
    have hcount : (f <*> x).count + place = f.count + (x.count + place) :=
      Nat.add_assoc f.count x.count place
    rw [hcount, seq_ofItems_ok]
    exact ⟨g, a, index', _, hf.ofItems _ _ _ _ _ hg _ c, hx.ofItems _ _ _ _ _ ha _ c, rfl⟩

/-- One of some fields is read from the values in its place: what it gives is put into what the
fields give from anything else, and a value that is refused there makes all of them fail. -/
structure Takes (fields : Fields α) (key : String) (place : Nat) (reader : Reader ι)
    (put : ι → α → α) : Prop where
  ofMembers : ∀ ms a, fields.ofMembers ms = .ok a →
    ∀ b, (fields.ofMembers (insert key b ms)).toOption = (reader b).toOption.map (put · a)
  ofItems : ∀ index items a taken rest, fields.ofItems index items = .ok (a, taken, rest) →
    ∀ b, (fields.ofItems index (items.set place b)).toOption
      = (reader b).toOption.map fun i => (put i a, taken, rest)

lemma seq_ofMembers_toOption (f : Fields (α → β)) (x : Fields α) (ms : List (String × Json)) :
    ((f <*> x).ofMembers ms).toOption
      = (f.ofMembers ms).toOption.bind fun g => (x.ofMembers ms).toOption.map g := by
  change ((Fields.seq f x).ofMembers ms).toOption = _
  simp only [Fields.seq]
  cases f.ofMembers ms <;> cases x.ofMembers ms <;> rfl

lemma seq_ofItems_toOption (f : Fields (α → β)) (x : Fields α) (index : Nat) (items : List Json) :
    ((f <*> x).ofItems index items).toOption
      = (f.ofItems index items).toOption.bind fun r =>
        (x.ofItems r.2.1 r.2.2).toOption.map fun s => (r.1 s.1, s.2) := by
  change ((Fields.seq f x).ofItems index items).toOption = _
  simp only [Fields.seq]
  cases f.ofItems index items with
  | error e => rfl
  | ok r =>
    change ((x.ofItems r.2.1 r.2.2).bind _).toOption
      = (x.ofItems r.2.1 r.2.2).toOption.map fun s => (r.1 s.1, s.2)
    cases x.ofItems r.2.1 r.2.2 <;> rfl

/-- What fields give has a property that all functions in front of one more field have of all
that it may give. -/
lemma Gives.seq_all {Q : Json → Prop} {P : β → Prop} {f : Fields (α → β)} {x : Fields α}
    (hf : f.Gives Q fun g => ∀ a, P (g a)) (hx : x.Gives Q fun _ => True) :
    (f <*> x).Gives Q P :=
  (hf.seq hx).imp fun _ ⟨_, a, hg, _, hb⟩ => hb ▸ hg a

/-- A required field takes what stands in its place. -/
lemma required_ofItems {i : ι} {index taken : Nat} {items rest : List Json}
    (h : (required key reader).ofItems index items = .ok (i, taken, rest)) (b : Json) :
    ((required key reader).ofItems index (items.set 0 b)).toOption
      = (reader b).toOption.map fun i => (i, taken, rest) := by
  cases items with
  | nil => cases h
  | cons j items =>
    simp only [required, field, List.set_cons_zero] at h ⊢
    split at h
    case h_1 =>
      cases h
      cases reader b <;> rfl
    case h_2 => cases h

/-- A required field behind others takes what stands in its place. -/
lemma takes_required {f : Fields (ι → α)} (hf : f.Passes key)
    (hput : f.Gives (fun _ => True) fun g => ∀ i i', g i = put i (g i')) :
    (f <*> required key reader).Takes key f.count reader put where
  ofMembers ms a h b := by
    obtain ⟨g, i', hg, -, rfl⟩ := seq_ofMembers_ok.mp h
    have hput := hput.ofMembers ms g (fun _ _ => trivial) hg
    have hfield : ((required key reader).ofMembers (insert key b ms)).toOption
        = (reader b).toOption := by
      simp only [required, field, lookup_insert_self]
      cases reader b <;> rfl
    rw [seq_ofMembers_toOption, hf.ofMembers, hg, hfield]
    exact congrArg (Option.map · _) (funext fun i => hput i i')
  ofItems index items a taken rest h b := by
    obtain ⟨g, i', index', items', hg, hi, rfl⟩ := seq_ofItems_ok.mp h
    have hput := (hput.ofItems _ _ _ _ _ (fun _ _ => trivial) hg).1
    have hgb := hf.ofItems _ _ _ _ _ hg 0 b
    rw [Nat.add_zero] at hgb
    rw [seq_ofItems_toOption, hgb]
    change ((required key reader).ofItems index' (items'.set 0 b)).toOption.map _ = _
    rw [required_ofItems hi, Option.map_map]
    exact congrArg (Option.map · _) (funext fun i => congrArg (·, taken, rest) (hput i i'))

/-- A field that others follow takes what stands in its place. -/
lemma Takes.seq {f : Fields (α → β)} {x : Fields α} {put : ι → β → β}
    (hf : f.Takes key place reader fun i g a => put i (g a)) (hx : x.Passes key) :
    (f <*> x).Takes key place reader put where
  ofMembers ms b h c := by
    obtain ⟨g, a, hg, ha, rfl⟩ := seq_ofMembers_ok.mp h
    rw [seq_ofMembers_toOption, hf.ofMembers ms g hg, hx.ofMembers, ha]
    cases reader c <;> rfl
  ofItems index items b taken rest h c := by
    obtain ⟨g, a, index', items', hg, ha, rfl⟩ := seq_ofItems_ok.mp h
    rw [seq_ofItems_toOption, hf.ofItems _ _ _ _ _ hg]
    cases reader c with
    | error e => rfl
    | ok i =>
      change ((x.ofItems index' items').toOption.map _) = _
      rw [ha]
      rfl

lemma readItems_toOption (fields : Fields α) (expected : String) (origin : Origin)
    (items : List Json) :
    (fields.readItems expected origin items).toOption
      = (fields.ofItems 0 items).toOption.bind fun r =>
        if r.2.2.isEmpty then some r.1 else none := by
  rw [readItems]
  cases fields.ofItems 0 items with
  | error e => cases e <;> rfl
  | ok r =>
    obtain ⟨a, taken, rest⟩ := r
    cases rest <;> rfl

/-- A record that is read takes what stands in the place of one of its fields. -/
theorem Takes.read {fields : Fields α} (h : fields.Takes key place reader put) (name : String)
    (origin : Origin) {j : Json} {a : α} (hj : fields.read name origin j = .ok a) (b : Json) :
    (fields.read name origin (j.replaced key place b)).toOption
      = (reader b).toOption.map (put · a) := by
  cases j with
  | object ms =>
    rw [← h.ofMembers ms a (mapError_eq_ok.mp hj) b]
    change ((fields.ofMembers (insert key b ms)).mapError Failure.error).toOption = _
    cases fields.ofMembers (insert key b ms) <;> rfl
  | array items =>
    obtain ⟨taken, hitems⟩ := readItems_ok.mp hj
    have hb := h.ofItems _ _ _ _ _ hitems b
    change (fields.readItems _ origin (items.set place b)).toOption = _
    rw [readItems_toOption, hb]
    cases reader b <;> rfl
  | _ => cases hj

end Fields

end Schema

end GroundLink
