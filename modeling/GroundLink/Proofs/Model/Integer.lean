import GroundLink.Model.Event
import GroundLink.Model.Link
import GroundLink.Proofs.Json.Integer
import GroundLink.Proofs.Model.Value
import GroundLink.Proofs.Schema.Place
import GroundLink.Proofs.Text.Integer

/-!
# Integers of 64 bits

Values, links and events hold integers of 64 bits that may be given as a number or as text. Both
spellings of an integer are read as the integer where it belongs to the type of the field, and both
are refused where it does not. It is always written as a number.
-/

namespace GroundLink.Model

open Decimal Json Schema

/-- The spellings of an integer: what its decimal form is read as where that stands for itself, and
the text of the form with any blanks around it. -/
inductive Spells (n : Int) : Json → Prop
  | number {j : Json} : DecimalOf n j → Spells n j
  | text {before after : List Char} : (∀ c ∈ before, Text.isBlank c = true) →
      (∀ c ∈ after, Text.isBlank c = true) →
      Spells n (.string (String.ofList (before ++ intChars n ++ after)))

/-! ### Readers -/

section Lenient

variable {below above : Nat} {n : Int} {b : Json}

lemma lenient_string (s : String) :
    lenient below above (.string s)
      = (Text.readInteger below above (Text.trimBlanks s.toList)).mapError .badInteger := by
  rw [lenient]
  cases Text.readInteger below above (Text.trimBlanks s.toList) <;> rfl

/-- Both spellings of an integer of the range are read as the integer. -/
lemma lenient_spells (hbelow : below ≤ 2 ^ 63) (habove : above < 2 ^ 64) (h : Spells n b)
    (hn : -below ≤ n ∧ n ≤ above) : lenient below above b = .ok n := by
  cases h with
  | number h =>
    have hlow : Int64.minValue.toInt = -2 ^ 63 := rfl
    have hsize : UInt64.size = 2 ^ 64 := rfl
    rw [(decimalOf_iff (by omega) (by omega)).mp h]
    exact if_pos hn
  | text hbefore hafter =>
    rw [lenient_string, String.toList_ofList, Text.trimBlanks_intChars n hbefore hafter,
      Text.readInteger_intChars hn.1 hn.2]
    rfl

/-- Both spellings of an integer that lies beyond the range are refused. -/
lemma lenient_beyond (h : Spells n b) (hn : ¬(-below ≤ n ∧ n ≤ above)) :
    ∃ e, lenient below above b = .error e := by
  cases h with
  | number h =>
    rcases h.eq_or with rfl | ⟨x, rfl⟩
    · exact ⟨_, if_neg hn⟩
    · exact ⟨_, rfl⟩
  | text hbefore hafter =>
    obtain ⟨fault, hfault⟩ := Text.readInteger_beyond hn
    rw [lenient_string, String.toList_ofList, Text.trimBlanks_intChars n hbefore hafter, hfault]
    exact ⟨_, rfl⟩

/-- A reader takes both spellings of an integer of some type, and refuses those of any other. -/
structure ReadsInteger {ι : Type} (toInt : ι → Int) (reader : Reader ι) : Prop where
  reads : ∀ m b, Spells (toInt m) b → reader b = .ok m
  refuses : ∀ n b, Spells n b → (∀ m, toInt m ≠ n) → ∃ e, reader b = .error e

lemma lenientInt64_reads : ReadsInteger Int64.toInt lenientInt64 where
  reads m b h := by
    have hlow : Int64.minValue.toInt.natAbs = 2 ^ 63 := rfl
    have hhigh : Int64.maxValue.toInt.natAbs = 2 ^ 63 - 1 := rfl
    have hm : -2 ^ 63 ≤ m.toInt ∧ m.toInt < 2 ^ 63 := ⟨m.le_toInt, m.toInt_lt⟩
    rw [lenientInt64, lenient_spells (by omega) (by omega) h (by omega), Except.map,
      Int64.ofInt_toInt]
  refuses n b h hn := by
    have hlow : Int64.minValue.toInt.natAbs = 2 ^ 63 := rfl
    have hhigh : Int64.maxValue.toInt.natAbs = 2 ^ 63 - 1 := rfl
    have hout : ¬(-(Int64.minValue.toInt.natAbs : Int) ≤ n ∧ n ≤ Int64.maxValue.toInt.natAbs) :=
      fun hin => hn (Int64.ofInt n) (Int64.toInt_ofInt_of_le (by omega) (by omega))
    obtain ⟨e, he⟩ := lenient_beyond h hout
    rw [lenientInt64, he]
    exact ⟨e, rfl⟩

lemma lenientUInt64_reads : ReadsInteger (fun m => (m.toNat : Int)) lenientUInt64 where
  reads m b h := by
    have hsize : UInt64.size = 2 ^ 64 := rfl
    have hm := m.toNat_lt
    rw [lenientUInt64, lenient_spells (by omega) (by omega) h (by omega), Except.map,
      Int.toNat_natCast, UInt64.ofNat_toNat]
  refuses n b h hn := by
    have hsize : UInt64.size = 2 ^ 64 := rfl
    have hout : ¬(-((0 : Nat) : Int) ≤ n ∧ n ≤ (UInt64.size - 1 : Nat)) := fun hin => by
      refine hn (UInt64.ofNat n.toNat) ?_
      rw [UInt64.toNat_ofNat', Nat.mod_eq_of_lt (by omega)]
      omega
    obtain ⟨e, he⟩ := lenient_beyond h hout
    rw [lenientUInt64, he]
    exact ⟨e, rfl⟩

end Lenient

/-! ### Places -/

/-- In one place of what a reader reads there is an integer of some type. Both spellings of such an
integer are read as the integer, and those of any other integer are refused; and the integer is
written as a number under its key. -/
structure HoldsInteger {ι α : Type} (toInt : ι → Int) (reader : Reader α) (json : α → Json)
    (key : String) (place : Json → Json) (make : ι → α) : Prop where
  reads : ∀ m b, Spells (toInt m) b → reader (place b) = .ok (make m)
  refuses : ∀ n b, Spells n b → (∀ m, toInt m ≠ n) → ∃ e, reader (place b) = .error e
  writes : ∀ m, ∃ ms, json (make m) = .object ms ∧ lookup key ms = some (.int (toInt m))

section Places

variable {ι α : Type} {toInt : ι → Int} {reader : Reader ι} {json : α → Json} {key : String}
  {make : ι → α}

lemma ReadsInteger.holds (h : ReadsInteger toInt reader) {whole : Reader α} {place : Json → Json}
    (hplace : ∀ b, (whole (place b)).toOption = (reader b).toOption.map make)
    {ms : ι → List (String × Option Json)} (hjson : ∀ m, json (make m) = .record (ms m))
    (hkeys : ∀ m, ((ms m).map (·.1)).Nodup) (hms : ∀ m, (key, some (.int (toInt m))) ∈ ms m) :
    HoldsInteger toInt whole json key place make where
  reads m b hb := by
    have hread := hplace b
    rw [h.reads m b hb] at hread
    cases hresult : whole (place b) with
    | error e => rw [hresult] at hread; cases hread
    | ok a => rw [hresult] at hread; cases hread; rfl
  refuses n b hb hn := by
    obtain ⟨e, he⟩ := h.refuses n b hb hn
    have hread := hplace b
    rw [he] at hread
    cases hresult : whole (place b) with
    | error e => exact ⟨e, rfl⟩
    | ok a => rw [hresult] at hread; cases hread
  writes m := ⟨present (ms m), hjson m, lookup_present (hkeys m) (hms m)⟩

end Places

/-- Where the content of a value of some kind stands: under the key of the kind, under the plain
key, or in a list behind the name of the kind. -/
inductive Value.Place (kind : ValueKind) : (Json → Json) → Prop
  | own {ms : List (String × Json)} : lookup "type" ms = some (.string kind.name) →
      lookup "value" ms = none → Place kind fun b => .object (insert kind.key b ms)
  | plain {ms : List (String × Json)} : kind ≠ .aggregate →
      lookup "type" ms = some (.string kind.name) → lookup kind.key ms = none →
      Place kind fun b => .object (insert "value" b ms)
  | listed : Place kind fun b => .array [.string kind.name, b]

/-- A value is read from its content alone. -/
lemma Value.Place.read {kind : ValueKind} {place : Json → Json} (h : Place kind place) (b : Json) :
    Value.read (place b) = kind.content b := by
  obtain ⟨htypes, hvalue⟩ := List.nodup_cons.mp (nodup_keys kind)
  have hkey : kind.key ≠ "value" := by simpa using hvalue
  rw [List.mem_cons, not_or, List.mem_singleton] at htypes
  cases h with
  | own htype hplain =>
    rw [read_members ((lookup_insert_of_ne (Ne.symm htypes.1) b _).trans htype),
      readMembers_own ((lookup_insert_of_ne hkey b _).trans hplain), lookup_insert_self]
    rfl
  | plain hkind htype hown =>
    rw [read_members ((lookup_insert_of_ne (Ne.symm htypes.2) b _).trans htype),
      readMembers_plain ((lookup_insert_of_ne hkey.symm b _).trans hown),
      ValueKind.alias?_eq hkind, Option.bind_some, lookup_insert_self]
    rfl
  | listed =>
    change (ValueKind.read (.string kind.name)).bind (readItems · [b]) = _
    rw [kind.read_name]
    change (kind.content b).bind _ = _
    cases kind.content b <;> rfl

lemma Link.takes_dataIn :
    fields.Takes "dataInCount" 6 lenientUInt64 fun m l => { l with dataIn := m } := by
  iterate 4 refine .seq ?_ (Fields.passes_maybe (by decide))
  refine .seq (Fields.takes_required ?_ ?_) (Fields.passes_field (by decide))
  · iterate 2 refine .seq ?_ (Fields.passes_field (by decide))
    refine .seq ?_ (Fields.passes_maybe (by decide))
    iterate 3 refine .seq ?_ (Fields.passes_field (by decide))
    exact Fields.passes_pure _
  · iterate 6 refine .seq_all ?_ (Fields.gives_true _)
    exact Fields.pure_gives fun _ _ _ _ _ _ _ _ => rfl

lemma Link.takes_dataOut :
    fields.Takes "dataOutCount" 7 lenientUInt64 fun m l => { l with dataOut := m } := by
  iterate 4 refine .seq ?_ (Fields.passes_maybe (by decide))
  refine Fields.takes_required ?_ ?_
  · iterate 3 refine .seq ?_ (Fields.passes_field (by decide))
    refine .seq ?_ (Fields.passes_maybe (by decide))
    iterate 3 refine .seq ?_ (Fields.passes_field (by decide))
    exact Fields.passes_pure _
  · iterate 7 refine .seq_all ?_ (Fields.gives_true _)
    exact Fields.pure_gives fun _ _ _ _ _ _ _ _ _ => rfl

lemma Event.takes_sequenceNumber :
    fields.Takes "seqNumber" 3 lenientInt64 fun m e => { e with sequenceNumber := m } := by
  iterate 2 refine .seq ?_ (Fields.passes_field (by decide))
  refine .seq (Fields.takes_required ?_ ?_) (Fields.passes_maybe (by decide))
  · iterate 3 refine .seq ?_ (Fields.passes_field (by decide))
    exact Fields.passes_pure _
  · iterate 3 refine .seq_all ?_ (Fields.gives_true _)
    exact Fields.pure_gives fun _ _ _ _ _ => rfl

/-- Integers of 64 bits are read from either spelling, in values, links and events alike; every
other integer is refused in either spelling, where the text is JSON at all. They are written as
numbers. -/
theorem integers_hold :
    (∀ place, Value.Place .sint64 place →
      HoldsInteger Int64.toInt Value.read Value.json "sint64Value" place .sint64)
    ∧ (∀ place, Value.Place .uint64 place →
      HoldsInteger (fun m => (m.toNat : Int)) Value.read Value.json "uint64Value" place .uint64)
    ∧ (∀ j l, Link.read j = .ok l →
      HoldsInteger (fun m => (m.toNat : Int)) Link.read Link.json "dataInCount"
          (j.replaced "dataInCount" 6) ({ l with dataIn := · })
        ∧ HoldsInteger (fun m => (m.toNat : Int)) Link.read Link.json "dataOutCount"
          (j.replaced "dataOutCount" 7) ({ l with dataOut := · }))
    ∧ ∀ j e, Event.read j = .ok e →
      HoldsInteger Int64.toInt Event.read Event.json "seqNumber" (j.replaced "seqNumber" 3)
        ({ e with sequenceNumber := · }) := by
  refine ⟨fun place hplace => ?_, fun place hplace => ?_, fun j l hl => ⟨?_, ?_⟩, fun j e he => ?_⟩
  · refine lenientInt64_reads.holds (fun b => ?_) (fun _ => rfl)
      (fun _ => by simp [Value.kind, ValueKind.key])
      fun _ => .tail _ (.head _)
    rw [hplace.read]
    exact toOption_map ..
  · refine lenientUInt64_reads.holds (fun b => ?_) (fun _ => rfl)
      (fun _ => by simp [Value.kind, ValueKind.key])
      fun _ => .tail _ (.head _)
    rw [hplace.read]
    exact toOption_map ..
  · refine lenientUInt64_reads.holds (Link.takes_dataIn.read _ _ hl) (fun _ => rfl)
      (fun _ => by simp) fun _ => by simp [Json.nat, Json.int]
  · refine lenientUInt64_reads.holds (Link.takes_dataOut.read _ _ hl) (fun _ => rfl)
      (fun _ => by simp) fun _ => by simp [Json.nat, Json.int]
  · refine lenientInt64_reads.holds (Event.takes_sequenceNumber.read _ _ he) (fun _ => rfl)
      (fun _ => by simp) fun _ => by simp [Json.int]

theorem integers_hold_bounds :
    Value.read (.array [.string "SINT64", .string " -9223372036854775808\n"])
        = .ok (.sint64 Int64.minValue)
      ∧ (∃ e, Value.read (.object (insert "value" (.string "9223372036854775808")
        [("type", .string "SINT64")])) = .error e)
      ∧ (∃ e, Value.read (.object (insert "uint64Value" (.int (-1)) [("type", .string "UINT64")]))
        = .error e)
      ∧ (∃ l, Link.read (.array [.string "gs", .string "tm", .string "Udp", .null, .bool false,
        .string "OK", .string "18446744073709551615\t", .int 3]) = .ok l
        ∧ l.dataIn.toNat = 2 ^ 64 - 1)
      ∧ ∃ e, Event.read (.array [.string "ASTRA", .string "2024-01-01T00:00:00Z",
        .string "2024-01-01T00:00:00Z", .int (2 ^ 63 - 1), .null, .string "m", .string "INFO"])
          = .ok e
        ∧ e.sequenceNumber = Int64.maxValue := by
  have hleast : Spells Int64.minValue.toInt (.string " -9223372036854775808\n") := by
    have htext : String.ofList ([' '] ++ intChars Int64.minValue.toInt ++ ['\n'])
        = " -9223372036854775808\n" := by decide +kernel
    exact htext ▸ .text (List.forall_mem_singleton.mpr rfl) (List.forall_mem_singleton.mpr rfl)
  have hbeyond : Spells (2 ^ 63) (.string "9223372036854775808") := by
    have htext : String.ofList ([] ++ intChars (2 ^ 63) ++ []) = "9223372036854775808" := by
      decide +kernel
    exact htext ▸ .text nofun nofun
  have hnegative : Spells (-1) (.int (-1)) :=
    .number ((decimalOf_iff (by decide) (by decide)).mpr rfl)
  have hgreatest : Spells (UInt64.toNat (-1)) (.string "18446744073709551615\t") := by
    have htext : String.ofList ([] ++ intChars (UInt64.toNat (-1)) ++ ['\t'])
        = "18446744073709551615\t" := by decide +kernel
    exact htext ▸ .text nofun (List.forall_mem_singleton.mpr rfl)
  have hlast : Spells Int64.maxValue.toInt (.int (2 ^ 63 - 1)) :=
    .number ((decimalOf_iff (by decide) (by decide)).mpr rfl)
  obtain ⟨l, hl⟩ : ∃ l, Link.read (.array [.string "gs", .string "tm", .string "Udp", .null,
      .bool false, .string "OK", .int 2, .int 3]) = .ok l := ⟨_, rfl⟩
  obtain ⟨e, he⟩ : ∃ e, Event.read (.array [.string "ASTRA", .string "2024-01-01T00:00:00Z",
      .string "2024-01-01T00:00:00Z", .int 1, .null, .string "m", .string "INFO"]) = .ok e :=
    ⟨_, rfl⟩
  refine ⟨(integers_hold.1 _ .listed).reads Int64.minValue _ hleast,
    (integers_hold.1 _ (.plain nofun rfl rfl)).refuses _ _ hbeyond fun m => ?_,
    (integers_hold.2.1 _ (.own rfl rfl)).refuses _ _ hnegative fun m => ?_,
    ⟨_, (integers_hold.2.2.1 _ l hl).1.reads _ _ hgreatest, rfl⟩,
    ⟨_, (integers_hold.2.2.2 _ e he).reads _ _ hlast, rfl⟩⟩
  · have := m.toInt_lt
    omega
  · omega

end GroundLink.Model
