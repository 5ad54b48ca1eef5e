import GroundLink.Proofs.Text.Composition
import GroundLink.Proofs.Url.Domain.Mapping
import GroundLink.Proofs.Url.Domain.Plain
import GroundLink.Proofs.Url.Punycode

/-!
# Names that are read again

A name that has been read is read as itself: its labels are mapped and composed already, and those
in Punycode are decoded to what they were encoded from.
-/

namespace GroundLink.Url.Domain

open Text

variable {c : Char} {cs ds l : List Char} {label : Label}

/-! ### What is mapped and composed -/

/-- What is read as itself is read as itself in its composed form. -/
lemma readings?_of_isSteady (h : ∀ c ∈ cs, IsSteady c) : readings? cs = some cs :=
  readings?_eq_self fun c hc => reading?_of_isSteady (h c hc)

/-- What a name is mapped to and composed of is read as itself. -/
lemma isSteady_of_mem_composed (h : readings? cs = some ds) : ∀ c ∈ composed ds, IsSteady c := by
  refine forall_mem_composed IsSteady.of_halves? IsSteady.of_whole? fun d hd => ?_
  obtain ⟨css, hcss, rfl⟩ := Option.map_eq_some_iff.mp h
  obtain ⟨es, hes, hd⟩ := List.mem_flatten.mp hd
  obtain ⟨c, -, hc⟩ := exists_of_mem_mapM hcss hes
  exact isSteady_of_mem_reading? hc hd

/-- A part between dots of what a name is mapped to and composed of stays as it is. -/
theorem isStable_of_mem_splitOn (h : readings? cs = some ds) {label : List Char}
    (hlabel : label ∈ (composed ds).splitOn '.') : Label.isStable label = true := by
  have hsteady : ∀ c ∈ label, IsSteady c := fun c hc =>
    isSteady_of_mem_composed h c (mem_of_mem_splitOn hlabel hc)
  rw [Label.isStable, decide_eq_true_eq, readings?_of_isSteady hsteady, Option.map_some,
    composed_of_mem_splitOn (composed_composed ds) hlabel]

/-! ### Labels -/

/-- The characters of Punycode may stand in a label as they are. -/
lemma plain_of_punycode (h : c = '-' ∨ Punycode.IsDigit c) : c.toNat < 128
    ∧ Run.covers plainRuns c.toNat = true ∧ isForbidden c = false ∧ c ≠ '.' := by
  rcases h with rfl | ⟨d, hd, rfl⟩
  · decide
  · revert d
    decide

/-- Whether a label is not too long for Punycode. -/
def IsShort (written : List Char) : Prop := Label.punycodeMark <+: written →
  written.length ≤ Label.punycodeMark.length + Label.maxEncodedLength

namespace Label

lemma isDigit_of_mem_punycodeMark (h : c ∈ punycodeMark) : c = '-' ∨ Punycode.IsDigit c := by
  simp only [punycodeMark, List.mem_cons, List.not_mem_nil, or_false] at h
  rcases h with rfl | rfl | rfl | rfl
  · exact .inr ⟨23, by decide, by decide⟩
  · exact .inr ⟨13, by decide, by decide⟩
  · exact .inl rfl
  · exact .inl rfl

lemma length_le_of_isValid (h : isValid l = true) : l.length ≤ Punycode.maxLength := by
  simp only [isValid, Bool.and_eq_true, decide_eq_true_eq] at h
  exact h.1.1

lemma eq_of_ofPunycode? {encoded : List Char} (h : ofPunycode? encoded = some label) :
    encoded.all isAscii = true ∧ label.written = punycodeMark ++ encoded := by
  unfold ofPunycode? at h
  split at h
  case isTrue hencoded =>
    rw [Bool.and_eq_true] at hencoded
    obtain ⟨text, -, h⟩ := Option.bind_eq_some_iff.mp h
    obtain ⟨label', -, h⟩ := Option.bind_eq_some_iff.mp h
    split at h
    case isTrue hwritten =>
      cases h
      simp only [Bool.and_eq_true, decide_eq_true_eq] at hwritten
      exact ⟨hencoded.1, hwritten.2⟩
    case isFalse => cases h
  case isFalse => cases h

/-- How a label is read: it is left as it is, or encoded. -/
lemma cases_of_read? (h : Label.read? l = some label) :
    (label.written = l ∧ l.all isAscii = true)
      ∨ label = ⟨l, punycodeMark ++ Punycode.encode l⟩ ∧ isValid l = true
        ∧ l.all isAscii = false := by
  unfold Label.read? at h
  split at h
  case isTrue hmark =>
    have hl : punycodeMark ++ l.drop punycodeMark.length = l :=
      (List.prefix_iff_eq_append.mp (List.isPrefixOf_iff_prefix.mp hmark))
    obtain ⟨hascii, hwritten⟩ := eq_of_ofPunycode? h
    refine .inl ⟨hwritten.trans hl, ?_⟩
    rw [← hl, List.all_append, hascii, Bool.and_true]
    rfl
  case isFalse =>
    split at h
    case isTrue hascii =>
      cases h
      exact .inl ⟨rfl, hascii⟩
    case isFalse hascii =>
      unfold ofText? at h
      split at h
      case isTrue hvalid =>
        cases h
        exact .inr ⟨rfl, hvalid, by simpa using hascii⟩
      case isFalse => cases h

/-- What a label is written in: ASCII characters that it is read from, and those of Punycode. -/
lemma mem_written (h : Label.read? l = some label) (hc : c ∈ label.written) :
    c.toNat < 128 ∧ (c ∈ l ∨ c = '-' ∨ Punycode.IsDigit c) := by
  rcases cases_of_read? h with ⟨hwritten, hascii⟩ | ⟨rfl, hvalid, -⟩
  · rw [hwritten] at hc
    exact ⟨by simpa [isAscii] using List.all_eq_true.mp hascii c hc, .inl hc⟩
  · have hmem : (c ∈ l ∧ c.toNat < 128) ∨ c = '-' ∨ Punycode.IsDigit c :=
      (List.mem_append.mp hc).elim (fun hc => .inr (isDigit_of_mem_punycodeMark hc))
        fun hc => Punycode.mem_encode (length_le_of_isValid hvalid) hc
    rcases hmem with ⟨hc, hascii⟩ | hc
    · exact ⟨hascii, .inl hc⟩
    · exact ⟨(plain_of_punycode hc).1, .inr hc⟩

/-- A label that is read is not too long for it. -/
lemma isShort_of_read? (h : Label.read? l = some label) : IsShort l := by
  intro hmark
  rw [Label.read?, if_pos (List.isPrefixOf_iff_prefix.mpr hmark), ofPunycode?] at h
  split at h
  case isTrue hencoded =>
    rw [Bool.and_eq_true, decide_eq_true_eq, List.length_drop] at hencoded
    omega
  case isFalse => cases h

/-- A label is read from what it is written as. -/
lemma read?_written (h : Label.read? l = some label) (hstable : Label.isStable l = true)
    (hshort : IsShort label.written) : Label.read? label.written = some label := by
  rcases cases_of_read? h with ⟨hwritten, -⟩ | ⟨rfl, hvalid, hascii⟩
  · rwa [hwritten]
  · have hencoded : (Punycode.encode l).all isAscii = true := by
      refine List.all_eq_true.mpr fun c hc => decide_eq_true ?_
      exact (mem_written h (List.mem_append_right _ hc)).1
    have hlength : (Punycode.encode l).length ≤ maxEncodedLength := by
      have hle := hshort (List.prefix_append ..)
      rw [List.length_append] at hle
      omega
    have hmark : punycodeMark.isPrefixOf (punycodeMark ++ Punycode.encode l) = true :=
      List.isPrefixOf_iff_prefix.mpr (List.prefix_append ..)
    have htext : ofText? l = some ⟨l, punycodeMark ++ Punycode.encode l⟩ := if_pos hvalid
    dsimp only
    rw [Label.read?, if_pos hmark, List.drop_left, ofPunycode?, hencoded, decide_eq_true hlength,
      Punycode.decode?_encode (length_le_of_isValid hvalid)]
    simp only [Bool.and_self, if_true, Option.bind_eq_bind, Option.bind_some, htext, hascii,
      hstable, Bool.not_false, decide_true]
    rfl

end Label

/-! ### Names -/

/-- What the labels of a name are written in. -/
lemma mem_written_of_labels? {labels : List Label} (h : labels? cs = some labels)
    (hlabel : label ∈ labels) (hc : c ∈ label.written) :
    c.toNat < 128 ∧ IsSteady c ∧ isForbidden c = false ∧ c ≠ '.' := by
  obtain ⟨read, hread, hallowed, hlabels⟩ := labels?_eq_some.mp h
  obtain ⟨l, hl, hlabel⟩ := exists_of_mem_mapM hlabels hlabel
  obtain ⟨hascii, hc | hc⟩ := Label.mem_written hlabel hc
  · have hmem := mem_of_mem_splitOn hl hc
    exact ⟨hascii, isSteady_of_mem_composed hread c hmem, hallowed c hmem,
      fun hdot => notMem_of_mem_splitOn hl (hdot ▸ hc)⟩
  · obtain ⟨-, hplain, hforbidden, hdot⟩ := plain_of_punycode hc
    exact ⟨hascii, isSteady_of_plain hplain, hforbidden, hdot⟩

/-- What a name is written in. -/
lemma mem_of_ofChars? (h : Domain.ofChars? cs = some ds) (hc : c ∈ ds) :
    c.toNat < 128 ∧ IsSteady c ∧ isForbidden c = false := by
  obtain ⟨labels, hlabels, -, rfl⟩ := ofChars?_eq_some.mp h
  rcases mem_intercalate hc with rfl | ⟨row, hrow, hc⟩
  · exact ⟨by decide, isSteady_of_plain (by decide), by decide⟩
  · obtain ⟨label, hlabel, rfl⟩ := List.mem_map.mp hrow
    obtain ⟨hascii, hsteady, hforbidden, -⟩ := mem_written_of_labels? hlabels hlabel hc
    exact ⟨hascii, hsteady, hforbidden⟩

/-- A name that has been read is mapped and composed already. -/
lemma composed_of_ofChars? (h : Domain.ofChars? cs = some ds) :
    readings? ds = some ds ∧ composed ds = ds :=
  ⟨readings?_of_isSteady fun _ hc => (mem_of_ofChars? h hc).2.1,
    composed_eq_self fun _ hc => (mem_of_ofChars? h hc).1⟩

/-- A name that has been read, and holds no label that is too long for Punycode, is read as itself.
-/
theorem ofChars?_again (h : Domain.ofChars? cs = some ds)
    (hshort : ∀ l ∈ ds.splitOn '.', IsShort l) : Domain.ofChars? ds = some ds := by
  obtain ⟨hreadings, hcomposed⟩ := composed_of_ofChars? h
  have hallowed : ∀ c ∈ ds, isForbidden c = false := fun c hc => (mem_of_ofChars? h hc).2.2
  obtain ⟨labels, hlabels, hagree, rfl⟩ := ofChars?_eq_some.mp h
  obtain ⟨read, hread, -, hparts⟩ := labels?_eq_some.mp hlabels
  have hne : labels.map (·.written) ≠ [] := by
    rintro hnil
    rw [List.map_eq_nil_iff.mp hnil] at hparts
    have hlength := (mapM_eq_some.mp hparts).length_eq
    exact List.splitOn_ne_nil '.' (composed read) (List.length_eq_zero_iff.mp hlength)
  have hsplit : (List.intercalate ['.'] (labels.map (·.written))).splitOn '.'
      = labels.map (·.written) := by
    refine List.splitOn_intercalate '.' (fun row hrow hdot => ?_) hne
    obtain ⟨label, hlabel, rfl⟩ := List.mem_map.mp hrow
    exact (mem_written_of_labels? hlabels hlabel hdot).2.2.2 rfl
  rw [hsplit] at hshort
  generalize List.intercalate ['.'] (labels.map (·.written)) = ds at *
  refine ofChars?_eq_some.mpr ⟨labels, labels?_eq_some.mpr ⟨ds, hreadings, ?_, ?_⟩, hagree, ?_⟩
  · rwa [hcomposed]
  · rw [hcomposed, hsplit, mapM_eq_some]
    refine List.forall₂_map_left_iff.mpr (List.forall₂_same.mpr fun label hlabel => ?_)
    obtain ⟨l, hl, hlabel'⟩ := exists_of_mem_mapM hparts hlabel
    exact Label.read?_written hlabel' (isStable_of_mem_splitOn hread hl)
      (hshort _ (List.mem_map_of_mem hlabel))
  · rw [← hsplit, List.intercalate_splitOn]

/-- A name that has been read, and is read again, holds no label that is too long for Punycode. -/
theorem isShort_of_ofChars?_again {es : List Char} (h : Domain.ofChars? cs = some ds)
    (h' : Domain.ofChars? ds = some es) (hl : l ∈ ds.splitOn '.') : IsShort l := by
  obtain ⟨hreadings, hcomposed⟩ := composed_of_ofChars? h
  obtain ⟨labels, hlabels, -, -⟩ := ofChars?_eq_some.mp h'
  obtain ⟨read, hread, -, hparts⟩ := labels?_eq_some.mp hlabels
  obtain rfl := Option.some.inj (hreadings.symm.trans hread)
  rw [hcomposed] at hparts
  obtain ⟨label, -, hlabel⟩ := exists_of_mapM_of_mem hparts hl
  exact Label.isShort_of_read? hlabel

end GroundLink.Url.Domain
