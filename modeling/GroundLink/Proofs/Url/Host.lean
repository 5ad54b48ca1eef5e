import GroundLink.Proofs.Url.Domain.Reread
import GroundLink.Proofs.Url.Ipv4
import GroundLink.Proofs.Url.Ipv6
import GroundLink.Proofs.Url.Written

/-!
# Hosts as they are written

A host that has been read is read from what it is written as, unless it is a name with a label that
is too long for Punycode.
-/

namespace GroundLink.Url

namespace Host

variable {cs : List Char}

/-! ### Names -/

/-- A character that may stand in a name has no meaning in an authority. -/
lemma clean_of_not_forbidden {c : Char} (hc : Domain.isForbidden c = false) :
    ' ' < c ∧ c ≠ '%' ∧ c ≠ '@' ∧ c ≠ ':' ∧ c ≠ '[' ∧ c ≠ ']'
      ∧ endsAuthority .special c = false := by
  have hne : ∀ d, Domain.isForbidden d = true → c ≠ d := by
    rintro d hd rfl
    rw [hc] at hd
    cases hd
  refine ⟨?_, hne _ rfl, hne _ rfl, hne _ rfl, hne _ rfl, hne _ rfl, ?_⟩
  · by_contra hle
    rw [Char.not_lt] at hle
    simp [Domain.isForbidden, hle] at hc
  · simp [endsAuthority, isSlash, hne '/' rfl, hne '\\' rfl, hne '?' rfl, hne '#' rfl]

lemma splitHost_append (h : ∀ c ∈ cs, c ≠ ':' ∧ c ≠ '[' ∧ c ≠ ']') {port : List Char}
    (hport : ∀ c ∈ port.head?, c = ':') : splitHost false (cs ++ port) = (cs, port) := by
  induction cs with
  | nil =>
    cases port with
    | nil => rfl
    | cons c port =>
      obtain rfl := hport c rfl
      rfl
  | cons c cs ih =>
    obtain ⟨⟨hcolon, hopen, hclose⟩, hcs⟩ := List.forall_mem_cons.mp h
    simp [splitHost, hcolon, hopen, hclose, ih hcs]

/-- The host of a name that has been read, if it could be. -/
def ofDomain : Option (List Char) → Except Fault Host
  | none => .error .badDomain
  | some domain =>
    if domain = [] then .error .emptyHost
    else if Ipv4.isExpected domain then match Ipv4.read? domain with
      | some address => .ok (.ipv4 address)
      | none => .error .badIpv4
    else .ok (.name domain)

/-- What a name without escapes is read as. -/
lemma readSpecial_eq (hne : cs ≠ []) (hclean : ∀ c ∈ cs, Domain.isForbidden c = false) :
    readSpecial cs = ofDomain (Domain.ofChars? cs) := by
  have hpercent : '%' ∉ cs := fun hc => (clean_of_not_forbidden (hclean _ hc)).2.1 rfl
  have htext : utf8? (decode cs) = some (String.ofList cs) := by
    rw [decode_eq_utf8 hpercent, utf8?_utf8]
  have hread : (utf8? (decode cs)).bind (fun s => Domain.ofChars? s.toList)
      = Domain.ofChars? cs := by
    rw [htext, Option.bind_some, String.toList_ofList]
  rw [← hread]
  unfold readSpecial
  split
  case h_1 => exact absurd rfl hne
  case h_2 rest => exact absurd rfl (clean_of_not_forbidden (hclean '[' (by simp))).2.2.2.2.1
  case h_3 => rfl

lemma isClean_of_forall {host : Host} (hne : host.chars ≠ [])
    (hclean : ∀ c ∈ host.chars, Domain.isForbidden c = false) : host.IsClean where
  nonempty := hne
  split _ hport := splitHost_append (fun c hc => by
    obtain ⟨-, -, -, hcolon, hopen, hclose, -⟩ := clean_of_not_forbidden (hclean c hc)
    exact ⟨hcolon, hopen, hclose⟩) hport
  clean c hc := by
    obtain ⟨hlow, -, hat, -, -, -, hends⟩ := clean_of_not_forbidden (hclean c hc)
    exact ⟨hlow, hat, hends⟩

/-- A name that is read as itself is a host. -/
lemma readSpecial_name (hne : cs ≠ []) (hclean : ∀ c ∈ cs, Domain.isForbidden c = false)
    (hread : Domain.ofChars? cs = some cs) (hexpected : Ipv4.isExpected cs = false) :
    readSpecial cs = .ok (.name cs) := by
  rw [readSpecial_eq hne hclean, hread, ofDomain, if_neg hne, hexpected]
  rfl

/-! ### Addresses -/

lemma isClean_ipv4 (n : Nat) : (Host.ipv4 n).IsClean :=
  isClean_of_forall (by simp [chars, Ipv4.chars]) fun c hc =>
    ((Ipv4.isPlain_chars n).chars c hc).2.2

lemma readSpecial_ipv4 {n : Nat} (hn : n < 2 ^ 32) :
    readSpecial (Host.ipv4 n).chars = .ok (.ipv4 n) := by
  have hne : Ipv4.chars n ≠ [] := by simp [Ipv4.chars]
  have hplain := Ipv4.isPlain_chars n
  rw [chars, readSpecial_eq hne fun c hc => (hplain.chars c hc).2.2, hplain.ofChars?, ofDomain,
    if_neg hne, if_pos (Ipv4.isExpected_chars n), Ipv4.read?_chars hn]

lemma splitHost_inside (h : ∀ c ∈ cs, c ≠ '[' ∧ c ≠ ']') {port : List Char}
    (hport : ∀ c ∈ port.head?, c = ':') :
    splitHost true (cs ++ ']' :: port) = (cs ++ [']'], port) := by
  induction cs with
  | nil =>
    have hend : splitHost false ([] ++ port) = ([], port) := splitHost_append (by simp) hport
    rw [List.nil_append] at hend
    simp [splitHost, hend]
  | cons c cs ih =>
    obtain ⟨⟨hopen, hclose⟩, hcs⟩ := List.forall_mem_cons.mp h
    simp [splitHost, hopen, hclose, ih hcs]

lemma readSpecial_ipv6 {pieces : List Nat} (h : Ipv6.IsAddress pieces) :
    readSpecial (Host.ipv6 pieces).chars = .ok (.ipv6 pieces) := by
  rw [chars, List.cons_append, readSpecial, readBracketed, List.getLast?_concat,
    List.dropLast_concat, h.read?_chars]
  rfl

lemma isClean_ipv6 (pieces : List Nat) : (Host.ipv6 pieces).IsClean := by
  have hclean : ∀ c ∈ Ipv6.chars pieces,
      c ≠ '[' ∧ c ≠ ']' ∧ ' ' < c ∧ c ≠ '@' ∧ endsAuthority .special c = false := by
    intro c hc
    rcases Ipv6.mem_chars hc with rfl | ⟨d, hd⟩
    · decide
    · have hc := isAlphanum_of_hexValue? hd
      exact forall_ascii (p := fun c => c.isAlphanum = true →
        c ≠ '[' ∧ c ≠ ']' ∧ ' ' < c ∧ c ≠ '@' ∧ endsAuthority .special c = false)
        (by decide +kernel) (toNat_lt_of_isAlphanum hc) hc
  constructor
  case nonempty => simp [chars]
  case split =>
    intro port hport
    rw [chars, List.cons_append, List.cons_append, List.append_assoc, List.singleton_append]
    have hinside := splitHost_inside (fun c hc => ⟨(hclean c hc).1, (hclean c hc).2.1⟩) hport
    simp [splitHost, hinside]
  case clean =>
    intro c hc
    rw [chars, List.cons_append, List.mem_cons, List.mem_append, List.mem_singleton] at hc
    rcases hc with rfl | hc | rfl
    · decide
    · exact (hclean c hc).2.2
    · decide

/-! ### What is read -/

/-- What the host of a URL with a special scheme is read as. -/
lemma cases_of_readSpecial {host : Host} (h : readSpecial cs = .ok host) :
    (∃ n < 2 ^ 32, host = .ipv4 n) ∨ (∃ pieces, Ipv6.IsAddress pieces ∧ host = .ipv6 pieces)
      ∨ ∃ text domain, Domain.ofChars? text = some domain ∧ domain ≠ []
        ∧ Ipv4.isExpected domain = false ∧ host = .name domain := by
  unfold readSpecial at h
  split at h
  case h_1 => cases h
  case h_2 rest =>
    unfold readBracketed at h
    split at h
    case h_1 pieces _ hread =>
      cases h
      exact .inr (.inl ⟨pieces, Ipv6.isAddress_of_read? hread, rfl⟩)
    case h_2 => cases h
  case h_3 =>
    split at h
    case h_1 => cases h
    case h_2 domain hdomain =>
      obtain ⟨text, -, hread⟩ := Option.bind_eq_some_iff.mp hdomain
      split at h
      case isTrue => cases h
      case isFalse hne =>
        split at h
        case isTrue =>
          split at h
          case h_1 n haddress =>
            cases h
            exact .inl ⟨n, Ipv4.lt_of_read? haddress, rfl⟩
          case h_2 => cases h
        case isFalse hexpected =>
          cases h
          exact .inr (.inr ⟨text.toList, domain, hread, hne, by simpa using hexpected, rfl⟩)

/-- A host that is read is found where it is written. -/
lemma isClean_of_readSpecial {host : Host} (h : readSpecial cs = .ok host) : host.IsClean := by
  rcases cases_of_readSpecial h with ⟨n, -, rfl⟩ | ⟨pieces, -, rfl⟩
    | ⟨text, domain, hdomain, hne, -, rfl⟩
  · exact isClean_ipv4 n
  · exact isClean_ipv6 pieces
  · exact isClean_of_forall hne fun c hc => (Domain.mem_of_ofChars? hdomain hc).2.2

/-- Whether a host has no label that is too long for Punycode. -/
def IsShort : Host → Prop
  | .name domain => ∀ l ∈ domain.splitOn '.', Domain.IsShort l
  | _ => True

/-- A host that is read is read as itself, if it is short, and is not read otherwise. -/
theorem readSpecial_chars {host : Host} (h : readSpecial cs = .ok host) :
    (host.IsShort → readSpecial host.chars = .ok host)
      ∧ ∀ host', readSpecial host.chars = .ok host' → host.IsShort := by
  rcases cases_of_readSpecial h with ⟨n, hn, rfl⟩ | ⟨pieces, hpieces, rfl⟩
    | ⟨text, domain, hdomain, hne, hexpected, rfl⟩
  · exact ⟨fun _ => readSpecial_ipv4 hn, fun _ _ => trivial⟩
  · exact ⟨fun _ => readSpecial_ipv6 hpieces, fun _ _ => trivial⟩
  · have hclean : ∀ c ∈ domain, Domain.isForbidden c = false := fun c hc =>
      (Domain.mem_of_ofChars? hdomain hc).2.2
    refine ⟨fun hshort =>
      readSpecial_name hne hclean (Domain.ofChars?_again hdomain hshort) hexpected,
      fun host' hread => ?_⟩
    rw [chars, readSpecial_eq hne hclean] at hread
    cases hagain : Domain.ofChars? domain with
    | none =>
      rw [hagain] at hread
      cases hread
    | some domain' => exact fun l hl => Domain.isShort_of_ofChars?_again hdomain hagain hl

end Host

/-! ### URLs of this machine -/

/-- A URL of a server of this machine. -/
def localUrl (items : List (List Char)) (query fragment : Option (List Char)) : Url where
  scheme := "http".toList
  authority := some ⟨[], [], .name "localhost".toList, some 8090⟩
  path := .segments items
  query := query
  fragment := fragment

variable {address : String} {items : List (List Char)} {query fragment : Option (List Char)}

lemma parse_localUrl (haddress : address = (localUrl items query fragment).text) (hne : items ≠ [])
    (hitems : ∀ s ∈ items, isDots s = false ∧ ∀ c ∈ s, escapesPath c = false
      ∧ isSlash .special c = false)
    (hquery : ∀ q ∈ query, ∀ c ∈ q, escapesSpecialQuery c = false)
    (hfragment : ∀ f ∈ fragment, ∀ c ∈ f, escapesFragment c = false) :
    Url.parse address = .ok (localUrl items query fragment) := by
  subst haddress
  have hplain : Domain.IsPlain "localhost".toList := ⟨by decide +kernel, by decide +kernel⟩
  have hclean : ∀ c ∈ "localhost".toList, Domain.isForbidden c = false := fun c hc =>
    (hplain.chars c hc).2.2
  have hread : Host.readSpecial (Host.name "localhost".toList).chars
      = .ok (.name "localhost".toList) :=
    Host.readSpecial_name (by decide) hclean hplain.ofChars? (by decide +kernel)
  have hauthority : Authority.Settled "http".toList
      ⟨[], [], .name "localhost".toList, some 8090⟩ := ⟨by simp, by simp, by decide⟩
  have hsettled : (localUrl items query fragment).Settled
      ⟨[], [], .name "localhost".toList, some 8090⟩ items :=
    ⟨(by decide : SchemeKind.of "http".toList = .special), rfl, hauthority,
      Host.isClean_of_forall (List.cons_ne_nil _ _) hclean, rfl, hne,
      fun s hs => ⟨(hitems s hs).1, (hitems s hs).2⟩, hquery, hfragment⟩
  rw [Url.parse_text hsettled, hread]
  rfl

end GroundLink.Url
