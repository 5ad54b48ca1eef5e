import GroundLink.Proofs.Decimal.Digits
import GroundLink.Proofs.Url.Path

/-!
# URLs as they are written

A URL with a special scheme is read from its text again, up to what its host is read as.
-/

namespace GroundLink.Url

open Decimal

variable {scheme cs : List Char} {a : Authority}

/-! ### Splitting at the last mark -/

lemma splitLast?_of_not_mem {mark : Char} (h : mark ∉ cs) : splitLast? mark cs = none := by
  rw [splitLast?, if_neg (by simpa using h)]

lemma splitLast?_append {mark : Char} {ds : List Char} (h : mark ∉ ds) :
    splitLast? mark (cs ++ mark :: ds) = some (cs, ds) := by
  have hafter : ((cs ++ mark :: ds).reverse.takeWhile (· ≠ mark)).reverse = ds := by
    rw [List.reverse_append, List.reverse_cons, List.append_assoc,
      takeWhile_append_of_head (by simpa using fun c hc => ne_of_mem_of_not_mem hc h) (by simp),
      List.reverse_reverse]
  have hlen : (cs ++ mark :: ds).length - ds.length = (cs ++ [mark]).length := by
    simp only [List.length_append, List.length_cons, List.length_nil]
    omega
  have hcut : (cs ++ mark :: ds).take (cs ++ [mark]).length = cs ++ [mark] := by
    rw [List.append_cons cs mark ds, List.take_left]
  unfold splitLast?
  dsimp only
  rw [if_pos (by simp), hafter, hlen, hcut, List.dropLast_concat]

/-! ### Authorities -/

/-- A host that is found in an authority. -/
structure Host.IsClean (host : Host) : Prop where
  nonempty : host.chars ≠ []
  split : ∀ port : List Char, (∀ c ∈ port.head?, c = ':') →
    splitHost false (host.chars ++ port) = (host.chars, port)
  clean : ∀ c ∈ host.chars, ' ' < c ∧ c ≠ '@' ∧ endsAuthority .special c = false

/-- An authority whose names and port are what is left of them when they are read. -/
structure Authority.Settled (scheme : List Char) (a : Authority) : Prop where
  username : ∀ c ∈ a.username, escapesUserinfo c = false
  password : ∀ c ∈ a.password, escapesUserinfo c = false
  port : ∀ n ∈ a.port, n ≤ 65535 ∧ defaultPort? scheme ≠ some n

lemma readPort_digitsOf {n : Nat} (hn : n ≤ 65535) (hscheme : defaultPort? scheme ≠ some n) :
    readPort scheme (digitsOf n) = .ok (some n, []) := by
  have htake : (digitsOf n).takeWhile Char.isDigit = digitsOf n :=
    List.takeWhile_eq_self_iff.mpr (isDigit_digitsOf n)
  have hdrop : (digitsOf n).dropWhile Char.isDigit = [] :=
    List.dropWhile_eq_nil_iff.mpr (isDigit_digitsOf n)
  have hvalue : (digitsOf n).foldl (fun n c => 10 * n + (c.toNat - '0'.toNat)) 0 = n :=
    ofDigitChars_digitsOf n
  unfold readPort
  simp only [htake, hdrop, hvalue, Nat.not_lt.mpr hn, digitsOf_ne_nil, hscheme, List.isEmpty_iff,
    List.isEmpty_nil, Bool.true_or, Bool.or_eq_true, decide_eq_true_eq, or_self, if_true, if_false]

lemma readPort_ok {port : Option Nat} {rest : List Char}
    (h : readPort scheme cs = .ok (port, rest)) :
    ∀ n ∈ port, n ≤ 65535 ∧ defaultPort? scheme ≠ some n := by
  unfold readPort at h
  dsimp only at h
  rintro n rfl
  split at h
  case isTrue => cases h
  case isFalse hmax =>
    split at h
    case isFalse => cases h
    case isTrue =>
      injection h with h
      obtain ⟨hport, -⟩ := Prod.mk.inj h
      split at hport
      case isTrue => cases hport
      case isFalse hdefault =>
        obtain rfl := Option.some.inj hport
        refine ⟨Nat.le_of_not_lt hmax, ?_⟩
        simp only [Bool.or_eq_true, decide_eq_true_eq, not_or] at hdefault
        exact hdefault.2

/-- What an authority consists of when it has been read. -/
lemma settled_of_readWhole {whole : List Char} (h : readWhole scheme whole = .ok a) :
    a.Settled scheme ∧ ∃ hostChars, Host.readSpecial hostChars = .ok a.host := by
  unfold readWhole at h
  generalize (splitLast? '@' whole).getD ([], whole) = parts at h
  obtain ⟨user, hostPort⟩ := parts
  dsimp only at h
  generalize splitHost false hostPort = parts at h
  obtain ⟨hostChars, portChars⟩ := parts
  cases hhost : Host.readSpecial hostChars with
  | error e =>
    rw [hhost] at h
    cases h
  | ok host =>
    have hnames : ∀ cs, ∀ c ∈ encode escapesUserinfo cs, escapesUserinfo c = false :=
      fun cs c hc => sparing_userinfo.not_escapes hc
    rw [hhost] at h
    cases portChars with
    | nil =>
      cases h
      exact ⟨⟨hnames _, hnames _, by simp⟩, hostChars, hhost⟩
    | cons c cs =>
      cases hport : readPort scheme cs with
      | error e =>
        dsimp only [bind, Except.bind] at h
        rw [hport] at h
        cases h
      | ok read =>
        dsimp only [bind, Except.bind] at h
        rw [hport] at h
        cases h
        exact ⟨⟨hnames _, hnames _, readPort_ok hport⟩, hostChars, hhost⟩

/-- The port of an authority has nothing to do with its host. -/
lemma mem_portChars {c : Char} (hc : c ∈ a.portChars) : c = ':' ∨ c.isDigit = true := by
  unfold Authority.portChars at hc
  split at hc
  case h_1 n _ => exact (List.mem_cons.mp hc).imp_right fun hc => isDigit_digitsOf n c hc
  case h_2 => cases hc

/-- An authority is read from what it is written as, up to what its host is read as. -/
lemma readWhole_chars (ha : a.Settled scheme) (hhost : a.host.IsClean) : readWhole scheme a.chars
    = (Host.readSpecial a.host.chars).map fun host => { a with host := host } := by
  have hat : '@' ∉ a.host.chars ++ a.portChars := by
    rw [List.mem_append, not_or]
    exact ⟨fun hc => (hhost.clean _ hc).2.1 rfl, fun hc => by simpa using mem_portChars hc⟩
  have hsplit := hhost.split a.portChars (by
    unfold Authority.portChars
    split <;> simp)
  have hcolon : ':' ∉ a.username := fun hc => absurd (ha.username _ hc) (by decide)
  have huser := encode_eq_self ha.username
  have hpass := encode_eq_self ha.password
  have hparts : ∃ user, (splitLast? '@' a.chars).getD ([], a.chars)
        = (user, a.host.chars ++ a.portChars)
      ∧ user.takeWhile (· ≠ ':') = a.username
      ∧ (user.dropWhile (· ≠ ':')).drop 1 = a.password := by
    unfold Authority.chars Authority.userinfoChars
    by_cases hnone : a.username = [] ∧ a.password = []
    · rw [if_pos hnone, List.nil_append, splitLast?_of_not_mem hat, hnone.1, hnone.2]
      exact ⟨[], rfl, rfl, rfl⟩
    · rw [if_neg hnone, List.append_assoc, List.append_assoc, List.singleton_append,
        splitLast?_append hat]
      refine ⟨_, rfl, ?_⟩
      have hname : ∀ c ∈ a.username, decide (c ≠ ':') = true := fun c hc => by
        simpa using ne_of_mem_of_not_mem hc hcolon
      by_cases hpassword : a.password = []
      · rw [if_pos hpassword, List.append_nil, hpassword, List.takeWhile_eq_self_iff.mpr hname,
          List.dropWhile_eq_nil_iff.mpr hname]
        exact ⟨rfl, rfl⟩
      · rw [if_neg hpassword, takeWhile_append_of_head hname (by simp),
          dropWhile_append_of_head hname (by simp)]
        exact ⟨rfl, rfl⟩
  obtain ⟨user, hparts, hname, hpassword⟩ := hparts
  unfold readWhole
  simp only [hparts, hsplit, hname, hpassword, huser, hpass]
  obtain ⟨username, password, host, port⟩ := a
  cases Host.readSpecial host.chars with
  | error e => rfl
  | ok read =>
    cases port with
    | none => rfl
    | some n =>
      obtain ⟨hmax, hdefault⟩ := ha.port n rfl
      dsimp only [bind, Except.bind, Authority.portChars]
      rw [← digitsOf, readPort_digitsOf hmax hdefault]
      rfl

/-- No character of an authority ends it, and none is a blank. -/
lemma Authority.Settled.clean (ha : a.Settled scheme) (hhost : a.host.IsClean) :
    ∀ c ∈ a.chars, ' ' < c ∧ endsAuthority .special c = false := by
  have huser : ∀ {c}, escapesUserinfo c = false → ' ' < c ∧ endsAuthority .special c = false :=
    fun {c} hc => forall_ascii (p := fun c => escapesUserinfo c = false → ' ' < c
      ∧ endsAuthority .special c = false) (by decide +kernel)
      (toNat_lt_of_control (control_of_userinfo hc)) hc
  have hdigit : ∀ {c : Char}, c.isDigit = true → ' ' < c ∧ endsAuthority .special c = false :=
    fun {c} hc => forall_ascii (p := fun c => c.isDigit = true → ' ' < c
      ∧ endsAuthority .special c = false) (by decide +kernel)
      (toNat_lt_of_isAlphanum (by simp [Char.isAlphanum, hc])) hc
  intro c hc
  simp only [Authority.chars, List.mem_append] at hc
  rcases hc with (hc | hc) | hc
  · unfold Authority.userinfoChars at hc
    split at hc
    case isTrue => cases hc
    case isFalse =>
      simp only [List.mem_append, List.mem_singleton] at hc
      rcases hc with (hc | hc) | rfl
      · exact huser (ha.username c hc)
      · split at hc
        case isTrue => cases hc
        case isFalse =>
          rcases List.mem_cons.mp hc with rfl | hc
          · decide
          · exact huser (ha.password c hc)
      · decide
  · obtain ⟨hlow, -, hends⟩ := hhost.clean c hc
    exact ⟨hlow, hends⟩
  · rcases mem_portChars hc with rfl | hc
    · decide
    · exact hdigit hc

/-! ### Blanks -/

/-- A text without blanks is left as it is. -/
lemma stripped_eq_self (h : ∀ c ∈ cs, ' ' < c) : stripped cs = cs := by
  cases cs with
  | nil => rfl
  | cons c cs =>
    have hc : ' ' < c := h c List.mem_cons_self
    have hfront : (c :: cs).dropWhile (· ≤ ' ') = c :: cs :=
      List.dropWhile_cons_of_neg (by simpa using hc)
    have hstripped : stripped (c :: cs ++ [])
        = unbroken ((c :: cs).dropWhile (· ≤ ' ')) ++ unbroken [] :=
      stripped_append ⟨c, List.mem_cons_self, hc⟩ fun d hd =>
        h d (by simpa using List.mem_of_getLast? hd)
    rw [List.append_nil, hfront, unbroken_eq_self] at hstripped
    · exact hstripped.trans (List.append_nil _)
    · intro d hd
      have hlow := h d hd
      refine ⟨?_, ?_, ?_⟩ <;> rintro rfl <;> exact absurd hlow (by decide)

/-! ### URLs -/

lemma special_cases (hk : SchemeKind.of scheme = .special) :
    ∃ name ∈ ["http", "https", "ws", "wss", "ftp"], name.toList = scheme := by
  unfold SchemeKind.of at hk
  split at hk
  case isTrue hname => simpa only [List.any_eq_true, decide_eq_true_eq] using hname
  case isFalse => split at hk <;> cases hk

lemma splitScheme?_special (hk : SchemeKind.of scheme = .special) (rest : List Char) :
    splitScheme? (scheme ++ ':' :: rest) = some (scheme, rest) := by
  obtain ⟨name, hname, rfl⟩ := special_cases hk
  have hall : ∀ name ∈ ["http", "https", "ws", "wss", "ftp"],
      (∀ c ∈ name.toList, isSchemeChar c = true) ∧ name.toList.head?.any Char.isAlpha = true
        ∧ name.toList = name.toList.map Char.toLower := by
    decide +kernel
  exact splitScheme?_eq_some.mpr ⟨name.toList, rfl, hall name hname⟩

/-- The parts behind a path are found again. -/
lemma assemble_chars {authority : Option Authority} {path : List Char → Path}
    {query fragment : Option (List Char)} (hcs : ∀ c ∈ cs, endsPath c = false)
    (hquery : ∀ q ∈ query, ∀ c ∈ q, escapesSpecialQuery c = false)
    (hfragment : ∀ f ∈ fragment, ∀ c ∈ f, escapesFragment c = false) :
    assemble scheme .special authority path (cs ++ (marked '?' query ++ marked '#' fragment))
      = ⟨scheme, authority, path cs, query, fragment⟩ := by
  have hmark : ∀ c ∈ (marked '?' query ++ marked '#' fragment).head?, (!endsPath c) = false := by
    cases query <;> cases fragment <;> simp [marked, endsPath]
  have htake := takeWhile_append_of_head (p := (!endsPath ·)) (by simpa using hcs) hmark
  have hdrop := dropWhile_append_of_head (p := (!endsPath ·)) (by simpa using hcs) hmark
  have hfront : ∀ q ∈ query, ∀ c ∈ q, decide (c ≠ '#') = true := by
    intro q hq c hc
    rw [decide_eq_true_eq]
    rintro rfl
    exact absurd (hquery q hq _ hc) (by decide)
  have hback : ∀ c ∈ (marked '#' fragment).head?, decide (c ≠ '#') = false := by
    cases fragment <;> simp [marked]
  have hrest : (marked '?' query ++ marked '#' fragment).dropWhile (· ≠ '#')
      = marked '#' fragment := by
    refine dropWhile_append_of_head ?_ hback
    cases query with
    | none => simp [marked]
    | some q => simpa [marked] using hfront q rfl
  unfold assemble
  dsimp only
  rw [htake, hdrop, hrest]
  cases query with
  | none =>
    cases fragment with
    | none => rfl
    | some f => simp [marked, encode_eq_self (hfragment f rfl)]
  | some q =>
    have hq : encode escapesSpecialQuery ((q ++ marked '#' fragment).takeWhile (· ≠ '#')) = q := by
      rw [takeWhile_append_of_head (hfront q rfl) hback, encode_eq_self (hquery q rfl)]
    cases fragment with
    | none => exact congrArg (fun q => Url.mk scheme authority (path cs) (some q) none) hq
    | some f =>
      have hf : encode escapesFragment f = f := encode_eq_self (hfragment f rfl)
      exact congrArg₂ (fun q f => Url.mk scheme authority (path cs) (some q) (some f)) hq hf

/-- A URL with a special scheme whose parts are as they are when they are read. -/
structure Settled (u : Url) (a : Authority) (items : List (List Char)) : Prop where
  scheme : SchemeKind.of u.scheme = .special
  authority : u.authority = some a
  settled : a.Settled u.scheme
  host : a.host.IsClean
  path : u.path = .segments items
  nonempty : items ≠ []
  segments : ∀ s ∈ items, SettledSegment s
  query : ∀ q ∈ u.query, ∀ c ∈ q, escapesSpecialQuery c = false
  fragment : ∀ f ∈ u.fragment, ∀ c ∈ f, escapesFragment c = false

/-- No character of a URL is a blank if none of its authority and path is. -/
lemma lt_of_mem_chars {path : Path} {query fragment : Option (List Char)}
    (hk : SchemeKind.of scheme = .special) (ha : ∀ c ∈ a.chars, ' ' < c)
    (hpath : ∀ c ∈ path.chars, ' ' < c)
    (hquery : ∀ q ∈ query, ∀ c ∈ q, escapesSpecialQuery c = false)
    (hfragment : ∀ f ∈ fragment, ∀ c ∈ f, escapesFragment c = false) :
    ∀ c ∈ Url.chars ⟨scheme, some a, path, query, fragment⟩, ' ' < c := by
  intro c hc
  simp only [Url.chars, Url.beforePath, List.mem_append, List.mem_cons] at hc
  rcases hc with (((hc | rfl | rfl | rfl | hc) | hc) | hc) | hc
  · obtain ⟨name, hname, rfl⟩ := special_cases hk
    have hall : ∀ name ∈ ["http", "https", "ws", "wss", "ftp"], ∀ c ∈ name.toList, ' ' < c := by
      decide +kernel
    exact hall name hname c hc
  · decide
  · decide
  · decide
  · exact ha c hc
  · exact hpath c hc
  · cases query with
    | none => cases hc
    | some q =>
      rcases List.mem_cons.mp hc with rfl | hc
      · decide
      · have hclean := hquery q rfl c hc
        exact forall_ascii (p := fun c => escapesSpecialQuery c = false → ' ' < c)
          (by decide +kernel) (toNat_lt_of_control (control_of_specialQuery hclean)) hclean
  · cases fragment with
    | none => cases hc
    | some f =>
      rcases List.mem_cons.mp hc with rfl | hc
      · decide
      · have hclean := hfragment f rfl c hc
        exact forall_ascii (p := fun c => escapesFragment c = false → ' ' < c)
          (by decide +kernel) (toNat_lt_of_control (control_of_fragment hclean)) hclean

/-- A URL is read from its text, up to what its host is read as. -/
theorem parse_text {u : Url} {items : List (List Char)} (hu : u.Settled a items) : parse u.text
    = (Host.readSpecial a.host.chars).map fun host =>
      { u with authority := some { a with host := host } } := by
  obtain ⟨hk, hauthority, ha, hhost, hpath, hne, hsegments, hquery, hfragment⟩ := hu
  obtain ⟨scheme, authority, path, query, fragment⟩ := u
  obtain rfl : authority = some a := hauthority
  obtain rfl : path = .segments items := hpath
  have hclean := ha.clean hhost
  have hpath : ∀ c ∈ (Path.segments items).chars, ' ' < c ∧ endsPath c = false := by
    intro c hc
    obtain ⟨s, hs, hc⟩ := List.mem_flatMap.mp hc
    rcases List.mem_cons.mp hc with rfl | hc
    · decide
    · have hclean := ((hsegments s hs).clean c hc).1
      exact forall_ascii (p := fun c => escapesPath c = false → ' ' < c ∧ endsPath c = false)
        (by decide +kernel) (toNat_lt_of_control (control_of_path hclean)) hclean
  have hfalls : Falls
      (stripped (Url.text ⟨scheme, some a, .segments items, query, fragment⟩).toList) scheme a.chars
      ((Path.segments items).chars ++ (marked '?' query ++ marked '#' fragment)) := by
    rw [Url.text, String.toList_ofList, stripped_eq_self]
    · refine ⟨⟨['/', '/'], by decide, ?_⟩, ?_, fun c hc => (hclean c hc).2, ?_⟩
      · rw [← splitScheme?_special hk]
        simp [Url.chars, Url.beforePath]
      · simp [Authority.chars, hhost.nonempty]
      · obtain ⟨s, items, rfl⟩ := List.exists_cons_of_ne_nil hne
        simp [Path.chars, endsAuthority, isSlash]
    · exact Url.lt_of_mem_chars hk (fun c hc => (hclean c hc).1) (fun c hc => (hpath c hc).1) hquery
        hfragment
  rw [hfalls.parse_eq hk, readWhole_chars ha hhost]
  simp only [assemble_chars (fun c hc => (hpath c hc).2) hquery hfragment,
    readPath_chars hsegments hne]
  cases Host.readSpecial a.host.chars <;> rfl

end GroundLink.Url
