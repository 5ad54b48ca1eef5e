import GroundLink.Proofs.Url.Percent
import GroundLink.Url.Parser
import Mathlib.Data.List.Basic
import Mathlib.Data.List.TakeWhile

/-!
# Parts of URLs

How a text falls into the parts of a URL with a special scheme. The authority reaches up to the
first slash, question mark or hash sign, and what comes behind it has no bearing on how it is read.
-/

namespace GroundLink.Url

variable {scheme cs ds whole after : List Char}

/-! ### Splitting -/

section

variable {p : Char → Bool}

lemma takeWhile_append_of_head (hcs : ∀ c ∈ cs, p c = true) (hds : ∀ c ∈ ds.head?, p c = false) :
    (cs ++ ds).takeWhile p = cs := by
  rw [List.takeWhile_append_of_pos hcs]
  cases ds with
  | nil => exact List.append_nil cs
  | cons d ds => rw [List.takeWhile_cons_of_neg (by simp [hds d rfl]), List.append_nil]

lemma dropWhile_append_of_head (hcs : ∀ c ∈ cs, p c = true) (hds : ∀ c ∈ ds.head?, p c = false) :
    (cs ++ ds).dropWhile p = ds := by
  rw [List.dropWhile_append_of_pos hcs]
  cases ds with
  | nil => rfl
  | cons d ds => exact List.dropWhile_cons_of_neg (by simp [hds d rfl])

lemma head?_dropWhile (p : Char → Bool) (cs : List Char) :
    ∀ c ∈ (cs.dropWhile p).head?, p c = false := by
  intro c hc
  have hhead := List.head?_dropWhile_not p cs
  rwa [hc] at hhead

end

/-! ### Schemes -/

/-- A scheme is what stands before the first colon, in small letters. -/
lemma splitScheme?_eq_some {rest : List Char} : splitScheme? cs = some (scheme, rest) ↔
    ∃ name, cs = name ++ ':' :: rest ∧ (∀ c ∈ name, isSchemeChar c = true)
      ∧ name.head?.any Char.isAlpha = true ∧ scheme = name.map Char.toLower := by
  constructor
  · intro h
    unfold splitScheme? at h
    dsimp only at h
    split at h
    case h_2 => cases h
    case h_1 rest' hrest =>
      split at h
      case isFalse => cases h
      case isTrue halpha =>
        obtain ⟨rfl, rfl⟩ := Prod.mk.inj (Option.some.inj h)
        refine ⟨cs.takeWhile isSchemeChar, ?_, fun c hc => (List.mem_takeWhile_imp hc), halpha, rfl⟩
        rw [← hrest, List.takeWhile_append_dropWhile]
  · rintro ⟨name, rfl, hname, halpha, rfl⟩
    have hcolon : isSchemeChar ':' = false := rfl
    unfold splitScheme?
    rw [takeWhile_append_of_head hname (by simp [hcolon]),
      dropWhile_append_of_head hname (by simp [hcolon])]
    exact if_pos halpha

/-- What follows a scheme is no part of it. -/
lemma splitScheme?_append {rest : List Char} (h : splitScheme? cs = some (scheme, rest))
    (ds : List Char) : splitScheme? (cs ++ ds) = some (scheme, rest ++ ds) := by
  obtain ⟨name, rfl, hname, halpha, rfl⟩ := splitScheme?_eq_some.mp h
  exact splitScheme?_eq_some.mpr ⟨name, by simp, hname, halpha, rfl⟩

/-! ### Authorities -/

/-- Reads the authority of a URL with a special scheme. -/
def readWhole (scheme whole : List Char) : Except Fault Authority := do
  let (user, hostPort) := (splitLast? '@' whole).getD ([], whole)
  let host ← Host.readSpecial (splitHost false hostPort).1
  let port ← match (splitHost false hostPort).2 with
    | [] => pure none
    | _ :: cs => Prod.fst <$> readPort scheme cs
  return ⟨encode escapesUserinfo (user.takeWhile (· ≠ ':')),
    encode escapesUserinfo ((user.dropWhile (· ≠ ':')).drop 1), host, port⟩

lemma Host.readSpecial_ne_absent (cs : List Char) : Host.readSpecial cs ≠ .ok .absent := by
  intro h
  unfold Host.readSpecial Host.readBracketed at h
  repeat' split at h
  all_goals cases h

/-- Behind a port, only a backslash may be left. -/
lemma readPort_rest {port : Option Nat} {rest : List Char} (hslash : '\\' ∉ cs)
    (h : readPort scheme cs = .ok (port, rest)) : rest = [] := by
  unfold readPort at h
  dsimp only at h
  split at h
  case isTrue => cases h
  case isFalse =>
    split at h
    case isFalse => cases h
    case isTrue hrest =>
      cases h
      rw [Bool.or_eq_true, List.isEmpty_iff, decide_eq_true_eq] at hrest
      refine hrest.resolve_right fun hhead => hslash ?_
      exact (List.dropWhile_suffix _).subset (List.mem_of_mem_head? hhead)

lemma splitLast?_suffix {mark : Char} {p : List Char × List Char}
    (h : splitLast? mark cs = some p) :
    p.2 <:+ cs := by
  unfold splitLast? at h
  split at h
  case isFalse => cases h
  case isTrue =>
    cases h
    rw [← List.reverse_prefix, List.reverse_reverse]
    exact List.takeWhile_prefix _

lemma splitHost_suffix (inside : Bool) (cs : List Char) : (splitHost inside cs).2 <:+ cs := by
  fun_induction splitHost inside cs with
  | case1 => exact List.suffix_rfl
  | case2 => exact List.suffix_rfl
  | case3 inside c cs _ inside' host rest heq ih =>
    rw [heq] at ih
    exact ih.trans (List.suffix_cons c cs)

/-- Only the authority itself has a bearing on how it is read. -/
lemma readAuthority_append (hwhole : ∀ c ∈ whole, endsAuthority .special c = false)
    (hafter : ∀ c ∈ after.head?, endsAuthority .special c = true) :
    readAuthority scheme .special (whole ++ after)
      = (readWhole scheme whole).map fun a => (a, after) := by
  have htake : (whole ++ after).takeWhile (!endsAuthority .special ·) = whole :=
    takeWhile_append_of_head (by simpa using hwhole) (by simpa using hafter)
  have hdrop : (whole ++ after).dropWhile (!endsAuthority .special ·) = after :=
    dropWhile_append_of_head (by simpa using hwhole) (by simpa using hafter)
  have hport : ∀ c ∈ (splitHost false ((splitLast? '@' whole).getD ([], whole)).2).2,
      endsAuthority .special c = false := by
    intro c hc
    have hmem := (splitHost_suffix _ _).subset hc
    cases hsplit : splitLast? '@' whole with
    | none =>
      rw [hsplit] at hmem
      exact hwhole c hmem
    | some p =>
      rw [hsplit] at hmem
      exact hwhole c ((splitLast?_suffix hsplit).subset hmem)
  have hspecial : SchemeKind.special.isSpecial = true := rfl
  unfold readAuthority readWhole
  simp only [htake, hdrop, hspecial, reduceIte]
  rcases hsplit : splitLast? '@' whole with _ | ⟨user, hostPort⟩
  all_goals
    simp only [hsplit, Option.getD_none, Option.getD_some] at hport ⊢
    split
    -- An empty host is refused in two places, for the same reason.
    case isTrue hthrow =>
      rw [hthrow.2.1]
      rfl
    case isFalse =>
      generalize splitHost false _ = parts at hport ⊢
      obtain ⟨hostChars, portChars⟩ := parts
      cases hhost : Host.readSpecial hostChars with
      | error e => rfl
      | ok host =>
        have hhere : host ≠ .absent := fun heq => Host.readSpecial_ne_absent _ (heq ▸ hhost)
        dsimp only [bind, Except.bind]
        rw [if_neg fun h => hhere h.1]
        cases portChars with
        | nil => rfl
        | cons c cs =>
          dsimp only
          cases hread : readPort scheme cs with
          | error e => rfl
          | ok read =>
            obtain ⟨port, rest⟩ := read
            have hslash : '\\' ∉ cs := fun hmem =>
              Bool.noConfusion (hport _ (List.mem_cons_of_mem c hmem))
            obtain rfl := readPort_rest hslash hread
            rfl

/-! ### Blanks -/

/-- A text without tabs and line ends. -/
def unbroken (cs : List Char) : List Char :=
  cs.filter fun c => c ≠ '\t' && c ≠ '\n' && c ≠ '\r'

lemma unbroken_eq_self (h : ∀ c ∈ cs, c ≠ '\t' ∧ c ≠ '\n' ∧ c ≠ '\r') : unbroken cs = cs := by
  rw [unbroken, List.filter_eq_self]
  intro c hc
  simpa [and_assoc] using h c hc

lemma mem_of_mem_stripped {c : Char} (hc : c ∈ stripped cs) : c ∈ cs := by
  have htrimmed := List.mem_reverse.mp (List.mem_of_mem_filter hc)
  have hfront := List.mem_reverse.mp ((List.dropWhile_suffix _).subset htrimmed)
  exact (List.dropWhile_suffix _).subset hfront

/-- Blanks in front do not count, and none are cut off behind where there are none. -/
lemma stripped_append (hcs : ∃ c ∈ cs, ' ' < c) (hlast : ∀ c ∈ (cs ++ ds).getLast?, ' ' < c) :
    stripped (cs ++ ds) = unbroken (cs.dropWhile (· ≤ ' ')) ++ unbroken ds := by
  have hfront : cs.dropWhile (· ≤ ' ') ≠ [] := by
    intro hnil
    obtain ⟨c, hc, hlow⟩ := hcs
    have hblank := List.dropWhile_eq_nil_iff.mp hnil c hc
    rw [decide_eq_true_eq] at hblank
    exact absurd hlow (Char.not_lt.mpr hblank)
  have hdrop : (cs ++ ds).dropWhile (· ≤ ' ') = cs.dropWhile (· ≤ ' ') ++ ds := by
    rw [List.dropWhile_append, if_neg (by simpa using hfront)]
  have hback : ((cs ++ ds).dropWhile (· ≤ ' ')).reverse.dropWhile (· ≤ ' ')
      = ((cs ++ ds).dropWhile (· ≤ ' ')).reverse := by
    have hne : (cs ++ ds).dropWhile (· ≤ ' ') ≠ [] := by simp [hdrop, hfront]
    rw [← List.takeWhile_append_dropWhile (p := (· ≤ ' ')) (l := cs ++ ds),
      List.getLast?_append_of_ne_nil _ hne] at hlast
    cases hrev : ((cs ++ ds).dropWhile (· ≤ ' ')).reverse with
    | nil => rfl
    | cons c rest =>
      refine List.dropWhile_cons_of_neg ?_
      rw [decide_eq_true_eq, Char.not_le]
      refine hlast c ?_
      rw [← List.head?_reverse, hrev]
      rfl
  unfold stripped
  dsimp only
  rw [hback, List.reverse_reverse, hdrop, List.filter_append]
  rfl

/-! ### Whole texts -/

/-- How a text falls into a scheme, an authority and what is behind it. -/
structure Falls (cs scheme whole tail : List Char) : Prop where
  split : ∃ slashes, (∀ c ∈ slashes, isSlash .special c = true)
    ∧ splitScheme? cs = some (scheme, slashes ++ (whole ++ tail))
  nonempty : whole ≠ []
  whole : ∀ c ∈ whole, endsAuthority .special c = false
  tail : ∀ c ∈ tail.head?, endsAuthority .special c = true

lemma endsAuthority_of_isSlash {k : SchemeKind} {c : Char} (h : isSlash k c = true) :
    endsAuthority k c = true := by
  simp [endsAuthority, h]

lemma endsAuthority_eq (k : SchemeKind) (c : Char) :
    endsAuthority k c = (isSlash k c || endsPath c) := by
  simp [endsAuthority, endsPath, Bool.or_assoc]

lemma readWhole_nil : readWhole scheme [] = .error .emptyHost := rfl

lemma readRest_special (hk : SchemeKind.of scheme = .special) (cs : List Char) :
    readRest scheme cs
      = (readAuthority scheme .special (cs.dropWhile (isSlash .special))).map fun p =>
        assemble scheme .special (some p.1) (readPath .special) p.2 := by
  unfold readRest
  simp only [hk]
  cases readAuthority scheme .special (cs.dropWhile (isSlash .special)) <;> rfl

/-- How a URL with a special scheme is read. -/
lemma Falls.parse_eq {text : String} {tail : List Char} (hk : SchemeKind.of scheme = .special)
    (h : Falls (stripped text.toList) scheme whole tail) :
    parse text = (readWhole scheme whole).map fun a =>
      assemble scheme .special (some a) (readPath .special) tail := by
  obtain ⟨slashes, hslashes, hsplit⟩ := h.split
  have hdrop : (slashes ++ (whole ++ tail)).dropWhile (isSlash .special) = whole ++ tail := by
    refine dropWhile_append_of_head hslashes fun c hc => ?_
    rw [List.head?_append_of_ne_nil _ h.nonempty] at hc
    by_contra hslash
    rw [Bool.not_eq_false] at hslash
    have hends := endsAuthority_of_isSlash hslash
    rw [h.whole c (List.mem_of_mem_head? hc)] at hends
    cases hends
  unfold parse
  rw [hsplit]
  dsimp only
  rw [readRest_special hk, hdrop, readAuthority_append h.whole h.tail]
  cases readWhole scheme whole <;> rfl

/-- A URL has the scheme that its text begins with. -/
lemma scheme_of_readRest {u : Url} (h : readRest scheme cs = .ok u) : u.scheme = scheme := by
  unfold readRest readFile at h
  dsimp only [bind, Except.bind, pure, Except.pure] at h
  repeat' split at h
  all_goals cases h
  all_goals rfl

/-- A URL with a special scheme has an authority. -/
lemma falls_of_parse {text : String} {u : Url} (h : parse text = .ok u)
    (hk : SchemeKind.of u.scheme = .special) :
    ∃ whole tail, Falls (stripped text.toList) u.scheme whole tail := by
  unfold parse at h
  split at h
  case h_1 => cases h
  case h_2 scheme rest hsplit =>
    obtain rfl := scheme_of_readRest h
    rw [readRest_special hk] at h
    generalize hinner : rest.dropWhile (isSlash .special) = inner at h
    have hslashes : rest = rest.takeWhile (isSlash .special) ++ inner := by
      rw [← hinner, List.takeWhile_append_dropWhile]
    have hparts : inner.takeWhile (!endsAuthority .special ·)
        ++ inner.dropWhile (!endsAuthority .special ·) = inner := List.takeWhile_append_dropWhile
    refine ⟨inner.takeWhile (!endsAuthority .special ·),
      inner.dropWhile (!endsAuthority .special ·), ⟨?_, ?_, ?_, ?_⟩⟩
    · refine ⟨rest.takeWhile (isSlash .special), fun c hc => List.mem_takeWhile_imp hc, ?_⟩
      rw [hparts, ← hslashes]
      exact hsplit
    · intro hnil
      rw [hnil, List.nil_append] at hparts
      have hread : readAuthority u.scheme .special ([] ++ inner)
          = (readWhole u.scheme []).map fun a => (a, inner) :=
        readAuthority_append (by simp) (by
          rw [← hparts]
          simpa using head?_dropWhile (!endsAuthority .special ·) inner)
      rw [List.nil_append, readWhole_nil] at hread
      rw [hread] at h
      cases h
    · intro c hc
      simpa using List.mem_takeWhile_imp hc
    · simpa using head?_dropWhile (!endsAuthority .special ·) inner

/-- What is put behind a URL, behind a slash, is put behind its path. -/
lemma Falls.append {tail : List Char} (h : Falls cs scheme whole tail)
    (hds : ∀ c ∈ ds.head?, c = '/') : Falls (cs ++ ds) scheme whole (tail ++ ds) := by
  obtain ⟨⟨slashes, hslashes, hsplit⟩, hne, hwhole, htail⟩ := h
  refine ⟨⟨slashes, hslashes, ?_⟩, hne, hwhole, ?_⟩
  · rw [splitScheme?_append hsplit, List.append_assoc, List.append_assoc]
  · cases tail with
    | nil =>
      intro c hc
      rw [hds c hc]
      rfl
    | cons c tail => exact htail

/-- Slashes at the end of a URL are no part of what stands before its path. -/
lemma Falls.of_append {tail : List Char} (h : Falls (cs ++ ds) scheme whole tail)
    (hds : ∀ c ∈ ds, c = '/') : ∃ front, Falls cs scheme whole front ∧ tail = front ++ ds := by
  obtain ⟨⟨slashes, hslashes, hsplit⟩, hne, hwhole, htail⟩ := h
  obtain ⟨name, hname, hchars, halpha, rfl⟩ := splitScheme?_eq_some.mp hsplit
  have hall : cs ++ ds = (name ++ ':' :: slashes ++ whole) ++ tail := by simp [hname]
  rcases List.append_eq_append_iff.mp hall with ⟨k, hk, hk'⟩ | ⟨k, hk, hk'⟩
  · -- If it were not so, the authority would end in a slash.
    rcases List.eq_nil_or_concat k with rfl | ⟨k, c, rfl⟩
    · rw [List.append_nil] at hk
      refine ⟨[], ⟨⟨slashes, hslashes, ?_⟩, hne, hwhole, by simp⟩, hk'.symm⟩
      rw [List.append_nil]
      exact splitScheme?_eq_some.mpr ⟨name, by simp [← hk], hchars, halpha, rfl⟩
    · rw [List.concat_eq_append] at hk hk'
      have hslash : c = '/' := hds c (hk' ▸ by simp)
      have hlast : whole.getLast? = some c := by
        have hlasts := congrArg List.getLast? hk
        rwa [List.getLast?_append_of_ne_nil _ hne, ← List.append_assoc, List.getLast?_concat]
          at hlasts
      have hends := hwhole c (List.mem_of_getLast? hlast)
      rw [hslash] at hends
      cases hends
  · refine ⟨k, ⟨⟨slashes, hslashes, ?_⟩, hne, hwhole, ?_⟩, hk'⟩
    · exact splitScheme?_eq_some.mpr ⟨name, by simp [hk], hchars, halpha, rfl⟩
    · intro c hc
      refine htail c ?_
      rw [hk', List.head?_append, hc]
      rfl

end GroundLink.Url
