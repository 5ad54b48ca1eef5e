import GroundLink.Client.Config
import GroundLink.Proofs.Url.Host

/-!
# The address of the websocket

The websocket of a server stands at a path of its own, at the host and port of the server.
-/

namespace GroundLink

open Url

/-- The port that a URL speaks to. -/
def Url.effectivePort? (u : Url) : Option Nat :=
  (u.authority.bind (·.port)).or (defaultPort? u.scheme)

namespace Client.Config

variable {c : Config} {u : Url} {a : Authority} {scheme scheme' : List Char}

/-- The scheme of the websocket for that of a server. -/
inductive Upgrades : List Char → List Char → Prop
  | http : Upgrades "http".toList "ws".toList
  | ws : Upgrades "ws".toList "ws".toList
  | https : Upgrades "https".toList "wss".toList
  | wss : Upgrades "wss".toList "wss".toList

lemma websocketScheme?_eq_some :
    websocketScheme? scheme = some scheme' ↔ Upgrades scheme scheme' := by
  constructor
  · intro h
    unfold websocketScheme? at h
    split at h
    case isTrue hplain =>
      cases h
      rcases hplain with rfl | rfl
      · exact .http
      · exact .ws
    case isFalse =>
      split at h
      case isTrue hsecure =>
        cases h
        rcases hsecure with rfl | rfl
        · exact .https
        · exact .wss
      case isFalse => cases h
  · rintro (_ | _ | _ | _) <;> rfl

lemma Upgrades.special (h : Upgrades scheme scheme') :
    SchemeKind.of scheme = .special ∧ SchemeKind.of scheme' = .special := by
  cases h <;> decide

lemma Upgrades.defaultPort? (h : Upgrades scheme scheme') :
    defaultPort? scheme' = defaultPort? scheme := by
  cases h <;> rfl

/-- The websocket upgrades to itself. -/
lemma Upgrades.again (h : Upgrades scheme scheme') : Upgrades scheme' scheme' := by
  cases h <;> constructor

/-- The websocket of a server. -/
def websocketAt (scheme : List Char) (a : Authority) (fragment : Option (List Char)) : Url where
  scheme := scheme
  authority := some a
  path := .segments ["api".toList, "websocket".toList]
  query := none
  fragment := fragment

lemma websocketAt_chars (scheme : List Char) (a : Authority) (fragment : Option (List Char)) :
    (websocketAt scheme a fragment).chars = scheme ++ "://".toList ++ a.userinfoChars
      ++ a.host.chars ++ a.portChars ++ "/api/websocket".toList ++ marked '#' fragment := by
  simp [websocketAt, Url.chars, Url.beforePath, Authority.chars, Path.chars, marked]

lemma websocket_of_parse (hparse : Url.parse c.url = .ok u) (hscheme : Upgrades u.scheme scheme')
    (hauthority : u.authority = some a) :
    c.websocket = .ok (websocketAt scheme' a u.fragment) := by
  rw [websocket, hparse]
  dsimp only [websocketOf?]
  rw [websocketScheme?_eq_some.mpr hscheme, hauthority]
  rfl

/-- The parts of the address of a server are as they are when they are read. -/
lemma settled_of_parse (hparse : Url.parse c.url = .ok u) (hk : SchemeKind.of u.scheme = .special) :
    ∃ a, u.authority = some a ∧ a.Settled u.scheme
      ∧ (∃ hostChars, Host.readSpecial hostChars = .ok a.host)
      ∧ ∀ f ∈ u.fragment, ∀ ch ∈ f, escapesFragment ch = false := by
  obtain ⟨whole, tail, hfalls⟩ := falls_of_parse hparse hk
  have hread := hfalls.parse_eq hk
  cases hwhole : readWhole u.scheme whole with
  | error e =>
    rw [hwhole, hparse] at hread
    cases hread
  | ok a =>
    rw [hwhole, hparse] at hread
    have hu := Except.ok.inj hread
    obtain ⟨ha, hhost⟩ := settled_of_readWhole hwhole
    refine ⟨a, by rw [hu]; rfl, ha, hhost, fun f hf => ?_⟩
    rw [hu] at hf
    dsimp only [assemble] at hf
    split at hf
    · cases hf
      exact fun ch hch => sparing_fragment.not_escapes hch
    · cases hf

/-- A websocket is that of an address with a scheme of the web. -/
lemma websocketUrl_eq_ok {text : String} : c.websocketUrl = .ok text ↔ ∃ u scheme a,
    Url.parse c.url = .ok u ∧ Upgrades u.scheme scheme ∧ u.authority = some a
      ∧ (websocketAt scheme a u.fragment).text = text := by
  constructor
  · intro htext
    have hfound : ∃ u scheme, Url.parse c.url = .ok u ∧ Upgrades u.scheme scheme := by
      rw [websocketUrl, websocket] at htext
      split at htext
      case h_1 => cases htext
      case h_2 u hparse =>
        split at htext
        case h_1 w hw =>
          obtain ⟨scheme, hscheme, -⟩ := Option.map_eq_some_iff.mp hw
          exact ⟨u, scheme, hparse, websocketScheme?_eq_some.mp hscheme⟩
        case h_2 => cases htext
    obtain ⟨u, scheme, hparse, hscheme⟩ := hfound
    obtain ⟨a, hauthority, -⟩ := settled_of_parse hparse hscheme.special.1
    rw [websocketUrl, websocket_of_parse hparse hscheme hauthority] at htext
    exact ⟨u, scheme, a, hparse, hscheme, hauthority, Except.ok.inj htext⟩
  · rintro ⟨u, scheme, a, hparse, hscheme, hauthority, rfl⟩
    rw [websocketUrl, websocket_of_parse hparse hscheme hauthority]
    rfl

/-- The address of the websocket is read again up to what its host is read as. -/
lemma parse_websocketAt {fragment : Option (List Char)} (hscheme : Upgrades scheme scheme')
    (ha : a.Settled scheme) (hhost : a.host.IsClean)
    (hfragment : ∀ f ∈ fragment, ∀ ch ∈ f, escapesFragment ch = false) :
    Url.parse (websocketAt scheme' a fragment).text
      = (Host.readSpecial a.host.chars).map fun host =>
        websocketAt scheme' { a with host := host } fragment := by
  have hauthority : a.Settled scheme' :=
    ⟨ha.username, ha.password, fun n hn => by
      rw [hscheme.defaultPort?]
      exact ha.port n hn⟩
  have hitems : ∀ s ∈ ["api".toList, "websocket".toList], SettledSegment s := by
    simp only [List.forall_mem_cons, List.not_mem_nil, false_implies, implies_true, and_true]
    exact ⟨⟨by decide +kernel, by decide +kernel⟩, ⟨by decide +kernel, by decide +kernel⟩⟩
  have hsettled : (websocketAt scheme' a fragment).Settled a ["api".toList, "websocket".toList] :=
    ⟨hscheme.special.2, rfl, hauthority, hhost, rfl, by simp, hitems, by simp [websocketAt],
      hfragment⟩
  exact Url.parse_text hsettled

/-- The websocket of a server leads to itself if its host is short, and to nothing otherwise. -/
lemma websocketUrl_again {text : String} (hparse : Url.parse c.url = .ok u)
    (hscheme : Upgrades u.scheme scheme) (hauthority : u.authority = some a)
    (htext : (websocketAt scheme a u.fragment).text = text) :
    Config.websocketUrl { c with url := text } = .ok text ↔ a.host.IsShort := by
  obtain ⟨a', hauthority', ha, ⟨hostChars, hhost⟩, hfragment⟩ :=
    settled_of_parse hparse hscheme.special.1
  obtain rfl : a' = a := Option.some.inj (hauthority'.symm.trans hauthority)
  have hagain := parse_websocketAt hscheme ha (Host.isClean_of_readSpecial hhost) hfragment
  obtain ⟨hread, hshort⟩ := Host.readSpecial_chars hhost
  rw [htext] at hagain
  constructor
  · intro hsame
    obtain ⟨v, -, -, hparse', -⟩ := websocketUrl_eq_ok.mp hsame
    rw [hagain] at hparse'
    cases hhost' : Host.readSpecial a'.host.chars with
    | error e =>
      rw [hhost'] at hparse'
      cases hparse'
    | ok host => exact hshort host hhost'
  · intro hall
    rw [hread hall] at hagain
    exact websocketUrl_eq_ok.mpr ⟨_, scheme, a', hagain, hscheme.again, rfl, htext⟩

/-- The websocket that a server leads to: it keeps the user, host, port and fragment of the server,
and nothing else. -/
structure Derived (c : Config) (u : Url) (text : String) : Prop where
  exact : ∃ scheme a, Upgrades u.scheme scheme ∧ u.authority = some a
    ∧ text = String.ofList (scheme ++ "://".toList ++ a.userinfoChars ++ a.host.chars ++ a.portChars
      ++ "/api/websocket".toList ++ marked '#' u.fragment)
  port : ∀ w, c.websocket = .ok w → w.effectivePort? = u.effectivePort?

/-- The address of the websocket can be had exactly from an address with a scheme of the web. The
websocket then leads to itself, unless its host has a label that is too long for Punycode. -/
theorem websocketUrl_derived (c : Config) :
    ((∃ text, c.websocketUrl = .ok text)
      ↔ ∃ u scheme, Url.parse c.url = .ok u ∧ Upgrades u.scheme scheme)
    ∧ ∀ u text, Url.parse c.url = .ok u → c.websocketUrl = .ok text →
      Derived c u text ∧ (Config.websocketUrl { c with url := text } = .ok text
        ↔ ∀ a ∈ u.authority, a.host.IsShort) := by
  refine ⟨⟨?_, ?_⟩, ?_⟩
  · rintro ⟨text, htext⟩
    obtain ⟨u, scheme, -, hparse, hscheme, -⟩ := websocketUrl_eq_ok.mp htext
    exact ⟨u, scheme, hparse, hscheme⟩
  · rintro ⟨u, scheme, hparse, hscheme⟩
    obtain ⟨a, hauthority, -⟩ := settled_of_parse hparse hscheme.special.1
    exact ⟨_, websocketUrl_eq_ok.mpr ⟨u, scheme, a, hparse, hscheme, hauthority, rfl⟩⟩
  · intro u text hparse htext
    obtain ⟨u', scheme, a, hparse', hscheme, hauthority, htext⟩ := websocketUrl_eq_ok.mp htext
    obtain rfl : u' = u := Except.ok.inj (hparse'.symm.trans hparse)
    refine ⟨⟨⟨scheme, a, hscheme, hauthority, ?_⟩, ?_⟩, ?_⟩
    · rw [← htext, Url.text, websocketAt_chars]
    · intro w hw
      obtain rfl := Except.ok.inj ((websocket_of_parse hparse hscheme hauthority).symm.trans hw)
      rw [effectivePort?, effectivePort?, hauthority]
      dsimp only [websocketAt]
      rw [hscheme.defaultPort?]
    · rw [websocketUrl_again hparse hscheme hauthority htext, hauthority]
      simp

/-! ### A server of this machine -/

/-- A client of a server. -/
def of (address : String) : Config := { Config.default with url := address }

variable {address : String} {items : List (List Char)} {query fragment : Option (List Char)}

lemma websocket_localUrl (hparse : Url.parse address = .ok (localUrl items query fragment)) :
    (of address).websocket = .ok (websocketAt "ws".toList
      ⟨[], [], .name "localhost".toList, some 8090⟩ fragment) := by
  have hscheme : Upgrades (localUrl items query fragment).scheme "ws".toList := .http
  exact websocket_of_parse (c := of address) hparse hscheme rfl

/-- What is put behind the address of a server as its fragment stands behind the websocket. -/
theorem websocketUrl_fragment :
    (of "http://localhost:8090/#frag").websocketUrl = .ok "ws://localhost:8090/api/websocket#frag"
      ∧ (of "http://localhost:8090/").websocketUrl = .ok "ws://localhost:8090/api/websocket" := by
  have hbare : Url.parse "http://localhost:8090/" = .ok (localUrl [[]] none none) :=
    parse_localUrl (by decide +kernel) (by simp) (by decide +kernel) (by simp) (by simp)
  have hmarked : Url.parse "http://localhost:8090/#frag"
      = .ok (localUrl [[]] none (some "frag".toList)) :=
    parse_localUrl (by decide +kernel) (by simp) (by decide +kernel) (by simp) (by decide +kernel)
  constructor
  · rw [websocketUrl, websocket_localUrl hmarked]
    decide +kernel
  · rw [websocketUrl, websocket_localUrl hbare]
    decide +kernel

end Client.Config

end GroundLink
