import GroundLink.Client.Archive
import GroundLink.Proofs.Client.Config

/-!
# Where the archive is asked

A listing of an instance is asked for behind the path of the server, under the name of the instance,
where nothing in the name has a meaning of its own in a URL.
-/

namespace GroundLink

open Url

/-! ### Queries -/

namespace Url.Form

lemma encodePair_ne_nil (pair : String × String) : encodePair pair ≠ [] := by
  simp [encodePair]

lemma append_of_ne_nil {query : List Char} (hne : query ≠ []) (pairs : List (String × String)) :
    append query pairs = query ++ pairs.flatMap fun pair => '&' :: encodePair pair := by
  induction pairs generalizing query with
  | nil => rw [append, List.flatMap_nil, List.append_nil]
  | cons pair pairs ih =>
    have hempty : query.isEmpty = false := by simp [hne]
    rw [append, hempty, ih (by simp [hne])]
    simp

/-- Pairs are written one behind another, with a mark between them. -/
lemma append_nil_eq (pairs : List (String × String)) :
    append [] pairs = List.intercalate ['&'] (pairs.map encodePair) := by
  cases pairs with
  | nil => rfl
  | cons pair pairs =>
    rw [append, List.isEmpty_nil, if_pos rfl, List.append_nil, List.nil_append,
      append_of_ne_nil (encodePair_ne_nil pair), List.map_cons, Domain.intercalate_cons,
      List.flatMap_map]

end Url.Form

namespace Client

/-! ### Addresses of servers -/

namespace Config

/-- The address of a server that the archive can be asked at. -/
structure IsBase (c : Config) : Prop where
  scheme : ∃ u, Url.parse c.url = .ok u ∧ (u.scheme = "http".toList ∨ u.scheme = "https".toList)
  /-- It has neither a query nor a fragment. -/
  bare : ∀ ch ∈ c.url.toList, endsPath ch = false
  /-- It does not end with a blank. -/
  last : ∀ ch ∈ c.url.toList.getLast?, ' ' < ch

/-- The address of a server is followed by slashes only. -/
lemma httpBase_append (c : Config) :
    ∃ slashes, c.url.toList = c.httpBase.toList ++ slashes ∧ ∀ ch ∈ slashes, ch = '/' := by
  refine ⟨(c.url.toList.reverse.takeWhile (· = '/')).reverse, ?_, fun ch hch => ?_⟩
  · rw [httpBase, String.toList_ofList, ← List.reverse_append, List.takeWhile_append_dropWhile,
      List.reverse_reverse]
  · simpa using List.mem_takeWhile_imp (List.mem_reverse.mp hch)

/-- The address of a server falls into an authority and a path, and what is put behind it, behind a
slash, is put behind the path. -/
structure Leads (c : Config) (u : Url) (a : Authority) (whole front : List Char) : Prop where
  parse : Url.parse c.url = .ok u
  scheme : u.scheme = "http".toList ∨ u.scheme = "https".toList
  authority : u.authority = some a
  read : readWhole u.scheme whole = .ok a
  bare : ∀ ch ∈ front, endsPath ch = false
  falls : ∀ cs, (∀ ch ∈ cs.head?, ch = '/') → (∀ ch ∈ cs.getLast?, ' ' < ch) → cs ≠ [] →
    unbroken cs = cs → Falls (stripped (c.httpBase.toList ++ cs)) u.scheme whole (front ++ cs)

lemma special_of_http {scheme : List Char}
    (h : scheme = "http".toList ∨ scheme = "https".toList) : SchemeKind.of scheme = .special := by
  rcases h with rfl | rfl <;> decide

lemma IsBase.leads {c : Config} (hbase : c.IsBase) :
    ∃ u a whole front, c.Leads u a whole front := by
  obtain ⟨u, hparse, hscheme⟩ := hbase.scheme
  have hk := special_of_http hscheme
  obtain ⟨whole, tail, hfalls⟩ := falls_of_parse hparse hk
  have hread := hfalls.parse_eq hk
  obtain ⟨slashes, hurl, hslashes⟩ := c.httpBase_append
  -- The colon of the scheme is no slash, so that it stands in what is left of the address.
  have hcolon : ':' ∈ c.httpBase.toList := by
    obtain ⟨⟨_, -, hsplit⟩, -⟩ := hfalls
    obtain ⟨name, hname, -⟩ := splitScheme?_eq_some.mp hsplit
    have hmem : ':' ∈ c.url.toList := mem_of_mem_stripped (hname ▸ by simp)
    rw [hurl, List.mem_append] at hmem
    exact hmem.resolve_right fun h => absurd (hslashes _ h) (by decide)
  have hlow : ∃ ch ∈ c.httpBase.toList, ' ' < ch := ⟨':', hcolon, by decide⟩
  have hsame : unbroken slashes = slashes := unbroken_eq_self fun ch hch => by
    rw [hslashes ch hch]
    decide
  have hstripped : stripped c.url.toList
      = unbroken (c.httpBase.toList.dropWhile (· ≤ ' ')) ++ slashes := by
    have hlast := hbase.last
    rw [hurl] at hlast ⊢
    rw [stripped_append hlow hlast, hsame]
  have hbehind := hfalls
  rw [hstripped] at hbehind
  obtain ⟨front, hfront, rfl⟩ := hbehind.of_append hslashes
  cases hwhole : readWhole u.scheme whole with
  | error e =>
    rw [hwhole, hparse] at hread
    cases hread
  | ok a =>
    rw [hwhole, hparse] at hread
    have hu := Except.ok.inj hread
    refine ⟨u, a, whole, front, hparse, hscheme, by rw [hu]; rfl, hwhole, fun ch hch => ?_,
      fun cs hhead hlast hne hclean => ?_⟩
    · obtain ⟨⟨skipped, -, hsplit⟩, -⟩ := hfalls
      obtain ⟨name, hname, -⟩ := splitScheme?_eq_some.mp hsplit
      exact hbase.bare ch (mem_of_mem_stripped (hname ▸ by simp [hch]))
    · rw [stripped_append hlow (by rwa [List.getLast?_append_of_ne_nil _ hne]), hclean]
      exact hfront.append hhead

end Config

namespace Archive

variable {config : Config} {websocket u : Url} {name : String} {listing : Listing}
  {scheme : List Char} {a : Authority} {before : List (List Char)}

/-- The name of an instance that means the instance also in a URL: it does not end a segment or
vanish, and it is neither a dot segment nor holds the escape of a character. -/
structure IsPlain (name : String) : Prop where
  clean : ∀ c ∈ name.toList, isSlash .special c = false ∧ endsPath c = false
    ∧ c ≠ '\t' ∧ c ≠ '\n' ∧ c ≠ '\r'
  dots : name ≠ "." ∧ name ≠ ".."
  unescaped : decode name.toList = name.toList.flatMap String.utf8EncodeChar

/-- The query of a request: commands are asked for without one, events by their source, if there is
one, by how many there are to be, and the earliest first. -/
def asked (config : Config) : Listing → Option (List Char)
  | .commands => none
  | .events => some (List.intercalate ['&'] ((config.eventSource.toList.map ("source", ·)
      ++ [("limit", toString config.eventLimit), ("order", "asc")]).map Form.encodePair))

/-- The request for a listing of an instance, behind the path `before` of a server. -/
structure Addresses (websocket : Url) (before : List (List Char)) (config : Config)
    (name : String) (listing : Listing) (u : Url) : Prop where
  host : u.authority.map (·.host) = websocket.authority.map (·.host)
  port : u.effectivePort? = websocket.effectivePort?
  /-- The instance is one segment, of which it is the text. -/
  path : ∃ segment, u.path
      = .segments (before ++ ["api".toList, "archive".toList, segment, listing.name.toList])
    ∧ utf8? (decode segment) = some name
    ∧ ∀ c ∈ segment, isSlash .special c = false ∧ endsPath c = false
  query : u.query = asked config listing

/-! ### Segments -/

/-- The segments of a listing, as they stand in the address of a request. -/
def segments (name : String) (listing : Listing) : List (List Char) :=
  ["api".toList, "archive".toList, name.toList, listing.name.toList]

/-- The address of a request. -/
lemma address_toList (config : Config) (name : String) (listing : Listing) :
    (config.httpBase ++ "/api/archive/" ++ name ++ "/" ++ listing.name).toList
      = config.httpBase.toList ++ (Path.segments (segments name listing)).chars := by
  simp [segments, Path.chars]

lemma IsPlain.text (h : IsPlain name) :
    utf8? (decode (encode escapesPath name.toList)) = some name := by
  rw [sparing_path.decode_encode, h.unescaped, utf8?_utf8, String.ofList_toList]

lemma IsPlain.isDots_eq (h : IsPlain name) : isDots (encode escapesPath name.toList) = false := by
  by_contra hdots
  rw [Bool.not_eq_false] at hdots
  have htext := h.text
  rcases decode_of_isDots hdots with hdot | hdot
  all_goals
    rw [hdot, utf8?_utf8, Option.some_inj] at htext
  · exact h.dots.1 htext.symm
  · exact h.dots.2 htext.symm

/-! ### Requests -/

lemma segments_clean (h : IsPlain name) (listing : Listing) : ∀ s ∈ segments name listing,
    ∀ c ∈ s, isSlash .special c = false ∧ endsPath c = false ∧ c ≠ '\t' ∧ c ≠ '\n' ∧ c ≠ '\r' := by
  have hrest : ∀ s ∈ ["api", "archive", "commands", "events"], ∀ c ∈ s.toList,
      isSlash .special c = false ∧ endsPath c = false ∧ c ≠ '\t' ∧ c ≠ '\n' ∧ c ≠ '\r' := by
    decide +kernel
  intro s hs
  simp only [segments, List.mem_cons, List.not_mem_nil, or_false] at hs
  rcases hs with rfl | rfl | rfl | rfl
  · exact hrest "api" (by decide)
  · exact hrest "archive" (by decide)
  · exact h.clean
  · cases listing
    · exact hrest "commands" (by decide)
    · exact hrest "events" (by decide)

/-- The address of a request for a plain instance, as a URL. -/
def located (u : Url) (a : Authority) (before : List (List Char)) (name : String)
    (listing : Listing) : Url where
  scheme := u.scheme
  authority := some a
  path := .segments (before
    ++ ["api".toList, "archive".toList, encode escapesPath name.toList, listing.name.toList])
  query := none
  fragment := none

lemma parse_address {whole front : List Char} (hleads : config.Leads u a whole front)
    (h : IsPlain name) (listing : Listing) :
    Url.parse (config.httpBase ++ "/api/archive/" ++ name ++ "/" ++ listing.name)
      = .ok (located u a (folder front) name listing) := by
  have hk := Config.special_of_http hleads.scheme
  have hclean := segments_clean h listing
  have hchars : ∀ c ∈ (Path.segments (segments name listing)).chars,
      endsPath c = false ∧ c ≠ '\t' ∧ c ≠ '\n' ∧ c ≠ '\r' := by
    intro c hc
    obtain ⟨s, hs, hc⟩ := List.mem_flatMap.mp hc
    rcases List.mem_cons.mp hc with rfl | hc
    · decide
    · exact (hclean s hs c hc).2
  have hencode : (segments name listing).map (encode escapesPath)
      = ["api".toList, "archive".toList, encode escapesPath name.toList, listing.name.toList] := by
    cases listing <;> rfl
  have hdots : ∀ s ∈ segments name listing, isDots (encode escapesPath s) = false := by
    intro s hs
    simp only [segments, List.mem_cons, List.not_mem_nil, or_false] at hs
    rcases hs with rfl | rfl | rfl | rfl
    · decide +kernel
    · decide +kernel
    · exact h.isDots_eq
    · cases listing <;> decide +kernel
  have hlast : ∀ c ∈ (Path.segments (segments name listing)).chars.getLast?, ' ' < c := by
    have hsplit : (Path.segments (segments name listing)).chars
        = (Path.segments ((segments name listing).take 3)).chars ++ '/' :: listing.name.toList := by
      simp [segments, Path.chars]
    have hvisible : ∀ c ∈ '/' :: listing.name.toList, ' ' < c := by
      cases listing <;> decide +kernel
    rw [hsplit, List.getLast?_append_of_ne_nil _ (by simp)]
    exact fun c hc => hvisible c (List.mem_of_getLast? hc)
  have hfalls := hleads.falls _ (by simp [Path.chars, segments]) hlast
    (by simp [Path.chars, segments]) (unbroken_eq_self fun c hc => (hchars c hc).2)
  have hslash : ∀ c ∈ front.head?, isSlash .special c = true := by
    intro c hc
    have hends := hfalls.tail c (by rw [List.head?_append, hc]; rfl)
    rwa [endsAuthority_eq, hleads.bare c (List.mem_of_mem_head? hc), Bool.or_false] at hends
  have hbare : ∀ c ∈ front ++ (Path.segments (segments name listing)).chars,
      endsPath c = false := fun c hc =>
    (List.mem_append.mp hc).elim (hleads.bare c) fun hc => (hchars c hc).1
  have hassemble : assemble u.scheme .special (some a) (readPath .special)
      (front ++ (Path.segments (segments name listing)).chars
        ++ (marked '?' none ++ marked '#' none))
      = ⟨u.scheme, some a, readPath .special
        (front ++ (Path.segments (segments name listing)).chars), none, none⟩ :=
    assemble_chars hbare (by simp) (by simp)
  rw [marked, marked, List.append_nil, List.append_nil, readPath_append hslash
    (fun s hs c hc => (hclean s hs c hc).1) hdots (by simp [segments]), hencode] at hassemble
  rw [← address_toList] at hfalls
  rw [hfalls.parse_eq hk, hleads.read]
  exact congrArg Except.ok hassemble

/-- The request for a listing of a plain instance. -/
def request (u : Url) (a : Authority) (before : List (List Char)) (config : Config)
    (name : String) (listing : Listing) : Url :=
  withQuery (listing.query config) (withoutUserinfo (located u a before name listing))

lemma target_eq {whole front : List Char} (hleads : config.Leads u a whole front)
    (h : IsPlain name) (listing : Listing) :
    target config name listing
      = if (request u a (folder front) config name listing).addressFault? = none then
          .ok (request u a (folder front) config name listing)
        else .error (.http ("builder error for url ("
          ++ (request u a (folder front) config name listing).text ++ ")")) := by
  obtain ⟨-, hostChars, hhost⟩ := settled_of_readWhole hleads.read
  have hhere : (located u a (folder front) name listing).hasHost = true := by
    have hne : a.host ≠ .absent := fun h => Host.readSpecial_ne_absent hostChars (h ▸ hhost)
    simpa [hasHost, located] using hne
  unfold target
  dsimp only
  rw [parse_address hleads h]
  dsimp only
  rw [if_neg (not_not.mpr hhere)]
  simp only [located, hleads.scheme, true_and]
  rfl

lemma withQuery_authority (pairs : List (String × String)) (u : Url) :
    (withQuery pairs u).authority = u.authority ∧ (withQuery pairs u).scheme = u.scheme
      ∧ (withQuery pairs u).path = u.path := by
  unfold withQuery
  split <;> exact ⟨rfl, rfl, rfl⟩

lemma request_query (config : Config) (before : List (List Char)) (name : String)
    (listing : Listing) :
    (request u a before config name listing).query = asked config listing := by
  cases listing with
  | commands => rfl
  | events =>
    rw [asked, ← Form.append_nil_eq, request, Listing.query]
    cases config.eventSource <;> rfl

/-- The websocket of a server has the authority and the port of its address. -/
lemma websocket_authority (hparse : Url.parse config.url = .ok u)
    (hscheme : u.scheme = "http".toList ∨ u.scheme = "https".toList)
    (hwebsocket : config.websocket = .ok websocket) :
    websocket.authority = u.authority
      ∧ defaultPort? websocket.scheme = defaultPort? u.scheme := by
  unfold Config.websocket at hwebsocket
  rw [hparse] at hwebsocket
  dsimp only [Config.websocketOf?] at hwebsocket
  rcases hscheme with hscheme | hscheme <;> rw [hscheme] at hwebsocket ⊢ <;> cases hwebsocket <;>
    exact ⟨rfl, rfl⟩

lemma request_addresses {whole front : List Char} (hwebsocket : config.websocket = .ok websocket)
    (hleads : config.Leads u a whole front) (h : IsPlain name) (listing : Listing) :
    Addresses websocket (folder front) config name listing
      (request u a (folder front) config name listing) := by
  have hauthority := websocket_authority hleads.parse hleads.scheme hwebsocket
  rw [hleads.authority] at hauthority
  obtain ⟨hauth, hscheme, hpath⟩ := withQuery_authority (listing.query config)
    (withoutUserinfo (located u a (folder front) name listing))
  constructor
  case host =>
    rw [request, hauth, hauthority.1]
    dsimp only [withoutUserinfo, located, Option.map_some]
    split <;> rfl
  case port =>
    rw [request, effectivePort?, effectivePort?, hauth, hscheme, hauthority.1, hauthority.2]
    dsimp only [withoutUserinfo, located, Option.map_some, Option.bind_some]
    split <;> rfl
  case path =>
    refine ⟨encode escapesPath name.toList, by rw [request, hpath]; rfl, h.text, fun c hc => ?_⟩
    obtain ⟨d, hd, hc⟩ := List.mem_flatMap.mp hc
    split at hc
    case isTrue =>
      rcases mem_escapeChar hc with rfl | hc
      · decide
      · exact forall_ascii (p := fun c => c.isAlphanum = true → isSlash .special c = false
          ∧ endsPath c = false) (by decide +kernel) (toNat_lt_of_isAlphanum hc) hc
    case isFalse =>
      obtain rfl := List.mem_singleton.mp hc
      exact ⟨(h.clean c hd).1, (h.clean c hd).2.1⟩
  case query => exact request_query config (folder front) name listing

/-- Behind the address of a server, every plain instance is asked for on the host and port of the
websocket, under its own name, unless the address is one that no request can be sent to. No two
instances are asked for by the same request. -/
theorem target_addresses
    (hwebsocket : config.websocket = .ok websocket) (hbase : config.IsBase) :
    (∃ before, ∀ name listing, IsPlain name →
      ∃ u, Addresses websocket before config name listing u
        ∧ target config name listing = if u.addressFault? = none then .ok u
          else .error (.http ("builder error for url (" ++ u.text ++ ")")))
      ∧ ∀ name name' listing listing' u, IsPlain name → IsPlain name' →
        target config name listing = .ok u → target config name' listing' = .ok u →
        name = name' ∧ listing = listing' := by
  obtain ⟨u, a, whole, front, hleads⟩ := hbase.leads
  have hall := fun name listing (h : IsPlain name) => request_addresses hwebsocket hleads h listing
  refine ⟨⟨folder front, fun name listing h =>
    ⟨_, hall name listing h, target_eq hleads h listing⟩⟩, ?_⟩
  intro name name' listing listing' v h h' hv hv'
  rw [target_eq hleads h] at hv
  rw [target_eq hleads h'] at hv'
  have hsame : request u a (folder front) config name listing = v := by
    split at hv
    · exact Except.ok.inj hv
    · cases hv
  have hsame' : request u a (folder front) config name' listing' = v := by
    split at hv'
    · exact Except.ok.inj hv'
    · cases hv'
  obtain ⟨segment, hpath, htext, -⟩ := (hall name listing h).path
  obtain ⟨segment', hpath', htext', -⟩ := (hall name' listing' h').path
  rw [hsame] at hpath
  rw [hsame', hpath] at hpath'
  have hlast := List.append_cancel_left (Path.segments.inj hpath')
  simp only [List.cons.injEq, true_and, and_true] at hlast
  obtain ⟨rfl, hlisting⟩ := hlast
  refine ⟨Option.some.inj (htext.symm.trans htext'), ?_⟩
  cases listing <;> cases listing' <;> first | rfl | exact absurd hlisting (by decide)

/-! ### A server of this machine -/

lemma target_localUrl {config : Config} {items : List (List Char)} {query : Option (List Char)}
    (hparse : Url.parse (config.httpBase ++ "/api/archive/" ++ name ++ "/" ++ "commands")
      = .ok (localUrl items query none))
    (hfault : (localUrl items query none).addressFault? = none) :
    target config name .commands = .ok (localUrl items query none) := by
  have hsame : withQuery (Listing.commands.query config)
      (withoutUserinfo (localUrl items query none)) = localUrl items query none := by
    rw [withQuery, Listing.query, List.isEmpty_nil, if_pos rfl, withoutUserinfo, localUrl]
    dsimp only [Option.map_some]
    split <;> rfl
  unfold target
  dsimp only [Listing.name]
  rw [hparse]
  dsimp only
  rw [hsame, hfault]
  rfl

/-- The archive behind a path is asked for an instance with a blank in its name. -/
theorem target_addresses_behindPath :
    ∃ w before u, (Config.of "http://localhost:8090/yamcs/").websocket = .ok w
      ∧ Addresses w before (Config.of "http://localhost:8090/yamcs/") "flat sat" .events u := by
  have hparse : Url.parse "http://localhost:8090/yamcs/"
      = .ok (localUrl ["yamcs".toList, []] none none) :=
    parse_localUrl (by decide +kernel) (by simp) (by decide +kernel) (by simp) (by simp)
  have hw := Config.websocket_localUrl hparse
  have hvisible : ∀ c ∈ "http://localhost:8090/yamcs/".toList, ' ' < c := by decide +kernel
  have hbase : (Config.of "http://localhost:8090/yamcs/").IsBase :=
    ⟨⟨_, hparse, .inl rfl⟩, by decide +kernel, fun c hc => hvisible c (List.mem_of_getLast? hc)⟩
  have hname : IsPlain "flat sat" := ⟨by decide +kernel, by decide, by decide +kernel⟩
  obtain ⟨⟨before, h⟩, -⟩ := target_addresses hw hbase
  obtain ⟨u, haddresses, -⟩ := h "flat sat" .events hname
  exact ⟨_, before, u, hw, haddresses⟩

/-- A slash in the name of an instance makes two segments of it, and what is put behind the query of
a server is no path. -/
theorem target_unaddressed :
    (∃ w u, (Config.of "http://localhost:8090/").websocket = .ok w
      ∧ target (Config.of "http://localhost:8090/") "a/b" .commands = .ok u
      ∧ ∀ before, ¬Addresses w before (Config.of "http://localhost:8090/") "a/b" .commands u)
    ∧ ∃ w u, (Config.of "http://localhost:8090/?x=1").websocket = .ok w
      ∧ target (Config.of "http://localhost:8090/?x=1") "gs" .commands = .ok u
      ∧ ∀ before,
        ¬Addresses w before (Config.of "http://localhost:8090/?x=1") "gs" .commands u := by
  constructor
  · have hparse : Url.parse "http://localhost:8090/" = .ok (localUrl [[]] none none) :=
      parse_localUrl (by decide +kernel) (by simp) (by decide +kernel) (by simp) (by simp)
    have htarget : target (Config.of "http://localhost:8090/") "a/b" .commands
        = .ok (localUrl ["api".toList, "archive".toList, ['a'], ['b'], "commands".toList]
          none none) :=
      target_localUrl
        (parse_localUrl (by decide +kernel) (by simp) (by decide +kernel) (by simp) (by simp))
        (by decide +kernel)
    have hw := Config.websocket_localUrl hparse
    refine ⟨_, _, hw, htarget, fun before h => ?_⟩
    obtain ⟨segment, hpath, -⟩ := h.path
    have hitems := congrArg List.reverse (Path.segments.inj hpath)
    simp [Listing.name] at hitems
  · have hparse : Url.parse "http://localhost:8090/?x=1"
        = .ok (localUrl [[]] (some "x=1".toList) none) :=
      parse_localUrl (by decide +kernel) (by simp) (by decide +kernel) (by decide +kernel) (by simp)
    have htarget : target (Config.of "http://localhost:8090/?x=1") "gs" .commands
        = .ok (localUrl [[]] (some "x=1/api/archive/gs/commands".toList) none) :=
      target_localUrl
        (parse_localUrl (by decide +kernel) (by simp) (by decide +kernel) (by decide +kernel)
          (by simp))
        (by decide +kernel)
    have hw := Config.websocket_localUrl hparse
    refine ⟨_, _, hw, htarget, fun before h => ?_⟩
    obtain ⟨segment, hpath, -⟩ := h.path
    have hlen := congrArg List.length (Path.segments.inj hpath)
    simp at hlen

end Archive

end Client

end GroundLink
