import HubRelay.Proofs.Interest
import HubRelay.Proofs.Utf8
import HubRelay.Proofs.Web.Steps

/-!
Contract: how requests say what they are about.

Owns: the path of each resource, and that no other path names it; that every text can be written as
a segment of a path and as a field of a query; and that there is a request to connect to each hub
that has a name, to listen to it for each list of events, and to post each text to it.

Does not own: what comes of such requests.

A text is written with every byte escaped, so that nothing in it can be taken for a separator.
-/

namespace HubRelay

/-! ## Paths -/

namespace Text

theorem pieces_intercalate {separator : Char} {parts : List (List Char)} (some : parts ≠ [])
    (plain : ∀ part ∈ parts, separator ∉ part) :
    pieces separator ([separator].intercalate parts) = parts := by
  rw [pieces_eq_splitOn]
  exact List.splitOn_intercalate separator plain some

theorem map_ofList_toList (texts : List String) :
    (texts.map String.toList).map String.ofList = texts := by
  simp

theorem map_toList_ofList (parts : List (List Char)) :
    (parts.map String.ofList).map String.toList = parts := by
  rw [List.map_map]
  exact List.map_id'' (fun part => String.toList_ofList) parts

theorem intercalate_pieces (separator : Char) (text : List Char) :
    [separator].intercalate (pieces separator text) = text := by
  rw [pieces_eq_splitOn]
  exact List.intercalate_splitOn separator

end Text

namespace Http

namespace Resource

/-- The path of a resource. -/
def path : Resource → List Char
  | .alive => "/health/live".toList
  | .ready => "/health/ready".toList
  | .health => "/health".toList
  | .client hub => "/client/hubs/".toList ++ hub
  | .server hub => "/server/hubs/".toList ++ hub
  | .approvals hub => "/api/v1/hubs/".toList ++ (hub ++ "/approvals".toList)
  | .broadcast hub => "/api/v1/hubs/".toList ++ (hub ++ "/broadcast".toList)

/-- Whether the hub of a resource can stand in its path. -/
def HasPath : Resource → Prop
  | .alive | .ready | .health => True
  | .client hub | .server hub => hub ≠ [] ∧ '/' ∉ hub
  | .approvals hub | .broadcast hub => '/' ∉ hub

/-- What stands between the slashes of a path. -/
def segments : Resource → List String
  | .alive => ["", "health", "live"]
  | .ready => ["", "health", "ready"]
  | .health => ["", "health"]
  | .client hub => ["", "client", "hubs", String.ofList hub]
  | .server hub => ["", "server", "hubs", String.ofList hub]
  | .approvals hub => ["", "api", "v1", "hubs", String.ofList hub, "approvals"]
  | .broadcast hub => ["", "api", "v1", "hubs", String.ofList hub, "broadcast"]

theorem intercalate_segments (resource : Resource) :
    ['/'].intercalate (resource.segments.map String.toList) = resource.path := by
  cases resource with
  | alive | ready | health => decide +kernel
  | client hub | server hub =>
    simp only [segments, List.map_cons, List.map_nil, List.intercalate_cons_cons,
      List.intercalate_singleton, String.toList_ofList]
    rfl
  | approvals hub | broadcast hub =>
    simp only [segments, List.map_cons, List.map_nil, List.intercalate_cons_cons,
      List.intercalate_singleton, String.toList_ofList, List.append_assoc]
    rfl

theorem pieces_path {resource : Resource} (has : resource.HasPath) :
    (Text.pieces '/' resource.path).map String.ofList = resource.segments := by
  have plain : ∀ part ∈ resource.segments.map String.toList, '/' ∉ part := by
    cases resource with
    | alive | ready | health => decide +kernel
    | client hub | server hub => simpa [segments] using has.2
    | approvals hub | broadcast hub => simpa [segments, HasPath] using has
  have some : resource.segments.map String.toList ≠ [] := by
    cases resource <;> exact List.cons_ne_nil _ _
  rw [← intercalate_segments, Text.pieces_intercalate some plain, Text.map_ofList_toList]

/-- A path with the segments of a resource is its path. -/
theorem path_of_segments {path : List Char} {resource : Resource}
    (cut : (Text.pieces '/' path).map String.ofList = resource.segments) :
    path = resource.path ∧ ∀ part ∈ resource.segments, '/' ∉ part.toList := by
  constructor
  · rw [← intercalate_segments, ← cut, Text.map_toList_ofList, Text.intercalate_pieces]
  · intro part among
    rw [← cut] at among
    obtain ⟨piece, inside, rfl⟩ := List.mem_map.1 among
    rw [String.toList_ofList]
    exact Text.not_mem_of_mem_pieces inside

theorem segments_of_ofPath? {path : List Char} {resource : Resource}
    (named : ofPath? path = some resource) :
    (Text.pieces '/' path).map String.ofList = resource.segments ∧
      ((∀ part ∈ resource.segments, '/' ∉ part.toList) → resource.HasPath) := by
  unfold ofPath? at named
  split at named
  case h_8 => cases named
  case h_4 cut | h_5 cut =>
    split at named
    · cases named
    · next some =>
      obtain rfl := Option.some.inj named
      refine ⟨by rw [cut, segments, String.ofList_toList], fun plain => ⟨?_, ?_⟩⟩
      · simpa using some
      · simpa [segments] using plain
  case h_6 cut | h_7 cut =>
    obtain rfl := Option.some.inj named
    refine ⟨by rw [cut, segments, String.ofList_toList], fun plain => ?_⟩
    simpa [segments, HasPath] using plain
  all_goals
    next cut =>
    obtain rfl := Option.some.inj named
    exact ⟨cut, fun _ => trivial⟩

/-- A path names a resource exactly if it is the path of the resource. -/
theorem ofPath?_eq_some_iff {path : List Char} {resource : Resource} :
    ofPath? path = some resource ↔ resource.HasPath ∧ path = resource.path := by
  constructor
  · intro named
    obtain ⟨cut, has⟩ := segments_of_ofPath? named
    obtain ⟨same, plain⟩ := path_of_segments cut
    exact ⟨has plain, same⟩
  · rintro ⟨has, rfl⟩
    rw [ofPath?, pieces_path has]
    cases resource with
    | alive | ready | health => rfl
    | client hub | server hub => simp [segments, has.1]
    | approvals hub | broadcast hub => simp [segments]

/-- The hub in the path of a resource, as it is written. -/
def hub? : Resource → Option (List Char)
  | .client hub | .server hub | .approvals hub | .broadcast hub => some hub
  | .alive | .ready | .health => none

/-- What ends a path stands in none if it does not stand in the hub. -/
theorem not_mem_path {mark : Char} (ends : mark ∈ ['?', '#']) {resource : Resource}
    (plain : ∀ hub ∈ resource.hub?, mark ∉ hub) : mark ∉ resource.path := by
  let words := ["/health/live", "/health/ready", "/health", "/client/hubs/", "/server/hubs/",
    "/api/v1/hubs/", "/approvals", "/broadcast"]
  have apart : (['?', '#'].all fun mark => words.all fun word => !word.toList.contains mark) =
      true := by decide +kernel
  have word {word : String} (listed : word ∈ words) : mark ∉ word.toList := by
    have lacks := List.all_eq_true.1 (List.all_eq_true.1 apart mark ends) word listed
    rwa [Bool.not_eq_true', List.contains_eq_mem, decide_eq_false_iff_not] at lacks
  cases resource with
  | alive | ready | health => exact word (by simp [words])
  | client hub | server hub =>
    show mark ∉ String.toList _ ++ hub
    rw [List.mem_append, not_or]
    exact ⟨word (by simp [words]), plain hub rfl⟩
  | approvals hub | broadcast hub =>
    show mark ∉ String.toList _ ++ (hub ++ String.toList _)
    rw [List.mem_append, List.mem_append, not_or, not_or]
    exact ⟨word (by simp [words]), plain hub rfl, word (by simp [words])⟩

end Resource

end Http

/-! ## Texts with all bytes escaped -/

namespace Text

theorem Hex.value?_digit {value : Nat} (small : value < 16) :
    Hex.value? (Hex.digit value) = some value := by
  have all : ∀ value : Fin 16, Hex.value? (Hex.digit value.val) = some value.val := by decide
  exact all ⟨value, small⟩

namespace Percent

/-- Bytes, each of them escaped. -/
def escapeBytes (bytes : List UInt8) : List Char :=
  bytes.flatMap fun byte =>
    ['%', Hex.digit (byte.toNat / 16), Hex.digit (byte.toNat % 16)]

/-- A text with all its bytes escaped. -/
def escape (text : String) : List Char :=
  escapeBytes (Utf8.encodeString text)

theorem decodeBytes_escapeBytes (bytes : List UInt8) : decodeBytes (escapeBytes bytes) = bytes := by
  induction bytes with
  | nil => rfl
  | cons byte bytes inductionHypothesis =>
    have within := byte.toNat_lt
    have high : Hex.value? (Hex.digit (byte.toNat / 16)) = some (byte.toNat / 16) :=
      Hex.value?_digit (by omega)
    have low : Hex.value? (Hex.digit (byte.toNat % 16)) = some (byte.toNat % 16) :=
      Hex.value?_digit (by omega)
    have whole : byte.toNat / 16 * 16 + byte.toNat % 16 = byte.toNat := by omega
    have same : UInt8.ofNat byte.toNat = byte := by simp
    show decodeBytes ('%' :: Hex.digit (byte.toNat / 16) :: Hex.digit (byte.toNat % 16) ::
      escapeBytes bytes) = byte :: bytes
    simp only [decodeBytes, high, low, whole, same, inductionHypothesis]

/-- What separates the parts of an address, or stands for something else in a query. -/
def separators : List Char :=
  ['/', '?', '#', '&', '=', '+']

/-- Nothing in an escaped text separates. -/
theorem not_mem_escape (text : String) {separator : Char} (separates : separator ∈ separators) :
    separator ∉ escape text := by
  intro inside
  obtain ⟨byte, -, among⟩ := List.mem_flatMap.1 inside
  have digits : ∀ value : Fin 16, Hex.digit value.val ∉ separators := by decide
  have within := byte.toNat_lt
  simp only [List.mem_cons, List.not_mem_nil, or_false] at among
  rcases among with rfl | rfl | rfl
  · exact absurd separates (by decide)
  · exact digits ⟨byte.toNat / 16, by omega⟩ separates
  · exact digits ⟨byte.toNat % 16, by omega⟩ separates

theorem escape_ne_nil {text : String} (some : text ≠ "") : escape text ≠ [] := by
  intro none
  have bytes := decodeBytes_escapeBytes (Utf8.encodeString text)
  rw [show escapeBytes (Utf8.encodeString text) = [] from none] at bytes
  have decoded := (Utf8.decodeString_eq_some_iff (Utf8.encodeString text) text).2 rfl
  rw [← bytes] at decoded
  exact some (Option.some.inj decoded).symm

theorem decodeSegment_escape (text : String) : decodeSegment (escape text) = some text := by
  rw [decodeSegment, escape, decodeBytes_escapeBytes]
  exact (Utf8.decodeString_eq_some_iff _ text).2 rfl

theorem decodeFormPart_escape (text : String) : decodeFormPart (escape text) = text := by
  have noPlus : (escape text).map (fun character => if character = '+' then ' ' else character) =
      escape text := by
    refine (List.map_congr_left fun character among => if_neg ?_).trans (List.map_id _)
    rintro rfl
    exact not_mem_escape text (by decide) among
  have whole : Utf8.decodeLossy (Utf8.encodeString text) = text.toList := by
    rw [Utf8.decodeLossy, Utf8.encodeString, Utf8.pieces_encode, List.map_map]
    exact List.map_id _
  rw [decodeFormPart, noPlus, escape, decodeBytes_escapeBytes, whole, String.ofList_toList]

end Percent

end Text

/-! ## Queries -/

namespace Http.Query

open Text.Percent

theorem field_assign {name value : List Char} (plain : '=' ∉ name) :
    field (name ++ '=' :: value) = (decodeFormPart name, decodeFormPart value) := by
  have stays : ∀ character ∈ name, (decide (character ≠ '=')) = true := by
    intro character among
    refine decide_eq_true ?_
    rintro rfl
    exact plain among
  simp only [field, List.takeWhile_append_of_pos stays, List.dropWhile_append_of_pos stays]
  simp

/-- A field of a query with its value escaped. -/
def assignment (name : String) (value : String) : List Char :=
  name.toList ++ '=' :: escape value

/-- The query in which a backend says what it is interested in. -/
def ofInterest (interest : Interest) : List Char :=
  ['&'].intercalate (assignment "events" interest.events ::
    interest.name.toList.map (assignment "name"))

theorem not_mem_assignment {name : String} {separator : Char}
    (separates : separator ∈ separators) (different : separator ≠ '=')
    (plain : separator ∉ name.toList) (value : String) : separator ∉ assignment name value := by
  rw [assignment, List.mem_append, List.mem_cons, not_or, not_or]
  exact ⟨plain, different, not_mem_escape value separates⟩

/-- A query does not reach beyond the target of its request. -/
theorem hash_not_mem_ofInterest (interest : Interest) : '#' ∉ ofInterest interest := by
  have plain {name : String} (other : '#' ∉ name.toList) (value : String) :
      '#' ∉ assignment name value := not_mem_assignment (by decide) (by decide) other value
  obtain ⟨events, name⟩ := interest
  cases name with
  | none =>
    show '#' ∉ ['&'].intercalate [assignment "events" events]
    rw [List.intercalate_singleton]
    exact plain (by decide) events
  | some name =>
    show '#' ∉ ['&'].intercalate [assignment "events" events, assignment "name" name]
    rw [List.intercalate_cons_cons, List.intercalate_singleton, List.mem_append, List.mem_append,
      not_or, not_or]
    exact ⟨⟨plain (by decide) events, by decide⟩, plain (by decide) name⟩

/-- What a backend says in a query is read from it. -/
theorem interest?_ofInterest (interest : Interest) :
    interest? (ofInterest interest) = some interest := by
  obtain ⟨events, name⟩ := interest
  have own (name value : String) : assignment name value ≠ [] :=
    List.append_ne_nil_of_right_ne_nil _ (List.cons_ne_nil _ _)
  have listens : field (assignment "events" events) = ("events", events) := by
    rw [assignment, field_assign (by decide), decodeFormPart_escape]
    rfl
  have called (name : String) : field (assignment "name" name) = ("name", name) := by
    rw [assignment, field_assign (by decide), decodeFormPart_escape]
    rfl
  have plain (part : List Char) (among : part ∈ assignment "events" events ::
      name.toList.map (assignment "name")) : '&' ∉ part := by
    rcases List.mem_cons.1 among with rfl | among
    · exact not_mem_assignment (by decide) (by decide) (by decide) events
    · obtain ⟨name, -, rfl⟩ := List.mem_map.1 among
      exact not_mem_assignment (by decide) (by decide) (by decide) name
  rw [interest?, fields, ofInterest, Text.pieces_intercalate (List.cons_ne_nil _ _) plain]
  cases name with
  | none =>
    simp only [Option.toList, List.map_nil, List.filter_cons, List.isEmpty_eq_false_iff.2 (own _ _),
      Bool.not_false, if_true, List.filter_nil, List.map_cons, listens]
    rfl
  | some name =>
    simp only [Option.toList, List.map_nil, List.filter_cons, List.isEmpty_eq_false_iff.2 (own _ _),
      Bool.not_false, if_true, List.filter_nil, List.map_cons, listens, called]
    rfl

end Http.Query

/-! ## Requests -/

namespace Http.Request

open Text.Percent

/-- The target of a request for a path, with a query if there is one. -/
def targetOf (path : List Char) (query : Option (List Char)) : String :=
  String.ofList (path ++ query.elim [] ('?' :: ·))

variable {path : List Char} {query : Option (List Char)} {request : Request}

/-- A target is cut into its path and its query. -/
theorem path_and_query_of_target (plain : '?' ∉ path ∧ '#' ∉ path)
    (fits : ∀ text ∈ query, '#' ∉ text) (target : request.target = targetOf path query) :
    request.path = path ∧ request.query = query.getD [] := by
  have other {text : List Char} {mark : Char} (without : mark ∉ text) :
      ∀ character ∈ text, decide (character ≠ mark) = true := by
    intro character among
    refine decide_eq_true ?_
    rintro rfl
    exact without among
  have whole : request.resource = path ++ query.elim [] ('?' :: ·) := by
    rw [resource, target, targetOf, String.toList_ofList]
    refine List.takeWhile_eq_self_iff.2 (other fun among => ?_)
    rcases List.mem_append.1 among with among | among
    · exact plain.2 among
    · cases query with
      | none => cases among
      | some text => exact fits text rfl ((List.mem_cons.1 among).resolve_left (by decide))
  rw [Request.path, Request.query, whole, List.takeWhile_append_of_pos (other plain.1),
    List.dropWhile_append_of_pos (other plain.1)]
  cases query <;> simp

/-- The headers of a request that properly asks for a socket. -/
def socketHeaders : List Header :=
  [⟨"connection", Text.Utf8.encodeString "Upgrade"⟩,
    ⟨"upgrade", Text.Utf8.encodeString "websocket"⟩,
    ⟨"sec-websocket-version", Text.Utf8.encodeString "13"⟩,
    ⟨"sec-websocket-key", Text.Utf8.encodeString "dGhlIHNhbXBsZSBub25jZQ=="⟩]

/-- A request that properly asks for a socket. -/
def asking (target : String) : Request :=
  ⟨"GET", target, socketHeaders, []⟩

/-- A request that posts a text in JSON. -/
def posting (target : String) (text : List Char) : Request :=
  ⟨"POST", target, [⟨"content-type", Text.Utf8.encodeString "application/json"⟩],
    Text.Utf8.encode text⟩

theorem refusal?_asking (target : String) : Upgrade.refusal? (asking target).received = none := by
  -- only the method and the headers count, and these are fixed
  have fixed : Upgrade.refusal? ⟨"GET", "", socketHeaders.map Header.received, []⟩ = none := by
    decide +kernel
  exact fixed

theorem announcesJson_posting (target : String) (text : List Char) :
    MediaType.announcesJson (posting target text).received = true := by
  have fixed : MediaType.announcesJson
      (received ⟨"POST", "", (posting target text).headers, []⟩) = true := by
    simp only [posting]
    decide +kernel
  exact fixed

/-- A target that is the path of a hub is cut into this and its query, whatever the hub is
called. -/
theorem path_and_query_of_hub (request : Request) (kind : List Char → Resource) (hub : String)
    (query : Option (List Char)) (holds : (kind (escape hub)).hub? = some (escape hub))
    (fits : ∀ text ∈ query, '#' ∉ text)
    (target : request.target = targetOf (kind (escape hub)).path query) :
    request.path = (kind (escape hub)).path ∧ request.query = query.getD [] := by
  have plain {mark : Char} (ends : mark ∈ ['?', '#']) : mark ∉ (kind (escape hub)).path := by
    refine Resource.not_mem_path ends fun other same => ?_
    obtain rfl := Option.some.inj (holds.symm.trans same)
    exact not_mem_escape hub ((by decide : ['?', '#'] ⊆ separators) ends)
  exact path_and_query_of_target ⟨plain (by decide), plain (by decide)⟩ fits target

/-- A request to connect to a hub. -/
def toConnect (hub : String) : Request :=
  asking (targetOf (Resource.client (escape hub)).path none)

/-- A request to listen to a hub. -/
def toListen (hub : String) (interest : Interest) : Request :=
  asking (targetOf (Resource.server (escape hub)).path (some (Query.ofInterest interest)))

/-- A request that posts a text to a resource of a hub. -/
def toPost (kind : List Char → Resource) (hub : String) (text : List Char) : Request :=
  posting (targetOf (kind (escape hub)).path none) text

variable {hub : String}

/-- Which requests properly ask to connect to a hub. -/
theorem visits?_eq_some_iff : request.visits? = some hub ↔ ∃ segment,
    (Resource.client segment).HasPath ∧ request.path = (Resource.client segment).path ∧
      decodeSegment segment = some hub ∧ Upgrade.refusal? request = none := by
  unfold visits?
  constructor
  · intro visits
    split at visits
    · next segment named =>
      obtain ⟨has, path⟩ := Resource.ofPath?_eq_some_iff.1 named
      split at visits
      · next proper => exact ⟨segment, has, path, visits, proper⟩
      · cases visits
    · cases visits
  · rintro ⟨segment, has, path, decoded, proper⟩
    rw [Resource.ofPath?_eq_some_iff.2 ⟨has, path⟩]
    exact (if_pos proper).trans decoded

/-- Which requests properly ask to listen to a hub, and to what. -/
theorem listens?_eq_some_iff {interest : Interest} :
    request.listens? = some (hub, interest) ↔ ∃ segment,
      (Resource.server segment).HasPath ∧ request.path = (Resource.server segment).path ∧
        decodeSegment segment = some hub ∧ Upgrade.refusal? request = none ∧
        Query.interest? request.query = some interest := by
  unfold listens?
  constructor
  · intro listens
    split at listens
    · next segment named =>
      obtain ⟨has, path⟩ := Resource.ofPath?_eq_some_iff.1 named
      split at listens
      · next proper =>
        obtain ⟨own, decoded, asks⟩ := Option.bind_eq_some_iff.1 listens
        obtain ⟨asked, wants, same⟩ := Option.map_eq_some_iff.1 asks
        obtain ⟨rfl, rfl⟩ := Prod.mk.inj same
        exact ⟨segment, has, path, decoded, proper, wants⟩
      · cases listens
    · cases listens
  · rintro ⟨segment, has, path, decoded, proper, wants⟩
    rw [Resource.ofPath?_eq_some_iff.2 ⟨has, path⟩]
    refine (if_pos proper).trans ?_
    rw [decoded, Option.bind_some, wants, Option.map_some]

/-- A request that posts a text in JSON to a resource of a hub. -/
structure Posts (request : Request) (kind : List Char → Resource) (hub : String)
    (text : List Char) : Prop where
  posts : request.method = "POST"
  addressed : ∃ segment, (kind segment).HasPath ∧ request.path = (kind segment).path ∧
    decodeSegment segment = some hub
  announces : MediaType.announcesJson request = true
  carries : request.body = Text.Utf8.encode text

/-- Clients can ask to connect to every hub that has a name. -/
theorem visits?_toConnect (named : hub ≠ "") : (toConnect hub).received.visits? = some hub :=
  visits?_eq_some_iff.2 ⟨escape hub, ⟨escape_ne_nil named, not_mem_escape hub (by decide)⟩,
    (path_and_query_of_hub (toConnect hub).received .client hub none rfl
      (fun _ none => nomatch none) rfl).1, decodeSegment_escape hub, refusal?_asking _⟩

/-- Backends can ask to listen to every hub that has a name, with every list of events. -/
theorem listens?_toListen (named : hub ≠ "") (interest : Interest) :
    (toListen hub interest).received.listens? = some (hub, interest) := by
  have fits : ∀ text ∈ some (Query.ofInterest interest), '#' ∉ text := by
    intro text same
    obtain rfl := Option.some.inj same
    exact Query.hash_not_mem_ofInterest interest
  obtain ⟨path, query⟩ := path_and_query_of_hub (toListen hub interest).received .server hub
    (some (Query.ofInterest interest)) rfl fits rfl
  refine listens?_eq_some_iff.2 ⟨escape hub,
    ⟨escape_ne_nil named, not_mem_escape hub (by decide)⟩, path, decodeSegment_escape hub,
    refusal?_asking _, ?_⟩
  rw [query]
  exact Query.interest?_ofInterest interest

/-- Every text can be posted to every hub. -/
theorem posts_toPost {kind : List Char → Resource}
    (posted : kind = Resource.approvals ∨ kind = Resource.broadcast) (hub : String)
    (text : List Char) : (toPost kind hub text).received.Posts kind hub text := by
  have plain : '/' ∉ escape hub := not_mem_escape hub (by decide)
  have path (holds : (kind (escape hub)).hub? = some (escape hub)) :=
    (path_and_query_of_hub (toPost kind hub text).received kind hub none holds
      (fun _ none => nomatch none) rfl).1
  refine ⟨rfl, ⟨escape hub, ?_, ?_, decodeSegment_escape hub⟩, announcesJson_posting _ text, rfl⟩
  · rcases posted with rfl | rfl <;> exact plain
  · rcases posted with rfl | rfl <;> exact path rfl

end Http.Request

end HubRelay
