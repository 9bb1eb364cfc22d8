import CloudClient.Service
import CloudClient.Proofs.Page.Advance
import CloudClient.Proofs.Page.Codec
import Mathlib.Data.List.Permutation
/-! Collections that are listed to their end. The provider answers each request with the items behind the
marker that the request names; then all items arrive, in order and with no request too many. -/
namespace CloudClient

open CloudClient.Http

def Http.recorded {σ : Type} (execute : Executor σ) : Executor (σ × List Request) := fun request s =>
  let (reply, inner) := execute request s.1
  (reply, inner, s.2 ++ [request])

theorem Page.convertEach {α β : Type} {f : α → Outcome β} {g : α → β} {items : List α}
    (each : ∀ a ∈ items, f a = .ok (g a)) : convert f items = .ok (items.map g) := by
  induction items with
  | nil => rfl
  | cons a items ih =>
    obtain ⟨first, rest⟩ := List.forall_mem_cons.mp each
    simp only [convert, first, ih rest, Except.map, List.map_cons]

namespace Service

def itemId (item : Json) : Option String := (item.get? "id").bind Json.asString?

inductive Remaining (items : List Json) : Option String → List Json → Prop
  | all : Remaining items none items
  | behind {earlier item rest id} (split : items = earlier ++ item :: rest) (named : itemId item = some id) :
      Remaining items (some id) rest

def upcoming (limit : Nat) (rest : List Json) : Option String :=
  if limit < rest.length then (rest.take limit).getLast?.bind itemId else none

def Provides {σ : Type} (execute : Executor σ) (path name : String) (limit : Nat) (items : List Json) : Prop :=
  ∀ request s, request.method = .get → request.path = path →
    ∀ rest, Remaining items (request.queryValue? "marker") rest →
      ∃ response, (execute request s).1 = .ok response ∧
        Page.Codec.Body name response.body (rest.take limit) (upcoming limit rest)

theorem markerSent {options : Page.ListOptions} (unmarked : ∀ pair ∈ options.query, pair.1 ≠ "marker")
    (m : Option Marker) :
    (({ options with marker := m } : Page.ListOptions).query.find? (·.1 == "marker")).map (·.2) = m.map (·.text) := by
  let front := Page.ListOptions.pair "limit" (options.limit.map toString)
  let behind := Page.ListOptions.pair "sort_key" (options.sortKey.map (·.text)) ++
    Page.ListOptions.pair "sort_dir" (options.sortDirection.map (·.text)) ++ options.filters
  have parts (m : Option Marker) : ({ options with marker := m } : Page.ListOptions).query =
      front ++ (Page.ListOptions.pair "marker" (m.map (·.text)) ++ behind) := by
    simp only [Page.ListOptions.query, List.append_assoc, front, behind]
  have own : options.query = front ++ (Page.ListOptions.pair "marker" (options.marker.map (·.text)) ++ behind) :=
    parts options.marker
  rw [own, List.forall_mem_append, List.forall_mem_append] at unmarked
  have skipped (pairs : QueryPairs) (others : ∀ pair ∈ pairs, pair.1 ≠ "marker") :
      pairs.find? (·.1 == "marker") = none :=
    List.find?_eq_none.mpr fun pair member => by simpa using others pair member
  rw [parts, List.find?_append, skipped front unmarked.1, Option.none_or, List.find?_append,
    skipped behind unmarked.2.2]
  cases m <;> rfl

def requestsFor (limit count : Nat) : Nat := max 1 ((count + limit - 1) / limit)

variable {limit count : Nat}

theorem requestsForFew (few : count ≤ limit) : requestsFor limit count = 1 := by
  have once : (count + limit - 1) / limit ≤ 1 := by
    rcases Nat.eq_zero_or_pos limit with rfl | positive
    · simp
    · exact Nat.le_of_lt_succ ((Nat.div_lt_iff_lt_mul positive).mpr (by omega))
  exact Nat.max_eq_left once

theorem requestsForMany (positive : 0 < limit) (many : limit < count) :
    requestsFor limit count = requestsFor limit (count - limit) + 1 := by
  have whole : count + limit - 1 = count - limit + limit - 1 + limit := by omega
  have least : 1 ≤ (count - limit + limit - 1) / limit := (Nat.one_le_div_iff positive).mpr (by omega)
  rw [requestsFor, requestsFor, whole, Nat.add_div_right _ positive, Nat.max_eq_right least]
  exact Nat.max_eq_right (Nat.le_add_left 1 _)

structure Served {σ α : Type} (execute : Executor σ) (path name : String) (items : List Json)
    (decoder : Json.Decoder α) (value : Json → α) (options : Page.ListOptions) (limit : Nat) : Prop where
  named : name ≠ ""
  undotted : '.' ∉ name.toList
  other : name ≠ "$"
  identified : ∀ item ∈ items, ∃ id, itemId item = some id ∧ id ≠ ""
  distinct : (items.map itemId).Nodup
  readable : ∀ item ∈ items, decoder.ofValue item = .ok (value item)
  valid : options.validate = .ok ()
  limited : options.limit = some limit
  unmarked : ∀ pair ∈ options.query, pair.1 ≠ "marker"
  provided : Provides execute path name limit items

variable {σ α : Type} {execute : Executor σ} {path name : String} {items earlier rest : List Json}
  {decoder : Json.Decoder α} {value : Json → α} {options : Page.ListOptions} {m : Option Marker}

section Served

variable (served : Served execute path name items decoder value options limit)
include served

theorem Served.positive : 0 < limit := by
  have valid := served.valid
  rw [Page.ListOptions.validate, served.limited] at valid
  refine Nat.pos_of_ne_zero fun none => ?_
  rw [if_pos (congrArg some none)] at valid
  contradiction

theorem Served.remaining (split : items = earlier ++ rest) : Remaining items (earlier.getLast?.bind itemId) rest := by
  cases last : earlier.getLast? with
  | none =>
    rw [List.getLast?_eq_none_iff.mp last] at split
    exact split ▸ .all
  | some item =>
    obtain ⟨before, rfl⟩ := List.getLast?_eq_some_iff.mp last
    rw [List.append_assoc, List.singleton_append] at split
    obtain ⟨id, own, _⟩ := served.identified item (split ▸ List.mem_append_right _ List.mem_cons_self)
    rw [Option.bind_some, own]
    exact .behind split own

theorem Served.further (split : items = earlier ++ rest) (many : limit < rest.length) :
    ∃ item id, item ∈ rest.take limit ∧ (rest.take limit).getLast? = some item ∧ itemId item = some id ∧ id ≠ "" ∧
      upcoming limit rest = some id := by
  have some : rest.take limit ≠ [] := by
    simp only [ne_eq, List.take_eq_nil_iff, not_or]
    exact ⟨Nat.ne_of_gt served.positive, List.ne_nil_of_length_pos (Nat.lt_of_le_of_lt (Nat.zero_le _) many)⟩
  have last := List.getLast?_eq_some_getLast some
  have member := List.getLast_mem some
  obtain ⟨id, own, full⟩ := served.identified _
    (split ▸ List.mem_append_right _ (List.mem_of_mem_take member))
  refine ⟨_, id, member, last, own, full, ?_⟩
  rw [upcoming, if_pos many, last, Option.bind_some, own]

theorem Served.upcomingFull (split : items = earlier ++ rest) : upcoming limit rest ≠ some "" := by
  by_cases many : limit < rest.length
  · obtain ⟨_, id, _, _, _, full, same⟩ := served.further split many
    rw [same]
    exact fun empty => full (Option.some.inj empty)
  · rw [upcoming, if_neg many]
    exact fun same => by cases same

theorem Served.moves (split : items = earlier ++ rest) (stands : m.map (·.text) = earlier.getLast?.bind itemId)
    {item : Json} {id : String} (member : item ∈ rest) (own : itemId item = some id) : m ≠ some ⟨id⟩ := by
  rintro rfl
  obtain ⟨other, before, same⟩ := Option.bind_eq_some_iff.mp stands.symm
  have distinct := served.distinct
  rw [split, List.map_append] at distinct
  exact (List.nodup_append.mp distinct).2.2 _ (List.mem_map_of_mem (List.mem_of_getLast? before)) _
    (List.mem_map_of_mem member) (same.trans own.symm)

theorem Served.fetched (service : Service) (split : items = earlier ++ rest)
    (stands : m.map (·.text) = earlier.getLast?.bind itemId) (s : σ) (log : List Request) :
    ∃ inner request, (service.collection path name decoder).fetcher (recorded execute)
        ({ options with marker := m } : Page.ListOptions) (s, log) =
      (.ok ⟨(rest.take limit).map value, (upcoming limit rest).map Marker.mk⟩, inner, log ++ [request]) := by
  let l := service.collection path name decoder
  let request := l.request ({ options with marker := m } : Page.ListOptions)
  have sent : request.queryValue? "marker" = earlier.getLast?.bind itemId :=
    (markerSent served.unmarked m).trans stands
  obtain ⟨response, answered, body⟩ :=
    served.provided request s rfl rfl rest (sent ▸ served.remaining split)
  have decoded : l.codec.decode response.body = .ok ⟨rest.take limit, (upcoming limit rest).map Marker.mk⟩ :=
    Page.Codec.decodedCollection served.named served.undotted served.other body (served.upcomingFull split)
  have items : Page.convert l.decodeItem (rest.take limit) = .ok ((rest.take limit).map value) := by
    refine Page.convertEach fun item member => ?_
    have own := served.readable item (split ▸ List.mem_append_right _ (List.mem_of_mem_take member))
    have reads : l.item.ofValue item = .ok (value item) := own
    rw [Page.Listing.decodeItem, reads, Except.mapError]
  have read : l.read (.ok response) = .ok ⟨(rest.take limit).map value, (upcoming limit rest).map Marker.mk⟩ := by
    simp only [Page.Listing.read, Except.bind, decoded, Page.tryMap, items, Except.map]
  have valid : Page.Options.validate ({ options with marker := m } : Page.ListOptions) = .ok () := served.valid
  refine ⟨(execute request s).2, request, ?_⟩
  simp only [Page.Listing.fetcher, Page.Listing.page, valid, Dialogue.checked, Dialogue.run_once, recorded]
  rw [answered, read]

theorem Served.collected (service : Service) {fuel : Nat} (enough : requestsFor limit rest.length ≤ fuel)
    (split : items = earlier ++ rest) (stands : m.map (·.text) = earlier.getLast?.bind itemId) (k : Nat) (s : σ)
    (log : List Request) :
    let after := Page.Cursor.collect? ((service.collection path name decoder).fetcher (recorded execute)) fuel
      ⟨({ options with marker := m } : Page.ListOptions), .active, k⟩ (s, log)
    after.1 = some (.ok (rest.map value)) ∧ after.2.2.2.length = log.length + requestsFor limit rest.length := by
  -- the invariant is `split` with `stands`: a page moves its items from `rest` to `earlier`
  induction fuel generalizing earlier rest m k s log with
  | zero => exact absurd (Nat.le_trans (Nat.le_max_left _ _) enough) (by decide)
  | succ fuel ih =>
    obtain ⟨inner, request, fetched⟩ := served.fetched service split stands s log
    by_cases many : limit < rest.length
    · obtain ⟨item, id, member, last, own, _, next⟩ := served.further split many
      rw [next] at fetched
      have moves := served.moves split stands (List.mem_of_mem_take member) own
      have parts : items = (earlier ++ rest.take limit) ++ rest.drop limit := by
        rw [List.append_assoc, List.take_append_drop, split]
      have there : (some (Marker.mk id)).map (·.text) = (earlier ++ rest.take limit).getLast?.bind itemId := by
        rw [List.getLast?_append, last, Option.some_or, Option.bind_some, own]
        rfl
      have fewer := requestsForMany served.positive many
      rw [← List.length_drop] at fewer
      rw [fewer] at enough ⊢
      obtain ⟨found, asked⟩ := ih (Nat.le_of_succ_le_succ enough) parts there (k + 1) inner (log ++ [request])
      rw [Page.Cursor.collectMore fetched rfl moves]
      refine ⟨?_, ?_⟩
      · dsimp only
        rw [show Page.Options.withMarker ({ options with marker := m } : Page.ListOptions) ⟨id⟩ =
          { options with marker := some ⟨id⟩ } from rfl, found]
        simp only [Option.map_some, Except.map, ← List.map_append, List.take_append_drop]
      · rw [List.length_append] at asked
        exact asked.trans (by simp [Nat.add_assoc, Nat.add_comm 1])
    · have few := Nat.not_lt.mp many
      rw [upcoming, if_neg many, List.take_of_length_le few] at fetched
      rw [Page.Cursor.collectLast fetched (.inl rfl), requestsForFew few]
      exact ⟨rfl, List.length_append⟩

end Served

theorem collectedInOrder (service : Service)
    (served : Served execute path name items decoder value options limit) {fuel : Nat}
    (enough : requestsFor limit items.length ≤ fuel) (s : σ) :
    let after := Page.Cursor.collect? ((service.collection path name decoder).fetcher (recorded execute)) fuel
      (.new options) (s, [])
    after.1 = some (.ok (items.map value)) ∧ after.2.2.2.length = requestsFor limit items.length := by
  have unsent : options.query.find? (·.1 == "marker") = none :=
    List.find?_eq_none.mpr fun pair member => by simpa using served.unmarked pair member
  have stands : options.marker.map (·.text) = none := by
    rw [← markerSent served.unmarked options.marker, unsent, Option.map_none]
  obtain ⟨found, asked⟩ := served.collected service enough (List.nil_append items).symm stands 0 s []
  exact ⟨found, asked.trans (Nat.zero_add _)⟩

def twoPages : Option String → String
  | none =>
    "\x7b\"n\":[\x7b\"id\":\"a b\"\x7d],\"n_links\":[\x7b\"href\":\"/n?marker=a+b\",\"rel\":\"next\"\x7d]\x7d"
  | some "a b" => "\x7b\"n\":[\x7b\"id\":\"c\"\x7d],\"n_links\":[]\x7d"
  | some _ => "\x7b\"n\":[],\"n_links\":[]\x7d"

def thing (id : String) : Json := .object [("id", .string id)]

theorem twoPagesBody {marker : Option String} {rest : List Json}
    (remaining : Remaining [thing "a b", thing "c"] marker rest) :
    Page.Codec.Body "n" (twoPages marker) (rest.take 1) (upcoming 1 rest) := by
  have pair (items links : List Json) :
      (Json.object [("n", .array items), ("n_links", .array links)]).get? "n" = some (.array items) ∧
      (Json.object [("n", .array items), ("n_links", .array links)]).get? ("n" ++ "_links") = some (.array links) :=
    ⟨rfl, rfl⟩
  cases remaining with
  | all =>
    have parsed : Json.parse (twoPages none) = some (.object [("n", .array [thing "a b"]), ("n_links",
        .array [.object [("href", .string "/n?marker=a+b"), ("rel", .string "next")]])]) := by cbv
    have href : "/n?marker=a+b" = String.ofList ("/n".toList ++ '?' :: Url.Form.encode [("marker", "a b")]) := by
      decide
    have front : Href.Base "/n".toList := by
      refine .path (fun c is => ?_) fun c member => ?_
      · cases Option.some.inj is
        decide
      · cases List.mem_singleton.mp member
        decide
    exact .mk parsed (pair _ _).1 (pair _ _).2 (.some rfl front (congrArg (fun text => some (Json.string text)) href) rfl)
  | @behind earlier item rest id split named =>
    have last : Page.Codec.Body "n" (twoPages (some "c")) [] none := by
      have parsed : Json.parse (twoPages (some "c")) = some (.object [("n", .array []), ("n_links", .array [])]) := by
        cbv
      exact .mk parsed (pair _ _).1 (pair _ _).2 (.none rfl)
    have parsed : Json.parse (twoPages (some "a b")) =
        some (.object [("n", .array [thing "c"]), ("n_links", .array [])]) := by cbv
    rcases earlier with _ | ⟨first, _ | ⟨second, earlier⟩⟩
    · obtain ⟨rfl, rfl⟩ := List.cons.inj split
      cases Option.some.inj named
      exact .mk parsed (pair _ _).1 (pair _ _).2 (.none rfl)
    · obtain ⟨rfl, rfl⟩ := List.cons.inj (List.cons.inj split).2
      cases Option.some.inj named
      exact last
    · have length := congrArg List.length split
      simp only [List.length_cons, List.length_append, List.length_nil] at length
      omega

theorem collectedByTwoRequests :
    let execute : Executor Unit := fun request s => (.ok (.new 200 (twoPages (request.queryValue? "marker"))), s)
    let items := [thing "a b", thing "c"]
    let options : Page.ListOptions := ⟨some 1, none, none, none, []⟩
    let after := Page.Cursor.collect? ((Service.new.collection "/n" "n" .json).fetcher (recorded execute)) 2
      (.new options) ((), [])
    Served execute "/n" "n" items .json (fun item => item) options 1 ∧ requestsFor 1 items.length ≤ 2 ∧
      after.1 = some (.ok items) ∧ after.2.2.2.length = 2 := by
  intro execute items options after
  have served : Served execute "/n" "n" items .json (fun item => item) options 1 :=
    { named := by decide
      undotted := by decide
      other := by decide
      identified := by
        intro item member
        rcases List.mem_cons.mp member with rfl | member
        · exact ⟨"a b", rfl, by decide⟩
        · cases List.mem_singleton.mp member
          exact ⟨"c", rfl, by decide⟩
      distinct := by decide
      readable := fun _ _ => rfl
      valid := rfl
      limited := rfl
      unmarked := by decide
      provided := fun request s _ _ rest remaining => ⟨_, rfl, twoPagesBody remaining⟩ }
  have two : requestsFor 1 items.length = 2 := by decide
  obtain ⟨found, asked⟩ := collectedInOrder .new served (Nat.le_of_eq two) ()
  exact ⟨served, Nat.le_of_eq two, found, asked.trans two⟩

end Service
end CloudClient
