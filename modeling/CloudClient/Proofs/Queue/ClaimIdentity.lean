import CloudClient.Proofs.Json.Decoder
import CloudClient.Proofs.Page.Codec
import CloudClient.Proofs.Resource
import CloudClient.Queue.Remote
/-! The id of a claim in the replies of a provider, which names the claim in a path and in queries. A query is
decoded and a path is not, so the ids from both places are the same only if the path needs no encoding. -/
namespace CloudClient.Queue

open CloudClient.Http

def Message.wire : Json.Decoder Message.Reading :=
  .record "MessageWire" Message.fields ⟨none, none, none, none⟩

inductive Carries (holder : Option ClaimId) (wire : Message.Reading) : Prop
  | bare {href} (own : wire.href = some href) (named : (Href.lastSegment href).isOk) (unasked : '?' ∉ href.toList)
      (free : holder = none)
  | asked {base query} (own : wire.href = some (String.ofList (base ++ '?' :: query)))
      (named : (Href.lastSegment (String.ofList (base ++ '?' :: query))).isOk) (plain : ∀ c ∈ base, c ≠ '?' ∧ c ≠ '#')
      (unmarked : ∀ c ∈ query, Url.Unmarked c)
      (carries : Url.Form.firstValue "claim_id" (Url.Form.decode query) = holder.map (·.text))

inductive Located (segment : List Char) : String → Prop
  | bare {base} (names : Href.Resource segment base) : Located segment (String.ofList base)
  | asked {base query} (names : Href.Resource segment base) (unmarked : ∀ c ∈ query, Url.Unmarked c) :
      Located segment (String.ofList (base ++ '?' :: query))

structure Grants {σ : Type} (execute : Executor σ) (q : Remote) (asked : ClaimId) (location : String)
    (holders : List (Option ClaimId)) : Prop where
  grants : ∀ request state, request.method = .post → request.path = q.path "claims" →
    ∃ response wires, (execute request state).1 = .ok response ∧ response.header? "location" = some location ∧
      (Json.Decoder.list Message.wire).decodeText response.body = .ok wires ∧ List.Forall₂ Carries holders wires
  shows : ∀ request state, request.method = .get → request.path = q.claimPath asked →
    ∃ response reading, (execute request state).1 = .ok response ∧
      response.decode claimDecoder = .ok reading ∧ reading.href = some (some location)

variable {segment : List Char} {location : String} {holder : Option ClaimId} {holders : List (Option ClaimId)}

theorem Located.read (located : Located segment location) (own : Url.Segment segment) :
    Href.lastSegment location = .ok (String.ofList segment) := by
  cases located with
  | bare names => exact (names.bare own "").1
  | asked names unmarked => exact (names.asked own unmarked "").1

theorem parsedOfNamed {href : String} (named : (Href.lastSegment href).isOk) :
    ∃ url, Href.parse href = .ok url ∧ Url.parse (some Href.origin) href = .ok url := by
  cases parsed : Url.parse (some Href.origin) href with
  | error e =>
    simp [Href.lastSegment, Href.parse, parsed, Except.mapError, Except.bind, Except.isOk, Except.toBool] at named
  | ok url => exact ⟨url, by rw [Href.parse, parsed]; rfl, rfl⟩

theorem Carries.param {wire : Message.Reading} (carries : Carries holder wire)
    (named : ∀ c, holder = some c → c.text ≠ "") :
    (Href.lastSegment (wire.href.getD "")).isOk ∧
      Href.queryParam (wire.href.getD "") "claim_id" = .ok (holder.map (·.text)) := by
  cases carries with
  | bare own last unasked free =>
    obtain ⟨url, read, parsed⟩ := parsedOfNamed last
    rw [own, Option.getD_some, Href.queryParam, read, Except.map, Url.parsedUnasked unasked parsed, free]
    exact ⟨last, rfl⟩
  | asked own last plain unmarked carries =>
    obtain ⟨url, read, parsed⟩ := parsedOfNamed last
    rw [own, Option.getD_some, Href.queryParam, read, Except.map, Url.parsedPairs unmarked plain parsed, carries]
    have some : (holder.map (·.text)).filter (· != "") = holder.map (·.text) := by
      cases holder with
      | none => rfl
      | some c => simpa using named c rfl
    exact ⟨last, congrArg Except.ok some⟩

theorem Carries.read {wire : Message.Reading} (carries : Carries holder wire)
    (named : ∀ c, holder = some c → c.text ≠ "") : ∃ m, Message.ofReading wire = .ok m ∧ m.claim = holder := by
  obtain ⟨ok, param⟩ := carries.param named
  cases last : Href.lastSegment (wire.href.getD "") with
  | error fault =>
    rw [last] at ok
    contradiction
  | ok id =>
    simp only [Message.ofReading, last, param, Except.map, Except.ok.injEq]
    refine ⟨_, rfl, ?_⟩
    rw [Option.map_map]
    exact Option.map_id'

theorem carriedEach {wires : List Message.Reading} (carried : List.Forall₂ Carries holders wires)
    (named : ∀ holder ∈ holders, ∀ c, holder = some c → c.text ≠ "") :
    ∃ ms : List Message, List.Forall₂ (Message.ofReading · = .ok ·) wires ms ∧ ms.map (·.claim) = holders := by
  induction carried with
  | nil => exact ⟨[], .nil, rfl⟩
  | cons first _ ih =>
    obtain ⟨own, rest⟩ := List.forall_mem_cons.mp named
    obtain ⟨m, read, claimed⟩ := first.read own
    obtain ⟨ms, each, all⟩ := ih rest
    exact ⟨m :: ms, .cons read each, by rw [List.map_cons, claimed, all]⟩

theorem messagesOfWires {text : String} {wires : List Message.Reading} {ms : List Message}
    (decoded : (Json.Decoder.list Message.wire).decodeText text = .ok wires)
    (each : List.Forall₂ (Message.ofReading · = .ok ·) wires ms) : Remote.messagesDecoder.decodeText text = .ok ms := by
  refine Json.Decoder.decodeTextOf decoded fun depth t found => Json.Decoder.listRefined found (each.imp ?_)
  intro wire m read
  rw [read]
  rfl

def claimSent (q : Remote) (request : ClaimRequest) : Request :=
  (((Request.post (q.path "claims")).addQuery [("limit", toString request.limit)]).withBody request.toJson).header
    clientIdHeader q.client.text

theorem claimAsked {σ : Type} {request : ClaimRequest} (valid : request.validate = .ok ()) (q : Remote)
    (execute : Executor σ) (state : σ) :
    ((q.claim request).run execute state).1 = Remote.readClaimed (execute (claimSent q request) state).1 := by
  rw [Remote.claim, valid]
  rfl

theorem claimedRead {response : Response} {id : String} {ms : List Message}
    (header : response.header? "location" = some location) (named : Href.lastSegment location = .ok id)
    (decoded : Remote.messagesDecoder.decodeText response.body = .ok ms) :
    Remote.readClaimed (.ok response) = .ok (ms.map (Remote.fillClaim (some ⟨id⟩))) := by
  have full : ¬ response.isEmpty := Json.decodedNotBlank decoded
  simp only [Remote.readClaimed, Except.bind, if_neg full, Remote.locationClaim, header, named, Response.decode,
    decoded, Except.mapError, Except.map]

theorem filledClaims (raw : ClaimId) (ms : List Message) :
    (ms.map (Remote.fillClaim (some raw))).map (·.claim) = (ms.map (·.claim)).map fun held => some (held.getD raw) := by
  rw [List.map_map, List.map_map]
  exact List.map_congr_left fun m _ => Option.or_some

theorem foundRead {reading : ClaimReading} (own : Url.Segment segment) (located : Located segment location)
    (href : reading.href = some (some location)) (asked : ClaimId) :
    ∃ found, Remote.claimOf asked reading = .ok found ∧ found.id = ⟨String.ofList segment⟩ := by
  simp only [Remote.claimOf, href, located.read own, Except.mapError, Except.map, Except.ok.injEq]
  exact ⟨_, rfl, rfl⟩

theorem oneIdIff {c raw : ClaimId} (own : ∀ holder ∈ holders, holder = none ∨ holder = some c) :
    (∀ holder ∈ holders, holder.getD raw = raw) ↔ some c ∉ holders ∨ raw = c := by
  constructor
  · intro same
    by_cases carried : some c ∈ holders
    · exact .inr (same _ carried).symm
    · exact .inl carried
  · rintro once holder member
    rcases own holder member with rfl | rfl
    · rfl
    · exact (once.resolve_left (not_not_intro member)).symm

theorem claimReadByPlace {σ : Type} {execute : Executor σ} {q : Remote} {c asked : ClaimId} {request : ClaimRequest}
    (valid : request.validate = .ok ()) (named : c.text ∉ ["", ".", ".."]) (encodes : Url.Encodes segment c.text)
    (located : Located segment location) (own : ∀ holder ∈ holders, holder = none ∨ holder = some c)
    (grants : Grants execute q asked location holders) (state later : σ) :
    let raw : ClaimId := ⟨String.ofList segment⟩
    ∃ returned found,
      ((q.claim request).run execute state).1 = .ok returned ∧
      ((q.getClaim asked).run execute later).1 = .ok (some found) ∧
      returned.map (·.claim) = holders.map (fun holder => some (holder.getD raw)) ∧
      found.id = raw ∧
      ((∀ m ∈ returned, m.claim = some found.id) ↔ some c ∉ holders ∨ segment = c.text.toList) := by
  intro raw
  have path := Url.segmentOfEncoded encodes named
  obtain ⟨granted, wires, done, header, decoded, carried⟩ := grants.grants (claimSent q request) state rfl rfl
  obtain ⟨shown, reading, answered, read, href⟩ := grants.shows
    ((Request.get (q.claimPath asked)).header clientIdHeader q.client.text) later rfl rfl
  have given : ∀ holder ∈ holders, ∀ d, holder = some d → d.text ≠ "" := by
    rintro _ member d rfl none
    rcases own _ member with absent | same
    · contradiction
    · cases same
      exact named (by simp [none])
  obtain ⟨ms, each, claims⟩ := carriedEach carried given
  have returned := claimedRead header (located.read path) (messagesOfWires decoded each)
  obtain ⟨found, opened, id⟩ := foundRead path located href asked
  have ids : (ms.map (Remote.fillClaim (some raw))).map (·.claim) =
      holders.map fun holder => some (holder.getD raw) := by
    rw [filledClaims, claims]
  refine ⟨_, found, ?_, ?_, ids, id, ?_⟩
  · rw [claimAsked valid, done, returned]
  · rw [Remote.getClaim, Remote.once, Dialogue.run_once, answered]
    simp only [Remote.orMissing, Outcome.noneIfMissing, read, Except.bind, opened, Except.map]
  · have each : (∀ m ∈ ms.map (Remote.fillClaim (some raw)), m.claim = some found.id) ↔
        ∀ holder ∈ holders, holder.getD raw = raw := by
      rw [id, ← List.forall_mem_map (f := Message.claim) (P := (· = some raw)), ids]
      simp [raw]
    have written : raw = c ↔ segment = c.text.toList := by
      constructor
      · intro same
        rw [← same, String.toList_ofList]
      · rintro rfl
        exact congrArg ClaimId.mk String.ofList_toList
    rw [each, oneIdIff own, written]

def grantedBody (query : String) : String :=
  "[[\"/v1/queues/demo/messages/a?" ++ query ++ "\"],[\"/v1/queues/demo/messages/b\"]]"

def locatedBody (location : String) : String := "\x7b\"href\":\"" ++ location ++ "\",\"ttl\":60\x7d"

def located (location body : String) : Response := ⟨200, [("location", location)], body⟩

theorem locationGiven (location body : String) : (located location body).header? "location" = some location := by
  have lower : "location".toLower = "location" := lowered rfl
  rw [Response.header?, lower]
  rfl

def granting (location query : String) : Executor Unit := fun request s =>
  (.ok (located location (if request.method = .post then grantedBody query else locatedBody location)), s)

theorem claimReadAlike :
    let c : ClaimId := ⟨"a+b"⟩
    let q : Remote := ⟨"demo", ⟨"p"⟩, rfl⟩
    let location := "/v1/queues/demo/claims/a+b"
    let execute := granting location "claim_id=a%2Bb"
    Grants execute q c location [some c, none] ∧
      ∃ returned found,
        ((q.claim ⟨.ofSeconds 60, .ofSeconds 60, 2⟩).run execute ()).1 = .ok returned ∧
        ((q.getClaim c).run execute ()).1 = .ok (some found) ∧
        returned.map (·.claim) = [some c, some c] ∧ ∀ m ∈ returned, m.claim = some found.id := by
  intro c q location execute
  have text : "/v1/queues/demo/messages/a?claim_id=a%2Bb" = String.ofList
      ((q.messagePath ⟨"a"⟩).toList ++ '?' :: Url.Form.encode [("claim_id", c.text)]) := by decide
  have plain : (q.messagePath ⟨"a"⟩).toList.all fun c => c ≠ '?' ∧ c ≠ '#' := by decide
  have grants : Grants execute q c location [some c, none] := {
    grants := fun request state post _ => by
      have hrefs : ((Json.Decoder.list Message.wire).decodeText (grantedBody "claim_id=a%2Bb")).toOption.map
          (·.map (·.href)) =
            some [some "/v1/queues/demo/messages/a?claim_id=a%2Bb", some "/v1/queues/demo/messages/b"] := by
        decide +kernel
      cases decoded : (Json.Decoder.list Message.wire).decodeText (grantedBody "claim_id=a%2Bb") with
      | error e => simp [decoded, Except.toOption] at hrefs
      | ok wires =>
        simp only [decoded, Except.toOption, Option.map_some, Option.some.injEq] at hrefs
        obtain ⟨first, rest, rfl, own, others⟩ := List.map_eq_cons_iff.mp hrefs
        obtain ⟨second, rest, rfl, ownToo, ending⟩ := List.map_eq_cons_iff.mp others
        cases List.map_eq_nil_iff.mp ending
        have carried : Carries (some c) first := .asked (text ▸ own) (text ▸ by decide +kernel)
          (fun c member => of_decide_eq_true (List.all_eq_true.mp plain c member))
          (Url.encodedUnmarked [("claim_id", c.text)]) (by rw [Url.Form.readPairs]; rfl)
        have uncarried : Carries none second := .bare ownToo (by decide +kernel) (by decide) rfl
        have both : List.Forall₂ Carries [some c, none] [first, second] := .cons carried (.cons uncarried .nil)
        refine ⟨located location (grantedBody "claim_id=a%2Bb"), _, ?_, locationGiven .., decoded, both⟩
        simp only [execute, granting, if_pos post]
    shows := fun request state get _ => by
      have href : ((located location (locatedBody location)).decode claimDecoder).toOption.map (·.href) =
          some (some (some location)) := by decide +kernel
      have other : ¬ request.method = .post := by simp [get]
      cases decoded : (located location (locatedBody location)).decode claimDecoder with
      | error e => simp [decoded, Except.toOption] at href
      | ok reading =>
        simp only [decoded, Except.toOption, Option.map_some, Option.some.injEq] at href
        refine ⟨located location (locatedBody location), reading, ?_, decoded, href⟩
        simp only [execute, granting, if_neg other] }
  have encodes : Url.Encodes "a+b".toList c.text := {
    kept := by
      have each : "a+b".toList.all fun c => c.toNat < 0x80 ∧ ¬ Url.isSlash true c ∧ ¬ Url.inPath c := by decide
      intro c member
      obtain ⟨ascii, unslashed, unescaped⟩ := of_decide_eq_true (List.all_eq_true.mp each c member)
      exact ⟨ascii, unslashed, unescaped⟩
    text := by decide }
  have located : Located "a+b".toList location := by
    have plain : "v1/queues/demo/claims/a+b".toList.all fun c => c ≠ '?' ∧ c ≠ '#' ∧ ¬ Url.isBreak c := by decide
    have path : ∀ c ∈ "v1/queues/demo/claims/a+b".toList, c ≠ '?' ∧ c ≠ '#' ∧ ¬ Url.isBreak c := fun c member =>
      of_decide_eq_true (List.all_eq_true.mp plain c member)
    have first : ∀ c, "v1/queues/demo/claims/a+b".toList.head? = some c → c ≠ '/' ∧ c ≠ '\\' := by
      intro c is
      cases Option.some.inj is
      decide
    have ends : Url.EndsIn "a+b".toList ('/' :: "v1/queues/demo/claims/a+b".toList) :=
      .inr ⟨"/v1/queues/demo/claims".toList, by decide⟩
    exact .bare (.rooted first path ends)
  have valid : (ClaimRequest.mk (.ofSeconds 60) (.ofSeconds 60) 2).validate = .ok () := by decide
  obtain ⟨returned, found, granted, shown, claims, _, same⟩ :=
    claimReadByPlace valid (by decide) encodes located (by simp) grants () ()
  exact ⟨grants, returned, found, granted, shown, claims, same.mpr (.inr rfl)⟩

/-- The space in the id is written in one way in the path and in another in the query, and the one claim comes
out under two ids. -/
theorem claimTornBySpace :
    let c : ClaimId := ⟨"a b"⟩
    let q : Remote := ⟨"demo", ⟨"p"⟩, rfl⟩
    let execute := granting "/v1/queues/demo/claims/a%20b" "claim_id=a+b"
    Url.percentEncode Url.inPath c.text.toList = "a%20b".toList ∧
      Url.Form.encode [("claim_id", c.text)] = "claim_id=a+b".toList ∧
      ((q.claim ⟨.ofSeconds 60, .ofSeconds 60, 2⟩).run execute ()).1.map (·.map (·.claim)) =
        .ok [some c, some ⟨"a%20b"⟩] ∧
      ((q.getClaim c).run execute ()).1.toOption.map (·.map (·.id)) = some (some ⟨"a%20b"⟩) := by
  intro c q execute
  refine ⟨by decide, by decide, ?_, by decide +kernel⟩
  have claims : (Remote.messagesDecoder.decodeText (grantedBody "claim_id=a+b")).toOption.map (·.map (·.claim)) =
      some [some c, none] := by decide +kernel
  cases decoded : Remote.messagesDecoder.decodeText (grantedBody "claim_id=a+b") with
  | error e => simp [decoded, Except.toOption] at claims
  | ok ms =>
    simp only [decoded, Except.toOption, Option.map_some, Option.some.injEq] at claims
    have read := claimedRead (locationGiven "/v1/queues/demo/claims/a%20b" (grantedBody "claim_id=a+b"))
      (by decide : Href.lastSegment "/v1/queues/demo/claims/a%20b" = .ok "a%20b") decoded
    have answered : (execute (claimSent q ⟨.ofSeconds 60, .ofSeconds 60, 2⟩) ()).1 =
        .ok (located "/v1/queues/demo/claims/a%20b" (grantedBody "claim_id=a+b")) := rfl
    rw [claimAsked (by decide), answered, read, Except.map, filledClaims, claims]
    rfl

end CloudClient.Queue
