import CloudClient.Proofs.Queue.Run
import CloudClient.Proofs.Resource
import CloudClient.Queue.Remote
/-! Deletion under a claim at a provider that holds a store. A client that is refused asks for the message to
find out why, and comes to the answer that the store itself gives. -/
namespace CloudClient

theorem Json.Tree.memberValues {depth : Nat} {members : List (Key × Json.Tree)}
    (whole : (members? depth members).isSome) {entry : Key × Json.Tree} (member : entry ∈ members) :
    ∃ v, entry.2.value? depth = some v := by
  induction members with
  | nil => contradiction
  | cons first members ih =>
    obtain ⟨key, item⟩ := first
    cases key with
    | text key =>
      rw [members?] at whole
      split at whole <;> try contradiction
      rename_i v pairs own rest
      rcases List.mem_cons.mp member with rfl | later
      · exact ⟨v, own⟩
      · exact ih (rest ▸ rfl) later
    | unpaired | other => contradiction

theorem Json.Decoder.readNext {σ : Type} {fields : List (Field σ)} {field : Field σ} {depth : Nat}
    {state : σ} {key : String} {item : Json.Tree} {set : σ → σ}
    (found : fields.find? (·.name == key) = some field) (unset : field.isSet state = false)
    (own : field.decoder.ofTree depth item = .ok set)
    (rest : List (Key × Json.Tree)) :
    readMembers fields depth state ((.text key, item) :: rest) = readMembers fields depth (set state) rest := by
  simp only [readMembers, found, unset, own, Bool.false_eq_true, if_false]

namespace Queue

open CloudClient.Http

namespace Message

def members (href : String) (ttl age : Nat) (body : Json.Tree) : List (Json.Key × Json.Tree) := [
  (.text "href", .string (some href)),
  (.text "ttl", .number (some (.integer (.ofNat ttl)))),
  (.text "age", .number (some (.integer (.ofNat age)))),
  (.text "body", body)]

inductive Written (href : String) (ttl age : Nat) (body : Json.Tree) (text : String) : Prop
  | object {written} (json : (Json.parse text).isSome)
      (tree : Json.Tree.ofText text = (.object written true, true))
      (same : written.Perm (members href ttl age body))

variable {href text : String} {ttl age : Nat} {body : Json.Tree}

def readOnce {α : Type} (left : List Json.Key) (key : String) (a : α) : Option α :=
  if .text key ∈ left then none else some a

theorem readOnceLeft {α : Type} {left : List Json.Key} {key : String} (unread : .text key ∈ left) (a : α) :
    readOnce left key a = none :=
  if_pos unread

theorem readOnceOther {α : Type} {first key : String} (other : key ≠ first) (left : List Json.Key) (a : α) :
    readOnce (.text first :: left) key a = readOnce left key a := by
  have same : .text key ∈ Json.Key.text first :: left ↔ .text key ∈ left := by simp [other]
  exact if_congr same rfl rfl

theorem readOnceAbsent {α : Type} {left : List Json.Key} {key : String} (absent : .text key ∉ left) (a : α) :
    readOnce left key a = some a :=
  if_neg absent

def readingBefore (href : String) (ttl age : Nat) (value : Json) (left : List Json.Key) : Reading :=
  ⟨readOnce left "href" href, readOnce left "ttl" ttl, readOnce left "age" age, readOnce left "body" value⟩

theorem readEach {depth : Nat} {value : Json} (whole : body.value? depth = some value)
    {left : List (Json.Key × Json.Tree)} (known : left ⊆ members href ttl age body)
    (distinct : (left.map (·.1)).Nodup) :
    Json.Decoder.readMembers fields depth (readingBefore href ttl age value (left.map (·.1))) left =
      .ok (readingBefore href ttl age value []) := by
  induction left with
  | nil => rfl
  | cons entry left ih =>
    obtain ⟨own, later⟩ := List.cons_subset.mp known
    obtain ⟨absent, distinct⟩ := List.nodup_cons.mp distinct
    have rest := ih later distinct
    rw [List.map_cons]
    simp only [members, List.mem_cons, List.not_mem_nil, or_false] at own
    rcases own with rfl | rfl | rfl | rfl
    · rw [Json.Decoder.readNext rfl (by simp [readingBefore, readOnceLeft]) rfl, ← rest]
      simp [readingBefore, readOnceOther, readOnceAbsent absent]
    · rw [Json.Decoder.readNext rfl (by simp [readingBefore, readOnceLeft]) rfl, ← rest]
      simp [readingBefore, readOnceOther, readOnceAbsent absent]
    · rw [Json.Decoder.readNext rfl (by simp [readingBefore, readOnceLeft]) rfl, ← rest]
      simp [readingBefore, readOnceOther, readOnceAbsent absent]
    · have own : Json.Decoder.json.ofTree depth body = .ok value := by simp only [Json.Decoder.json, whole]
      rw [Json.Decoder.readNext rfl (by simp [readingBefore, readOnceLeft]) (congrArg (Except.map _) own), ← rest]
      simp [readingBefore, readOnceOther, readOnceAbsent absent]

theorem Written.decoded (written : Written href ttl age body text) {id : String} {claim : Option String}
    (named : Href.lastSegment href = .ok id) (carries : Href.queryParam href "claim_id" = .ok claim) :
    ∃ m, decoder.decodeText text = .ok m ∧ m.id = ⟨id⟩ ∧ m.claim = claim.map ClaimId.mk := by
  obtain @⟨listed, json, tree, same⟩ := written
  have keys : (listed.map (·.1)).Perm [.text "href", .text "ttl", .text "age", .text "body"] := same.map (·.1)
  have distinct : (listed.map (·.1)).Nodup := keys.nodup_iff.mpr (by decide)
  have whole : (Json.Tree.members? 126 listed).isSome := by
    rw [Json.parse, tree] at json
    simpa [Json.Tree.value?, Json.Tree.maxDepth] using json
  have last : (.text "body", body) ∈ members href ttl age body := by simp [members]
  obtain ⟨value, own⟩ := Json.Tree.memberValues whole (same.mem_iff.mpr last)
  have read := readEach own same.subset distinct
  have start : readingBefore href ttl age value (listed.map (·.1)) = ⟨none, none, none, none⟩ := by
    have unread : ∀ key ∈ ["href", "ttl", "age", "body"], .text key ∈ listed.map (·.1) := by
      simp [keys.mem_iff]
    simp only [List.forall_mem_cons] at unread
    obtain ⟨first, second, third, fourth, _⟩ := unread
    simp only [readingBefore, readOnceLeft first, readOnceLeft second, readOnceLeft third, readOnceLeft fourth]
  rw [start] at read
  refine ⟨⟨⟨id⟩, value, claim.map ClaimId.mk, .ofSeconds age, .ofSeconds ttl⟩, ?_, rfl, rfl⟩
  have record :
      (Json.Decoder.record "MessageWire" fields ⟨none, none, none, none⟩).ofTree 127 (.object listed true) =
        .ok ⟨some href, some ttl, some age, some value⟩ := by
    simp only [Json.Decoder.record, read]
    rfl
  simp only [Json.Decoder.decodeText, tree, decoder, Json.Decoder.refine, Json.Tree.maxDepth, record,
    Except.bind, ofReading, Option.getD_some, named, carries, Except.map, Except.mapError, if_true]

def isListing (href : String) (ttl age : Nat) (text : String) : Bool :=
  match Json.Tree.ofText text with
  | (.object [(.text a, .number (some (.integer m))), (.text b, .null), (.text h, .string (some link)),
      (.text t, .number (some (.integer n)))] true, true) =>
    [a, b, h, link, t] = ["age", "body", "href", href, "ttl"] && m = .ofNat age && n = .ofNat ttl
  | _ => false

theorem writtenListing (listing : isListing href ttl age text) : Written href ttl age .null text := by
  unfold isListing at listing
  split at listing
  · rename_i tree
    simp only [Bool.and_eq_true, decide_eq_true_eq, List.cons.injEq, and_true] at listing
    obtain ⟨⟨⟨rfl, rfl, rfl, rfl, rfl⟩, rfl⟩, rfl⟩ := listing
    exact .object (by rw [Json.parse, tree]; rfl) tree (@List.perm_append_comm _ [_, _] [_, _])
  · contradiction

end Message

def isMinted (text : String) : Bool := text.length = 32 && text.toList.all ClientId.isHexDigit

theorem mintedLiteral {text : String} (minted : isMinted text) : Url.Literal text.toList := by
  simp only [isMinted, Bool.and_eq_true, decide_eq_true_eq, List.all_eq_true] at minted
  obtain ⟨long, digits⟩ := minted
  refine ⟨fun none => ?_, fun c member => ?_⟩
  · rw [← String.length_toList, none] at long
    contradiction
  · have digit := digits c member
    simp only [ClientId.isHexDigit, Bool.or_eq_true, Bool.and_eq_true, decide_eq_true_eq] at digit
    rcases digit with decimal | ⟨least, greatest⟩
    · exact .inr (by simpa [Url.isDecimal] using decimal)
    · have letter : c ≤ 'z' := Char.le_trans greatest (by decide)
      exact .inl (by simp [Url.isAlpha, least, letter])

def Minted (calls : List Store.Call) : Prop :=
  (∀ id ∈ calls.flatMap Store.Call.messageIds, isMinted id.text) ∧
    ∀ c ∈ calls.flatMap Store.Call.claimIds, isMinted c.text

instance (calls : List Store.Call) : Decidable (Minted calls) := inferInstanceAs (Decidable (_ ∧ _))

theorem addressPlain {c : Char} (plain : isNameChar c ∨ c = '/') : c ≠ '?' ∧ c ≠ '#' ∧ ¬ Url.isBreak c := by
  have other (d : Char) (special : ¬ (isNameChar d ∨ d = '/')) : c ≠ d := fun same => special (same ▸ plain)
  refine ⟨other '?' (by decide), other '#' (by decide), ?_⟩
  simp [Url.isBreak, other '\t' (by decide), other '\n' (by decide), other '\r' (by decide)]

theorem messageAddress (q : Remote) {id : MessageId} (l : Url.Literal id.text.toList) :
    Href.Resource id.text.toList (q.messagePath id).toList := by
  have path : (q.messagePath id).toList =
      '/' :: ("v1/queues/".toList ++ q.name.toList ++ "/messages/".toList ++ id.text.toList) := by
    simp [Remote.messagePath, Remote.path, apiPrefix]
  have fixed : ("v1/queues/".toList ++ "/messages/".toList).all fun c => isNameChar c ∨ c = '/' := by decide
  have named : ∀ c ∈ q.name.toList, isNameChar c := by
    have named := q.name_ok
    simp only [isQueueName, Bool.and_eq_true, List.all_eq_true] at named
    exact named.2
  have literal : ∀ c ∈ id.text.toList, isNameChar c := fun c member => by
    have literal := l.literal c member
    simp only [Url.isAlpha, Url.isDecimal, Bool.or_eq_true, Bool.and_eq_true, decide_eq_true_eq] at literal
    simp only [isNameChar, Bool.or_eq_true, Bool.and_eq_true, decide_eq_true_eq]
    rcases literal with letter | digit
    · exact .inl (.inl (.inl letter))
    · exact .inl (.inl (.inr digit))
  rw [path]
  refine .rooted (fun c is => ?_) (fun c member => addressPlain ?_)
    (.inr ⟨'/' :: ("v1/queues/".toList ++ q.name.toList ++ "/messages".toList), by simp⟩)
  · cases Option.some.inj is
    decide
  · simp only [List.all_eq_true, decide_eq_true_eq, List.mem_append] at member fixed
    rcases member with ((first | name) | second) | last
    · exact fixed c (.inl first)
    · exact .inl (named c name)
    · exact fixed c (.inr second)
    · exact .inl (literal c last)

inductive Linked (id : MessageId) (holder : Option ClaimId) : String → Prop
  | bare {base} (names : Href.Resource id.text.toList base) (free : holder = none) :
      Linked id holder (String.ofList base)
  | asked {base query} (names : Href.Resource id.text.toList base) (unmarked : ∀ c ∈ query, Url.Unmarked c)
      (carries : Url.Form.firstValue "claim_id" (Url.Form.decode query) = holder.map (·.text)) :
      Linked id holder (String.ofList (base ++ '?' :: query))

theorem Linked.read {id : MessageId} {holder : Option ClaimId} {href : String} (linked : Linked id holder href)
    (own : Url.Segment id.text.toList) (held : ∀ c, holder = some c → c.text ≠ "") :
    Href.lastSegment href = .ok id.text ∧ Href.queryParam href "claim_id" = .ok (holder.map (·.text)) := by
  have whole : String.ofList id.text.toList = id.text := String.ofList_toList
  cases linked with
  | bare names free =>
    obtain ⟨named, param⟩ := names.bare own "claim_id"
    exact ⟨whole ▸ named, free ▸ param⟩
  | asked names unmarked carries =>
    obtain ⟨named, param⟩ := names.asked own unmarked "claim_id"
    rw [carries] at param
    have some : (holder.map (·.text)).filter (· != "") = holder.map (·.text) := by
      cases holder with
      | none => rfl
      | some c => simpa using held c rfl
    exact ⟨whole ▸ named, some ▸ param⟩

/-- What an executor makes of a reply with this status; the words of an error are its own. -/
inductive Became : Nat → Outcome Response → Prop
  | noContent {response} (status : response.status = 204) : Became 204 (.ok response)
  | forbidden {text} : Became 403 (.error (.forbidden text))
  | missing {text} : Became 404 (.error (.notFound text))

def deletionStatus (s : Store) (now : Nat) (id : MessageId) (c : ClaimId) : Nat :=
  match s.get now id with
  | none => 404
  | some m => if m.claim = some c then 204 else 403

structure Serves {σ : Type} (execute : Executor σ) (q : Remote) (s : Store) (now : Nat) (id : MessageId)
    (c : ClaimId) : Prop where
  deletes : ∀ request state, request.method = .delete → request.path = q.messagePath id →
    request.query = [("claim_id", c.text)] → Became (deletionStatus s now id c) (execute request state).1
  misses : s.get now id = none → ∀ request state, request.method = .get → request.path = q.messagePath id →
    request.query = [] → Became 404 (execute request state).1
  shows : ∀ m, s.get now id = some m → ∀ request state, request.method = .get →
    request.path = q.messagePath id → request.query = [] → ∃ response, (execute request state).1 = .ok response ∧
      ∃ href ttl age body, Linked id m.claim href ∧ Message.Written href ttl age body response.body

variable {s : Store} {now : Nat} {id : MessageId} {c : ClaimId}

theorem Became.missed {reply : Outcome Response} (became : Became 404 reply) :
    ∃ text, reply = .error (.notFound text) := by
  cases became
  exact ⟨_, rfl⟩

theorem Became.refused {reply : Outcome Response} (became : Became 403 reply) :
    ∃ text, reply = .error (.forbidden text) := by
  cases became
  exact ⟨_, rfl⟩

theorem Became.done {reply : Outcome Response} (became : Became 204 reply) :
    ∃ response, reply = .ok response := by
  cases became
  exact ⟨_, rfl⟩

theorem storedNames (w : Store.WellFormed s) {m : Message} (got : s.get now id = some m) :
    id ∈ s.messages.map (·.id) ∧ ∀ holder, m.claim = some holder → holder ∈ s.holds.map (·.id) := by
  obtain ⟨n, member, named, _, rfl⟩ := (Store.getIff w.keyed).mp got
  refine ⟨List.mem_map.mpr ⟨n, member, named⟩, fun holder held => ?_⟩
  obtain ⟨_, h, hh, same, _⟩ := (w.holder member).mp held
  exact List.mem_map.mpr ⟨h, hh, same⟩

theorem explained {m : Message} (other : m.claim ≠ some c) (refusal : Error) :
    Remote.explain id c refusal (.ok (some m)) =
      match m.claim with
      | none => .error (.notClaimed id.text)
      | some holder => .error (.claimMismatch id.text c.text (some holder.text)) := by
  unfold Remote.explain
  dsimp only
  cases held : m.claim with
  | none => rfl
  | some holder =>
    have different : holder ≠ c := fun same => other (held.trans (congrArg some same))
    exact if_neg different

theorem shownAlike {m : Message} {response : Response} {href : String} {ttl age : Nat} {body : Json.Tree}
    (named : isMinted id.text) (held : ∀ holder, m.claim = some holder → isMinted holder.text)
    (linked : Linked id m.claim href) (written : Message.Written href ttl age body response.body) :
    ∃ seen, Remote.readMessage (.ok response) = .ok (some seen) ∧ seen.claim = m.claim := by
  have given (holder : ClaimId) (under : m.claim = some holder) : holder.text ≠ "" := fun none =>
    (mintedLiteral (held holder under)).some (by rw [none]; rfl)
  obtain ⟨last, carries⟩ := linked.read (mintedLiteral named).segment given
  obtain ⟨seen, decoded, _, same⟩ := written.decoded last carries
  refine ⟨seen, ?_, ?_⟩
  · simp only [Remote.readMessage, Except.bind, Response.decode, decoded, Except.mapError, Outcome.noneIfMissing]
  · rw [same, Option.map_map]
    exact Option.map_id'

theorem deletedAlike {σ : Type} {execute : Executor σ} {q : Remote} {calls : List Store.Call}
    (fresh : Store.FreshIds calls) (minted : Minted calls)
    (serves : Serves execute q (Store.empty.run calls) now id c) (state : σ) :
    ((q.deleteByClaim id c).run execute state).1 = ((Store.empty.run calls).deleteByClaim now id c).1 := by
  have w := Store.reachedWellFormed fresh
  have deletes := serves.deletes
    (((Request.delete (q.messagePath id)).addQuery [("claim_id", c.text)]).header clientIdHeader q.client.text)
    state rfl rfl rfl
  rw [Store.deleteByClaimAnswer w]
  unfold deletionStatus at deletes
  cases got : (Store.empty.run calls).get now id with
  | none =>
    rw [got] at deletes
    obtain ⟨text, missing⟩ := deletes.missed
    simp only [Remote.deleteByClaim, Dialogue.run_ask, missing, Dialogue.run_done]
  | some m =>
    rw [got] at deletes
    by_cases own : m.claim = some c
    · simp only [if_pos own] at deletes
      obtain ⟨response, done⟩ := deletes.done
      simp only [Remote.deleteByClaim, Dialogue.run_ask, done, Dialogue.run_done, own, if_true]
    · simp only [if_neg own] at deletes
      obtain ⟨text, refused⟩ := deletes.refused
      obtain ⟨named, held⟩ := storedNames w got
      simp only [Remote.deleteByClaim, Dialogue.run_ask, refused, Remote.once, Dialogue.run_once]
      generalize (execute _ state).2 = refusing
      obtain ⟨response, shown, href, ttl, age, body, linked, written⟩ := serves.shows m got
        ((Request.get (q.messagePath id)).header clientIdHeader q.client.text) refusing rfl rfl rfl
      obtain ⟨seen, read, same⟩ := shownAlike (minted.1 id (Store.reachedIds fresh named))
        (fun holder under => minted.2 holder (Store.reachedClaims fresh (held holder under))) linked written
      rw [shown, read, explained (same ▸ own), same]
      cases under : m.claim with
      | none => rfl
      | some holder =>
        have other : holder ≠ c := fun same => own (under.trans (congrArg some same))
        simp only [if_neg other]

def shownText (href : String) : String :=
  "\x7b\"age\":0,\"body\":null,\"href\":\"" ++ href ++ "\",\"ttl\":300\x7d"

theorem refusedAlike :
    let id : MessageId := ⟨"0123456789abcdef0123456789abcdef"⟩
    let holder : ClaimId := ⟨"fedcba9876543210fedcba9876543210"⟩
    let calls : List Store.Call := [
      ⟨⟨"p"⟩, 0, .named [id.text] "", .post [⟨.ofSeconds 300, .null⟩]⟩,
      ⟨⟨"p"⟩, 0, .named [] holder.text, .claim ⟨.ofSeconds 60, .ofSeconds 60, 1⟩⟩]
    let q : Remote := ⟨"demo", ⟨"p"⟩, rfl⟩
    let execute : Executor Unit := fun request s =>
      if request.method = .delete then (.error (.forbidden "held"), s)
      else (.ok (.new 200 (shownText (q.messagePath id ++ "?claim_id=" ++ holder.text))), s)
    Serves execute q (Store.empty.run calls) 1000 id ⟨"c"⟩ ∧
      ((q.deleteByClaim id ⟨"c"⟩).run execute ()).1 = .error (.claimMismatch id.text "c" (some holder.text)) ∧
      ((q.deleteByClaim id ⟨"c"⟩).run execute ()).1 = ((Store.empty.run calls).deleteByClaim 1000 id ⟨"c"⟩).1 := by
  intro id holder calls q execute
  have status : deletionStatus (Store.empty.run calls) 1000 id ⟨"c"⟩ = 403 := by decide
  have got : ((Store.empty.run calls).get 1000 id).map (·.claim) = some (some holder) := by decide +kernel
  let href := q.messagePath id ++ "?claim_id=" ++ holder.text
  have linked : Linked id (some holder) href := by
    have names := messageAddress q (mintedLiteral (by decide : isMinted id.text))
    have unmarked := Url.encodedUnmarked [("claim_id", holder.text)]
    have text : href = String.ofList
        ((q.messagePath id).toList ++ '?' :: Url.Form.encode [("claim_id", holder.text)]) := by decide
    exact text ▸ .asked names unmarked (by rw [Url.Form.readPairs]; rfl)
  have written : Message.Written href 300 0 .null (shownText href) :=
    Message.writtenListing (by decide +kernel)
  have serves : Serves execute q (Store.empty.run calls) 1000 id ⟨"c"⟩ := {
    deletes := fun request state method _ _ => by
      rw [status, show (execute request state).1 = .error (.forbidden "held") from congrArg Prod.fst (if_pos method)]
      exact .forbidden
    misses := fun none => by
      rw [none, Option.map_none] at got
      exact absurd got.symm (Option.some_ne_none _)
    shows := fun m same request state method _ _ => by
      rw [same] at got
      have held : m.claim = some holder := Option.some.inj got
      have other : ¬ request.method = .delete := by simp [method]
      exact ⟨.new 200 (shownText href), congrArg Prod.fst (if_neg other), _, _, _, _, held ▸ linked, written⟩ }
  have same := deletedAlike (by decide) (by decide) serves ()
  exact ⟨serves, same.trans (by decide +kernel), same⟩

end Queue
end CloudClient
