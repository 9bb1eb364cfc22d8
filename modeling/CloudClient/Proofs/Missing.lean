import CloudClient.Proofs.Queue.Wire
import CloudClient.Queue.Admin
import CloudClient.Service
/-! A missing resource against every other failure. What looks for a resource, or does away with one, has an answer
for its absence, wherever in the conversation the provider says so; any other error comes out as it came in. -/
namespace CloudClient

open Http

namespace Outcome

variable {α β : Type} {answer : Outcome α}

def Present (answer : Outcome α) : Prop := ∀ resource, answer ≠ .error (.notFound resource)

theorem presentValue (a : α) : Present (.ok a) := nofun

theorem presentOther {e : Error} (other : ¬ e.isNotFound) : Present (.error e : Outcome α) := by
  rintro resource same
  cases Except.error.inj same
  exact other rfl

theorem otherIfPresent {e : Error} (present : Present (.error e : Outcome α)) : ¬ e.isNotFound := by
  intro missing
  cases e with
  | notFound resource => exact present resource rfl
  | _ => contradiction

theorem presentMap (present : Present answer) (f : α → β) : Present (answer.map f) := by
  cases answer with
  | error e => exact presentOther (otherIfPresent present)
  | ok a => exact presentValue (f a)

theorem presentBind {f : α → Outcome β} (present : Present answer) (each : ∀ a, Present (f a)) :
    Present (answer.bind f) := by
  cases answer with
  | error e => exact presentOther (otherIfPresent present)
  | ok a => exact each a

theorem presentRead {ε : Type} (read : Except ε α) (what : ε → Malformed) :
    Present (read.mapError fun e => .malformed (what e)) := by
  cases read with
  | error e => exact presentOther Bool.false_ne_true
  | ok a => exact presentValue a

theorem noneIfFailed {e : Error} (other : ¬ e.isNotFound) : noneIfMissing (.error e : Outcome α) = .error e :=
  if_neg other

theorem presentOrNone (answer : Outcome α) : Present answer.noneIfMissing := by
  cases answer with
  | ok a => exact presentValue (some a)
  | error e =>
    by_cases missing : e.isNotFound
    · rw [noneIfMissing, if_pos missing]
      exact presentValue none
    · rw [noneIfFailed missing]
      exact presentOther missing

end Outcome

open Outcome (Present)

namespace Http.Dialogue

variable {α β σ : Type} {d : Dialogue α} {execute : Executor σ} {s : σ}

def trace (execute : Executor σ) : Dialogue α → σ → List (Request × Outcome Response)
  | done _, _ => []
  | ask request next, s =>
    let (reply, s) := execute request s
    (request, reply) :: (next reply).trace execute s

theorem runLogged (execute : Executor σ) (d : Dialogue α) (s : σ) (log : List (Request × Outcome Response)) :
    d.run (logged execute) (s, log) = ((d.run execute s).1, (d.run execute s).2, log ++ d.trace execute s) := by
  induction d generalizing s log with
  | done result => simp [trace]
  | ask request next ih =>
    rw [run_ask, run_ask, trace]
    exact (ih _ _ _).trans (by rw [List.append_assoc]; rfl)

theorem traceMap (f : α → β) (execute : Executor σ) (d : Dialogue α) (s : σ) :
    (d.map f).trace execute s = d.trace execute s := by
  induction d generalizing s with
  | done result => rfl
  | ask request next ih => exact congrArg (List.cons _) (ih _ _)

def recorded (d : Dialogue α) (execute : Executor σ) (s : σ) : Outcome α × List (Request × Outcome Response) :=
  let ran := d.run (logged execute) (s, [])
  (ran.1, ran.2.2)

theorem recordedTrace (d : Dialogue α) (execute : Executor σ) (s : σ) :
    d.recorded execute s = ((d.run execute s).1, d.trace execute s) := by
  rw [recorded, runLogged, List.nil_append]

theorem recordedMap (f : α → β) (d : Dialogue α) (execute : Executor σ) (s : σ) :
    (d.map f).recorded execute s = ((d.recorded execute s).1.map f, (d.recorded execute s).2) := by
  rw [recordedTrace, recordedTrace, run_map, traceMap]

/-- How a conversation ends that has one request for valid arguments. `absent` is the answer where the resource is
missing, if there is one; a doubted error is not the last word. -/
inductive Single (valid : Prop) (request : Request) (absent : Option α) (doubted : Error → Bool) :
    Outcome α × List (Request × Outcome Response) → Prop
  | refused (invalid : ¬ valid) (reason : InvalidArgument) :
      Single valid request absent doubted (.error (.invalidArgument reason), [])
  | answered {result response} (passed : valid) (present : absent.isSome → Present result) :
      Single valid request absent doubted (result, [(request, .ok response)])
  | missing {a} (passed : valid) (folded : absent = some a) (resource : String) :
      Single valid request absent doubted (.ok a, [(request, .error (.notFound resource))])
  | failed {e} (passed : valid) (kept : absent = none ∨ ¬ e.isNotFound) (trusted : ¬ doubted e) :
      Single valid request absent doubted (.error e, [(request, .error e)])

def undoubted : Error → Bool := fun _ => false

variable {valid : Prop} {request : Request} {absent : Option α} {doubted : Error → Bool}

theorem Single.present {ran : Outcome α × List (Request × Outcome Response)}
    (single : Single valid request absent doubted ran) (lenient : absent.isSome) : Present ran.1 := by
  cases single with
  | refused invalid reason => exact Outcome.presentOther Bool.false_ne_true
  | answered passed present => exact present lenient
  | missing passed folded resource => exact Outcome.presentValue _
  | failed passed kept trusted =>
    rcases kept with strict | other
    · simp [strict] at lenient
    · exact Outcome.presentOther other

theorem singleMap (absent : Option α) (f : α → β) (single : Single valid request absent doubted (d.recorded execute s)) :
    Single valid request (absent.map f) doubted ((d.map f).recorded execute s) := by
  rw [recordedMap]
  generalize d.recorded execute s = ran at single
  cases single with
  | refused invalid reason => exact .refused invalid reason
  | answered passed present =>
    exact .answered passed fun lenient => Outcome.presentMap (present (by simpa using lenient)) f
  | missing passed folded resource => exact .missing passed (congrArg (Option.map f) folded) resource
  | failed passed kept trusted => exact .failed passed (kept.imp_left (congrArg (Option.map f))) trusted

theorem singleChecked {check : Outcome Unit} (decided : Queue.Decides check valid)
    (sent : valid → Single valid request absent doubted (d.recorded execute s)) :
    Single valid request absent doubted ((checked check d).recorded execute s) := by
  rcases decided with ⟨passed, rfl⟩ | ⟨invalid, reason, rfl⟩
  · exact sent passed
  · exact .refused invalid reason

theorem strictOnce {read : Outcome Response → Outcome α} (passed : valid) (trusted : ∀ e, ¬ doubted e)
    (failed : ∀ e, read (.error e) = .error e) :
    Single valid request none doubted ((once request read).recorded execute s) := by
  have sent : (once request read).recorded execute s =
      (read (execute request s).1, [(request, (execute request s).1)]) := rfl
  rw [sent]
  cases (execute request s).1 with
  | ok response => exact .answered passed fun lenient => absurd lenient Bool.false_ne_true
  | error e =>
    rw [failed e]
    exact .failed passed (.inl rfl) (trusted e)

theorem lenientOnce {read : Outcome Response → Outcome α} {a : α} (passed : valid) (trusted : ∀ e, ¬ doubted e)
    (answered : ∀ response, Present (read (.ok response)))
    (missing : ∀ resource, read (.error (.notFound resource)) = .ok a)
    (failed : ∀ e, ¬ e.isNotFound → read (.error e) = .error e) :
    Single valid request (some a) doubted ((once request read).recorded execute s) := by
  have sent : (once request read).recorded execute s =
      (read (execute request s).1, [(request, (execute request s).1)]) := rfl
  rw [sent]
  cases (execute request s).1 with
  | ok response => exact .answered passed fun _ => answered response
  | error e =>
    by_cases other : e.isNotFound
    · cases e with
      | notFound resource => exact missing resource ▸ .missing passed rfl resource
      | _ => contradiction
    · rw [failed e other]
      exact .failed passed (.inr other) (trusted e)

theorem lenientFolded (f : Option Response → α) (passed : valid) (trusted : ∀ e, ¬ doubted e) :
    Single valid request (some (f none)) doubted
      ((once request fun reply => reply.noneIfMissing.map f).recorded execute s) := by
  refine lenientOnce passed trusted (fun response => Outcome.presentMap (Outcome.presentOrNone _) f) (fun _ => rfl)
    fun e other => ?_
  rw [Outcome.noneIfFailed other]
  rfl

theorem lenientSettled (passed : valid) (trusted : ∀ e, ¬ doubted e) :
    Single valid request (some ()) doubted ((once request Queue.Remote.settled).recorded execute s) :=
  lenientFolded (fun _ => ()) passed trusted

theorem lenientFound (passed : valid) (trusted : ∀ e, ¬ doubted e) :
    Single valid request (some false) doubted ((once request Outcome.foundAny).recorded execute s) :=
  lenientFolded Option.isSome passed trusted

theorem lenientOrMissing {a : α} {read : Response → Outcome α} (passed : valid) (trusted : ∀ e, ¬ doubted e)
    (present : ∀ response, Present (read response)) :
    Single valid request (some a) doubted
      ((once request (Queue.Remote.orMissing a read)).recorded execute s) := by
  refine lenientOnce passed trusted present (fun _ => rfl) fun e other => ?_
  rw [Queue.Remote.orMissing, Outcome.noneIfFailed other]

end Http.Dialogue

namespace Queue

open Http.Dialogue

def Command.absent : Command → Option Answer
  | .get _ => some (.message none)
  | .list _ => some (.messages [])
  | .delete _ | .deleteMany _ | .deleteByClaim _ _ | .release _ => some .done
  | .getClaim _ => some (.claim none)
  | .renew _ _ _ => some (.renewed false)
  | .post _ | .streamPage _ | .claim _ => none

def Command.doubts : Command → Error → Bool
  | .deleteByClaim _ _, .forbidden _ => true
  | _, _ => false

def Command.unasked : Command → Option Answer
  | .post [] => some (.posted [])
  | .list [] => some (.messages [])
  | .deleteMany [] => some .done
  | _ => none

namespace Remote

variable {α σ : Type}

def framed (q : Remote) (method : Method) (suffix : String) (query : QueryPairs) (body : Option Json) : Request :=
  ⟨method, "/v1/queues/" ++ q.name ++ "/" ++ suffix, query, [("Client-ID", q.client.text)], body, none, none⟩

def timesOf (ttl grace : Duration) : Json := .object [("grace", .ofNat grace.seconds), ("ttl", .ofNat ttl.seconds)]

def asks (q : Remote) : Command → Request
  | .post drafts => q.framed .post "messages" []
      (some (.array (drafts.map fun d => .object [("body", d.body), ("ttl", .ofNat d.ttl.seconds)])))
  | .streamPage options => q.framed .get "messages" options.query none
  | .get id => q.framed .get ("messages/" ++ id.text) [] none
  | .list ids => q.framed .get "messages" [("ids", String.intercalate "," (ids.map (·.text)))] none
  | .delete id => q.framed .delete ("messages/" ++ id.text) [] none
  | .deleteMany ids => q.framed .delete "messages" [("ids", String.intercalate "," (ids.map (·.text)))] none
  | .deleteByClaim id c => q.framed .delete ("messages/" ++ id.text) [("claim_id", c.text)] none
  | .claim r => q.framed .post "claims" [("limit", toString r.limit)] (some (timesOf r.ttl r.grace))
  | .getClaim id => q.framed .get ("claims/" ++ id.text) [] none
  | .renew id ttl grace => q.framed .patch ("claims/" ++ id.text) [] (some (timesOf ttl grace))
  | .release id => q.framed .delete ("claims/" ++ id.text) [] none

theorem framedRequest (q : Remote) (method : Method) (suffix : String) (query : QueryPairs) (body : Option Json) :
    Request.header ⟨method, q.path suffix, query, [], body, none, none⟩ clientIdHeader q.client.text =
      q.framed method suffix query body := by
  rw [pathUnder]
  rfl

theorem framedOnce (q : Remote) (method : Method) (suffix : String) (query : QueryPairs) (body : Option Json)
    (read : Outcome Response → Outcome α) :
    q.once ⟨method, q.path suffix, query, [], body, none, none⟩ read =
      Dialogue.once (q.framed method suffix query body) read := by
  rw [once, framedRequest]

theorem messageFailed {e : Error} (other : ¬ e.isNotFound) : readMessage (.error e) = .error e :=
  Outcome.noneIfFailed other

theorem decodedPresent (d : Json.Decoder α) (response : Response) : Present (response.decode d) :=
  Outcome.presentRead _ Malformed.body

theorem claimPresent (asked : ClaimId) (r : ClaimReading) : Present (claimOf asked r) := by
  unfold claimOf
  refine Outcome.presentMap ?_ _
  split
  · exact Outcome.presentMap (Outcome.presentRead _ Malformed.href) _
  · exact Outcome.presentValue asked

inductive Resolved (id : MessageId) (c : ClaimId) (text : String) : Outcome Response → Outcome Unit → Prop
  | gone (resource : String) : Resolved id c text (.error (.notFound resource)) (.ok ())
  | failed {e} (other : ¬ e.isNotFound) : Resolved id c text (.error e) (.error e)
  | unreadable {response cause} (unread : Message.decoder.decodeText response.body = .error cause) :
      Resolved id c text (.ok response) (.error (.malformed (.body cause)))
  | free {response m} (found : Message.decoder.decodeText response.body = .ok m) (unclaimed : m.claim = none) :
      Resolved id c text (.ok response) (.error (.notClaimed id.text))
  | foreign {response m holder} (found : Message.decoder.decodeText response.body = .ok m)
      (claimed : m.claim = some holder) (other : holder ≠ c) :
      Resolved id c text (.ok response) (.error (.claimMismatch id.text c.text (some holder.text)))
  | own {response m} (found : Message.decoder.decodeText response.body = .ok m) (claimed : m.claim = some c) :
      Resolved id c text (.ok response) (.error (.forbidden text))

theorem messageRead (response : Response) :
    readMessage (.ok response) = match Message.decoder.decodeText response.body with
      | .ok m => .ok (some m)
      | .error cause => .error (.malformed (.body cause)) := by
  simp only [readMessage, Except.bind, Response.decode]
  cases Message.decoder.decodeText response.body with
  | ok m => rfl
  | error cause => exact Outcome.noneIfFailed Bool.false_ne_true

theorem resolved (id : MessageId) (c : ClaimId) (text : String) (reply : Outcome Response) :
    Resolved id c text reply (explain id c (.forbidden text) (readMessage reply)) := by
  cases reply with
  | error e =>
    by_cases other : e.isNotFound
    · cases e with
      | notFound resource => exact .gone resource
      | _ => contradiction
    · rw [messageFailed other]
      exact .failed other
  | ok response =>
    rw [messageRead]
    cases found : Message.decoder.decodeText response.body with
    | error cause => exact .unreadable found
    | ok m =>
      cases claimed : m.claim with
      | none => simpa only [explain, claimed] using Resolved.free found claimed
      | some holder =>
        simp only [explain, claimed]
        by_cases same : holder = c
        · rw [if_pos same]
          exact .own found (same ▸ claimed)
        · rw [if_neg same]
          exact .foreign found claimed same

theorem Resolved.present {id : MessageId} {c : ClaimId} {text : String} {reply : Outcome Response}
    {result : Outcome Unit} (settled : Resolved id c text reply result) : Present result := by
  cases settled with
  | gone => exact Outcome.presentValue ()
  | failed other => exact Outcome.presentOther other
  | unreadable | free | foreign | own => exact Outcome.presentOther Bool.false_ne_true

inductive Handled (q : Remote) : Command → Outcome Answer × List (Request × Outcome Response) → Prop
  | idle {command answer} (unasked : command.unasked = some answer) : Handled q command (.ok answer, [])
  | single {command ran} (asked : command.unasked = none)
      (single : Single command.Valid (q.asks command) command.absent command.doubts ran) : Handled q command ran
  | reread {id c text reply result} (settled : Resolved id c text reply result) :
      Handled q (.deleteByClaim id c) (result.map fun _ => .done,
        [(q.asks (.deleteByClaim id c), .error (.forbidden text)), (q.asks (.get id), reply)])

theorem Handled.present {q : Remote} {command : Command} {ran : Outcome Answer × List (Request × Outcome Response)}
    (handled : q.Handled command ran) (lenient : command.absent.isSome) : Present ran.1 := by
  cases handled with
  | idle unasked => exact Outcome.presentValue _
  | single asked single => exact single.present lenient
  | reread settled => exact Outcome.presentMap settled.present _

variable {execute : Executor σ} {s : σ}

theorem deletionHandled (q : Remote) (id : MessageId) (c : ClaimId) (execute : Executor σ) (s : σ) :
    q.Handled (.deleteByClaim id c) ((q.perform (.deleteByClaim id c)).recorded execute s) := by
  have first : Request.header ((Request.delete (q.messagePath id)).addQuery [("claim_id", c.text)]) clientIdHeader
      q.client.text = q.asks (.deleteByClaim id c) := q.framedRequest .delete ("messages/" ++ id.text) _ none
  have second : Request.header (.get (q.messagePath id)) clientIdHeader q.client.text = q.asks (.get id) :=
    q.framedRequest .get ("messages/" ++ id.text) [] none
  rw [perform, recordedMap, recordedTrace, deleteByClaim, first, run_ask, trace]
  obtain ⟨reply, t⟩ := execute (q.asks (.deleteByClaim id c)) s
  cases reply with
  | ok response => exact .single rfl (.answered trivial fun _ => Outcome.presentValue _)
  | error e =>
    cases e with
    | notFound resource => exact .single rfl (.missing trivial rfl resource)
    -- the one error that is not the last word
    | forbidden text =>
      dsimp only
      rw [once, second]
      exact .reread (resolved id c text _)
    | _ => exact .single rfl (.failed trivial (.inr Bool.false_ne_true) Bool.false_ne_true)

theorem framedSingle {q : Remote} {valid : Prop} {method : Method} {suffix : String} {query : QueryPairs}
    {body : Option Json} {absent : Option α} {doubted : Error → Bool} {read : Outcome Response → Outcome α}
    (single : Single valid (q.framed method suffix query body) absent doubted
      ((Dialogue.once (q.framed method suffix query body) read).recorded execute s)) :
    Single valid (q.framed method suffix query body) absent doubted
      ((q.once ⟨method, q.path suffix, query, [], body, none, none⟩ read).recorded execute s) := by
  rw [framedOnce]
  exact single

theorem handled (q : Remote) (command : Command) (execute : Executor σ) (s : σ) :
    q.Handled command ((q.perform command).recorded execute s) := by
  have trusted (e : Error) : ¬ undoubted e := Bool.false_ne_true
  cases command with
  | post drafts =>
    cases drafts with
    | nil => exact .idle rfl
    | cons d drafts =>
      refine .single rfl (singleMap none Answer.posted (singleChecked (draftsDecided _) fun valid => ?_))
      rw [funext draftWritten]
      exact framedSingle (strictOnce valid trusted fun _ => rfl)
  | streamPage options =>
    refine .single rfl (singleMap none Answer.page (singleChecked (optionsDecided options) fun valid => ?_))
    exact framedSingle (strictOnce valid trusted fun _ => rfl)
  | get id =>
    refine .single rfl (singleMap (some none) Answer.message (framedSingle ?_))
    exact lenientOnce trivial trusted (fun _ => Outcome.presentOrNone _) (fun _ => rfl) fun _ => messageFailed
  | list ids =>
    cases ids with
    | nil => exact .idle rfl
    | cons id ids =>
      refine .single rfl (singleMap (some []) Answer.messages (framedSingle ?_))
      refine lenientOrMissing trivial trusted fun response => ?_
      split
      · exact Outcome.presentValue []
      · exact decodedPresent messagesDecoder response
  | delete id =>
    exact .single rfl (singleMap (some ()) (fun _ => Answer.done) (framedSingle (lenientSettled trivial trusted)))
  | deleteMany ids =>
    cases ids with
    | nil => exact .idle rfl
    | cons id ids => exact .single rfl (singleMap (some ()) (fun _ => Answer.done) (framedSingle (lenientSettled trivial trusted)))
  | deleteByClaim id c => exact q.deletionHandled id c execute s
  | claim request =>
    refine .single rfl (singleMap none Answer.messages (singleChecked (claimDecided request) fun valid => ?_))
    rw [requestWritten]
    exact framedSingle (strictOnce valid trusted fun _ => rfl)
  | getClaim id =>
    refine .single rfl (singleMap (some none) Answer.claim (framedSingle ?_))
    refine lenientOrMissing trivial trusted fun response => ?_
    refine Outcome.presentBind (decodedPresent claimDecoder response) fun r => ?_
    exact Outcome.presentMap (claimPresent id r) some
  | renew id ttl grace =>
    refine .single rfl (singleMap (some false) Answer.renewed
      (singleChecked (renewalDecided id ttl grace) fun valid => ?_))
    rw [requestWritten]
    exact framedSingle (lenientFound valid trusted)
  | release id =>
    exact .single rfl (singleMap (some ()) (fun _ => Answer.done) (framedSingle (lenientSettled trivial trusted)))

end Remote

namespace Admin

variable {σ : Type}

structure Named (name : String) : Prop where
  nonempty : name ≠ ""
  short : name.length ≤ 64
  plain : ∀ c ∈ name.toList, ('a' ≤ c ∧ c ≤ 'z') ∨ ('A' ≤ c ∧ c ≤ 'Z') ∨ ('0' ≤ c ∧ c ≤ '9') ∨ c = '_' ∨ c = '-'

def asks (a : Admin) (method : Method) (name : String) : Request :=
  ⟨method, "/v1/queues/" ++ name, [], [("Client-ID", a.client.text)], none, none, none⟩

theorem nameDecided (name : String) : Decides (validateName name) (Named name) := by
  have named : isQueueName name ↔ Named name := by
    simp only [isQueueName, isNameChar, maxNameLength, Bool.and_eq_true, Bool.or_eq_true, decide_eq_true_eq,
      beq_iff_eq, Bool.not_eq_true', List.all_eq_true, or_assoc, String.isEmpty_eq_false_iff]
    exact ⟨fun ⟨⟨nonempty, short⟩, plain⟩ => ⟨nonempty, of_decide_eq_true short, plain⟩,
      fun ⟨nonempty, short, plain⟩ => ⟨⟨nonempty, decide_eq_true short⟩, plain⟩⟩
  unfold validateName
  split
  · rename_i holds
    exact .inl ⟨named.mp holds, rfl⟩
  · rename_i fails
    exact .inr ⟨mt named.mpr fails, _, rfl⟩

theorem askedRequest (a : Admin) (method : Method) (name : String) :
    Request.header ⟨method, queuePath name, [], [], none, none, none⟩ clientIdHeader a.client.text =
      a.asks method name := by
  have root : apiPrefix ++ "/" = "/v1/queues/" := by decide
  rw [queuePath, root]
  rfl

theorem handled (a : Admin) (name : String) (execute : Executor σ) (s : σ) :
    Single (Named name) (a.asks .delete name) (some ()) undoubted ((a.delete name).recorded execute s) ∧
      Single (Named name) (a.asks .head name) (some false) undoubted ((a.hasQueue name).recorded execute s) ∧
      Single (Named name) (a.asks .put name) none undoubted ((a.create name).recorded execute s) := by
  have trusted (e : Error) : ¬ undoubted e := Bool.false_ne_true
  simp only [← askedRequest]
  exact ⟨singleChecked (nameDecided name) fun named => lenientSettled named trusted,
    singleChecked (nameDecided name) fun named => lenientFound named trusted,
    singleChecked (nameDecided name) fun named => strictOnce named trusted fun _ => rfl⟩

end Admin
end Queue

namespace Service

open Http.Dialogue

variable {α σ : Type}

theorem unwrapPresent (path : String) (envelope : Option String) (value : Json) :
    Present (unwrap path envelope value) := by
  unfold unwrap
  split
  · exact Outcome.presentValue value
  · split
    · exact Outcome.presentValue _
    · exact Outcome.presentOther Bool.false_ne_true

theorem readPresent (path : String) (envelope : Option String) (item : Json.Decoder α) (response : Response) :
    Present (read path envelope item response) := by
  refine Outcome.presentBind (Outcome.presentRead _ Malformed.body) fun value => ?_
  exact Outcome.presentBind (unwrapPresent path envelope value) fun inner => Outcome.presentRead _ Malformed.value

def asks (s : Service) (method : Method) (path : String) (query : QueryPairs) : Request :=
  ⟨method, path, query, Headers.setAll [] s.headers, none, none, none⟩

theorem getHandled (s : Service) (path : String) (envelope : Option String) (fields : List String)
    (item : Json.Decoder α) (execute : Executor σ) (t : σ) :
    Single True (s.asks .get path (fields.map fun f => ("fields", f))) (some none) undoubted
      ((s.get path envelope fields item).recorded execute t) :=
  lenientOrMissing trivial (fun _ => Bool.false_ne_true) fun response =>
    Outcome.presentMap (readPresent path envelope item response) some

theorem deleteHandled (s : Service) (path : String) (execute : Executor σ) (t : σ) :
    Single True (s.asks .delete path []) (some false) undoubted ((s.delete path).recorded execute t) :=
  lenientFound trivial fun _ => Bool.false_ne_true

end Service

open Http.Dialogue

theorem missingAnswered {σ : Type} (execute : Executor σ) (t : σ) (q : Queue.Remote) (a : Queue.Admin) (s : Service) :
    (∀ command : Queue.Command,
      let ran := (q.perform command).recorded execute t
      q.Handled command ran ∧ (command.absent.isSome → Present ran.1)) ∧
    (∀ name,
      let (deleted, found) := ((a.delete name).recorded execute t, (a.hasQueue name).recorded execute t)
      Single (Queue.Admin.Named name) (a.asks .delete name) (some ()) undoubted deleted ∧ Present deleted.1 ∧
        Single (Queue.Admin.Named name) (a.asks .head name) (some false) undoubted found ∧ Present found.1 ∧
        Single (Queue.Admin.Named name) (a.asks .put name) none undoubted ((a.create name).recorded execute t)) ∧
    (∀ {α : Type} path envelope fields (item : Json.Decoder α),
      let ran := (s.get path envelope fields item).recorded execute t
      Single True (s.asks .get path (fields.map fun f => ("fields", f))) (some none) undoubted ran ∧ Present ran.1) ∧
    ∀ path,
      let ran := (s.delete path).recorded execute t
      Single True (s.asks .delete path []) (some false) undoubted ran ∧ Present ran.1 := by
  refine ⟨fun command => ?_, fun name => ?_, fun path envelope fields item => ?_, fun path => ?_⟩
  · have handled := q.handled command execute t
    exact ⟨handled, handled.present⟩
  · obtain ⟨deleted, found, created⟩ := a.handled name execute t
    exact ⟨deleted, deleted.present rfl, found, found.present rfl, created⟩
  · have single := s.getHandled path envelope fields item execute t
    exact ⟨single, single.present rfl⟩
  · have single := s.deleteHandled path execute t
    exact ⟨single, single.present rfl⟩

def replying : Executor (List (Outcome Response)) := fun _ replies =>
  (replies.headD (.error (.timeout 0)), replies.tail)

theorem refusedThenMissing :
    let q : Queue.Remote := ⟨"demo", ⟨"p"⟩, rfl⟩
    let s : Service := ⟨[("X-Token", "t")]⟩
    let refusal : Error := .forbidden "held"
    let replies : List (Outcome Response) := [.error refusal, .error (.notFound "gone")]
    let deletion := (q.perform (.deleteByClaim ⟨"m"⟩ ⟨"c"⟩)).recorded replying replies
    let reading := (s.get "/v1/x" none [] Json.Decoder.json).recorded replying
    let deleted : Request :=
      ⟨.delete, "/v1/queues/demo/messages/m", [("claim_id", "c")], [("Client-ID", "p")], none, none, none⟩
    let got : Request := ⟨.get, "/v1/queues/demo/messages/m", [], [("Client-ID", "p")], none, none, none⟩
    let read : Request := ⟨.get, "/v1/x", [], [("X-Token", "t")], none, none, none⟩
    (q.Handled (.deleteByClaim ⟨"m"⟩ ⟨"c"⟩) deletion ∧ Present deletion.1) ∧
      deletion = (.ok .done, [(deleted, .error refusal), (got, .error (.notFound "gone"))]) ∧
      (Single True read (some none) undoubted (reading replies) ∧ Present (reading replies).1) ∧
      reading replies = (.error refusal, [(read, .error refusal)]) ∧
      reading replies.tail = (.ok none, [(read, .error (.notFound "gone"))]) := by
  intro q s refusal replies deletion reading deleted got read
  obtain ⟨commands, -, reads, -⟩ := missingAnswered replying replies q ⟨⟨"p"⟩⟩ s
  obtain ⟨handled, present⟩ := commands (.deleteByClaim ⟨"m"⟩ ⟨"c"⟩)
  exact ⟨⟨handled, present rfl⟩, rfl, reads "/v1/x" none [] Json.Decoder.json, rfl, rfl⟩

end CloudClient
