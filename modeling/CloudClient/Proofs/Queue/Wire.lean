import CloudClient.Queue.Remote
/-! What a handle of a remote queue puts on the wire. Whatever is asked of it and whatever the provider answers,
each request is made out to the queue and names the client, each lifetime in it is a whole number of seconds
within the bounds, and nothing at all is sent for arguments that are not valid. -/
namespace CloudClient

open Http

def Http.logged {σ : Type} (execute : Executor σ) : Executor (σ × List (Request × Outcome Response)) :=
  fun request s =>
    let (reply, inner) := execute request s.1
    (reply, inner, s.2 ++ [(request, reply)])

namespace Queue

def Within (greatest : Nat) (d : Duration) : Prop := .ofSeconds 60 ≤ d ∧ d ≤ .ofSeconds greatest

instance (greatest : Nat) (d : Duration) : Decidable (Within greatest d) := inferInstanceAs (Decidable (_ ∧ _))

def Command.Valid : Command → Prop
  | .post drafts => ∀ d ∈ drafts, Within 1209600 d.ttl
  | .streamPage options => ∀ limit, options.limit = some limit → 1 ≤ limit ∧ limit ≤ 20
  | .claim request => Within 43200 request.ttl ∧ Within 43200 request.grace ∧ 1 ≤ request.limit ∧ request.limit ≤ 20
  | .renew _ ttl grace => Within 43200 ttl ∧ Within 43200 grace
  | _ => True

def Command.isIdle : Command → Bool
  | .post drafts => drafts.isEmpty
  | .list ids | .deleteMany ids => ids.isEmpty
  | _ => false

def Decides (check : Outcome Unit) (p : Prop) : Prop :=
  (p ∧ check = .ok ()) ∨ (¬ p ∧ ∃ reason, check = .error (.invalidArgument reason))

theorem Decides.passed {check : Outcome Unit} {p : Prop} (decided : Decides check p) (holds : p) : check = .ok () :=
  decided.elim And.right fun refused => absurd holds refused.1

theorem lifetimeDecided (what : String) (greatest : Nat) (d : Duration) :
    Decides (checkLifetime what d (.ofSeconds greatest)) (Within greatest d) := by
  unfold checkLifetime
  split
  · rename_i outside
    refine .inr ⟨fun within => ?_, _, rfl⟩
    simp only [Within, minTtl, Duration.le_def, Duration.lt_def] at outside within
    omega
  · rename_i inside
    refine .inl ⟨?_, rfl⟩
    simp only [Within, minTtl, Duration.le_def, Duration.lt_def] at inside ⊢
    omega

theorem limitDecided (limit : Nat) : Decides (checkLimit limit) (1 ≤ limit ∧ limit ≤ 20) := by
  unfold checkLimit
  split
  · rename_i inside
    exact .inl ⟨inside, rfl⟩
  · rename_i outside
    exact .inr ⟨outside, _, rfl⟩

theorem optionsDecided (options : StreamOptions) : Decides options.validate (Command.streamPage options).Valid := by
  simp only [StreamOptions.validate, Command.Valid]
  cases options.limit with
  | none => exact .inl ⟨fun _ given => by contradiction, rfl⟩
  | some limit => simpa using limitDecided limit

theorem draftsDecided (drafts : List Draft) : Decides (Draft.validateAll drafts) (Command.post drafts).Valid := by
  induction drafts with
  | nil => exact .inl ⟨List.forall_mem_nil _, rfl⟩
  | cons d drafts ih =>
    rw [Draft.validateAll]
    rcases lifetimeDecided "message ttl" 1209600 d.ttl with ⟨within, checked⟩ | ⟨outside, reason, checked⟩
    · rw [show d.validate = .ok () from checked]
      rcases ih with ⟨valid, passed⟩ | ⟨invalid, refused⟩
      · exact .inl ⟨List.forall_mem_cons.mpr ⟨within, valid⟩, passed⟩
      · exact .inr ⟨fun all => invalid (List.forall_mem_cons.mp all).2, refused⟩
    · rw [show d.validate = .error _ from checked]
      exact .inr ⟨fun all => outside (List.forall_mem_cons.mp all).1, reason, rfl⟩

theorem claimDecided (request : ClaimRequest) : Decides request.validate (Command.claim request).Valid := by
  rw [ClaimRequest.validate, maxClaimTtl]
  rcases lifetimeDecided "claim ttl" 43200 request.ttl with ⟨ttl, checked⟩ | ⟨outside, reason, checked⟩
  · rcases lifetimeDecided "claim grace" 43200 request.grace with ⟨grace, checkedToo⟩ | ⟨outside, reason, checkedToo⟩
    · rw [checked, checkedToo]
      rcases limitDecided request.limit with ⟨limit, passed⟩ | ⟨outside, refused⟩
      · exact .inl ⟨⟨ttl, grace, limit⟩, passed⟩
      · exact .inr ⟨fun valid => outside valid.2.2, refused⟩
    · rw [checked, checkedToo]
      exact .inr ⟨fun valid => outside valid.2.1, reason, rfl⟩
  · rw [checked]
    exact .inr ⟨fun valid => outside valid.1, reason, rfl⟩

theorem renewalDecided (id : ClaimId) (ttl grace : Duration) :
    Decides (ClaimRequest.new ttl grace).validate (Command.renew id ttl grace).Valid := by
  have limit : 1 ≤ (ClaimRequest.new ttl grace).limit ∧ (ClaimRequest.new ttl grace).limit ≤ 20 := by
    simp [ClaimRequest.new, defaultPageLimit]
  rcases claimDecided (.new ttl grace) with ⟨⟨first, second, _⟩, passed⟩ | ⟨invalid, refused⟩
  · exact .inl ⟨⟨first, second⟩, passed⟩
  · exact .inr ⟨fun valid => invalid ⟨valid.1, valid.2, limit⟩, refused⟩

structure Lifetime (greatest : Nat) (given : Duration) (seconds : Nat) : Prop where
  floor : .ofSeconds seconds ≤ given ∧ given < .ofSeconds (seconds + 1)
  least : 60 ≤ seconds
  most : seconds ≤ greatest

theorem lifetimeSent {greatest : Nat} {given : Duration} (within : Within greatest given) :
    Lifetime greatest given given.seconds := by
  have unit : 0 < Duration.nanosPerSecond := by decide
  exact {
    floor := ⟨Nat.div_mul_le_self _ _, (Nat.div_lt_iff_lt_mul unit).mp (Nat.lt_succ_self _)⟩
    least := (Nat.le_div_iff_mul_le unit).mpr within.1
    most := Nat.div_le_of_le_mul (Nat.mul_comm greatest _ ▸ within.2) }

namespace Remote

def Bodied : Command → Option Json → Prop
  | .post drafts, body =>
    body = some (.array (drafts.map fun d => .object [("body", d.body), ("ttl", .ofNat d.ttl.seconds)])) ∧
      ∀ d ∈ drafts, Lifetime 1209600 d.ttl d.ttl.seconds
  | .claim request, body =>
    body = some (.object [("grace", .ofNat request.grace.seconds), ("ttl", .ofNat request.ttl.seconds)]) ∧
      Lifetime 43200 request.ttl request.ttl.seconds ∧ Lifetime 43200 request.grace request.grace.seconds
  | .renew _ ttl grace, body =>
    body = some (.object [("grace", .ofNat grace.seconds), ("ttl", .ofNat ttl.seconds)]) ∧
      Lifetime 43200 ttl ttl.seconds ∧ Lifetime 43200 grace grace.seconds
  | _, body => body = none

def Limited (query : QueryPairs) : Prop := ∀ v, ("limit", v) ∈ query → ∃ n, v = toString n ∧ 1 ≤ n ∧ n ≤ 20

structure Proper (q : Remote) (command : Command) (request : Request) : Prop where
  client : request.headers = [("Client-ID", q.client.text)]
  address : ∃ suffix, request.path = "/v1/queues/" ++ q.name ++ "/" ++ suffix
  limited : Limited request.query
  bodied : Bodied command request.body

def Followed (q : Remote) : Command → Request → Outcome Response → List (Request × Outcome Response) → Prop
  | .deleteByClaim id _, first, .error (.forbidden _), rest =>
    first.path = q.messagePath id ∧ ∃ again reply, rest = [(again, reply)] ∧
      again.method = .get ∧ again.path = first.path ∧ again.query = []
  | _, _, _, rest => rest = []

inductive Conduct (q : Remote) : Command → Dialogue Answer → Prop
  | refused {command} (invalid : ¬ command.Valid) (reason : InvalidArgument) :
      Conduct q command (.fail (.invalidArgument reason))
  | idle {command} (valid : command.Valid) (idle : command.isIdle) (answer : Outcome Answer) :
      Conduct q command (.done answer)
  | single {command request} (valid : command.Valid) (busy : ¬ command.isIdle) (proper : Proper q command request)
      (read : Outcome Response → Outcome Answer) (alone : ∀ reply, Followed q command request reply []) :
      Conduct q command (.once request read)
  | explained {id claim first next} (proper : Proper q (.deleteByClaim id claim) first)
      (path : first.path = q.messagePath id)
      (settled : ∀ reply, (∀ text, reply ≠ .error (.forbidden text)) → ∃ answer, next reply = .done answer)
      (again : ∀ text, ∃ second read, next (.error (.forbidden text)) = .once second read ∧
        Proper q (.deleteByClaim id claim) second ∧ second.method = .get ∧ second.path = first.path ∧
        second.query = []) : Conduct q (.deleteByClaim id claim) (.ask first next)

variable {q : Remote} {command : Command}

theorem pathUnder (q : Remote) (suffix : String) : q.path suffix = "/v1/queues/" ++ q.name ++ "/" ++ suffix := by
  have root : apiPrefix ++ "/" = "/v1/queues/" := by decide
  rw [path, root]

theorem proper {method : Method} {suffix : String} {query : QueryPairs} {body : Option Json}
    (limited : Limited query) (bodied : Bodied command body) :
    Proper q command
      (Request.header ⟨method, q.path suffix, query, [], body, none, none⟩ clientIdHeader q.client.text) :=
  ⟨rfl, ⟨suffix, q.pathUnder suffix⟩, limited, bodied⟩

theorem unlimited : Limited [] := fun _ member => nomatch member

theorem unlimitedBy {key : String} (other : key ≠ "limit") (value : String) : Limited [(key, value)] :=
  fun _ member => absurd (congrArg Prod.fst (List.mem_singleton.mp member)).symm other

theorem limitedBy {limit : Nat} (within : 1 ≤ limit ∧ limit ≤ 20) : Limited [("limit", toString limit)] :=
  fun _ member => ⟨limit, congrArg Prod.snd (List.mem_singleton.mp member), within⟩

theorem idleConduct {α : Type} {result : Outcome α} {f : α → Answer} (valid : command.Valid) (idle : command.isIdle) :
    Conduct q command ((Dialogue.done result).map f) :=
  .idle valid idle _

theorem singleConduct {α : Type} {request : Request} {read : Outcome Response → Outcome α} {f : α → Answer}
    (valid : command.Valid) (busy : ¬ command.isIdle)
    (proper : Proper q command (request.header clientIdHeader q.client.text))
    (alone : ∀ first reply, Followed q command first reply []) :
    Conduct q command ((q.once request read).map f) :=
  .single valid busy proper _ (alone _)

theorem checkedConduct {α : Type} {check : Outcome Unit} {request : Request} {read : Outcome Response → Outcome α}
    {f : α → Answer} (decided : Decides check command.Valid) (busy : ¬ command.isIdle)
    (proper : command.Valid → Proper q command (request.header clientIdHeader q.client.text))
    (alone : ∀ first reply, Followed q command first reply []) :
    Conduct q command ((Dialogue.checked check (q.once request read)).map f) := by
  rcases decided with ⟨valid, rfl⟩ | ⟨invalid, reason, rfl⟩
  · exact singleConduct valid busy (proper valid) alone
  · exact .refused invalid reason

theorem draftWritten (d : Draft) : d.toJson = .object [("body", d.body), ("ttl", .ofNat d.ttl.seconds)] := by
  have order : ("body" : String) < "ttl" := by decide
  simp [Draft.toJson, Json.record, Json.Members.ofList, Json.Members.put, order]

theorem requestWritten (request : ClaimRequest) :
    request.toJson = .object [("grace", .ofNat request.grace.seconds), ("ttl", .ofNat request.ttl.seconds)] := by
  have order : ("grace" : String) < "ttl" := by decide
  simp [ClaimRequest.toJson, Json.record, Json.Members.ofList, Json.Members.put, order]

theorem queryLimited {options : StreamOptions} (valid : (Command.streamPage options).Valid) :
    Limited options.query := by
  intro v member
  have given : ∃ n, options.limit = some n ∧ v = toString n := by
    cases given : options.limit with
    | none => simp [StreamOptions.query, given] at member
    | some n => exact ⟨n, rfl, by simpa [StreamOptions.query, given] using member⟩
  obtain ⟨n, given, rfl⟩ := given
  exact ⟨n, rfl, valid n given⟩

theorem conduct (q : Remote) (command : Command) : Conduct q command (q.perform command) := by
  cases command with
  | post drafts =>
    rw [perform, post]
    split
    · rename_i none
      cases List.isEmpty_iff.mp none
      exact idleConduct (fun _ member => nomatch member) rfl
    · rename_i some
      refine checkedConduct (draftsDecided drafts) some (fun valid => proper unlimited ⟨?_, ?_⟩) fun _ _ => rfl
      · rw [funext draftWritten]
      · exact fun d member => lifetimeSent (valid d member)
  | streamPage options =>
    rw [perform, streamPage]
    exact checkedConduct (optionsDecided options) Bool.false_ne_true (fun valid => proper (queryLimited valid) rfl)
      fun _ _ => rfl
  | get id =>
    rw [perform, get]
    exact singleConduct trivial Bool.false_ne_true (proper unlimited rfl) fun _ _ => rfl
  | list ids =>
    rw [perform, list]
    split
    · rename_i none
      exact idleConduct trivial none
    · rename_i some
      exact singleConduct trivial some (proper (unlimitedBy (by decide) _) rfl) fun _ _ => rfl
  | delete id =>
    rw [perform, delete]
    exact singleConduct trivial Bool.false_ne_true (proper unlimited rfl) fun _ _ => rfl
  | deleteMany ids =>
    rw [perform, deleteMany]
    split
    · rename_i none
      exact idleConduct trivial none
    · rename_i some
      exact singleConduct trivial some (proper (unlimitedBy (by decide) _) rfl) fun _ _ => rfl
  | deleteByClaim id claim =>
    rw [perform, deleteByClaim]
    refine .explained (proper (unlimitedBy (by decide) _) rfl) rfl (fun reply unforbidden => ?_)
      fun text => ?_
    · cases reply with
      | ok response => exact ⟨_, rfl⟩
      | error e =>
        cases e with
        | forbidden text => exact absurd rfl (unforbidden text)
        | _ => exact ⟨_, rfl⟩
    · exact ⟨_, _, rfl, proper unlimited rfl, rfl, rfl, rfl⟩
  | claim request =>
    rw [perform, Remote.claim]
    refine checkedConduct (claimDecided request) Bool.false_ne_true
      (fun valid => proper (limitedBy valid.2.2) ⟨?_, lifetimeSent valid.1, lifetimeSent valid.2.1⟩) fun _ _ => rfl
    rw [requestWritten]
  | getClaim id =>
    rw [perform, getClaim]
    exact singleConduct trivial Bool.false_ne_true (proper unlimited rfl) fun _ _ => rfl
  | renew id ttl grace =>
    rw [perform, renew]
    refine checkedConduct (renewalDecided id ttl grace) Bool.false_ne_true
      (fun valid => proper unlimited ⟨?_, lifetimeSent valid.1, lifetimeSent valid.2⟩) fun _ _ => rfl
    rw [requestWritten]
    rfl
  | release id =>
    rw [perform, release]
    exact singleConduct trivial Bool.false_ne_true (proper unlimited rfl) fun _ _ => rfl

structure Exchange where
  command : Command
  answer : Outcome Answer
  sent : List (Request × Outcome Response)

def session {σ : Type} (q : Remote) (execute : Executor σ) : List Command → σ → List Exchange
  | [], _ => []
  | command :: rest, s =>
    let (answer, s, sent) := (q.perform command).run (logged execute) (s, [])
    ⟨command, answer, sent⟩ :: q.session execute rest s

structure Disciplined (q : Remote) (e : Exchange) : Prop where
  proper : ∀ request ∈ e.sent.map (·.1), Proper q e.command request
  refused : ¬ e.command.Valid → e.sent = [] ∧ ∃ reason, e.answer = .error (.invalidArgument reason)
  idle : e.command.isIdle → e.sent = []
  asked : e.command.Valid → ¬ e.command.isIdle →
    ∃ request reply rest, e.sent = (request, reply) :: rest ∧ Followed q e.command request reply rest

theorem followedAlone {id : MessageId} {claim : ClaimId} {reply : Outcome Response} (first : Request)
    (unforbidden : ∀ text, reply ≠ .error (.forbidden text)) :
    Followed q (.deleteByClaim id claim) first reply [] := by
  unfold Followed
  split
  · exact absurd rfl (unforbidden _)
  · rfl

theorem disciplinedWhenAsked {answer : Outcome Answer} {first : Request} {reply : Outcome Response}
    {rest : List (Request × Outcome Response)} (valid : command.Valid) (busy : ¬ command.isIdle)
    (proper : ∀ request ∈ first :: rest.map (·.1), Proper q command request)
    (followed : Followed q command first reply rest) : Disciplined q ⟨command, answer, (first, reply) :: rest⟩ where
  proper := proper
  refused invalid := absurd valid invalid
  idle idle := absurd idle busy
  asked _ _ := ⟨first, reply, rest, rfl, followed⟩

theorem Conduct.disciplined {σ : Type} {d : Dialogue Answer} (conduct : Conduct q command d) (execute : Executor σ)
    (s : σ) :
    let ran := d.run (logged execute) (s, [])
    Disciplined q ⟨command, ran.1, ran.2.2⟩ := by
  cases conduct with
  | refused invalid reason =>
    exact ⟨List.forall_mem_nil _, fun _ => ⟨rfl, reason, rfl⟩, fun _ => rfl, fun valid => absurd valid invalid⟩
  | idle valid idle answer =>
    exact ⟨List.forall_mem_nil _, fun invalid => absurd valid invalid, fun _ => rfl, fun _ busy => absurd idle busy⟩
  | single valid busy proper read alone =>
    exact disciplinedWhenAsked valid busy (List.forall_mem_singleton.mpr proper) (alone _)
  | @explained id claim first next proper path settled again =>
    let reply := (execute first s).1
    let rest (reply : Outcome Response) := (next reply).run (logged execute) ((execute first s).2, [(first, reply)])
    change Disciplined q ⟨.deleteByClaim id claim, (rest reply).1, (rest reply).2.2⟩
    -- From here on only the first reply decides whether there is a second request.
    by_cases forbidden : ∃ text, reply = .error (.forbidden text)
    · obtain ⟨text, refused⟩ := forbidden
      obtain ⟨second, read, goes, properToo, get, same, bare⟩ := again text
      have sent : (rest (.error (.forbidden text))).2.2 =
          [(first, .error (.forbidden text)), (second, (execute second (execute first s).2).1)] := by
        simp only [rest, goes]
        rfl
      rw [refused, sent]
      refine disciplinedWhenAsked trivial Bool.false_ne_true ?_ ⟨path, second, _, rfl, get, same, bare⟩
      exact List.forall_mem_cons.mpr ⟨proper, List.forall_mem_singleton.mpr properToo⟩
    · have unforbidden : ∀ text, reply ≠ .error (.forbidden text) := fun text same => forbidden ⟨text, same⟩
      obtain ⟨answer, done⟩ := settled reply unforbidden
      have sent : (rest reply).2.2 = [(first, reply)] := by
        simp only [rest, done]
        rfl
      rw [sent]
      exact disciplinedWhenAsked trivial Bool.false_ne_true (List.forall_mem_singleton.mpr proper)
        (followedAlone first unforbidden)

theorem sessionDisciplined {σ : Type} (q : Remote) (execute : Executor σ) (commands : List Command) (s : σ) :
    ∀ e ∈ q.session execute commands s, Disciplined q e := by
  induction commands generalizing s with
  | nil => exact List.forall_mem_nil _
  | cons command commands ih => exact List.forall_mem_cons.mpr ⟨(q.conduct command).disciplined execute s, ih _⟩

theorem forbiddenDisciplined :
    let q : Remote := ⟨"demo", ⟨"p"⟩, rfl⟩
    let execute : Executor Unit := fun _ s => (.error (.forbidden "held"), s)
    let batch : List Draft := [⟨.ofSeconds 60, .null⟩, ⟨.ofSeconds 59, .null⟩]
    let commands : List Command := [.deleteByClaim ⟨"m"⟩ ⟨"c"⟩, .post batch, .release ⟨"c"⟩]
    let session := q.session execute commands ()
    session.map (·.sent.length) = [2, 0, 1] ∧ ∃ e ∈ session, e.sent.length = 2 ∧ Disciplined q e := by
  intro q execute batch commands session
  exact ⟨by decide, _, List.mem_cons_self, rfl, sessionDisciplined q execute commands () _ List.mem_cons_self⟩

end Remote
end Queue
end CloudClient
