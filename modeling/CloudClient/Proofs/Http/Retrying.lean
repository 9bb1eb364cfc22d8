import CloudClient.Http.Client
import CloudClient.Proofs.Text.Digits
/-! A request is sent again as long as its attempts fail in passing and retries are left. For every script
of outcomes the whole exchange is known in advance: which attempt settles the request, what was sent, how
long was waited, and that the result is what the settling attempt says. -/
namespace CloudClient

theorem Duration.minLeRight (a b : Duration) : min a b ≤ b := Nat.min_le_right _ _

namespace Http

theorem RetryPolicy.delayBounded (p : RetryPolicy) (attempt : Nat) : p.delay attempt ≤ p.maxDelay := by
  unfold delay delay?
  cases (p.initialDelay.scale (p.backoff.factor attempt)).checked with
  | none => exact Nat.le_refl _
  | some d => exact Duration.minLeRight d p.maxDelay

theorem RetryPolicy.delayOf {p : RetryPolicy} {attempt : Nat} (inRange : (p.delay? attempt).isSome) :
    p.delay? attempt = some (p.delay attempt) := by
  obtain ⟨d, is⟩ := Option.isSome_iff_exists.mp inRange
  rw [delay, is, Option.getD_some]

variable {headers : List (String × String)} {seconds : Nat}

def Readable (value : String) : Prop := ∀ c ∈ value.toList, c = '\t' ∨ (0x20 ≤ c.toNat ∧ c.toNat < 0x7F)

instance (value : String) : Decidable (Readable value) :=
  inferInstanceAs (Decidable (∀ c ∈ value.toList, c = '\t' ∨ (0x20 ≤ c.toNat ∧ c.toNat < 0x7F)))

inductive Asks : List (String × String) → Nat → Prop
  | first {name value rest seconds} (named : name.toLower = "retry-after") (number : Text.Decimal value seconds) :
      Asks ((name, value) :: rest) seconds
  | later {h rest seconds} (other : h.1.toLower ≠ "retry-after") (asks : Asks rest seconds) : Asks (h :: rest) seconds

namespace Client

theorem visibleIff (value : String) : isVisible value ↔ Readable value := by
  simp [isVisible, Readable]

theorem decimalReadable {value : String} (number : Text.Decimal value seconds) : Readable value := by
  obtain ⟨digits, written, -, decimal, -⟩ := number.written
  have digit {c : Char} (member : c ∈ digits) : 0x20 ≤ c.toNat ∧ c.toNat < 0x7F := by
    obtain ⟨least, most⟩ := Char.isDigit_iff_toNat.mp (decimal c member)
    exact ⟨Nat.le_trans (by decide) least, Nat.lt_of_le_of_lt most (by decide)⟩
  rcases written with plain | signed
  · exact fun c member => .inr (digit (plain ▸ member))
  · rw [Readable, signed]
    exact List.forall_mem_cons.mpr ⟨.inr (by decide), fun c member => .inr (digit member)⟩

-- the first header of the name decides: one that holds no number hides all behind it
theorem retryAfterIff : retryAfter? headers = some seconds ↔ Asks headers seconds := by
  induction headers with
  | nil => exact ⟨fun found => (by cases found), fun asks => (by cases asks)⟩
  | cons h rest ih =>
    unfold retryAfter? at ih ⊢
    by_cases named : h.1.toLower = "retry-after"
    · have number : (if isVisible h.2 then Text.nat64? h.2 else none) = some seconds ↔ Text.Decimal h.2 seconds := by
        rw [← Text.nat64Iff]
        refine ⟨fun read => ?_, fun read => (if_pos ((visibleIff _).mpr (decimalReadable (Text.nat64Iff.mp read)))).trans read⟩
        split at read
        · exact read
        · nomatch read
      simp only [List.find?_cons, named, beq_self_eq_true]
      refine number.trans ⟨.first named, fun asks => ?_⟩
      cases asks with
      | first _ number => exact number
      | later other _ => exact absurd named other
    · have other : (h.1.toLower == "retry-after") = false := beq_false_of_ne named
      simp only [List.find?_cons, other]
      refine ih.trans ⟨.later named, fun asks => ?_⟩
      cases asks with
      | first here _ => exact absurd here named
      | later _ asks => exact asks

inductive Passing : Attempt → Prop
  | busy {status headers body} (listed : status ∈ [429, 500, 502, 503, 504, 520, 521, 522, 523, 524]) :
      Passing (.reply status headers body)
  | timedOut : Passing .timedOut
  | notConnected : Passing .notConnected

theorem retryableListed (status : Nat) :
    isRetryableStatus status ↔ status ∈ [429, 500, 502, 503, 504, 520, 521, 522, 523, 524] := by
  simp only [isRetryableStatus, List.contains_iff_mem]

theorem passingIff (outcome : Attempt) : isTransient outcome ↔ Passing outcome := by
  cases outcome with
  | reply status headers body =>
    refine (retryableListed status).trans ⟨.busy, fun passing => ?_⟩
    cases passing with
    | busy listed => exact listed
  | timedOut => exact iff_of_true rfl .timedOut
  | notConnected => exact iff_of_true rfl .notConnected
  | broken =>
    refine iff_of_false (by decide) fun passing => ?_
    cases passing

inductive Waits (p : RetryPolicy) (i : Nat) : Attempt → Duration → Prop
  | asked {headers body seconds} (asks : Asks headers seconds) :
      Waits p i (.reply 429 headers body) (min (.ofSeconds seconds) p.maxDelay)
  | own {outcome d} (unasked : ∀ headers body seconds, outcome = .reply 429 headers body → ¬ Asks headers seconds)
      (delay : p.delay? i = some d) : Waits p i outcome d

theorem Waits.policy {p : RetryPolicy} {i : Nat} {outcome : Attempt} {d : Duration} (waits : Waits p i outcome d)
    (unasked : ∀ headers body seconds, outcome = .reply 429 headers body → ¬ Asks headers seconds) :
    p.delay? i = some d := by
  cases waits with
  | asked asks => exact absurd asks (unasked _ _ _ rfl)
  | own _ delay => exact delay

theorem delayWaited {p : RetryPolicy} {i : Nat} (inRange : (p.delay? i).isSome) (outcome : Attempt) :
    Waits p i outcome (delayAfter p i outcome) := by
  have own := RetryPolicy.delayOf inRange
  cases outcome with
  | reply status headers body =>
    by_cases limited : status = 429
    · subst limited
      cases retry : retryAfter? headers with
      | some seconds =>
        simp only [delayAfter, if_pos, retry]
        exact .asked (retryAfterIff.mp retry)
      | none =>
        have bounded : min (p.delay i) p.maxDelay = p.delay i :=
          congrArg Duration.mk (Nat.min_eq_left (p.delayBounded i))
        simp only [delayAfter, if_pos, retry, bounded]
        refine .own (fun _ _ seconds same asks => ?_) own
        cases same
        simp [retryAfterIff.mpr asks] at retry
    · simp only [delayAfter, if_neg limited]
      refine .own (fun _ _ _ same => ?_) own
      cases same
      exact absurd rfl limited
  | timedOut | notConnected | broken =>
    refine .own (fun _ _ _ same => ?_) own
    cases same

theorem delayAfterBounded (p : RetryPolicy) (attempt : Nat) (outcome : Attempt) :
    delayAfter p attempt outcome ≤ p.maxDelay := by
  unfold delayAfter
  split
  · split
    · split <;> exact Duration.minLeRight _ _
    · exact p.delayBounded attempt
  · exact p.delayBounded attempt

variable {τ : Type} {deliver : Transport τ} {p : RetryPolicy} {r : Request} {out : Outgoing}
  {most attempt : Nat} {lost : Option Error} {t : τ}

theorem attemptsAgain (transient : isTransient (deliver out t).1) (left : attempt < most) :
    attempts deliver p r out most attempt lost t =
      let rest := attempts deliver p r out most (attempt + 1)
        ((lost? out.timeout (deliver out t).1).or lost) (deliver out t).2
      ⟨rest.result, delayAfter p attempt (deliver out t).1 :: rest.delays, rest.state⟩ := by
  have goes : (isTransient (deliver out t).1 && decide (attempt < most)) = true := by simp [transient, left]
  rw [attempts, if_pos (Nat.le_of_lt left)]
  exact if_pos goes

theorem attemptsSettled (inside : attempt ≤ most) (settled : attempt = most ∨ ¬ isTransient (deliver out t).1) :
    attempts deliver p r out most attempt lost t =
      ⟨classify r out.timeout (deliver out t).1, [], (deliver out t).2⟩ := by
  have stops : ¬ (isTransient (deliver out t).1 && decide (attempt < most)) = true := by
    rcases settled with rfl | final
    · simp
    · simp [final]
  rw [attempts, if_pos inside]
  exact if_neg stops

def scripted (script : Nat → Attempt) : Transport (List Outgoing) := fun out sent =>
  (script sent.length, sent ++ [out])

def settling (script : Nat → Attempt) (most : Nat) : Nat :=
  ((List.range most).find? fun i => !isTransient (script i)).getD most

structure Settles (script : Nat → Attempt) (most k : Nat) : Prop where
  allowed : k ≤ most
  earlier : ∀ i < k, Passing (script i)
  final : k = most ∨ ¬ Passing (script k)

variable {script : Nat → Attempt}

theorem settlingSettles (script : Nat → Attempt) (most : Nat) : Settles script most (settling script most) := by
  unfold settling
  cases found : (List.range most).find? fun i => !isTransient (script i) with
  | none =>
    have all := List.find?_eq_none.mp found
    exact ⟨Nat.le_refl _, fun i below => (passingIff _).mp (by simpa using all i (List.mem_range.mpr below)), .inl rfl⟩
  | some k =>
    obtain ⟨final, inside, earlier⟩ := List.find?_range_eq_some.mp found
    exact ⟨Nat.le_of_lt (List.mem_range.mp inside), fun i below => (passingIff _).mp (by simpa using earlier i below),
      .inr fun passing => absurd ((passingIff (script k)).mpr passing) (by simpa using final)⟩

-- by induction on the attempts before the settling one; what was lost in these plays no part
theorem attemptsScripted {k : Nat} (settles : Settles script most k) (lost : Option Error) (sent : List Outgoing)
    (numbered : sent.length = attempt) (reached : attempt ≤ k) :
    attempts (scripted script) p r out most attempt lost sent =
      ⟨classify r out.timeout (script k), (List.range' attempt (k - attempt)).map fun i => delayAfter p i (script i),
        sent ++ List.replicate (k + 1 - attempt) out⟩ := by
  have delivered : scripted script out sent = (script attempt, sent ++ [out]) := by rw [scripted, numbered]
  induction left : k - attempt generalizing attempt lost sent with
  | zero =>
    have here : attempt = k := by omega
    subst here
    have final := settles.final.imp_right (mt (passingIff _).mp)
    rw [attemptsSettled settles.allowed (delivered ▸ final), delivered, Nat.add_sub_cancel_left]
    rfl
  | succ left ih =>
    have before : attempt < k := by omega
    have longer : (sent ++ [out]).length = attempt + 1 := by rw [List.length_append, numbered]; rfl
    have again := ih ((lost? out.timeout (script attempt)).or lost) (sent ++ [out]) longer before
      (by rw [scripted, longer]) (by omega)
    have fewer : k + 1 - attempt = k + 1 - (attempt + 1) + 1 := by omega
    have transient := (passingIff _).mpr (settles.earlier attempt before)
    rw [attemptsAgain (delivered ▸ transient) (Nat.lt_of_lt_of_le before settles.allowed), delivered, again,
      List.range'_succ, List.map_cons, fewer, List.replicate_succ]
    simp only [List.append_assoc, List.singleton_append]

variable {c : Client}

theorem exchangeScripted (c : Client) (r : Request) (script : Nat → Attempt) :
    let k := settling script (c.retriesFor r)
    c.exchange (scripted script) r [] =
      ⟨classify r (c.outgoing r).timeout (script k),
        (List.range k).map fun i => delayAfter c.config.retry i (script i), List.replicate (k + 1) (c.outgoing r)⟩ := by
  have settles := settlingSettles script (c.retriesFor r)
  unfold exchange
  dsimp only
  rw [List.range_eq_range']
  exact attemptsScripted settles none [] rfl (Nat.zero_le _)

inductive Addressed : Option String → String → String → Prop
  | absolute {base path} (scheme : "http://".toList <+: path.toList ∨ "https://".toList <+: path.toList) :
      Addressed base path path
  | unbased {path} : Addressed none path path
  | joined {base path front back m n}
      (relative : ¬ ("http://".toList <+: path.toList ∨ "https://".toList <+: path.toList))
      (before : base.toList = front ++ List.replicate m '/') (trimmed : front.getLast? ≠ some '/')
      (behind : path.toList = List.replicate n '/' ++ back) (bare : back.head? ≠ some '/') :
      Addressed (some base) path (String.ofList (front ++ '/' :: back))

theorem slashesDropped (s : List Char) :
    (s.dropWhile (· == '/')).head? ≠ some '/' ∧ ∃ n, s = List.replicate n '/' ++ s.dropWhile (· == '/') := by
  refine ⟨fun slash => ?_, (s.takeWhile (· == '/')).length, ?_⟩
  · have other := List.head?_dropWhile_not (· == '/') s
    rw [slash] at other
    nomatch other
  · have all : s.takeWhile (· == '/') = List.replicate (s.takeWhile (· == '/')).length '/' :=
      List.eq_replicate_iff.mpr ⟨rfl, fun c member => eq_of_beq (List.all_eq_true.mp List.all_takeWhile c member)⟩
    rw [← all, List.takeWhile_append_dropWhile]

theorem urlAddressed (c : Client) (path : String) : Addressed c.config.baseUrl path (c.fullUrl path) := by
  have scheme : hasScheme path.toList ↔ "http://".toList <+: path.toList ∨ "https://".toList <+: path.toList := by
    simp only [hasScheme, Bool.or_eq_true, List.isPrefixOf_iff_prefix]
  unfold fullUrl
  split
  · rename_i absolute
    exact .absolute (scheme.mp absolute)
  · rename_i relative
    cases based : c.config.baseUrl with
    | none => exact .unbased
    | some base =>
      obtain ⟨bare, n, behind⟩ := slashesDropped path.toList
      obtain ⟨trimmed, m, before⟩ := slashesDropped base.toList.reverse
      refine .joined (m := m) (mt scheme.mpr relative) ?_ ?_ behind bare
      · rw [trimSlashesRight, ← List.reverse_replicate, ← List.reverse_append, ← before, List.reverse_reverse]
      · rw [trimSlashesRight, List.getLast?_reverse]
        exact trimmed

structure Handed (config : Config) (r : Request) (out : Outgoing) : Prop where
  method : out.method = r.method
  url : Addressed config.baseUrl r.path out.url
  query : out.query = r.query
  headers : out.headers = config.defaultHeaders ++ r.headers
  body : out.body = r.body.map Json.write
  timeout : out.timeout = r.timeout.getD config.timeout
  agent : out.agent = config.userAgent

def heard (headers : List (String × String)) (name : String) : Option String :=
  (headers.filter fun h => h.1.toLower = name ∧ Readable h.2).getLast?.map (·.2)

inductive Classified (r : Request) (timeout : Duration) : Attempt → Outcome Response → Prop
  | answered {status headers body} {x : Response} (success : 200 ≤ status ∧ status ≤ 299) (same : x.status = status)
      (whole : x.body = body) (held : ∀ name, x.headers.get? name = heard headers name) :
      Classified r timeout (.reply status headers (some body)) (.ok x)
  | torn {status headers} (success : 200 ≤ status ∧ status ≤ 299) :
      Classified r timeout (.reply status headers none) (.error (.transport .broken))
  | missing {headers body} :
      Classified r timeout (.reply 404 headers body) (.error (.notFound (r.method.name ++ " " ++ r.path)))
  | unauthorized {headers body} :
      Classified r timeout (.reply 401 headers body) (.error (.unauthorized (body.getD "")))
  | forbidden {headers body} : Classified r timeout (.reply 403 headers body) (.error (.forbidden (body.getD "")))
  | limited {headers body seconds} (asks : Asks headers seconds) :
      Classified r timeout (.reply 429 headers body) (.error (.rateLimited seconds))
  | unasked {headers body} (silent : ∀ seconds, ¬ Asks headers seconds) :
      Classified r timeout (.reply 429 headers body) (.error (.rateLimited 60))
  | failing {status headers body} (server : 500 ≤ status ∧ status ≤ 599) :
      Classified r timeout (.reply status headers body) (.error (.serverError status (body.getD "")))
  | other {status headers body} (unsuccessful : ¬ (200 ≤ status ∧ status ≤ 299))
      (unlisted : status ∉ [401, 403, 404, 429]) (elsewhere : ¬ (500 ≤ status ∧ status ≤ 599)) :
      Classified r timeout (.reply status headers body) (.error (.httpStatus status (body.getD "")))
  | timedOut : Classified r timeout .timedOut (.error (.timeout (timeout.millis % UInt64.size)))
  | notConnected : Classified r timeout .notConnected (.error (.transport .notConnected))
  | broken : Classified r timeout .broken (.error (.transport .broken))

theorem withHeadersHeard (x : Response) (headers : List (String × String)) (name : String) :
    (x.withHeaders headers).headers.get? name =
      ((headers.filter fun h => h.1.toLower = name).getLast?.map (·.2)).or (x.headers.get? name) := by
  induction headers generalizing x with
  | nil => rfl
  | cons h rest ih =>
    refine (ih (x.withHeader h.1 h.2)).trans ?_
    rw [Response.withHeader, Headers.get?_set]
    by_cases named : h.1.toLower = name
    · cases last : (rest.filter fun h => h.1.toLower = name).getLast? <;>
        simp [named, List.getLast?_cons, last]
    · simp [named]

theorem withHeadersKept (x : Response) (headers : List (String × String)) :
    (x.withHeaders headers).status = x.status ∧ (x.withHeaders headers).body = x.body := by
  induction headers generalizing x with
  | nil => exact ⟨rfl, rfl⟩
  | cons h rest ih => exact ih (x.withHeader h.1 h.2)

theorem responseHeard (status : Nat) (headers : List (String × String)) (body name : String) :
    (response status headers body).headers.get? name = heard headers name := by
  have none : (Response.new status body).headers.get? name = none := rfl
  rw [response, withHeadersHeard, none, Option.or_none, List.filter_filter, heard]
  simp only [← visibleIff, Bool.decide_and, Bool.decide_eq_true]

theorem classified (r : Request) (timeout : Duration) (outcome : Attempt) :
    Classified r timeout outcome (classify r timeout outcome) := by
  cases outcome with
  | timedOut => exact .timedOut
  | notConnected => exact .notConnected
  | broken => exact .broken
  | reply status headers body =>
    have success : isSuccess status ↔ 200 ≤ status ∧ status ≤ 299 := by
      simp only [isSuccess, Bool.and_eq_true, decide_eq_true_eq]
    unfold classify
    dsimp only
    split
    · rename_i good
      cases body with
      | none => exact .torn (success.mp good)
      | some body =>
        obtain ⟨same, whole⟩ := withHeadersKept (.new status body) (headers.filter fun h => isVisible h.2)
        exact .answered (success.mp good) same whole (responseHeard status headers body)
    · rename_i bad
      split
      · rename_i absent
        exact absent ▸ .missing
      · rename_i present
        unfold Error.ofStatus
        split
        · rename_i is
          exact is ▸ .unauthorized
        · split
          · rename_i is
            exact is ▸ .forbidden
          · split
            · rename_i is
              subst is
              cases asked : retryAfter? headers with
              | some seconds => exact .limited (retryAfterIff.mp asked)
              | none =>
                refine .unasked fun seconds asks => ?_
                simp [retryAfterIff.mpr asks] at asked
            · split
              · rename_i server
                exact .failing server
              · rename_i elsewhere
                exact .other (mt success.mpr bad) (by simp only [List.mem_cons, List.not_mem_nil, or_false]; omega)
                  elsewhere

theorem Classified.ended {timeout : Duration} {outcome : Attempt} {result : Outcome Response}
    (classified : Classified r timeout outcome result) (n : Nat) : result ≠ .error (.maxRetriesExceeded n) := by
  cases classified <;> simp

structure Settled (c : Client) (r : Request) (script : Nat → Attempt) (k : Nat) (out : Outgoing)
    (x : Exchange (List Outgoing)) : Prop where
  settles : Settles script (r.retries.getD c.config.retry.maxRetries) k
  handed : Handed c.config r out
  sent : x.state = List.replicate (k + 1) out
  result : Classified r out.timeout (script k) x.result
  waits : x.delays.length = k
  waited : ∀ i d, x.delays[i]? = some d → Waits c.config.retry i (script i) d
  bounded : ∀ d ∈ x.delays, d ≤ c.config.retry.maxDelay
  ended : ∀ n, x.result ≠ .error (.maxRetriesExceeded n)

theorem retriedUntilSettled (c : Client) (r : Request) (script : Nat → Attempt)
    (inRange : ∀ i < r.retries.getD c.config.retry.maxRetries, (c.config.retry.delay? i).isSome) :
    let x := c.exchange (scripted script) r []
    c.execute (scripted script) r [] = (x.result, x.state) ∧ ∃ k out, Settled c r script k out x := by
  have settles := settlingSettles script (c.retriesFor r)
  refine ⟨rfl, settling script (c.retriesFor r), c.outgoing r, ?_⟩
  have result := classified r (c.outgoing r).timeout (script (settling script (c.retriesFor r)))
  have handed : Handed c.config r (c.outgoing r) := ⟨rfl, urlAddressed c r.path, rfl, rfl, rfl, rfl, rfl⟩
  rw [exchangeScripted c r script]
  refine { settles, handed, result, sent := rfl, waits := ?waits, waited := ?waited, bounded := ?bounded,
           ended := result.ended }
  case waits => rw [List.length_map, List.length_range]
  case waited =>
    intro i d found
    rw [List.getElem?_map] at found
    obtain ⟨j, position, rfl⟩ := Option.map_eq_some_iff.mp found
    obtain ⟨below, rfl⟩ := List.getElem?_eq_some_iff.mp position
    rw [List.length_range] at below
    rw [List.getElem_range]
    exact delayWaited (inRange i (Nat.lt_of_lt_of_le below settles.allowed)) (script i)
  case bounded =>
    intro d member
    obtain ⟨i, _, rfl⟩ := List.mem_map.mp member
    exact delayAfterBounded c.config.retry i (script i)

def oneHost : Client := ⟨{ Config.standard with baseUrl := some "http://h/" }⟩

def oneOutgoing : Outgoing := ⟨.get, "http://h/v1/x", [], [], none, .ofSeconds 30, defaultAgent⟩

def threeOutcomes (i : Nat) : Attempt :=
  [.timedOut, .reply 429 [("Retry-After", "7")] (some "slow down"), .reply 404 [] none].getD i .broken

def lateAnswer (i : Nat) : Attempt :=
  [.notConnected, .reply 200 [("X", "1"), ("x", "2")] (some "hi")].getD i .broken

theorem settledByThirdAttempt :
    let missing := oneHost.exchange (scripted threeOutcomes) (.get "/v1/x") []
    let answered := oneHost.exchange (scripted lateAnswer) (.get "/v1/x") []
    (∀ i < oneHost.config.retry.maxRetries, (oneHost.config.retry.delay? i).isSome) ∧
      (oneHost.execute (scripted threeOutcomes) (.get "/v1/x") [] = (missing.result, missing.state) ∧
        ∃ k out, Settled oneHost (.get "/v1/x") threeOutcomes k out missing) ∧
      (oneHost.execute (scripted lateAnswer) (.get "/v1/x") [] = (answered.result, answered.state) ∧
        ∃ k out, Settled oneHost (.get "/v1/x") lateAnswer k out answered) ∧
      missing = ⟨.error (.notFound "GET /v1/x"), [.ofMillis 100, .ofSeconds 7], List.replicate 3 oneOutgoing⟩ ∧
      answered = ⟨.ok ⟨200, [("x", "2")], "hi"⟩, [.ofMillis 100], List.replicate 2 oneOutgoing⟩ := by
  have inRange : ∀ i < oneHost.config.retry.maxRetries, (oneHost.config.retry.delay? i).isSome := by decide
  refine ⟨inRange, retriedUntilSettled oneHost (.get "/v1/x") threeOutcomes inRange,
    retriedUntilSettled oneHost (.get "/v1/x") lateAnswer inRange, ?_, ?_⟩
  · have asks : retryAfter? [("Retry-After", "7")] = some 7 :=
      retryAfterIff.mpr (.first (lowered rfl) (Text.nat64Iff.mp rfl))
    have third : settling threeOutcomes (oneHost.retriesFor (.get "/v1/x")) = 2 := by decide
    have limited (p : RetryPolicy) : delayAfter p 1 (threeOutcomes 1) = min (.ofSeconds 7) p.maxDelay := by
      simp only [delayAfter, threeOutcomes, List.getD_cons_succ, List.getD_cons_zero, if_pos, asks]
    rw [exchangeScripted, third]
    simp only [List.range_succ, List.range_zero, List.nil_append, List.map_append, List.map_cons, List.map_nil, limited]
    rfl
  · have upper : "X".toLower = "x" := lowered rfl
    have lower : "x".toLower = "x" := lowered rfl
    have held : response 200 [("X", "1"), ("x", "2")] "hi" = ⟨200, [("x", "2")], "hi"⟩ := by
      simp only [response, Response.withHeaders]
      simp [isVisible, Response.withHeader, Response.new, Headers.set, upper, lower]
    have second : settling lateAnswer (oneHost.retriesFor (.get "/v1/x")) = 1 := by decide
    have result (timeout : Duration) : classify (.get "/v1/x") timeout (lateAnswer 1) = .ok ⟨200, [("x", "2")], "hi"⟩ :=
      congrArg Except.ok held
    rw [exchangeScripted, second, result]
    rfl

structure Reply where
  status : Nat
  headers : List (String × String)
  body : Option String

def Reply.outcome (x : Reply) : Attempt := .reply x.status x.headers x.body

def Reply.error (x : Reply) : Error := .ofStatus x.status (x.body.getD "") (retryAfter? x.headers)

/-- The failures of a server that a request is not sent again after, although their error says that
it may be. -/
def isAbandoned (status : Nat) : Bool :=
  status == 501 || (505 ≤ status && status ≤ 519) || (525 ≤ status && status ≤ 599)

theorem retryableIff (status : Nat) (body : String) (retryAfter : Option Nat) :
    (Error.ofStatus status body retryAfter).isRetryable ↔ status = 429 ∨ (500 ≤ status ∧ status ≤ 599) := by
  unfold Error.ofStatus
  repeat' split
  all_goals simp only [Error.isRetryable, Bool.false_eq_true, true_iff, false_iff]; omega

theorem transientIff (x : Reply) : isTransient x.outcome ↔ x.error.isRetryable ∧ ¬ isAbandoned x.status := by
  rw [Reply.error, retryableIff]
  refine (retryableListed x.status).trans ?_
  simp only [List.mem_cons, List.not_mem_nil, or_false, isAbandoned, Bool.or_eq_true, Bool.and_eq_true, beq_iff_eq,
    decide_eq_true_eq]
  omega

theorem refusalClassified {x : Reply} (refused : ¬ isSuccess x.status) (timeout : Duration) :
    ∃ e, classify r timeout x.outcome = .error e ∧ e.isRetryable = x.error.isRetryable := by
  unfold classify
  simp only [Reply.outcome, if_neg refused]
  by_cases missing : x.status = 404
  · have unretried : ¬ x.error.isRetryable = true := by
      rw [Reply.error, retryableIff, missing]
      omega
    exact ⟨_, if_pos missing, (Bool.eq_false_iff.mpr unretried).symm⟩
  · exact ⟨_, if_neg missing, rfl⟩

theorem executeScripted (c : Client) (r : Request) (script : Nat → Attempt) :
    ∃ k, Settles script (c.retriesFor r) k ∧ c.execute (scripted script) r [] =
      (classify r (c.outgoing r).timeout (script k), List.replicate (k + 1) (c.outgoing r)) := by
  refine ⟨_, settlingSettles script _, ?_⟩
  rw [execute, exchangeScripted]

theorem Settles.again {most k : Nat} {replies : Nat → Reply} (settles : Settles (fun n => (replies n).outcome) most k)
    {i : Nat} (sent : i ≤ k) (left : i < most) :
    i < k ↔ (replies i).error.isRetryable ∧ ¬ isAbandoned (replies i).status := by
  rw [← transientIff, passingIff]
  refine ⟨settles.earlier i, fun transient => Nat.lt_of_le_of_ne sent ?_⟩
  rintro rfl
  rcases settles.final with last | final
  · exact absurd last (Nat.ne_of_lt left)
  · exact final transient

theorem resentUnlessAbandoned (c : Client) (r : Request) (replies : Nat → Reply)
    (refused : ∀ n, ¬ isSuccess (replies n).status) :
    let after := c.execute (scripted fun n => (replies n).outcome) r []
    (∀ i < after.2.length, i < c.retriesFor r →
      (i + 1 < after.2.length ↔ (replies i).error.isRetryable ∧ ¬ isAbandoned (replies i).status)) ∧
    ∃ last e, after.2.length = last + 1 ∧ after.1 = .error e ∧ e.isRetryable = (replies last).error.isRetryable ∧
      (e.isRetryable → isAbandoned (replies last).status ∨ after.2.length = c.retriesFor r + 1) := by
  obtain ⟨k, settles, executed⟩ := executeScripted c r fun n => (replies n).outcome
  obtain ⟨e, is, same⟩ := refusalClassified (r := r) (refused k) (c.outgoing r).timeout
  rw [executed]
  simp only [List.length_replicate]
  refine ⟨fun i sent left => ?_, k, e, rfl, is, same, fun retryable => ?_⟩
  · rw [← settles.again (Nat.le_of_lt_succ sent) left]
    exact Nat.add_lt_add_iff_right
  · rcases Nat.lt_or_eq_of_le settles.allowed with left | rfl
    · exact .inl (Decidable.not_not.mp fun kept =>
        Nat.lt_irrefl k ((settles.again (Nat.le_refl k) left).mpr ⟨same ▸ retryable, kept⟩))
    · exact .inr rfl

def busyThenUnable (n : Nat) : Reply := if n = 0 then ⟨503, [], some "busy"⟩ else ⟨501, [], some "unable"⟩

theorem busyThenUnableRefused (n : Nat) : ¬ isSuccess (busyThenUnable n).status := by
  unfold busyThenUnable
  split <;> decide

theorem resentAfterBusyOnly :
    let after := oneHost.execute (scripted fun n => (busyThenUnable n).outcome) (.get "/v1/x") []
    after.2 = List.replicate 2 oneOutgoing ∧ ¬ isSuccess (busyThenUnable 1).status ∧
      (∀ i < after.2.length, i < oneHost.retriesFor (.get "/v1/x") → (i + 1 < after.2.length ↔
        (busyThenUnable i).error.isRetryable ∧ ¬ isAbandoned (busyThenUnable i).status)) ∧
      ∃ last e, after.2.length = last + 1 ∧ after.1 = .error e ∧
        e.isRetryable = (busyThenUnable last).error.isRetryable ∧ (e.isRetryable →
          isAbandoned (busyThenUnable last).status ∨ after.2.length = oneHost.retriesFor (.get "/v1/x") + 1) :=
  ⟨by rw [execute, exchangeScripted]; rfl, busyThenUnableRefused 1,
    resentUnlessAbandoned oneHost (.get "/v1/x") busyThenUnable busyThenUnableRefused⟩

/-- A request is sent once and given up with an error that is retryable, although three retries are left. -/
theorem unableSentOnce :
    oneHost.execute (scripted fun _ => .reply 501 [] (some "unable")) (.get "/v1/x") [] =
        (.error (.ofStatus 501 "unable" none), [oneOutgoing]) ∧
      (Error.ofStatus 501 "unable" none).isRetryable = true ∧ oneHost.retriesFor (.get "/v1/x") = 3 := by
  refine ⟨?_, by decide, by decide⟩
  rw [execute, exchangeScripted]
  rfl

end Client
end Http
end CloudClient
