import CloudClient.Http.Dialogue
import CloudClient.Http.Limiter
import CloudClient.Http.Retry
import CloudClient.Json.Writer
import CloudClient.Text.Basic
/-! The client of one provider. It hands a request to a `Transport` until an attempt settles it or no
retry is left, and classifies the last attempt. The transport stands for the connection and all that it
adds of its own; a request that it cannot send is a broken attempt. -/
namespace CloudClient.Http

def defaultAgent : String := "nimbus/0.1.0"

structure Config where
  baseUrl : Option String
  timeout : Duration
  retry : RetryPolicy
  rateLimit : Option RateLimit
  defaultHeaders : Headers
  userAgent : String
  deriving Repr

namespace Config

def standard : Config where
  baseUrl := none
  timeout := .ofSeconds 30
  retry := .standard
  rateLimit := some .standard
  defaultHeaders := []
  userAgent := defaultAgent

def validate (c : Config) : Outcome Unit :=
  match c.baseUrl.map (Url.parse none) with
  | some (.error cause) => .error (.invalidUrl cause)
  | _ => c.retry.validate

end Config

def isHeaderValue (s : String) : Bool :=
  s.toList.all fun c => c == '\t' || (0x20 ≤ c.toNat && c.toNat != 0x7F)

structure Outgoing where
  method : Method
  url : String
  query : QueryPairs
  headers : List (String × String)
  body : Option String
  timeout : Duration
  agent : String
  deriving DecidableEq, Repr

inductive Attempt
  | reply (status : Nat) (headers : List (String × String)) (body : Option String)
  | timedOut
  | notConnected
  | broken
  deriving DecidableEq, Repr

abbrev Transport (τ : Type) := Outgoing → τ → Attempt × τ

structure Client where
  config : Config

namespace Client

def new (config : Config) : Outcome Client :=
  match config.validate with
  | .error e => .error e
  | .ok () =>
    if isHeaderValue config.userAgent then .ok ⟨config⟩ else .error (.transport .unsendable)

def limiter (c : Client) : Option Limiter := c.config.rateLimit.map Limiter.new

def trimSlashesRight (s : List Char) : List Char := (s.reverse.dropWhile (· == '/')).reverse

def hasScheme (path : List Char) : Bool :=
  "http://".toList.isPrefixOf path || "https://".toList.isPrefixOf path

def fullUrl (c : Client) (path : String) : String :=
  if hasScheme path.toList then path
  else match c.config.baseUrl with
    | none => path
    | some base =>
      String.ofList (trimSlashesRight base.toList ++ '/' :: path.toList.dropWhile (· == '/'))

def outgoing (c : Client) (r : Request) : Outgoing where
  method := r.method
  url := c.fullUrl r.path
  query := r.query
  headers := c.config.defaultHeaders ++ r.headers
  body := r.body.map Json.write
  timeout := r.timeout.getD c.config.timeout
  agent := c.config.userAgent

def isRetryableStatus (status : Nat) : Bool :=
  [429, 500, 502, 503, 504, 520, 521, 522, 523, 524].contains status

def isSuccess (status : Nat) : Bool := 200 ≤ status && status ≤ 299

def isVisible (s : String) : Bool :=
  s.toList.all fun c => c == '\t' || (0x20 ≤ c.toNat && c.toNat < 0x7F)

def retryAfter? (headers : List (String × String)) : Option Nat :=
  match headers.find? (·.1.toLower == "retry-after") with
  | some (_, value) => if isVisible value then Text.nat64? value else none
  | none => none

def isTransient : Attempt → Bool
  | .reply status _ _ => isRetryableStatus status
  | .timedOut | .notConnected => true
  | .broken => false

def delayAfter (p : RetryPolicy) (attempt : Nat) : Attempt → Duration
  | .reply status headers _ =>
    if status = 429 then
      match retryAfter? headers with
      | some seconds => min (Duration.ofSeconds seconds) p.maxDelay
      | none => min (p.delay attempt) p.maxDelay
    else p.delay attempt
  | _ => p.delay attempt

def response (status : Nat) (headers : List (String × String)) (body : String) : Response :=
  Response.withHeaders (.new status body) (headers.filter fun h => isVisible h.2)

def classify (r : Request) (timeout : Duration) : Attempt → Outcome Response
  | .reply status headers body =>
    if isSuccess status then
      match body with
      | some body => .ok (response status headers body)
      | none => .error (.transport .broken)
    else if status = 404 then .error (.notFound (r.method.name ++ " " ++ r.path))
    else .error (.ofStatus status (body.getD "") (retryAfter? headers))
  | .timedOut => .error (.timeout (timeout.millis % UInt64.size))
  | .notConnected => .error (.transport .notConnected)
  | .broken => .error (.transport .broken)

def lost? (timeout : Duration) : Attempt → Option Error
  | .timedOut => some (.timeout (timeout.millis % UInt64.size))
  | .notConnected => some (.transport .notConnected)
  | _ => none

structure Exchange (τ : Type) where
  result : Outcome Response
  delays : List Duration
  state : τ

/-- Sends a request from attempt number `attempt` on, and again while that number is below `most`.
`lost` is the error of the last attempt so far that no reply came back for. -/
def attempts {τ : Type} (deliver : Transport τ) (p : RetryPolicy) (r : Request) (out : Outgoing)
    (most attempt : Nat) (lost : Option Error) (t : τ) : Exchange τ :=
  if attempt ≤ most then
    let (outcome, t) := deliver out t
    if isTransient outcome && attempt < most then
      let rest := attempts deliver p r out most (attempt + 1) ((lost? out.timeout outcome).or lost) t
      ⟨rest.result, delayAfter p attempt outcome :: rest.delays, rest.state⟩
    else ⟨classify r out.timeout outcome, [], t⟩
  else ⟨.error (lost.getD (.maxRetriesExceeded most)), [], t⟩
termination_by most + 1 - attempt

def retriesFor (c : Client) (r : Request) : Nat := r.retries.getD c.config.retry.maxRetries

def exchange {τ : Type} (c : Client) (deliver : Transport τ) (r : Request) (t : τ) : Exchange τ :=
  attempts deliver c.config.retry r (c.outgoing r) (c.retriesFor r) 0 none t

def execute {τ : Type} (c : Client) (deliver : Transport τ) : Executor τ := fun r t =>
  let exchange := c.exchange deliver r t
  (exchange.result, exchange.state)

end Client
end CloudClient.Http
