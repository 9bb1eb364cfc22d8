import CloudClient.Duration
import CloudClient.Error
import CloudClient.Json.Decoder
/-! How often and how soon a failed request is sent again. -/
namespace CloudClient.Http

inductive Backoff
  | constant
  | linear
  | exponential
  deriving DecidableEq, Repr, Inhabited

namespace Backoff

def name : Backoff → String
  | constant => "constant"
  | linear => "linear"
  | exponential => "exponential"

def all : List Backoff := [constant, linear, exponential]

def decoder : Json.Decoder Backoff := Json.Decoder.choice (all.map fun b => (b.name, b))

def maxFactor : Nat := UInt32.size - 1

def factor (b : Backoff) (attempt : Nat) : Nat :=
  match b with
  | constant => 1
  | linear => attempt + 1
  | exponential => if attempt < 32 then Nat.pow 2 attempt else maxFactor

end Backoff

structure RetryPolicy where
  /-- Settings give it 32 bits; what is said of retries holds of any number of them. -/
  maxRetries : Nat
  backoff : Backoff
  initialDelay : Duration
  maxDelay : Duration
  deriving DecidableEq, Repr

namespace RetryPolicy

def standard : RetryPolicy := ⟨3, .exponential, .ofMillis 100, .ofSeconds 60⟩

def none : RetryPolicy := { standard with maxRetries := 0 }

def delay? (p : RetryPolicy) (attempt : Nat) : Option Duration :=
  (p.initialDelay.scale (p.backoff.factor attempt)).checked.map (min · p.maxDelay)

def delay (p : RetryPolicy) (attempt : Nat) : Duration := (p.delay? attempt).getD p.maxDelay

def validate (p : RetryPolicy) : Outcome Unit :=
  if p.maxDelay < p.initialDelay then
    .error (.config ("initial backoff " ++ p.initialDelay.text ++ " exceeds max backoff " ++
      p.maxDelay.text))
  else .ok ()

end RetryPolicy
end CloudClient.Http
