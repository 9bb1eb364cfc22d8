/-! Client-side throttling: a bucket of permits that refills at a steady rate. -/
namespace CloudClient.Http

structure RateLimit where
  perSecond : Nat
  burst : Nat
  deriving DecidableEq, Repr

namespace RateLimit

def standard : RateLimit := ⟨10, 10⟩

def strict : RateLimit := ⟨1, 1⟩

def interval (limit : RateLimit) : Nat := 1000000000 / max 1 limit.perSecond

end RateLimit

/-- Permits in the bucket, at most as many as one burst. One that refills at once has each permit
back before the next is asked for. -/
structure Limiter where
  capacity : Nat
  available : Nat
  available_le : available ≤ capacity
  atOnce : Bool
  deriving DecidableEq, Repr

namespace Limiter

/-- A full bucket. A burst of none would admit nothing, so it counts as one; an interval of at most
a nanosecond is over before the next request. -/
def new (limit : RateLimit) : Limiter :=
  ⟨max 1 limit.burst, max 1 limit.burst, Nat.le_refl _, limit.interval ≤ 1⟩

def tryAcquire (l : Limiter) : Bool × Limiter :=
  if l.atOnce then (0 < l.available, l)
  else (0 < l.available,
    { l with available := l.available - 1,
             available_le := Nat.le_trans (Nat.sub_le ..) l.available_le })

def wait (l : Limiter) : Limiter := l.tryAcquire.2

def refill (l : Limiter) (permits : Nat) : Limiter :=
  { l with available := min l.capacity (l.available + permits), available_le := Nat.min_le_left .. }

end Limiter
end CloudClient.Http
