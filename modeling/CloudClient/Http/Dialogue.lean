import CloudClient.Http.Message
/-! What an operation says to a provider: it either has its result, or it sends one request and goes on
with the reply. An `Executor` carries requests out; its state is whatever lies behind it. -/
namespace CloudClient.Http

abbrev Executor (σ : Type) := Request → σ → Outcome Response × σ

inductive Dialogue (α : Type) : Type
  | done (result : Outcome α)
  | ask (request : Request) (next : Outcome Response → Dialogue α)

namespace Dialogue

variable {α β σ : Type}

def run (execute : Executor σ) : Dialogue α → σ → Outcome α × σ
  | done result, s => (result, s)
  | ask request next, s =>
    let (reply, s) := execute request s
    (next reply).run execute s

def once (request : Request) (read : Outcome Response → Outcome α) : Dialogue α :=
  ask request fun reply => done (read reply)

def fail (e : Error) : Dialogue α := done (.error e)

def map (f : α → β) : Dialogue α → Dialogue β
  | done result => done (result.map f)
  | ask request next => ask request fun reply => (next reply).map f

def checked (check : Outcome Unit) (d : Dialogue α) : Dialogue α :=
  match check with
  | .ok () => d
  | .error e => fail e

@[simp] theorem run_done (execute : Executor σ) (result : Outcome α) (s : σ) :
    (done result).run execute s = (result, s) := rfl

@[simp] theorem run_ask (execute : Executor σ) (request : Request)
    (next : Outcome Response → Dialogue α) (s : σ) :
    (ask request next).run execute s =
      (next (execute request s).1).run execute (execute request s).2 := rfl

@[simp] theorem run_once (execute : Executor σ) (request : Request)
    (read : Outcome Response → Outcome α) (s : σ) :
    (once request read).run execute s = (read (execute request s).1, (execute request s).2) := rfl

theorem run_map (execute : Executor σ) (f : α → β) (d : Dialogue α) (s : σ) :
    (d.map f).run execute s = ((d.run execute s).1.map f, (d.run execute s).2) := by
  induction d generalizing s with
  | done result => rfl
  | ask request next ih => exact ih _ _

end Dialogue
end CloudClient.Http
