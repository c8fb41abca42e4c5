import ClusterRouter.Cluster.Request

/-!
# Programs that ask a cluster

A program is a tree: it is done with a result, asks a request and goes on with the reply, or waits
for the cluster to settle. It decides nothing about who answers, so one program can be run against
any party, also one whose answers depend on all requests before.
-/

namespace ClusterRouter

inductive Program (α : Type) where
  | done (result : α)
  | ask (request : Request) (next : Reply → Program α)
  | settle (next : Program α)

namespace Program

variable {α β : Type}

def bind : Program α → (α → Program β) → Program β
  | .done result, f => f result
  | .ask request next, f => .ask request fun reply => (next reply).bind f
  | .settle next, f => .settle (next.bind f)

instance : Monad Program where
  pure := .done
  bind := bind

/-- A request and the reply to it. -/
structure Exchange where
  request : Request
  reply : Reply

/-- What a run has come to: its exchanges in order, the state of the answering party after it, and
the result. -/
structure Outcome (σ α : Type) where
  exchanges : List Exchange
  state : σ
  result : α

/-- Runs a program against a party that answers by `respond` and keeps a state. -/
def run {σ : Type} (respond : σ → Request → Reply × σ) : Program α → σ → Outcome σ α
  | .done result, state => ⟨[], state, result⟩
  | .ask request next, state =>
    let (reply, state) := respond state request
    let outcome := run respond (next reply) state
    { outcome with exchanges := ⟨request, reply⟩ :: outcome.exchanges }
  | .settle next, state => run respond next state

end Program

end ClusterRouter
