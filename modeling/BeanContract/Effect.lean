/-
Computations that keep their state when they fail.

Every effect of this library is a state and an error on one `EStateM`; a failure
leaves the state as it was when the failure arose.  The combinators here turn an
error into a result (`reify`), run a clean-up on every way out (`finish`), run a
computation on a part of a larger state (`focus`, `zoom`) and count what a loop did
(`tally`, `times`).
-/
namespace BeanContract
namespace Effect

variable {ε ε' σ τ α : Type}

def reify (x : EStateM ε σ α) : EStateM ε' σ (Except ε α) := fun s =>
  match x s with
  | .ok a s => .ok (.ok a) s
  | .error e s => .ok (.error e) s

/-- Run `x`, then change the state by `cleanup`, whether `x` succeeded or not. -/
def finish (x : EStateM ε σ α) (cleanup : σ → σ) : EStateM ε σ α := fun s =>
  match x s with
  | .ok a s => .ok a (cleanup s)
  | .error e s => .error e (cleanup s)

/-- Run `x` on the part of the state that `part` reads and `put` writes, and turn its
error into one of the larger computation. -/
def focus (wrap : ε → ε') (part : τ → σ) (put : τ → σ → τ) (x : EStateM ε σ α) :
    EStateM ε' τ α := fun t =>
  match x (part t) with
  | .ok a s => .ok a (put t s)
  | .error e s => .error (wrap e) (put t s)

def zoom (part : τ → σ) (put : τ → σ → τ) (x : EStateM ε σ α) : EStateM ε τ α :=
  focus id part put x

def ofExcept (wrap : ε' → ε) : Except ε' α → EStateM ε σ α
  | .ok a => pure a
  | .error e => throw (wrap e)

def tally {β : Type} (f : β → EStateM ε σ Nat) : List β → EStateM ε σ Nat
  | [] => pure 0
  | b :: bs => do
    let n ← f b
    let m ← tally f bs
    pure (n + m)

def each {β : Type} (f : β → EStateM ε σ Unit) : List β → EStateM ε σ Unit
  | [] => pure ()
  | b :: bs => do
    f b
    each f bs

def times (x : EStateM ε σ Unit) : Nat → EStateM ε σ Unit
  | 0 => pure ()
  | n + 1 => do
    x
    times x n

def gather {β γ : Type} (f : β → EStateM ε σ γ) : List β → EStateM ε σ (List γ)
  | [] => pure []
  | b :: bs => do
    let c ← f b
    let cs ← gather f bs
    pure (c :: cs)

end Effect
end BeanContract
