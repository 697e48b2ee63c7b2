/-
Creation of values under a bounded nesting depth.

Running a program of a factory may create nested values; each level counts as one
step of depth, and beyond the depth limit every creation fails.  Each creation works
the limit out anew, and panics if that sum overflows.  The limit bounds the recursion:
`createWithin n` handles up to `n` further levels, and `create` starts it with as many
as the limit leaves, so that its own bound is never what stops a creation.
-/
import BeanContract.Draft.Stage

namespace BeanContract

variable {H : Host} {α : Type}

namespace Run

/-- Use a pooled draft of a blueprint's type and give it back on every way out. -/
def withPooled (b : Blueprint H) (use : Stage H α) : Run H α := fun c =>
  let (d, pool) := c.pool.acquire b
  match use (d, { c with pool := pool }) with
  | .ok a (d, c) => .ok a { c with pool := c.pool.release d }
  | .error e (d, c) => .error e { c with pool := c.pool.release d }

def createBy (create : Creator H) (t : ValueType) (channel : Channel) : Run H (Value H) := do
  let c ← get
  let f ← ofResult (c.registry.get t)
  create f channel

def buildBy (create : Creator H) (b : Blueprint H) (channel : Channel) : Run H (Value H) :=
  withPooled b do
    Stage.setAll create channel false
    Stage.probe Draft.newBean

def program (create : Creator H) : Program H α → Run H α
  | .done a => pure a
  | .halt h => throw h
  | .engine next => do program create (next (← get).engine)
  | .setEngine e next => do
    modify fun c => { c with engine := e }
    program create next
  | .world next => do program create (next (← get).world)
  | .setWorld w next => do
    modify fun c => { c with world := w }
    program create next
  | .sequence next => do program create (next (← nextSequence))
  | .depth next => do program create (next (← get).depth)
  | .settings next => do program create (next (← get).settings)
  | .create t channel next => do program create (next (← caught (createBy create t channel)))
  | .bean b channel next => do program create (next (← caught (buildBy create b channel)))

/-- Refuse a creation: for its depth, or since there is no limit to compare that with. -/
def refuse (f : Factory H) : Run H (Value H) := do
  throw ((← get).refusal f.type)

/-- Create a value with at most `levels` levels of creation, itself included. -/
def createWithin : Nat → Creator H
  | 0, f, _ => refuse f
  | levels + 1, f, channel => do
    if (← get).atDepthLimit then refuse f
    else
      modify Context.enter
      Effect.finish (program (createWithin levels) (f.source channel)) Context.leave

def create (f : Factory H) (channel : Channel) : Run H (Value H) := do
  let c ← get
  createWithin (c.settings.depthLimit - c.depth) f channel

def createOf (t : ValueType) (channel : Channel) : Run H (Value H) := createBy create t channel

def createTyped (t : ValueType) (channel : Channel) : Run H (Datum H.Object) := do
  let v ← createOf t channel
  match v.cast t with
  | .error e => throw (.configuration (.unfitValue t e))
  | .ok (some d) => pure d
  | .ok none => throw (.configuration (.nullDrawn t channel))

def createFor (owner : ValueType) (property : String) (t : ValueType) (channel : Channel) :
    Run H (Value H) := do
  let c ← get
  let f ← ofResult (c.registry.forProperty owner property t)
  create f channel

/-- The first of up to `n + 1` random values that is not among `avoid`, or else the
last one. -/
def createApart (f : Factory H) (avoid : List (Value H)) : Nat → Run H (Value H)
  | 0 => create f .random
  | n + 1 => do
    let v ← create f .random
    if avoid.any (fun a => a.same v) then createApart f avoid n else pure v

def createDistinct (f : Factory H) (avoid : List (Value H)) : Run H (Value H) := do
  let c ← get
  createApart f avoid (if f.lowCardinality then 0 else c.settings.distinctAttempts - 1)

end Run
end BeanContract
