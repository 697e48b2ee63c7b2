/-
Contexts: everything one verification run reads and changes.

A context holds the settings and the registry, the random engine with the seed it
started from, the account of nested creations, the pool of drafts and the host's
world.
-/
import BeanContract.Draft.Pool
import BeanContract.Factory.Registry

namespace BeanContract

structure Context (H : Host) where
  settings : Settings
  registry : Registry H
  engine : Random.Engine
  seed : UInt64
  /-- The seed was chosen, not left to chance. -/
  repeatable : Bool
  /-- How many creations are under way. -/
  depth : Nat := 0
  /-- The deepest nesting so far. -/
  maxDepth : Nat := 0
  /-- How many creations were started with none under way. -/
  structures : Nat := 0
  /-- The last number given out in the running structure. -/
  sequence : Nat := 0
  pool : Pool H := .empty
  world : H.World

abbrev Run (H : Host) := EStateM Halt (Context H)

namespace Context

variable {H : Host}

/-- A context at its start; `chance` seeds it when the settings do not. -/
def start (settings : Settings) (registry : Registry H) (chance : UInt64) (world : H.World) :
    Context H where
  settings := settings
  registry := registry
  engine := .ofSeed (settings.seed.getD chance) 0
  seed := settings.seed.getD chance
  repeatable := settings.seed.isSome
  world := world

def setRepeatable (c : Context H) (seed : UInt64) : Context H :=
  { c with engine := .ofSeed seed 0, seed := seed, repeatable := true }

def setStructuralDepth (c : Context H) (depth : UInt64) : Context H :=
  { c with settings := { c.settings with structuralDepth := depth } }

def atStructuralDepth (c : Context H) : Bool := c.settings.structuralDepth.toNat ≤ c.depth

def atDepthLimit (c : Context H) : Bool := c.settings.depthLimit ≤ c.depth

/-- Why nothing more of a type can be created. -/
def refusal (c : Context H) (t : ValueType) : Halt :=
  match c.settings.depthLimit? with
  | some _ => .configuration (.tooDeep t c.depth)
  | none => .panic .overflow

/-- Forget the account of creations and the pool; the registry and the engine stay. -/
def reset (c : Context H) : Context H :=
  { c with depth := 0, maxDepth := 0, structures := 0, sequence := 0, pool := .empty }

/-- Begin a creation.  With none under way it begins a structure, in which the
sequence starts anew. -/
def enter (c : Context H) : Context H :=
  { c with
    depth := c.depth + 1
    maxDepth := max c.maxDepth (c.depth + 1)
    structures := if c.depth = 0 then c.structures + 1 else c.structures
    sequence := if c.depth = 0 then 0 else c.sequence }

def leave (c : Context H) : Context H := { c with depth := c.depth - 1 }

def pooled (c : Context H) (t : ValueType) : Nat := c.pool.allocated t

end Context

namespace Run

variable {H : Host} {α : Type}

def ofProbe (x : Probe H α) : Run H α :=
  Effect.zoom Context.world (fun c w => { c with world := w }) x

instance : MonadLift (Probe H) (Run H) := ⟨ofProbe⟩

/-- A failure as a result; a panic goes on. -/
def caught (x : Run H α) : Run H (Except Failure α) := fun c =>
  match x c with
  | .ok a c => .ok (.ok a) c
  | .error (.failure f) c => .ok (.error f) c
  | .error (.panic p) c => .error (.panic p) c

def ofResult : Except Failure α → Run H α := Effect.ofExcept Halt.failure

def draw (step : Random.Engine → α × Random.Engine) : Run H α := fun c =>
  let (a, e) := step c.engine
  .ok a { c with engine := e }

def chance (p : Float) : Run H Bool := draw (Random.Engine.chance p)

def below (n : Nat) : Run H Nat := draw (Random.Engine.below n)

def nextSequence : Run H Nat := fun c =>
  .ok (c.sequence + 1) { c with sequence := c.sequence + 1 }

/-- An engine split off, on the stream numbered by the structures so far. -/
def splitEngine : Run H Random.Engine := fun c =>
  let (child, e) := c.engine.split c.structures.toUInt64
  .ok child { c with engine := e }

end Run
end BeanContract
