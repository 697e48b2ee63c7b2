/-
Programs of factories.

The code behind one channel of a factory is a program: a tree of requests to the
context that runs it, ending in a result.  Being data, a program makes finitely
many requests, and the context can bound how deep its nested creations go.

A program is given less than the whole context.  It creates values by type, or beans
by blueprint, and neither registers nor resets anything, holds factories of its own,
uses pooled drafts in its own way, nor goes on after a panic.  Registration, which
runs the code of any factory there is, is shown to be transactional for code that is
given the whole context.
-/
import BeanContract.Bean.Blueprint
import BeanContract.Failure.Basic
import BeanContract.Random.Engine
import BeanContract.Settings

namespace BeanContract

/-- Code that makes requests to a context and returns an `α`. -/
inductive Program (H : Host) (α : Type) where
  | done (a : α)
  | halt (h : Halt)
  | engine (next : Random.Engine → Program H α)
  | setEngine (e : Random.Engine) (next : Program H α)
  | world (next : H.World → Program H α)
  | setWorld (w : H.World) (next : Program H α)
  /-- Take the next number of the running structure. -/
  | sequence (next : Nat → Program H α)
  | depth (next : Nat → Program H α)
  | settings (next : Settings → Program H α)
  /-- Create a value of a type, one level deeper. -/
  | create (type : ValueType) (channel : Channel) (next : Except Failure (Value H) → Program H α)
  /-- Build a bean whose properties are all drawn from a channel. -/
  | bean (blueprint : Blueprint H) (channel : Channel)
      (next : Except Failure (Value H) → Program H α)

namespace Program

variable {H : Host} {α β : Type}

def bind : Program H α → (α → Program H β) → Program H β
  | done a, f => f a
  | halt h, _ => halt h
  | engine k, f => engine (fun e => (k e).bind f)
  | setEngine e k, f => setEngine e (k.bind f)
  | world k, f => world (fun w => (k w).bind f)
  | setWorld w k, f => setWorld w (k.bind f)
  | sequence k, f => sequence (fun n => (k n).bind f)
  | depth k, f => depth (fun n => (k n).bind f)
  | settings k, f => settings (fun s => (k s).bind f)
  | create t c k, f => create t c (fun r => (k r).bind f)
  | bean b c k, f => bean b c (fun r => (k r).bind f)

instance : Monad (Program H) where
  pure := done
  bind := bind

def draw (step : Random.Engine → α × Random.Engine) : Program H α :=
  engine (fun e => let (a, e) := step e; setEngine e (done a))

def atStructuralDepth : Program H Bool :=
  depth (fun d => settings (fun s => done (s.structuralDepth.toNat ≤ d)))

def nextSequence : Program H Nat := sequence done

/-- A result, whose failure ends the program. -/
def ofResult : Except Failure α → Program H α
  | .ok a => done a
  | .error f => halt (.failure f)

def createValue (t : ValueType) (c : Channel) : Program H (Value H) := create t c ofResult

def createFitting (t : ValueType) (c : Channel) : Program H (Value H) := do
  let v ← createValue t c
  match v.cast t with
  | .ok v => pure v
  | .error e => halt (.configuration (.unfitValue t e))

def createTyped (t : ValueType) (c : Channel) : Program H (Datum H.Object) := do
  match ← createFitting t c with
  | some d => pure d
  | none => halt (.configuration (.nullDrawn t c))

end Program
end BeanContract
