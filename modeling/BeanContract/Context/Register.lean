/-
Registration of factories, tried out first.

A factory is registered before it is tried out, so that it can create values of its
own type.  If the trial fails, what was registered before comes back.  The creation
of values is a parameter of the trial, as it is in staging; the context's own one runs
the programs of factories.
-/
import BeanContract.Context.Create

namespace BeanContract

variable {H : Host}

namespace Factory

def checkDrawn (f : Factory H) (channel : Channel) (v : Value H) : Run H Unit :=
  match v.type? with
  | none => throw (.configuration (.nullDrawn f.type channel))
  | some t =>
    if t = f.type then pure ()
    else throw (.configuration (.wrongTypeDrawn f.type t channel))

/-- Try every channel once: each has to give a value of the type, and the two fixed
ones have to differ. -/
def selfTestBy (create : Creator H) (f : Factory H) : Run H Unit := do
  let primary ← create f .primary
  let secondary ← create f .secondary
  let random ← create f .random
  f.checkDrawn .primary primary
  f.checkDrawn .secondary secondary
  f.checkDrawn .random random
  if Value.same primary secondary then
    let text ← Run.ofProbe (Probe.shown primary.show?)
    throw (.configuration (.equalFixedValues f.type text))

def selfTest (f : Factory H) : Run H Unit := selfTestBy Run.create f

end Factory

namespace Run

/-- Try out a factory already registered; `undo` the registration if it fails. -/
def tryOutBy (create : Creator H) (f : Factory H) (undo : Registry H → Registry H) :
    Run H Unit := do
  let c ← get
  if c.settings.selfTestFactories then
    match ← caught (f.selfTestBy create) with
    | .ok () => pure ()
    | .error e =>
      modify fun c => { c with registry := undo c.registry }
      throw (.failure e)

def registerFactoryBy (create : Creator H) (f : Factory H) : Run H Unit := do
  let before := (← get).registry.byType.get? f.type
  modify fun c => { c with registry := c.registry.register f }
  tryOutBy create f (·.restore f.type before)

def registerPropertyFactoryBy (create : Creator H) (owner : ValueType) (property : String)
    (f : Factory H) : Run H Unit := do
  let before := (← get).registry.byProperty.get? (owner, property)
  modify fun c => { c with registry := c.registry.registerProperty owner property f }
  tryOutBy create f (·.restoreProperty owner property before)

def registerFactory (f : Factory H) : Run H Unit := registerFactoryBy create f

def registerPropertyFactory (owner : ValueType) (property : String) (f : Factory H) :
    Run H Unit := registerPropertyFactoryBy create owner property f

end Run
end BeanContract
