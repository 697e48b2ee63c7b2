/-
Round trips: what is staged reads back.

Beans are built with every pair of candidates for every ordered pair of tested
properties, and with random values for all of them; each property has to read back
as staged, or as its absence allows.  The number of beans that were tested is the
result.
-/
import BeanContract.Draft.Candidates

namespace BeanContract
namespace Check

variable {H : Host}

def changesPerProperty : Nat := 3

def beanText (bean : Value H) : Access H String := guarded (Effect.ofExcept Fault.panic bean.show?)

/-- The text of a draft's bean, and of its builder if it has one, is not empty. -/
def texts (d : Draft H) : Probe H Unit := do
  let bean ← d.newBean
  match ← Probe.attempt (beanText bean) with
  | .error e => Probe.violationBecause (.formatting d.beanName) e
  | .ok text => if text.isEmpty then Probe.violation (.emptyText d.beanName)
  match d.blueprint.builderText with
  | none => pure ()
  | some text =>
    match ← Probe.attempt (guarded (text d.args)) with
    | .error e => Probe.violationBecause (.builderFormatting d.beanName) e
    | .ok text => if text.isEmpty then Probe.violation (.emptyBuilderText d.beanName)

/-- Null is tried when the property takes it, or the bean is known not to fail. -/
def triesNull (d : Draft H) (name : String) : Bool :=
  d.blueprint.isNullable name ||
    match d.nullResponse name with
    | none => false
    | some r => r ≠ .error

def candidatesOf (d : Draft H) : List String → Run H (List (String × List (Value H)))
  | [] => pure []
  | name :: names => do
    let values ← d.candidates name (triesNull d name)
    let rest ← candidatesOf d names
    pure ((name, values) :: rest)

def single (name : String) (v : Value H) : Stage H Nat := do
  Stage.reset Run.create
  Stage.change (·.put name v)
  Stage.probe (·.verify name)
  pure 1

def pair (first second : String) (a b : Value H) : Stage H Nat := do
  Stage.reset Run.create
  Stage.change fun d => (d.put first a).put second b
  Stage.probe (·.verify first)
  Stage.probe (·.verify second)
  pure 1

def pairs (table : List (String × List (Value H))) : Stage H Nat :=
  Effect.tally (fun (first, as) =>
    Effect.tally (fun (second, bs) =>
      if first = second then pure 0
      else Effect.tally (fun a => Effect.tally (fun b => pair first second a b) bs) as)
      table) table

/-- Test all candidates: in pairs, or one by one if there is one property only. -/
def combinations : Stage H Nat := do
  let d ← Stage.draft
  let table ← Stage.ofRun (candidatesOf d d.blueprint.testable)
  match table with
  | [(name, values)] => Effect.tally (single name) values
  | _ =>
    let n ← pairs table
    Stage.reset Run.create
    pure n

/-- Stage a random value, or null where it is tried, for a property at random. -/
def change (names : List String) : Stage H Unit := do
  let d ← Stage.draft
  let c ← Stage.context
  let i ← Stage.ofRun (Run.below names.length)
  let name := names.getD i ""
  let null ← if triesNull d name then Stage.ofRun (Run.chance c.settings.nullProbability)
    else pure false
  let v ← if null then pure none else Stage.ofRun (d.draw Run.create name .random)
  Stage.change (·.put name v)

def trial (names : List String) : Stage H Unit := do
  Effect.times (change names) (changesPerProperty * names.length)
  Stage.probe (·.verifyAll)

def trials : Stage H Nat := do
  let names := (← Stage.draft).blueprint.testable
  if names.isEmpty then pure 0
  else do
    let n := (← Stage.context).settings.trials
    Stage.reset Run.create
    Effect.times (trial names) n
    Stage.reset Run.create
    pure n

def roundTrips : Stage H Nat := do
  Stage.reset Run.create
  Stage.probe texts
  let n ← combinations
  let m ← trials
  pure (n + m)

end Check
end BeanContract
