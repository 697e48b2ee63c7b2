/-
Declarations: how a description is put together.

A description is declared piece by piece: its constructor or builder, the
parameters, getters, setters and customisations.  `Assembly.add` takes in one piece
and notes a fault when it contradicts an earlier one; `Description.declare` gives
the description if there are no faults.
-/
import BeanContract.Bean.Description

namespace BeanContract

inductive Declaration (H : Host) where
  | constructor (construct : Args H → Adapter H H.Object)
  /-- A constructor that goes through a builder object with a text of its own. -/
  | builder (construct : Args H → Adapter H H.Object) (text : Args H → Adapter H String)
  | parameter (name : String) (type : ValueType)
  | getter (name : String) (type : ValueType) (get : H.Object → Adapter H (Value H))
  | setter (name : String) (type : ValueType) (set : H.Object → Value H → Adapter H H.Object)
  | customise (c : Customisation H)

structure Assembly (H : Host) where
  construct : Option (Args H → Adapter H H.Object) := none
  builderText : Option (Args H → Adapter H String) := none
  creator : Model H := .empty
  bean : Model H := .empty
  customisations : List (Customisation H) := []
  faults : List DeclarationFault := []

variable {H : Host}

namespace Declaration

/-- A builder: `make` stages the arguments, `finish` turns the result into a bean. -/
def ofBuilder {D : Type} (make : Args H → Adapter H D) (show? : D → Except Panic String)
    (finish : D → Adapter H H.Object) : Declaration H :=
  .builder (fun args => do finish (← make args))
    (fun args => do Effect.ofExcept Fault.panic (show? (← make args)))

def accessors (name : String) (type : ValueType) (get : H.Object → Adapter H (Value H))
    (set : H.Object → Value H → Adapter H H.Object) : List (Declaration H) :=
  [.getter name type get, .setter name type set]

end Declaration

namespace Assembly

def fault (a : Assembly H) (f : DeclarationFault) : Assembly H := { a with faults := a.faults ++ [f] }

def setConstructor (a : Assembly H) (construct : Args H → Adapter H H.Object) : Assembly H :=
  let a := if a.construct.isSome then a.fault .secondConstructor else a
  { a with construct := some construct }

/-- Take in an accessor: `declared` tells whether the property has one already, in
which case `second` is the fault, and `set` adds it. -/
def setAccessor (a : Assembly H) (name : String) (type : ValueType)
    (declared : Property H → Bool) (second : DeclarationFault) (set : Property H → Property H) :
    Assembly H :=
  match a.bean.get? name with
  | none => { a with bean := a.bean.add (set { name := name, type := type }) }
  | some p =>
    if p.type ≠ type then a.fault (.twoTypes name p.type type)
    else if declared p then a.fault second
    else { a with bean := a.bean.update name set }

def add (a : Assembly H) : Declaration H → Assembly H
  | .constructor construct => a.setConstructor construct
  | .builder construct text => { a.setConstructor construct with builderText := some text }
  | .parameter name type =>
    if a.creator.contains name then a.fault (.secondParameter name)
    else { a with creator := a.creator.add { name := name, type := type } }
  | .getter name type get =>
    a.setAccessor name type Property.isReadable (.secondGetter name)
      fun p => { p with getter := some get }
  | .setter name type set =>
    a.setAccessor name type Property.isWritable (.secondSetter name)
      fun p => { p with setter := some set }
  | .customise c => { a with customisations := a.customisations ++ [c] }

def typeFaults (a : Assembly H) : List DeclarationFault :=
  a.bean.properties.filterMap fun p =>
    match a.creator.get? p.name with
    | some q => if q.type = p.type then none else some (.parameterType p.name q.type p.type)
    | none => none

def allFaults (a : Assembly H) : List DeclarationFault :=
  a.faults ++ a.typeFaults ++ if a.construct.isNone then [.noConstructor] else []

end Assembly

namespace Description

def declare (name path : String) (declarations : List (Declaration H)) :
    Except Failure (Description H) :=
  let a : Assembly H := declarations.foldl Assembly.add {}
  match a.construct, a.allFaults with
  | some construct, [] =>
    customiseAll {
      name := name
      path := path
      creator := a.creator
      bean := a.bean
      construct := construct
      builderText := a.builderText
      factories := [] } a.customisations
  | _, faults => .error (.configuration (.description name faults) [])

end Description
end BeanContract
