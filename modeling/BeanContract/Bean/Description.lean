/-
Descriptions and customisations.

A description is a blueprint together with the factories that some of its
properties draw from.  A customisation adjusts one property, in whichever model
declares it; later ones win.
-/
import BeanContract.Factory.Basic

namespace BeanContract

/-- A blueprint and the factories of its properties, one at most for each. -/
structure Description (H : Host) extends Blueprint H where
  factories : List (String × Factory H)

inductive Customisation (H : Host) where
  /-- Leave the property out of all tests. -/
  | ignore (property : String)
  /-- The property must never read back null. -/
  | notNull (property : String)
  /-- The property takes null as a regular value. -/
  | nullable (property : String)
  /-- The property takes part in equality. -/
  | significant (property : String)
  /-- The property must not affect equality. -/
  | notSignificant (property : String)
  /-- Declare the response to null or to being left out. -/
  | response (op : Absence) (property : String) (r : Response)
  /-- Draw the property from a factory of its own. -/
  | factory (property : String) (f : Factory H)

namespace Customisation

variable {H : Host}

def property : Customisation H → String
  | ignore p | notNull p | nullable p | significant p | notSignificant p => p
  | response _ p _ => p
  | factory p _ => p

def apply (c : Customisation H) (p : Property H) : Property H :=
  match c with
  | ignore _ => { p with flags := { p.flags with ignored := true } }
  | notNull _ => { p with flags := { p.flags with notNull := true, nullable := false } }
  | nullable _ => { p with flags := { p.flags with nullable := true, notNull := false } }
  | significant _ => { p with flags := { p.flags with significant := true } }
  | notSignificant _ => { p with flags := { p.flags with significant := false } }
  | response op _ r => p.setFinding op { p.finding op with response := some r, declared := true }
  | factory _ _ => p

def responseText : Response → String
  | .null => "Null"
  | .value => "Value"
  | .error => "Error"
  | .notReadable => "NotReadable"
  | .varying => "Variable"
  | .varyingNullable => "VariableNullable"

def factoryText (f : Factory H) : String :=
  let low := if f.lowCardinality then "true" else "false"
  "ValueFactory \x7b value_type: " ++ f.type.name ++ ", low_cardinality: " ++ low ++ " \x7d"

def text : Customisation H → String
  | ignore p => "Ignore(" ++ Text.quotedString p ++ ")"
  | notNull p => "NotNull(" ++ Text.quotedString p ++ ")"
  | nullable p => "Nullable(" ++ Text.quotedString p ++ ")"
  | significant p => "Significant(" ++ Text.quotedString p ++ ")"
  | notSignificant p => "NotSignificant(" ++ Text.quotedString p ++ ")"
  | response .setToNull p r =>
    "NullBehaviour(" ++ Text.quotedString p ++ ", " ++ responseText r ++ ")"
  | response .omitted p r =>
    "OmittedBehaviour(" ++ Text.quotedString p ++ ", " ++ responseText r ++ ")"
  | factory p f => "Factory(" ++ Text.quotedString p ++ ", " ++ factoryText f ++ ")"

end Customisation

namespace Description

variable {H : Host}

def setFactory (d : Description H) (property : String) (f : Factory H) : Description H :=
  { d with factories := d.factories.filter (fun e => e.1 ≠ property) ++ [(property, f)] }

/-- Apply one customisation, which has to name a property and fit its type. -/
def customise (d : Description H) (c : Customisation H) : Except Failure (Description H) :=
  match d.property? c.property with
  | none => .error (.configuration (.unknownProperty c.text d.name c.property) [])
  | some p =>
    match c with
    | .factory name f =>
      if f.type = p.type then .ok (d.setFactory name f)
      else .error (.configuration (.unfitFactory f.type d.name name) [])
    | _ =>
      .ok { d with
        creator := d.creator.update c.property c.apply
        bean := d.bean.update c.property c.apply }

def customiseAll (d : Description H) (cs : List (Customisation H)) :
    Except Failure (Description H) :=
  cs.foldlM customise d

end Description
end BeanContract
