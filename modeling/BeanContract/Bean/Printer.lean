/-
The texts of descriptions and registries, for inspection.
-/
import BeanContract.Factory.Registry
import BeanContract.Text.Sorted

namespace BeanContract
namespace Printer

variable {H : Host}

def record (name : String) (fields : List (String × String)) : String :=
  name ++ " \x7b " ++ ", ".intercalate (fields.map fun (n, v) => n ++ ": " ++ v) ++ " \x7d"

def bool (b : Bool) : String := if b then "true" else "false"

def list (items : List String) : String := "[" ++ ", ".intercalate items ++ "]"

def response : Option Response → String
  | some r => "Some(" ++ Customisation.responseText r ++ ")"
  | none => "None"

def flags (f : Flags) : String :=
  record "PropertyFlags" [
    ("ignored", bool f.ignored),
    ("not_null", bool f.notNull),
    ("significant", bool f.significant),
    ("nullable", bool f.nullable)]

def property (p : Property H) : String :=
  record "Property" [
    ("name", Text.quotedString p.name),
    ("value_type", p.type.name),
    ("flags", flags p.flags),
    ("null_behaviour", response p.onNull.response),
    ("omitted_behaviour", response p.onOmit.response),
    ("readable", bool p.isReadable),
    ("writable", bool p.isWritable)]

def model (m : Model H) : String :=
  record "Model" [("properties", list (m.properties.map property))]

def description (d : Description H) : String :=
  record "BeanDescription" [
    ("name", Text.quotedString d.name),
    ("creator", model d.creator),
    ("bean", model d.bean),
    ("has_builder", bool d.hasBuilder)]

def registry (r : Registry H) : String :=
  record "FactoryRegistry" [
    ("types", list ((Text.sortTexts (r.types.map ValueType.name)).map Text.quotedString)),
    ("property_overrides", toString r.byProperty.size),
    ("lookups", toString r.lookups.length)]

end Printer
end BeanContract
