/-
Failures of a bean's own code: its constructor, builder, getters and setters.

Such code answers with an error of its own (`AccessError`) or panics (`Panic`).
A panic becomes an error once it is caught.
-/
namespace BeanContract

/-- An abrupt end of host code; its payload need not be text. -/
structure Panic where
  message? : Option String
  deriving DecidableEq, Repr

namespace Panic

def ofText (s : String) : Panic := ⟨some s⟩

def overflow : Panic := ofText "attempt to add with overflow"

def text (p : Panic) : String := p.message?.getD "unknown panic payload"

end Panic

inductive AccessError where
  | rejected (message : String)
  | missingParameter (parameter : String)
  | typeMismatch (expected actual : String)
  | notReadable (property : String)
  | panicked (message : String)
  deriving DecidableEq, Repr

namespace AccessError

def message : AccessError → String
  | rejected m => m
  | missingParameter p => s!"required parameter `{p}` is missing"
  | typeMismatch e a => s!"expected a value of type {e} but got {a}"
  | notReadable p => s!"property `{p}` is not readable"
  | panicked m => s!"panicked: {m}"

end AccessError
end BeanContract
