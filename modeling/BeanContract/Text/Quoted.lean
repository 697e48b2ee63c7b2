/-
Quoted text: how a string or a character is shown as a literal.

Backslash, the closing quote, tab, line feed, carriage return and the zero
character have short escapes.  Any other character without a visible form of its
own is written by its code point in lower-case hexadecimal; all else stands for
itself.
-/
import BeanContract.Text.Extending
import BeanContract.Text.Unprintable

namespace BeanContract
namespace Text

/-- A character that a reader can see by itself. -/
def visible (c : Char) : Bool :=
  if c.toNat < 0x7f then 0x20 ≤ c.toNat
  else !extending.contains c && !unprintable.contains c

def codePoint (c : Char) : List Char :=
  ['\\', 'u', '\x7b'] ++ Nat.toDigits 16 c.toNat ++ ['\x7d']

def escape (quote c : Char) : List Char :=
  if c = quote ∨ c = '\\' then ['\\', c]
  else if c = '\t' then ['\\', 't']
  else if c = '\n' then ['\\', 'n']
  else if c = '\r' then ['\\', 'r']
  else if c = '\x00' then ['\\', '0']
  else if visible c then [c]
  else codePoint c

def quotedString (s : String) : String :=
  String.ofList ('"' :: s.toList.flatMap (escape '"') ++ ['"'])

def quotedChar (c : Char) : String :=
  String.ofList ('\'' :: escape '\'' c ++ ['\''])

end Text
end BeanContract
