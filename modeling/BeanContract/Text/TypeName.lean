/-
Short type names.

A type is written with full paths, such as `alpha::List<beta::Item>`, and shown
with the last name of each path only, `List<Item>`.  A path is a maximal run of
letters, digits, underscores and colons; everything between paths is kept.
-/
import BeanContract.Text.Alphanumeric

namespace BeanContract
namespace Text

def isPathChar (c : Char) : Bool := alphanumeric.contains c || c = '_' || c = ':'

/-- The characters of a reversed path that come before its first double colon. -/
def beforeBreak : List Char → List Char
  | ':' :: ':' :: _ => []
  | c :: cs => c :: beforeBreak cs
  | [] => []

def lastName (backwards : List Char) : List Char := (beforeBreak backwards).reverse

/-- Shorten the text after a path read so far, held backwards. -/
def shortenFrom (backwards : List Char) : List Char → List Char
  | [] => lastName backwards
  | c :: cs =>
    if isPathChar c then shortenFrom (c :: backwards) cs
    else lastName backwards ++ c :: shortenFrom [] cs

def shortTypeName (full : String) : String := String.ofList (shortenFrom [] full.toList)

end Text
end BeanContract
