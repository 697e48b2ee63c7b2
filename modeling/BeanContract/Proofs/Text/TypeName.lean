/-
Short names of type expressions.

Shortening is one pass over the characters of a text and knows nothing of types.  Of the full text
of a type expression it keeps everything but the paths, and of each path the last name.  A text
that was shortened has no double colon left, so that shortening it again changes nothing
(`shortTypeName_cuts_paths`).

A character outside paths splits the work (`shortenFrom_append_separator`).  By this law alone the
text of a type expression is taken apart at its brackets and commas, down to single paths, and the
name of a list or an option holds the name of its items (`ValueType.name_list`,
`ValueType.name_option`).
-/
import Mathlib.Data.List.Infix
import BeanContract.Value.Type

namespace BeanContract
namespace Text

theorem eq_nil_of_prefix_cons {α : Type} {d : α} {l b : List α} (h : d ∉ l) (hl : l <+: d :: b) :
    l = [] := by
  rcases List.prefix_cons_iff.1 hl with hnil | ⟨t, rfl, _⟩
  · exact hnil
  · exact absurd List.mem_cons_self h

/-- Where an item occurs that a list does not have, the list is on one side of it. -/
theorem infix_append_cons_iff {α : Type} {d : α} {l a b : List α} (h : d ∉ l) :
    l <:+: a ++ d :: b ↔ l <:+: a ∨ l <:+: b := by
  constructor
  · intro hl
    rcases List.infix_append_iff.1 hl with ha | hb | ⟨l₁, l₂, rfl, hl₁, hl₂⟩
    · exact .inl ha
    · rcases List.infix_cons_iff.1 hb with hstart | hb
      · exact .inl (eq_nil_of_prefix_cons h hstart ▸ List.nil_infix)
      · exact .inr hb
    · have hnil : l₂ = [] := eq_nil_of_prefix_cons (fun hd => h (List.mem_append_right _ hd)) hl₂
      rw [hnil, List.append_nil]
      exact .inl hl₁.isInfix
  · rintro (ha | hb)
    · exact List.infix_append_of_infix_left ha
    · exact List.infix_append_of_infix_right (List.infix_cons hb)

theorem not_infix_nil : ¬[':', ':'] <:+: ([] : List Char) :=
  fun h => List.cons_ne_nil _ _ (List.eq_nil_of_infix_nil h)

theorem infix_reverse_iff {cs : List Char} : [':', ':'] <:+: cs.reverse ↔ [':', ':'] <:+: cs :=
  @List.reverse_infix _ [':', ':'] cs

/-! ## Paths read backwards -/

theorem beforeBreak_cons {c : Char} (h : c ≠ ':') (cs : List Char) :
    beforeBreak (c :: cs) = c :: beforeBreak cs := by
  rw [beforeBreak]
  rintro tail rfl
  exact absurd rfl h

theorem beforeBreak_append_break {a : List Char} (h : ':' ∉ a) (b : List Char) :
    beforeBreak (a ++ ':' :: ':' :: b) = a := by
  induction a with
  | nil => rfl
  | cons c a ih =>
    rw [List.mem_cons, not_or] at h
    rw [List.cons_append, beforeBreak_cons (Ne.symm h.1), ih h.2]

theorem isPrefix_beforeBreak (cs : List Char) : beforeBreak cs <+: cs := by
  fun_induction beforeBreak cs with
  | case1 => exact List.nil_prefix
  | case2 c cs _ ih => exact List.cons_prefix_cons.2 ⟨rfl, ih⟩
  | case3 => exact List.nil_prefix

theorem not_infix_beforeBreak (cs : List Char) : ¬[':', ':'] <:+: beforeBreak cs := by
  fun_induction beforeBreak cs with
  | case1 => exact not_infix_nil
  | case2 c cs hbreak ih =>
    intro h
    rcases List.infix_cons_iff.1 h with h | h
    · -- the rest starts with what is kept of it, so that this break would have been the first
      obtain ⟨hc, hrest⟩ := List.cons_prefix_cons.1 h
      obtain ⟨tail, htail⟩ := hrest.trans (isPrefix_beforeBreak cs)
      exact hbreak tail hc.symm htail.symm
    · exact ih h
  | case3 => exact not_infix_nil

theorem beforeBreak_eq_self {cs : List Char} (h : ¬[':', ':'] <:+: cs) : beforeBreak cs = cs := by
  fun_induction beforeBreak cs with
  | case1 cs => exact absurd (List.prefix_append [':', ':'] cs).isInfix h
  | case2 c cs _ ih => rw [ih fun hcs => h (List.infix_cons hcs)]
  | case3 => rfl

theorem not_infix_lastName (backwards : List Char) : ¬[':', ':'] <:+: lastName backwards :=
  fun h => not_infix_beforeBreak backwards (infix_reverse_iff.1 h)

theorem lastName_eq_reverse {backwards : List Char} (h : ¬[':', ':'] <:+: backwards.reverse) :
    lastName backwards = backwards.reverse := by
  rw [lastName, beforeBreak_eq_self (mt infix_reverse_iff.2 h)]

/-! ## One pass -/

/-- Path characters are read as one path. -/
theorem shortenFrom_path {run : List Char} (h : ∀ c ∈ run, isPathChar c = true)
    (backwards : List Char) :
    shortenFrom backwards run = lastName (run.reverse ++ backwards) := by
  induction run generalizing backwards with
  | nil => rfl
  | cons c run ih =>
    rw [shortenFrom, if_pos (h c List.mem_cons_self),
      ih (fun d hd => h d (List.mem_cons_of_mem _ hd)), List.reverse_cons, List.append_assoc,
      List.singleton_append]

/-- What stands before and after a character outside paths is shortened on its own. -/
theorem shortenFrom_append_separator {c : Char} (hc : isPathChar c = false)
    (backwards a b : List Char) :
    shortenFrom backwards (a ++ c :: b) = shortenFrom backwards a ++ c :: shortenFrom [] b := by
  induction a generalizing backwards with
  | nil => simp [shortenFrom, hc]
  | cons d a ih =>
    rw [List.cons_append, shortenFrom, shortenFrom]
    split
    · exact ih (d :: backwards)
    · rw [ih [], List.append_assoc, List.cons_append]

theorem shortenFrom_cons_separator {c : Char} (hc : isPathChar c = false) (b : List Char) :
    shortenFrom [] (c :: b) = c :: shortenFrom [] b :=
  shortenFrom_append_separator hc [] [] b

theorem shortenFrom_append_separators (a cs : List Char) (h : cs.any isPathChar = false) :
    shortenFrom [] (a ++ cs) = shortenFrom [] a ++ cs := by
  induction cs generalizing a with
  | nil => rw [List.append_nil, List.append_nil]
  | cons c cs ih =>
    rw [List.any_cons, Bool.or_eq_false_iff] at h
    have hrest : shortenFrom [] cs = cs := ih [] h.2
    rw [shortenFrom_append_separator h.1, hrest]

theorem not_mem_break {c : Char} (hc : ¬isPathChar c = true) : c ∉ [':', ':'] := by
  simp only [List.mem_cons, List.not_mem_nil, or_false, or_self]
  rintro rfl
  exact hc (by decide)

theorem not_infix_shortenFrom (backwards cs : List Char) :
    ¬[':', ':'] <:+: shortenFrom backwards cs := by
  induction cs generalizing backwards with
  | nil => exact not_infix_lastName backwards
  | cons c cs ih =>
    rw [shortenFrom]
    split
    case isTrue => exact ih (c :: backwards)
    case isFalse hc =>
      rw [infix_append_cons_iff (not_mem_break hc), not_or]
      exact ⟨not_infix_lastName backwards, ih []⟩

-- The path read so far is a part of the text, so that a break cannot be half read.
theorem shortenFrom_eq_append (backwards cs : List Char)
    (h : ¬[':', ':'] <:+: backwards.reverse ++ cs) :
    shortenFrom backwards cs = backwards.reverse ++ cs := by
  induction cs generalizing backwards with
  | nil =>
    rw [List.append_nil] at h ⊢
    exact lastName_eq_reverse h
  | cons c cs ih =>
    rw [shortenFrom]
    split
    case isTrue =>
      have hread : (c :: backwards).reverse ++ cs = backwards.reverse ++ c :: cs := by simp
      rw [ih (c :: backwards) (hread ▸ h), hread]
    case isFalse hc =>
      rw [infix_append_cons_iff (not_mem_break hc), not_or] at h
      rw [lastName_eq_reverse h.1, ih [] h.2, List.reverse_nil, List.nil_append]

/-- The texts that shortening does not change are those without a double colon. -/
theorem shortenFrom_eq_self_iff {cs : List Char} :
    shortenFrom [] cs = cs ↔ ¬[':', ':'] <:+: cs :=
  ⟨fun h => h ▸ not_infix_shortenFrom [] cs, shortenFrom_eq_append [] cs⟩

/-! ## Type expressions -/

/-- A letter, a digit or an underscore. -/
def isNameChar (c : Char) : Bool := alphanumeric.contains c || c = '_'

structure Identifier where
  chars : List Char
  nonempty : chars ≠ []
  proper : ∀ c ∈ chars, isNameChar c = true

namespace Identifier

theorem colon_not_mem (x : Identifier) : ':' ∉ x.chars :=
  fun h => absurd (x.proper ':' h) (by decide)

theorem isPathChar_of_mem (x : Identifier) {c : Char} (h : c ∈ x.chars) : isPathChar c = true := by
  have hname := x.proper c h
  rw [isNameChar] at hname
  rw [isPathChar, hname, Bool.true_or]

end Identifier

/-- The modules that lead to a name, from the outermost one, and the name itself. -/
structure Path where
  modules : List Identifier
  last : Identifier

namespace Path

def full (p : Path) : List Char :=
  (p.modules.flatMap fun m => m.chars ++ [':', ':']) ++ p.last.chars

def short (p : Path) : List Char := p.last.chars

theorem isPathChar_of_mem_full {p : Path} {c : Char} (h : c ∈ p.full) : isPathChar c = true := by
  rcases List.mem_append.1 h with h | h
  · obtain ⟨m, _, h⟩ := List.mem_flatMap.1 h
    rcases List.mem_append.1 h with h | h
    · exact m.isPathChar_of_mem h
    · simp only [List.mem_cons, List.not_mem_nil, or_false, or_self] at h
      exact h ▸ by decide
  · exact p.last.isPathChar_of_mem h

theorem beforeBreak_reverse_full (p : Path) :
    beforeBreak p.full.reverse = p.last.chars.reverse := by
  have hlast : ':' ∉ p.last.chars.reverse := mt List.mem_reverse.1 p.last.colon_not_mem
  rcases List.eq_nil_or_concat' p.modules with hnil | ⟨outer, m, hm⟩
  · rw [full, hnil, List.flatMap_nil, List.nil_append]
    exact beforeBreak_eq_self fun h => hlast (h.subset List.mem_cons_self)
  · rw [full, hm]
    simp only [List.flatMap_append, List.flatMap_cons, List.flatMap_nil, List.append_nil,
      List.reverse_append, List.reverse_cons, List.reverse_nil, List.nil_append, List.cons_append]
    exact beforeBreak_append_break hlast _

theorem shortenFrom_full (p : Path) : shortenFrom [] p.full = p.short := by
  rw [shortenFrom_path (fun _ h => isPathChar_of_mem_full h), List.append_nil, lastName,
    beforeBreak_reverse_full, List.reverse_reverse, short]

end Path

/-- A type as it is written.  An array has a number of items, and a tuple may have a comma after
its last item. -/
inductive TypeExpr where
  | named (p : Path)
  | applied (p : Path) (args : List TypeExpr)
  | reference (t : TypeExpr)
  | slice (t : TypeExpr)
  | array (t : TypeExpr) (n : Nat)
  | tuple (items : List TypeExpr) (comma : Bool)
  | dynamic (p : Path)

def commaSeparated (items : List (List Char)) : List Char := [',', ' '].intercalate items

namespace TypeExpr

mutual
/-- The text of a type in which `write` gives the text of each path. -/
def render (write : Path → List Char) : TypeExpr → List Char
  | named p => write p
  | applied p args => write p ++ '<' :: (commaSeparated (renderAll write args) ++ ['>'])
  | reference t => '&' :: render write t
  | slice t => '[' :: (render write t ++ [']'])
  | array t n => '[' :: (render write t ++ ';' :: ' ' :: (Nat.toDigits 10 n ++ [']']))
  | tuple items comma =>
    '(' :: (commaSeparated (renderAll write items) ++ (if comma then [',', ')'] else [')']))
  | dynamic p => ['d', 'y', 'n'] ++ ' ' :: write p
def renderAll (write : Path → List Char) : List TypeExpr → List (List Char)
  | [] => []
  | t :: ts => render write t :: renderAll write ts
end

def full (t : TypeExpr) : String := String.ofList (t.render Path.full)

def short (t : TypeExpr) : String := String.ofList (t.render Path.short)

end TypeExpr

/-! ## Shortening a type expression -/

theorem shortenFrom_commaSeparated (items : List (List Char)) :
    shortenFrom [] (commaSeparated items) = commaSeparated (items.map (shortenFrom [])) := by
  induction items with
  | nil => rfl
  | cons x xs ih =>
    cases xs with
    | nil => simp [commaSeparated]
    | cons y ys =>
      simp only [commaSeparated, List.map_cons, List.intercalate_cons_cons, List.append_assoc,
        List.cons_append, List.nil_append] at ih ⊢
      rw [shortenFrom_append_separator (by decide), shortenFrom_cons_separator (by decide), ih]

theorem shortenFrom_toDigits (n : Nat) :
    shortenFrom [] (Nat.toDigits 10 n) = Nat.toDigits 10 n := by
  refine shortenFrom_eq_self_iff.2 fun h => ?_
  have hcolon : ':' ∈ Nat.toDigits 10 n := h.subset List.mem_cons_self
  exact absurd (Nat.isDigit_of_mem_toDigits (by decide) (by decide) hcolon) (by decide)

namespace TypeExpr

-- In each case the separators are split off from the left, until paths and parts remain.
mutual
theorem shortenFrom_render (t : TypeExpr) :
    shortenFrom [] (t.render Path.full) = t.render Path.short := by
  cases t with
  | named p => exact p.shortenFrom_full
  | applied p args =>
    rw [render, render, shortenFrom_append_separator (by decide), p.shortenFrom_full,
      shortenFrom_append_separators _ ['>'] (by decide), shortenFrom_commaSeparated,
      map_shortenFrom_renderAll args]
  | reference t =>
    rw [render, render, shortenFrom_cons_separator (by decide), shortenFrom_render t]
  | slice t =>
    rw [render, render, shortenFrom_cons_separator (by decide),
      shortenFrom_append_separators _ [']'] (by decide), shortenFrom_render t]
  | array t n =>
    rw [render, render, shortenFrom_cons_separator (by decide),
      shortenFrom_append_separator (by decide), shortenFrom_render t,
      shortenFrom_cons_separator (by decide), shortenFrom_append_separators _ [']'] (by decide),
      shortenFrom_toDigits]
  | tuple items comma =>
    have hclose : (if comma then [',', ')'] else [')']).any isPathChar = false := by
      cases comma <;> decide
    rw [render, render, shortenFrom_cons_separator (by decide),
      shortenFrom_append_separators _ _ hclose, shortenFrom_commaSeparated,
      map_shortenFrom_renderAll items]
  | dynamic p =>
    have hword : shortenFrom [] ['d', 'y', 'n'] = ['d', 'y', 'n'] := by decide
    rw [render, render, shortenFrom_append_separator (by decide), hword, p.shortenFrom_full]

theorem map_shortenFrom_renderAll (ts : List TypeExpr) :
    (renderAll Path.full ts).map (shortenFrom []) = renderAll Path.short ts := by
  cases ts with
  | nil => rfl
  | cons t ts =>
    rw [renderAll, renderAll, List.map_cons, shortenFrom_render t, map_shortenFrom_renderAll ts]
end

end TypeExpr

theorem not_infix_shortTypeName (s : String) : ¬[':', ':'] <:+: (shortTypeName s).toList := by
  rw [shortTypeName, String.toList_ofList]
  exact not_infix_shortenFrom [] s.toList

theorem shortTypeName_eq_self {s : String} (h : ¬[':', ':'] <:+: s.toList) :
    shortTypeName s = s := by
  rw [shortTypeName, shortenFrom_eq_self_iff.2 h, String.ofList_toList]

/-- The short name of a type expression is its text with the last name of each path in the place
of the path and with all else as it was.  Any text at all, once shortened, is left as it is by
shortening, and has no double colon anywhere, so that none of its runs of path characters has. -/
theorem shortTypeName_cuts_paths :
    (∀ t : TypeExpr, shortTypeName t.full = t.short) ∧
      ∀ s : String, shortTypeName (shortTypeName s) = shortTypeName s ∧
        ¬[':', ':'] <:+: (shortTypeName s).toList := by
  refine ⟨fun t => ?_, fun s => ?_⟩
  · rw [shortTypeName, TypeExpr.full, TypeExpr.short, String.toList_ofList, t.shortenFrom_render]
  · have hs := not_infix_shortTypeName s
    exact ⟨shortTypeName_eq_self hs, hs⟩

example : shortTypeName "(alloc::vec::Vec<[u8; 4]>, &dyn core::fmt::Debug)" =
    "(Vec<[u8; 4]>, &dyn Debug)" := by decide

/-- A separator of three colons is cut at its end, and a path that ends in one has no name. -/
example : shortTypeName "a:::b <c::>" = "b <>" := by decide

/-- The argument of a type name is shortened on its own, whatever text it is. -/
theorem shortTypeName_applied {name : String} (h : ¬[':', ':'] <:+: name.toList) (arg : String) :
    shortTypeName (name ++ "<" ++ arg ++ ">") = name ++ "<" ++ shortTypeName arg ++ ">" := by
  have hopen : "<".toList = ['<'] := by decide
  have hclose : ">".toList = ['>'] := by decide
  apply String.toList_injective
  simp only [shortTypeName, String.toList_ofList, String.toList_append, hopen, hclose]
  rw [shortenFrom_append_separators _ ['>'] (by decide), List.append_assoc, List.singleton_append,
    shortenFrom_append_separator (by decide), shortenFrom_eq_self_iff.2 h]
  simp only [List.append_assoc, List.cons_append, List.nil_append]

end Text

namespace ValueType

theorem name_list (t : ValueType) : (list t).name = "Vec<" ++ t.name ++ ">" :=
  Text.shortTypeName_applied (by decide : ¬[':', ':'] <:+: "Vec".toList) t.path

theorem name_option (t : ValueType) : (option t).name = "Option<" ++ t.name ++ ">" :=
  Text.shortTypeName_applied (by decide : ¬[':', ':'] <:+: "Option".toList) t.path

end ValueType
end BeanContract
