/-
Texts in alphabetical order, by the code points of their characters.

Sorting is a permutation (`sortTexts_perm`) that ascends (`sortTexts_ascending`).
-/
namespace BeanContract
namespace Text

def insertText (a : String) : List String → List String
  | [] => [a]
  | b :: bs => if a ≤ b then a :: b :: bs else b :: insertText a bs

def sortTexts : List String → List String
  | [] => []
  | a :: as => insertText a (sortTexts as)

theorem insertText_perm (a : String) (bs : List String) : (insertText a bs).Perm (a :: bs) := by
  induction bs with
  | nil => exact List.Perm.refl _
  | cons b bs ih =>
    rw [insertText]
    split
    · exact List.Perm.refl _
    · exact (ih.cons b).trans (List.Perm.swap a b bs)

/-- Sorting loses nothing and adds nothing. -/
theorem sortTexts_perm (as : List String) : (sortTexts as).Perm as := by
  induction as with
  | nil => exact List.Perm.refl _
  | cons a as ih => exact (insertText_perm a _).trans (ih.cons a)

theorem insertText_ascending {a : String} {bs : List String} (h : bs.Pairwise (· ≤ ·)) :
    (insertText a bs).Pairwise (· ≤ ·) := by
  induction bs with
  | nil => simp [insertText]
  | cons b bs ih =>
    have ⟨hb, hs⟩ := List.pairwise_cons.1 h
    rw [insertText]
    split
    case isTrue hab =>
      refine List.pairwise_cons.2 ⟨fun x hx => ?_, h⟩
      rcases List.mem_cons.1 hx with rfl | hx
      · exact hab
      · exact String.le_trans hab (hb x hx)
    case isFalse hab =>
      refine List.pairwise_cons.2 ⟨fun x hx => ?_, ih hs⟩
      rcases List.mem_cons.1 ((insertText_perm a bs).mem_iff.1 hx) with rfl | hx
      · exact (String.le_total x b).resolve_left hab
      · exact hb x hx

/-- Sorted texts ascend. -/
theorem sortTexts_ascending (as : List String) : (sortTexts as).Pairwise (· ≤ ·) := by
  induction as with
  | nil => exact List.Pairwise.nil
  | cons a as ih => exact insertText_ascending ih

end Text
end BeanContract
