set_option autoImplicit false

/-! # Sorted names

Names in the order of their code points, as messages list them.
-/

namespace ListenerPorts.Text

/-- Puts a name in front of the first one that is not before it. -/
def insertName (name : String) : List String → List String
  | [] => [name]
  | n :: ns => if name ≤ n then name :: n :: ns else n :: insertName name ns

def sortNames (names : List String) : List String := names.foldr insertName []

theorem perm_insertName (name : String) (ns : List String) :
    (insertName name ns).Perm (name :: ns) := by
  induction ns with
  | nil => exact List.Perm.refl _
  | cons n ns ih =>
    simp only [insertName]
    split
    · exact List.Perm.refl _
    · exact (ih.cons n).trans (List.Perm.swap name n ns)

/-- Sorting neither adds nor drops a name. -/
theorem perm_sortNames (ns : List String) : (sortNames ns).Perm ns := by
  induction ns with
  | nil => exact List.Perm.refl _
  | cons n ns ih => exact (perm_insertName n _).trans (ih.cons n)

theorem pairwise_insertName (name : String) {ns : List String} (h : ns.Pairwise (· ≤ ·)) :
    (insertName name ns).Pairwise (· ≤ ·) := by
  induction ns with
  | nil => exact List.pairwise_singleton _ _
  | cons n ns ih =>
    obtain ⟨hfirst, hrest⟩ := List.pairwise_cons.mp h
    simp only [insertName]
    split
    · rename_i hle
      refine List.pairwise_cons.mpr ⟨?_, h⟩
      intro m hm
      rcases List.mem_cons.mp hm with rfl | hm
      · exact hle
      · exact String.le_trans hle (hfirst m hm)
    · rename_i hnot
      refine List.pairwise_cons.mpr ⟨?_, ih hrest⟩
      intro m hm
      rcases List.mem_cons.mp ((perm_insertName name ns).mem_iff.mp hm) with rfl | hm
      · exact (String.le_total m n).resolve_left hnot
      · exact hfirst m hm

/-- Sorting puts the names in ascending order. -/
theorem pairwise_sortNames (ns : List String) : (sortNames ns).Pairwise (· ≤ ·) := by
  induction ns with
  | nil => exact List.Pairwise.nil
  | cons n ns ih => exact pairwise_insertName n ih

/-- Names that stand once are put in strictly ascending order. -/
theorem pairwise_lt_sortNames {ns : List String} (h : ns.Nodup) :
    (sortNames ns).Pairwise (· < ·) := by
  have hnodup : (sortNames ns).Nodup := (perm_sortNames ns).nodup_iff.mpr h
  refine ((pairwise_sortNames ns).and hnodup).imp ?_
  rintro a b ⟨hle, hne⟩
  exact Std.lt_of_le_of_ne hle hne

end ListenerPorts.Text
