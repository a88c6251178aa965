import RemoteShell.Command

/-!
# Variables in the order of their names

A command line sets the variables of an environment in the order of their names.  Sorting loses none of them
(`sorted_perm`), names that stand once ascend (`ascending_sorted`), and what ascends is sorted already
(`foldr_insertSorted`).
-/

namespace RemoteShell.CommandOptions

variable {entry : String × String} {es : List (String × String)} {o : CommandOptions}

theorem insertSorted_perm (entry : String × String) (es : List (String × String)) :
    (insertSorted entry es).Perm (entry :: es) := by
  induction es with
  | nil => exact .refl _
  | cons e es ih =>
    rw [insertSorted]
    split
    · exact .refl _
    · exact (ih.cons e).trans (.swap entry e es)

/-- **The variables of a line are those of the environment.** -/
theorem sorted_perm (o : CommandOptions) : o.sorted.Perm o.environment := by
  rw [sorted]
  induction o.environment with
  | nil => exact .refl _
  | cons e es ih => exact (insertSorted_perm e _).trans (ih.cons e)

/-- The names ascend. -/
def Ascending (es : List (String × String)) : Prop :=
  es.Pairwise fun e e' => e.1 < e'.1

/-- A new name goes where it belongs. -/
theorem Ascending.insertSorted (h : Ascending es) (hnew : ∀ e ∈ es, e.1 ≠ entry.1) :
    Ascending (insertSorted entry es) := by
  induction es with
  | nil => exact List.pairwise_singleton _ _
  | cons e es ih =>
    obtain ⟨hfirst, hrest⟩ := List.pairwise_cons.1 h
    obtain ⟨hne, hnew⟩ := List.forall_mem_cons.1 hnew
    rw [CommandOptions.insertSorted]
    split
    · rename_i hlt
      refine List.pairwise_cons.2 ⟨List.forall_mem_cons.2 ⟨hlt, fun x hx => ?_⟩, h⟩
      exact String.lt_trans hlt (hfirst x hx)
    · rename_i hle
      have hlt : e.1 < entry.1 := Classical.byContradiction fun hnot =>
        hne (String.le_antisymm (String.not_lt.1 hle) (String.not_lt.1 hnot))
      refine List.pairwise_cons.2 ⟨fun x hx => ?_, ih hrest hnew⟩
      rcases List.mem_cons.1 ((insertSorted_perm entry es).mem_iff.1 hx) with rfl | hx
      · exact hlt
      · exact hfirst x hx

/-- **The variables of a line ascend** if each name stands once in the environment. -/
theorem ascending_sorted (h : (o.environment.map Prod.fst).Nodup) : Ascending o.sorted := by
  rw [sorted]
  induction hes : o.environment generalizing o with
  | nil => exact .nil
  | cons e es ih =>
    rw [hes, List.map_cons, List.nodup_cons] at h
    have hrest : Ascending (es.foldr CommandOptions.insertSorted []) := ih (o := ⟨none, es, none⟩) h.2 rfl
    refine hrest.insertSorted fun x hx hname => h.1 ?_
    have hmem : x ∈ es := (sorted_perm ⟨none, es, none⟩).mem_iff.1 hx
    exact hname ▸ List.mem_map_of_mem hmem

/-- What ascends is sorted already. -/
theorem Ascending.foldr_insertSorted (h : Ascending es) : es.foldr CommandOptions.insertSorted [] = es := by
  induction es with
  | nil => rfl
  | cons e es ih =>
    obtain ⟨hfirst, hrest⟩ := List.pairwise_cons.1 h
    rw [List.foldr_cons, ih hrest]
    cases es with
    | nil => rfl
    | cons e' es => rw [CommandOptions.insertSorted, if_pos (hfirst e' List.mem_cons_self)]

end RemoteShell.CommandOptions
