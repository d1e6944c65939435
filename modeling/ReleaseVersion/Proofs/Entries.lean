import Mathlib.Data.List.Nodup
import Mathlib.Data.List.Perm.Basic

/-!
# Entries of different names

A list of entries stands for a function from names as long as no name comes twice.  What is looked
up in it then does not depend on the order of the entries.
-/

namespace ReleaseVersion

variable {α : Type}

/-- Among entries of different names a look-up finds exactly what is there. -/
theorem lookup_eq_some_iff_mem {entries : List (String × α)}
    (keyed : (entries.map Prod.fst).Nodup) {name : String} {value : α} :
    entries.lookup name = some value ↔ (name, value) ∈ entries := by
  induction entries with
  | nil => simp
  | cons entry rest inductionHypothesis =>
      obtain ⟨first, held⟩ := entry
      obtain ⟨fresh, distinct⟩ := List.nodup_cons.mp keyed
      by_cases here : name = first
      · subst here
        have absent : (name, value) ∉ rest := fun member =>
          fresh (List.mem_map.mpr ⟨_, member, rfl⟩)
        rw [List.lookup_cons_self, List.mem_cons]
        simp [absent, eq_comm]
      · rw [List.lookup_cons, beq_eq_false_iff_ne.mpr here, List.mem_cons,
          inductionHypothesis distinct]
        simp [here]

theorem lookup_eq_none_iff_not_mem {entries : List (String × α)} {name : String} :
    entries.lookup name = none ↔ name ∉ entries.map Prod.fst := by
  rw [List.lookup_eq_none_iff]
  constructor
  · intro missing member
    obtain ⟨entry, entryMember, same⟩ := List.mem_map.mp member
    exact absurd same.symm (bne_iff_ne.mp (missing entry entryMember))
  · intro absent entry member
    apply bne_iff_ne.mpr
    rintro rfl
    exact absent (List.mem_map_of_mem member)

/-- The order of entries of different names does not matter. -/
theorem lookup_eq_of_perm {entries others : List (String × α)} (permuted : entries.Perm others)
    (keyed : (entries.map Prod.fst).Nodup) (name : String) :
    entries.lookup name = others.lookup name := by
  have keyedToo : (others.map Prod.fst).Nodup := (permuted.map Prod.fst).nodup_iff.mp keyed
  apply Option.ext
  intro value
  rw [lookup_eq_some_iff_mem keyed, lookup_eq_some_iff_mem keyedToo, permuted.mem_iff]

end ReleaseVersion
