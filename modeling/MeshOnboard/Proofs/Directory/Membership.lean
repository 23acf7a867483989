import MeshOnboard.Directory.Roster
import Mathlib.Algebra.BigOperators.Group.Finset.Basic
import Mathlib.Data.String.Basic

/-!
# Membership

The teams of a login are the names that a roster maps to lists with the login.  They stand in
strictly increasing order by code point.  The counts of a roster are those of its names.
-/

namespace MeshOnboard.Roster

/-- A team has a login if the roster maps its name to a list with the login. -/
theorem mem_teamsOf {r : Roster} {login name : String} :
  name ∈ r.teamsOf login ↔ ∃ logins, r.find? name = some logins ∧ login ∈ logins
  := by
  simp only [teamsOf, List.mem_mergeSort, List.mem_map, List.mem_filter, List.contains_iff_mem,
    Table.find?_eq_some_iff]
  constructor
  · rintro ⟨⟨name, logins⟩, ⟨entry, has⟩, rfl⟩
    use logins
  · rintro ⟨logins, entry, has⟩
    use (name, logins)

theorem nodup_teamsOf (r : Roster) (login : String) :
  (r.teamsOf login).Nodup
  := by
  apply (List.mergeSort_perm _ _).nodup_iff.2
  apply (List.filter_sublist.map Prod.fst).nodup r.nodup_keys

/-- The teams of a login stand in increasing order. -/
theorem pairwise_teamsOf (r : Roster) (login : String) :
  (r.teamsOf login).Pairwise (· < ·)
  := by
  have sorted : (r.teamsOf login).Pairwise fun a b => nameLe a b = true := by
    apply List.pairwise_mergeSort
    · intro a b c hab hbc
      simp only [nameLe, Bool.not_eq_true', decide_eq_false_iff_not, not_lt] at hab hbc ⊢
      apply hab.trans hbc
    · intro a b
      simp only [nameLe, Bool.or_eq_true, Bool.not_eq_true', decide_eq_false_iff_not, not_lt]
      apply le_total a b
  apply sorted.imp₂ _ (nodup_teamsOf r login)
  intro a b hab hne
  simp only [nameLe, Bool.not_eq_true', decide_eq_false_iff_not, not_lt] at hab
  apply lt_of_le_of_ne hab hne

/-- The size of a roster is the number of its names. -/
theorem size_eq_card (r : Roster) :
  r.size = r.keys.toFinset.card
  := by
  rw [List.toFinset_card_of_nodup r.nodup_keys, Table.length_keys]

/-- The memberships of a roster are the sum of the lengths of its lists. -/
theorem memberships_eq_sum (r : Roster) :
  r.memberships = ∑ name ∈ r.keys.toFinset, ((r.find? name).getD []).length
  := by
  rw [List.sum_toFinset _ r.nodup_keys, memberships, List.length_flatten, Table.values, Table.keys,
    List.map_map, List.map_map]
  congr 1
  apply List.map_congr_left
  rintro ⟨name, logins⟩ h
  simp [Table.find?_eq_some_iff.2 h]

end MeshOnboard.Roster
