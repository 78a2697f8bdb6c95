import Mathlib.Tactic

/-!
# First occurrences in a list

The first occurrences of a list are the entries whose key no earlier entry has.
Adding an entry at the end keeps it exactly when its key is new, so a list that
is built by adding what is missing holds the first occurrences.
-/

namespace SasOutline

variable {α β : Type} [DecidableEq β]

/-- No entry in front of `position` has the key of `entry`. -/
def occursFirst (key : α → β) (entries : List α) (entry : α) (position : Nat) : Bool :=
  (entries.take position).all fun earlier => key earlier ≠ key entry

def firstOccurrences (key : α → β) (entries : List α) : List α :=
  (entries.zipIdx.filter fun indexed =>
    occursFirst key entries indexed.1 indexed.2).map Prod.fst

@[simp] theorem firstOccurrences_nil (key : α → β) : firstOccurrences key [] = [] := rfl

theorem firstOccurrences_append_singleton (key : α → β) (entries : List α) (entry : α) :
    firstOccurrences key (entries ++ [entry]) =
      if entries.any (fun earlier => key earlier = key entry) then
        firstOccurrences key entries
      else firstOccurrences key entries ++ [entry] := by
  have hkept : (entries.zipIdx.filter fun indexed =>
        occursFirst key (entries ++ [entry]) indexed.1 indexed.2) =
      entries.zipIdx.filter fun indexed => occursFirst key entries indexed.1 indexed.2 := by
    apply List.filter_congr
    intro indexed hindexed
    have hposition := List.snd_lt_of_mem_zipIdx hindexed
    have hprefix : (entries ++ [entry]).take indexed.2 = entries.take indexed.2 :=
      List.take_append_of_le_length (by omega)
    simp only [occursFirst, hprefix]
  have hlast : occursFirst key (entries ++ [entry]) entry entries.length =
      !entries.any (fun earlier => key earlier = key entry) := by
    rw [List.not_any_eq_all_not]
    simp [occursFirst]
  unfold firstOccurrences
  rw [List.zipIdx_append, List.filter_append, hkept, List.zipIdx_singleton, Nat.zero_add]
  by_cases hknown : entries.any (fun earlier => key earlier = key entry) = true
  · rw [List.filter_cons_of_neg (by simp [hlast, hknown]), if_pos hknown]
    simp
  · rw [List.filter_cons_of_pos (by simpa [hlast] using hknown), if_neg hknown]
    simp

theorem any_firstOccurrences (key : α → β) (entries : List α) (wanted : β) :
    (firstOccurrences key entries).any (fun entry => key entry = wanted) =
      entries.any fun entry => key entry = wanted := by
  induction entries using List.reverseRecOn with
  | nil => rfl
  | append_singleton entries entry ih =>
      rw [firstOccurrences_append_singleton]
      by_cases hknown : entries.any (fun earlier => key earlier = key entry) = true
      · rw [if_pos hknown, ih, List.any_append]
        by_cases hwanted : key entry = wanted
        · rw [hwanted] at hknown
          simp [hknown]
        · simp [hwanted]
      · rw [if_neg hknown, List.any_append, List.any_append, ih]

theorem mem_firstOccurrences_id {entries : List β} {entry : β} :
    entry ∈ firstOccurrences id entries ↔ entry ∈ entries := by
  have hany := any_firstOccurrences id entries entry
  rw [Bool.eq_iff_iff] at hany
  simpa using hany

theorem mem_map_firstOccurrences {key : α → β} {entries : List α} {wanted : β} :
    wanted ∈ (firstOccurrences key entries).map key ↔ wanted ∈ entries.map key := by
  have hany := any_firstOccurrences key entries wanted
  rw [Bool.eq_iff_iff] at hany
  simpa using hany

theorem nodup_map_firstOccurrences (key : α → β) (entries : List α) :
    ((firstOccurrences key entries).map key).Nodup := by
  induction entries using List.reverseRecOn with
  | nil => exact List.nodup_nil
  | append_singleton entries entry ih =>
      rw [firstOccurrences_append_singleton]
      by_cases hknown : entries.any (fun earlier => key earlier = key entry) = true
      · rwa [if_pos hknown]
      · have hnew : key entry ∉ (firstOccurrences key entries).map key := by
          rw [mem_map_firstOccurrences]
          simpa using hknown
        rw [if_neg hknown, List.map_append, List.map_singleton]
        exact ih.append (List.nodup_singleton _) (List.disjoint_singleton.mpr hnew)

theorem mem_of_mem_firstOccurrences {key : α → β} {entries : List α} {entry : α}
    (h : entry ∈ firstOccurrences key entries) : entry ∈ entries := by
  obtain ⟨indexed, hindexed, rfl⟩ := List.mem_map.mp h
  exact List.fst_mem_of_mem_zipIdx (List.mem_filter.mp hindexed).1

/-- In a sorted list the first occurrence of a key ranks lowest among its entries. -/
theorem rank_le_of_mem_firstOccurrences {key : α → β} {rank : α → ℕ} {entries : List α}
    (hsorted : entries.Pairwise fun first second => rank first ≤ rank second) {entry : α}
    (h : entry ∈ firstOccurrences key entries) :
    ∀ other ∈ entries, key other = key entry → rank entry ≤ rank other := by
  induction entries using List.reverseRecOn with
  | nil => contradiction
  | append_singleton entries last ih =>
      obtain ⟨hearlier, -, hlast⟩ := List.pairwise_append.mp hsorted
      have hbehind : ∀ earlier ∈ entries, rank earlier ≤ rank last := by
        intro earlier hmem
        exact hlast earlier hmem last (List.mem_singleton_self last)
      have hkept (hold : entry ∈ firstOccurrences key entries) :
          ∀ other ∈ entries ++ [last], key other = key entry → rank entry ≤ rank other := by
        intro other hother hkey
        rcases List.mem_append.mp hother with hother | hother
        · exact ih hearlier hold other hother hkey
        · obtain rfl := List.mem_singleton.mp hother
          exact hbehind entry (mem_of_mem_firstOccurrences hold)
      rw [firstOccurrences_append_singleton] at h
      by_cases hknown : entries.any (fun earlier => key earlier = key last) = true
      · rw [if_pos hknown] at h
        exact hkept h
      · rw [if_neg hknown] at h
        rcases List.mem_append.mp h with hold | hnew
        · exact hkept hold
        · obtain rfl := List.mem_singleton.mp hnew
          intro other hother hkey
          rcases List.mem_append.mp hother with hother | hother
          · exact absurd (List.any_eq_true.mpr ⟨other, hother, decide_eq_true hkey⟩) hknown
          · rw [List.mem_singleton.mp hother]

/-- Entries whose keys occurred before leave no trace. -/
theorem firstOccurrences_append_known (key : α → β) (entries more : List α)
    (hknown : ∀ entry ∈ more, key entry ∈ entries.map key) :
    firstOccurrences key (entries ++ more) = firstOccurrences key entries := by
  induction more using List.reverseRecOn with
  | nil => rw [List.append_nil]
  | append_singleton more entry ih =>
      have hlast : key entry ∈ entries.map key := hknown entry (by simp)
      have hmore : ∀ other ∈ more, key other ∈ entries.map key := by
        intro other hother
        exact hknown other (List.mem_append_left _ hother)
      rw [← List.append_assoc, firstOccurrences_append_singleton, if_pos, ih hmore]
      obtain ⟨earlier, hearlier, hkey⟩ := List.mem_map.mp hlast
      exact List.any_eq_true.mpr
        ⟨earlier, List.mem_append_left _ hearlier, decide_eq_true hkey⟩

/-- Which keys occur does not depend on the order of the entries. -/
theorem map_firstOccurrences_perm (key : α → β) {entries other : List α}
    (hperm : entries.Perm other) :
    ((firstOccurrences key entries).map key).Perm ((firstOccurrences key other).map key) := by
  rw [List.perm_ext_iff_of_nodup (nodup_map_firstOccurrences key entries)
    (nodup_map_firstOccurrences key other)]
  intro wanted
  rw [mem_map_firstOccurrences, mem_map_firstOccurrences]
  exact (hperm.map key).mem_iff

end SasOutline
