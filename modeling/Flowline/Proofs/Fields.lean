import Flowline.Value
import Mathlib.Data.List.Induction

/-!
# Keyed lists

What is found under a key, and what becomes of entries that are put in one by one: a key keeps the
place of its first value and has the last one.
-/

namespace Flowline.Fields

variable {fields more : Fields α} {key other : String} {value : α}

-- ---------------------------------------------------------------------------
-- Looking up
-- ---------------------------------------------------------------------------

theorem find?_eq_none_iff : find? fields key = none ↔ key ∉ keys fields := by
  induction fields with
  | nil => simp [find?, keys]
  | cons entry rest ih =>
    obtain ⟨k, v⟩ := entry
    simp only [keys] at ih
    by_cases same : k = key <;> simp [find?, keys, same, ih, Ne.symm]

theorem find?_of_mem (distinct : (keys fields).Nodup) (mem : (key, value) ∈ fields) :
    find? fields key = some value := by
  induction fields with
  | nil => nomatch mem
  | cons entry rest ih =>
    obtain ⟨k, v⟩ := entry
    obtain ⟨new, others⟩ := List.nodup_cons.mp distinct
    rcases List.mem_cons.mp mem with same | mem
    · obtain ⟨rfl, rfl⟩ := Prod.mk.inj same
      simp [find?]
    · have known : key ∈ keys rest := List.mem_map_of_mem (f := Prod.fst) mem
      have apart : k ≠ key := by
        rintro rfl
        exact new known
      rw [find?, if_neg apart]
      exact ih others mem

-- ---------------------------------------------------------------------------
-- Putting
-- ---------------------------------------------------------------------------

theorem put_of_notMem (value : α) (absent : key ∉ keys fields) :
    put fields key value = fields ++ [(key, value)] := by
  induction fields with
  | nil => rfl
  | cons entry rest ih =>
    obtain ⟨k, v⟩ := entry
    simp only [keys, List.map_cons, List.mem_cons, not_or] at absent ih
    simp [put, Ne.symm absent.1, ih absent.2]

theorem put_put (fields : Fields α) (key : String) (old new : α) :
    put (put fields key old) key new = put fields key new := by
  induction fields with
  | nil => simp [put]
  | cons entry rest ih =>
    obtain ⟨k, v⟩ := entry
    by_cases same : k = key <;> simp [put, same, ih]

theorem put_comm (known : key ∈ keys fields) (apart : other ≠ key) (value value' : α) :
    put (put fields other value') key value = put (put fields key value) other value' := by
  induction fields with
  | nil => nomatch known
  | cons entry rest ih =>
    obtain ⟨k, v⟩ := entry
    simp only [keys, List.map_cons, List.mem_cons] at known ih
    by_cases here : k = key
    · subst here
      simp [put, Ne.symm apart]
    · have later := ih (known.resolve_left (Ne.symm here))
      by_cases there : k = other <;> simp [put, here, there, later, apart]

theorem mem_of_mem_put {entry : String × α} (mem : entry ∈ put fields key value) :
    entry ∈ fields ∨ entry = (key, value) := by
  induction fields with
  | nil => exact .inr (List.mem_singleton.mp mem)
  | cons head rest ih =>
    obtain ⟨k, v⟩ := head
    rw [put] at mem
    split at mem
    · rcases List.mem_cons.mp mem with new | old
      · exact .inr new
      · exact .inl (.tail _ old)
    · rcases List.mem_cons.mp mem with rfl | mem
      · exact .inl (.head _)
      · exact (ih mem).imp_left (.tail _)

-- ---------------------------------------------------------------------------
-- Merging
-- ---------------------------------------------------------------------------

theorem merge_concat (fields more : Fields α) (key : String) (value : α) :
    merge fields (more ++ [(key, value)]) = put (merge fields more) key value := by
  simp [merge]

theorem mem_of_mem_merge {entry : String × α} (mem : entry ∈ merge fields more) :
    entry ∈ fields ∨ entry ∈ more := by
  induction more generalizing fields with
  | nil => exact .inl mem
  | cons head rest ih =>
    have step : entry ∈ put fields head.1 head.2 ∨ entry ∈ rest := ih mem
    rcases step with mem | mem
    · refine (mem_of_mem_put mem).imp_right fun new => ?_
      rw [new]
      exact List.mem_cons_self
    · exact .inr (.tail _ mem)

theorem nodup_keys_merge (distinct : (keys fields).Nodup) (more : Fields α) :
    (keys (merge fields more)).Nodup := by
  induction more generalizing fields with
  | nil => exact distinct
  | cons entry rest ih => exact ih (nodup_keys_put fields entry.1 entry.2 distinct)

theorem find?_merge_of_notMem (absent : key ∉ keys more) :
    find? (merge fields more) key = find? fields key := by
  induction more generalizing fields with
  | nil => rfl
  | cons head rest ih =>
    obtain ⟨apart, others⟩ := List.ne_and_not_mem_of_not_mem_cons absent
    change find? (merge (put fields head.1 head.2) rest) key = _
    rw [ih others, find?_put_of_ne _ _ apart]

theorem find?_merge (fields more : Fields α) (key : String) (distinct : (keys more).Nodup) :
    find? (merge fields more) key = (find? more key).or (find? fields key) := by
  induction more generalizing fields with
  | nil => rfl
  | cons entry rest ih =>
    obtain ⟨k, v⟩ := entry
    obtain ⟨new, others⟩ := List.nodup_cons.mp distinct
    have step : merge fields ((k, v) :: rest) = merge (put fields k v) rest := rfl
    rw [step, ih _ others]
    by_cases same : k = key
    · subst same
      simp [find?, find?_eq_none_iff.mpr new]
    · simp [find?, same, Ne.symm same]

theorem merge_put_of_mem (again : key ∈ keys more) (old new : α) :
    merge (put fields key old) more = merge (put fields key new) more := by
  induction more generalizing fields with
  | nil => nomatch again
  | cons entry rest ih =>
    obtain ⟨k, v⟩ := entry
    change merge (put (put fields key old) k v) rest = merge (put (put fields key new) k v) rest
    by_cases same : k = key
    · subst same
      rw [put_put, put_put]
    · have known : key ∈ keys (put fields key old) := by
        rw [keys_put]
        split
        · assumption
        · simp
      have later : merge (put (put (put fields key old) k v) key old) rest =
          merge (put (put (put fields key old) k v) key new) rest :=
        ih ((List.mem_cons.mp again).resolve_left (Ne.symm same))
      rwa [put_comm known same, put_comm known same, put_put, put_put] at later

/-- A key keeps the place of its first value. -/
theorem keys_merge_nil (more : Fields α) : keys (merge [] more) = (keys more).eraseDups := by
  induction more using List.reverseRecOn with
  | nil => rfl
  | append_singleton front last ih =>
    have known : last.1 ∈ (keys front).eraseDups ↔ last.1 ∈ keys front := List.mem_eraseDups
    have split : keys (front ++ [last]) = keys front ++ [last.1] := List.map_append
    rw [merge_concat, keys_put, ih, split, List.eraseDups_append, List.cons_removeAll]
    by_cases old : last.1 ∈ keys front <;> simp [known, old, List.eraseDups_cons]

/-- Of the values of a key the last one counts. -/
theorem find?_merge_nil (more : Fields α) (key : String) :
    find? (merge [] more) key = (more.filter (·.1 == key)).getLast?.map (·.2) := by
  induction more using List.reverseRecOn with
  | nil => rfl
  | append_singleton front last ih =>
    rw [merge_concat, List.filter_append]
    by_cases same : last.1 = key
    · simp [same]
    · simp [same, Ne.symm same, ih]

theorem merge_nil_of_nodup (distinct : (keys more).Nodup) : merge [] more = more := by
  induction more using List.reverseRecOn with
  | nil => rfl
  | append_singleton front last ih =>
    have split : keys (front ++ [last]) = keys front ++ [last.1] := List.map_append
    rw [split, List.nodup_append] at distinct
    obtain ⟨before, -, apart⟩ := distinct
    have absent : last.1 ∉ keys front := fun known =>
      apart _ known _ (List.mem_singleton_self _) rfl
    rw [merge_concat, ih before, put_of_notMem _ absent]

end Flowline.Fields
