import CommandShell.Table

/-!
Overriding a table. The last override of a key wins, whatever stood there, and a key that is
there already keeps its place. So a table stays as it is exactly when each key holds the last
of its overrides, however often they repeat the key.
-/
namespace CommandShell

namespace Table

variable {β : Type}

theorem merge_cons (t : Table β) (key : String) (value : β) (rest : Table β) :
    t.merge ((key, value) :: rest) = (t.set key value).merge rest := rfl

/-- New keys are appended as they stand. -/
theorem merge_of_fresh {t overrides : Table β} (h : (t.keys ++ overrides.keys).Nodup) :
    t.merge overrides = t ++ overrides := by
  induction overrides generalizing t with
  | nil => exact (List.append_nil t).symm
  | cons entry rest ih =>
    obtain ⟨k, v⟩ := entry
    have hshift : (keys (t ++ [(k, v)]) ++ keys rest).Nodup := by
      simpa only [keys, List.map_append, List.map_cons, List.map_nil, List.append_assoc,
        List.singleton_append] using h
    have hfresh : k ∉ t.keys := by
      intro hmem
      exact (List.nodup_append.mp h).2.2 k hmem k List.mem_cons_self rfl
    rw [merge_cons, set_of_notMem hfresh, ih hshift, List.append_assoc]
    rfl

theorem merge_append (t first second : Table β) :
    t.merge (first ++ second) = (t.merge first).merge second := List.foldl_append

theorem get?_merge_of_notMem (t : Table β) {overrides : Table β} {key : String}
    (h : key ∉ overrides.keys) : (t.merge overrides).get? key = t.get? key := by
  induction overrides generalizing t with
  | nil => rfl
  | cons entry rest ih =>
    obtain ⟨k, v⟩ := entry
    obtain ⟨hne, hrest⟩ := not_or.mp (mt List.mem_cons.mpr h)
    rw [merge_cons, ih (t.set k v) hrest, get?_set, if_neg hne]

/-- What a key is overridden with does not depend on what stood there. -/
theorem get?_merge_congr (t u : Table β) {overrides : Table β} {key : String}
    (h : key ∈ overrides.keys) : (t.merge overrides).get? key = (u.merge overrides).get? key := by
  induction overrides generalizing t u with
  | nil => cases h
  | cons entry rest ih =>
    obtain ⟨k, v⟩ := entry
    rw [merge_cons, merge_cons]
    by_cases hlater : key ∈ keys rest
    · exact ih (t.set k v) (u.set k v) hlater
    · obtain rfl : key = k := (List.mem_cons.mp h).resolve_right hlater
      rw [get?_merge_of_notMem _ hlater, get?_merge_of_notMem _ hlater, get?_set, get?_set,
        if_pos rfl, if_pos rfl]

theorem exists_get?_merge (t : Table β) {overrides : Table β} {key : String}
    (h : key ∈ overrides.keys) : ∃ v, (t.merge overrides).get? key = some v := by
  induction overrides generalizing t with
  | nil => cases h
  | cons entry rest ih =>
    obtain ⟨k, v⟩ := entry
    rw [merge_cons]
    by_cases hlater : key ∈ keys rest
    · exact ih (t.set k v) hlater
    · obtain rfl : key = k := (List.mem_cons.mp h).resolve_right hlater
      rw [get?_merge_of_notMem _ hlater, get?_set]
      exact ⟨v, if_pos rfl⟩

/-- A key that is there already can be set before or after another. -/
theorem set_comm {t : Table β} {key other : String} (h : key ∈ t.keys) (hne : other ≠ key)
    (value otherValue : β) :
    (t.set key value).set other otherValue = (t.set other otherValue).set key value := by
  induction t with
  | nil => cases h
  | cons entry rest ih =>
    obtain ⟨k, v⟩ := entry
    by_cases hk : k = key
    · subst hk
      simp [set, Ne.symm hne]
    · have hrest : key ∈ keys rest := (List.mem_cons.mp h).resolve_left (Ne.symm hk)
      by_cases hother : k = other
      · subst hother
        simp [set, hk]
      · simp [set, hk, hother, ih hrest]

/-- An entry that is overridden again later may be set to anything first. -/
theorem merge_set_of_mem {t overrides : Table β} {key : String} (hold : key ∈ t.keys)
    (hnew : key ∈ overrides.keys) (value : β) :
    (t.set key value).merge overrides = t.merge overrides := by
  induction overrides generalizing t with
  | nil => cases hnew
  | cons entry rest ih =>
    obtain ⟨k, v⟩ := entry
    rw [merge_cons, merge_cons]
    by_cases hk : k = key
    · rw [hk, set_set]
    · have hrest : key ∈ keys rest := (List.mem_cons.mp hnew).resolve_left (Ne.symm hk)
      rw [set_comm hold hk, ih (mem_keys_set.mpr (Or.inr hold)) hrest]

/-- Overrides that change the value of no key leave the whole table as it is. -/
theorem merge_eq_self_iff {t overrides : Table β} :
    t.merge overrides = t ↔
      ∀ key ∈ overrides.keys, (t.merge overrides).get? key = t.get? key := by
  constructor
  · intro h key _
    rw [h]
  · intro h
    induction overrides with
    | nil => rfl
    | cons entry rest ih =>
      obtain ⟨k, v⟩ := entry
      have hfirst : (t.merge ((k, v) :: rest)).get? k = t.get? k := h k List.mem_cons_self
      have hrest : ∀ key ∈ keys rest, (t.merge rest).get? key = t.get? key := by
        intro key hkey
        rw [← h key (List.mem_cons_of_mem k hkey), merge_cons]
        exact get?_merge_congr t (t.set k v) hkey
      rw [merge_cons] at hfirst ⊢
      by_cases hlater : k ∈ keys rest
      · obtain ⟨w, hw⟩ := exists_get?_merge t hlater
        rw [hrest k hlater] at hw
        have hold : k ∈ t.keys := mem_keys_of_get? hw
        rw [merge_set_of_mem hold hlater, ih hrest]
      · rw [get?_merge_of_notMem (t.set k v) hlater, get?_set, if_pos rfl] at hfirst
        rw [set_of_get? hfirst.symm, ih hrest]

end Table

end CommandShell
