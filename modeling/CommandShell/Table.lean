/-!
Tables in insertion order. Setting a present key keeps its place and a new
key goes to the end, so a table lists its keys in the order in which they were
first set. `get?_set` is the law that every user of a table relies on.
-/
namespace CommandShell

abbrev Table (β : Type) := List (String × β)

namespace Table

variable {β : Type}

def get? (t : Table β) (key : String) : Option β := List.lookup key t

def keys (t : Table β) : List String := t.map (·.1)

def set (t : Table β) (key : String) (value : β) : Table β :=
  match t with
  | [] => [(key, value)]
  | (k, v) :: rest => if k = key then (k, value) :: rest else (k, v) :: set rest key value

def erase (t : Table β) (key : String) : Table β := t.filter (·.1 ≠ key)

/-- Sets every entry of `overrides` in turn. -/
def merge (t overrides : Table β) : Table β := overrides.foldl (fun t e => t.set e.1 e.2) t

theorem get?_cons (k other : String) (v : β) (rest : Table β) :
    get? ((k, v) :: rest) other = if other = k then some v else get? rest other := by
  by_cases h : other = k
  · simp [get?, h]
  · have hb : (other == k) = false := by simpa using h
    simp [get?, List.lookup_cons, hb, h]

theorem get?_eq_some_of_mem {t : Table β} (hnodup : t.keys.Nodup) {key : String} {v : β}
    (h : (key, v) ∈ t) : t.get? key = some v := by
  induction t with
  | nil => cases h
  | cons entry rest ih =>
    obtain ⟨k, w⟩ := entry
    obtain ⟨hfresh, hrest⟩ := List.nodup_cons.mp hnodup
    rw [get?_cons]
    rcases List.mem_cons.mp h with heq | hmem
    · obtain ⟨rfl, rfl⟩ := Prod.mk.inj heq
      exact if_pos rfl
    · have hne : key ≠ k := by
        rintro rfl
        exact hfresh (List.mem_map.mpr ⟨_, hmem, rfl⟩)
      rw [if_neg hne]
      exact ih hrest hmem

theorem mem_of_get? {t : Table β} {key : String} {v : β} (h : t.get? key = some v) :
    (key, v) ∈ t := by
  induction t with
  | nil => cases h
  | cons entry rest ih =>
    obtain ⟨k, w⟩ := entry
    rw [get?_cons] at h
    by_cases hk : key = k
    · rw [if_pos hk] at h
      rw [hk, Option.some.inj h]
      exact List.mem_cons_self
    · rw [if_neg hk] at h
      exact List.mem_cons_of_mem _ (ih h)

theorem get?_eq_some_iff_mem {t : Table β} (hnodup : t.keys.Nodup) {key : String} {v : β} :
    t.get? key = some v ↔ (key, v) ∈ t := ⟨mem_of_get?, get?_eq_some_of_mem hnodup⟩

/-- With distinct keys the order of the entries is of no account. -/
theorem get?_perm {t u : Table β} (h : t.Perm u) (hnodup : t.keys.Nodup) (key : String) :
    t.get? key = u.get? key := by
  have hkeys : t.keys.Perm u.keys := List.Perm.map Prod.fst h
  have hnodup' : u.keys.Nodup := hkeys.nodup_iff.mp hnodup
  apply Option.ext
  intro v
  rw [get?_eq_some_iff_mem hnodup, get?_eq_some_iff_mem hnodup', h.mem_iff]

theorem get?_eq_none_of_notMem {t : Table β} {key : String} (h : key ∉ t.keys) :
    t.get? key = none := by
  induction t with
  | nil => rfl
  | cons entry rest ih =>
    obtain ⟨hne, hrest⟩ := not_or.mp (mt List.mem_cons.mpr h)
    rw [get?_cons, if_neg hne]
    exact ih hrest

/-- A key that is not there yet goes to the end. -/
theorem set_of_notMem {t : Table β} {key : String} (h : key ∉ t.keys) (value : β) :
    t.set key value = t ++ [(key, value)] := by
  induction t with
  | nil => rfl
  | cons entry rest ih =>
    obtain ⟨k, v⟩ := entry
    obtain ⟨hne, hrest⟩ := not_or.mp (mt List.mem_cons.mpr h)
    rw [set, if_neg (Ne.symm hne), ih hrest, List.cons_append]

theorem get?_set (t : Table β) (key other : String) (value : β) :
    (t.set key value).get? other = if other = key then some value else t.get? other := by
  induction t with
  | nil => simp [set, get?_cons]
  | cons entry rest ih =>
    obtain ⟨k, v⟩ := entry
    by_cases hk : k = key
    · subst hk
      by_cases h : other = k <;> simp [set, get?_cons, h]
    · simp only [set, if_neg hk, get?_cons, ih]
      by_cases h : other = k
      · subst h
        simp [hk]
      · simp [h]

/-- Overrides with distinct keys win over what a table holds. -/
theorem get?_merge (t : Table β) {overrides : Table β} (hnodup : overrides.keys.Nodup)
    (key : String) : (t.merge overrides).get? key = (overrides.get? key).or (t.get? key) := by
  induction overrides generalizing t with
  | nil => rfl
  | cons entry rest ih =>
    obtain ⟨k, v⟩ := entry
    obtain ⟨hfresh, hrest⟩ := List.nodup_cons.mp hnodup
    change (merge (t.set k v) rest).get? key = _
    rw [ih (t.set k v) hrest, get?_set, get?_cons]
    by_cases hkey : key = k
    · subst hkey
      rw [get?_eq_none_of_notMem hfresh, if_pos rfl, if_pos rfl]
      rfl
    · rw [if_neg hkey, if_neg hkey]

/-- A change of the values alone is seen through every key. -/
theorem get?_map_values {γ : Type} (t : Table β) (f : String → β → γ) (key : String) :
    get? (t.map fun e => (e.1, f e.1 e.2)) key = (t.get? key).map (f key) := by
  induction t with
  | nil => rfl
  | cons entry rest ih =>
    obtain ⟨k, v⟩ := entry
    rw [List.map_cons, get?_cons, get?_cons, ih]
    by_cases hkey : key = k
    · rw [if_pos hkey, if_pos hkey, hkey]
      rfl
    · rw [if_neg hkey, if_neg hkey]

theorem keys_set (t : Table β) (key : String) (value : β) :
    (t.set key value).keys = if key ∈ t.keys then t.keys else t.keys ++ [key] := by
  induction t with
  | nil => simp [set, keys]
  | cons entry rest ih =>
    obtain ⟨k, v⟩ := entry
    simp only [keys] at ih
    by_cases hk : k = key
    · simp [set, keys, hk]
    · have hk' : ¬ key = k := fun h => hk h.symm
      by_cases hmem : key ∈ rest.map (·.1) <;> simp_all [set, keys]

theorem mem_keys_set {t : Table β} {key other : String} {value : β} :
    other ∈ (t.set key value).keys ↔ other = key ∨ other ∈ t.keys := by
  rw [keys_set]
  by_cases hmem : key ∈ t.keys
  · rw [if_pos hmem]
    constructor
    · exact Or.inr
    · rintro (rfl | hother)
      · exact hmem
      · exact hother
  · rw [if_neg hmem, List.mem_append, List.mem_singleton, or_comm]

theorem mem_keys_of_get? {t : Table β} {key : String} {v : β} (h : t.get? key = some v) :
    key ∈ t.keys := by
  by_cases hmem : key ∈ t.keys
  · exact hmem
  · rw [get?_eq_none_of_notMem hmem] at h
    cases h

theorem exists_get?_of_mem_keys {t : Table β} {key : String} (h : key ∈ t.keys) :
    ∃ v, t.get? key = some v := by
  induction t with
  | nil => cases h
  | cons entry rest ih =>
    obtain ⟨k, v⟩ := entry
    by_cases hk : key = k
    · exact ⟨v, by rw [get?_cons, if_pos hk]⟩
    · obtain ⟨w, hw⟩ := ih ((List.mem_cons.mp h).resolve_left hk)
      exact ⟨w, by rw [get?_cons, if_neg hk, hw]⟩

theorem set_of_get? {t : Table β} {key : String} {value : β} (h : t.get? key = some value) :
    t.set key value = t := by
  induction t with
  | nil => cases h
  | cons entry rest ih =>
    obtain ⟨k, v⟩ := entry
    rw [get?_cons] at h
    by_cases hk : key = k
    · rw [if_pos hk] at h
      rw [set, if_pos hk.symm, Option.some.inj h]
    · rw [if_neg hk] at h
      rw [set, if_neg (Ne.symm hk), ih h]

theorem set_set (t : Table β) (key : String) (first second : β) :
    (t.set key first).set key second = t.set key second := by
  induction t with
  | nil => simp [set]
  | cons entry rest ih =>
    obtain ⟨k, v⟩ := entry
    by_cases hk : k = key
    · rw [set, if_pos hk, set, if_pos hk, set, if_pos hk]
    · rw [set, if_neg hk, set, if_neg hk, set, if_neg hk, ih]

theorem exists_split_of_mem_keys {t : Table β} {key : String} (h : key ∈ t.keys) :
    ∃ before value after, t = before ++ (key, value) :: after ∧ key ∉ keys before := by
  obtain ⟨value, hvalue⟩ := exists_get?_of_mem_keys h
  obtain ⟨before, after, hsplit, hbefore⟩ := List.lookup_eq_some_iff.mp hvalue
  refine ⟨before, value, after, hsplit, ?_⟩
  intro hmem
  obtain ⟨entry, hentry, rfl⟩ := List.mem_map.mp hmem
  simpa using hbefore entry hentry

/-- A key that is there already keeps its place. -/
theorem set_append_cons {before after : Table β} {key : String} (h : key ∉ before.keys)
    (old value : β) :
    set (before ++ (key, old) :: after) key value = before ++ (key, value) :: after := by
  induction before with
  | nil => exact if_pos rfl
  | cons entry rest ih =>
    obtain ⟨k, v⟩ := entry
    obtain ⟨hne, hrest⟩ := not_or.mp (mt List.mem_cons.mpr h)
    rw [List.cons_append, set, if_neg (Ne.symm hne), ih hrest, List.cons_append]

theorem erase_of_notMem {t : Table β} {key : String} (h : key ∉ t.keys) : t.erase key = t := by
  apply List.filter_eq_self.mpr
  intro entry hentry
  apply decide_eq_true
  rintro rfl
  exact h (List.mem_map.mpr ⟨entry, hentry, rfl⟩)

theorem erase_append_cons {before after : Table β} {key : String} (hbefore : key ∉ before.keys)
    (hafter : key ∉ after.keys) (value : β) :
    erase (before ++ (key, value) :: after) key = before ++ after := by
  have hfront := erase_of_notMem hbefore
  have hback := erase_of_notMem hafter
  rw [erase] at hfront hback ⊢
  rw [List.filter_append, hfront, List.filter_cons_of_neg (by simp), hback]

theorem keys_nodup_set {t : Table β} (h : t.keys.Nodup) (key : String) (value : β) :
    (t.set key value).keys.Nodup := by
  rw [keys_set]
  split
  case isTrue => exact h
  case isFalse hfresh =>
    rw [List.nodup_append]
    refine ⟨h, List.nodup_cons.mpr ⟨List.not_mem_nil, List.nodup_nil⟩, ?_⟩
    intro k hk other hother
    rw [List.mem_singleton.mp hother]
    rintro rfl
    exact hfresh hk

end Table

end CommandShell
