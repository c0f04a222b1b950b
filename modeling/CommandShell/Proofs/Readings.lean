import Mathlib.Data.List.Nodup

/-!
Lists that are read in order. An element is read as something with a name, or cannot be read;
the names found so far are taken, and the first element that cannot be read or has a taken name
is reported. So a name that stands twice is reported at its second place. A reading succeeds
exactly if every element can be read and all names differ.
-/
namespace CommandShell.Readings

section Results

variable {β γ ε : Type} {x : Except ε β} {f : β → Except ε γ}

theorem bind_eq_ok_iff {c : γ} : x >>= f = .ok c ↔ ∃ b, x = .ok b ∧ f b = .ok c := by
  cases x with
  | error e => simp [bind, Except.bind]
  | ok b => simp [bind, Except.bind]

theorem bind_eq_error_iff {e : ε} :
    x >>= f = .error e ↔ x = .error e ∨ ∃ b, x = .ok b ∧ f b = .error e := by
  cases x with
  | error d => simp [bind, Except.bind]
  | ok b => simp [bind, Except.bind]

theorem map_eq_ok_iff {g : β → γ} {c : γ} : x.map g = .ok c ↔ ∃ b, x = .ok b ∧ g b = c := by
  cases x with
  | error e => simp [Except.map]
  | ok b => simp [Except.map]

theorem map_eq_error_iff {g : β → γ} {e : ε} : x.map g = .error e ↔ x = .error e := by
  cases x with
  | error d => simp [Except.map]
  | ok b => simp [Except.map]

theorem map_val_eq_ok_iff {p : β → Prop} {y : Except ε { b // p b }} {b : { b // p b }} :
    y.map Subtype.val = .ok b.1 ↔ y = .ok b := by
  rw [map_eq_ok_iff]
  constructor
  · rintro ⟨c, hy, hc⟩
    rw [hy, Subtype.ext hc]
  · rintro rfl
    exact ⟨b, rfl, rfl⟩

end Results

/-- How an element of a list is read: as something with a name, or as an error. `repeated` is
the error for a name that is taken. -/
structure Reading (β γ ε : Type) where
  read : β → Except ε γ
  name : γ → String
  repeated : String → ε

namespace Reading

variable {β γ ε : Type} (r : Reading β γ ε)

def check (taken : List String) : List β → Except ε (List γ)
  | [] => .ok []
  | item :: rest => do
    let g ← r.read item
    if r.name g ∈ taken then .error (r.repeated (r.name g))
    else (check (r.name g :: taken) rest).map (g :: ·)

/-- Every element is read, and no name is taken or stands twice. -/
structure Admits (taken : List String) (items : List β) (kept : List γ) : Prop where
  read : items.map r.read = kept.map .ok
  distinct : (taken ++ kept.map r.name).Nodup

inductive Offends (taken : List String) (item : β) : ε → Prop where
  | unread {e : ε} (hread : r.read item = .error e) : Offends taken item e
  | repeated {g : γ} (hread : r.read item = .ok g) (htaken : r.name g ∈ taken) :
      Offends taken item (r.repeated (r.name g))

/-- The elements before the first one that offends are admitted, and their names are taken. -/
def FirstOffence (taken : List String) (items : List β) (e : ε) : Prop :=
  ∃ before item after kept, items = before ++ item :: after ∧ r.Admits taken before kept ∧
    r.Offends (taken ++ kept.map r.name) item e

variable {r} {taken : List String} {item : β} {rest : List β} {kept : List γ} {e : ε}

theorem admits_nil_iff (h : taken.Nodup) : r.Admits taken [] kept ↔ kept = [] := by
  constructor
  · rintro ⟨hread, -⟩
    exact List.map_eq_nil_iff.mp hread.symm
  · rintro rfl
    exact ⟨rfl, by simpa using h⟩

theorem admits_cons_iff : r.Admits taken (item :: rest) kept ↔
    ∃ g others, kept = g :: others ∧ r.read item = .ok g ∧
      r.Admits (r.name g :: taken) rest others := by
  constructor
  · rintro ⟨hread, hdistinct⟩
    cases kept with
    | nil => cases hread
    | cons g others =>
      rw [List.map_cons, List.map_cons, List.cons.injEq] at hread
      -- the name of the head moves in front of the taken ones
      exact ⟨g, others, rfl, hread.1, hread.2, List.perm_middle.nodup_iff.mp hdistinct⟩
  · rintro ⟨g, others, rfl, hitem, hread, hdistinct⟩
    exact ⟨by rw [List.map_cons, List.map_cons, hitem, hread],
      List.perm_middle.nodup_iff.mpr hdistinct⟩

theorem Admits.fresh {name : String} (h : r.Admits (name :: taken) rest kept) : name ∉ taken :=
  fun htaken => (List.nodup_cons.mp h.distinct).1 (List.mem_append_left _ htaken)

theorem map_read_eq_iff {embed : γ → β} {valid : γ → Prop}
    (hread : ∀ b g, r.read b = .ok g ↔ b = embed g ∧ valid g) {items : List β} :
    items.map r.read = kept.map .ok ↔ items = kept.map embed ∧ ∀ g ∈ kept, valid g := by
  induction items generalizing kept with
  | nil => cases kept <;> simp
  | cons item rest ih =>
    cases kept with
    | nil => simp
    | cons g others =>
      rw [List.map_cons, List.map_cons, List.cons.injEq, hread, ih, List.map_cons, List.cons.injEq,
        List.forall_mem_cons]
      exact and_and_and_comm

theorem Offends.mono {other : List String} (h : r.Offends taken item e)
    (hsubset : taken ⊆ other) : r.Offends other item e := by
  cases h with
  | unread hread => exact .unread hread
  | repeated hread htaken => exact .repeated hread (hsubset htaken)

/-- Either the head offends, or its name is taken from there on. -/
theorem firstOffence_cons_iff (h : taken.Nodup) : r.FirstOffence taken (item :: rest) e ↔
    r.Offends taken item e ∨ ∃ g, r.read item = .ok g ∧ r.name g ∉ taken ∧
      r.FirstOffence (r.name g :: taken) rest e := by
  constructor
  · rintro ⟨before, bad, after, kept, hitems, hadmits, hbad⟩
    cases before with
    | nil =>
      obtain ⟨rfl, rfl⟩ := List.cons.inj hitems
      obtain rfl := (admits_nil_iff h).mp hadmits
      exact Or.inl (hbad.mono (by simp))
    | cons front before =>
      obtain ⟨rfl, rfl⟩ := List.cons.inj hitems
      obtain ⟨g, others, rfl, hread, hothers⟩ := admits_cons_iff.mp hadmits
      exact Or.inr ⟨g, hread, hothers.fresh, before, bad, after, others, rfl, hothers,
        hbad.mono List.perm_middle.subset⟩
  · rintro (hbad | ⟨g, hread, _, before, bad, after, others, rfl, hothers, hbad⟩)
    · exact ⟨[], item, rest, [], rfl, (admits_nil_iff h).mpr rfl, hbad.mono (by simp)⟩
    · exact ⟨item :: before, bad, after, g :: others, rfl,
        admits_cons_iff.mpr ⟨g, others, rfl, hread, hothers⟩,
        hbad.mono List.perm_middle.symm.subset⟩

theorem check_eq_ok_iff {items : List β} (h : taken.Nodup) :
    r.check taken items = .ok kept ↔ r.Admits taken items kept := by
  induction items generalizing taken kept with
  | nil => rw [admits_nil_iff h, check, Except.ok.injEq, eq_comm]
  | cons item rest ih =>
    rw [check, bind_eq_ok_iff, admits_cons_iff]
    constructor
    · rintro ⟨g, hread, hrest⟩
      split at hrest
      case isTrue => cases hrest
      case isFalse hfresh =>
        obtain ⟨others, hothers, rfl⟩ := map_eq_ok_iff.mp hrest
        exact ⟨g, others, rfl, hread, (ih (List.nodup_cons.mpr ⟨hfresh, h⟩)).mp hothers⟩
    · rintro ⟨g, others, rfl, hread, hothers⟩
      refine ⟨g, hread, ?_⟩
      rw [if_neg hothers.fresh]
      exact map_eq_ok_iff.mpr
        ⟨others, (ih (List.nodup_cons.mpr ⟨hothers.fresh, h⟩)).mpr hothers, rfl⟩

theorem check_eq_error_iff {items : List β} (h : taken.Nodup) :
    r.check taken items = .error e ↔ r.FirstOffence taken items e := by
  induction items generalizing taken with
  | nil =>
    constructor
    · intro hcheck
      cases hcheck
    · rintro ⟨before, item, after, _, hitems, _⟩
      cases before <;> cases hitems
  | cons item rest ih =>
    rw [check, bind_eq_error_iff, firstOffence_cons_iff h]
    constructor
    · rintro (hread | ⟨g, hread, hrest⟩)
      · exact Or.inl (.unread hread)
      · split at hrest
        case isTrue htaken =>
          cases hrest
          exact Or.inl (.repeated hread htaken)
        case isFalse hfresh =>
          exact Or.inr ⟨g, hread, hfresh,
            (ih (List.nodup_cons.mpr ⟨hfresh, h⟩)).mp (map_eq_error_iff.mp hrest)⟩
    · rintro (hbad | ⟨g, hread, hfresh, hrest⟩)
      · cases hbad with
        | unread hread => exact Or.inl hread
        | repeated hread htaken => exact Or.inr ⟨_, hread, if_pos htaken⟩
      · refine Or.inr ⟨g, hread, ?_⟩
        rw [if_neg hfresh]
        exact map_eq_error_iff.mpr ((ih (List.nodup_cons.mpr ⟨hfresh, h⟩)).mpr hrest)

end Reading

end CommandShell.Readings
