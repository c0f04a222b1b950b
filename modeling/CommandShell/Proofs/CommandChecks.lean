import CommandShell.Command
import CommandShell.Proofs.Readings

/-!
The checks that the constructor of commands makes: the name is a text without blanks, there are
overloads and nothing else among them, and the aliases are names that differ from each other
and from the name of the command. The aliases are read in order after the name.
-/
namespace CommandShell.CommandChecks

open Text Readings

section Commands

variable {α : Type} {name aliases hidden : Value} {overloads : List (Option (Overload α))}

def WellNamed (name : String) : Prop := name ≠ "" ∧ ∀ c ∈ name.toList, isBlank c = false

inductive NameRefused : Value → Command.Error → Prop where
  | notText {v : Value} (h : v.isText = false) : NameRefused v .nameNotText
  | malformed {s : String} (h : ¬ WellNamed s) : NameRefused (.text s) .nameMalformed

inductive OverloadsRefused : List (Option (Overload α)) → Command.Error → Prop where
  | none : OverloadsRefused [] .noOverload
  | foreign {overloads : List (Option (Overload α))} (h : none ∈ overloads) :
      OverloadsRefused overloads .foreignOverload

/-- Aliases are the elements of a value that is no text. -/
structure Lists (aliases : Value) (items : List Value) : Prop where
  not_text : aliases.isText = false
  elements : aliases.elements? = some items

def aliasReading : Reading Value String Command.Error where
  read v :=
    match v with
    | .text s => if Command.isName s then .ok s else .error .aliasMalformed
    | _ => .error .aliasNotText
  name := id
  repeated := .aliasDuplicated

inductive AliasesRefused (name : String) : Value → Command.Error → Prop where
  | text {s : String} : AliasesRefused name (.text s) .aliasesText
  | notIterable {v : Value} (h : v.elements? = none) :
      AliasesRefused name v (.aliasesNotIterable (.notIterable v))
  | offence {v : Value} {items : List Value} {e : Command.Error} (hitems : Lists v items)
      (h : aliasReading.FirstOffence [name] items e) : AliasesRefused name v e

theorem checkName_eq_ok_iff {n : { s : String // Command.isName s = true }} :
    Command.checkName name = .ok n ↔ name = .text n.1 := by
  cases name with
  | text s =>
    rw [Command.checkName]
    constructor
    · intro h
      split at h
      case isTrue =>
        cases h
        rfl
      case isFalse => cases h
    · intro h
      cases h
      rw [dif_pos n.2]
  | _ => simp [Command.checkName]

theorem checkName_eq_error_iff {e : Command.Error} :
    Command.checkName name = .error e ↔ NameRefused name e := by
  constructor
  · intro h
    cases name with
    | text s =>
      rw [Command.checkName] at h
      split at h
      case isTrue => cases h
      case isFalse hname =>
        cases h
        exact .malformed fun hwell => hname (Command.isName_iff.mpr hwell)
    | _ =>
      cases h
      exact .notText rfl
  · rintro (h | h)
    · cases name with
      | text s => cases h
      | _ => rfl
    · exact dif_neg fun hname => h (Command.isName_iff.mp hname)

theorem mapM_id_eq_some_iff {β : Type} {items : List (Option β)} {kept : List β} :
    items.mapM id = some kept ↔ items = kept.map some := by
  induction items generalizing kept with
  | nil => cases kept <;> simp
  | cons item rest ih =>
    cases item with
    | none => cases kept <;> simp
    | some b =>
      cases kept with
      | nil => simp [Option.bind_eq_some_iff]
      | cons c others => simpa [Option.bind_eq_some_iff, ih] using and_comm

theorem exists_map_some_iff {β : Type} {items : List (Option β)} :
    (∃ kept : List β, items = kept.map some) ↔ none ∉ items := by
  constructor
  · rintro ⟨kept, rfl⟩
    simp
  · intro h
    refine ⟨items.filterMap id, ?_⟩
    have hsome : ∀ item ∈ items, item.isSome = true := by
      intro item hitem
      rw [Option.isSome_iff_ne_none]
      rintro rfl
      exact h hitem
    rw [List.map_filterMap_some_eq_filter_map_isSome, List.map_id, List.filter_eq_self.mpr hsome]

theorem checkOverloads_eq_ok_iff {first : Overload α} {others : List (Overload α)} :
    Command.checkOverloads overloads = .ok (first, others) ↔
      overloads = (first :: others).map some := by
  rw [← mapM_id_eq_some_iff, Command.checkOverloads]
  cases overloads with
  | nil => simp
  | cons item rest =>
    rw [List.isEmpty_cons, if_neg Bool.false_ne_true]
    split
    case h_1 f os heq => simp [heq]
    case h_2 hother =>
      constructor
      · intro h
        cases h
      · intro h
        exact absurd h (hother first others)

theorem checkOverloads_eq_error_iff {e : Command.Error} :
    Command.checkOverloads overloads = .error e ↔ OverloadsRefused overloads e := by
  cases overloads with
  | nil =>
    constructor
    · intro h
      cases h
      exact .none
    · rintro (_ | h)
      · rfl
      · cases h
  | cons item rest =>
    rw [Command.checkOverloads, List.isEmpty_cons, if_neg Bool.false_ne_true]
    split
    case h_1 first others heq =>
      constructor
      · intro h
        cases h
      · rintro (_ | h)
        exact absurd h (exists_map_some_iff.mp ⟨_, mapM_id_eq_some_iff.mp heq⟩)
    case h_2 hother =>
      constructor
      · intro h
        cases h
        refine .foreign ?_
        by_contra hmem
        obtain ⟨kept, hkept⟩ := exists_map_some_iff.mpr hmem
        cases kept with
        | nil => cases hkept
        | cons first others => exact hother first others (mapM_id_eq_some_iff.mpr hkept)
      · rintro ⟨⟩
        rfl

theorem checkAliasesFrom_eq_check (seen : List String) (items : List Value) :
    (Command.checkAliasesFrom seen items).map Subtype.val = aliasReading.check seen items := by
  induction items generalizing seen with
  | nil => rfl
  | cons v rest ih =>
    rw [Reading.check]
    cases v with
    | text s =>
      rw [Command.checkAliasesFrom]
      by_cases hs : Command.isName s = true
      · have hread : aliasReading.read (.text s) = .ok s := if_pos hs
        rw [hread]
        simp only [bind, Except.bind]
        rw [← ih]
        by_cases hseen : s ∈ seen
        · simp [aliasReading, hs, hseen, Except.map]
        · simp only [aliasReading, id, hs, hseen, ↓reduceDIte, ↓reduceIte]
          cases Command.checkAliasesFrom (s :: seen) rest with
          | error e => rfl
          | ok names =>
            obtain ⟨names, hvalid, hnodup, hfresh⟩ := names
            rfl
      · have hread : aliasReading.read (.text s) = .error .aliasMalformed := if_neg hs
        rw [hread, dif_neg hs]
        rfl
    | _ => rfl

theorem read_alias_eq_ok_iff (v : Value) (s : String) :
    aliasReading.read v = .ok s ↔ v = .text s ∧ Command.isName s = true := by
  cases v with
  | text t =>
    by_cases ht : Command.isName t = true
    · have hread : aliasReading.read (.text t) = .ok t := if_pos ht
      rw [hread]
      constructor
      · intro h
        cases h
        exact ⟨rfl, ht⟩
      · rintro ⟨h, -⟩
        cases h
        rfl
    · have hread : aliasReading.read (.text t) = .error .aliasMalformed := if_neg ht
      rw [hread]
      constructor
      · intro h
        cases h
      · rintro ⟨h, hs⟩
        cases h
        exact absurd hs ht
  | _ => simp [aliasReading]

theorem text_or_lists (v : Value) :
    (∃ text, v = .text text) ∨ v.elements? = none ∨ ∃ items, Lists v items := by
  cases htext : v.isText with
  | true =>
    cases v with
    | text t => exact Or.inl ⟨t, rfl⟩
    | _ => cases htext
  | false =>
    cases helements : v.elements? with
    | none => exact Or.inr (Or.inl rfl)
    | some items => exact Or.inr (Or.inr ⟨items, htext, helements⟩)

theorem Lists.unique {items others : List Value} (h : Lists aliases items)
    (hother : Lists aliases others) : items = others :=
  Option.some.inj (h.elements.symm.trans hother.elements)

section Aliases

variable {name : String}

theorem checkAliases_of_not_text (h : aliases.isText = false) :
    Command.checkAliases name aliases =
      match aliases.iterate with
      | .error failure => .error (.aliasesNotIterable failure)
      | .ok items => Command.checkAliasesFrom [name] items := by
  cases aliases with
  | text t => cases h
  | _ => rfl

theorem checkAliases_of_none (h : aliases.elements? = none) :
    Command.checkAliases name aliases = .error (.aliasesNotIterable (.notIterable aliases)) := by
  have htext : aliases.isText = false := by
    cases aliases with
    | text t => cases h
    | _ => rfl
  rw [checkAliases_of_not_text htext, Value.iterate, h]

theorem checkAliases_of_lists {items : List Value} (h : Lists aliases items) :
    Command.checkAliases name aliases = Command.checkAliasesFrom [name] items := by
  rw [checkAliases_of_not_text h.not_text, Value.iterate, h.elements]

theorem checkAliases_eq_ok_iff {names : { names : List String //
    (∀ n ∈ names, Command.isName n = true) ∧ names.Nodup ∧ ∀ n ∈ names, n ∉ [name] }} :
    Command.checkAliases name aliases = .ok names ↔ Lists aliases (names.1.map .text) := by
  rcases text_or_lists aliases with ⟨text, rfl⟩ | hnone | ⟨items, hitems⟩
  · constructor
    · intro h
      cases h
    · rintro ⟨h, _⟩
      cases h
  · rw [checkAliases_of_none hnone]
    constructor
    · intro h
      cases h
    · rintro ⟨_, h⟩
      rw [hnone] at h
      cases h
  · rw [checkAliases_of_lists hitems, ← map_val_eq_ok_iff, checkAliasesFrom_eq_check,
      Reading.check_eq_ok_iff (List.nodup_singleton name)]
    constructor
    · rintro ⟨hread, _⟩
      rwa [← ((Reading.map_read_eq_iff read_alias_eq_ok_iff).mp hread).1]
    · intro h
      obtain ⟨hvalid, hnodup, hfresh⟩ := names.2
      refine ⟨(Reading.map_read_eq_iff read_alias_eq_ok_iff).mpr ⟨hitems.unique h, hvalid⟩, ?_⟩
      have hname : name ∉ names.1 := fun hmem => hfresh name hmem List.mem_cons_self
      simpa [aliasReading] using ⟨hname, hnodup⟩

theorem checkAliases_eq_error_iff {e : Command.Error} :
    Command.checkAliases name aliases = .error e ↔ AliasesRefused name aliases e := by
  rcases text_or_lists aliases with ⟨text, rfl⟩ | hnone | ⟨items, hitems⟩
  · constructor
    · intro h
      cases h
      exact .text
    · rintro (_ | h | ⟨⟨h, _⟩, _⟩)
      · rfl
      · cases h
      · cases h
  · rw [checkAliases_of_none hnone]
    constructor
    · intro h
      cases h
      exact .notIterable hnone
    · rintro (_ | h | ⟨⟨_, h⟩, _⟩)
      · cases hnone
      · rfl
      · rw [hnone] at h
        cases h
  · rw [checkAliases_of_lists hitems, ← map_eq_error_iff, checkAliasesFrom_eq_check,
      Reading.check_eq_error_iff (List.nodup_singleton name)]
    constructor
    · exact .offence hitems
    · rintro (_ | h | ⟨hother, h⟩)
      · cases hitems.not_text
      · rw [hitems.elements] at h
        cases h
      · rwa [hitems.unique hother]

/-- A repeated name is reported before a malformed alias behind it. -/
example : Command.checkAliases "say" (.list [.text "tell", .text "say", .text "say so"]) =
    .error (.aliasDuplicated "say") := rfl

end Aliases

end Commands

end CommandShell.CommandChecks
