import CommandShell.Proofs.Classification
import CommandShell.Table.Overrides

/-!
Classification of a line written in two parts. Positional values and flags of the parts
stand side by side. The groups do not: the last group of the first part runs on into the
second one, up to its first marker, and only then do the groups of the second part come,
which replace those of the same name and leave them in their places.
-/
namespace CommandShell.Concatenation

open Spelling Classified Classification

variable {front back : List String}

/-- The group of a name, which runs on over `run` when its marker is the last of `tokens`. -/
def runOn (tokens run : List String) (name : String) (values : List String) : List String :=
  if (markers tokens).getLast? = some (marker name) then values ++ run else values

def extendLast (tokens run : List String) (named : Table (List String)) : Table (List String) :=
  named.map fun e => (e.1, runOn tokens run e.1 e.2)

/-- What a classification of two parts of a line is made of. -/
structure Concatenated (front back : List String) (c : Classified) : Prop where
  positional : c.positional = (ofTokens front).positional ++ (ofTokens back).positional
  flags : ∀ name, name ∈ c.flags ↔ name ∈ (ofTokens front).flags ∨ name ∈ (ofTokens back).flags
  named : c.named =
    (extendLast front (preamble back) (ofTokens front).named).merge (ofTokens back).named

section Markers

theorem markers_marker (name : String) (rest : List String) :
    markers (marker name :: rest) = marker name :: markers rest :=
  List.filter_cons_of_pos (decide_eq_true (doubleDashed_marker name))

theorem markers_of_not_doubleDashed {token : String} (h : ¬ DoubleDashed token)
    (rest : List String) : markers (token :: rest) = markers rest :=
  List.filter_cons_of_neg (by simpa using h)

/-- The last marker of a line is that of a group. -/
theorem exists_last_key (h : markers front ≠ []) :
    ∃ last, (markers front).getLast? = some (marker last) ∧ last ∈ keys (ofTokens front) := by
  have hlast := List.getLast?_eq_some_getLast h
  obtain ⟨hmem, hmarker⟩ := List.mem_filter.mp (List.getLast_mem h)
  obtain ⟨last, heq⟩ := exists_marker (of_decide_eq_true hmarker)
  rw [heq] at hlast hmem
  exact ⟨last, hlast, mem_keys_iff.mpr hmem⟩

theorem not_doubleDashed_of_markers (h : markers front = []) : ∀ t ∈ front, ¬ DoubleDashed t := by
  intro t ht
  simpa using List.filter_eq_nil_iff.mp h t ht

theorem named_of_markers (h : markers front = []) : (ofTokens front).named = [] := by
  have hempty : (ofTokens (front ++ [])).named = (ofTokens []).named :=
    named_ofTokens_append (not_doubleDashed_of_markers h)
  rwa [List.append_nil] at hempty

/-- Without a marker the whole part belongs to the group that is open. -/
theorem group_append_of_open (h : markers front = []) :
    group (front ++ back) = group front ++ preamble back := by
  have hopen := not_doubleDashed_of_markers h
  have hall : group (front ++ []) = front ++ [] := group_append hopen
  rw [List.append_nil] at hall
  rw [group_append hopen, hall, group_eq_preamble back]

/-- A group that is closed within the first part does not reach the second. -/
theorem group_append_of_markers (h : markers front ≠ []) : group (front ++ back) = group front := by
  obtain ⟨token, hmem⟩ := List.exists_mem_of_ne_nil _ h
  obtain ⟨hin, hmarker⟩ := List.mem_filter.mp hmem
  have hclosed : (group front).length ≠ front.length := by
    intro hlength
    have hall : group front = front := List.takeWhile_sublist _ |>.eq_of_length hlength
    rw [← hall] at hin
    have hopen := List.mem_takeWhile_imp hin
    simp [isMarker_iff.mpr (of_decide_eq_true hmarker)] at hopen
  rw [group, List.takeWhile_append]
  exact if_neg hclosed

end Markers

section Tables

variable {named : Table (List String)} {name : String}

/-- Opening a group before others are set is the same as opening it after them. -/
theorem set_openGroup (values other : List String) (key : String) :
    Table.set (openGroup name values named) key other =
      openGroup name values (named.set key other) := by
  by_cases hkey : key = name
  · subst hkey
    have hfilter : (named.set key other).filter (·.1 ≠ key) = named.filter (·.1 ≠ key) := by
      induction named with
      | nil => simp [Table.set]
      | cons entry rest ih =>
        by_cases hentry : entry.1 = key
        · simp [Table.set, hentry]
        · simpa [Table.set, hentry] using ih
    have hlookup : (named.set key other).lookup key = some other :=
      (Table.get?_set named key key other).trans (if_pos rfl)
    rw [openGroup, openGroup, hlookup, hfilter, Table.set, if_pos rfl, Option.getD_some]
  · have hname : ¬ name = key := fun h => hkey h.symm
    have hfilter : (named.set key other).filter (·.1 ≠ name) =
        Table.set (named.filter (·.1 ≠ name)) key other := by
      induction named with
      | nil => simp [Table.set, hkey]
      | cons entry rest ih =>
        by_cases hentry : entry.1 = key
        · simp [Table.set, hentry, hkey]
        · by_cases hopen : entry.1 = name
          · simpa [Table.set, hopen, hname] using ih
          · simpa [Table.set, hentry, hopen] using ih
    have hlookup : (named.set key other).lookup name = named.lookup name :=
      (Table.get?_set named key name other).trans (if_neg hname)
    rw [openGroup, openGroup, hlookup, hfilter, Table.set, if_neg hname]

theorem merge_openGroup (values : List String) (overrides : Table (List String)) :
    Table.merge (openGroup name values named) overrides =
      openGroup name values (named.merge overrides) := by
  induction overrides generalizing named with
  | nil => rfl
  | cons entry rest ih => rw [Table.merge_cons, Table.merge_cons, set_openGroup, ih]

/-- A group opened in front keeps the marker of a later one last. -/
theorem extendLast_openGroup {last : String} (tokens run values : List String)
    (hlast : (markers tokens).getLast? = some (marker last)) (hkey : last ∈ Table.keys named) :
    extendLast tokens run (openGroup name values named) =
      openGroup name values (extendLast tokens run named) := by
  have hfilter : (extendLast tokens run named).filter (·.1 ≠ name) =
      extendLast tokens run (named.filter (·.1 ≠ name)) := by
    rw [extendLast, List.filter_map]
    rfl
  have hlookup : (extendLast tokens run named).lookup name =
      (named.lookup name).map (runOn tokens run name) :=
    Table.get?_map_values named (runOn tokens run) name
  rw [openGroup, openGroup, hfilter, hlookup]
  cases hfound : named.lookup name with
  | some group => rfl
  | none =>
    -- the last marker has a group already, so it is not the one that is opened
    have hother : ¬ (markers tokens).getLast? = some (marker name) := by
      intro heq
      obtain rfl := marker_inj (Option.some.inj (hlast.symm.trans heq))
      obtain ⟨entry, hentry, hname⟩ := List.mem_map.mp hkey
      simpa [hname] using List.lookup_eq_none_iff.mp hfound entry hentry
    simp [extendLast, runOn, hother]

end Tables

theorem named_append (front back : List String) :
    (ofTokens (front ++ back)).named =
      (extendLast front (preamble back) (ofTokens front).named).merge (ofTokens back).named := by
  induction front with
  | nil =>
    exact (Table.merge_of_fresh (t := []) (keys_nodup_ofTokens back)).symm
  | cons token rest ih =>
    by_cases hmarker : DoubleDashed token
    · obtain ⟨name, rfl⟩ := exists_marker hmarker
      rw [List.cons_append, named_marker, named_marker, ih]
      by_cases hlater : markers rest = []
      · -- this is the last marker, and what follows it belongs to its group
        have hextended : extendLast (marker name :: rest) (preamble back)
            (openGroup name (group rest) []) = openGroup name (group rest ++ preamble back) [] := by
          simp [extendLast, runOn, openGroup, markers_marker, hlater]
        rw [named_of_markers hlater, group_append_of_open hlater, hextended, merge_openGroup]
        rfl
      · obtain ⟨last, hlast, hkey⟩ := exists_last_key hlater
        have hsame : (markers (marker name :: rest)).getLast? = (markers rest).getLast? := by
          rw [markers_marker, List.getLast?_cons, hlast, Option.getD_some]
        have hextended : extendLast (marker name :: rest) (preamble back) =
            extendLast rest (preamble back) := by
          funext named
          simp only [extendLast, runOn, hsame]
        rw [group_append_of_markers hlater, hextended,
          extendLast_openGroup rest (preamble back) (group rest) hlast hkey, merge_openGroup]
    · have hextended : extendLast (token :: rest) (preamble back) =
          extendLast rest (preamble back) := by
        funext named
        simp only [extendLast, runOn, markers_of_not_doubleDashed hmarker]
      rw [List.cons_append, named_of_not_doubleDashed hmarker, named_of_not_doubleDashed hmarker,
        hextended, ih]

/-- A name has its group in the second part, or else in the first, run on over the second. -/
theorem lookup_append (front back : List String) (name : String) :
    (ofTokens (front ++ back)).named.lookup name =
      ((ofTokens back).named.lookup name).or
        (((ofTokens front).named.lookup name).map (runOn front (preamble back) name)) := by
  rw [named_append]
  have hmerge := Table.get?_merge
    (extendLast front (preamble back) (ofTokens front).named) (keys_nodup_ofTokens back) name
  rwa [extendLast, Table.get?_map_values] at hmerge

theorem positional_append (front back : List String) :
    (ofTokens (front ++ back)).positional =
      (ofTokens front).positional ++ (ofTokens back).positional := by
  rw [positional_ofTokens, positional_ofTokens, positional_ofTokens, List.filter_append]

theorem flags_append (front back : List String) :
    (ofTokens (front ++ back)).flags = (ofTokens front).flags ++ (ofTokens back).flags := by
  rw [flags_ofTokens, flags_ofTokens, flags_ofTokens, List.filterMap_append]

theorem concatenated_ofTokens (front back : List String) :
    Concatenated front back (ofTokens (front ++ back)) := by
  constructor
  case positional => exact positional_append front back
  case flags =>
    intro name
    rw [flags_append, List.mem_append]
  case named => exact named_append front back

/-- The open group takes the run, and is then replaced where its name comes again. -/
example : (ofTokens (["--x", "1", "--y"] ++ ["2", "--x", "3"])).named =
    [("x", ["3"]), ("y", ["2"])] := by decide

end CommandShell.Concatenation
