import CommandShell.Builtin
import CommandShell.Proofs.HelpLines
import CommandShell.Proofs.Registrations
import CommandShell.Table.Overrides
import CommandShell.TextRecord

/-!
The summary of a registry, read off its registrations. It has a block for each name whose last
registration stored a command that is not hidden, by increasing name, and a block has a line
for each of the first overloads of its command. Distinct names can be registered in any order:
the summary and the listings of names come out the same.
-/
namespace CommandShell.VisibleSummary

open StyledTexts HelpLines Registrations Help

variable {α : Type}

/-- Increasing names, each with the command that it stands for after a history, without the
names of hidden commands. -/
structure Lists (history : List (Registration α)) (entries : List (String × Command α)) :
    Prop where
  increasing : entries.Pairwise fun e f => e.1 < f.1
  stored : ∀ name c, (name, c) ∈ entries ↔
    IsLast (Named name) history ⟨name, c⟩ ∧ c.hidden = false

/-- The lines of a command under a name: one for each of its first overloads, which shows how
the overload is used and then its help text. -/
structure Block (R : Toolkit) (paint : Paint) (name : String) (c : Command α)
    (lines : List R.Text) : Prop where
  count : lines.length = min 3 c.overloads.length
  shown : ∀ (i : Nat) (t : R.Text), lines[i]? = some t →
    ∃ o, c.overloads[i]? = some o ∧ t = (line paint name o).build R ∧
      R.plain t = R.plain ((usage paint name o).build R) ++ " | " ++ Toolkit.shown o.help

/-- The listings of a registry after a history: its names and its visible commands, and a
summary with the block of each visible command and with nothing else. -/
structure Listed (R : Toolkit) (paint : Paint) (history : List (Registration α))
    (r : Registry α) : Prop where
  named : r.names.Pairwise (· < ·) ∧ ∀ name, name ∈ r.names ↔ name ∈ history.map Registration.name
  visible : Lists history r.visible
  summary : ∃ blocks, R.texts ((summary paint r).build R) = blocks.flatten ∧
    List.Forall₂ (fun e lines => Block R paint e.1 e.2 lines) r.visible blocks

section Visible

variable {r : Registry α}

theorem eq_of_increasing {β : Type} (key : β → String) {l l' : List β}
    (h : l.Pairwise fun a b => key a < key b) (h' : l'.Pairwise fun a b => key a < key b)
    (hmem : ∀ b, b ∈ l ↔ b ∈ l') : l = l' := by
  have hne {a b : β} (hlt : key a < key b) : a ≠ b := by
    rintro rfl
    exact lt_irrefl _ hlt
  have hperm : l.Perm l' :=
    (List.perm_ext_iff_of_nodup (h.imp hne) (h'.imp hne)).mpr hmem
  exact hperm.eq_of_pairwise (fun a b _ _ hlt hgt => absurd hlt (lt_asymm hgt)) h h'

theorem mem_visible (hnodup : r.commands.keys.Nodup) {name : String} {c : Command α} :
    (name, c) ∈ r.visible ↔ r.commands.get? name = some c ∧ c.hidden = false := by
  rw [Registry.visible, List.mem_mergeSort, List.mem_filter, Table.get?_eq_some_iff_mem hnodup,
    Bool.not_eq_true']

theorem visible_increasing (hnodup : r.commands.keys.Nodup) :
    r.visible.Pairwise fun e f => e.1 < f.1 := by
  have hsorted : r.visible.Pairwise fun e f => e.1 ≤ f.1 := by
    exact pairwise_le_mergeSort_entries _
  have hkeys : (r.visible.map (·.1)).Nodup := by
    have hperm := (List.mergeSort_perm (r.commands.filter fun e => !e.2.hidden)
      fun e f => e.1 ≤ f.1).map (·.1)
    rw [Registry.visible, hperm.nodup_iff]
    exact hnodup.sublist (List.filter_sublist.map _)
  exact (hsorted.and (List.pairwise_map.mp hkeys)).imp fun h => lt_of_le_of_ne h.1 h.2

/-- The listings depend on what the names stand for, and on nothing else. -/
theorem visible_congr {r' : Registry α} (hnodup : r.commands.keys.Nodup)
    (hnodup' : r'.commands.keys.Nodup)
    (h : ∀ name, r.commands.get? name = r'.commands.get? name) : r.visible = r'.visible := by
  apply eq_of_increasing Prod.fst (visible_increasing hnodup) (visible_increasing hnodup')
  rintro ⟨name, c⟩
  rw [mem_visible hnodup, mem_visible hnodup', h]

end Visible

section Summary

variable (R : Toolkit) [R.LawfulPlain] (paint : Paint)

theorem block_lines (name : String) (c : Command α) : Block R paint name c
    ((c.overloads.take summaryLimit).map fun o => (line paint name o).build R) where
  count := by rw [List.length_map, List.length_take, summaryLimit]
  shown := by
    intro i t ht
    rw [List.getElem?_map, Option.map_eq_some_iff] at ht
    obtain ⟨o, ho, rfl⟩ := ht
    rw [List.getElem?_take] at ho
    split at ho
    · exact ⟨o, ho, rfl, reading_line R paint name o⟩
    · cases ho

variable [R.LawfulScreens]

omit [R.LawfulPlain] in
theorem texts_summary (r : Registry α) : R.texts ((summary paint r).build R) =
    (r.visible.map fun e => (e.2.overloads.take summaryLimit).map fun o =>
      (line paint e.1 o).build R).flatten := by
  rw [summary, texts_group, summaryLines, List.map_flatMap, List.flatMap_def]
  congr 1
  exact List.map_congr_left fun e _ => List.map_map

theorem listed_ofHistory (history : List (Registration α)) :
    Listed R paint history (ofHistory history) := by
  have hnodup := keys_nodup_ofHistory history
  constructor
  case named => exact ⟨names_sorted_ofHistory history, fun _ => mem_names_ofHistory⟩
  case visible =>
    refine ⟨visible_increasing hnodup, ?_⟩
    intro name c
    rw [mem_visible hnodup, get?_commands_ofHistory]
  case summary =>
    refine ⟨_, texts_summary R paint _, ?_⟩
    rw [List.forall₂_map_right_iff, List.forall₂_same]
    exact fun e _ => block_lines R paint e.1 e.2

end Summary

section Reordered

variable {history history' : List (Registration α)} (earlier : List (Registration α))

theorem commands_ofHistory_append (earlier later : List (Registration α)) :
    (ofHistory (earlier ++ later)).commands =
      (ofHistory earlier).commands.merge (later.map fun e => (e.name, e.command)) := by
  induction later using List.reverseRecOn with
  | nil =>
    rw [List.append_nil]
    rfl
  | append_singleton later e ih =>
    rw [← List.append_assoc, ofHistory_concat, Registry.register, ih, List.map_append,
      Table.merge_append]
    rfl

/-- Registrations under distinct names do not overwrite each other. -/
theorem get?_commands_perm (hperm : history.Perm history')
    (hnodup : (history.map Registration.name).Nodup) (name : String) :
    (ofHistory (earlier ++ history)).commands.get? name =
      (ofHistory (earlier ++ history')).commands.get? name := by
  have hkeys (l : List (Registration α)) :
      Table.keys (l.map fun e => (e.name, e.command)) = l.map Registration.name :=
    List.map_map
  have hnodup' : (history'.map Registration.name).Nodup := (hperm.map _).nodup_iff.mp hnodup
  rw [commands_ofHistory_append, commands_ofHistory_append,
    Table.get?_merge _ (by rw [hkeys]; exact hnodup),
    Table.get?_merge _ (by rw [hkeys]; exact hnodup'),
    Table.get?_perm (hperm.map _) (by rw [hkeys]; exact hnodup)]

theorem visible_perm (hperm : history.Perm history')
    (hnodup : (history.map Registration.name).Nodup) :
    (ofHistory (earlier ++ history)).visible = (ofHistory (earlier ++ history')).visible :=
  visible_congr (keys_nodup_ofHistory _) (keys_nodup_ofHistory _)
    (get?_commands_perm earlier hperm hnodup)

/-- The names that are registered do not depend on the order at all. -/
theorem names_perm (hperm : history.Perm history') :
    (ofHistory (earlier ++ history)).names = (ofHistory (earlier ++ history')).names := by
  apply eq_of_increasing id (names_sorted_ofHistory _) (names_sorted_ofHistory _)
  intro name
  rw [mem_names_ofHistory, mem_names_ofHistory, List.map_append, List.map_append, List.mem_append,
    List.mem_append, (hperm.map Registration.name).mem_iff]

end Reordered

/-- The summary lists the visible commands, and the same ones in whatever order commands are
registered under distinct names. -/
theorem summary_of_registrations (R : Toolkit) [R.LawfulPlain] [R.LawfulScreens] (paint : Paint)
    (history : List (Registration α)) :
    Listed R paint history (ofHistory history) ∧
      ∀ earlier reordered : List (Registration α), history.Perm reordered →
        (history.map Registration.name).Nodup →
        summary paint (ofHistory (earlier ++ history)) =
            summary paint (ofHistory (earlier ++ reordered)) ∧
          (ofHistory (earlier ++ history)).names = (ofHistory (earlier ++ reordered)).names ∧
          (ofHistory (earlier ++ history)).visible =
            (ofHistory (earlier ++ reordered)).visible := by
  refine ⟨listed_ofHistory R paint history, ?_⟩
  intro earlier reordered hperm hnodup
  have hvisible := visible_perm earlier hperm hnodup
  refine ⟨?_, names_perm earlier hperm, hvisible⟩
  rw [summary, summary, summaryLines, summaryLines, hvisible]

/-- Two commands that are registered under distinct names, in both orders. -/
theorem summary_of_echo_and_set :
    [Registration.mk "set" (Builtin.setCommand id), ⟨"echo", Builtin.echoCommand id⟩].Perm
        [⟨"echo", Builtin.echoCommand id⟩, ⟨"set", Builtin.setCommand id⟩] ∧
      ["set", "echo"].Nodup ∧
      Listed TextRecord.toolkit (paint Host.empty true)
        [⟨"set", Builtin.setCommand id⟩, ⟨"echo", Builtin.echoCommand id⟩]
        (ofHistory [⟨"set", Builtin.setCommand id⟩, ⟨"echo", Builtin.echoCommand id⟩]) ∧
      summary (paint Host.empty true)
          (ofHistory [⟨"set", Builtin.setCommand id⟩, ⟨"echo", Builtin.echoCommand id⟩]) =
        summary (paint Host.empty true)
          (ofHistory [⟨"echo", Builtin.echoCommand id⟩, ⟨"set", Builtin.setCommand id⟩]) := by
  have hperm := List.Perm.swap (Registration.mk "echo" (Builtin.echoCommand id))
    ⟨"set", Builtin.setCommand id⟩ []
  have hnodup : ["set", "echo"].Nodup := by decide
  have hlisted := summary_of_registrations TextRecord.toolkit (paint Host.empty true)
    [Registration.mk "set" (Builtin.setCommand id), ⟨"echo", Builtin.echoCommand id⟩]
  exact ⟨hperm, hnodup, hlisted.1, (hlisted.2 [] _ hperm hnodup).1⟩

end CommandShell.VisibleSummary
