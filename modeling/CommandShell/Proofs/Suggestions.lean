import CommandShell.Proofs.Registrations
import Mathlib

/-!
What a missed lookup suggests. The candidates are the names and then the aliases, so a text
that is both is a candidate twice. Ranking puts equal texts next to each other: whichever of
the first four suggestions is both a name and an alias is suggested a second time right after,
and nothing else is ever repeated. Every suggestion can be looked up, and the hint names the
first one.
-/
namespace CommandShell.Suggestions

open Registrations Text

section Ranking

/-- The matched letters over all letters; two empty words are as alike as equal words. -/
def weight (s : Similarity) : Nat × Nat := if s.total = 0 then (1, 2) else (s.shared, s.total)

def fraction (s : Similarity) : ℚ := (weight s).1 / (weight s).2

/-- Candidates compare by similarity first and by their text then. -/
def rank (e : Similarity × String) : ℚ ×ₗ String := toLex (fraction e.1, e.2)

/-- A candidate with its similarity to a word. -/
def scored (word candidate : String) : Similarity × String :=
  (similarity (candidate.toList.map id) word.toList, candidate)

def isClose (word candidate : String) : Bool := (scored word candidate).1.isClose

/-- The close candidates, best first. -/
def ranked (word : String) (candidates : List String) : List String :=
  (((candidates.map (scored word)).filter (·.1.isClose)).mergeSort Similarity.ranks).map (·.2)

theorem closeMatches_eq (word : String) (candidates : List String) :
    closeMatches word candidates = (ranked word candidates).take 5 := rfl

theorem weight_pos (s : Similarity) : (0 : ℚ) < (weight s).2 := by
  rw [weight, Nat.cast_pos]
  split
  · exact Nat.two_pos
  case isFalse htotal => exact Nat.pos_of_ne_zero htotal

theorem less_iff (s t : Similarity) : s.less t = true ↔ fraction s < fraction t := by
  have hless : s.less t = decide ((weight s).1 * (weight t).2 < (weight t).1 * (weight s).2) := rfl
  rw [hless, decide_eq_true_eq, fraction, fraction, div_lt_div_iff₀ (weight_pos s) (weight_pos t)]
  norm_cast

theorem ranks_iff (d e : Similarity × String) : Similarity.ranks d e = true ↔ rank e ≤ rank d := by
  rw [rank, rank, Prod.Lex.toLex_le_toLex, Similarity.ranks, Bool.or_eq_true, Bool.and_eq_true,
    less_iff, Bool.not_eq_true', ← Bool.not_eq_true, less_iff, decide_eq_true_eq]
  constructor
  · rintro (hless | ⟨hnot, htext⟩)
    · exact Or.inl hless
    · exact (not_lt.mp hnot).lt_or_eq.imp_right fun heq => ⟨heq, htext⟩
  · rintro (hless | ⟨heq, htext⟩)
    · exact Or.inl hless
    · exact Or.inr ⟨heq.not_gt, htext⟩

variable (word : String) (candidates : List String)

theorem ranked_perm : (ranked word candidates).Perm (candidates.filter (isClose word)) := by
  have hsame : ((candidates.map (scored word)).filter (·.1.isClose)).map (·.2) =
      candidates.filter (isClose word) := by
    rw [List.filter_map, List.map_map]
    exact List.map_id _
  rw [← hsame]
  exact (List.mergeSort_perm _ _).map _

theorem pairwise_ranked :
    (ranked word candidates).Pairwise fun s t => rank (scored word t) ≤ rank (scored word s) := by
  let sorted := ((candidates.map (scored word)).filter (·.1.isClose)).mergeSort Similarity.ranks
  have hsorted : sorted.Pairwise fun d e => Similarity.ranks d e = true := by
    apply List.pairwise_mergeSort
    · intro c d e hcd hde
      rw [ranks_iff] at hcd hde ⊢
      exact hde.trans hcd
    · intro d e
      rw [Bool.or_eq_true, ranks_iff, ranks_iff]
      exact le_total _ _
  have hscored : ∀ e ∈ sorted, scored word e.2 = e := by
    intro e he
    rw [List.mem_mergeSort] at he
    obtain ⟨candidate, _, rfl⟩ := List.mem_map.mp (List.mem_of_mem_filter he)
    rfl
  rw [ranked, List.pairwise_map]
  refine hsorted.imp_of_mem fun {d e} hd he h => ?_
  rw [hscored d hd, hscored e he]
  exact (ranks_iff d e).mp h

/-- A text that is ranked again is ranked again at once. -/
theorem next_of_ranked {before after : List String} {s : String}
    (h : ranked word candidates = before ++ s :: after) (hs : s ∈ after) :
    ∃ rest, after = s :: rest := by
  have hsorted := pairwise_ranked word candidates
  rw [h] at hsorted
  obtain ⟨hfirst, hafter⟩ := List.pairwise_cons.mp (List.pairwise_append.mp hsorted).2.1
  cases after with
  | nil => cases hs
  | cons t rest =>
    rcases List.mem_cons.mp hs with rfl | hs
    · exact ⟨rest, rfl⟩
    · have hle := hfirst t List.mem_cons_self
      have hge := (List.pairwise_cons.mp hafter).1 s hs
      have heq : rank (scored word t) = rank (scored word s) := le_antisymm hle hge
      have htext : t = s := congrArg (fun r => (ofLex r).2) heq
      exact ⟨rest, by rw [htext]⟩

end Ranking

variable {α : Type}

/-- A text that is both a name and an alias. -/
def Shared (r : Registry α) (s : String) : Prop := s ∈ r.commands.keys ∧ s ∈ r.aliases.keys

section Known

variable {r : Registry α} {query s : String}

theorem aliases_nodup_ofHistory (history : List (Registration α)) :
    (ofHistory history).aliases.keys.Nodup := by
  induction history using List.reverseRecOn with
  | nil => exact List.nodup_nil
  | append_singleton history e ih =>
    rw [ofHistory_concat]
    exact List.foldlRecOn (motive := fun t : Table (Command α) => t.keys.Nodup) _ _ ih
      fun t ht a _ => Table.keys_nodup_set ht a e.command

/-- Keys of one table are distinct, so only a text that is in both is known twice. -/
theorem count_known (hnames : r.commands.keys.Nodup) (haliases : r.aliases.keys.Nodup)
    (s : String) : r.known.count s ≤ 2 ∧ (2 ≤ r.known.count s ↔ Shared r s) := by
  have hone {keys : List String} (h : keys.Nodup) :
      keys.count s ≤ 1 ∧ (1 ≤ keys.count s ↔ s ∈ keys) :=
    ⟨List.nodup_iff_count_le_one.mp h s, List.one_le_count_iff⟩
  obtain ⟨hname, hmemName⟩ := hone hnames
  obtain ⟨halias, hmemAlias⟩ := hone haliases
  rw [Registry.known, List.count_append, Shared, ← hmemName, ← hmemAlias]
  omega

theorem exists_lookup_of_mem_known (h : s ∈ r.known) : ∃ c, r.lookup s = .ok c := by
  have hfound : ∃ c, r.find? s = some c := by
    rw [Registry.find?]
    cases hname : r.commands.get? s with
    | some c => exact ⟨c, rfl⟩
    | none =>
      rcases List.mem_append.mp h with hkey | hkey
      · obtain ⟨c, hc⟩ := Table.exists_get?_of_mem_keys hkey
        rw [hname] at hc
        cases hc
      · exact Table.exists_get?_of_mem_keys hkey
  obtain ⟨c, hc⟩ := hfound
  exact ⟨c, by rw [Registry.lookup, hc]⟩

/-- A miss reports the text as it was asked for, with close matches of what is known. -/
theorem lookup_eq_error_iff {e : UnknownCommand} :
    r.lookup query = .error e ↔
      r.find? query = none ∧ e = ⟨.text query, .text query, r.suggestions query⟩ := by
  rw [Registry.lookup]
  cases r.find? query with
  | some c => simp
  | none => simp [eq_comm]

end Known

/-- What a miss suggests. -/
structure Suggested (r : Registry α) (query : String) (e : UnknownCommand) : Prop where
  few : e.suggestions.length ≤ 5
  missed : query ∉ e.suggestions
  usable : ∀ s ∈ e.suggestions, ∃ c, r.lookup s = .ok c
  close : ∀ s ∈ e.suggestions, isClose query s = true
  complete : e.suggestions.length < 5 → ∀ s ∈ r.known, isClose query s = true → s ∈ e.suggestions
  hinted : ∀ host best rest, e.suggestions = best :: rest →
    (e.toFault host).options.get? "hint" = some (.text
      ("did you mean " ++ quote best ++ "? you can also run 'help' to see all commands"))
  unhinted : ∀ host, e.suggestions = [] →
    (e.toFault host).options.get? "hint" = some (.text "run 'help' to see all available commands")
  shown : ∀ host, (e.toFault host).options.get? "suggestions" =
    some (.list (e.suggestions.map .text))
  twice : ∀ s, e.suggestions.count s ≤ 2
  nodup_iff : e.suggestions.Nodup ↔ ∀ s ∈ e.suggestions.take 4, ¬ Shared r s

section Suggested

variable {r : Registry α} {query s : String}

theorem get?_hint (e : UnknownCommand) (host : Host) :
    (e.toFault host).options.get? "hint" = some (.text e.hint) := rfl

theorem mem_ranked_iff : s ∈ ranked query r.known ↔ s ∈ r.known ∧ isClose query s = true := by
  rw [(ranked_perm query r.known).mem_iff, List.mem_filter]

theorem count_ranked_le (query s : String) :
    (ranked query r.known).count s ≤ r.known.count s := by
  rw [(ranked_perm query r.known).count_eq]
  exact List.filter_sublist.count_le s

theorem count_ranked (h : s ∈ ranked query r.known) :
    (ranked query r.known).count s = r.known.count s := by
  rw [(ranked_perm query r.known).count_eq, List.count_filter (mem_ranked_iff.mp h).2]

/-- A text that is known twice and ranked early has its second place right behind the first. -/
theorem split_of_shared (hnames : r.commands.keys.Nodup) (haliases : r.aliases.keys.Nodup)
    (hshared : Shared r s) (hs : s ∈ (ranked query r.known).take 4) :
    ∃ before rest, before.length < 4 ∧ ranked query r.known = before ++ s :: s :: rest := by
  obtain ⟨before, cut, hcut, hfirst⟩ := List.eq_append_cons_of_mem hs
  let after := cut ++ (ranked query r.known).drop 4
  have hsplit : ranked query r.known = before ++ s :: after := by
    rw [← List.cons_append, ← List.append_assoc, ← hcut, List.take_append_drop]
  have hagain : s ∈ after := by
    have htwice := (count_known hnames haliases s).2.mpr hshared
    rw [← count_ranked (List.mem_of_mem_take hs), hsplit, List.count_append,
      List.count_eq_zero_of_not_mem hfirst, List.count_cons_self] at htwice
    exact List.count_pos_iff.mp (by omega)
  obtain ⟨rest, hrest⟩ := next_of_ranked query r.known hsplit hagain
  refine ⟨before, rest, ?_, by rw [hsplit, hrest]⟩
  have hlength := congrArg List.length hcut
  rw [List.length_append, List.length_cons, List.length_take] at hlength
  omega

/-- The fifth suggestion is the only one whose second place can be cut off. -/
theorem nodup_take_ranked (hnames : r.commands.keys.Nodup) (haliases : r.aliases.keys.Nodup) :
    ((ranked query r.known).take 5).Nodup ↔
      ∀ s ∈ (ranked query r.known).take 4, ¬ Shared r s := by
  constructor
  · intro hnodup s hs hshared
    obtain ⟨before, rest, hplace, hsplit⟩ := split_of_shared hnames haliases hshared hs
    obtain ⟨k, hk⟩ : ∃ k, 5 - before.length = k + 2 := ⟨3 - before.length, by omega⟩
    rw [hsplit, List.take_append, hk, List.take_succ_cons, List.take_succ_cons] at hnodup
    exact (List.nodup_cons.mp (List.nodup_append.mp hnodup).2.1).1 List.mem_cons_self
  · intro hsingle
    rw [List.nodup_iff_count_le_one]
    intro s
    by_contra hcount
    have hshared : Shared r s := by
      rw [← (count_known hnames haliases s).2]
      have htaken := (List.take_sublist 5 (ranked query r.known)).count_le s
      have hranked := count_ranked_le (r := r) query s
      omega
    -- the fifth place alone cannot hold it twice
    have hfirst : s ∈ (ranked query r.known).take 4 := by
      rw [List.take_add_one, List.count_append] at hcount
      have hlast : (ranked query r.known)[4]?.toList.count s ≤ 1 :=
        List.count_le_length.trans Option.length_toList_le
      exact List.count_pos_iff.mp (by omega)
    exact hsingle s hfirst hshared

end Suggested

theorem suggested_session (w : World α) (requests : List (Request α)) (query : String)
    (e : UnknownCommand) (h : (run requests (fresh w)).2.registry.lookup query = .error e) :
    Suggested (run requests (fresh w)).2.registry query e := by
  rw [world_run, registry_replay] at h ⊢
  obtain ⟨hmiss, rfl⟩ := lookup_eq_error_iff.mp h
  have hnames := keys_nodup_ofHistory (accepted requests)
  have haliases := aliases_nodup_ofHistory (accepted requests)
  have hknown : ∀ s ∈ ((ofHistory (accepted requests)).suggestions query),
      s ∈ (ofHistory (accepted requests)).known ∧ isClose query s = true :=
    fun s hs => mem_ranked_iff.mp (List.mem_of_mem_take hs)
  constructor
  case few => exact List.length_take_le _ _
  case missed =>
    intro hmem
    obtain ⟨c, hc⟩ := exists_lookup_of_mem_known (hknown query hmem).1
    rw [h] at hc
    cases hc
  case usable => exact fun s hs => exists_lookup_of_mem_known (hknown s hs).1
  case close => exact fun s hs => (hknown s hs).2
  case complete =>
    intro hfew s hs hclose
    change s ∈ (ranked query _).take 5
    change ((ranked query _).take 5).length < 5 at hfew
    rw [List.length_take] at hfew
    rw [List.take_of_length_le (by omega)]
    exact mem_ranked_iff.mpr ⟨hs, hclose⟩
  case hinted =>
    intro host best rest hbest
    rw [get?_hint, UnknownCommand.hint, hbest]
  case unhinted =>
    intro host hnone
    rw [get?_hint, UnknownCommand.hint, hnone]
  case shown => exact fun host => rfl
  case twice =>
    intro s
    exact ((List.take_sublist _ _).count_le s).trans
      ((count_ranked_le query s).trans (count_known hnames haliases s).1)
  case nodup_iff =>
    have hfour : ((ofHistory (accepted requests)).suggestions query).take 4 =
        (ranked query (ofHistory (accepted requests)).known).take 4 := by
      rw [Registry.suggestions, closeMatches_eq, List.take_take]
      rfl
    rw [hfour]
    exact nodup_take_ranked hnames haliases

/-- Does nothing, under a name and with aliases. -/
def idle (name : String) (aliases : List String)
    (hvalid : ∀ n ∈ name :: aliases, Command.isName n = true)
    (hnodup : (name :: aliases).Nodup) : Command Unit where
  name := name
  first := ⟨"Does nothing.", [], [], none, List.nodup_nil, List.nodup_nil⟩
  others := []
  aliases := aliases
  hidden := false
  names_valid := hvalid
  names_nodup := hnodup

/-- A command is named `print`, and another one has that alias. -/
def requests : List (Request Unit) := [
  .register (.text "print") (some (idle "print" [] (by decide) (by decide))),
  .register (.text "say") (some (idle "say" ["print"] (by decide) (by decide)))]

def shared : Registry Unit := (run requests (fresh World.initial)).2.registry

def miss : UnknownCommand := ⟨.text "prin", .text "prin", ["print", "print"]⟩

theorem lookup_prin : shared.lookup "prin" = .error miss := by
  have hclose : shared.suggestions "prin" = ["print", "print"] := by cbv
  rw [lookup_eq_error_iff, hclose]
  exact ⟨rfl, rfl⟩

theorem suggested_prin : shared.lookup "prin" = .error miss ∧ Suggested shared "prin" miss :=
  ⟨lookup_prin, suggested_session World.initial requests "prin" miss lookup_prin⟩

/-- The same text is suggested twice. -/
theorem suggestions_repeat : shared.lookup "prin" = .error miss ∧ ¬ miss.suggestions.Nodup :=
  ⟨lookup_prin, by decide⟩

end CommandShell.Suggestions
