import CommandShell.Query
import CommandShell.World
import Mathlib.Data.Finset.Card
import Mathlib.Data.List.Sort
import Mathlib.Data.String.Basic

/-!
A registry as the replay of its registrations. Its two tables are read back from the
history: a name holds the command that was last stored under it, and an alias the command
last stored that declares it. A session may also read the registry, and may ask for
registrations that are refused; both leave it as it is, so every answer depends on the
registrations that were accepted and on nothing else.
-/
namespace CommandShell.Registrations

variable {α : Type}

/-- What one registration stores, and where. -/
structure Registration (α : Type) where
  name : String
  command : Command α

/-- An element with a property that nothing behind it has. -/
def IsLast (P : Registration α → Prop) (history : List (Registration α)) (e : Registration α) :
    Prop :=
  ∃ before after, history = before ++ e :: after ∧ P e ∧ ∀ later ∈ after, ¬ P later

def Named (query : String) (e : Registration α) : Prop := e.name = query

def Declaring (query : String) (e : Registration α) : Prop := query ∈ e.command.aliases

instance (query : String) : DecidablePred (Named (α := α) query) :=
  fun e => inferInstanceAs (Decidable (e.name = query))

instance (query : String) : DecidablePred (Declaring (α := α) query) :=
  fun e => inferInstanceAs (Decidable (query ∈ e.command.aliases))

/-- The registry after registrations, from the first to the last. -/
def ofHistory (history : List (Registration α)) : Registry α :=
  history.foldl (fun r e => r.register e.name e.command) Registry.empty

section Last

variable {P : Registration α → Prop} {history : List (Registration α)} {d e : Registration α}

theorem isLast_concat :
    IsLast P (history ++ [d]) e ↔ (P d ∧ e = d) ∨ (¬ P d ∧ IsLast P history e) := by
  constructor
  · rintro ⟨before, after, hsplit, he, hafter⟩
    rcases List.eq_nil_or_concat' after with rfl | ⟨rest, last, rfl⟩
    · obtain ⟨_, hlast⟩ := List.append_inj' hsplit rfl
      obtain rfl := List.head_eq_of_cons_eq hlast
      exact Or.inl ⟨he, rfl⟩
    · rw [← List.cons_append, ← List.append_assoc] at hsplit
      obtain ⟨hhistory, hlast⟩ := List.append_inj' hsplit rfl
      obtain rfl := List.head_eq_of_cons_eq hlast
      obtain ⟨hrest, hd⟩ := List.forall_mem_append.mp hafter
      exact Or.inr ⟨hd d List.mem_cons_self, before, rest, hhistory, he, hrest⟩
  · rintro (⟨hd, rfl⟩ | ⟨hd, before, after, rfl, he, hafter⟩)
    · exact ⟨history, [], rfl, hd, by simp⟩
    · refine ⟨before, after ++ [d], by simp, he, ?_⟩
      intro later hlater
      rcases List.mem_append.mp hlater with hmem | hmem
      · exact hafter later hmem
      · rw [List.mem_singleton.mp hmem]
        exact hd

theorem mem_of_isLast (h : IsLast P history e) : e ∈ history ∧ P e := by
  obtain ⟨before, after, rfl, he, _⟩ := h
  exact ⟨by simp, he⟩

theorem exists_isLast_iff : (∃ e, IsLast P history e) ↔ ∃ e ∈ history, P e := by
  constructor
  · rintro ⟨e, he⟩
    exact ⟨e, mem_of_isLast he⟩
  · induction history using List.reverseRecOn with
    | nil =>
      rintro ⟨e, he, _⟩
      cases he
    | append_singleton history d ih =>
      rintro ⟨e, hmem, he⟩
      by_cases hd : P d
      · exact ⟨d, isLast_concat.mpr (Or.inl ⟨hd, rfl⟩)⟩
      · have hold : e ∈ history := by
          rcases List.mem_append.mp hmem with hmem | hmem
          · exact hmem
          · rw [List.mem_singleton.mp hmem] at he
            exact absurd he hd
        obtain ⟨last, hlast⟩ := ih ⟨e, hold, he⟩
        exact ⟨last, isLast_concat.mpr (Or.inr ⟨hd, hlast⟩)⟩

theorem isLast_unique (hd : IsLast P history d) (he : IsLast P history e) : d = e := by
  induction history using List.reverseRecOn with
  | nil => cases (mem_of_isLast hd).1
  | append_singleton history last ih =>
    rcases isLast_concat.mp hd with ⟨hlast, rfl⟩ | ⟨hlast, hd⟩
    · rcases isLast_concat.mp he with ⟨_, rfl⟩ | ⟨hnot, _⟩
      · rfl
      · exact absurd hlast hnot
    · rcases isLast_concat.mp he with ⟨hyes, _⟩ | ⟨_, he⟩
      · exact absurd hyes hlast
      · exact ih hd he

end Last

section Tables

variable {history : List (Registration α)} {query : String} {c : Command α}

theorem ofHistory_concat (history : List (Registration α)) (e : Registration α) :
    ofHistory (history ++ [e]) = (ofHistory history).register e.name e.command := by
  rw [ofHistory, List.foldl_append]
  rfl

section Read

variable (read : Registry α → Option (Command α)) {P : Registration α → Prop} [DecidablePred P]
  (hempty : read Registry.empty = none)
  (hregister : ∀ (r : Registry α) (e : Registration α),
    read (r.register e.name e.command) = if P e then some e.command else read r)

include hempty hregister

/-- An entry that the registrations with a property overwrite, and only they, holds what the
last of them stored. -/
theorem read_eq_some_iff :
    read (ofHistory history) = some c ↔ ∃ name, IsLast P history ⟨name, c⟩ := by
  induction history using List.reverseRecOn with
  | nil =>
    rw [ofHistory, List.foldl_nil, hempty]
    constructor
    · intro h
      cases h
    · rintro ⟨name, hlast⟩
      cases (mem_of_isLast hlast).1
  | append_singleton history d ih =>
    rw [ofHistory_concat, hregister]
    simp only [isLast_concat]
    by_cases hd : P d
    · rw [if_pos hd, Option.some.injEq]
      constructor
      · rintro rfl
        exact ⟨d.name, Or.inl ⟨hd, rfl⟩⟩
      · rintro ⟨name, ⟨_, rfl⟩ | ⟨hnot, _⟩⟩
        · rfl
        · exact absurd hd hnot
    · rw [if_neg hd, ih]
      simp only [hd, false_and, false_or, not_false_eq_true, true_and]

theorem read_eq_none_iff : read (ofHistory history) = none ↔ ∀ e ∈ history, ¬ P e := by
  rw [Option.eq_none_iff_forall_ne_some]
  constructor
  · intro hnone e he hP
    obtain ⟨⟨name, d⟩, hlast⟩ := exists_isLast_iff.mpr ⟨e, he, hP⟩
    exact hnone d ((read_eq_some_iff read hempty hregister).mpr ⟨name, hlast⟩)
  · intro hfresh d hd
    obtain ⟨name, hlast⟩ := (read_eq_some_iff read hempty hregister).mp hd
    obtain ⟨hmem, hP⟩ := mem_of_isLast hlast
    exact hfresh _ hmem hP

end Read

theorem commands_register (query : String) (r : Registry α) (e : Registration α) :
    (r.register e.name e.command).commands.get? query =
      if Named query e then some e.command else r.commands.get? query := by
  rw [Registry.get?_commands_register]
  simp only [Named, eq_comm]

/-- The name table holds the command last stored under a name. -/
theorem get?_commands_ofHistory :
    (ofHistory history).commands.get? query = some c ↔
      IsLast (Named query) history ⟨query, c⟩ := by
  rw [read_eq_some_iff (fun r => r.commands.get? query) rfl (commands_register query)]
  constructor
  · rintro ⟨name, hlast⟩
    obtain rfl : name = query := (mem_of_isLast hlast).2
    exact hlast
  · exact fun hlast => ⟨query, hlast⟩

theorem get?_commands_eq_none_iff :
    (ofHistory history).commands.get? query = none ↔ ∀ e ∈ history, ¬ Named query e :=
  read_eq_none_iff (fun r => r.commands.get? query) rfl (commands_register query)

/-- The alias table holds the command last stored that declares an alias. -/
theorem get?_aliases_ofHistory :
    (ofHistory history).aliases.get? query = some c ↔
      ∃ name, IsLast (Declaring query) history ⟨name, c⟩ :=
  read_eq_some_iff (fun r => r.aliases.get? query) rfl
    fun r e => Registry.get?_aliases_register r e.name query e.command

theorem get?_aliases_eq_none_iff :
    (ofHistory history).aliases.get? query = none ↔ ∀ e ∈ history, ¬ Declaring query e :=
  read_eq_none_iff (fun r => r.aliases.get? query) rfl
    fun r e => Registry.get?_aliases_register r e.name query e.command

/-- Names are found before aliases. -/
theorem find?_ofHistory :
    (ofHistory history).find? query = some c ↔
      IsLast (Named query) history ⟨query, c⟩ ∨
        (∀ e ∈ history, ¬ Named query e) ∧
          ∃ name, IsLast (Declaring query) history ⟨name, c⟩ := by
  rw [← get?_commands_ofHistory, ← get?_aliases_ofHistory, ← get?_commands_eq_none_iff,
    Registry.find?]
  cases (ofHistory history).commands.get? query with
  | some d => simp
  | none => simp

theorem find?_eq_none_iff :
    (ofHistory history).find? query = none ↔
      ∀ e ∈ history, ¬ Named query e ∧ ¬ Declaring query e := by
  rw [forall₂_and, ← get?_commands_eq_none_iff, ← get?_aliases_eq_none_iff, Registry.find?]
  cases (ofHistory history).commands.get? query with
  | some d => simp
  | none => simp

end Tables

section Listing

variable {history : List (Registration α)}

theorem mem_keys_ofHistory {name : String} :
    name ∈ (ofHistory history).commands.keys ↔ name ∈ history.map Registration.name := by
  induction history using List.reverseRecOn with
  | nil => rfl
  | append_singleton history e ih =>
    rw [ofHistory_concat, Registry.register, Table.mem_keys_set, ih, List.map_append,
      List.mem_append, List.map_singleton, List.mem_singleton, or_comm]

/-- However often a name is stored, it is one key. -/
theorem keys_nodup_ofHistory (history : List (Registration α)) :
    (ofHistory history).commands.keys.Nodup := by
  induction history using List.reverseRecOn with
  | nil => exact List.nodup_nil
  | append_singleton history e ih =>
    rw [ofHistory_concat]
    exact Table.keys_nodup_set ih e.name e.command

theorem size_ofHistory (history : List (Registration α)) :
    (ofHistory history).size = (history.map Registration.name).toFinset.card := by
  have hkeys : (ofHistory history).commands.keys.toFinset =
      (history.map Registration.name).toFinset := by
    ext name
    rw [List.mem_toFinset, List.mem_toFinset, mem_keys_ofHistory]
  rw [← hkeys, List.toFinset_card_of_nodup (keys_nodup_ofHistory history), Registry.size,
    Table.keys, List.length_map]

theorem mem_names_ofHistory {name : String} :
    name ∈ (ofHistory history).names ↔ name ∈ history.map Registration.name := by
  rw [Registry.names, List.mem_mergeSort, mem_keys_ofHistory]

theorem entry_trans {β : Type} (e f g : String × β) (hef : decide (e.1 ≤ f.1) = true)
    (hfg : decide (f.1 ≤ g.1) = true) : decide (e.1 ≤ g.1) = true :=
  decide_eq_true (le_trans (of_decide_eq_true hef) (of_decide_eq_true hfg))

theorem entry_total {β : Type} (e f : String × β) :
    (decide (e.1 ≤ f.1) || decide (f.1 ≤ e.1)) = true := by
  rw [Bool.or_eq_true, decide_eq_true_eq, decide_eq_true_eq]
  exact le_total e.1 f.1

/-- Entries sorted by their keys. -/
theorem pairwise_le_mergeSort_entries {β : Type} (t : Table β) :
    (t.mergeSort fun e f => e.1 ≤ f.1).Pairwise fun e f => e.1 ≤ f.1 :=
  (List.pairwise_mergeSort entry_trans entry_total t).imp of_decide_eq_true

theorem pairwise_lt_mergeSort {names : List String} (h : names.Nodup) :
    (names.mergeSort (· ≤ ·)).Pairwise (· < ·) := by
  have hsorted : (names.mergeSort (· ≤ ·)).Pairwise (· ≤ ·) :=
    List.pairwise_mergeSort' (· ≤ ·) names
  have hnodup : (names.mergeSort (· ≤ ·)).Nodup := (List.mergeSort_perm _ _).nodup_iff.mpr h
  exact hsorted.and hnodup |>.imp fun h => lt_of_le_of_ne h.1 h.2

theorem names_sorted_ofHistory (history : List (Registration α)) :
    (ofHistory history).names.Pairwise (· < ·) :=
  pairwise_lt_mergeSort (keys_nodup_ofHistory history)

end Listing

/-- What a session may ask of a registry. -/
inductive Request (α : Type) where
  | register (name : Value) (command : Option (Command α))
  | lookup (name : Value)
  | contains (name : Value)
  | names
  | iterate
  | visible
  | size
  | literal

inductive Answer (α : Type) where
  | command (c : Command α)
  | truth (b : Bool)
  | names (names : List String)
  | entries (entries : List (String × Command α))
  | count (n : Nat)
  | text (s : String)
  | failed (failure : Failure)

def Answer.ofResult {β : Type} (answer : β → Answer α) : Except Failure β → Answer α
  | .ok b => answer b
  | .error failure => .failed failure

/-- The registration that a request asks for, unless it is a read or is refused. -/
def Request.accepted? : Request α → Option (Registration α)
  | .register name command =>
      (Registry.checkRegistration name command).toOption.map fun e => ⟨e.1, e.2⟩
  | _ => none

def accepted (requests : List (Request α)) : List (Registration α) :=
  requests.filterMap Request.accepted?

def serve (w : World α) : Request α → Answer α × World α
  | .register name command =>
      match Registry.checkRegistration name command with
      | .ok (name, c) => (.command c, w.register name c)
      | .error failure => (.failed failure, w)
  | .lookup name => (Answer.ofResult .command (w.registry.lookupValue w.host name), w)
  | .contains name => (Answer.ofResult .truth (w.registry.containsValue name), w)
  | .names => (.names w.registry.names, w)
  | .iterate => (.names w.registry.iterate, w)
  | .visible => (.entries w.registry.visible, w)
  | .size => (.count w.registry.size, w)
  | .literal => (.text w.registry.literal, w)

/-- The answers of a session, and the world after it. -/
def run : List (Request α) → World α → List (Answer α) × World α
  | [], w => ([], w)
  | request :: rest, w =>
      let (answer, w) := serve w request
      let (answers, w) := run rest w
      (answer :: answers, w)

/-- Registers a history in turn. -/
def replay (history : List (Registration α)) (w : World α) : World α :=
  history.foldl (fun w e => w.register e.name e.command) w

/-- A world whose registry is new. -/
def fresh (w : World α) : World α := { w with registry := Registry.empty }

section Session

theorem accepted_append (earlier later : List (Request α)) :
    accepted (earlier ++ later) = accepted earlier ++ accepted later :=
  List.filterMap_append

theorem accepted_singleton (request : Request α) :
    accepted [request] = request.accepted?.toList := by
  rw [accepted, List.filterMap_cons]
  cases request.accepted? <;> rfl

/-- A request leaves the world as it is, or is an accepted registration. -/
theorem world_serve (w : World α) (request : Request α) :
    (serve w request).2 = replay request.accepted?.toList w := by
  cases request with
  | register name command =>
    rw [serve, Request.accepted?]
    cases Registry.checkRegistration name command <;> rfl
  | lookup name => rfl
  | contains name => rfl
  | names => rfl
  | iterate => rfl
  | visible => rfl
  | size => rfl
  | literal => rfl

theorem world_run (requests : List (Request α)) (w : World α) :
    (run requests w).2 = replay (accepted requests) w := by
  induction requests generalizing w with
  | nil => rfl
  | cons request rest ih =>
    have hstep : (run (request :: rest) w).2 = (run rest (serve w request).2).2 := rfl
    have hsplit : accepted (request :: rest) = accepted [request] ++ accepted rest :=
      accepted_append [request] rest
    rw [hstep, ih, world_serve, hsplit, accepted_singleton, replay, replay, replay,
      List.foldl_append]

/-- Every answer of a session is given by the registrations accepted before it. -/
theorem answer_run (earlier : List (Request α)) (request : Request α) (later : List (Request α))
    (w : World α) :
    (run (earlier ++ request :: later) w).1[earlier.length]? =
      some (serve (replay (accepted earlier) w) request).1 := by
  rw [← world_run]
  induction earlier generalizing w with
  | nil => rfl
  | cons first rest ih => exact ih (serve w first).2

theorem registry_replay (history : List (Registration α)) (w : World α) :
    (replay history (fresh w)).registry = ofHistory history := by
  induction history using List.reverseRecOn with
  | nil => rfl
  | append_singleton history e ih =>
    rw [ofHistory_concat, ← ih, replay, List.foldl_append]
    rfl

end Session

section Answers

/-- What looking up a text gives after a history. -/
inductive Found (history : List (Registration α)) (query : String) :
    Except Failure (Command α) → Prop
  | named {c : Command α} (last : IsLast (Named query) history ⟨query, c⟩) :
      Found history query (.ok c)
  | aliased {name : String} {c : Command α} (unnamed : ∀ e ∈ history, ¬ Named query e)
      (last : IsLast (Declaring query) history ⟨name, c⟩) : Found history query (.ok c)
  | unknown {f : Fault} (unnamed : ∀ e ∈ history, ¬ Named query e)
      (undeclared : ∀ e ∈ history, ¬ Declaring query e) (kind : f.kind = .unknownCommand)
      (message : f.message = some ("command " ++ Text.quote query ++ " does not exist")) :
      Found history query (.error (.fault f))

/-- A registry answers every question from a history. -/
structure Replays (history : List (Registration α)) (w : World α) : Prop where
  found : ∀ query, Found history query (w.registry.lookupValue w.host (.text query))
  contained : ∀ v, w.registry.containsValue v = .ok true ↔
    ∃ c, w.registry.lookupValue w.host v = .ok c
  counted : w.registry.size = (history.map Registration.name).toFinset.card
  listed : ∀ name, name ∈ w.registry.names ↔ name ∈ history.map Registration.name
  sorted : w.registry.names.Pairwise (· < ·)
  iterated : ∀ name, name ∈ w.registry.iterate ↔ name ∈ history.map Registration.name
  ascending : w.registry.iterate.Pairwise (· < ·)
  printed : w.registry.literal =
    "registry(commands=[" ++ ", ".intercalate (w.registry.names.map Text.quote) ++ "])"

theorem found_of_ofHistory {history : List (Registration α)} {r : Registry α}
    (h : r = ofHistory history) (host : Host) (query : String) :
    Found history query (r.lookupValue host (.text query)) := by
  subst h
  rw [Registry.lookupValue, Registry.lookup]
  cases hfind : (ofHistory history).find? query with
  | some c =>
    rcases find?_ofHistory.mp hfind with hnamed | ⟨hunnamed, name, hlast⟩
    · exact Found.named hnamed
    · exact Found.aliased hunnamed hlast
  | none =>
    obtain ⟨hunnamed, hundeclared⟩ := forall₂_and.mp (find?_eq_none_iff.mp hfind)
    refine Found.unknown hunnamed hundeclared rfl ?_
    simp [UnknownCommand.toFault]

/-- Only texts can be found, and a text is a member when it is found. -/
theorem containsValue_iff (r : Registry α) (host : Host) (v : Value) :
    r.containsValue v = .ok true ↔ ∃ c, r.lookupValue host v = .ok c := by
  cases v with
  | text name =>
    rw [Registry.containsValue, Registry.contains, Registry.lookupValue, Registry.lookup]
    cases r.find? name with
    | some c => simp [Except.mapError]
    | none => simp [Except.mapError]
  | _ =>
    simp only [Registry.containsValue, Registry.lookupValue, bind, Except.bind, Except.map]
    constructor
    · intro h
      split at h <;> cases h
    · rintro ⟨c, h⟩
      split at h
      · cases h
      · split at h <;> cases h

theorem literal_registry (r : Registry α) :
    r.literal = "registry(commands=[" ++ ", ".intercalate (r.names.map Text.quote) ++ "])" := by
  let shown := ", ".intercalate (r.names.map Text.quote)
  have hlist : (Value.list (r.names.map .text)).literal = "[" ++ shown ++ "]" :=
    Value.literal_list_text r.names
  have hopen : "registry(commands=" ++ "[" = "registry(commands=[" := by decide
  have hclose : "]" ++ ")" = "])" := by decide
  calc
    r.literal = "registry(commands=" ++ ("[" ++ shown ++ "]") ++ ")" :=
      congrArg (fun s => "registry(commands=" ++ s ++ ")") hlist
    _ = ("registry(commands=" ++ "[") ++ shown ++ ("]" ++ ")") := by
      simp only [String.append_assoc, -String.reduceAppend]
    _ = "registry(commands=[" ++ shown ++ "])" := by rw [hopen, hclose]

/-- A registration needs a text and a command, and is refused by its type otherwise. -/
theorem register_cases (name : Value) (command : Option (Command α)) :
    (∃ s c, name = .text s ∧ command = some c ∧
      Request.accepted? (.register name command) = some ⟨s, c⟩) ∨
    (Request.accepted? (.register name command) = none ∧
      ∃ message, ∀ w, serve w (.register name command) = (.failed (.wrongType message), w)) := by
  cases name with
  | text s =>
    cases command with
    | some c => exact Or.inl ⟨s, c, rfl, rfl, rfl⟩
    | none => exact Or.inr ⟨rfl, _, fun _ => rfl⟩
  | _ => exact Or.inr ⟨rfl, _, fun _ => rfl⟩

/-- What a session gets at one of its points. Its answer and all that could be asked there
come from the registrations accepted before; a read or a refused call is none of them. -/
structure Answered (w : World α) (earlier : List (Request α)) (request : Request α)
    (later : List (Request α)) : Prop where
  answer : (run (earlier ++ request :: later) (fresh w)).1[earlier.length]? =
    some (serve (replay (accepted earlier) (fresh w)) request).1
  replays : Replays (accepted earlier) (replay (accepted earlier) (fresh w))
  registered : ∀ name command, request = .register name command →
    (∃ s c, name = .text s ∧ command = some c ∧
      accepted (earlier ++ [request]) = accepted earlier ++ [⟨s, c⟩]) ∨
    (accepted (earlier ++ [request]) = accepted earlier ∧
      ∃ message, ∀ w, serve w request = (.failed (.wrongType message), w))
  read : (∀ name command, request ≠ .register name command) →
    accepted (earlier ++ [request]) = accepted earlier

theorem replays_replay (history : List (Registration α)) (w : World α) :
    Replays history (replay history (fresh w)) := by
  have hregistry := registry_replay history w
  constructor
  case found => exact found_of_ofHistory hregistry _
  case contained => exact containsValue_iff _ _
  case counted => rw [hregistry, size_ofHistory]
  case listed =>
    intro name
    rw [hregistry, mem_names_ofHistory]
  case sorted =>
    rw [hregistry]
    exact names_sorted_ofHistory history
  case iterated =>
    intro name
    rw [hregistry, Registry.iterate, mem_names_ofHistory]
  case ascending =>
    rw [hregistry]
    exact names_sorted_ofHistory history
  case printed => exact literal_registry _

theorem session_replays (w : World α) (earlier : List (Request α)) (request : Request α)
    (later : List (Request α)) : Answered w earlier request later := by
  constructor
  case answer => exact answer_run earlier request later (fresh w)
  case replays => exact replays_replay (accepted earlier) w
  case registered =>
    rintro name command rfl
    rw [accepted_append, accepted_singleton]
    rcases register_cases name command with ⟨s, c, hname, hcommand, haccepted⟩ | ⟨hnone, hrefused⟩
    · exact Or.inl ⟨s, c, hname, hcommand, by rw [haccepted]; rfl⟩
    · exact Or.inr ⟨by rw [hnone]; exact List.append_nil _, hrefused⟩
  case read =>
    intro hread
    rw [accepted_append, accepted_singleton]
    cases request with
    | register name command => exact absurd rfl (hread name command)
    | _ => exact List.append_nil _

end Answers

end CommandShell.Registrations
