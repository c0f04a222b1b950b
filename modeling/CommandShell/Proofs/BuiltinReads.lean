import CommandShell.Builtin
import CommandShell.Proofs.ClosedForm
import CommandShell.Proofs.OrderedScan

/-!
What the built-in actions find when they read their parameters. A required parameter of
a winner is bound to a value of its shape, unless it is a scalar whose last marker has no
value behind it. An action that finds what it reads completes or names a command that
does not exist; the one case that actions do not expect fails for the missing key.
Every command that a shell starts with declares what its actions read.
-/
namespace CommandShell.BuiltinReads

open Draws Buckets ClosedForm Spelling OrderedScan

/-- The last marker of a name has no value behind it. -/
def Dangling (name : String) (tokens : List String) : Prop :=
  ∃ before rest, tokens = before ++ marker name :: rest ∧ marker name ∉ rest ∧
    Classified.group rest = []

theorem dangling_iff {name : String} {tokens : List String} :
    Dangling name tokens ↔ (Classified.ofTokens tokens).named.lookup name = some [] := by
  rw [lookup_ofTokens_eq_some_iff]
  rfl

/-- The parser gives back what it accepts. -/
def Faithful (p : Param) : Prop := ∀ v u, p.parser v = .ok u → u = v

section Required

variable {α : Type} {o : Overload α} {c : Classified} {b : Binding α} {p : Param}

theorem value_of_holds {t : Table Value} {raw : Raw} (hfaithful : Faithful p)
    (h : Holds t p raw) : t.get? p.name = some raw.toValue := by
  obtain ⟨v, hparse, hget⟩ := h
  rw [hget, hfaithful _ _ hparse]

theorem exists_draw_of_mem (c : Classified) {ps : List Param} (hp : p ∈ ps) (k : Nat) :
    ∃ j, (p, (c.draw p j).1) ∈ draws c k ps := by
  induction ps generalizing k with
  | nil => cases hp
  | cons q rest ih =>
    rcases List.mem_cons.mp hp with rfl | hrest
    · exact ⟨k, List.mem_cons_self⟩
    · obtain ⟨j, hj⟩ := ih hrest (c.draw q k).2
      exact ⟨j, List.mem_cons_of_mem _ hj⟩

theorem draw_unbound_iff (hrequired : p.optional = false) (k : Nat) :
    (c.draw p k).1 = .unbound ↔ p.variadic = false ∧ c.named.lookup p.name = some [] := by
  unfold Classified.draw
  cases hv : p.variadic with
  | true => cases c.named.lookup p.name <;> simp
  | false =>
    cases hlookup : c.named.lookup p.name with
    | none => cases c.positional[k]? <;> simp [hrequired]
    | some values => cases values <;> simp

/-- A required parameter of a winner is bound to a value of its shape, unless it is a
scalar whose group is empty. -/
theorem required_of_bind (hbind : o.bind c = .ok b) (hp : p ∈ o.params)
    (hrequired : p.optional = false) :
    (b.params.get? p.name = none ∧ p.variadic = false ∧ c.named.lookup p.name = some []) ∨
      ((∃ raw, isMany raw = p.variadic ∧ Holds b.params p raw) ∧
        ¬ (p.variadic = false ∧ c.named.lookup p.name = some [])) := by
  obtain ⟨t, ht, _, rfl⟩ := bind_eq_ok_iff.mp hbind
  have hnames := names_draws_order_nodup c o.params_nodup
  obtain ⟨j, hj⟩ := exists_draw_of_mem c ((order_perm c o.params).mem_iff.mpr hp) 0
  have hiff := draw_unbound_iff (c := c) hrequired j
  cases hdraw : (c.draw p j).1 with
  | missing =>
    rw [hdraw] at hj
    exact absurd hj (missing_notMem c ht p)
  | unbound =>
    rw [hdraw] at hj
    exact Or.inl ⟨unbound_of_settle hnames ht hj, hiff.mp hdraw⟩
  | raw raw =>
    rw [hdraw] at hj hiff
    have hshape := isMany_of_draw c hdraw
    exact Or.inr ⟨⟨raw, hshape, holds_of_settle hnames ht hj hshape⟩, fun h => nomatch hiff.mpr h⟩

end Required

/-- The variadic parameter whose texts an action joins. -/
def joins : Builtin → Option String
  | .echo => some "text"
  | .assign => some "value"
  | _ => none

/-- The scalar parameter that an action reads. -/
def reads : Builtin → Option String
  | .assign | .unassign => some "variable"
  | .details _ => some "command"
  | _ => none

/-- The flag that an action asks for. -/
def asks : Builtin → Option String
  | .listing => some "l"
  | _ => none

/-- The outcome of reading a parameter that is not bound. -/
def missing (key : String) : Outcome := .error (.failure (.ofText .missingKey key))

/-- A completed line, or one that a fault of routing ended. -/
def Orderly : Outcome → Prop
  | .ok _ => True
  | .error (.failure (.fault f)) => f.kind = .unknownCommand ∨ f.kind = .noMatchingOverload
  | .error _ => False

section Effect

variable {α : Type} {action : Builtin} {call : Call}

/-- A call brings the texts that an action joins and the flag that it asks for. -/
structure Fed (action : Builtin) (call : Call) : Prop where
  joined : ∀ key ∈ joins action, ∃ items, call.params.get? key = some (Value.texts items)
  flagged : ∀ key ∈ asks action, ∃ v, call.flags.get? key = some v

theorem param_of_get? {key : String} {v : Value} (h : call.params.get? key = some v) :
    call.param key = .ok v := by
  rw [Call.param, h]

theorem param_of_none {key : String} (h : call.params.get? key = none) :
    call.param key = .error (.failure (.ofText .missingKey key)) := by
  rw [Call.param, h]

theorem flag_of_get? {key : String} {v : Value} (h : call.flags.get? key = some v) :
    call.flag key = .ok v := by
  rw [Call.flag, h]

theorem joined_of_get? {key : String} {items : List String}
    (h : call.params.get? key = some (Value.texts items)) :
    call.joined key = .ok (" ".intercalate items) := by
  rw [Call.joined, param_of_get? h]
  change ((Value.texts items).join " ").mapError _ = _
  rw [Value.join_texts]
  rfl

/-- What is joined comes first and is there, so the scalar decides. -/
theorem run_of_unbound (hfed : Fed action call) {key : String} (hreads : reads action = some key)
    (hnone : call.params.get? key = none) (w : World α) :
    action.run call w = (missing key, w) := by
  have heffect : action.effect call w = .error (.failure (.ofText .missingKey key)) := by
    cases action with
    | assign =>
      obtain rfl := Option.some.inj hreads
      obtain ⟨items, hitems⟩ := hfed.joined "value" rfl
      rw [Builtin.effect, joined_of_get? hitems, param_of_none hnone]
      rfl
    | unassign =>
      obtain rfl := Option.some.inj hreads
      rw [Builtin.effect, param_of_none hnone]
      rfl
    | details colorful =>
      obtain rfl := Option.some.inj hreads
      rw [Builtin.effect, param_of_none hnone]
      rfl
    | echo => cases hreads
    | listing => cases hreads
    | probe => cases hreads
    | summary colorful => cases hreads
  rw [Builtin.run, heffect, missing]

/-- An action that finds what it reads completes, or looked up a name that no command has. -/
theorem effect_of_bound (hfed : Fed action call)
    (hbound : ∀ key ∈ reads action, ∃ s, call.params.get? key = some (.text s)) (w : World α) :
    (∃ next, action.effect call w = .ok next) ∨
      ∃ f : Fault, f.kind = .unknownCommand ∧
        action.effect call w = .error (.failure (.fault f)) := by
  cases action with
  | echo =>
    obtain ⟨items, hitems⟩ := hfed.joined "text" rfl
    exact Or.inl ⟨_, by rw [Builtin.effect, joined_of_get? hitems]; rfl⟩
  | assign =>
    obtain ⟨items, hitems⟩ := hfed.joined "value" rfl
    obtain ⟨s, hs⟩ := hbound "variable" rfl
    exact Or.inl ⟨_, by rw [Builtin.effect, joined_of_get? hitems, param_of_get? hs]; rfl⟩
  | unassign =>
    obtain ⟨s, hs⟩ := hbound "variable" rfl
    exact Or.inl ⟨_, by rw [Builtin.effect, param_of_get? hs]; rfl⟩
  | listing =>
    obtain ⟨v, hv⟩ := hfed.flagged "l" rfl
    exact Or.inl ⟨_, by rw [Builtin.effect, flag_of_get? hv]; rfl⟩
  | probe => exact Or.inl ⟨_, rfl⟩
  | summary colorful => exact Or.inl ⟨_, rfl⟩
  | details colorful =>
    obtain ⟨s, hs⟩ := hbound "command" rfl
    cases hlookup : w.registry.lookup s with
    | ok c =>
      have hvalue : w.registry.lookupValue w.host (.text s) = .ok c := by
        rw [Registry.lookupValue, hlookup]
        rfl
      exact Or.inl ⟨_, by
        rw [Builtin.effect, param_of_get? hs]
        simp only [bind, Except.bind, hvalue]
        rfl⟩
    | error e =>
      have hvalue : w.registry.lookupValue w.host (.text s) =
          .error (.fault (e.toFault w.host)) := by
        rw [Registry.lookupValue, hlookup]
        rfl
      refine Or.inr ⟨e.toFault w.host, rfl, ?_⟩
      rw [Builtin.effect, param_of_get? hs]
      simp only [bind, Except.bind, hvalue]
      rfl

theorem orderly_run (hfed : Fed action call)
    (hbound : ∀ key ∈ reads action, ∃ s, call.params.get? key = some (.text s)) (w : World α) :
    Orderly (action.run call w).1 := by
  rw [Builtin.run]
  rcases effect_of_bound hfed hbound w with ⟨next, heffect⟩ | ⟨f, hkind, heffect⟩
  · rw [heffect]
    trivial
  · rw [heffect]
    exact Or.inl hkind

/-- The same world with other variables. -/
def supplied (w : World α) (t : Table String) : World α := { w with environment := t }

@[simp]
theorem supplied_environment (w : World α) : supplied w w.environment = w := rfl

/-- How an action ends is decided without a look at the variables. A failure changes nothing.
No action changes the registry, and only setting and unsetting change the variables. -/
theorem run_cases (action : Builtin) (call : Call) (w : World α) :
    (∃ stop, ∀ t, action.run call (supplied w t) = (.error stop, supplied w t)) ∨
    ∃ next : Table String → World α, ∀ t,
      action.run call (supplied w t) = (.ok .none, next t) ∧
      (next t).registry = w.registry ∧
      (action ≠ .assign → action ≠ .unassign → (next t).environment = t) := by
  -- No read of an action mentions the variables, so each can be settled before they are given.
  unfold Builtin.run
  cases action with
  | echo =>
    unfold Builtin.effect
    cases call.joined "text" with
    | error stop => exact Or.inl ⟨stop, fun _ => rfl⟩
    | ok text => exact Or.inr ⟨_, fun _ => ⟨rfl, rfl, fun _ _ => rfl⟩⟩
  | assign =>
    unfold Builtin.effect
    cases call.joined "value" with
    | error stop => exact Or.inl ⟨stop, fun _ => rfl⟩
    | ok value =>
      cases call.param "variable" with
      | error stop => exact Or.inl ⟨stop, fun _ => rfl⟩
      | ok name => exact Or.inr ⟨_, fun _ => ⟨rfl, rfl, fun hassign _ => absurd rfl hassign⟩⟩
  | unassign =>
    unfold Builtin.effect
    cases call.param "variable" with
    | error stop => exact Or.inl ⟨stop, fun _ => rfl⟩
    | ok name => exact Or.inr ⟨_, fun _ => ⟨rfl, rfl, fun _ hunassign => absurd rfl hunassign⟩⟩
  | listing =>
    unfold Builtin.effect
    cases call.flag "l" with
    | error stop => exact Or.inl ⟨stop, fun _ => rfl⟩
    | ok lines => exact Or.inr ⟨_, fun _ => ⟨rfl, rfl, fun _ _ => rfl⟩⟩
  | probe => exact Or.inr ⟨_, fun _ => ⟨rfl, rfl, fun _ _ => rfl⟩⟩
  | summary colorful => exact Or.inr ⟨_, fun _ => ⟨rfl, rfl, fun _ _ => rfl⟩⟩
  | details colorful =>
    unfold Builtin.effect
    cases call.param "command" with
    | error stop => exact Or.inl ⟨stop, fun _ => rfl⟩
    | ok name =>
      simp only [bind, Except.bind, supplied]
      cases w.registry.lookupValue w.host name with
      | error failure => exact Or.inl ⟨.failure failure, fun _ => rfl⟩
      | ok c => exact Or.inr ⟨_, fun _ => ⟨rfl, rfl, fun _ _ => rfl⟩⟩

theorem registry_run (action : Builtin) (call : Call) (w : World α) :
    (action.run call w).2.registry = w.registry := by
  rcases run_cases action call w with ⟨stop, hstop⟩ | ⟨next, hnext⟩
  · have hrun := hstop w.environment
    rw [supplied_environment] at hrun
    rw [hrun]
  · obtain ⟨hrun, hregistry, _⟩ := hnext w.environment
    rw [supplied_environment] at hrun
    rw [hrun, hregistry]

theorem outcome_run_supplied (action : Builtin) (call : Call) (w : World α) (t : Table String) :
    (action.run call (supplied w t)).1 = (action.run call w).1 := by
  rcases run_cases action call w with ⟨stop, hstop⟩ | ⟨next, hnext⟩
  · have hrun := hstop w.environment
    rw [supplied_environment] at hrun
    rw [hstop t, hrun]
  · obtain ⟨hrun, _⟩ := hnext w.environment
    obtain ⟨hother, _⟩ := hnext t
    rw [supplied_environment] at hrun
    rw [hother, hrun]

end Effect

section Declared

variable {α : Type} {embed : Builtin → α} {o : Overload α} {c : Command α}

/-- A required parameter of this name and shape, whose parser gives back what it accepts. -/
def Requires (o : Overload α) (key : String) (variadic : Bool) : Prop :=
  ∃ p ∈ o.params, p.name = key ∧ p.optional = false ∧ p.variadic = variadic ∧ Faithful p

/-- An overload declares what its action joins, reads and asks for. -/
structure Declares (o : Overload α) (action : Builtin) : Prop where
  joined : ∀ key ∈ joins action, Requires o key true
  read : ∀ key ∈ reads action, Requires o key false
  flagged : ∀ key ∈ asks action, ∃ f ∈ o.flags, f.name = key

/-- A command that a shell starts with, or a help command. -/
def IsShipped (embed : Builtin → α) (c : Command α) : Prop :=
  c ∈ Builtin.commands embed ∨ ∃ name colorful, Builtin.helpCommand embed name colorful = .ok c

/-- Every name and alias stands for a command that is shipped. -/
def Shipped (embed : Builtin → α) (r : Registry α) : Prop :=
  ∀ name c, r.find? name = some c → IsShipped embed c

theorem faithful_of_identity {p : Param} (h : p.parser = Parser.identity) : Faithful p := by
  intro v u hparse
  rw [h] at hparse
  exact (Except.ok.inj hparse).symm

theorem faithful_of_identifier {p : Param} (h : p.parser = Parser.identifier) : Faithful p := by
  intro v u hparse
  rw [h, Parser.identifier] at hparse
  split at hparse
  · exact (Except.ok.inj hparse).symm
  · cases hparse

theorem declares_echo : Declares (Builtin.echoCommand embed).first .echo where
  joined := by
    rintro _ ⟨⟩
    exact ⟨_, List.mem_cons_self, rfl, rfl, rfl, faithful_of_identity rfl⟩
  read := by simp [reads]
  flagged := by simp [asks]

theorem declares_assign : Declares (Builtin.setCommand embed).first .assign where
  joined := by
    rintro _ ⟨⟩
    exact ⟨_, List.mem_cons_of_mem _ List.mem_cons_self, rfl, rfl, rfl, faithful_of_identity rfl⟩
  read := by
    rintro _ ⟨⟩
    exact ⟨_, List.mem_cons_self, rfl, rfl, rfl, faithful_of_identifier rfl⟩
  flagged := by simp [asks]

theorem declares_unassign : Declares (Builtin.unsetCommand embed).first .unassign where
  joined := by simp [joins]
  read := by
    rintro _ ⟨⟩
    exact ⟨_, List.mem_cons_self, rfl, rfl, rfl, faithful_of_identifier rfl⟩
  flagged := by simp [asks]

theorem declares_listing : Declares (Builtin.envCommand embed).first .listing where
  joined := by simp [joins]
  read := by simp [reads]
  flagged := by
    rintro _ ⟨⟩
    exact ⟨_, List.mem_cons_self, rfl⟩

theorem declares_details (colorful : Bool) :
    Declares (Builtin.detailsOverload embed colorful) (.details colorful) where
  joined := by simp [joins]
  read := by
    rintro _ ⟨⟩
    exact ⟨_, List.mem_cons_self, rfl, rfl, rfl, faithful_of_identity rfl⟩
  flagged := by simp [asks]

theorem declares_of_none {action : Builtin} (hjoins : joins action = none)
    (hreads : reads action = none) (hasks : asks action = none) : Declares o action where
  joined := by simp [hjoins]
  read := by simp [hreads]
  flagged := by simp [hasks]

theorem overloads_helpCommand {name : Value} {colorful : Bool}
    (h : Builtin.helpCommand embed name colorful = .ok c) :
    c.overloads =
      [Builtin.summaryOverload embed colorful, Builtin.detailsOverload embed colorful] := by
  rw [Builtin.helpCommand, Command.make] at h
  cases hname : Command.checkName name with
  | error e =>
    rw [hname] at h
    cases h
  | ok checked =>
    rw [hname] at h
    obtain rfl := Except.ok.inj h
    rfl

/-- Each overload of a shipped command runs one of the actions and declares what it needs. -/
theorem exists_action (hc : IsShipped embed c) (ho : o ∈ c.overloads) :
    ∃ action, o.action = some (embed action) ∧ Declares o action := by
  rcases hc with hc | ⟨name, colorful, hhelp⟩
  · simp only [Builtin.commands, List.mem_cons, List.not_mem_nil, or_false] at hc
    rcases hc with rfl | rfl | rfl | rfl | rfl
    all_goals obtain rfl := List.mem_singleton.mp ho
    · exact ⟨.echo, rfl, declares_echo⟩
    · exact ⟨.assign, rfl, declares_assign⟩
    · exact ⟨.unassign, rfl, declares_unassign⟩
    · exact ⟨.listing, rfl, declares_listing⟩
    · exact ⟨.probe, rfl, declares_of_none rfl rfl rfl⟩
  · rw [overloads_helpCommand hhelp] at ho
    simp only [List.mem_cons, List.not_mem_nil, or_false] at ho
    rcases ho with rfl | rfl
    · exact ⟨.summary colorful, rfl, declares_of_none rfl rfl rfl⟩
    · exact ⟨.details colorful, rfl, declares_details colorful⟩

theorem shipped_empty : Shipped embed Registry.empty := by
  intro name c h
  cases h

theorem shipped_register {r : Registry α} (hr : Shipped embed r) (hc : IsShipped embed c)
    (name : String) : Shipped embed (r.register name c) := by
  intro query d hd
  rcases Registry.find?_register_cases hd with ⟨rfl, _⟩ | hold
  · exact hc
  · exact hr query d hold

/-- A name stands for one of the installed commands that have it, or for what it stood for. -/
theorem find?_registerAll {cs : List (Command α)} {w : World α} {name : String}
    (h : (cs.foldl (fun w c => w.register c.name c) w).registry.find? name = some c) :
    (c ∈ cs ∧ (name = c.name ∨ name ∈ c.aliases)) ∨ w.registry.find? name = some c := by
  induction cs generalizing w with
  | nil => exact Or.inr h
  | cons d rest ih =>
    rcases ih h with ⟨hmem, hname⟩ | hfound
    · exact Or.inl ⟨List.mem_cons_of_mem d hmem, hname⟩
    · rcases Registry.find?_register_cases hfound with ⟨rfl, hname⟩ | hold
      · exact Or.inl ⟨List.mem_cons_self, hname⟩
      · exact Or.inr hold

theorem shipped_install {w : World α} (hw : Shipped embed w.registry) :
    Shipped embed (Builtin.install embed w).registry := by
  intro name c h
  rcases find?_registerAll h with ⟨hmem, _⟩ | hold
  · exact Or.inl hmem
  · exact hw name c hold

end Declared

/-- Filling in the line changes no declared parameter. -/
theorem get?_call {α : Type} {o : Overload α} {key : String} {variadic : Bool}
    (hkey : Requires o key variadic) (text : Value) (tokens : List String) (b : Binding α) :
    (completed text tokens b).call.params.get? key = b.params.get? key := by
  obtain ⟨p, _, rfl, _⟩ := hkey
  exact get?_completed b text tokens p

section Winner

variable {α : Type} {embed : Builtin → α} {o : Overload α} {action : Builtin} {b : Binding α}
  {tokens : List String} (text : Value)
  (hbind : o.bind (Classified.ofTokens tokens.tail) = .ok b) (hdeclares : Declares o action)

include hbind

theorem flag_of_bind {key : String} (hflag : ∃ f ∈ o.flags, f.name = key) :
    ∃ v, (completed text tokens b).call.flags.get? key = some v := by
  obtain ⟨f, hf, rfl⟩ := hflag
  have hflags : (completed text tokens b).call.flags =
      o.flags.map fun f => (f.name, .bool (decide ("-" ++ f.name ∈ tokens.tail))) := by
    rw [Binding.call, completed, flags_of_bind hbind, List.map_map]
    rfl
  have hkeys : (completed text tokens b).call.flags.keys = o.flags.map fun f => f.name := by
    rw [hflags, Table.keys, List.map_map]
    rfl
  have hmem : (f.name, Value.bool (decide ("-" ++ f.name ∈ tokens.tail))) ∈
      (completed text tokens b).call.flags := by
    rw [hflags]
    exact List.mem_map_of_mem hf
  exact ⟨_, Table.get?_eq_some_of_mem (hkeys ▸ o.flags_nodup) hmem⟩

/-- The scalar that an action reads is bound to a text, unless its marker dangles. -/
theorem read_of_bind {key : String} (hkey : Requires o key false) :
    (b.params.get? key = none ∧ Dangling key tokens.tail) ∨
      ((∃ s, b.params.get? key = some (.text s)) ∧ ¬ Dangling key tokens.tail) := by
  obtain ⟨p, hp, rfl, hrequired, hscalar, hfaithful⟩ := hkey
  rw [dangling_iff]
  rcases required_of_bind hbind hp hrequired with
    ⟨hnone, _, hempty⟩ | ⟨⟨raw, hshape, hholds⟩, hgroup⟩
  · exact Or.inl ⟨hnone, hempty⟩
  · have hget := value_of_holds hfaithful hholds
    refine Or.inr ⟨?_, fun hempty => hgroup ⟨hscalar, hempty⟩⟩
    cases raw with
    | one value => exact ⟨value, hget⟩
    | many values =>
      rw [hscalar] at hshape
      cases hshape

include hdeclares

theorem fed_of_bind : Fed action (completed text tokens b).call := by
  constructor
  case flagged => exact fun key hkey => flag_of_bind text hbind (hdeclares.flagged key hkey)
  case joined =>
    intro key hkey
    obtain ⟨p, hp, rfl, hrequired, hvariadic, hfaithful⟩ := hdeclares.joined key hkey
    rcases required_of_bind hbind hp hrequired with ⟨_, hscalar, _⟩ | ⟨⟨raw, hshape, hholds⟩, _⟩
    · rw [hvariadic] at hscalar
      cases hscalar
    · have hget := value_of_holds hfaithful hholds
      rw [← get?_completed b text tokens p] at hget
      cases raw with
      | one value =>
        rw [hvariadic] at hshape
        cases hshape
      | many values => exact ⟨values, hget⟩

/-- A winner's action fails for the parameter it reads exactly when its marker dangles. -/
theorem outcome_of_bind (w : World α) :
    (∃ key, reads action = some key ∧ Dangling key tokens.tail ∧
      (action.run (completed text tokens b).call w).1 = missing key) ∨
    ((∀ key, reads action = some key → ¬ Dangling key tokens.tail) ∧
      Orderly (action.run (completed text tokens b).call w).1) := by
  have hfed := fed_of_bind text hbind hdeclares
  cases hreads : reads action with
  | none => exact Or.inr ⟨by simp, orderly_run hfed (by simp [hreads]) w⟩
  | some key =>
    have hkey := hdeclares.read key hreads
    have hkept := get?_call hkey text tokens b
    rcases read_of_bind hbind hkey with ⟨hnone, hdangling⟩ | ⟨hbound, hfree⟩
    · refine Or.inl ⟨key, rfl, hdangling, ?_⟩
      rw [run_of_unbound hfed hreads (hkept.trans hnone)]
    · refine Or.inr ⟨?_, orderly_run hfed ?_ w⟩
      · intro other hother
        obtain rfl := Option.some.inj hother
        exact hfree
      · intro other hother
        obtain rfl := Option.some.inj (hreads.symm.trans hother)
        rw [hkept]
        exact hbound

end Winner

end CommandShell.BuiltinReads
