import CommandShell.Proofs.ShippedLines

/-!
The variables of a session. Two commands change them: setting stores one entry under a name
that the parser of identifiers accepts, and unsetting removes the entry of such a name, if
there is one. A line that fails leaves them alone, and no line depends on them for its
outcome. So after any lines the variables have distinct names, all of them identifiers.
-/
namespace CommandShell.StoredVariables

open Draws OrderedScan BuiltinReads Routing ShippedLines

/-- The parser of identifiers gives this text back. -/
def IsVariable (key : String) : Prop := Parser.identifier (.text key) = .ok (.text key)

structure WellFormed (t : Table String) : Prop where
  distinct : t.keys.Nodup
  accepted : ∀ key ∈ t.keys, IsVariable key

/-- One entry is added at the end, or the value of one is replaced where it stands. -/
inductive Stored (key value : String) : Table String → Table String → Prop
  | added {t : Table String} (hfresh : key ∉ t.keys) : Stored key value t (t ++ [(key, value)])
  | replaced (before after : Table String) (old : String) :
      Stored key value (before ++ (key, old) :: after) (before ++ (key, value) :: after)

/-- The entry of this key is taken out, or there is none and nothing happens. -/
inductive Removed (key : String) : Table String → Table String → Prop
  | absent {t : Table String} (hfree : key ∉ t.keys) : Removed key t t
  | present (before after : Table String) (old : String)
      (hfree : key ∉ Table.keys (before ++ after)) :
      Removed key (before ++ (key, old) :: after) (before ++ after)

section Tables

variable {t t' : Table String} {key value : String}

theorem stored_set (t : Table String) (key value : String) :
    Stored key value t (t.set key value) := by
  by_cases hmem : key ∈ t.keys
  · obtain ⟨before, old, after, rfl, hbefore⟩ := Table.exists_split_of_mem_keys hmem
    rw [Table.set_append_cons hbefore]
    exact .replaced before after old
  · rw [Table.set_of_notMem hmem]
    exact .added hmem

theorem removed_erase (hdistinct : t.keys.Nodup) (key : String) : Removed key t (t.erase key) := by
  by_cases hmem : key ∈ t.keys
  · obtain ⟨before, old, after, rfl, hbefore⟩ := Table.exists_split_of_mem_keys hmem
    have hkeys : (Table.keys before ++ key :: Table.keys after).Nodup := by
      simpa only [Table.keys, List.map_append, List.map_cons] using hdistinct
    have hafter : key ∉ Table.keys after :=
      (List.nodup_cons.mp (List.nodup_append.mp hkeys).2.1).1
    -- Erasing drops every entry of the key, and the keys are distinct, so it drops just this one.
    rw [Table.erase_append_cons hbefore hafter]
    apply Removed.present
    rw [Table.keys, List.map_append, List.mem_append]
    exact not_or.mpr ⟨hbefore, hafter⟩
  · rw [Table.erase_of_notMem hmem]
    exact .absent hmem

theorem WellFormed.nil : WellFormed [] where
  distinct := List.nodup_nil
  accepted := by
    rintro key ⟨⟩

theorem WellFormed.stored (ht : WellFormed t) (hkey : IsVariable key)
    (h : Stored key value t t') : WellFormed t' := by
  cases h with
  | added hfresh =>
    rw [← Table.set_of_notMem hfresh value]
    refine ⟨Table.keys_nodup_set ht.distinct key value, ?_⟩
    intro other hother
    rcases Table.mem_keys_set.mp hother with rfl | hold
    · exact hkey
    · exact ht.accepted other hold
  | replaced before after old =>
    have hkeys : Table.keys (before ++ (key, old) :: after) =
        Table.keys (before ++ (key, value) :: after) := by
      simp only [Table.keys, List.map_append, List.map_cons]
    exact ⟨hkeys ▸ ht.distinct, hkeys ▸ ht.accepted⟩

theorem WellFormed.removed (ht : WellFormed t) (h : Removed key t t') : WellFormed t' := by
  cases h with
  | absent _ => exact ht
  | present before after old _ =>
    have hsub : (Table.keys (before ++ after)).Sublist
        (Table.keys (before ++ (key, old) :: after)) :=
      ((List.Sublist.refl before).append (List.sublist_cons_self _ after)).map Prod.fst
    exact ⟨hsub.nodup ht.distinct, fun other hother => ht.accepted other (hsub.subset hother)⟩

end Tables

section Actions

variable {α : Type} {call : Call}

theorem run_assign {key : String} {items : List String}
    (hkey : call.params.get? "variable" = some (.text key))
    (hitems : call.params.get? "value" = some (Value.texts items)) (w : World α) :
    Builtin.assign.run call w =
      (.ok .none, supplied w (w.environment.set key (" ".intercalate items))) := by
  rw [Builtin.run, Builtin.effect, joined_of_get? hitems, param_of_get? hkey]
  rfl

theorem run_unassign {key : String} (hkey : call.params.get? "variable" = some (.text key))
    (w : World α) :
    Builtin.unassign.run call w = (.ok .none, supplied w (w.environment.erase key)) := by
  rw [Builtin.run, Builtin.effect, param_of_get? hkey]
  rfl

end Actions

section Winner

variable {α : Type} {embed : Builtin → α} {r : Registry α} {tokens : List String} {b : Binding α}

/-- The names of the two commands stand for them, and every other name stands for one of the
commands that leave the variables alone. -/
structure Stocked (embed : Builtin → α) (r : Registry α) : Prop where
  set : r.find? "set" = some (Builtin.setCommand embed)
  unset : r.find? "unset" = some (Builtin.unsetCommand embed)
  others : ∀ name c, r.find? name = some c → name ≠ "set" → name ≠ "unset" →
    c ∈ [Builtin.echoCommand embed, Builtin.envCommand embed, Builtin.testCommand embed] ∨
      ∃ help colorful, Builtin.helpCommand embed help colorful = .ok c

theorem Stocked.shipped (h : Stocked embed r) : Shipped embed r := by
  intro name c hc
  by_cases hset : name = "set"
  · rw [hset, h.set] at hc
    rw [← Option.some.inj hc]
    exact Or.inl (List.mem_cons_of_mem _ List.mem_cons_self)
  by_cases hunset : name = "unset"
  · rw [hunset, h.unset] at hc
    rw [← Option.some.inj hc]
    exact Or.inl (List.mem_cons_of_mem _ (List.mem_cons_of_mem _ List.mem_cons_self))
  refine (h.others name c hc hset hunset).imp_left ?_
  intro hmem
  simp only [Builtin.commands, List.mem_cons, List.not_mem_nil, or_false] at hmem ⊢
  rcases hmem with hecho | henv | htest
  · exact Or.inl hecho
  · exact Or.inr (Or.inr (Or.inr (Or.inl henv)))
  · exact Or.inr (Or.inr (Or.inr (Or.inr htest)))

theorem overload_of_won {name : String} {c : Command α} (hwon : Won r tokens b)
    (hname : tokens.head? = some name) (hc : r.find? name = some c) :
    b.overload ∈ c.overloads ∧ b.overload.bind (Classified.ofTokens tokens.tail) = .ok b := by
  obtain ⟨other, d, i, hother, hd, hfirst⟩ := hwon
  obtain rfl := Option.some.inj (hname.symm.trans hother)
  obtain rfl := Option.some.inj (hc.symm.trans hd)
  obtain ⟨hoverload, hbind⟩ := hfirst.overload_bind
  exact ⟨List.mem_of_getElem? hoverload, hbind⟩

/-- Behind any other name the winner's action leaves the variables alone. -/
theorem action_of_other (hstocked : Stocked embed r) (hwon : Won r tokens b)
    (hset : tokens.head? ≠ some "set") (hunset : tokens.head? ≠ some "unset") :
    ∃ action, b.overload.action = some (embed action) ∧ action ≠ .assign ∧
      action ≠ .unassign := by
  obtain ⟨name, c, hname, hc⟩ : ∃ name c, tokens.head? = some name ∧ r.find? name = some c := by
    obtain ⟨name, c, i, hname, hc, _⟩ := hwon
    exact ⟨name, c, hname, hc⟩
  obtain ⟨hmem, _⟩ := overload_of_won hwon hname hc
  rw [hname] at hset hunset
  rcases hstocked.others name c hc (fun h => hset (congrArg some h))
    (fun h => hunset (congrArg some h)) with hother | ⟨help, colorful, hhelp⟩
  · simp only [List.mem_cons, List.not_mem_nil, or_false] at hother
    rcases hother with rfl | rfl | rfl
    all_goals rw [List.mem_singleton.mp hmem]
    · exact ⟨.echo, rfl, nofun, nofun⟩
    · exact ⟨.listing, rfl, nofun, nofun⟩
    · exact ⟨.probe, rfl, nofun, nofun⟩
  · rw [overloads_helpCommand hhelp] at hmem
    simp only [List.mem_cons, List.not_mem_nil, or_false] at hmem
    rcases hmem with ho | ho
    all_goals rw [ho]
    · exact ⟨.summary colorful, rfl, nofun, nofun⟩
    · exact ⟨.details colorful, rfl, nofun, nofun⟩

/-- The name of a variable is bound to an identifier, or not at all. -/
theorem variable_of_bind {o : Overload α} {purpose : String}
    (hbind : o.bind (Classified.ofTokens tokens.tail) = .ok b)
    (hp : Builtin.variableParam purpose ∈ o.params) :
    b.params.get? "variable" = none ∨
      ∃ key, b.params.get? "variable" = some (.text key) ∧ IsVariable key := by
  rcases required_of_bind hbind hp rfl with ⟨hnone, _⟩ | ⟨⟨raw, hshape, v, hparse, hget⟩, _⟩
  · exact Or.inl hnone
  · have hv : v = raw.toValue := faithful_of_identifier rfl _ _ hparse
    rw [hv] at hparse hget
    cases raw with
    | many values => cases hshape
    | one key => exact Or.inr ⟨key, hget, hparse⟩

end Winner

section Lines

variable {α : Type} {embed : Builtin → α} {runner : Runner α} {w : World α} {text : String}
  {b : Binding α}

theorem dispatch_of_won (runner : Runner α) (hwon : Won w.registry (Token.tokenize text) b) :
    ∃ entries, w.dispatch runner (.text text) = b.overload.run runner
      (completed (.text text) (Token.tokenize text) b).call (w.log entries) := by
  rcases dispatch_cases runner text w with ⟨d, entries, hother, hrun⟩ | ⟨hnone, _⟩
  · obtain rfl := won_unique hwon hother
    exact ⟨entries, hrun⟩
  · exact absurd hwon (hnone b)

/-- A command with a single overload runs its action on what that overload binds. -/
theorem dispatch_first (hhosts : Hosts embed runner) {name : String} {c : Command α}
    {action : Builtin} (hname : (Token.tokenize text).head? = some name)
    (hc : w.registry.find? name = some c) (hsingle : c.others = [])
    (haction : c.first.action = some (embed action))
    (hwon : Won w.registry (Token.tokenize text) b) :
    c.first.bind (Classified.ofTokens (Token.tokenize text).tail) = .ok b ∧
      ∃ entries, w.dispatch runner (.text text) =
        action.run (completed (.text text) (Token.tokenize text) b).call (w.log entries) := by
  obtain ⟨hmem, hbind⟩ := overload_of_won hwon hname hc
  obtain ⟨entries, hrun⟩ := dispatch_of_won runner hwon
  rw [Command.overloads, hsingle] at hmem
  have hfirst : b.overload = c.first := List.mem_singleton.mp hmem
  rw [hfirst] at hbind hrun
  rw [hhosts.run_eq haction] at hrun
  exact ⟨hbind, entries, hrun⟩

/-- A winner of setting stores what it binds, unless it leaves the name unbound. -/
theorem dispatch_set (hhosts : Hosts embed runner) (hstocked : Stocked embed w.registry)
    (hname : (Token.tokenize text).head? = some "set")
    (hwon : Won w.registry (Token.tokenize text) b) :
    (b.params.get? "variable" = none ∧
      ∃ entries, w.dispatch runner (.text text) = (missing "variable", w.log entries)) ∨
    ∃ key items entries, b.params.get? "variable" = some (.text key) ∧ IsVariable key ∧
      b.params.get? "value" = some (Value.texts items) ∧
      w.dispatch runner (.text text) = (.ok .none,
        supplied (w.log entries) (w.environment.set key (" ".intercalate items))) := by
  obtain ⟨hbind, entries, hrun⟩ := dispatch_first hhosts hname hstocked.set rfl rfl hwon
  have hdeclares : Declares (Builtin.setCommand embed).first .assign := declares_assign
  have hfed := fed_of_bind (.text text) hbind hdeclares
  have hread := get?_call (hdeclares.read "variable" rfl) (.text text) (Token.tokenize text) b
  rcases variable_of_bind hbind List.mem_cons_self with hnone | ⟨key, hkey, haccepted⟩
  · refine Or.inl ⟨hnone, entries, ?_⟩
    rw [hrun, run_of_unbound hfed rfl (hread.trans hnone)]
  · obtain ⟨items, hitems⟩ := hfed.joined "value" rfl
    have hvalue := get?_call (hdeclares.joined "value" rfl) (.text text) (Token.tokenize text) b
    refine Or.inr ⟨key, items, entries, hkey, haccepted, hvalue.symm.trans hitems, ?_⟩
    rw [hrun, run_assign (hread.trans hkey) hitems]
    rfl

/-- A winner of unsetting removes the entry it binds, unless it leaves the name unbound. -/
theorem dispatch_unset (hhosts : Hosts embed runner) (hstocked : Stocked embed w.registry)
    (hname : (Token.tokenize text).head? = some "unset")
    (hwon : Won w.registry (Token.tokenize text) b) :
    (b.params.get? "variable" = none ∧
      ∃ entries, w.dispatch runner (.text text) = (missing "variable", w.log entries)) ∨
    ∃ key entries, b.params.get? "variable" = some (.text key) ∧ IsVariable key ∧
      w.dispatch runner (.text text) =
        (.ok .none, supplied (w.log entries) (w.environment.erase key)) := by
  obtain ⟨hbind, entries, hrun⟩ := dispatch_first hhosts hname hstocked.unset rfl rfl hwon
  have hdeclares : Declares (Builtin.unsetCommand embed).first .unassign := declares_unassign
  have hfed := fed_of_bind (.text text) hbind hdeclares
  have hread := get?_call (hdeclares.read "variable" rfl) (.text text) (Token.tokenize text) b
  rcases variable_of_bind hbind List.mem_cons_self with hnone | ⟨key, hkey, haccepted⟩
  · refine Or.inl ⟨hnone, entries, ?_⟩
    rw [hrun, run_of_unbound hfed rfl (hread.trans hnone)]
  · refine Or.inr ⟨key, entries, hkey, haccepted, ?_⟩
    rw [hrun, run_unassign (hread.trans hkey)]
    rfl

/-- Any other winner completes or fails, and leaves the variables as they are. -/
theorem dispatch_other (hhosts : Hosts embed runner) (hstocked : Stocked embed w.registry)
    (hset : (Token.tokenize text).head? ≠ some "set")
    (hunset : (Token.tokenize text).head? ≠ some "unset")
    (hwon : Won w.registry (Token.tokenize text) b) :
    (w.dispatch runner (.text text)).2.environment = w.environment ∧
      ((w.dispatch runner (.text text)).1 = .ok .none ∨
        ∃ stop, (w.dispatch runner (.text text)).1 = .error stop) := by
  obtain ⟨action, haction, hassign, hunassign⟩ := action_of_other hstocked hwon hset hunset
  obtain ⟨entries, hrun⟩ := dispatch_of_won runner hwon
  rw [hrun, hhosts.run_eq haction]
  rcases run_cases action (completed (.text text) (Token.tokenize text) b).call (w.log entries) with
    ⟨stop, hstop⟩ | ⟨next, hnext⟩
  · have hended := hstop (w.log entries).environment
    rw [supplied_environment] at hended
    rw [hended]
    exact ⟨rfl, Or.inr ⟨stop, rfl⟩⟩
  · obtain ⟨hended, _, hkept⟩ := hnext (w.log entries).environment
    rw [supplied_environment] at hended
    rw [hended]
    exact ⟨hkept hassign hunassign, Or.inl rfl⟩

/-- What a line makes of the variables, by its outcome and its first token. -/
inductive Treated (r : Registry α) (tokens : List String) (t : Table String) :
    Outcome → Table String → Prop
  | raised (stop : Stop) : Treated r tokens t (.error stop) t
  | kept (hset : tokens.head? ≠ some "set") (hunset : tokens.head? ≠ some "unset") :
      Treated r tokens t (.ok .none) t
  | stored {b : Binding α} {key : String} {items : List String} {t' : Table String}
      (hname : tokens.head? = some "set") (hwon : Won r tokens b)
      (hkey : b.params.get? "variable" = some (.text key))
      (hvalue : b.params.get? "value" = some (Value.texts items)) (haccepted : IsVariable key)
      (hstored : Stored key (" ".intercalate items) t t') : Treated r tokens t (.ok .none) t'
  | removed {b : Binding α} {key : String} {t' : Table String}
      (hname : tokens.head? = some "unset") (hwon : Won r tokens b)
      (hkey : b.params.get? "variable" = some (.text key)) (haccepted : IsVariable key)
      (hremoved : Removed key t t') : Treated r tokens t (.ok .none) t'

theorem treated_dispatch (hhosts : Hosts embed runner) (hstocked : Stocked embed w.registry)
    (hdistinct : w.environment.keys.Nodup) (text : String) :
    Treated w.registry (Token.tokenize text) w.environment (w.dispatch runner (.text text)).1
      (w.dispatch runner (.text text)).2.environment := by
  rcases dispatch_cases runner text w with ⟨b, _, hwon, _⟩ | ⟨_, outcome, entries, hlogged, hends⟩
  · -- The first token settles which actions the winner can have.
    by_cases hset : (Token.tokenize text).head? = some "set"
    · rcases dispatch_set hhosts hstocked hset hwon with
        ⟨_, entries, hrun⟩ | ⟨key, items, entries, hkey, haccepted, hvalue, hrun⟩
      · rw [hrun]
        exact .raised _
      · rw [hrun]
        exact .stored hset hwon hkey hvalue haccepted (stored_set _ _ _)
    by_cases hunset : (Token.tokenize text).head? = some "unset"
    · rcases dispatch_unset hhosts hstocked hunset hwon with
        ⟨_, entries, hrun⟩ | ⟨key, entries, hkey, haccepted, hrun⟩
      · rw [hrun]
        exact .raised _
      · rw [hrun]
        exact .removed hunset hwon hkey haccepted (removed_erase hdistinct key)
    obtain ⟨hkept, houtcome⟩ := dispatch_other hhosts hstocked hset hunset hwon
    rw [hkept]
    rcases houtcome with hok | ⟨stop, herror⟩
    · rw [hok]
      exact .kept hset hunset
    · rw [herror]
      exact .raised stop
  · rw [hlogged]
    rcases hends with ⟨hempty, rfl⟩ | ⟨f, _, rfl⟩
    · rw [hempty]
      exact .kept nofun nofun
    · exact .raised _

theorem Treated.wellFormed {r : Registry α} {tokens : List String} {t t' : Table String}
    {outcome : Outcome} (h : Treated r tokens t outcome t') (ht : WellFormed t) :
    WellFormed t' := by
  cases h with
  | raised stop => exact ht
  | kept hset hunset => exact ht
  | stored hname hwon hkey hvalue haccepted hstored => exact ht.stored haccepted hstored
  | removed hname hwon hkey haccepted hremoved => exact ht.removed hremoved

theorem route_supplied (w : World α) (t : Table String) (text name : String)
    (args : List String) : (supplied w t).route text name args =
      ((w.route text name args).1, supplied (w.route text name args).2 t) := by
  simp only [World.route, supplied]
  cases w.registry.lookup name <;> rfl

/-- How a line ends does not depend on the variables. -/
theorem outcome_supplied (hhosts : Hosts embed runner) (hshipped : Shipped embed w.registry)
    (text : String) (t : Table String) :
    ((supplied w t).dispatch runner (.text text)).1 = (w.dispatch runner (.text text)).1 := by
  cases htokens : Token.tokenize text with
  | nil => simp only [World.dispatch, World.dispatchText, htokens]
  | cons name args =>
    rcases route_cases w text name args with
      ⟨c, i, b, hfind, hfirst, hroute⟩ | ⟨_, f, entries, _, hroute⟩
    · have hother := route_supplied w t text name args
      rw [hroute] at hother
      obtain ⟨action, _, _, hruns⟩ :=
        winner_cases hhosts hshipped ⟨name, c, i, rfl, hfind, hfirst⟩
      rw [dispatch_of_bound htokens hroute, dispatch_of_bound htokens hother]
      change (b.overload.run runner _ _).1 = (b.overload.run runner _ _).1
      rw [hruns, hruns, outcome_run_supplied]
    · have hother := route_supplied w t text name args
      rw [hroute] at hother
      rw [dispatch_of_fault htokens hroute, dispatch_of_fault htokens hother]

theorem completes_of_won (hhosts : Hosts embed runner) (hstocked : Stocked embed w.registry)
    (hname : (Token.tokenize text).head? = some "set" ∨
      (Token.tokenize text).head? = some "unset")
    (hwon : Won w.registry (Token.tokenize text) b) :
    (w.dispatch runner (.text text)).1 = .ok .none ↔
      ∃ key, b.params.get? "variable" = some (.text key) := by
  have hfailed {entries : Journal} (hnone : b.params.get? "variable" = none)
      (hrun : w.dispatch runner (.text text) = (missing "variable", w.log entries)) :
      (w.dispatch runner (.text text)).1 = .ok .none ↔
        ∃ key, b.params.get? "variable" = some (.text key) := by
    rw [hrun, hnone]
    constructor
    · rintro ⟨⟩
    · rintro ⟨key, ⟨⟩⟩
  rcases hname with hset | hunset
  · rcases dispatch_set hhosts hstocked hset hwon with
      ⟨hnone, entries, hrun⟩ | ⟨key, items, entries, hkey, _, _, hrun⟩
    · exact hfailed hnone hrun
    · exact iff_of_true (congrArg Prod.fst hrun) ⟨key, hkey⟩
  · rcases dispatch_unset hhosts hstocked hunset hwon with
      ⟨hnone, entries, hrun⟩ | ⟨key, entries, hkey, _, hrun⟩
    · exact hfailed hnone hrun
    · exact iff_of_true (congrArg Prod.fst hrun) ⟨key, hkey⟩

/-- Setting and unsetting complete when a winner binds a name, whether or not there is a
variable of that name. -/
theorem completes_iff (hhosts : Hosts embed runner) (hstocked : Stocked embed w.registry)
    (hname : (Token.tokenize text).head? = some "set" ∨
      (Token.tokenize text).head? = some "unset") :
    (w.dispatch runner (.text text)).1 = .ok .none ↔
      ∃ b key, Won w.registry (Token.tokenize text) b ∧
        b.params.get? "variable" = some (.text key) := by
  constructor
  · intro hok
    rcases dispatch_cases runner text w with
      ⟨b, _, hwon, _⟩ | ⟨_, outcome, entries, hlogged, hends⟩
    · obtain ⟨key, hkey⟩ := (completes_of_won hhosts hstocked hname hwon).mp hok
      exact ⟨b, key, hwon, hkey⟩
    · rw [hlogged] at hok
      rcases hends with ⟨hempty, _⟩ | ⟨f, _, rfl⟩
      · simp [hempty] at hname
      · cases hok
  · rintro ⟨b, key, hwon, hkey⟩
    exact (completes_of_won hhosts hstocked hname hwon).mpr ⟨key, hkey⟩

end Lines

section Session

variable {α : Type} {embed : Builtin → α} {runner : Runner α} {w : World α}

/-- A line keeps the variables well formed, and so do all lines in turn. -/
theorem wellFormed_session (hhosts : Hosts embed runner) (hstocked : Stocked embed w.registry)
    (hw : WellFormed w.environment) (lines : List String) :
    WellFormed (session runner w lines).environment := by
  induction lines generalizing w with
  | nil => exact hw
  | cons line rest ih =>
    have htreated := treated_dispatch hhosts hstocked hw.distinct line
    have hkept := registry_dispatch hhosts hstocked.shipped line
    exact ih (hkept ▸ hstocked) (htreated.wellFormed hw)

/-- Well-formed variables, what any next line makes of them, when setting and unsetting
complete, and that no line ends differently with other variables. -/
structure Maintained (runner : Runner α) (r : Registry α) (w : World α) : Prop where
  wellFormed : WellFormed w.environment
  treated : ∀ line, Treated r (Token.tokenize line) w.environment
    (w.dispatch runner (.text line)).1 (w.dispatch runner (.text line)).2.environment
  completes : ∀ line, ((Token.tokenize line).head? = some "set" ∨
    (Token.tokenize line).head? = some "unset") →
      ((w.dispatch runner (.text line)).1 = .ok .none ↔
        ∃ b key, Won r (Token.tokenize line) b ∧ b.params.get? "variable" = some (.text key))
  unaffected : ∀ line t,
    ((supplied w t).dispatch runner (.text line)).1 = (w.dispatch runner (.text line)).1

theorem maintained_session (hhosts : Hosts embed runner) (hstocked : Stocked embed w.registry)
    (hempty : w.environment = []) (lines : List String) :
    Maintained runner w.registry (session runner w lines) := by
  have hregistry := registry_session hhosts hstocked.shipped lines
  have hstill : Stocked embed (session runner w lines).registry := hregistry ▸ hstocked
  have hw : WellFormed (session runner w lines).environment :=
    wellFormed_session hhosts hstocked (hempty ▸ WellFormed.nil) lines
  rw [← hregistry]
  constructor
  case wellFormed => exact hw
  case treated => exact fun line => treated_dispatch hhosts hstill hw.distinct line
  case completes => exact fun line hname => completes_iff hhosts hstill hname
  case unaffected => exact fun line t => outcome_supplied hhosts hstill.shipped line t

end Session

theorem stocked_start : Stocked id start.registry where
  set := rfl
  unset := rfl
  others := by
    obtain ⟨help, hhelp, hstart⟩ := exists_help
    intro name c hc hset hunset
    rw [hstart] at hc
    rcases Registry.find?_register_cases hc with ⟨rfl, _⟩ | hinstalled
    · exact Or.inr ⟨_, _, hhelp⟩
    rcases find?_registerAll hinstalled with ⟨hmem, hname⟩ | hinitial
    · left
      simp only [Builtin.commands, List.mem_cons, List.not_mem_nil, or_false] at hmem ⊢
      rcases hmem with rfl | rfl | rfl | rfl | rfl
      · exact Or.inl rfl
      · exact absurd (hname.resolve_right List.not_mem_nil) hset
      · exact absurd (hname.resolve_right List.not_mem_nil) hunset
      · exact Or.inr (Or.inl rfl)
      · exact Or.inr (Or.inr rfl)
    · cases hinitial

/-- A variable is set and set again, a name is refused, and one that is not there is unset. -/
theorem greeting_session :
    Hosts id Demo.runner ∧ Stocked id start.registry ∧ start.environment = [] ∧
      (session Demo.runner start ["set greeting hi there", "set greeting hello", "set 9lives x",
        "unset farewell"]).environment = [("greeting", "hello")] ∧
      Maintained Demo.runner start.registry (session Demo.runner start ["set greeting hi there",
        "set greeting hello", "set 9lives x", "unset farewell"]) := by
  refine ⟨hosts_demo, stocked_start, rfl, ?_, maintained_session hosts_demo stocked_start rfl _⟩
  decide +kernel

end CommandShell.StoredVariables
