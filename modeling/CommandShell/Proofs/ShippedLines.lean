import CommandShell.Demo
import CommandShell.Proofs.BuiltinReads
import CommandShell.Proofs.Routing

/-!
Lines on the commands that a shell starts with. A line runs the action of its winner,
or ends in one of the two faults of routing. It fails for a missing key when the winner's
action reads a parameter that the winner leaves unbound, which a marker without a value
can bring about, and in no other case. No line changes the registry, so this holds for
all lines of a session.
-/
namespace CommandShell.ShippedLines

open Draws OrderedScan BuiltinReads Routing

section Dispatch

variable {α : Type} {embed : Builtin → α} {runner : Runner α} {r : Registry α} {w : World α}
  {tokens : List String}

/-- The built-in actions keep their meaning among the actions of a runner. -/
structure Hosts (embed : Builtin → α) (runner : Runner α) : Prop where
  injective : Function.Injective embed
  runs : ∀ action call w, runner (embed action) call w = action.run call w

/-- The command named by token 0 has a first overload that binds, and this is its binding. -/
def Won (r : Registry α) (tokens : List String) (b : Binding α) : Prop :=
  ∃ name c i, tokens.head? = some name ∧ r.find? name = some c ∧ FirstOk (results c tokens) i b

/-- The winner of a line reads this parameter, whose last marker has no value behind it. -/
def Starves (embed : Builtin → α) (r : Registry α) (tokens : List String) (key : String) : Prop :=
  ∃ b action, Won r tokens b ∧ b.overload.action = some (embed action) ∧
    reads action = some key ∧ Dangling key tokens.tail

theorem Hosts.run_eq (hhosts : Hosts embed runner) {o : Overload α} {action : Builtin}
    (haction : o.action = some (embed action)) (call : Call) (w : World α) :
    o.run runner call w = action.run call w := by
  rw [Overload.run, haction]
  exact hhosts.runs action call w

theorem firstOk_unique {rs : List (Except Mismatch (Binding α))} {i j : Nat} {b d : Binding α}
    (hb : FirstOk rs i b) (hd : FirstOk rs j d) : b = d := by
  rcases Nat.lt_trichotomy i j with hlt | rfl | hgt
  · obtain ⟨m, hm⟩ := hd.2 i hlt
    cases hb.1.symm.trans hm
  · exact Except.ok.inj (Option.some.inj (hb.1.symm.trans hd.1))
  · obtain ⟨m, hm⟩ := hb.2 j hgt
    cases hd.1.symm.trans hm

theorem won_unique {b d : Binding α} (hb : Won r tokens b) (hd : Won r tokens d) : b = d := by
  obtain ⟨name, c, i, hname, hc, hfirst⟩ := hb
  obtain ⟨other, e, j, hother, he, hsecond⟩ := hd
  obtain rfl := Option.some.inj (hname.symm.trans hother)
  obtain rfl := Option.some.inj (hc.symm.trans he)
  exact firstOk_unique hfirst hsecond

theorem bind_of_won {b : Binding α} (hwon : Won r tokens b) :
    ∃ name c, r.find? name = some c ∧ b.overload ∈ c.overloads ∧
      b.overload.bind (Classified.ofTokens tokens.tail) = .ok b := by
  obtain ⟨name, c, i, _, hc, hfirst⟩ := hwon
  obtain ⟨hoverload, hbind⟩ := hfirst.overload_bind
  exact ⟨name, c, hc, List.mem_of_getElem? hoverload, hbind⟩

theorem starves_iff (hhosts : Hosts embed runner) {b : Binding α} {action : Builtin}
    (hwon : Won r tokens b) (haction : b.overload.action = some (embed action)) (key : String) :
    Starves embed r tokens key ↔ reads action = some key ∧ Dangling key tokens.tail := by
  constructor
  · rintro ⟨d, other, hother, hruns, hreads, hdangling⟩
    obtain rfl := won_unique hwon hother
    obtain rfl := hhosts.injective (Option.some.inj (haction.symm.trans hruns))
    exact ⟨hreads, hdangling⟩
  · rintro ⟨hreads, hdangling⟩
    exact ⟨b, action, hwon, haction, hreads, hdangling⟩

/-- How a line without a winner ends: it has no tokens, or routing refuses it. -/
def EndsUnrun (tokens : List String) (outcome : Outcome) : Prop :=
  tokens = [] ∧ outcome = .ok .none ∨
    ∃ f, IsRefusal f ∧ outcome = .error (.failure (.fault f))

theorem orderly_of_endsUnrun {outcome : Outcome} (h : EndsUnrun tokens outcome) :
    Orderly outcome := by
  rcases h with ⟨_, rfl⟩ | ⟨f, hrefusal, rfl⟩
  · trivial
  · exact hrefusal

/-- A line runs its winner, or else it only adds records. -/
theorem dispatch_cases (runner : Runner α) (text : String) (w : World α) :
    (∃ b entries, Won w.registry (Token.tokenize text) b ∧ w.dispatch runner (.text text) =
      b.overload.run runner (completed (.text text) (Token.tokenize text) b).call
        (w.log entries)) ∨
    ((∀ b, ¬ Won w.registry (Token.tokenize text) b) ∧
      ∃ outcome entries, w.dispatch runner (.text text) = (outcome, w.log entries) ∧
        EndsUnrun (Token.tokenize text) outcome) := by
  cases htokens : Token.tokenize text with
  | nil =>
    refine Or.inr ⟨?_, .ok .none, [], ?_, Or.inl ⟨rfl, rfl⟩⟩
    · rintro b ⟨name, c, i, hname, _⟩
      cases hname
    · rw [World.dispatch, World.dispatchText, htokens, World.log_nil]
  | cons name args =>
    rcases route_cases w text name args with
      ⟨c, i, b, hfind, hfirst, hroute⟩ | ⟨hrefused, f, entries, hstage, hroute⟩
    · rw [dispatch_of_bound htokens hroute]
      exact Or.inl ⟨_, _, ⟨name, c, i, rfl, hfind, hfirst⟩, rfl⟩
    · rw [dispatch_of_fault htokens hroute]
      refine Or.inr ⟨?_, _, entries, rfl, Or.inr ⟨f, hstage, rfl⟩⟩
      rintro b ⟨name, c, i, hname, hc, hfirst⟩
      exact not_firstOk_of_refused hrefused hname hc hfirst

theorem missing_inj {key other : String} (h : missing key = missing other) : key = other := by
  simpa [missing, Failure.ofText] using h

/-- A shipped winner runs a built-in action and declares what it needs. -/
theorem winner_cases (hhosts : Hosts embed runner) (hshipped : Shipped embed r) {b : Binding α}
    (hwon : Won r tokens b) :
    ∃ action, b.overload.action = some (embed action) ∧ Declares b.overload action ∧
      ∀ call (w : World α), b.overload.run runner call w = action.run call w := by
  obtain ⟨name, c, hc, hmem, _⟩ := bind_of_won hwon
  obtain ⟨action, haction, hdeclares⟩ := exists_action (hshipped name c hc) hmem
  exact ⟨action, haction, hdeclares, hhosts.run_eq haction⟩

/-- No line changes the registry: neither routing nor a built-in action does. -/
theorem registry_dispatch (hhosts : Hosts embed runner) (hshipped : Shipped embed w.registry)
    (text : String) : (w.dispatch runner (.text text)).2.registry = w.registry := by
  rcases dispatch_cases runner text w with ⟨b, entries, hwon, hrun⟩ | ⟨_, _, entries, hlogged, _⟩
  · obtain ⟨action, _, _, hruns⟩ := winner_cases hhosts hshipped hwon
    rw [hrun, hruns, registry_run]
    rfl
  · rw [hlogged]
    rfl

/-- The world after some lines, each dispatched in the world that the one before it left. -/
def session (runner : Runner α) (w : World α) (lines : List String) : World α :=
  lines.foldl (fun w line => (w.dispatch runner (.text line)).2) w

/-- So the commands are the shipped ones before every line of a session. -/
theorem registry_session (hhosts : Hosts embed runner) (hshipped : Shipped embed w.registry)
    (lines : List String) : (session runner w lines).registry = w.registry := by
  induction lines generalizing w with
  | nil => rfl
  | cons line rest ih =>
    have hstep := registry_dispatch hhosts hshipped line
    exact (ih (hstep ▸ hshipped)).trans hstep

/-- The outcome of a line names the parameter that its winner lacks, if there is one. -/
theorem outcome_cases (hhosts : Hosts embed runner) (hshipped : Shipped embed w.registry)
    (text : String) :
    (∃ key, (w.dispatch runner (.text text)).1 = missing key ∧
      ∀ other, Starves embed w.registry (Token.tokenize text) other ↔ key = other) ∨
    (Orderly (w.dispatch runner (.text text)).1 ∧
      ∀ key, ¬ Starves embed w.registry (Token.tokenize text) key) := by
  rcases dispatch_cases runner text w with
    ⟨b, entries, hwon, hrun⟩ | ⟨hnone, _, _, hlogged, hends⟩
  · obtain ⟨action, haction, hdeclares, hruns⟩ := winner_cases hhosts hshipped hwon
    obtain ⟨_, _, _, _, hbind⟩ := bind_of_won hwon
    have hstarves := starves_iff hhosts hwon haction
    rw [hrun, hruns]
    rcases outcome_of_bind (.text text) hbind hdeclares (w.log entries) with
      ⟨key, hreads, hdangling, hmissing⟩ | ⟨hfree, horderly⟩
    · refine Or.inl ⟨key, hmissing, ?_⟩
      intro other
      rw [hstarves]
      constructor
      · rintro ⟨hother, _⟩
        exact Option.some.inj (hreads.symm.trans hother)
      · rintro rfl
        exact ⟨hreads, hdangling⟩
    · refine Or.inr ⟨horderly, ?_⟩
      intro key hkey
      obtain ⟨hreads, hdangling⟩ := (hstarves key).mp hkey
      exact hfree key hreads hdangling
  · rw [hlogged]
    refine Or.inr ⟨orderly_of_endsUnrun hends, ?_⟩
    rintro key ⟨b, action, hwon, _⟩
    exact hnone b hwon

theorem key_of_reads {action : Builtin} {key : String} (h : reads action = some key) :
    key = "variable" ∨ key = "command" := by
  cases action with
  | assign => exact Or.inl (Option.some.inj h).symm
  | unassign => exact Or.inl (Option.some.inj h).symm
  | details colorful => exact Or.inr (Option.some.inj h).symm
  | echo => cases h
  | listing => cases h
  | probe => cases h
  | summary colorful => cases h

/-- The parameter that the winner's action reads is unbound when its last marker has no
value behind it, and only then. -/
theorem unbound_iff (hhosts : Hosts embed runner) (hshipped : Shipped embed r) {b : Binding α}
    {action : Builtin} {key : String} (hwon : Won r tokens b)
    (haction : b.overload.action = some (embed action)) (hreads : reads action = some key) :
    b.params.get? key = none ↔ Dangling key tokens.tail := by
  obtain ⟨own, hown, hdeclares, _⟩ := winner_cases hhosts hshipped hwon
  obtain rfl := hhosts.injective (Option.some.inj (hown.symm.trans haction))
  obtain ⟨_, _, _, _, hbind⟩ := bind_of_won hwon
  rcases read_of_bind hbind (hdeclares.read key hreads) with
    ⟨hnone, hdangling⟩ | ⟨⟨s, hs⟩, hfree⟩
  · exact ⟨fun _ => hdangling, fun _ => hnone⟩
  · constructor
    · intro hnone
      rw [hnone] at hs
      cases hs
    · exact fun hdangling => absurd hdangling hfree

/-- What becomes of a line: it completes or ends in a fault of routing, unless its winner
leaves a parameter unbound that the action reads. -/
structure Dispatched (embed : Builtin → α) (runner : Runner α) (text : String) (w : World α) :
    Prop where
  ended : (∃ key, (w.dispatch runner (.text text)).1 = missing key) ∨
    Orderly (w.dispatch runner (.text text)).1
  failed : ∀ key, (w.dispatch runner (.text text)).1 = missing key ↔
    Starves embed w.registry (Token.tokenize text) key
  unbound : ∀ b action key, Won w.registry (Token.tokenize text) b →
    b.overload.action = some (embed action) → reads action = some key →
    (b.params.get? key = none ↔ Dangling key (Token.tokenize text).tail)
  scalars : ∀ key, Starves embed w.registry (Token.tokenize text) key →
    key = "variable" ∨ key = "command"
  kept : (w.dispatch runner (.text text)).2.registry = w.registry

theorem dispatched_shipped (hhosts : Hosts embed runner) (hshipped : Shipped embed w.registry)
    (text : String) : Dispatched embed runner text w := by
  constructor
  case ended =>
    rcases outcome_cases hhosts hshipped text with ⟨key, hmissing, _⟩ | ⟨horderly, _⟩
    · exact Or.inl ⟨key, hmissing⟩
    · exact Or.inr horderly
  case failed =>
    intro key
    rcases outcome_cases hhosts hshipped text with ⟨own, hmissing, hstarves⟩ | ⟨horderly, hfree⟩
    · rw [hmissing, hstarves]
      exact ⟨missing_inj, congrArg missing⟩
    · constructor
      · intro hmissing
        rw [hmissing] at horderly
        exact horderly.elim
      · exact fun hkey => absurd hkey (hfree key)
  case unbound =>
    intro b action key hwon haction hreads
    exact unbound_iff hhosts hshipped hwon haction hreads
  case scalars =>
    rintro key ⟨b, action, _, _, hreads, _⟩
    exact key_of_reads hreads
  case kept => exact registry_dispatch hhosts hshipped text

end Dispatch

/-- The built-in commands and help, before the first line. -/
def start : World Builtin := Demo.registerHelp (Builtin.install id World.initial)

theorem hosts_demo : Hosts id Demo.runner where
  injective := Function.injective_id
  runs := fun _ _ _ => rfl

theorem exists_help : ∃ help, Builtin.helpCommand id (.text "help") true = .ok help ∧
    start.registry = (Builtin.install id World.initial).registry.register help.name help :=
  ⟨_, rfl, rfl⟩

theorem shipped_start : Shipped id start.registry := by
  obtain ⟨help, hhelp, hstart⟩ := exists_help
  rw [hstart]
  exact shipped_register (shipped_install shipped_empty) (Or.inr ⟨_, _, hhelp⟩) help.name

/-- A marker without a value where the name of a variable is read. -/
theorem set_without_value :
    Hosts id Demo.runner ∧ Shipped id start.registry ∧
      (start.dispatch Demo.runner (.text "set --variable")).1 = missing "variable" := by
  have htokens : Token.tokenize "set --variable" = ["set", "--variable"] := by decide +kernel
  have hstarves : Starves id start.registry (Token.tokenize "set --variable") "variable" := by
    rw [htokens]
    refine ⟨_, .assign, ⟨"set", Builtin.setCommand id, 0, rfl, rfl, ⟨rfl, ?_⟩⟩, rfl, rfl, ?_⟩
    · exact fun j hj => absurd hj (Nat.not_lt_zero j)
    · exact ⟨[], [], rfl, by simp, rfl⟩
  have hdispatched := dispatched_shipped hosts_demo shipped_start "set --variable"
  exact ⟨hosts_demo, shipped_start, (hdispatched.failed "variable").mpr hstarves⟩

end CommandShell.ShippedLines
