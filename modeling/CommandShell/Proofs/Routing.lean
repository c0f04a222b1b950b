import CommandShell.Proofs.OrderedScan
import CommandShell.Shell

/-!
Where a line goes. Either its token 0 names a command of which some overload binds, and
then the first such overload is run, or the line is refused with one of the two faults of
routing. Both ways to run a line, by a dispatch and through a shell, are described by what
they make of these outcomes.
-/
namespace CommandShell.Routing

open OrderedScan

variable {α : Type} {runner : Runner α} {w : World α}

/-- A command resolves a line to its winner with the line filled in, or to its rejections. -/
theorem resolve_cases (c : Command α) (text : Value) (tokens : List String) :
    (∃ i b, FirstOk (results c tokens) i b ∧ c.resolve (Line.ofTokens text tokens) =
      (.ok (completed text tokens b),
        ((results c tokens).take (i + 1)).mapIdx (record c.name))) ∨
    ∃ ms, results c tokens = ms.map .error ∧ c.resolve (Line.ofTokens text tokens) =
      (.error ⟨c, Line.ofTokens text tokens, ms⟩, (results c tokens).mapIdx (record c.name)) := by
  obtain ⟨_, harguments, _⟩ := line_ofTokens text tokens
  rcases tryFrom_eq c.name (Classified.ofTokens tokens.tail) 0 c.overloads with
    ⟨i, b, hfirst, hscan⟩ | ⟨ms, hall, hscan⟩
  · obtain ⟨o, _, hbind⟩ := List.mem_map.mp (List.mem_of_getElem? hfirst.1)
    simp only [Nat.zero_add] at hscan
    refine Or.inl ⟨i, b, hfirst, ?_⟩
    rw [Command.resolve, harguments, hscan, ← withLine_eq hbind]
    rfl
  · simp only [Nat.zero_add] at hscan
    refine Or.inr ⟨ms, hall, ?_⟩
    rw [Command.resolve, harguments, hscan]
    rfl

/-- Token 0 names no command, or every overload of its command rejects the line. -/
def Refused (r : Registry α) (tokens : List String) : Prop :=
  ∃ name, tokens.head? = some name ∧ (r.find? name = none ∨
    ∃ (c : Command α) (ms : List Mismatch), r.find? name = some c ∧
      results c tokens = ms.map .error)

/-- The outcome is that of the first overload which binds among those of the command that
token 0 names, called with the line. -/
def Ran (runner : Runner α) (w : World α) (text : String) (outcome : Outcome × World α) : Prop :=
  ∃ name c i b, (Token.tokenize text).head? = some name ∧ w.registry.find? name = some c ∧
    FirstOk (results c (Token.tokenize text)) i b ∧
    outcome = b.overload.run runner (completed (.text text) (Token.tokenize text) b).call
      (w.log (((results c (Token.tokenize text)).take (i + 1)).mapIdx (record c.name)))

/-- A line that is refused has no winner. -/
theorem not_firstOk_of_refused {r : Registry α} {tokens : List String} {name : String}
    {c : Command α} {i : Nat} {b : Binding α} (hrefused : Refused r tokens)
    (hname : tokens.head? = some name) (hc : r.find? name = some c) :
    ¬ FirstOk (results c tokens) i b := by
  rintro ⟨hget, _⟩
  obtain ⟨other, hother, hcase⟩ := hrefused
  obtain rfl := Option.some.inj (hname.symm.trans hother)
  rw [hc] at hcase
  rcases hcase with hmiss | ⟨d, ms, hd, hall⟩
  · cases hmiss
  · obtain rfl := Option.some.inj hd
    rw [hall] at hget
    obtain ⟨m, _, hm⟩ := List.mem_map.mp (List.mem_of_getElem? hget)
    cases hm

/-- A fault of one of the two stages before an action runs. -/
def IsRefusal (f : Fault) : Prop := f.kind = .unknownCommand ∨ f.kind = .noMatchingOverload

theorem route_cases (w : World α) (text name : String) (args : List String) :
    (∃ c i b, w.registry.find? name = some c ∧ FirstOk (results c (name :: args)) i b ∧
      w.route text name args = (.ok (completed (.text text) (name :: args) b),
        w.log (((results c (name :: args)).take (i + 1)).mapIdx (record c.name)))) ∨
    (Refused w.registry (name :: args) ∧ ∃ f entries, IsRefusal f ∧
      w.route text name args = (.error f, w.log entries)) := by
  cases hfind : w.registry.find? name with
  | none =>
    let miss := UnknownCommand.mk (.text name) (.text name) (w.registry.suggestions name)
    refine Or.inr ⟨⟨name, rfl, Or.inl hfind⟩, miss.toFault w.host, [], Or.inl rfl, ?_⟩
    rw [World.route, Registry.lookup, hfind, World.log_nil]
  | some c =>
    rcases resolve_cases c (.text text) (name :: args) with
      ⟨i, b, hfirst, hresolve⟩ | ⟨ms, hall, hresolve⟩
    · refine Or.inl ⟨c, i, b, rfl, hfirst, ?_⟩
      rw [World.route, Registry.lookup, hfind]
      simp only [hresolve]
      rfl
    · let miss := NoMatch.mk c (Line.ofTokens (.text text) (name :: args)) ms
      refine Or.inr ⟨⟨name, rfl, Or.inr ⟨c, ms, hfind, hall⟩⟩, miss.toFault w.host (.text name),
        (results c (name :: args)).mapIdx (record c.name), Or.inr rfl, ?_⟩
      rw [World.route, Registry.lookup, hfind]
      simp only [hresolve]
      rfl

section Dispatch

variable {text name : String} {args : List String} {next : World α}
  (htokens : Token.tokenize text = name :: args)

include htokens

theorem dispatch_of_bound {b : Binding α} (hroute : w.route text name args = (.ok b, next)) :
    w.dispatch runner (.text text) = b.overload.run runner b.call next := by
  rw [World.dispatch, World.dispatchText, htokens]
  simp only [hroute]
  rfl

theorem dispatch_of_fault {f : Fault} (hroute : w.route text name args = (.error f, next)) :
    w.dispatch runner (.text text) = (.error (.failure (.fault f)), next) := by
  rw [World.dispatch, World.dispatchText, htokens]
  simp only [hroute]

/-- Looking token 0 up and dispatching the line to its command is one route. -/
theorem dispatch_eq_lookup (runner : Runner α) (w : World α) :
    w.dispatch runner (.text text) =
      match w.registry.lookup name with
      | .error e => (.error (.failure (.fault (e.toFault w.host))), w)
      | .ok c => w.dispatchCommand runner c (Line.ofTokens (.text text) (name :: args)) := by
  rw [World.dispatch, World.dispatchText, htokens]
  simp only [World.route]
  cases w.registry.lookup name with
  | error e => rfl
  | ok c =>
    rcases resolve_cases c (.text text) (name :: args) with ⟨i, b, _, hresolve⟩ | ⟨ms, _, hresolve⟩
    · simp only [World.dispatchCommand, World.resolve, hresolve]
      rfl
    · simp only [World.dispatchCommand, World.resolve, hresolve]
      rfl

end Dispatch

end CommandShell.Routing
