import CommandShell.Proofs.Routing

/-!
A line run by a shell, compared with the same line raised, shown or dispatched. A shell
that raises adds its presentation to the faults of routing and nothing else to what a
dispatch does. A shell that shows does what the raising one does to the world, and then
shows what that one raises, once. Both hold for every runner, so also for actions that
dispatch further lines or register commands.
-/
namespace CommandShell.ShellLines

open OrderedScan Routing

variable {α : Type}

/-- A fault is to be presented as a shell presents. -/
structure Carries (s : Shell) (g : Fault) : Prop where
  prog : g.option? "prog" = some s.prog
  shell : g.option? "shell" = some (.bool s.shell)
  fancy : g.option? "fancy" = some (.bool s.fancy)
  colorful : g.option? "colorful" = some (.bool s.colorful)

/-- A fault with the presentation of a shell in place of its own. -/
structure Presented (s : Shell) (f g : Fault) : Prop extends Carries s g where
  kind : g.kind = f.kind
  message : g.message = f.message
  others : ∀ key ∉ ["prog", "shell", "fancy", "colorful"], g.option? key = f.option? key

section Presentation

variable {s t : Shell} {f g h : Fault}

theorem option?_withOptions (s : Shell) (f : Fault) (key : String) :
    (f.withOptions s.presentation).option? key =
      (s.presentation.get? key).or (f.option? key) := by
  have hkeys : s.presentation.keys = ["prog", "shell", "fancy", "colorful"] := rfl
  exact Table.get?_merge f.options (hkeys ▸ by decide) key

theorem presented_withOptions (s : Shell) (f : Fault) :
    Presented s f (f.withOptions s.presentation) where
  prog := option?_withOptions s f "prog"
  shell := option?_withOptions s f "shell"
  fancy := option?_withOptions s f "fancy"
  colorful := option?_withOptions s f "colorful"
  kind := rfl
  message := rfl
  others := by
    intro key hkey
    rw [option?_withOptions, Table.get?_eq_none_of_notMem hkey, Option.none_or]

/-- Of two presentations of a fault, each is also one of the other. -/
theorem Presented.of_common (hg : Presented s f g) (hh : Presented t f h) : Presented t g h where
  toCarries := hh.toCarries
  kind := hh.kind.trans hg.kind.symm
  message := hh.message.trans hg.message.symm
  others := fun key hkey => (hh.others key hkey).trans (hg.others key hkey).symm

theorem enabled_shell (s : Shell) (f : Fault) :
    (f.withOptions s.presentation).enabled "shell" = s.shell := by
  rw [Fault.enabled, (presented_withOptions s f).shell]
  rfl

theorem surface_raising (hmode : s.shell = false) (f : Fault) (w : World α) :
    s.surface f w = (.error (.failure (.fault (f.withOptions s.presentation))),
      w.log [Shell.faultEntry f]) := by
  rw [Shell.surface, Fault.surface, enabled_shell, hmode]
  rfl

theorem surface_showing (hmode : s.shell = true) (f : Fault) (w : World α) :
    s.surface f w = (.ok .none, (w.log [Shell.faultEntry f]).print
      (.fault ((f.withOptions s.presentation).render w.host))) := by
  rw [Shell.surface, Fault.surface, enabled_shell, hmode]
  rfl

theorem settle_raising (hmode : s.shell = false) (name : String) (outcome : Outcome × World α) :
    s.settle name outcome = outcome := by
  obtain ⟨result, w⟩ := outcome
  cases result with
  | ok v => rfl
  | error stop =>
    cases stop with
    | interrupt message => rfl
    | failure failure => simp [Shell.settle, hmode]

end Presentation

section Execute

variable {runner : Runner α} {s : Shell} {w next : World α} {text name : String}
  {args : List String}

theorem execute_of_text {line : Value} (htext : s.substituted line = .ok (.text text)) :
    s.execute runner line w = s.executeText runner text w := by
  rw [Shell.execute, htext]

theorem executeText_of_blank (htokens : Token.tokenize text = []) :
    s.executeText runner text w = (.ok .none, w) := by
  rw [Shell.executeText, htokens]

theorem executeText_of_bound (htokens : Token.tokenize text = name :: args) {b : Binding α}
    (hroute : w.route text name args = (.ok b, next)) :
    s.executeText runner text w = s.settle name (b.overload.run runner b.call next) := by
  rw [Shell.executeText, htokens]
  simp only [hroute]
  rfl

theorem executeText_of_fault (htokens : Token.tokenize text = name :: args) {f : Fault}
    (hroute : w.route text name args = (.error f, next)) :
    s.executeText runner text w = s.surface f next := by
  rw [Shell.executeText, htokens]
  simp only [hroute]

end Execute

section EntryPoints

variable {runner : Runner α} {s : Shell} {w : World α} {text : String}

/-- What a dispatch and a raising shell make of the same line. -/
inductive SameLine (runner : Runner α) (s : Shell) (text : String) (w : World α) :
    Outcome × World α → Outcome × World α → Prop
  | blank (tokens : Token.tokenize text = []) :
      SameLine runner s text w (.ok .none, w) (.ok .none, w)
  | ran {outcome : Outcome × World α} (winner : Ran runner w text outcome) :
      SameLine runner s text w outcome outcome
  | refused {f g : Fault} {entries : Journal}
      (refusal : Refused w.registry (Token.tokenize text)) (stage : IsRefusal f)
      (presented : Presented s f g) :
      SameLine runner s text w (.error (.failure (.fault f)), w.log entries)
        (.error (.failure (.fault g)), (w.log entries).log [Shell.faultEntry f])

/-- Faults of one kind and message; anything else that stops is one and the same. -/
def SameClass : Stop → Stop → Prop
  | .failure (.fault f), .failure (.fault g) => g.kind = f.kind ∧ g.message = f.message
  | stop, other => other = stop

/-- Running a line by a dispatch of the registry and through a shell without substitution. -/
structure EntriesAgree (runner : Runner α) (s : Shell) (text : String) (w : World α) : Prop where
  staged : ∀ name args, Token.tokenize text = name :: args → w.dispatch runner (.text text) =
    match w.registry.lookup name with
    | .error e => (.error (.failure (.fault (e.toFault w.host))), w)
    | .ok c => w.dispatchCommand runner c (Line.ofTokens (.text text) (name :: args))
  blank : Token.tokenize text = [] → w.dispatch runner (.text text) = (.ok .none, w) ∧
    s.execute runner (.text text) w = (.ok .none, w)
  line : SameLine runner s text w (w.dispatch runner (.text text)) (s.execute runner (.text text) w)
  value : ∀ v, (w.dispatch runner (.text text)).1 = .ok v ↔
    (s.execute runner (.text text) w).1 = .ok v
  raised : ∀ stop, (w.dispatch runner (.text text)).1 = .error stop →
    ∃ other, (s.execute runner (.text text) w).1 = .error other ∧ SameClass stop other
  registry : (s.execute runner (.text text) w).2.registry =
    (w.dispatch runner (.text text)).2.registry

theorem sameClass_refl (stop : Stop) : SameClass stop stop := by
  match stop with
  | .failure (.fault f) => exact ⟨rfl, rfl⟩
  | .failure (.error cause message) => rfl
  | .interrupt message => rfl

section SameLine

variable {dispatched executed : Outcome × World α}
  (h : SameLine runner s text w dispatched executed)

include h

theorem SameLine.of_blank (htokens : Token.tokenize text = []) :
    dispatched = (.ok .none, w) ∧ executed = (.ok .none, w) := by
  have hhead : (Token.tokenize text).head? = none := by
    rw [htokens]
    rfl
  cases h with
  | blank tokens => exact ⟨rfl, rfl⟩
  | ran winner =>
    obtain ⟨name, _, _, _, hname, _⟩ := winner
    rw [hhead] at hname
    cases hname
  | refused refusal stage presented =>
    obtain ⟨name, hname, _⟩ := refusal
    rw [hhead] at hname
    cases hname

theorem SameLine.value (v : Value) : dispatched.1 = .ok v ↔ executed.1 = .ok v := by
  cases h with
  | blank tokens => exact Iff.rfl
  | ran winner => exact Iff.rfl
  | refused refusal stage presented => exact ⟨nofun, nofun⟩

theorem SameLine.raised {stop : Stop} (hstop : dispatched.1 = .error stop) :
    ∃ other, executed.1 = .error other ∧ SameClass stop other := by
  cases h with
  | blank tokens => cases hstop
  | ran winner => exact ⟨stop, hstop, sameClass_refl stop⟩
  | refused refusal stage presented =>
    obtain rfl := Except.error.inj hstop
    exact ⟨_, rfl, presented.kind, presented.message⟩

theorem SameLine.registry : executed.2.registry = dispatched.2.registry := by
  cases h with
  | blank tokens => rfl
  | ran winner => rfl
  | refused refusal stage presented => rfl

end SameLine

theorem sameLine_dispatch (hmode : s.shell = false) (hplain : s.substitute = none)
    (runner : Runner α) (text : String) (w : World α) :
    SameLine runner s text w (w.dispatch runner (.text text))
      (s.execute runner (.text text) w) := by
  have htext : s.substituted (.text text) = .ok (.text text) := by
    rw [Shell.substituted, hplain]
  rw [execute_of_text htext]
  cases htokens : Token.tokenize text with
  | nil =>
    rw [executeText_of_blank htokens, World.dispatch, World.dispatchText, htokens]
    exact SameLine.blank htokens
  | cons name args =>
    rcases route_cases w text name args with
      ⟨c, i, b, hc, hfirst, hroute⟩ | ⟨hrefused, f, entries, hstage, hroute⟩
    · rw [executeText_of_bound htokens hroute, dispatch_of_bound htokens hroute,
        settle_raising hmode]
      rw [← htokens] at hfirst ⊢
      exact SameLine.ran ⟨name, c, i, b, by rw [htokens]; rfl, hc, hfirst, rfl⟩
    · rw [executeText_of_fault htokens hroute, dispatch_of_fault htokens hroute,
        surface_raising hmode]
      rw [← htokens] at hrefused
      exact SameLine.refused hrefused hstage (presented_withOptions s f)

/-- The registry's own dispatch and a raising shell agree on every line. -/
theorem entries_agree (runner : Runner α) (prog : Value) (fancy colorful : Bool) (text : String)
    (w : World α) : EntriesAgree runner ⟨none, prog, false, fancy, colorful⟩ text w := by
  have hline : SameLine runner ⟨none, prog, false, fancy, colorful⟩ text w _ _ :=
    sameLine_dispatch rfl rfl runner text w
  constructor
  case staged => exact fun name args htokens => dispatch_eq_lookup htokens runner w
  case blank => exact hline.of_blank
  case line => exact hline
  case value => exact hline.value
  case raised => exact fun stop hstop => hline.raised hstop
  case registry => exact hline.registry

end EntryPoints

section Modes

variable {runner : Runner α} {s : Shell} {w : World α} {text : String}

def raising (s : Shell) : Shell := { s with shell := false }

def showing (s : Shell) : Shell := { s with shell := true }

/-- Whatever the substitution is given, it answers with a text. -/
def TextualSubstitute (s : Shell) : Prop :=
  ∀ f, s.substitute = some f → ∀ line, ∃ text, f line = .ok (.text text)

theorem exists_text (htextual : TextualSubstitute s) (line : String) :
    ∃ text, s.substituted (.text line) = .ok (.text text) := by
  rw [Shell.substituted]
  cases hsubstitute : s.substitute with
  | none => exact ⟨line, rfl⟩
  | some f => exact htextual f hsubstitute (.text line)

/-- The second run does what the first one does, and then shows this one fault. -/
def Shows (g : Fault) (raised shown : Outcome × World α) : Prop :=
  ∃ entries, shown = (.ok .none,
    (raised.2.log entries).print (.fault (g.render raised.2.host)))

/-- The fault under which the failure of an action is shown. -/
structure Wraps (name : String) (failure : Failure) (g : Fault) : Prop where
  kind : g.kind = .delegated
  message : g.message =
    some ("command " ++ Text.quote name ++ " failed: " ++ failure.display)
  failure : g.option? "exception" = some failure.toValue

/-- What an action gives is taken as it is by one run and, where it failed, shown by the
other. -/
structure Settled (s : Shell) (name : String) (raised shown : Outcome × World α) : Prop where
  value : ∀ v, raised.1 = .ok v → shown = raised
  fault : ∀ f, raised.1 = .error (.failure (.fault f)) →
    ∃ g, Presented (showing s) f g ∧ Shows g raised shown
  error : ∀ cause message, raised.1 = .error (.failure (.error cause message)) →
    ∃ g, Wraps name (.error cause message) g ∧ Carries (showing s) g ∧ Shows g raised shown
  interruption : ∀ message, raised.1 = .error (.interrupt message) → shown = raised
  registry : shown.2.registry = raised.2.registry

theorem wraps_delegated (s : Shell) (host : Host) (name : String) (failure : Failure) :
    Wraps name failure ((Shell.delegated host name failure).withOptions s.presentation) where
  kind := rfl
  message := rfl
  failure := by
    rw [(presented_withOptions s _).others "exception" (by decide)]
    rfl

theorem settled_of_outcome (s : Shell) (name : String) (outcome : Outcome × World α) :
    Settled s name outcome ((showing s).settle name outcome) := by
  obtain ⟨result, next⟩ := outcome
  have hmode : (showing s).shell = true := rfl
  match result with
  | .ok v => exact ⟨fun _ _ => rfl, nofun, nofun, nofun, rfl⟩
  | .error (.interrupt message) => exact ⟨nofun, nofun, nofun, fun _ _ => rfl, rfl⟩
  | .error (.failure (.fault f)) =>
    have hshown : (showing s).settle name (.error (.failure (.fault f)), next) =
        (showing s).surface f next := rfl
    rw [hshown, surface_showing hmode]
    refine ⟨nofun, ?_, nofun, nofun, rfl⟩
    rintro _ ⟨⟩
    exact ⟨_, presented_withOptions (showing s) f, _, rfl⟩
  | .error (.failure (.error cause message)) =>
    let wrapped := Shell.delegated next.host name (.error cause message)
    have hshown : (showing s).settle name (.error (.failure (.error cause message)), next) =
        (showing s).surface wrapped (next.log [Shell.failedEntry name]) := rfl
    rw [hshown, surface_showing hmode, World.log_log]
    refine ⟨nofun, nofun, ?_, nofun, rfl⟩
    rintro _ _ ⟨⟩
    exact ⟨_, wraps_delegated (showing s) _ _ _, (presented_withOptions _ _).toCarries, _, rfl⟩

/-- One line of a shell, raised by one run and shown by the other. -/
structure SameReport (runner : Runner α) (s : Shell) (text : String) (w : World α)
    (raised shown : Outcome × World α) : Prop where
  value : ∀ v, raised.1 = .ok v → shown = raised
  fault : ∀ f, raised.1 = .error (.failure (.fault f)) →
    ∃ g, Presented (showing s) f g ∧ Shows g raised shown
  error : ∀ cause message, raised.1 = .error (.failure (.error cause message)) →
    Ran runner w text raised ∧ ∃ name g, (Token.tokenize text).head? = some name ∧
      Wraps name (.error cause message) g ∧ Carries (showing s) g ∧ Shows g raised shown
  interruption : ∀ message, raised.1 = .error (.interrupt message) →
    Ran runner w text raised ∧ shown = raised
  registry : shown.2.registry = raised.2.registry
  refused : Refused w.registry (Token.tokenize text) →
    (∃ f, raised.1 = .error (.failure (.fault f)) ∧ IsRefusal f) ∧
      ∃ entries, raised.2 = w.log entries

theorem sameReport_of_blank (htokens : Token.tokenize text = []) :
    SameReport runner s text w (.ok .none, w) (.ok .none, w) where
  value := fun _ _ => rfl
  fault := nofun
  error := nofun
  interruption := nofun
  registry := rfl
  refused := by
    rintro ⟨name, hname, _⟩
    rw [htokens] at hname
    cases hname

theorem sameReport_of_ran {name : String} {outcome : Outcome × World α}
    (hname : (Token.tokenize text).head? = some name) (hran : Ran runner w text outcome) :
    SameReport runner s text w outcome ((showing s).settle name outcome) := by
  have hsettled := settled_of_outcome s name outcome
  constructor
  case value => exact hsettled.value
  case fault => exact hsettled.fault
  case error =>
    intro cause message hraised
    obtain ⟨g, hwraps, hcarries, hshows⟩ := hsettled.error cause message hraised
    exact ⟨hran, name, g, hname, hwraps, hcarries, hshows⟩
  case interruption =>
    exact fun message hraised => ⟨hran, hsettled.interruption message hraised⟩
  case registry => exact hsettled.registry
  case refused =>
    intro hrefused
    obtain ⟨_, c, i, b, htoken, hc, hfirst, _⟩ := hran
    exact absurd hfirst (not_firstOk_of_refused hrefused htoken hc)

theorem sameReport_of_fault {f : Fault} (hstage : IsRefusal f) (entries : Journal) :
    SameReport runner s text w ((raising s).surface f (w.log entries))
      ((showing s).surface f (w.log entries)) := by
  rw [surface_raising rfl, surface_showing rfl]
  have hraised := presented_withOptions (raising s) f
  constructor
  case value => exact nofun
  case fault =>
    rintro _ ⟨⟩
    refine ⟨_, hraised.of_common (presented_withOptions (showing s) f), [], ?_⟩
    rw [World.log_nil]
    rfl
  case error => exact nofun
  case interruption => exact nofun
  case registry => rfl
  case refused =>
    intro _
    refine ⟨⟨_, rfl, ?_⟩, entries ++ [Shell.faultEntry f], World.log_log w _ _⟩
    rw [IsRefusal, hraised.kind]
    exact hstage

/-- Showing a line reports what raising it reports, and leaves the same registry. -/
theorem modes_agree (runner : Runner α) (s : Shell) (htextual : TextualSubstitute s)
    (line : String) (w : World α) :
    ∃ text, s.substituted (.text line) = .ok (.text text) ∧
      SameReport runner s text w ((raising s).execute runner (.text line) w)
        ((showing s).execute runner (.text line) w) := by
  obtain ⟨text, htext⟩ := exists_text htextual line
  refine ⟨text, htext, ?_⟩
  have hraising : (raising s).substituted (.text line) = .ok (.text text) := htext
  have hshowing : (showing s).substituted (.text line) = .ok (.text text) := htext
  rw [execute_of_text hraising, execute_of_text hshowing]
  cases htokens : Token.tokenize text with
  | nil =>
    rw [executeText_of_blank htokens, executeText_of_blank htokens]
    exact sameReport_of_blank htokens
  | cons name args =>
    have hname : (Token.tokenize text).head? = some name := by rw [htokens]; rfl
    rcases route_cases w text name args with
      ⟨c, i, b, hc, hfirst, hroute⟩ | ⟨_, f, entries, hstage, hroute⟩
    · rw [executeText_of_bound htokens hroute, executeText_of_bound htokens hroute,
        settle_raising rfl]
      rw [← htokens] at hfirst ⊢
      exact sameReport_of_ran hname ⟨name, c, i, b, hname, hc, hfirst, rfl⟩
    · rw [executeText_of_fault htokens hroute, executeText_of_fault htokens hroute]
      exact sameReport_of_fault hstage entries

end Modes

section Boom

def kaboom : Failure := .ofText .runtime "kaboom"

/-- A command of which every run fails. -/
def boom : Command Unit where
  name := "boom"
  first := ⟨"Always fails.", [], [], some (), List.nodup_nil, List.nodup_nil⟩
  others := []
  aliases := []
  hidden := false
  names_valid := by decide
  names_nodup := by decide

def failing : Runner Unit := fun _ _ w => (.error (.failure kaboom), w)

def loaded : World Unit := World.initial.register "boom" boom

/-- A shell that takes every line for the failing one. -/
def stubborn : Shell := ⟨some fun _ => .ok (.text "boom"), .text "demo", true, true, false⟩

/-- A failing line is shown as one wrapped fault. -/
theorem boom_reported : TextualSubstitute stubborn ∧
    ∃ g, Wraps "boom" kaboom g ∧ Carries (showing stubborn) g ∧
      Shows g ((raising stubborn).execute failing (.text "hello") loaded)
        ((showing stubborn).execute failing (.text "hello") loaded) := by
  have htextual : TextualSubstitute stubborn := by
    rintro f ⟨⟩ line
    exact ⟨"boom", rfl⟩
  obtain ⟨text, htext, hreport⟩ := modes_agree failing stubborn htextual "hello" loaded
  obtain rfl : "boom" = text := by cases htext; rfl
  have htokens : Token.tokenize "boom" = ["boom"] := by decide +kernel
  have hraised : ((raising stubborn).execute failing (.text "hello") loaded).1 =
      .error (.failure kaboom) := rfl
  obtain ⟨_, name, g, hname, hwraps, hcarries, hshows⟩ := hreport.error _ _ hraised
  obtain rfl : "boom" = name := by
    rw [htokens] at hname
    exact Option.some.inj hname
  exact ⟨htextual, g, hwraps, hcarries, hshows⟩

end Boom

end CommandShell.ShellLines
