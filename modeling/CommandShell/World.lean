import CommandShell.Help
import CommandShell.ModuleTree
import CommandShell.Query

/-!
Everything a running shell can change: the registry, the host's settings, the
variables, the modules that were loaded, the debug records and what was shown.
Actions are run by a runner, which receives the bound parameters and flags and
may change the world; the laws of lines hold for every runner.
-/
namespace CommandShell

/-- What an action receives. -/
structure Call where
  params : Table Value
  flags : Table Value

/-- Something shown: a fault, a rendering on the screen, a printed line, a
printed record, a ruled heading or a printed value. -/
inductive Output where
  | fault (rendering : Rendering)
  | screen (rendering : Rendering)
  | printed (line : String)
  | record (entries : Table Value)
  | rule (title : String)
  | literal (text : String)

structure World (α : Type) where
  registry : Registry α
  host : Host
  environment : Table String
  modules : ModuleTree α
  loaded : Loaded α
  journal : Journal
  transcript : List Output

abbrev Outcome := Except Stop Value

abbrev Runner (α : Type) := α → Call → World α → Outcome × World α

variable {α : Type}

namespace Binding

def call (b : Binding α) : Call := ⟨b.params, b.flags.map fun e => (e.1, .bool e.2)⟩

end Binding

namespace Overload

/-- Runs the action of an overload; without one nothing happens. -/
def run (runner : Runner α) (o : Overload α) (call : Call) (w : World α) : Outcome × World α :=
  match o.action with
  | none => (.ok .none, w)
  | some action => runner action call w

end Overload

namespace World

def initial : World α := ⟨Registry.empty, Host.empty, [], [], [], [], []⟩

def log (w : World α) (entries : Journal) : World α := { w with journal := w.journal ++ entries }

/-- Shows something. Printing is assumed not to fail. -/
def print (w : World α) (output : Output) : World α :=
  { w with transcript := w.transcript ++ [output] }

@[simp]
theorem log_nil (w : World α) : w.log [] = w := by
  rw [log, List.append_nil]

@[simp]
theorem log_log (w : World α) (first second : Journal) :
    (w.log first).log second = w.log (first ++ second) := by
  simp only [log, List.append_assoc]

def register (w : World α) (name : String) (c : Command α) : World α :=
  { w.log (w.registry.registerEntries name c) with registry := w.registry.register name c }

/-- Looks up token 0 and resolves the line among the command's overloads. -/
def route (w : World α) (text name : String) (arguments : List String) :
    Except Fault (Binding α) × World α :=
  match w.registry.lookup name with
  | .error e => (.error (e.toFault w.host), w)
  | .ok c =>
      let (result, entries) := c.resolve (Line.ofTokens (.text text) (name :: arguments))
      (result.mapError fun e => e.toFault w.host (.text name), w.log entries)

def execute (runner : Runner α) (b : Binding α) (w : World α) : Outcome × World α :=
  b.overload.run runner b.call w

/-- Resolves a line among the overloads of a command. -/
def resolve (c : Command α) (line : Line) (w : World α) :
    Except Failure (Binding α) × World α :=
  let (result, entries) := c.resolve line
  (result.mapError (NoMatch.toFailure w.host), w.log entries)

/-- Resolves a line among the overloads of a command and runs the winner. -/
def dispatchCommand (runner : Runner α) (c : Command α) (line : Line) (w : World α) :
    Outcome × World α :=
  match w.resolve c line with
  | (.error failure, w) => (.error (.failure failure), w)
  | (.ok b, w) => w.execute runner b

/-- Tokenizes a line, looks token 0 up, and runs the winning overload. A line
without tokens does nothing. -/
def dispatchText (runner : Runner α) (text : String) (w : World α) : Outcome × World α :=
  match Token.tokenize text with
  | [] => (.ok .none, w)
  | name :: arguments =>
      match w.route text name arguments with
      | (.error fault, w) => (.error (.failure (.fault fault)), w)
      | (.ok b, w) => w.execute runner b

def dispatch (runner : Runner α) (line : Value) (w : World α) : Outcome × World α :=
  match line with
  | .text text => w.dispatchText runner text
  | line =>
      match Token.ofValue line with
      | .error failure => (.error (.failure failure), w)
      | .ok _ => (.ok .none, w)

def includedEntry (name module : String) : Journal.Entry :=
  ⟨.registry, "command " ++ Text.quote name ++ " included from " ++ module⟩

/-- Registers commands of a module under their own names. -/
def includeCommands (module : String) (commands : List (Command α)) (w : World α) : World α :=
  commands.foldl (fun w c => (w.register c.name c).log [includedEntry c.name module]) w

/-- The commands of a loaded module by ascending attribute. -/
def moduleCommands (w : World α) (module : String) : List (Command α) :=
  ((w.loaded.attributes (Path.ofString module)).mergeSort fun e f => e.1 ≤ f.1).map (·.2)

/-- Loads modules in turn and registers the commands of each. -/
def includeModules : List String → World α → Except Stop (List (Command α)) × World α
  | [], w => (.ok [], w)
  | module :: rest, w =>
      match w.modules.load (Path.ofString module) w.loaded with
      | (.error stop, loaded) =>
          (.error (if stop.isUnimportable then
            .failure (.wrongType ("unable to import module " ++ Text.quote module)) else stop),
            { w with loaded := loaded })
      | (.ok (), loaded) =>
          let w := { w with loaded := loaded }
          let commands := w.moduleCommands module
          let (more, w) := includeModules rest (w.includeCommands module commands)
          (more.map (commands ++ ·), w)

/-- Registers the commands of every module that a dotted glob names. -/
def includeMatching (source : Value) (w : World α) : Except Stop (List (Command α)) × World α :=
  match source with
  | .text _ =>
      match w.modules.expand source w.loaded with
      | (.error stop, loaded) => (.error stop, { w with loaded := loaded })
      | (.ok names, loaded) => includeModules names { w with loaded := loaded }
  | _ => (.error (.failure (.wrongType "include() argument must be a string")), w)

end World

end CommandShell
