import CommandShell.Command
import CommandShell.Glob

/-!
Trees of modules that declare commands. A module is a package or a plain
module; a folder that no module describes is a bare package, which can be
loaded but is not listed by its parent. Loading a dotted name loads the
packages above it first and runs the body of each module once. A body binds
commands to attributes and loads other modules, which see what is bound so
far; it cannot unload a module, and it touches no registry. A module that
fails is loaded no longer, while the modules that its body loaded stay; it
runs again the next time. What is in a folder is found through the packages
above the folder, which may have failed when it was loaded already. Walking
lists the modules below a package and loads the packages among them to look
inside; one that cannot be imported is listed and skipped.
-/
namespace CommandShell

/-- What running a module does. A name can be bound to a value that is no command. How a body
goes on behind the load of another module depends on how that ended, and on its commands. -/
inductive ModuleBody (α : Type) where
  | done
  | fail (stop : Stop)
  | bind (name : String) (value : Option (Command α)) (rest : ModuleBody α)
  | load (path : Path) (next : Except Stop (Table (Command α)) → ModuleBody α)

/-- A module: its dotted name, and what running it does. -/
structure Module (α : Type) where
  path : Path
  package : Bool
  body : ModuleBody α

abbrev ModuleTree (α : Type) := List (Module α)

/-- The modules that have been run or are running, with their commands by attribute. -/
abbrev Loaded (α : Type) := List (Path × Table (Command α))

/-- A way to load a module. -/
abbrev Loader (α : Type) := Path → Loaded α → Except Stop Unit × Loaded α

/-- What stands at a dotted name. -/
inductive Site (α : Type) where
  | package (m : Module α)
  | plain (m : Module α)
  | folder

variable {α : Type}

/-- A module that does not exist or does not load for want of another. -/
def Stop.isUnimportable : Stop → Bool
  | .failure (.error .unimportable _) => true
  | _ => false

def Stop.unimportable : Stop := .failure (.ofText .unimportable "")

/-- A package has failed, and a folder inside it is asked for its modules. -/
def Stop.gone (package : Path) : Stop := .failure (.ofText .missingKey package.dotted)

namespace Loaded

def attributes (l : Loaded α) (path : Path) : Table (Command α) := (l.lookup path).getD []

def update (l : Loaded α) (path : Path) (change : Table (Command α) → Table (Command α)) :
    Loaded α :=
  l.map fun e => if e.1 = path then (e.1, change e.2) else e

def bind (l : Loaded α) (path : Path) (name : String) : Option (Command α) → Loaded α
  | none => l.update path fun t => t.erase name
  | some c => l.update path fun t => t.set name c

/-- Hides the attribute of a package that a submodule of the same name replaces. -/
def hide (l : Loaded α) (package : Path) (name : String) : Loaded α :=
  l.update package fun t => t.erase name

def drop (l : Loaded α) (path : Path) : Loaded α := l.filter fun e => e.1 ≠ path

end Loaded

namespace ModuleBody

/-- Runs the body of a module that is being loaded. -/
def run (loader : Loader α) (path : Path) : ModuleBody α → Loaded α → Except Stop Unit × Loaded α
  | done, l => (.ok (), l)
  | fail stop, l => (.error stop, l)
  | bind name value rest, l => rest.run loader path (l.bind path name value)
  | load other next, l =>
      let (result, l) := loader other l
      (next (result.map fun _ => l.attributes other)).run loader path l

/-- A body that binds commands to attributes. -/
def ofCommands (commands : Table (Command α)) : ModuleBody α :=
  commands.foldr (fun e rest => .bind e.1 (some e.2) rest) .done

end ModuleBody

namespace ModuleTree

/-- Adds a module in place of an earlier one that it overwrites. -/
def add (tree : ModuleTree α) (m : Module α) : ModuleTree α :=
  tree.filter (fun n => !(n.path = m.path && n.package == m.package)) ++ [m]

def ofModules (modules : List (Module α)) : ModuleTree α := modules.foldl add []

/-- A package hides a plain module of its name, and a plain module a folder. -/
def site? (tree : ModuleTree α) (path : Path) : Option (Site α) :=
  match tree.find? fun m => m.path = path && m.package with
  | some m => some (.package m)
  | none =>
      match tree.find? fun m => m.path = path with
      | some m => some (.plain m)
      | none =>
          if tree.any fun m => path.isPrefixOf m.path && path.length < m.path.length then
            some .folder
          else none

def holdsModules (tree : ModuleTree α) (path : Path) : Bool :=
  match tree.site? path with
  | some (.package _) | some .folder => true
  | _ => false

/-- The nearest package above a folder that is not loaded, as long as folders stand in folders;
the segments are given from the last to the first. -/
def goneAbove (tree : ModuleTree α) (l : Loaded α) : List String → Option Path
  | [] | [_] => none
  | name :: above =>
      match tree.site? (above.reverse ++ [name]) with
      | some .folder =>
          if (l.lookup above.reverse).isSome then tree.goneAbove l above else some above.reverse
      | _ => none

/-- Loads the module `name` of a package that is loaded; the empty path is the package of the
top modules. A module is loaded before its body runs, and hides an attribute of its package
when the body is through. -/
def loadOne (tree : ModuleTree α) (loader : Loader α) (package : Path) (name : String)
    (l : Loaded α) : Except Stop Unit × Loaded α :=
  let path := package ++ [name]
  if (l.lookup path).isSome then (.ok (), l)
  else if !package.isEmpty && !tree.holdsModules package then (.error .unimportable, l)
  else match tree.goneAbove l package.reverse with
    | some gone => (.error (.gone gone), l)
    | none =>
        match tree.site? path with
        | none => (.error .unimportable, l)
        | some .folder => (.ok (), Loaded.hide ((path, []) :: l) package name)
        | some (.package m) | some (.plain m) =>
            match m.body.run loader path ((path, []) :: l) with
            | (.error stop, l) => (.error stop, l.drop path)
            | (.ok (), l) => (.ok (), l.hide package name)

/-- Loads the packages of a dotted name that are not loaded, and then the name itself; its
segments are given from the last to the first. -/
def loadUp (tree : ModuleTree α) (loader : Loader α) : List String → Loaded α →
    Except Stop Unit × Loaded α
  | [], l => (.ok (), l)
  | name :: above, l =>
      if (l.lookup (above.reverse ++ [name])).isSome then (.ok (), l)
      else match tree.loadUp loader above l with
        | (.error stop, l) => (.error stop, l)
        | (.ok (), l) => tree.loadOne loader above.reverse name l

/-- Loads a dotted name, with bodies that run inside each other down to `depth` levels. -/
def loadWithin (tree : ModuleTree α) : (depth : Nat) → Loader α
  | 0, _, l => (.error .unimportable, l)
  | depth + 1, path, l => tree.loadUp (tree.loadWithin depth) path.reverse l

/-- Loads a dotted name. A module whose body runs is loaded, so no body runs inside itself. -/
def load (tree : ModuleTree α) : Loader α := tree.loadWithin (tree.length + 1)

/-- Loads a dotted name and then the first package of it, which may have failed before. -/
def enter (tree : ModuleTree α) (path : Path) (l : Loaded α) : Except Stop Unit × Loaded α :=
  match tree.load path l with
  | (.error stop, l) => (.error stop, l)
  | (.ok (), l) => tree.load (path.take 1) l

/-- The modules directly inside a package, as packages or as plain modules. -/
def children (tree : ModuleTree α) (path : Path) (packages : Bool) : List Path :=
  let names := tree.filterMap fun m =>
    if m.package == packages && m.path.dropLast = path && !m.path.isEmpty then m.path.getLast?
    else none
  (names.eraseDups.mergeSort (· ≤ ·)).map fun name => path ++ [name]

/-- Lists packages, each followed by what `visit` finds inside it. -/
def walkEach (tree : ModuleTree α)
    (visit : Path → Loaded α → Except Stop (List Path) × Loaded α) :
    List Path → Loaded α → Except Stop (List Path) × Loaded α
  | [], l => (.ok [], l)
  | path :: rest, l =>
      match tree.enter path l with
      | (.error stop, l) =>
          if stop.isUnimportable then
            let (more, l) := tree.walkEach visit rest l
            (more.map (path :: ·), l)
          else (.error stop, l)
      | (.ok (), l) =>
          match visit path l with
          | (.error stop, l) => (.error stop, l)
          | (.ok inside, l) =>
              let (more, l) := tree.walkEach visit rest l
              (more.map fun more => path :: inside ++ more, l)

/-- Lists the modules below a package down to `depth` levels. -/
def walk (tree : ModuleTree α) : (depth : Nat) → Path → Loaded α →
    Except Stop (List Path) × Loaded α
  | 0, _, l => (.ok [], l)
  | depth + 1, path, l =>
      let (found, l) := tree.walkEach (tree.walk depth) (tree.children path true) l
      (found.map (· ++ tree.children path false), l)

/-- No module lies deeper than this. -/
def depth (tree : ModuleTree α) : Nat := (tree.map fun m => m.path.length).foldl max 0

/-- The modules below a package; a plain module has none. -/
def descendants (tree : ModuleTree α) (path : Path) (l : Loaded α) :
    Except Stop (List Path) × Loaded α :=
  if tree.holdsModules path then tree.walk tree.depth path l else (.ok [], l)

/-- A dotted glob names modules: itself when it is concrete, otherwise the
modules at and below its root that match, in ascending order. A root that
cannot be imported matches nothing. -/
def expandText (tree : ModuleTree α) (source : String) (l : Loaded α) :
    Except Stop (List String) × Loaded α :=
  let root := Glob.root source
  if Glob.isConcrete source then (.ok [source], l)
  else if root = "" then
    (.error (.failure (.ofText .badValue
      "mglob() pattern must start with a concrete package segment")), l)
  else match tree.load (Path.ofString root) l with
    | (.error stop, l) => (if stop.isUnimportable then .ok [] else .error stop, l)
    | (.ok (), l) =>
        match tree.goneAbove l (Path.ofString root).reverse with
        | some gone => (.error (.gone gone), l)
        | none =>
            let (found, l) := tree.descendants (Path.ofString root) l
            (found.map fun found => ((root :: found.map Path.dotted).filter (Glob.accepts source))
              |>.eraseDups.mergeSort (· ≤ ·), l)

def expand (tree : ModuleTree α) (source : Value) (l : Loaded α) :
    Except Stop (List String) × Loaded α :=
  match source with
  | .text s =>
      if Text.trim s = "" then
        (.error (.failure (.ofText .badValue "mglob() argument must be a non-empty string")), l)
      else tree.expandText (Text.trim s) l
  | _ => (.error (.failure (.wrongType "mglob() argument must be a string")), l)

end ModuleTree

end CommandShell
