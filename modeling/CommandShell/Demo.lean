import CommandShell.Builtin
import CommandShell.Shell
import CommandShell.Substitution

/-!
A demonstration: the commands a shell starts with and a help command, run on a
few lines in which `$HOME` is replaced. Every line is announced by a ruled
heading.
-/
namespace CommandShell.Demo

/-- The actions of the demonstration are the built-in ones. -/
def runner : Runner Builtin := Builtin.run

def lines : List String := [
  "say \"hello   world\" from $HOME",
  "set greeting hi there",
  "env -l",
  "unset 9lives",
  "test --p first a b c",
  "help",
  "help test",
  "nope"]

def shell : Shell :=
  ⟨some (Substitution.apply (.replace [("$HOME", "/home/overture")])), .text "overture", true,
    false, true⟩

def registerHelp (w : World Builtin) : World Builtin :=
  match Builtin.helpCommand id (.text "help") true with
  | .ok c => w.register c.name c
  | .error _ => w

def showCommand (name : String) (w : World Builtin) : World Builtin :=
  match w.registry.find? name with
  | some c => w.print (.literal c.literal)
  | none => w

def runLine (w : World Builtin) (line : String) : World Builtin :=
  (shell.execute runner (.text line) (w.print (.rule line))).2

def run : World Builtin :=
  lines.foldl runLine (showCommand "test" (registerHelp (Builtin.install id World.initial)))

end CommandShell.Demo
