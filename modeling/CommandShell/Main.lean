import CommandShell.Demo
import CommandShell.TextRecord

/-!
Runs the demonstration and prints what it shows, without styles.
-/
namespace CommandShell

def Output.plainLines : Output → List String
  | .fault rendering | .screen rendering =>
      (TextRecord.Screen.texts (rendering.build TextRecord.toolkit)).map (·.plain)
  | .printed line => [line]
  | .record entries => [(Value.record entries).literal]
  | .rule title => ["--- " ++ title]
  | .literal text => [text]

end CommandShell

def main : IO Unit := do
  for output in CommandShell.Demo.run.transcript do
    for line in output.plainLines do
      IO.println line
