/-!
Debug records of what the library did: which part wrote them, and what they say.
-/
namespace CommandShell

inductive Journal.Source where
  | resolver
  | registry
  | shell
  deriving DecidableEq

structure Journal.Entry where
  source : Journal.Source
  message : String

abbrev Journal := List Journal.Entry

namespace Journal

def Source.label : Source → String
  | .resolver => "overture.resolver"
  | .registry => "overture.registry"
  | .shell => "overture.shell"

/-- Every record has the same level. -/
def level : String := "DEBUG"

end Journal

end CommandShell
