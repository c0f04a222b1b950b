import CommandShell.Fault.Basic

/-!
What a shell does to a line before it is tokenized: replacing texts in turn,
giving a fixed value, or raising.
-/
namespace CommandShell

inductive Substitution where
  | replace (pairs : List (String × String))
  | const (v : Value)
  | raise (stop : Stop)

/-- Replaces every occurrence of a nonempty text, from the left and without overlap. -/
def Text.replaceFrom (old new : List Char) : List Char → List Char
  | [] => []
  | c :: rest =>
      if old.isPrefixOf (c :: rest) then new ++ replaceFrom old new (rest.drop (old.length - 1))
      else c :: replaceFrom old new rest
termination_by text => text.length
decreasing_by
  · simp only [List.length_drop, List.length_cons]
    omega
  · simp only [List.length_cons]
    omega

/-- The empty text occurs before every character and at the end. -/
def Text.replaceAll (old new text : String) : String :=
  String.ofList (if old = "" then new.toList ++ text.toList.flatMap (· :: new.toList)
    else replaceFrom old.toList new.toList text.toList)

namespace Substitution

def apply : Substitution → Value → Except Stop Value
  | .replace [], v => .ok v
  | .replace pairs, .text s =>
      .ok (.text (pairs.foldl (fun s p => Text.replaceAll p.1 p.2 s) s))
  | .replace _, v => .error (.failure (.missingField v "replace"))
  | .const v, _ => .ok v
  | .raise stop, _ => .error stop

end Substitution

end CommandShell
