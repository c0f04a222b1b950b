import CommandShell.Fault.Basic
import CommandShell.Text.Blank
import CommandShell.Text.Word

/-!
What parameters and flags share: a name and a short description. A name
begins with a letter and holds only word characters and hyphens, so it can be
written after a marker as it stands and never looks like the keys of the raw
line. Names and plain descriptions are trimmed first.
-/
namespace CommandShell

open Text

inductive DescriptorKind where
  | param
  | flag
  deriving DecidableEq

inductive Description where
  | plain (text : String)
  | styled (text : TextView)

namespace Descriptor

def isName : List Char → Bool
  | [] => false
  | c :: rest => isInitial c && rest.all fun d => isWord d || d = '-'

end Descriptor

structure Descriptor where
  name : String
  description : Option Description
  name_valid : Descriptor.isName name.toList = true

inductive Descriptor.Error where
  | nameNotText
  | nameEmpty
  | nameMalformed
  | descriptionNotText
  | descriptionEmpty

def DescriptorKind.label : DescriptorKind → String
  | .param => "param"
  | .flag => "flag"

namespace Description

def toValue : Description → Value
  | .plain text => .text text
  | .styled text => .styled text

end Description

namespace Descriptor

def Error.cause : Error → Cause
  | .nameNotText | .descriptionNotText => .wrongType
  | .nameEmpty | .nameMalformed | .descriptionEmpty => .badValue

def Error.detail : Error → String
  | .nameNotText => "'name' must be a string"
  | .nameEmpty => "'name' cannot be empty"
  | .nameMalformed => "'name' must start with a letter and hold only letters, digits, '_' or '-'"
  | .descriptionNotText => "'descr' must be a string"
  | .descriptionEmpty => "'descr' cannot be empty"

def Error.message (kind : DescriptorKind) (e : Error) : String := kind.label ++ " " ++ e.detail

def checkDescription : Value → Except Error (Option Description)
  | .text s => if trim s = "" then .error .descriptionEmpty else .ok (some (.plain (trim s)))
  | .styled t => .ok (some (.styled t))
  | .unset => .ok none
  | _ => .error .descriptionNotText

def make (name description : Value) : Except Error Descriptor :=
  match name with
  | .text s =>
      if trim s = "" then .error .nameEmpty
      else if h : isName (trim s).toList = true then
        (checkDescription description).map fun d => ⟨trim s, d, h⟩
      else .error .nameMalformed
  | _ => .error .nameNotText

def descriptionValue (d : Descriptor) : Value :=
  match d.description with
  | some text => text.toValue
  | none => .none

theorem isWord_or_hyphen_of_isName {name : List Char} {c : Char} (h : isName name = true)
    (hc : c ∈ name) : (isWord c || c == '-') = true := by
  cases name with
  | nil => cases hc
  | cons first rest =>
    rw [isName, Bool.and_eq_true, List.all_eq_true] at h
    rcases List.mem_cons.mp hc with rfl | hrest
    · rw [isWord_of_isInitial h.1, Bool.true_or]
    · simpa using h.2 c hrest

theorem notMem_of_isName {name : List Char} {c : Char} (h : isName name = true)
    (hc : (isWord c || c == '-') = false) : c ∉ name := by
  intro hmem
  rw [isWord_or_hyphen_of_isName h hmem] at hc
  cases hc

theorem name_ne_of_not_isName {key : String} (h : isName key.toList = false) (d : Descriptor) :
    d.name ≠ key := by
  rintro rfl
  rw [d.name_valid] at h
  cases h

end Descriptor

end CommandShell
