import CommandShell.Builtin
import CommandShell.Proofs.HelpLines
import CommandShell.TextRecord

/-!
The syntax line of an overload, read back. Names hold no spaces, brackets and dots, so behind
the name of the command the line falls apart at its spaces into one placeholder for each
parameter, and a placeholder tells what its parameter is called, whether it is optional and
whether it is variadic. The line tells no more than that.
-/
namespace CommandShell.SyntaxLines

open StyledTexts HelpLines Help Toolkit

/-- What a syntax line tells of a parameter. -/
structure Signature where
  name : String
  optional : Bool
  variadic : Bool

def signature (p : Param) : Signature := ⟨p.name, p.optional, p.variadic⟩

/-- Reads a placeholder back: its bracket, and the label up to the first dot in it. -/
def readPlaceholder (text : List Char) : Signature where
  name := String.ofList (text.tail.dropLast.takeWhile (· ≠ '.'))
  optional := text.head? = some '['
  variadic := '.' ∈ text.tail.dropLast

/-- The placeholders in a row, a space before each. -/
def spaced (placeholders : List (List Char)) : List Char := [' '].intercalate ([] :: placeholders)

/-- Reads back what stands behind the name of a command. -/
def readSpaced (text : List Char) : List Signature := ((text.splitOn ' ').tail).map readPlaceholder

def dots (p : Param) : List Char := if p.variadic then ['.', '.', '.'] else []

section Placeholder

variable (p : Param)

theorem toList_placeholder : (placeholder p).toList =
    (if p.optional then '[' else '<') ::
      (p.name.toList ++ dots p ++ [if p.optional then ']' else '>']) := by
  unfold placeholder dots
  cases p.optional <;> cases p.variadic <;> simp

theorem notMem_space_placeholder : ' ' ∉ (placeholder p).toList := by
  have hname : ' ' ∉ p.name.toList := Descriptor.notMem_of_isName p.name_valid (by decide)
  rw [toList_placeholder, dots]
  cases p.optional <;> cases p.variadic <;> simp [hname]

theorem isShown_placeholder : (placeholder p).toList.all isShown = true := by
  rw [toList_placeholder, List.all_cons, List.all_append, List.all_append,
    isShown_of_isName p.name_valid, dots]
  cases p.optional <;> cases p.variadic <;> decide

theorem readPlaceholder_placeholder : readPlaceholder (placeholder p).toList = signature p := by
  have hname : '.' ∉ p.name.toList := Descriptor.notMem_of_isName p.name_valid (by decide)
  have hlabel : (placeholder p).toList.tail.dropLast = p.name.toList ++ dots p := by
    rw [toList_placeholder, List.tail_cons, List.dropLast_concat]
  have hread : (p.name.toList ++ dots p).takeWhile (· ≠ '.') = p.name.toList := by
    have hkept : ∀ c ∈ p.name.toList, decide (c ≠ '.') = true := by
      intro c hc
      exact decide_eq_true (ne_of_mem_of_not_mem hc hname)
    rw [List.takeWhile_append_of_pos hkept, dots]
    cases p.variadic <;> simp
  have hoptional : (placeholder p).toList.head? = some '[' ↔ p.optional = true := by
    rw [toList_placeholder]
    cases p.optional <;> simp
  have hvariadic : '.' ∈ p.name.toList ++ dots p ↔ p.variadic = true := by
    rw [List.mem_append, or_iff_right hname, dots]
    cases p.variadic <;> simp
  simp only [readPlaceholder, signature, hlabel, hread, hoptional, hvariadic, String.ofList_toList,
    Bool.decide_eq_true]

end Placeholder

section Line

variable {α β : Type}

theorem readSpaced_spaced (ps : List Param) :
    readSpaced (spaced (ps.map fun p => (placeholder p).toList)) = ps.map signature := by
  have hfree : ∀ l ∈ [] :: ps.map fun p => (placeholder p).toList, ' ' ∉ l := by
    rw [List.forall_mem_cons, List.forall_mem_map]
    exact ⟨List.not_mem_nil, fun p _ => notMem_space_placeholder p⟩
  rw [readSpaced, spaced, List.splitOn_intercalate ' ' hfree (List.cons_ne_nil _ _), List.tail_cons,
    List.map_map]
  exact List.map_congr_left fun p _ => readPlaceholder_placeholder p

theorem intercalate_eq_append_spaced (first : List Char) (rest : List (List Char)) :
    [' '].intercalate (first :: rest) = first ++ spaced rest := by
  cases rest with
  | nil => simp [spaced, List.intercalate_singleton]
  | cons next rest => simp [spaced, List.intercalate_cons_cons]

/-- A syntax line is the name it is for, whatever that holds, and then the placeholders. -/
theorem toList_reading_usage (R : Toolkit) [R.LawfulPlain] (paint : Paint) (name : String)
    (o : Overload α) : (reading R (usage paint name o)).toList = (shown name).toList ++
      spaced (o.params.map fun p => (placeholder p).toList) := by
  have hspace : " ".toList = [' '] := rfl
  rw [reading_usage, String.toList_intercalate, hspace, List.map_cons,
    intercalate_eq_append_spaced, List.map_map]
  congr 2
  apply List.map_congr_left
  intro p _
  exact congrArg String.toList (shown_eq_self (isShown_placeholder p))

theorem placeholder_congr {p q : Param} (h : signature p = signature q) :
    placeholder p = placeholder q := by
  obtain ⟨hname, hoptional, hvariadic⟩ := Signature.mk.inj h
  rw [placeholder, placeholder, hname, hoptional, hvariadic]

/-- Two syntax lines for one name read the same exactly when their parameters, from the first
to the last, have the same names and are optional and variadic alike. -/
theorem plain_usage_eq_iff (R : Toolkit) [R.LawfulPlain] (paint paint' : Paint) (name : String)
    (o : Overload α) (o' : Overload β) :
    R.plain ((usage paint name o).build R) = R.plain ((usage paint' name o').build R) ↔
      o.params.map signature = o'.params.map signature := by
  rw [← reading, ← reading, ← String.toList_inj, toList_reading_usage, toList_reading_usage,
    List.append_cancel_left_eq]
  constructor
  · intro h
    rw [← readSpaced_spaced, ← readSpaced_spaced, h]
  · intro h
    rw [← List.forall₂_eq_eq_eq, List.forall₂_map_left_iff, List.forall₂_map_right_iff] at h
    congr 1
    rw [← List.forall₂_eq_eq_eq, List.forall₂_map_left_iff, List.forall₂_map_right_iff]
    exact h.imp fun p q hsignature => congrArg String.toList (placeholder_congr hsignature)

end Line

/-- The lines of two commands that take a variable tell them apart. -/
theorem usage_set_ne_usage_unset :
    TextRecord.toolkit.plain ((usage (paint Host.empty true) "set"
        (Builtin.setCommand id).first).build TextRecord.toolkit) = "set <variable> <value...>" ∧
      TextRecord.toolkit.plain ((usage (paint Host.empty true) "set"
          (Builtin.setCommand id).first).build TextRecord.toolkit) ≠
        TextRecord.toolkit.plain ((usage (paint Host.empty false) "set"
          (Builtin.unsetCommand id).first).build TextRecord.toolkit) := by
  refine ⟨by decide +kernel, ?_⟩
  rw [Ne, plain_usage_eq_iff TextRecord.toolkit]
  intro h
  have hlength := congrArg List.length h
  simp [Builtin.setCommand, Builtin.unsetCommand] at hlength

end CommandShell.SyntaxLines
