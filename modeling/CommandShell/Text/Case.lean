import CommandShell.Text.CaseTable

/-!
Changing the case of a text with the full mappings, so that one character may
become several. Lowering a capital sigma looks around it: at the end of a
word it becomes the final form. A character is cased when it is upper, lower
or title case; titling capitalizes the first cased character after an uncased
one and lowers the others.
-/
namespace CommandShell.Text

def isUpper (c : Char) : Bool := upperCaseRuns.any (·.covers c.toNat)

def isLower (c : Char) : Bool := lowerCaseRuns.any (·.covers c.toNat)

def isTitle (c : Char) : Bool := inRanges titleCaseRanges c.toNat

def isCased (c : Char) : Bool := isUpper c || isLower c || isTitle c

def isCaseIgnorable (c : Char) : Bool := inRanges caseIgnorableRanges c.toNat

/-- The image of a character under a table of expansions and runs; a character
in neither stays as it is. -/
def mapCase (expansions : List (Nat × List Nat)) (runs : List Run) (c : Char) : List Char :=
  match expansions.lookup c.toNat with
  | some codes => codes.map Char.ofNat
  | none =>
      match runs.find? (·.covers c.toNat) with
      | some run => [Char.ofNat (c.toNat + run.offset).toNat]
      | none => [c]

/-- A character is expanded, shifted by a run that covers it, or kept. -/
theorem mapCase_cases (expansions : List (Nat × List Nat)) (runs : List Run) (c : Char) :
    (∃ codes, (c.toNat, codes) ∈ expansions ∧
      mapCase expansions runs c = codes.map Char.ofNat) ∨
    (∃ run ∈ runs, run.covers c.toNat = true ∧
      mapCase expansions runs c = [Char.ofNat (c.toNat + run.offset).toNat]) ∨
    ((∀ run ∈ runs, run.covers c.toNat = false) ∧ mapCase expansions runs c = [c]) := by
  rw [mapCase]
  cases hcodes : expansions.lookup c.toNat with
  | some codes =>
    obtain ⟨before, after, rfl, -⟩ := List.lookup_eq_some_iff.mp hcodes
    exact Or.inl ⟨codes, List.mem_append_right _ List.mem_cons_self, rfl⟩
  | none =>
    cases hrun : runs.find? (·.covers c.toNat) with
    | some run =>
      refine Or.inr (Or.inl ⟨run, List.mem_of_find?_eq_some hrun, ?_, rfl⟩)
      simpa using List.find?_some hrun
    | none =>
      refine Or.inr (Or.inr ⟨fun run hmem => ?_, rfl⟩)
      simpa using List.find?_eq_none.mp hrun run hmem

def upperChar (c : Char) : List Char := mapCase toUpperExpansions toUpperRuns c

def lowerChar (c : Char) : List Char := mapCase toLowerExpansions toLowerRuns c

def titleChar (c : Char) : List Char :=
  match toTitleExceptions.lookup c.toNat with
  | some codes => codes.map Char.ofNat
  | none => upperChar c

/-- The first character that case detection does not skip is cased. -/
def startsCased (text : List Char) : Bool :=
  match text.dropWhile isCaseIgnorable with
  | [] => false
  | c :: _ => isCased c

/-- Lowers `c` between the characters before it, nearest first, and those after it. -/
def lowerBetween (before : List Char) (c : Char) (after : List Char) : List Char :=
  if c = 'Σ' then [if startsCased before && !startsCased after then 'ς' else 'σ'] else lowerChar c

def lowerFrom (before : List Char) : List Char → List Char
  | [] => []
  | c :: after => lowerBetween before c after ++ lowerFrom (c :: before) after

def lower (text : List Char) : List Char := lowerFrom [] text

def upper (text : List Char) : List Char := text.flatMap upperChar

theorem upper_append (front rest : List Char) : upper (front ++ rest) = upper front ++ upper rest :=
  List.flatMap_append

def titleFrom (before : List Char) (inWord : Bool) : List Char → List Char
  | [] => []
  | c :: after =>
      (if inWord then lowerBetween before c after else titleChar c) ++
        titleFrom (c :: before) (isCased c) after

def title (text : List Char) : List Char := titleFrom [] false text

/-- Some character is upper case and none is lower or title case. -/
def isUpperText (text : List Char) : Bool :=
  text.any isUpper && text.all fun c => !isLower c && !isTitle c

end CommandShell.Text
