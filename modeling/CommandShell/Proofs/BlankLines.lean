import CommandShell.Proofs.ShellLines

/-!
Lines without tokens. They are a run of blanks, then at most one quote, then at most one
backslash: pending text is never lost, so anything more makes a token. Such a line asks the
registry for nothing, shows nothing and changes nothing, whether it is dispatched or run by a
shell, and every other line begins by looking up its token 0.
-/
namespace CommandShell.BlankLines

open Text Token Routing ShellLines

/-- What may stand behind the blanks of a blank line: a quote that opens on nothing, and a
backslash that has nothing to take. -/
def remainders : List (List Char) := [[], ['"'], ['\\'], ['"', '\\']]

def IsBlankLine (line : List Char) : Prop :=
  ∃ gap rest, (∀ c ∈ gap, isBlank c = true) ∧ rest ∈ remainders ∧ line = gap ++ rest

theorem isBlankLine_iff (line : List Char) : IsBlankLine line ↔ trimLeft line ∈ remainders := by
  constructor
  · rintro ⟨gap, rest, hgap, hrest, rfl⟩
    have hkept : ∀ r ∈ remainders, trimLeft r = r := by decide
    have htrim : trimLeft (gap ++ rest) = trimLeft rest := List.dropWhile_append_of_pos hgap
    rw [htrim, hkept rest hrest]
    exact hrest
  · intro h
    have hgap : ∀ c ∈ line.takeWhile isBlank, isBlank c = true :=
      fun c hc => List.all_eq_true.mp List.all_takeWhile c hc
    exact ⟨_, _, hgap, h, List.takeWhile_append_dropWhile.symm⟩

instance (line : List Char) : Decidable (IsBlankLine line) :=
  decidable_of_iff _ (isBlankLine_iff line).symm

example : IsBlankLine [' ', '\t', '"', '\\'] ∧ ¬ IsBlankLine ['"', '"'] ∧
    ¬ IsBlankLine ['\\', '"'] ∧ ¬ IsBlankLine ['"', ' '] := by decide

section Scan

variable {pending : List Char}

/-- Pending text ends up in a token, whatever follows. -/
theorem scan_ne_nil_of_pending (quoted escaped : Bool) (h : pending ≠ []) (line : List Char) :
    scan quoted escaped pending line ≠ [] := by
  fun_induction scan quoted escaped pending line with
  | case1 => simp [flush_of_ne_nil h]
  | case2 quoted pending c rest ih => exact ih (List.cons_ne_nil _ _)
  | case3 => exact List.cons_ne_nil _ _
  | case4 quoted escaped pending rest _ _ ih => exact ih h
  | case5 quoted escaped pending rest _ _ ih => exact ih h
  | case6 => simp [flush_of_ne_nil h]
  | case7 quoted escaped pending c rest _ _ _ _ ih => exact ih (List.cons_ne_nil _ _)

theorem scan_literal_ne_nil (quoted : Bool) (c : Char) (rest : List Char) :
    scan quoted false [] ('\\' :: c :: rest) ≠ [] := by
  rw [scan_literal]
  exact scan_ne_nil_of_pending quoted false (List.cons_ne_nil _ _) rest

theorem scan_taken_ne_nil {quoted : Bool} {c : Char} (hquote : c ≠ '"') (hslash : c ≠ '\\')
    (hkept : quoted = true ∨ isBlank c = false) (rest : List Char) :
    scan quoted false [] (c :: rest) ≠ [] := by
  rw [scan_taken _ _ hquote hslash hkept]
  exact scan_ne_nil_of_pending quoted false (List.cons_ne_nil _ _) rest

/-- Behind an open quote, where already a closing one makes a token. -/
theorem scan_opened_eq_nil_iff (line : List Char) :
    scan true false [] line = [] ↔ line = [] ∨ line = ['\\'] := by
  cases line with
  | nil => simp [scan, flush]
  | cons c rest =>
    by_cases hquote : c = '"'
    · subst hquote
      simp [scan_close]
    · by_cases hslash : c = '\\'
      · subst hslash
        cases rest with
        | nil => simp [scan_dangling, flush]
        | cons d rest => simp [scan_literal_ne_nil]
      · simp [scan_taken_ne_nil hquote hslash (Or.inl rfl), hslash]

theorem scan_eq_nil_iff (line : List Char) :
    scan false false [] line = [] ↔ trimLeft line ∈ remainders := by
  induction line with
  | nil => decide
  | cons c rest ih =>
    by_cases hblank : isBlank c = true
    · have htrim : trimLeft (c :: rest) = trimLeft rest := List.dropWhile_cons_of_pos hblank
      rw [scan_blank _ _ hblank, htrim, ← ih]
      rfl
    · have htrim : trimLeft (c :: rest) = c :: rest := List.dropWhile_cons_of_neg hblank
      rw [htrim]
      by_cases hquote : c = '"'
      · subst hquote
        rw [scan_open, scan_opened_eq_nil_iff]
        simp [remainders]
      · by_cases hslash : c = '\\'
        · subst hslash
          cases rest with
          | nil => simp [scan_dangling, flush, remainders]
          | cons d rest => simp [scan_literal_ne_nil, remainders]
        · have hkept : isBlank c = false := by simpa using hblank
          simp [scan_taken_ne_nil hquote hslash (Or.inr hkept), remainders, hquote, hslash]

end Scan

theorem tokenize_eq_nil_iff (text : String) : tokenize text = [] ↔ IsBlankLine text.toList := by
  rw [tokenize, List.map_eq_nil_iff, scan_eq_nil_iff, isBlankLine_iff]

section Running

variable {α : Type} {runner : Runner α} {s : Shell} {text name : String} {args : List String}

/-- Running a line looks a name up before anything else. A miss is raised, or surfaced by the
shell; a command that is found resolves the line. -/
structure LooksUp (runner : Runner α) (s : Shell) (text name : String) (args : List String)
    (w : World α) : Prop where
  dispatched : w.dispatch runner (.text text) =
    match w.registry.lookup name with
    | .error e => (.error (.failure (.fault (e.toFault w.host))), w)
    | .ok c => w.dispatchCommand runner c (Line.ofTokens (.text text) (name :: args))
  executed : s.execute runner (.text text) w =
    match w.registry.lookup name with
    | .error e => s.surface (e.toFault w.host) w
    | .ok c =>
        match c.resolve (Line.ofTokens (.text text) (name :: args)) with
        | (.error e, entries) => s.surface (e.toFault w.host (.text name)) (w.log entries)
        | (.ok b, entries) => s.settle name ((w.log entries).execute runner b)

/-- What the text of a line alone tells of running it. -/
structure ToldByText (runner : Runner α) (s : Shell) (text : String) : Prop where
  tokens : tokenize text = [] ↔ IsBlankLine text.toList
  dispatched : IsBlankLine text.toList ↔
    ∀ w : World α, w.dispatch runner (.text text) = (.ok .none, w)
  executed : IsBlankLine text.toList ↔
    ∀ w : World α, s.execute runner (.text text) w = (.ok .none, w)
  lookup : ¬ IsBlankLine text.toList → ∃ name args, tokenize text = name :: args ∧
    ∀ w : World α, LooksUp runner s text name args w

theorem dispatch_of_blank (htokens : tokenize text = []) (w : World α) :
    w.dispatch runner (.text text) = (.ok .none, w) := by
  rw [World.dispatch, World.dispatchText, htokens]

theorem looksUp_of_tokens (hplain : s.substitute = none) (htokens : tokenize text = name :: args)
    (w : World α) : LooksUp runner s text name args w := by
  have htext : s.substituted (.text text) = .ok (.text text) := by
    rw [Shell.substituted, hplain]
  constructor
  · exact dispatch_eq_lookup htokens runner w
  · rw [execute_of_text htext, Shell.executeText, htokens]
    simp only [World.route]
    cases w.registry.lookup name with
    | error e => rfl
    | ok c =>
      dsimp only
      generalize c.resolve (Line.ofTokens (.text text) (name :: args)) = resolved
      obtain ⟨result, entries⟩ := resolved
      cases result with
      | error e => rfl
      | ok b => rfl

/-- A fault is raised or shown, so surfacing one never goes unnoticed. -/
theorem surface_ne_idle (s : Shell) (f : Fault) (w : World α) :
    s.surface f w ≠ (.ok .none, w) := by
  cases hmode : s.shell with
  | false =>
    rw [surface_raising hmode]
    simp
  | true =>
    rw [surface_showing hmode]
    intro h
    have htranscript := congrArg (fun outcome => outcome.2.transcript) h
    simp [World.print, World.log] at htranscript

/-- A name that is looked up where no command is registered is missed. -/
theorem lookup_initial (name : String) :
    ∃ e, (World.initial : World α).registry.lookup name = .error e :=
  ⟨_, rfl⟩

/-- Whether a line does nothing is told by its text: it is so in every world if the line is
blank, and otherwise token 0 is looked up, which fails in some. -/
theorem told_by_text (runner : Runner α) (prog : Value) (shell fancy colorful : Bool)
    (text : String) : ToldByText runner ⟨none, prog, shell, fancy, colorful⟩ text := by
  have hblank := tokenize_eq_nil_iff text
  have hlookup : ¬ IsBlankLine text.toList → ∃ name args, tokenize text = name :: args ∧
      ∀ w : World α, LooksUp runner ⟨none, prog, shell, fancy, colorful⟩ text name args w := by
    intro h
    obtain ⟨name, args, htokens⟩ := List.exists_cons_of_ne_nil (mt hblank.mp h)
    exact ⟨name, args, htokens, looksUp_of_tokens rfl htokens⟩
  constructor
  case tokens => exact hblank
  case dispatched =>
    refine ⟨fun h => dispatch_of_blank (hblank.mpr h), fun hidle => ?_⟩
    by_contra h
    obtain ⟨name, args, _, hlooks⟩ := hlookup h
    obtain ⟨e, hmiss⟩ := lookup_initial (α := α) name
    have hfault := (hlooks World.initial).dispatched
    rw [hidle, hmiss] at hfault
    cases hfault
  case executed =>
    refine ⟨fun h w => ?_, fun hidle => ?_⟩
    · rw [execute_of_text rfl, executeText_of_blank (hblank.mpr h)]
    · by_contra h
      obtain ⟨name, args, _, hlooks⟩ := hlookup h
      obtain ⟨e, hmiss⟩ := lookup_initial (α := α) name
      have hfault := (hlooks World.initial).executed
      rw [hidle, hmiss] at hfault
      exact surface_ne_idle _ _ _ hfault.symm
  case lookup => exact hlookup

end Running

end CommandShell.BlankLines
