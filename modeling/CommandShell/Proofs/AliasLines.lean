import CommandShell.Proofs.OrderedScan

/-!
Lines that begin with different names of one command. A bare name is its own token, however
the rest of the line is written, so the arguments of both lines are the same. They are all
that the overloads see: the same overload wins with the same flags and parameters, and only
the two entries that hold the line itself tell the names apart. Or every overload rejects
both lines, each for the same reason.
-/
namespace CommandShell.AliasLines

open Text Token Draws OrderedScan

/-- Can be typed as token 0 as it stands. -/
def Bare (name : String) : Prop := name ≠ "" ∧ ∀ c ∈ name.toList, isPlain c = true

def line (name rest : String) : String := name ++ " " ++ rest

variable {α : Type}

/-- What the command of a line makes of it. A blank line and one whose token 0 names no
command have no resolution. -/
def resolution (r : Registry α) (text : String) : Option (Except (NoMatch α) (Binding α)) :=
  match tokenize text with
  | [] => none
  | name :: arguments =>
      match r.lookup name with
      | .error _ => none
      | .ok c => some (c.resolve (Line.ofTokens (.text text) (name :: arguments))).1

/-- The entries of a binding apart from those that hold the line. -/
def declared (b : Binding α) : Table Value :=
  (b.params.erase Binding.rawKey).erase Binding.tokensKey

structure SameBinding (b d : Binding α) : Prop where
  overload : b.overload = d.overload
  flags : b.flags = d.flags
  params : declared b = declared d

/-- The overload at an index accepts the arguments and all before it reject them. -/
structure Chosen (c : Command α) (arguments : List String) (i : Nat) (o : Overload α) : Prop where
  overload : c.overloads[i]? = some o
  accepts : ∃ b, o.bind (Classified.ofTokens arguments) = .ok b
  first : ∀ j < i, ∀ p, c.overloads[j]? = some p →
    ∃ m, p.bind (Classified.ofTokens arguments) = .error m

/-- Two lines with the same arguments for a command are resolved alike. -/
inductive SameAnswer (c : Command α) (arguments : List String) :
    Except (NoMatch α) (Binding α) → Except (NoMatch α) (Binding α) → Prop
  | bound {i : Nat} {b d : Binding α} (chosen : Chosen c arguments i b.overload)
      (same : SameBinding b d) : SameAnswer c arguments (.ok b) (.ok d)
  | rejected {e f : NoMatch α}
      (all : c.overloads.map (fun o => o.bind (Classified.ofTokens arguments)) =
        e.mismatches.map .error)
      (same : e.mismatches = f.mismatches) : SameAnswer c arguments (.error e) (.error f)

theorem tokenize_line {name : String} (h : Bare name) (rest : String) :
    tokenize (line name rest) = name :: tokenize rest := by
  obtain ⟨hne, hplain⟩ := h
  have hline : (line name rest).toList = name.toList ++ ' ' :: rest.toList := by
    simp [line]
  have hpending : name.toList.reverse ≠ [] :=
    mt List.reverse_eq_nil_iff.mp (mt String.toList_eq_nil_iff.mp hne)
  rw [tokenize, hline, scan_plain_append _ hplain, List.append_nil, scan_blank _ _ rfl,
    flush_of_ne_nil hpending, List.reverse_reverse, List.singleton_append, List.map_cons,
    String.ofList_toList, tokenize]

theorem resolution_line {r : Registry α} {name : String} {c : Command α} (h : Bare name)
    (hlookup : r.lookup name = .ok c) (rest : String) :
    resolution r (line name rest) =
      some (c.resolve (Line.ofTokens (.text (line name rest)) (name :: tokenize rest))).1 := by
  rw [resolution, tokenize_line h]
  simp only [hlookup]

/-- The entries of the line are all that it adds to a binding. -/
theorem declared_completed (text : Value) (tokens : List String) (b : Binding α) :
    declared (completed text tokens b) = declared b := by
  have hkeys : Binding.tokensKey ≠ Binding.rawKey := by decide
  simp [declared, completed, Table.erase, List.filter_append, hkeys]

theorem chosen_of_firstOk {c : Command α} {arguments : List String} {i : Nat} {b : Binding α}
    (h : FirstOk (c.overloads.map fun o => o.bind (Classified.ofTokens arguments)) i b) :
    Chosen c arguments i b.overload := by
  obtain ⟨hoverload, hbind⟩ := h.overload_bind
  refine ⟨hoverload, ⟨b, hbind⟩, ?_⟩
  intro j hj p hp
  obtain ⟨m, hm⟩ := h.2 j hj
  rw [List.getElem?_map, hp, Option.map_some, Option.some.injEq] at hm
  exact ⟨m, hm⟩

/-- Neither the text of a line nor its token 0 reaches an overload. -/
theorem sameAnswer_resolve (c : Command α) (text other : Value) (head name : String)
    (arguments : List String) :
    SameAnswer c arguments (c.resolve (Line.ofTokens text (head :: arguments))).1
      (c.resolve (Line.ofTokens other (name :: arguments))).1 := by
  rcases tryFrom_eq c.name (Classified.ofTokens arguments) 0 c.overloads with
    ⟨i, b, hfirst, hscan⟩ | ⟨ms, hall, hscan⟩
  · obtain ⟨_, hbind⟩ := hfirst.overload_bind
    have hresolve (t : Value) (n : String) :
        (c.resolve (Line.ofTokens t (n :: arguments))).1 =
          .ok (completed t (n :: arguments) b) := by
      rw [← withLine_eq hbind, Command.resolve, (line_ofTokens t (n :: arguments)).2.1,
        List.tail_cons, hscan]
    have hchosen : Chosen c arguments i b.overload := chosen_of_firstOk hfirst
    rw [hresolve, hresolve]
    refine .bound hchosen ⟨rfl, rfl, ?_⟩
    rw [declared_completed, declared_completed]
  · have hresolve (t : Value) (n : String) :
        (c.resolve (Line.ofTokens t (n :: arguments))).1 =
          .error ⟨c, Line.ofTokens t (n :: arguments), ms⟩ := by
      rw [Command.resolve, (line_ofTokens t (n :: arguments)).2.1, List.tail_cons, hscan]
    rw [hresolve, hresolve]
    exact .rejected hall rfl

/-- Two bare names of a command can stand for each other in front of any rest of a line. -/
theorem resolution_alias (r : Registry α) {name other : String} {c : Command α}
    (hname : Bare name) (hother : Bare other) (hfound : r.lookup name = .ok c)
    (hsame : r.lookup other = .ok c) (rest : String) :
    ∃ answer answer', resolution r (line name rest) = some answer ∧
      resolution r (line other rest) = some answer' ∧
      SameAnswer c (tokenize rest) answer answer' :=
  ⟨_, _, resolution_line hname hfound rest, resolution_line hother hsame rest,
    sameAnswer_resolve c _ _ name other (tokenize rest)⟩

/-- Greets whom it is told, under two names. -/
def greet : Command Unit where
  name := "greet"
  first := {
    help := "Greets."
    params := [plain "whom" false false (by decide +kernel)]
    flags := []
    action := none
    params_nodup := List.nodup_singleton _
    flags_nodup := List.nodup_nil }
  others := []
  aliases := ["hi"]
  hidden := false
  names_valid := by decide +kernel
  names_nodup := by decide

def greeter : Registry Unit := Registry.empty.register "greet" greet

/-- The rest of the lines has an open quote and ends in a backslash. -/
theorem resolution_greet_hi :
    Bare "greet" ∧ Bare "hi" ∧ greeter.lookup "greet" = .ok greet ∧
      greeter.lookup "hi" = .ok greet ∧ ∃ answer answer',
        resolution greeter "greet \"a b\\" = some answer ∧
        resolution greeter "hi \"a b\\" = some answer' ∧
        SameAnswer greet ["a b"] answer answer' := by
  have hgreet : Bare "greet" := ⟨by decide, List.all_eq_true.mp (by decide +kernel)⟩
  have hhi : Bare "hi" := ⟨by decide, List.all_eq_true.mp (by decide +kernel)⟩
  exact ⟨hgreet, hhi, rfl, rfl, resolution_alias greeter hgreet hhi rfl rfl "\"a b\\"⟩

end CommandShell.AliasLines
