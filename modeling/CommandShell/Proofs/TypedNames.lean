import CommandShell.Proofs.Routing
import CommandShell.Proofs.WrittenTokens

/-!
Names of commands as they are typed. The scan only leaves characters out of a line, so a text
is its own only token exactly when it is a plain word. The names of a command hold no blank,
but they may hold quotes and backslashes: one that does cannot be typed as it stands. With a
backslash before each of these every name can be typed, and it reaches its command.
-/
namespace CommandShell.TypedNames

open Text Token Routing WrittenTokens

section Scan

theorem flatten_flush (pending : List Char) : (flush pending).flatten = pending.reverse := by
  cases pending with
  | nil => rfl
  | cons c rest => simp [flush]

/-- Tokenizing invents nothing: the tokens in a row are the line with characters left out. -/
theorem flatten_scan_sublist (quoted escaped : Bool) (pending line : List Char) :
    (scan quoted escaped pending line).flatten.Sublist (pending.reverse ++ line) := by
  fun_induction scan quoted escaped pending line with
  | case1 => rw [flatten_flush, List.append_nil]
  | case2 quoted pending c rest ih => rwa [List.reverse_cons, List.append_assoc] at ih
  | case3 escaped pending rest _ ih =>
    rw [List.flatten_cons]
    exact (ih.trans (List.sublist_cons_self _ _)).append_left _
  | case4 quoted escaped pending rest _ _ ih =>
    exact ih.trans ((List.sublist_cons_self _ _).append_left _)
  | case5 quoted escaped pending rest _ _ ih =>
    exact ih.trans ((List.sublist_cons_self _ _).append_left _)
  | case6 quoted escaped pending c rest _ _ _ _ ih =>
    rw [List.flatten_append, flatten_flush]
    exact (ih.trans (List.sublist_cons_self _ _)).append_left _
  | case7 quoted escaped pending c rest _ _ _ _ ih =>
    rwa [List.reverse_cons, List.append_assoc] at ih

/-- A character that is not plain is no part of any token, unless it stands in quotes or
behind a backslash. -/
theorem flatten_scan_special {c : Char} (hc : isPlain c = false) (pending rest : List Char) :
    (scan false false pending (c :: rest)).flatten.Sublist (pending.reverse ++ rest) := by
  by_cases hquote : c = '"'
  · subst hquote
    rw [scan_open]
    exact flatten_scan_sublist true false pending rest
  · by_cases hslash : c = '\\'
    · subst hslash
      have hscan : scan false false pending ('\\' :: rest) = scan false true pending rest := by
        simp [scan]
      rw [hscan]
      exact flatten_scan_sublist false true pending rest
    · have hblank : isBlank c = true := by simpa [isPlain, hquote, hslash] using hc
      rw [scan_blank _ _ hblank, List.flatten_append, flatten_flush]
      exact (flatten_scan_sublist false false [] rest).append_left _

theorem length_flatten_scan_lt {line : List Char} (h : ∃ c ∈ line, isPlain c = false)
    (pending : List Char) :
    (scan false false pending line).flatten.length < pending.length + line.length := by
  induction line generalizing pending with
  | nil =>
    obtain ⟨c, hc, _⟩ := h
    cases hc
  | cons c rest ih =>
    rw [List.length_cons]
    cases hc : isPlain c with
    | true =>
      have hrest : ∃ d ∈ rest, isPlain d = false := by
        obtain ⟨d, hd, hplain⟩ := h
        rcases List.mem_cons.mp hd with rfl | hd
        · rw [hc] at hplain
          cases hplain
        · exact ⟨d, hd, hplain⟩
      have hlength := ih hrest (c :: pending)
      rw [List.length_cons] at hlength
      rw [scan_plain_cons hc]
      omega
    | false =>
      have hlength := (flatten_scan_special hc pending rest).length_le
      rw [List.length_append, List.length_reverse] at hlength
      omega

/-- A text is its own only token exactly when it is a plain word. -/
theorem tokenize_eq_self_iff (text : String) :
    tokenize text = [text] ↔ text ≠ "" ∧ ∀ c ∈ text.toList, isPlain c = true := by
  constructor
  · intro h
    constructor
    · rintro rfl
      cases h
    · by_contra hspecial
      have hsome : ∃ c ∈ text.toList, isPlain c = false := by simpa using hspecial
      have hlength := length_flatten_scan_lt hsome []
      have hscan : scan false false [] text.toList = [text.toList] := by
        have hlists := congrArg (List.map String.toList) h
        rw [tokenize, List.map_map] at hlists
        simpa using hlists
      rw [hscan] at hlength
      simp at hlength
  · rintro ⟨hne, hplain⟩
    exact tokenize_plain hne hplain

end Scan

section Names

variable {name : String}

theorem isPlain_eq (c : Char) : isPlain c = (!isDelimiter c && !isBlank c) := by
  simp [isPlain, isDelimiter]

/-- A name is typed as it stands if there is nothing to escape in it. -/
theorem tokenize_name_iff (h : Command.isName name = true) :
    tokenize name = [name] ↔ ∀ c ∈ name.toList, isDelimiter c = false := by
  obtain ⟨hne, hblank⟩ := Command.isName_iff.mp h
  rw [tokenize_eq_self_iff, and_iff_right hne]
  refine forall₂_congr fun c hc => ?_
  rw [isPlain_eq, hblank c hc]
  simp

/-- A name with a backslash before each quote and backslash. -/
def typed (name : String) : String := String.ofList (escape isDelimiter name.toList)

theorem tokenize_typed (h : Command.isName name = true) : tokenize (typed name) = [name] := by
  obtain ⟨hne, hblank⟩ := Command.isName_iff.mp h
  have hescape : escape isDelimiter name.toList = escape (fun c => !isPlain c) name.toList := by
    refine List.flatMap_congr fun c hc => ?_
    simp [isPlain_eq, hblank c hc]
  have hchars : name.toList ≠ [] := mt String.toList_eq_nil_iff.mp hne
  have hscan : scan false false [] (escape (fun c => !isPlain c) name.toList ++ []) =
      name.toList :: scan false false [] [] := scan_bare hchars (fun c hc => by cases hc)
  rw [List.append_nil, ← hescape] at hscan
  rw [tokenize, typed, String.toList_ofList, hscan]
  simp [scan, flush]

end Names

section Reach

variable {α : Type} {w : World α} {c : Command α}

/-- A line is one token, which names a command, and dispatching the line is dispatching it to
that command. -/
structure Reaches (w : World α) (line name : String) (c : Command α) : Prop where
  tokens : tokenize line = [name]
  found : w.registry.lookup name = .ok c
  dispatched : ∀ runner : Runner α, w.dispatch runner (.text line) =
    w.dispatchCommand runner c (Line.ofTokens (.text line) [name])

theorem reaches_of_found {line name : String} (htokens : tokenize line = [name])
    (hfound : w.registry.lookup name = .ok c) : Reaches w line name c where
  tokens := htokens
  found := hfound
  dispatched := by
    intro runner
    rw [dispatch_eq_lookup htokens runner w, hfound]

/-- A command that is registered alone, under its own name, has this name and its aliases. -/
theorem lookup_alone {name : String} (h : name ∈ c.name :: c.aliases) :
    (Registry.empty.register c.name c).lookup name = .ok c := by
  rw [Registry.lookup_eq_ok_iff, Registry.find?, Registry.get?_commands_register,
    Registry.get?_aliases_register]
  rcases List.mem_cons.mp h with rfl | halias
  · simp
  · by_cases hname : name = c.name
    · simp [hname]
    · simp [hname, halias, Registry.empty, Table.get?]

/-- Where only one command is registered, under its own name, each of its names reaches it when
it is typed with backslashes. Typed as it stands a name is one token exactly if it holds no
quote and no backslash, and then it reaches the command too. -/
theorem reaches_typed (c : Command α) (w : World α)
    (hw : w.registry = Registry.empty.register c.name c) (name : String)
    (hname : name ∈ c.name :: c.aliases) :
    (tokenize name = [name] ↔ ∀ d ∈ name.toList, isDelimiter d = false) ∧
      ((∀ d ∈ name.toList, isDelimiter d = false) → Reaches w name name c) ∧
      Reaches w (typed name) name c := by
  have hvalid := c.names_valid name hname
  have hfound : w.registry.lookup name = .ok c := by
    rw [hw]
    exact lookup_alone hname
  have hself := tokenize_name_iff hvalid
  exact ⟨hself, fun h => reaches_of_found (hself.mpr h) hfound,
    reaches_of_found (tokenize_typed hvalid) hfound⟩

end Reach

section Quoted

def silent : Overload Unit := ⟨"Does nothing.", [], [], none, List.nodup_nil, List.nodup_nil⟩

/-- A command with a plain name and an alias that holds a quote. -/
def greeting : Command Unit where
  name := "greet"
  first := silent
  others := []
  aliases := ["g'\"day"]
  hidden := false
  names_valid := by decide
  names_nodup := by decide

theorem reaches_greeting :
    (World.initial.register "greet" greeting).registry =
        Registry.empty.register greeting.name greeting ∧
      "g'\"day" ∈ greeting.name :: greeting.aliases ∧ typed "g'\"day" = "g'\\\"day" ∧
      Reaches (World.initial.register "greet" greeting) (typed "g'\"day") "g'\"day" greeting ∧
      "greet" ∈ greeting.name :: greeting.aliases ∧
      Reaches (World.initial.register "greet" greeting) "greet" "greet" greeting := by
  have hregistry : (World.initial.register "greet" greeting).registry =
      Registry.empty.register greeting.name greeting := rfl
  have halias : "g'\"day" ∈ greeting.name :: greeting.aliases := by decide
  have hname : "greet" ∈ greeting.name :: greeting.aliases := by decide
  have hbare : ∀ d ∈ "greet".toList, isDelimiter d = false := by simp [isDelimiter]
  exact ⟨hregistry, halias, by decide, (reaches_typed greeting _ hregistry _ halias).2.2, hname,
    (reaches_typed greeting _ hregistry _ hname).2.1 hbare⟩

/-- A command whose name ends in a quote. -/
def saying : Command Unit where
  name := "say\""
  first := silent
  others := []
  aliases := []
  hidden := false
  names_valid := by decide
  names_nodup := by decide

/-- Such a name is accepted, but typed as it stands it is another token, which is unknown. -/
theorem quoted_name_unknown :
    Command.make (.text "say\"") [some silent] (.list []) (.bool false) = .ok saying ∧
      tokenize saying.name = ["say"] ∧ tokenize saying.name ≠ [saying.name] ∧
      ∃ f w, f.kind = .unknownCommand ∧ ∀ runner : Runner Unit,
        (World.initial.register saying.name saying).dispatch runner (.text saying.name) =
          (.error (.failure (.fault f)), w) := by
  have htokens : tokenize saying.name = ["say"] := by decide
  refine ⟨rfl, htokens, by rw [htokens]; decide, ?_⟩
  refine ⟨_, _, ?_, fun runner => dispatch_eq_lookup htokens runner _⟩
  rfl

end Quoted

end CommandShell.TypedNames
