import CommandShell.Proofs.Buckets
import CommandShell.Proofs.Spelling
import CommandShell.World

/-!
Resolution as a scan. The overloads are matched one by one against the same line;
the first that binds ends the scan and is run, and when none does, the rejections
are what is reported. The records of a scan are those of the overloads that it
reached. A winner's entries are kept: the two keys that the line is stored under
are no names of parameters.
-/
namespace CommandShell.OrderedScan

open Draws Buckets Spelling

variable {α : Type}

/-- The overloads of a command, each matched on its own. -/
def results (command : Command α) (tokens : List String) :
    List (Except Mismatch (Binding α)) :=
  command.overloads.map fun o => o.bind (Classified.ofTokens tokens.tail)

/-- The record of the attempt at an index, where the count is one ahead. -/
def record (name : String) (index : Nat) : Except Mismatch (Binding α) → Journal.Entry
  | .ok _ => Command.acceptedEntry name (index + 1)
  | .error m => Command.rejectedEntry name (index + 1) m

/-- The binding stands at this index and everything before it is a rejection. -/
def FirstOk (rs : List (Except Mismatch (Binding α))) (i : Nat) (b : Binding α) : Prop :=
  rs[i]? = some (.ok b) ∧ ∀ j < i, ∃ m, rs[j]? = some (.error m)

/-- A binding with its line, which follows the parameters. -/
def completed (text : Value) (tokens : List String) (b : Binding α) : Binding α :=
  { b with
    params := b.params ++
      [(Binding.rawKey, text), (Binding.tokensKey, .tuple (tokens.map .text))]
    text := text
    tokens := tokens.map .text }

/-- A binding comes from the overload that stands at its index, and holds it. -/
theorem FirstOk.overload_bind {os : List (Overload α)} {c : Classified} {i : Nat} {b : Binding α}
    (h : FirstOk (os.map fun o => o.bind c) i b) :
    os[i]? = some b.overload ∧ b.overload.bind c = .ok b := by
  have hget := h.1
  rw [List.getElem?_map, Option.map_eq_some_iff] at hget
  obtain ⟨o, ho, hbind⟩ := hget
  have hoverload : b.overload = o := by
    obtain ⟨t, _, _, rfl⟩ := bind_eq_ok_iff.mp hbind
    rfl
  rw [hoverload]
  exact ⟨ho, hbind⟩

section Scan

variable (name : String) (c : Classified)

/-- A scan that begins further on counts on from there. -/
theorem tryFrom_eq (k : Nat) (os : List (Overload α)) :
    (∃ i b, FirstOk (os.map fun o => o.bind c) i b ∧
      Command.tryFrom name c (k + 1) os =
        (.ok b, ((os.map fun o => o.bind c).take (i + 1)).mapIdx fun j => record name (k + j))) ∨
    ∃ ms, (os.map fun o => o.bind c) = ms.map .error ∧
      Command.tryFrom name c (k + 1) os =
        (.error ms, (os.map fun o => o.bind c).mapIdx fun j => record name (k + j)) := by
  induction os generalizing k with
  | nil => exact Or.inr ⟨[], rfl, rfl⟩
  | cons o rest ih =>
    have hshift : (fun j => record (α := α) name (k + (j + 1))) =
        fun j => record name (k + 1 + j) := by
      funext j
      rw [show k + (j + 1) = k + 1 + j by omega]
    cases hbind : o.bind c with
    | ok b =>
      refine Or.inl ⟨0, b, ⟨by simp [hbind], fun j hj => absurd hj (Nat.not_lt_zero j)⟩, ?_⟩
      simp [Command.tryFrom, hbind, record]
    | error m =>
      rcases ih (k + 1) with ⟨i, b, ⟨hget, hbefore⟩, hscan⟩ | ⟨ms, hall, hscan⟩
      · refine Or.inl ⟨i + 1, b, ⟨by simpa using hget, ?_⟩, ?_⟩
        · intro j hj
          cases j with
          | zero => exact ⟨m, by simp [hbind]⟩
          | succ j =>
            obtain ⟨m', hm'⟩ := hbefore j (by omega)
            exact ⟨m', by simpa using hm'⟩
        · simp only [Command.tryFrom, hbind, hscan, List.map_cons, List.take_succ_cons,
            List.mapIdx_cons, hshift]
          rfl
      · refine Or.inr ⟨m :: ms, by rw [List.map_cons, hall, hbind, List.map_cons], ?_⟩
        simp only [Command.tryFrom, hbind, hscan, List.map_cons, List.mapIdx_cons, hshift]
        rfl

end Scan

theorem line_ofTokens (text : Value) (tokens : List String) :
    (Line.ofTokens text tokens).text = text ∧
      (Line.ofTokens text tokens).arguments = tokens.tail ∧
      (Line.ofTokens text tokens).tokens = tokens.map .text := by
  cases tokens with
  | nil => exact ⟨rfl, rfl, rfl⟩
  | cons token rest => exact ⟨rfl, rfl, rfl⟩

section Keys

/-- Neither a parameter nor a flag can be named like the keys of the line. -/
theorem name_ne_lineKeys (d : Descriptor) :
    d.name ≠ Binding.rawKey ∧ d.name ≠ Binding.tokensKey :=
  ⟨Descriptor.name_ne_of_not_isName (by decide) d,
    Descriptor.name_ne_of_not_isName (by decide) d⟩

variable {o : Overload α} {c : Classified} {b : Binding α}

theorem exists_param_of_key (h : o.bind c = .ok b) {key : String} (hkey : key ∈ b.params.keys) :
    ∃ p ∈ o.params, p.name = key := by
  obtain ⟨t, ht, _, rfl⟩ := bind_eq_ok_iff.mp h
  obtain ⟨e, he, hname⟩ := exists_draw_of_key ht hkey
  exact ⟨e.1, (order_perm c o.params).mem_iff.mp (mem_of_mem_draws c he), hname⟩

theorem withLine_eq (h : o.bind c = .ok b) (text : Value) (tokens : List String) :
    b.withLine (Line.ofTokens text tokens) = completed text tokens b := by
  have hraw : Binding.rawKey ∉ b.params.keys := by
    intro hkey
    obtain ⟨p, _, hname⟩ := exists_param_of_key h hkey
    exact (name_ne_lineKeys p.toDescriptor).1 hname
  have htokens : Binding.tokensKey ∉ Table.keys (b.params ++ [(Binding.rawKey, text)]) := by
    intro hkey
    rw [Table.keys, List.map_append] at hkey
    rcases List.mem_append.mp hkey with hparam | hline
    · obtain ⟨p, _, hname⟩ := exists_param_of_key h hparam
      exact (name_ne_lineKeys p.toDescriptor).2 hname
    · have hne : Binding.tokensKey ≠ Binding.rawKey := by decide
      exact hne (List.mem_singleton.mp hline)
  obtain ⟨htext, _, hall⟩ := line_ofTokens text tokens
  rw [Binding.withLine, completed, htext, hall, Table.set_of_notMem hraw,
    Table.set_of_notMem htokens, List.append_assoc]
  rfl

/-- The keys of the line hide no parameter. -/
theorem get?_completed (b : Binding α) (text : Value) (tokens : List String) (p : Param) :
    (completed text tokens b).params.get? p.name = b.params.get? p.name := by
  obtain ⟨hraw, htokens⟩ := name_ne_lineKeys p.toDescriptor
  have hnone : Table.get? [(Binding.rawKey, text), (Binding.tokensKey, .tuple (tokens.map .text))]
      p.name = none := by
    rw [Table.get?_cons, if_neg hraw, Table.get?_cons, if_neg htokens]
    rfl
  rw [Table.get?] at hnone
  rw [completed, Table.get?, List.lookup_append, hnone, Option.or_none]
  rfl

/-- A declared flag is set when it is written somewhere on the line. -/
theorem flags_of_bind {tokens : List String} (h : o.bind (Classified.ofTokens tokens) = .ok b) :
    b.flags = o.flags.map fun f => (f.name, decide ("-" ++ f.name ∈ tokens)) := by
  obtain ⟨t, _, _, rfl⟩ := bind_eq_ok_iff.mp h
  apply List.map_congr_left
  intro f _
  rw [Prod.mk.injEq, Bool.eq_iff_iff, List.contains_iff_mem, decide_eq_true_iff]
  exact ⟨rfl, mem_flags_ofTokens_iff f.name_valid⟩

end Keys

/-- The first overload that binds gets the line, and no later one is tried. Its action is run
with what was bound, and what that gives or raises is the outcome. -/
structure Wins (command : Command α) (text : Value) (tokens : List String) (w : World α)
    (i : Nat) (b : Binding α) : Prop where
  first : FirstOk (results command tokens) i b
  overload : command.overloads[i]? = some b.overload
  flags : b.flags = b.overload.flags.map fun f => (f.name, decide ("-" ++ f.name ∈ tokens.tail))
  kept : ∀ p ∈ b.overload.params,
    (completed text tokens b).params.get? p.name = b.params.get? p.name
  resolved : w.resolve command (Line.ofTokens text tokens) =
    (.ok (completed text tokens b),
      w.log (((results command tokens).take (i + 1)).mapIdx (record command.name)))
  ran : ∀ runner action, b.overload.action = some action →
    w.dispatchCommand runner command (Line.ofTokens text tokens) =
      runner action (completed text tokens b).call
        (w.log (((results command tokens).take (i + 1)).mapIdx (record command.name)))
  idle : ∀ runner, b.overload.action = none →
    w.dispatchCommand runner command (Line.ofTokens text tokens) =
      (.ok .none, w.log (((results command tokens).take (i + 1)).mapIdx (record command.name)))

/-- All overloads reject, which is reported and runs nothing. -/
structure Fails (command : Command α) (text : Value) (tokens : List String) (w : World α)
    (ms : List Mismatch) : Prop where
  rejected : results command tokens = ms.map .error
  reported : command.resolve (Line.ofTokens text tokens) =
    (.error ⟨command, Line.ofTokens text tokens, ms⟩,
      (results command tokens).mapIdx (record command.name))
  failed : ∃ f : Fault, f.kind = .noMatchingOverload ∧
    f.option? "mismatches" = some (.tuple (ms.map Mismatch.toValue)) ∧
    w.resolve command (Line.ofTokens text tokens) =
      (.error (.fault f), w.log ((results command tokens).mapIdx (record command.name))) ∧
    ∀ runner, w.dispatchCommand runner command (Line.ofTokens text tokens) =
      (.error (.failure (.fault f)),
        w.log ((results command tokens).mapIdx (record command.name)))

section Resolve

variable (command : Command α) (text : Value) (tokens : List String) (w : World α)

theorem wins_of_firstOk {i : Nat} {b : Binding α} (hfirst : FirstOk (results command tokens) i b)
    (hscan : Command.tryFrom command.name (Classified.ofTokens tokens.tail) 1 command.overloads =
      (.ok b, ((results command tokens).take (i + 1)).mapIdx (record command.name))) :
    Wins command text tokens w i b := by
  obtain ⟨htext, harguments, _⟩ := line_ofTokens text tokens
  obtain ⟨hoverload, hbind⟩ := hfirst.overload_bind
  have hresolved : w.resolve command (Line.ofTokens text tokens) =
      (.ok (completed text tokens b),
        w.log (((results command tokens).take (i + 1)).mapIdx (record command.name))) := by
    rw [World.resolve, Command.resolve, harguments, hscan]
    simp only [withLine_eq hbind]
    rfl
  constructor
  case first => exact hfirst
  case overload => exact hoverload
  case flags => exact flags_of_bind hbind
  case kept => exact fun p _ => get?_completed b text tokens p
  case resolved => exact hresolved
  case ran =>
    intro runner action haction
    have hrun : (completed text tokens b).overload.action = some action := haction
    rw [World.dispatchCommand, hresolved]
    simp only [World.execute, Overload.run, hrun]
  case idle =>
    intro runner haction
    have hrun : (completed text tokens b).overload.action = none := haction
    rw [World.dispatchCommand, hresolved]
    simp only [World.execute, Overload.run, hrun]

theorem fails_of_rejected {ms : List Mismatch} (hall : results command tokens = ms.map .error)
    (hscan : Command.tryFrom command.name (Classified.ofTokens tokens.tail) 1 command.overloads =
      (.error ms, (results command tokens).mapIdx (record command.name))) :
    Fails command text tokens w ms := by
  obtain ⟨_, harguments, _⟩ := line_ofTokens text tokens
  have hreported : command.resolve (Line.ofTokens text tokens) =
      (.error ⟨command, Line.ofTokens text tokens, ms⟩,
        (results command tokens).mapIdx (record command.name)) := by
    rw [Command.resolve, harguments, hscan]
  -- token 0 is a text, so it always has a form for the message
  obtain ⟨name, hname⟩ : ∃ name, ((Line.ofTokens text tokens).head.getD
      (.text command.name)).single = .ok name := by
    cases tokens with
    | nil => exact ⟨_, rfl⟩
    | cons token rest => exact ⟨_, rfl⟩
  let e : NoMatch α := ⟨command, Line.ofTokens text tokens, ms⟩
  have hfailure : e.toFailure w.host = .fault (e.toFault w.host name) := by
    rw [NoMatch.toFailure, hname]
  have hresolved : w.resolve command (Line.ofTokens text tokens) =
      (.error (.fault (e.toFault w.host name)),
        w.log ((results command tokens).mapIdx (record command.name))) := by
    rw [World.resolve, hreported, ← hfailure]
    rfl
  constructor
  case rejected => exact hall
  case reported => exact hreported
  case failed =>
    refine ⟨e.toFault w.host name, rfl, rfl, hresolved, ?_⟩
    intro runner
    rw [World.dispatchCommand, hresolved]

/-- Every line is won by the first overload that binds, or fails because none does. -/
theorem ordered_scan :
    (∃ i b, Wins command text tokens w i b) ∨ ∃ ms, Fails command text tokens w ms := by
  rcases tryFrom_eq command.name (Classified.ofTokens tokens.tail) 0 command.overloads with
    ⟨i, b, hfirst, hscan⟩ | ⟨ms, hall, hscan⟩
  · simp only [Nat.zero_add] at hscan
    exact Or.inl ⟨i, b, wins_of_firstOk command text tokens w hfirst hscan⟩
  · simp only [Nat.zero_add] at hscan
    exact Or.inr ⟨ms, fails_of_rejected command text tokens w hall hscan⟩

end Resolve

end CommandShell.OrderedScan
