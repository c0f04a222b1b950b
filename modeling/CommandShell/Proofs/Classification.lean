import CommandShell.Proofs.Spelling
import CommandShell.Table
import Mathlib.Data.List.TakeWhile

/-!
What classification keeps of a list of tokens. The positional values are the tokens that
begin with no hyphen, the flags those that begin with one, and every marker that occurs
names one group, in the order of the first occurrences, with the tokens behind its last
occurrence. A marker that is repeated hides the groups of its earlier occurrences; when
none is, the groups written one after another are the line from its first marker on.
-/
namespace CommandShell.Classification

open Spelling Classified

variable {tokens rest values : List String} {name : String}

/-- The run of tokens behind the last marker of a name, up to the next marker. -/
def IsLastGroup (tokens : List String) (name : String) (values : List String) : Prop :=
  ∃ before after, tokens = before ++ marker name :: (values ++ after) ∧ marker name ∉ after ∧
    (∀ v ∈ values, ¬ DoubleDashed v) ∧ ∀ t ∈ after.head?, DoubleDashed t

def keys (c : Classified) : List String := Table.keys c.named

/-- What stands before the first marker. -/
def preamble (tokens : List String) : List String := tokens.takeWhile fun t => ¬ DoubleDashed t

/-- The groups as they are written, each behind its marker. -/
def written (c : Classified) : List String := c.named.flatMap fun e => marker e.1 :: e.2

def markers (tokens : List String) : List String := tokens.filter fun t => DoubleDashed t

/-- Everything a classification says of the tokens that it was made from. -/
structure Exact (tokens : List String) (c : Classified) : Prop where
  positional : c.positional = tokens.filter fun t => ¬ Dashed t
  flags : ∀ name, name ∈ c.flags ↔
    ∃ t ∈ tokens, Dashed t ∧ ¬ DoubleDashed t ∧ String.ofList (t.toList.drop 1) = name
  keys_marked : ∀ name, name ∈ keys c ↔ marker name ∈ tokens
  keys_distinct : (keys c).Nodup
  keys_order : (keys c).Pairwise fun k l => tokens.idxOf (marker k) < tokens.idxOf (marker l)
  groups : ∀ name values, (name, values) ∈ c.named ↔ IsLastGroup tokens name values
  rebuilt : (markers tokens).Nodup → preamble tokens ++ written c = tokens

section Tokens

theorem exists_marker {token : String} (h : DoubleDashed token) : ∃ name, token = marker name := by
  cases hshape : Shape.of token with
  | marker name => exact ⟨name, eq_marker_of_shape hshape⟩
  | flag name => simpa [hshape, Shape.isMarker] using isMarker_iff.mpr h
  | plain => simpa [hshape, Shape.isMarker] using isMarker_iff.mpr h

theorem doubleDashed_marker (name : String) : DoubleDashed (marker name) :=
  isMarker_iff.mp (by rw [shape_marker]; rfl)

/-- A flag is a token with one hyphen in front, and its name is what follows. -/
theorem flag?_eq_some_iff {token : String} :
    (Shape.of token).flag? = some name ↔
      Dashed token ∧ ¬ DoubleDashed token ∧ String.ofList (token.toList.drop 1) = name := by
  unfold Shape.of Dashed DoubleDashed
  cases htoken : token.toList with
  | nil => simp [Shape.flag?]
  | cons a rest =>
    by_cases ha : a = '-'
    · subst ha
      cases rest with
      | nil => simp [Shape.flag?]
      | cons b rest =>
        by_cases hb : b = '-'
        · subst hb
          simp [Shape.flag?]
        · simp [Shape.flag?, hb, Ne.symm hb]
    · simp [Shape.flag?, ha, Ne.symm ha]

theorem group_eq_preamble (tokens : List String) : group tokens = preamble tokens := by
  have hopen : (fun t : String => !(Shape.of t).isMarker) = fun t => decide (¬ DoubleDashed t) := by
    funext t
    rw [Bool.eq_iff_iff]
    simp [← isMarker_iff]
  rw [group, hopen, preamble]

end Tokens

section Named

theorem named_marker (name : String) (rest : List String) :
    (ofTokens (marker name :: rest)).named = openGroup name (group rest) (ofTokens rest).named := by
  simp only [ofTokens, shape_marker]

theorem named_of_not_doubleDashed {token : String} (h : ¬ DoubleDashed token) (rest : List String) :
    (ofTokens (token :: rest)).named = (ofTokens rest).named := by
  have halone : ∀ v ∈ [token], ¬ DoubleDashed v := by simpa using h
  exact named_ofTokens_append halone

theorem mem_keys_iff : name ∈ keys (ofTokens tokens) ↔ marker name ∈ tokens := by
  rw [← not_iff_not, ← lookup_ofTokens_eq_none_iff, List.lookup_eq_none_iff, keys, Table.keys,
    List.mem_map]
  simp only [not_exists, not_and, bne_iff_ne, ne_eq]
  exact ⟨fun h e he heq => h e he heq.symm, fun h e he heq => h e he heq.symm⟩

/-- A marker in front comes first, and its own later place is given up. -/
theorem keys_marker (name : String) (rest : List String) :
    keys (ofTokens (marker name :: rest)) =
      name :: (keys (ofTokens rest)).filter fun k => k ≠ name := by
  rw [keys, Table.keys, named_marker, openGroup, List.map_cons, keys, Table.keys, List.filter_map]
  rfl

/-- A marker that does not come again has the tokens right behind it. -/
theorem named_marker_of_notMem (h : marker name ∉ rest) :
    (ofTokens (marker name :: rest)).named = (name, group rest) :: (ofTokens rest).named := by
  have hlookup := lookup_ofTokens_eq_none_iff.mpr h
  have hkept : (ofTokens rest).named.filter (·.1 ≠ name) = (ofTokens rest).named := by
    apply List.filter_eq_self.mpr
    intro e he
    have hne : e.1 ≠ name := by
      rintro rfl
      exact h (mem_keys_iff.mp (List.mem_map_of_mem he))
    exact decide_eq_true hne
  rw [named_marker, openGroup, hlookup, hkept, Option.getD_none]

/-- A token in front that is none of some markers moves the first places of all by one. -/
theorem pairwise_idxOf_cons {token : String} {ks : List String}
    (hother : ∀ k ∈ ks, token ≠ marker k)
    (h : ks.Pairwise fun k l => rest.idxOf (marker k) < rest.idxOf (marker l)) :
    ks.Pairwise fun k l =>
      (token :: rest).idxOf (marker k) < (token :: rest).idxOf (marker l) := by
  apply h.imp_of_mem
  intro k l hk hl hlt
  rw [List.idxOf_cons_ne rest (hother k hk), List.idxOf_cons_ne rest (hother l hl)]
  exact Nat.succ_lt_succ hlt

theorem keys_order_ofTokens (tokens : List String) :
    (keys (ofTokens tokens)).Pairwise
      fun k l => tokens.idxOf (marker k) < tokens.idxOf (marker l) := by
  induction tokens with
  | nil => exact List.Pairwise.nil
  | cons token rest ih =>
    by_cases hmarker : DoubleDashed token
    · obtain ⟨name, rfl⟩ := exists_marker hmarker
      have hother : ∀ k ∈ (keys (ofTokens rest)).filter fun k => k ≠ name,
          marker name ≠ marker k := by
        intro k hk heq
        have hne : k ≠ name := of_decide_eq_true (List.mem_filter.mp hk).2
        exact hne (marker_inj heq).symm
      rw [keys_marker, List.pairwise_cons]
      refine ⟨?_, pairwise_idxOf_cons hother (ih.sublist List.filter_sublist)⟩
      intro k hk
      rw [List.idxOf_cons_self, List.idxOf_cons_ne rest (hother k hk)]
      exact Nat.succ_pos _
    · rw [keys, named_of_not_doubleDashed hmarker]
      apply pairwise_idxOf_cons _ ih
      rintro k _ rfl
      exact hmarker (doubleDashed_marker k)

theorem keys_nodup_ofTokens (tokens : List String) : (keys (ofTokens tokens)).Nodup :=
  (keys_order_ofTokens tokens).imp fun hlt heq => by
    rw [heq] at hlt
    exact Nat.lt_irrefl _ hlt

theorem isLastGroup_iff :
    IsLastGroup tokens name values ↔ ∃ before rest,
      tokens = before ++ marker name :: rest ∧ marker name ∉ rest ∧ group rest = values := by
  constructor
  · rintro ⟨before, after, htokens, hlast, hvalues, hafter⟩
    refine ⟨before, values ++ after, htokens, ?_, ?_⟩
    · intro hmem
      rcases List.mem_append.mp hmem with hin | hin
      · exact hvalues _ hin (doubleDashed_marker name)
      · exact hlast hin
    · rw [group_append hvalues, group_eq_nil hafter, List.append_nil]
  · rintro ⟨before, rest, htokens, hlast, rfl⟩
    have hsplit : group rest ++ rest.dropWhile (fun t => !(Shape.of t).isMarker) = rest :=
      List.takeWhile_append_dropWhile
    refine ⟨before, rest.dropWhile fun t => !(Shape.of t).isMarker, ?_, ?_, ?_, ?_⟩
    · rw [hsplit, htokens]
    · exact fun hmem => hlast (List.dropWhile_subset _ hmem)
    · intro v hv
      have hopen := List.mem_takeWhile_imp hv
      rwa [Bool.not_eq_true', ← Bool.not_eq_true, isMarker_iff] at hopen
    · intro t ht
      have hstop := List.head?_dropWhile_not (fun t => !(Shape.of t).isMarker) rest
      rw [ht] at hstop
      exact isMarker_iff.mp (by simpa using hstop)

/-- The entries are the last groups of the names that occur. -/
theorem mem_named_iff :
    (name, values) ∈ (ofTokens tokens).named ↔ IsLastGroup tokens name values := by
  rw [isLastGroup_iff, ← lookup_ofTokens_eq_some_iff]
  constructor
  · exact Table.get?_eq_some_of_mem (keys_nodup_ofTokens tokens)
  · intro hlookup
    obtain ⟨front, behind, hsplit, _⟩ := List.lookup_eq_some_iff.mp hlookup
    rw [hsplit]
    exact List.mem_append_right _ List.mem_cons_self

end Named

/-- Without repeated markers nothing is hidden, so the groups can be written back. -/
theorem preamble_append_written (tokens : List String) (h : (markers tokens).Nodup) :
    preamble tokens ++ written (ofTokens tokens) = tokens := by
  induction tokens with
  | nil => rfl
  | cons token rest ih =>
    by_cases hmarker : DoubleDashed token
    · obtain ⟨name, rfl⟩ := exists_marker hmarker
      rw [markers, List.filter_cons_of_pos (by simpa using hmarker), List.nodup_cons] at h
      obtain ⟨hfresh, hrest⟩ := h
      have hlast : marker name ∉ rest :=
        fun hmem => hfresh (List.mem_filter.mpr ⟨hmem, by simpa using hmarker⟩)
      have hfront : preamble (marker name :: rest) = [] := by
        rw [← group_eq_preamble, group_marker_cons]
      have hwritten : written (ofTokens (marker name :: rest)) =
          marker name :: (preamble rest ++ written (ofTokens rest)) := by
        rw [written, named_marker_of_notMem hlast, List.flatMap_cons, group_eq_preamble]
        rfl
      rw [hfront, hwritten, ih hrest, List.nil_append]
    · rw [markers, List.filter_cons_of_neg (by simpa using hmarker)] at h
      have hfront : preamble (token :: rest) = token :: preamble rest :=
        List.takeWhile_cons_of_pos (decide_eq_true hmarker)
      have hwritten : written (ofTokens (token :: rest)) = written (ofTokens rest) := by
        rw [written, named_of_not_doubleDashed hmarker, written]
      rw [hfront, hwritten, List.cons_append, ih h]

theorem exact_ofTokens (tokens : List String) : Exact tokens (ofTokens tokens) := by
  constructor
  case positional =>
    rw [positional_ofTokens]
    apply List.filter_congr
    intro t _
    rw [Bool.eq_iff_iff, isPlain_iff, decide_eq_true_iff]
  case flags =>
    intro name
    rw [flags_ofTokens, List.mem_filterMap]
    simp only [flag?_eq_some_iff]
  case keys_marked => exact fun name => mem_keys_iff
  case keys_distinct => exact keys_nodup_ofTokens tokens
  case keys_order => exact keys_order_ofTokens tokens
  case groups => exact fun name values => mem_named_iff
  case rebuilt => exact preamble_append_written tokens

/-- A lone hyphen is a flag and two are a marker, both without a name. -/
example : (ofTokens ["-", "--", "-v", "---x", "a"]).named = [("", ["-v"]), ("-x", ["a"])] ∧
    (ofTokens ["-", "--", "-v", "---x", "a"]).flags = ["", "v"] := by decide

end CommandShell.Classification
