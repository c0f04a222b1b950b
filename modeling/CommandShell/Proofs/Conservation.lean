import CommandShell.Proofs.LeadingMarkers

/-!
Where the positional values of an accepted line end up when parameters keep their
raw values. The open parameters hold exactly those behind the width of the markers,
each once. The values before that belong to the markers in count only: a marker
holds what follows it, wherever it stands. The books balance when the two agree,
as they do on every line that begins with its markers.
-/
namespace CommandShell.Conservation

open Draws Buckets Spelling Classified LeadingMarkers

/-- The texts in a value that a raw value was kept as. -/
def textsOf : Value → List String
  | .text s => [s]
  | .tuple items => items.flatMap fun
      | .text s => [s]
      | _ => []
  | _ => []

/-- The scalars and the elements of the variadics of a table, in its order. -/
def collected (t : Table Value) : List String := t.flatMap fun e => textsOf e.2

def undashed (values : List String) : List String := values.filter fun v => ¬ Dashed v

/-- What was bound by a marker. -/
def byMarker (c : Classified) (t : Table Value) : Table Value :=
  t.filter fun e => (c.named.lookup e.1).isSome

/-- What was bound by position. -/
def byPosition (c : Classified) (t : Table Value) : Table Value :=
  t.filter fun e => !(c.named.lookup e.1).isSome

def textsOfRaw : Raw → List String
  | .one value => [value]
  | .many values => values

/-- The texts that a parameter drew. -/
def drawn (e : Param × Draw) : List String :=
  match e.2 with
  | .raw raw => textsOfRaw raw
  | _ => []

theorem textsOf_toValue (raw : Raw) : textsOf raw.toValue = textsOfRaw raw := by
  cases raw with
  | one value => rfl
  | many values =>
    rw [Raw.toValue, Value.texts, textsOf, textsOfRaw, List.flatMap_map]
    exact List.flatMap_singleton' values

theorem collected_append (t u : Table Value) :
    collected (t ++ u) = collected t ++ collected u := List.flatMap_append

theorem undashed_append (xs ys : List String) :
    undashed (xs ++ ys) = undashed xs ++ undashed ys := List.filter_append ..

theorem undashed_of_plain {vs : List String} (h : ∀ v ∈ vs, ¬ Dashed v) : undashed vs = vs := by
  apply List.filter_eq_self.mpr
  intro v hv
  simpa using h v hv

theorem collected_cons (e : String × Value) (t : Table Value) :
    collected (e :: t) = textsOf e.2 ++ collected t := List.flatMap_cons

/-- Identity parsers keep what was drawn. -/
theorem collected_of_settle {ds : List (Param × Draw)} {t : Table Value}
    (hidentity : ∀ e ∈ ds, ∀ raw, e.2 = .raw raw → e.1.parse raw.toValue = .ok raw.toValue)
    (h : settle ds = .ok t) : collected t = ds.flatMap drawn := by
  induction ds generalizing t with
  | nil =>
    obtain rfl : [] = t := Except.ok.inj h
    rfl
  | cons e rest ih =>
    obtain ⟨he, hrest⟩ := List.forall_mem_cons.mp hidentity
    obtain ⟨p, d⟩ := e
    rw [List.flatMap_cons]
    cases d with
    | missing => cases h
    | unbound =>
      rw [ih hrest h]
      rfl
    | raw raw =>
      obtain ⟨v, u, hparse, hu, rfl⟩ := settle_raw_eq_ok_iff.mp h
      rw [he raw rfl] at hparse
      obtain rfl := Except.ok.inj hparse
      rw [collected_cons, textsOf_toValue, ih hrest hu]
      rfl

theorem isNamed_of_settle {c : Classified} {ds : List (Param × Draw)} {t : Table Value}
    {given : Bool} (hds : ∀ e ∈ ds, c.isNamed e.1 = given) (h : settle ds = .ok t) :
    ∀ e ∈ t, (c.named.lookup e.1).isSome = given := by
  intro e he
  obtain ⟨entry, hentry, hname⟩ := exists_draw_of_key h (List.mem_map_of_mem he)
  rw [← hname]
  exact hds entry hentry

theorem parts_append {c : Classified} {t u : Table Value}
    (ht : ∀ e ∈ t, (c.named.lookup e.1).isSome = true)
    (hu : ∀ e ∈ u, (c.named.lookup e.1).isSome = false) :
    byMarker c (t ++ u) = t ∧ byPosition c (t ++ u) = u := by
  constructor
  · rw [byMarker, List.filter_append, List.filter_eq_self.mpr ht,
      List.filter_eq_nil_iff.mpr fun e he => by simp [hu e he], List.append_nil]
  · rw [byPosition, List.filter_append,
      List.filter_eq_nil_iff.mpr fun e he => by simp [ht e he], List.nil_append]
    exact List.filter_eq_self.mpr fun e he => by simp [hu e he]

theorem kept_draws (c : Classified) {ps : List Param}
    (hidentity : ∀ p ∈ ps, p.parser = Parser.identity) (k : Nat) :
    ∀ e ∈ draws c k ps, ∀ raw, e.2 = .raw raw → e.1.parse raw.toValue = .ok raw.toValue := by
  rintro ⟨p, d⟩ he raw rfl
  exact parse_of_identity (hidentity p (mem_of_mem_draws c he)) (isMany_of_mem_draws c he)

section Open

variable (c : Classified) {qs : List Param}

/-- What open parameters draw, and what they leave, is what was there. -/
theorem drawn_append_left (h : ∀ p ∈ qs, c.isNamed p = false) (k : Nat) :
    (draws c k qs).flatMap drawn ++ c.positional.drop (advance c k qs) = c.positional.drop k := by
  induction qs generalizing k with
  | nil => rfl
  | cons p rest ih =>
    obtain ⟨hp, hrest⟩ := List.forall_mem_cons.mp h
    rw [draws, advance, List.flatMap_cons, List.append_assoc, ih hrest]
    cases hv : p.variadic with
    | true =>
      rw [draw_variadic c hp hv, List.drop_length, List.append_nil]
      rfl
    | false =>
      rw [draw_scalar c ⟨hp, hv⟩]
      by_cases hk : k < c.positional.length
      · rw [if_pos hk, List.drop_eq_getElem_cons hk, List.getElem?_eq_getElem hk]
        rfl
      · have hnothing : drawn (p, scalarDraw p none) = [] := by
          cases ho : p.optional <;> simp [drawn, scalarDraw, ho]
        rw [if_neg hk, List.getElem?_eq_none (Nat.le_of_not_lt hk), hnothing, List.nil_append]

theorem not_dashed_of_mem_positional {tokens : List String} {v : String}
    (hv : v ∈ (ofTokens tokens).positional) : ¬ Dashed v := by
  rw [positional_ofTokens] at hv
  exact isPlain_iff.mp (List.mem_filter.mp hv).2

end Open

section Leading

variable {α : Type} {o : Overload α} {blocks : List Block} {tail : List String}

theorem drawn_block (h : Leading o.params blocks tail) {b : Block} (hb : b ∈ blocks) :
    drawn (b.1, ((line blocks tail).draw b.1 0).1) = b.2 := by
  rw [(h.draw_block hb).1]
  cases hv : b.1.variadic with
  | true => simp [drawn, rawOf, hv, textsOfRaw]
  | false =>
    obtain ⟨v, hvalue⟩ := List.length_eq_one_iff.mp (h.single b hb hv)
    simp [drawn, rawOf, hv, hvalue, textsOfRaw]

/-- Leading markers bind just the values that stand in front. -/
theorem drawn_leading (h : Leading o.params blocks tail) :
    (undashed ((markedDraws (line blocks tail) o.params).flatMap drawn)).Perm
      ((line blocks tail).positional.take (markedWidth (line blocks tail) o.params)) := by
  have hfront : (line blocks tail).positional.take (markedWidth (line blocks tail) o.params) =
      values blocks := by
    rw [h.markedWidth_eq o.params_nodup, positional_line h.plain, List.take_left]
  have hplain : undashed (values blocks) = values blocks := by
    apply undashed_of_plain
    intro v hv
    obtain ⟨b, hb, hvb⟩ := List.mem_flatMap.mp hv
    exact h.plain b hb v hvb
  have hperm : ((markedDraws (line blocks tail) o.params).flatMap drawn).Perm
      (values blocks) := by
    rw [markedDraws, List.flatMap_map]
    refine ((h.marked_perm o.params_nodup).flatMap_right _).trans (List.Perm.of_eq ?_)
    rw [List.flatMap_map, values, List.flatMap_def, List.flatMap_def]
    exact congrArg List.flatten (List.map_congr_left fun b hb => drawn_block h hb)
  rw [hfront, ← hplain]
  exact hperm.filter _

end Leading

section Bind

variable {α : Type} {o : Overload α} {tokens : List String} {b : Binding α}
  (hidentity : ∀ p ∈ o.params, p.parser = Parser.identity)
  (hb : o.bind (ofTokens tokens) = .ok b)

include hidentity hb

/-- A binding falls into what the markers drew and what the open parameters drew. -/
theorem exists_parts : ∃ t u, b.params = t ++ u ∧
    byMarker (ofTokens tokens) b.params = t ∧ byPosition (ofTokens tokens) b.params = u ∧
    collected t = (markedDraws (ofTokens tokens) o.params).flatMap drawn ∧
    collected u =
      (ofTokens tokens).positional.drop (markedWidth (ofTokens tokens) o.params) := by
  let c := ofTokens tokens
  obtain ⟨table, hsettle, hcursor, rfl⟩ := bind_eq_ok_iff.mp hb
  have hopen (p) (hp : p ∈ unmarked c o.params) : c.isNamed p = false :=
    ((mem_unmarked c).mp hp).2
  have hkept := kept_draws c (fun p hp => hidentity p ((order_perm c o.params).mem_iff.mp hp)) 0
  rw [advance_order] at hcursor
  rw [draws_order] at hsettle hkept
  obtain ⟨hmarkedKept, hopenKept⟩ := List.forall_mem_append.mp hkept
  have hparses : Parses (markedDraws c o.params) :=
    fun e he raw hraw => ⟨_, hmarkedKept e he raw hraw⟩
  obtain ⟨t, ht⟩ := exists_settle hparses (firstMissing_markedDraws c o.params)
  rw [settle_append_of_ok ht] at hsettle
  cases hu : settle (draws c (markedWidth c o.params) (unmarked c o.params)) with
  | error r =>
    rw [hu] at hsettle
    cases hsettle
  | ok u =>
    rw [hu] at hsettle
    obtain rfl : t ++ u = table := Except.ok.inj hsettle
    have htkeys : ∀ e ∈ t, (c.named.lookup e.1).isSome = true := by
      apply isNamed_of_settle _ ht
      intro e he
      obtain ⟨p, hp, rfl⟩ := List.mem_map.mp he
      exact isNamed_of_mem_marked c hp
    have hukeys : ∀ e ∈ u, (c.named.lookup e.1).isSome = false :=
      isNamed_of_settle (fun e he => hopen e.1 (mem_of_mem_draws c he)) hu
    obtain ⟨hmarker, hposition⟩ := parts_append htkeys hukeys
    refine ⟨t, u, rfl, hmarker, hposition, collected_of_settle hmarkedKept ht, ?_⟩
    rw [collected_of_settle hopenKept hu, ← drawn_append_left c hopen, hcursor,
      List.drop_length, List.append_nil]

/-- Open parameters hold the positional values behind the width of the markers. What
the line held and what was bound differ by the values before that, on the one side,
and the values that markers bound, on the other; on a line of leading markers these
are the same. -/
theorem bound_values :
    collected (byPosition (ofTokens tokens) b.params) =
      (ofTokens tokens).positional.drop (markedWidth (ofTokens tokens) o.params) ∧
    (undashed (collected b.params) ++
        (ofTokens tokens).positional.take (markedWidth (ofTokens tokens) o.params)).Perm
      ((ofTokens tokens).positional ++
        undashed (collected (byMarker (ofTokens tokens) b.params))) ∧
    ((undashed (collected b.params)).Perm (ofTokens tokens).positional ↔
      (undashed (collected (byMarker (ofTokens tokens) b.params))).Perm
        ((ofTokens tokens).positional.take (markedWidth (ofTokens tokens) o.params))) ∧
    ∀ blocks tail, Leading o.params blocks tail → tokens = written blocks ++ tail →
      (undashed (collected b.params)).Perm (ofTokens tokens).positional := by
  obtain ⟨t, u, hparams, hmarker, hposition, hmarked, hopen⟩ := exists_parts hidentity hb
  let before := (ofTokens tokens).positional.take (markedWidth (ofTokens tokens) o.params)
  let behind := (ofTokens tokens).positional.drop (markedWidth (ofTokens tokens) o.params)
  have hsplit : before ++ behind = (ofTokens tokens).positional := List.take_append_drop ..
  have hbehind : undashed behind = behind :=
    undashed_of_plain fun v hv => not_dashed_of_mem_positional (List.mem_of_mem_drop hv)
  have hbound : undashed (collected b.params) = undashed (collected t) ++ behind := by
    rw [hparams, collected_append, undashed_append, hopen, hbehind]
  have hiff : (undashed (collected b.params)).Perm (ofTokens tokens).positional ↔
      (undashed (collected t)).Perm before := by
    rw [hbound, ← hsplit, List.perm_append_right_iff]
  rw [hmarker, hposition]
  refine ⟨hopen, ?_, hiff, ?_⟩
  · have hswap : (undashed (collected t) ++ behind ++ before).Perm
        (before ++ behind ++ undashed (collected t)) := by
      rw [List.append_assoc]
      exact (List.perm_append_comm.append_left _).trans List.perm_append_comm
    rw [hbound]
    rw [hsplit] at hswap
    exact hswap
  · intro blocks tail hleading htokens
    subst htokens
    apply hiff.mpr
    rw [hmarked]
    exact drawn_leading hleading

end Bind

theorem render_bound_values :
    (∀ p ∈ render.params, p.parser = Parser.identity) ∧
      ∃ b, render.bind (line renderBlocks ["-quiet", "x"]) = .ok b ∧
        collected (byPosition (line renderBlocks ["-quiet", "x"]) b.params) = ["x"] ∧
        (undashed (collected b.params)).Perm ["a", "b", "fast", "x"] := by
  have hidentity : ∀ p ∈ render.params, p.parser = Parser.identity := by
    intro p hp
    simp only [render, List.mem_cons, List.not_mem_nil, or_false] at hp
    rcases hp with rfl | rfl | rfl <;> rfl
  obtain ⟨b, hb⟩ : ∃ b, render.bind (line renderBlocks ["-quiet", "x"]) = .ok b := ⟨_, rfl⟩
  obtain ⟨hposition, _, _, hleading⟩ := bound_values hidentity hb
  exact ⟨hidentity, b, hb, hposition, hleading _ _ leading_renderBlocks rfl⟩

def left : Param := plain "left" false false (by decide +kernel)

def right : Param := plain "right" false false (by decide +kernel)

def single : Overload Unit where
  help := "Req."
  params := [left]
  flags := []
  action := none
  params_nodup := List.nodup_singleton _
  flags_nodup := List.nodup_nil

def pair : Overload Unit where
  help := "Pair."
  params := [left, right]
  flags := []
  action := none
  params_nodup := by simp [left, right, plain]
  flags_nodup := List.nodup_nil

/-- A marker that does not lead uses up a value that it does not hold: a marker at the
end loses one, and with a value behind it another one is bound twice. -/
theorem trailing_marker_unbalanced :
    (∃ b, single.bind (ofTokens ["a", "--left"]) = .ok b ∧
      (∀ p ∈ single.params, p.parser = Parser.identity) ∧ b.params = [] ∧
      ¬ (undashed (collected b.params)).Perm (ofTokens ["a", "--left"]).positional) ∧
    ∃ b, pair.bind (ofTokens ["a", "--left", "x"]) = .ok b ∧
      (∀ p ∈ pair.params, p.parser = Parser.identity) ∧
      b.params = [("left", .text "x"), ("right", .text "x")] ∧
      ¬ (undashed (collected b.params)).Perm (ofTokens ["a", "--left", "x"]).positional := by
  constructor
  · refine ⟨_, rfl, ?_, rfl, ?_⟩
    · intro p hp
      obtain rfl := List.mem_singleton.mp hp
      rfl
    · intro hperm
      have hlength : 0 = 1 := hperm.length_eq
      omega
  · refine ⟨_, rfl, ?_, rfl, ?_⟩
    · intro p hp
      simp only [pair, List.mem_cons, List.not_mem_nil, or_false] at hp
      rcases hp with rfl | rfl <;> rfl
    · intro hperm
      have hlost : "a" ∈ ["x", "x"] := hperm.mem_iff.mpr (by decide +kernel)
      simp at hlost

end CommandShell.Conservation
