import CommandShell.Proofs.Buckets
import CommandShell.Proofs.Spelling

/-!
Lines that begin with markers. Each marker names a declared parameter, no two the
same one, and its values follow it: one for a scalar, any number for a variadic.
The values are positional too, but they are the first ones and the markers use up
exactly as many, so the rest of the line is bound as if it stood alone and the
marked parameters were not declared.
-/
namespace CommandShell.LeadingMarkers

open Draws Buckets Spelling Classified

/-- A parameter with the values written after its marker. -/
abbrev Block := Param × List String

def written (blocks : List Block) : List String :=
  blocks.flatMap fun b => marker b.1.name :: b.2

def values (blocks : List Block) : List String := blocks.flatMap fun b => b.2

def names (blocks : List Block) : List String := blocks.map fun b => b.1.name

/-- The blocks and what follows them, classified. -/
abbrev line (blocks : List Block) (tail : List String) : Classified :=
  ofTokens (written blocks ++ tail)

/-- The raw value that a block gives to its parameter. -/
def rawOf (b : Block) : Raw := if b.1.variadic then .many b.2 else .one (b.2.headD "")

theorem isMany_rawOf (b : Block) : isMany (rawOf b) = b.1.variadic := by
  unfold rawOf
  cases b.1.variadic <;> rfl

/-- The parser takes the value that the block gives. -/
def Accepted (b : Block) : Prop := ∃ v, b.1.parser (rawOf b).toValue = .ok v

theorem accepted_of_identity {b : Block} (h : b.1.parser = Parser.identity) : Accepted b :=
  neverRefuses_of_identity h (rawOf b) (isMany_rawOf b)

/-- The refused block whose parameter is declared before those of all other refused ones. -/
def FirstRefused (ps : List Param) (blocks : List Block) (b : Block) : Prop :=
  b ∈ blocks ∧ ¬ Accepted b ∧ ∃ before after, ps = before ++ b.1 :: after ∧
    ∀ d ∈ blocks, d.1 ∈ before → Accepted d

/-- Markers of declared parameters in front of a tail that holds no more of them.
The tail does not go on with the values of a variadic. -/
structure Leading (ps : List Param) (blocks : List Block) (tail : List String) : Prop where
  declared : ∀ b ∈ blocks, b.1 ∈ ps
  distinct : (names blocks).Nodup
  single : ∀ b ∈ blocks, b.1.variadic = false → b.2.length = 1
  plain : ∀ b ∈ blocks, ∀ v ∈ b.2, ¬ Dashed v
  tail_free : ∀ p ∈ ps, marker p.name ∉ tail
  closed : ∀ b ∈ blocks.getLast?, b.1.variadic = true → ∀ t ∈ tail.head?, DoubleDashed t

section Classification

variable {blocks : List Block} {tail : List String}

theorem written_cons (b : Block) (blocks : List Block) :
    written (b :: blocks) = marker b.1.name :: (b.2 ++ written blocks) := by
  simp [written]

theorem line_cons (b : Block) (blocks : List Block) (tail : List String) :
    line (b :: blocks) tail =
      ofTokens (marker b.1.name :: (b.2 ++ (written blocks ++ tail))) := by
  rw [line, written_cons, List.cons_append, List.append_assoc]

theorem positional_line (h : ∀ b ∈ blocks, ∀ v ∈ b.2, ¬ Dashed v) :
    (line blocks tail).positional = values blocks ++ (ofTokens tail).positional := by
  rw [positional_ofTokens, positional_ofTokens, List.filter_append]
  congr 1
  induction blocks with
  | nil => rfl
  | cons b blocks ih =>
    obtain ⟨hb, hblocks⟩ := List.forall_mem_cons.mp h
    have hplain : ∀ v ∈ b.2, (Shape.of v).isPlain = true := fun v hv => isPlain_iff.mpr (hb v hv)
    rw [written_cons, List.filter_cons_of_neg (by simp [shape_marker, Shape.isPlain]),
      List.filter_append, List.filter_eq_self.mpr hplain, ih hblocks]
    rfl

theorem flags_line (h : ∀ b ∈ blocks, ∀ v ∈ b.2, ¬ Dashed v) :
    (line blocks tail).flags = (ofTokens tail).flags := by
  have hnone : ((written blocks).filterMap fun t => (Shape.of t).flag?) = [] := by
    rw [List.filterMap_eq_nil_iff]
    intro t ht
    obtain ⟨b, hb, htb⟩ := List.mem_flatMap.mp ht
    rcases List.mem_cons.mp htb with rfl | hv
    · simp [shape_marker, Shape.flag?]
    · have hplain := isPlain_iff.mpr (h b hb t hv)
      cases hshape : Shape.of t with
      | marker name => simp [hshape, Shape.isPlain] at hplain
      | flag name => simp [hshape, Shape.isPlain] at hplain
      | plain => rfl
  rw [flags_ofTokens, flags_ofTokens, List.filterMap_append, hnone, List.nil_append]

theorem not_doubleDashed_of_plain (h : ∀ b ∈ blocks, ∀ v ∈ b.2, ¬ Dashed v) :
    ∀ b ∈ blocks, ∀ v ∈ b.2, ¬ DoubleDashed v :=
  fun b hb v hv hd => h b hb v hv (dashed_of_doubleDashed hd)

theorem lookup_line_of_notMem (h : ∀ b ∈ blocks, ∀ v ∈ b.2, ¬ DoubleDashed v) {name : String}
    (hname : name ∉ names blocks) :
    (line blocks tail).named.lookup name = (ofTokens tail).named.lookup name := by
  induction blocks with
  | nil => rfl
  | cons b blocks ih =>
    obtain ⟨hne, hrest⟩ := not_or.mp (mt List.mem_cons.mpr hname)
    obtain ⟨hb, hblocks⟩ := List.forall_mem_cons.mp h
    rw [line_cons, lookup_ofTokens_marker, if_neg hne, named_ofTokens_append hb]
    exact ih hblocks hrest

/-- The group of a written marker: its values, and behind the last marker also the
tail up to the next one. -/
theorem lookup_line_of_mem (h : ∀ b ∈ blocks, ∀ v ∈ b.2, ¬ DoubleDashed v)
    (hdistinct : (names blocks).Nodup) {b : Block} (hb : b ∈ blocks)
    (htail : (ofTokens tail).named.lookup b.1.name = none) :
    ∃ extra, (line blocks tail).named.lookup b.1.name = some (b.2 ++ extra) ∧
      (extra = [] ∨ extra = group tail ∧ blocks.getLast? = some b) := by
  induction blocks with
  | nil => cases hb
  | cons d blocks ih =>
    obtain ⟨hfresh, hrest⟩ := List.nodup_cons.mp hdistinct
    obtain ⟨hd, hblocks⟩ := List.forall_mem_cons.mp h
    rw [line_cons, lookup_ofTokens_marker, named_ofTokens_append hd]
    rcases List.mem_cons.mp hb with rfl | hmem
    · rw [if_pos rfl, lookup_line_of_notMem hblocks hfresh, htail, Option.getD_none,
        group_append hd]
      cases blocks with
      | nil => exact ⟨group tail, rfl, Or.inr ⟨rfl, rfl⟩⟩
      | cons e blocks =>
        refine ⟨[], ?_, Or.inl rfl⟩
        rw [written_cons, List.cons_append, group_marker_cons]
    · have hne : b.1.name ≠ d.1.name := by
        intro heq
        exact hfresh (List.mem_map.mpr ⟨b, hmem, heq⟩)
      obtain ⟨extra, hlookup, hextra⟩ := ih hblocks hrest hmem
      refine ⟨extra, by rw [if_neg hne, hlookup], ?_⟩
      rcases hextra with hnil | ⟨hgroup, hlast⟩
      · exact Or.inl hnil
      · exact Or.inr ⟨hgroup, by rw [List.getLast?_cons, hlast, Option.getD_some]⟩

end Classification

section Leading

variable {ps : List Param} {blocks : List Block} {tail : List String}
  (h : Leading ps blocks tail)

include h

theorem Leading.isNamed_tail {p : Param} (hp : p ∈ ps) : (ofTokens tail).isNamed p = false := by
  rw [Classified.isNamed, lookup_ofTokens_eq_none_iff.mpr (h.tail_free p hp)]
  rfl

theorem Leading.isNamed_iff {p : Param} (hp : p ∈ ps) :
    (line blocks tail).isNamed p = true ↔ p.name ∈ names blocks := by
  have hvalues := not_doubleDashed_of_plain h.plain
  have htail := lookup_ofTokens_eq_none_iff.mpr (h.tail_free p hp)
  constructor
  · intro hn
    by_contra hname
    rw [Classified.isNamed, lookup_line_of_notMem hvalues hname, htail] at hn
    cases hn
  · intro hname
    obtain ⟨b, hb, hbp⟩ := List.mem_map.mp hname
    rw [← hbp] at htail
    obtain ⟨extra, hlookup, _⟩ := lookup_line_of_mem hvalues h.distinct hb htail
    rw [hbp] at hlookup
    simp [Classified.isNamed, hlookup]

theorem Leading.isNamed_eq {p : Param} (hp : p ∈ ps) :
    (line blocks tail).isNamed p = decide (p.name ∈ names blocks) := by
  rw [Bool.eq_iff_iff, h.isNamed_iff hp, decide_eq_true_iff]

/-- A written block gives its parameter what stands in it, and is as wide. -/
theorem Leading.draw_block {b : Block} (hb : b ∈ blocks) :
    ((line blocks tail).draw b.1 0).1 = .raw (rawOf b) ∧
      width (line blocks tail) b.1 = b.2.length := by
  have htail := lookup_ofTokens_eq_none_iff.mpr (h.tail_free b.1 (h.declared b hb))
  obtain ⟨extra, hlookup, hextra⟩ :=
    lookup_line_of_mem (not_doubleDashed_of_plain h.plain) h.distinct hb htail
  cases hv : b.1.variadic with
  | false =>
    obtain ⟨v, hvalue⟩ := List.length_eq_one_iff.mp (h.single b hb hv)
    simp [Classified.draw, width, hlookup, hv, hvalue, rawOf]
  | true =>
    have hnil : extra = [] := by
      rcases hextra with hnil | ⟨hgroup, hlast⟩
      · exact hnil
      · rw [hgroup, group_eq_nil (h.closed b hlast hv)]
    simp [Classified.draw, width, hlookup, hv, hnil, rawOf]

theorem Leading.marked_perm (hnodup : (ps.map fun p => p.name).Nodup) :
    (marked (line blocks tail) ps).Perm (blocks.map fun b => b.1) := by
  have hblocks : (blocks.map fun b => b.1).Nodup := by
    apply List.Nodup.of_map fun p : Param => p.name
    rw [List.map_map]
    exact h.distinct
  have hps : ps.Nodup := List.Nodup.of_map _ hnodup
  apply (List.perm_ext_iff_of_nodup (hps.filter _) hblocks).mpr
  intro p
  constructor
  · intro hp
    obtain ⟨hmem, hn⟩ := List.mem_filter.mp hp
    obtain ⟨b, hb, hbp⟩ := List.mem_map.mp ((h.isNamed_iff hmem).mp hn)
    have heq : b.1 = p := List.inj_on_of_nodup_map hnodup (h.declared b hb) hmem hbp
    exact List.mem_map.mpr ⟨b, hb, heq⟩
  · intro hp
    obtain ⟨b, hb, rfl⟩ := List.mem_map.mp hp
    have hmem := h.declared b hb
    exact List.mem_filter.mpr ⟨hmem, (h.isNamed_iff hmem).mpr (List.mem_map.mpr ⟨b, hb, rfl⟩)⟩

theorem Leading.markedWidth_eq (hnodup : (ps.map fun p => p.name).Nodup) :
    markedWidth (line blocks tail) ps = (values blocks).length := by
  rw [← markedWidth_marked, markedWidth, ((h.marked_perm hnodup).map _).sum_eq, List.map_map,
    values, List.length_flatMap]
  congr 1
  apply List.map_congr_left
  intro b hb
  exact (h.draw_block hb).2

end Leading

section Bind

variable {α : Type} {blocks : List Block} {tail : List String}

/-- The overload without the parameters that blocks are written for. -/
def without (o : Overload α) (blocks : List Block) : Overload α :=
  { o with
    params := o.params.filter fun p => p.name ∉ names blocks
    params_nodup := o.params_nodup.sublist (List.filter_sublist.map _) }

/-- A line and its tail have outcomes of one kind: bindings that differ by what the
markers bound first, or rejections for one reason. -/
def Extends (bound : Table Value) : (line tail : Except Mismatch (Binding α)) → Prop
  | .ok b, .ok b' => b.params = bound ++ b'.params ∧ b.flags = b'.flags
  | .error m, .error m' => m.code = m'.code ∧ m.param? = m'.param?
  | _, _ => False

/-- A cursor and a positional list that are longer by the same number are judged alike. -/
theorem checkCursor_shift {c d : Classified} {n : Nat}
    (hlength : c.positional.length = n + d.positional.length) (k : Nat) :
    (c.checkCursor (n + k) = .ok () ∧ d.checkCursor k = .ok ()) ∨
      ∃ r s, c.checkCursor (n + k) = .error r ∧ d.checkCursor k = .error s ∧
        ∀ help, (Mismatch.mk help r).code = (Mismatch.mk help s).code ∧
          (Mismatch.mk help r).param? = (Mismatch.mk help s).param? := by
  rcases Nat.lt_trichotomy k d.positional.length with hlt | heq | hgt
  · refine Or.inr ⟨_, _, if_pos (by omega), if_pos hlt, fun help => ⟨rfl, rfl⟩⟩
  · exact Or.inl ⟨checkCursor_eq_ok_iff.mpr (by omega), checkCursor_eq_ok_iff.mpr heq⟩
  · have hc : c.checkCursor (n + k) = .error (.surplus (n + k - c.positional.length)) := by
      rw [Classified.checkCursor, if_neg (by omega), if_pos (by omega)]
    have hd : d.checkCursor k = .error (.surplus (k - d.positional.length)) := by
      rw [Classified.checkCursor, if_neg (by omega), if_pos hgt]
    exact Or.inr ⟨_, _, hc, hd, fun help => ⟨rfl, rfl⟩⟩

variable {o : Overload α} (h : Leading o.params blocks tail)

include h

theorem Leading.unmarked_eq : (ofTokens tail).order (without o blocks).params =
    unmarked (line blocks tail) o.params := by
  have hfilter (f : Param → Bool) :
      ((without o blocks).params.filter fun p => !(ofTokens tail).isNamed p && f p) =
        o.params.filter fun p => !(line blocks tail).isNamed p && f p := by
    rw [without, List.filter_filter]
    apply List.filter_congr
    intro p hp
    rw [h.isNamed_eq hp, h.isNamed_tail hp, decide_not, Bool.not_false, Bool.true_and, Bool.and_comm]
  have hmarked : marked (ofTokens tail) (without o blocks).params = [] := by
    apply List.filter_eq_nil_iff.mpr
    intro p hp
    simp [h.isNamed_tail (List.mem_of_mem_filter hp)]
  rw [order_eq, hmarked, List.nil_append]
  simp only [unmarked, required, optionalScalars, optionalVariadics, Bool.and_assoc, hfilter]

theorem Leading.marked_eq : marked (line blocks tail) o.params =
    o.params.filter fun p => p.name ∈ names blocks := by
  apply List.filter_congr
  exact fun p hp => h.isNamed_eq hp

theorem Leading.mem_markedDraws {e : Param × Draw} :
    e ∈ markedDraws (line blocks tail) o.params ↔ ∃ b ∈ blocks, e = (b.1, .raw (rawOf b)) := by
  have hperm := h.marked_perm o.params_nodup
  constructor
  · intro he
    obtain ⟨p, hp, rfl⟩ := List.mem_map.mp he
    obtain ⟨b, hb, rfl⟩ := List.mem_map.mp (hperm.mem_iff.mp hp)
    exact ⟨b, hb, by rw [(h.draw_block hb).1]⟩
  · rintro ⟨b, hb, rfl⟩
    have hp := hperm.mem_iff.mpr (List.mem_map.mpr ⟨b, hb, rfl⟩)
    exact List.mem_map.mpr ⟨b.1, hp, by rw [(h.draw_block hb).1]⟩

/-- The line draws what its markers give, and then what the tail draws on its own. -/
theorem Leading.draws_eq :
    draws (line blocks tail) 0 ((line blocks tail).order o.params) =
      markedDraws (line blocks tail) o.params ++
        draws (ofTokens tail) 0 ((ofTokens tail).order (without o blocks).params) ∧
    advance (line blocks tail) 0 ((line blocks tail).order o.params) =
      (values blocks).length +
        advance (ofTokens tail) 0 ((ofTokens tail).order (without o blocks).params) := by
  have hwidth := h.markedWidth_eq o.params_nodup
  have hopen (p) (hp : p ∈ unmarked (line blocks tail) o.params) := (mem_unmarked _).mp hp
  obtain ⟨hdraws, hadvance⟩ := draws_shift (positional_line h.plain)
    (fun p hp => (hopen p hp).2) (fun p hp => h.isNamed_tail (hopen p hp).1) 0
  rw [Nat.add_zero] at hdraws hadvance
  rw [h.unmarked_eq, draws_order, advance_order, hwidth, hdraws, hadvance]
  exact ⟨rfl, rfl⟩

/-- Markers that are all accepted extend whatever the tail comes to. -/
theorem Leading.extends_of_settle {bound : Table Value}
    (hlead : settle (markedDraws (line blocks tail) o.params) = .ok bound) :
    Extends bound (o.bind (line blocks tail)) ((without o blocks).bind (ofTokens tail)) := by
  obtain ⟨hdraws, hadvance⟩ := h.draws_eq
  have hlength : (line blocks tail).positional.length =
      (values blocks).length + (ofTokens tail).positional.length := by
    rw [positional_line h.plain, List.length_append]
  have hflags : o.bindFlags (line blocks tail) =
      (without o blocks).bindFlags (ofTokens tail) := by
    rw [Overload.bindFlags, Overload.bindFlags, flags_line h.plain]
    rfl
  rw [Overload.bind, Overload.bind, bindParams_eq, bindParams_eq, hdraws, hadvance,
    settle_append_of_ok hlead]
  cases hsettle :
      settle (draws (ofTokens tail) 0 ((ofTokens tail).order (without o blocks).params)) with
  | error r => exact ⟨rfl, rfl⟩
  | ok t =>
    rcases checkCursor_shift hlength
      (advance (ofTokens tail) 0 ((ofTokens tail).order (without o blocks).params)) with
      ⟨hc, hd⟩ | ⟨r, s, hc, hd, hkind⟩
    · simp only [Except.map, hc, hd]
      exact ⟨rfl, hflags⟩
    · simp only [Except.map, hc, hd]
      exact hkind o.help

/-- The markers are parsed before anything else, in the order of declaration. -/
theorem Leading.bind_of_firstRefused {b : Block} (hb : FirstRefused o.params blocks b)
    {failure : Failure} (hrefused : b.1.parser (rawOf b).toValue = .error failure) :
    o.bind (line blocks tail) = .error ⟨o.help, .refused b.1.name (rawOf b) failure⟩ := by
  obtain ⟨hmem, _, before, after, hparams, hbefore⟩ := hb
  let c := line blocks tail
  have hnamed : c.isNamed b.1 = true :=
    (h.isNamed_iff (h.declared b hmem)).mpr (List.mem_map.mpr ⟨b, hmem, rfl⟩)
  have hsplit : markedDraws c o.params =
      markedDraws c before ++ (b.1, .raw (rawOf b)) :: markedDraws c after := by
    rw [markedDraws, marked, hparams, List.filter_append, List.filter_cons_of_pos hnamed,
      List.map_append, List.map_cons, (h.draw_block hmem).1]
    rfl
  have hparses : Parses (markedDraws c before) := by
    intro e he raw hraw
    have hin : e ∈ markedDraws c o.params := by
      rw [hsplit]
      exact List.mem_append_left _ he
    obtain ⟨d, hd, rfl⟩ := h.mem_markedDraws.mp hin
    obtain ⟨q, hq, heq⟩ := List.mem_map.mp he
    obtain rfl : q = d.1 := congrArg Prod.fst heq
    obtain rfl := Draw.raw.inj hraw
    rw [parse_of_shape (isMany_rawOf d)]
    exact hbefore d hd (List.mem_of_mem_filter hq)
  obtain ⟨t, ht⟩ := exists_settle hparses (firstMissing_markedDraws c before)
  have hlead : settle (markedDraws (line blocks tail) o.params) =
      .error (.refused b.1.name (rawOf b) failure) := by
    rw [hsplit, settle_append_of_ok ht, settle, parse_of_shape (isMany_rawOf b), hrefused]
    rfl
  rw [Overload.bind, bindParams_eq, h.draws_eq.1, settle_append_of_error hlead]

/-- Blocks of one parameter are the same block, so a refused one has a first. -/
theorem Leading.exists_firstRefused (hrefused : ∃ b ∈ blocks, ¬ Accepted b) :
    ∃ b, FirstRefused o.params blocks b := by
  classical
  let refused (p : Param) : Bool := decide (∃ b ∈ blocks, ¬ Accepted b ∧ b.1 = p)
  obtain ⟨b, hb, hnot⟩ := hrefused
  have hsome : (o.params.find? refused).isSome = true :=
    List.find?_isSome.mpr ⟨b.1, h.declared b hb, decide_eq_true ⟨b, hb, hnot, rfl⟩⟩
  obtain ⟨p, hp⟩ := Option.isSome_iff_exists.mp hsome
  obtain ⟨hfound, before, after, hparams, hbefore⟩ := List.find?_eq_some_iff_append.mp hp
  obtain ⟨d, hd, hdnot, rfl⟩ := of_decide_eq_true hfound
  refine ⟨d, hd, hdnot, before, after, hparams, ?_⟩
  intro e he hein
  by_contra henot
  have hskip := hbefore e.1 hein
  rw [Bool.not_eq_true', decide_eq_false_iff_not] at hskip
  exact hskip ⟨e, he, henot, rfl⟩

theorem Leading.map_name_markedDraws :
    (markedDraws (line blocks tail) o.params).map (fun e => e.1.name) =
      (o.params.filter fun p => p.name ∈ names blocks).map fun p => p.name := by
  rw [markedDraws, List.map_map, h.marked_eq]
  rfl

theorem Leading.exists_bound (haccepted : ∀ b ∈ blocks, Accepted b) :
    ∃ bound, settle (markedDraws (line blocks tail) o.params) = .ok bound ∧
      bound.keys = ((o.params.filter fun p => p.name ∈ names blocks).map fun p => p.name) ∧
      ∀ b ∈ blocks, Holds bound b.1 (rawOf b) := by
  have hdistinct : ((markedDraws (line blocks tail) o.params).map fun e => e.1.name).Nodup := by
    rw [h.map_name_markedDraws]
    exact o.params_nodup.sublist (List.filter_sublist.map _)
  have hparses : Parses (markedDraws (line blocks tail) o.params) := by
    intro e he raw hraw
    obtain ⟨b, hb, rfl⟩ := h.mem_markedDraws.mp he
    obtain rfl := Draw.raw.inj hraw
    rw [parse_of_shape (isMany_rawOf b)]
    exact haccepted b hb
  have hraw : (markedDraws (line blocks tail) o.params).filter isRaw =
      markedDraws (line blocks tail) o.params := by
    apply List.filter_eq_self.mpr
    intro e he
    obtain ⟨b, _, rfl⟩ := h.mem_markedDraws.mp he
    rfl
  obtain ⟨bound, hbound⟩ := exists_settle hparses (firstMissing_markedDraws _ _)
  refine ⟨bound, hbound, by rw [keys_of_settle hbound, hraw, h.map_name_markedDraws], ?_⟩
  intro b hb
  exact holds_of_settle hdistinct hbound (h.mem_markedDraws.mpr ⟨b, hb, rfl⟩) (isMany_rawOf b)

/-- When every marked value is accepted, the line comes to what the tail comes to
without the marked parameters, which are bound in front. Else the first refused
one decides, whatever the tail holds. -/
theorem bind_leading :
    ((∀ b ∈ blocks, Accepted b) → ∃ bound : Table Value,
      bound.keys = ((o.params.filter fun p => p.name ∈ names blocks).map fun p => p.name) ∧
      (∀ b ∈ blocks, Holds bound b.1 (rawOf b)) ∧
      Extends bound (o.bind (line blocks tail)) ((without o blocks).bind (ofTokens tail))) ∧
    ((∃ b ∈ blocks, ¬ Accepted b) → ∃ b failure m, FirstRefused o.params blocks b ∧
      b.1.parser (rawOf b).toValue = .error failure ∧
      o.bind (line blocks tail) = .error m ∧ m.code = .parserFailure ∧
      m.param? = some b.1.name ∧ m.failure? = some failure) := by
  constructor
  · intro haccepted
    obtain ⟨bound, hbound, hkeys, hholds⟩ := h.exists_bound haccepted
    exact ⟨bound, hkeys, hholds, h.extends_of_settle hbound⟩
  · intro hrefused
    obtain ⟨b, hb⟩ := h.exists_firstRefused hrefused
    cases hparse : b.1.parser (rawOf b).toValue with
    | ok v => exact absurd ⟨v, hparse⟩ hb.2.1
    | error failure =>
      exact ⟨b, failure, _, hb, hparse, h.bind_of_firstRefused hb hparse, rfl, rfl, rfl⟩

end Bind

def theme : Param := plain "theme" true false (by decide +kernel)

def page : Param := plain "page" false false (by decide +kernel)

def extras : Param := plain "extras" true true (by decide +kernel)

/-- Renders a page in a theme, with extras. -/
def render : Overload Unit where
  help := "Renders a page."
  params := [theme, page, extras]
  flags := [⟨⟨"quiet", none, by decide +kernel⟩⟩]
  action := none
  params_nodup := by simp [theme, page, extras, plain]
  flags_nodup := List.nodup_singleton _

/-- Written as `--extras a b --theme fast`, against the order of declaration. -/
def renderBlocks : List Block := [(extras, ["a", "b"]), (theme, ["fast"])]

theorem leading_renderBlocks : Leading render.params renderBlocks ["-quiet", "x"] := by
  constructor
  case declared => simp [render, renderBlocks]
  case distinct => decide +kernel
  case single => simp [renderBlocks, extras, theme, plain]
  case plain => decide +kernel
  case tail_free => decide +kernel
  case closed => simp [renderBlocks, theme, plain]

theorem render_leading :
    Leading render.params renderBlocks ["-quiet", "x"] ∧ (∀ b ∈ renderBlocks, Accepted b) ∧
      ∃ bound : Table Value, bound.keys = ["theme", "extras"] ∧
        Extends bound (render.bind (line renderBlocks ["-quiet", "x"]))
          ((without render renderBlocks).bind (ofTokens ["-quiet", "x"])) := by
  have haccepted : ∀ b ∈ renderBlocks, Accepted b := by
    intro b hb
    simp only [renderBlocks, List.mem_cons, List.not_mem_nil, or_false] at hb
    rcases hb with rfl | rfl
    · exact accepted_of_identity rfl
    · exact accepted_of_identity rfl
  obtain ⟨bound, hkeys, _, hextends⟩ := (bind_leading leading_renderBlocks).1 haccepted
  refine ⟨leading_renderBlocks, haccepted, bound, ?_, hextends⟩
  rw [hkeys]
  decide +kernel

end CommandShell.LeadingMarkers
