import CommandShell.Proofs.LeadingMarkers

/-!
Lines that give every parameter by name. Each parameter has its marker, in any order,
with one value behind it or, for a variadic, any number of values. A value is anything
that is no marker, so it is in the group of its marker and of no other. But the cursor
counts all values of a group, and a value that begins with a hyphen is a flag and not
positional: it is counted beyond the positional values, which rejects the line.
-/
namespace CommandShell.NamedAssignment

open Draws Buckets Spelling Classified LeadingMarkers

/-- Each parameter has one block. No value looks like a marker. -/
structure Assigns (ps : List Param) (blocks : List Block) : Prop where
  complete : (blocks.map fun b => b.1).Perm ps
  single : ∀ b ∈ blocks, b.1.variadic = false → b.2.length = 1
  undoubled : ∀ b ∈ blocks, ∀ v ∈ b.2, ¬ DoubleDashed v

/-- How many values look like a flag. -/
def dashedCount (blocks : List Block) : Nat := (values blocks).countP fun v => Dashed v

theorem positional_written (blocks : List Block) :
    (ofTokens (written blocks)).positional = (values blocks).filter fun v => ¬ Dashed v := by
  have hplain : (fun t => (Shape.of t).isPlain) = fun t => decide (¬ Dashed t) := by
    funext t
    rw [Bool.eq_iff_iff, isPlain_iff, decide_eq_true_iff]
  rw [positional_ofTokens, hplain]
  induction blocks with
  | nil => rfl
  | cons b blocks ih =>
    have hmarker : Dashed (marker b.1.name) := by
      rw [Dashed, toList_marker]
      exact ⟨'-' :: b.1.name.toList, rfl⟩
    have hvalues : values (b :: blocks) = b.2 ++ values blocks := List.flatMap_cons
    rw [written_cons, List.filter_cons_of_neg (by simpa using hmarker), List.filter_append, ih,
      hvalues, List.filter_append]

/-- Every value is positional or looks like a flag. -/
theorem length_values (blocks : List Block) :
    (values blocks).length =
      (ofTokens (written blocks)).positional.length + dashedCount blocks := by
  have hsplit : (values blocks).length = dashedCount blocks +
      (values blocks).countP fun v => ¬ Dashed v := by
    rw [dashedCount, List.length_eq_countP_add_countP fun v => decide (Dashed v)]
    simp only [decide_eq_true_eq]
  rw [positional_written, ← List.countP_eq_length_filter, hsplit, Nat.add_comm]

/-- Of the values that were written, the ones that look like a flag are too many. -/
theorem checkCursor_values (blocks : List Block) :
    (ofTokens (written blocks)).checkCursor (values blocks).length =
      if dashedCount blocks = 0 then .ok () else .error (.surplus (dashedCount blocks)) := by
  have hlength := length_values blocks
  split
  case isTrue hzero => exact checkCursor_eq_ok_iff.mpr (by omega)
  case isFalse hpos =>
    rw [Classified.checkCursor, if_neg (by omega), if_pos (by omega), hlength,
      Nat.add_sub_cancel_left]

section Assigns

variable {ps : List Param} {blocks : List Block} (h : Assigns ps blocks)

include h

theorem Assigns.mem_iff {p : Param} : p ∈ ps ↔ ∃ b ∈ blocks, b.1 = p := by
  rw [← h.complete.mem_iff, List.mem_map]

variable (hnodup : (ps.map fun p => p.name).Nodup)

include hnodup

theorem Assigns.names_nodup : (names blocks).Nodup := by
  have hperm : (names blocks).Perm (ps.map fun p => p.name) := by
    have hmap := h.complete.map fun p : Param => p.name
    rwa [List.map_map] at hmap
  exact hperm.nodup_iff.mpr hnodup

/-- The group of a marker is what was written behind it. -/
theorem Assigns.lookup {b : Block} (hb : b ∈ blocks) :
    (ofTokens (written blocks)).named.lookup b.1.name = some b.2 := by
  have hnone : (ofTokens []).named.lookup b.1.name = none := rfl
  obtain ⟨extra, hlookup, hextra⟩ := lookup_line_of_mem h.undoubled (h.names_nodup hnodup) hb hnone
  have hnil : extra = [] := by
    rcases hextra with hnil | ⟨hgroup, _⟩
    · exact hnil
    · rw [hgroup]
      rfl
  rwa [line, List.append_nil, hnil, List.append_nil] at hlookup

theorem Assigns.draw {b : Block} (hb : b ∈ blocks) :
    ((ofTokens (written blocks)).draw b.1 0).1 = .raw (rawOf b) ∧
      width (ofTokens (written blocks)) b.1 = b.2.length := by
  have hlookup := h.lookup hnodup hb
  cases hv : b.1.variadic with
  | false =>
    obtain ⟨v, hvalue⟩ := List.length_eq_one_iff.mp (h.single b hb hv)
    simp [Classified.draw, width, hlookup, hv, hvalue, rawOf]
  | true => simp [Classified.draw, width, hlookup, hv, rawOf]

theorem Assigns.isNamed {p : Param} (hp : p ∈ ps) :
    (ofTokens (written blocks)).isNamed p = true := by
  obtain ⟨b, hb, rfl⟩ := h.mem_iff.mp hp
  rw [Classified.isNamed, h.lookup hnodup hb]
  rfl

/-- Nothing is left to be drawn by position, so the parameters draw in the order of
declaration. -/
theorem Assigns.order_eq :
    (ofTokens (written blocks)).order ps = ps ∧ unmarked (ofTokens (written blocks)) ps = [] := by
  have hmarked : marked (ofTokens (written blocks)) ps = ps :=
    List.filter_eq_self.mpr fun p hp => h.isNamed hnodup hp
  have hunmarked : unmarked (ofTokens (written blocks)) ps = [] := by
    apply List.eq_nil_iff_forall_not_mem.mpr
    intro p hp
    obtain ⟨hmem, hopen⟩ := (mem_unmarked _).mp hp
    rw [h.isNamed hnodup hmem] at hopen
    cases hopen
  refine ⟨?_, hunmarked⟩
  rw [Buckets.order_eq, hmarked, hunmarked, List.append_nil]

theorem Assigns.draws_eq :
    draws (ofTokens (written blocks)) 0 ((ofTokens (written blocks)).order ps) =
      markedDraws (ofTokens (written blocks)) ps := by
  rw [draws_order, (h.order_eq hnodup).2]
  exact List.append_nil _

/-- The cursor ends behind all values that were written. -/
theorem Assigns.advance_eq :
    advance (ofTokens (written blocks)) 0 ((ofTokens (written blocks)).order ps) =
      (values blocks).length := by
  have hwidth : markedWidth (ofTokens (written blocks)) ps = (values blocks).length := by
    rw [markedWidth, ← (h.complete.map _).sum_eq, List.map_map, values, List.length_flatMap]
    congr 1
    apply List.map_congr_left
    intro b hb
    exact (h.draw hnodup hb).2
  rw [advance_order, (h.order_eq hnodup).2, hwidth]
  rfl

theorem Assigns.mem_markedDraws {e : Param × Draw} :
    e ∈ markedDraws (ofTokens (written blocks)) ps ↔ ∃ b ∈ blocks, e = (b.1, .raw (rawOf b)) := by
  constructor
  · intro he
    obtain ⟨p, hp, rfl⟩ := List.mem_map.mp he
    obtain ⟨b, hb, rfl⟩ := h.mem_iff.mp (List.mem_of_mem_filter hp)
    exact ⟨b, hb, by rw [(h.draw hnodup hb).1]⟩
  · rintro ⟨b, hb, rfl⟩
    have hp : b.1 ∈ ps := h.mem_iff.mpr ⟨b, hb, rfl⟩
    have hmarked : b.1 ∈ marked (ofTokens (written blocks)) ps :=
      List.mem_filter.mpr ⟨hp, h.isNamed hnodup hp⟩
    exact List.mem_map.mpr ⟨b.1, hmarked, by rw [(h.draw hnodup hb).1]⟩

end Assigns

section Bind

variable {α : Type} {o : Overload α} {blocks : List Block} (h : Assigns o.params blocks)

include h

/-- Accepted values settle, each under the name of its marker. -/
theorem Assigns.exists_bound (haccepted : ∀ b ∈ blocks, Accepted b) :
    ∃ bound : Table Value,
      settle (draws (ofTokens (written blocks)) 0
        ((ofTokens (written blocks)).order o.params)) = .ok bound ∧
      bound.keys = (o.params.map fun p => p.name) ∧ ∀ b ∈ blocks, Holds bound b.1 (rawOf b) := by
  let c := ofTokens (written blocks)
  have hdraws : draws c 0 (c.order o.params) = markedDraws c o.params := h.draws_eq o.params_nodup
  have hnames : ((markedDraws c o.params).map fun e => e.1.name) =
      o.params.map fun p => p.name := by
    rw [← hdraws, map_name_draws, (h.order_eq o.params_nodup).1]
  have hparses : Parses (markedDraws c o.params) := by
    intro e he raw hraw
    obtain ⟨b, hb, rfl⟩ := (h.mem_markedDraws o.params_nodup).mp he
    obtain rfl := Draw.raw.inj hraw
    rw [parse_of_shape (isMany_rawOf b)]
    exact haccepted b hb
  have hraw : (markedDraws c o.params).filter isRaw = markedDraws c o.params := by
    apply List.filter_eq_self.mpr
    intro e he
    obtain ⟨b, _, rfl⟩ := (h.mem_markedDraws o.params_nodup).mp he
    rfl
  obtain ⟨bound, hbound⟩ := exists_settle hparses (firstMissing_markedDraws c o.params)
  refine ⟨bound, hdraws ▸ hbound, by rw [keys_of_settle hbound, hraw, hnames], ?_⟩
  intro b hb
  have hmem := (h.mem_markedDraws o.params_nodup).mpr ⟨b, hb, rfl⟩
  exact holds_of_settle (hnames ▸ o.params_nodup) hbound hmem (isMany_rawOf b)

/-- Every value is in the group of its marker. If all values are accepted and none looks
like a flag, every parameter is bound to what its parser makes of the value behind its
marker; each accepted value that looks like a flag is one too many. -/
theorem bind_assigned :
    (∀ b ∈ blocks, (ofTokens (written blocks)).named.lookup b.1.name = some b.2) ∧
    ((∀ b ∈ blocks, Accepted b) →
      ((∀ b ∈ blocks, ∀ v ∈ b.2, ¬ Dashed v) → ∃ bound,
        o.bind (ofTokens (written blocks)) = .ok bound ∧
        bound.params.keys = (o.params.map fun p => p.name) ∧
        ∀ b ∈ blocks, Holds bound.params b.1 (rawOf b)) ∧
      ((∃ b ∈ blocks, ∃ v ∈ b.2, Dashed v) → 0 < dashedCount blocks ∧
        o.bind (ofTokens (written blocks)) =
          .error ⟨o.help, .surplus (dashedCount blocks)⟩)) := by
  refine ⟨fun b hb => h.lookup o.params_nodup hb, ?_⟩
  intro haccepted
  obtain ⟨bound, hbound, hkeys, hholds⟩ := h.exists_bound haccepted
  have hcursor := checkCursor_values blocks
  rw [← h.advance_eq o.params_nodup] at hcursor
  constructor
  · intro hplain
    have hzero : dashedCount blocks = 0 := by
      apply List.countP_eq_zero.mpr
      intro v hv
      obtain ⟨b, hb, hvb⟩ := List.mem_flatMap.mp hv
      simpa using hplain b hb v hvb
    rw [if_pos hzero] at hcursor
    exact ⟨_, bind_eq_ok_iff.mpr ⟨bound, hbound, checkCursor_eq_ok_iff.mp hcursor, rfl⟩,
      hkeys, hholds⟩
  · rintro ⟨b, hb, v, hv, hdashed⟩
    have hpos : 0 < dashedCount blocks :=
      List.countP_pos_iff.mpr ⟨v, List.mem_flatMap.mpr ⟨b, hb, hv⟩, decide_eq_true hdashed⟩
    rw [if_neg (Nat.ne_of_gt hpos)] at hcursor
    exact ⟨hpos, bind_eq_error_iff.mpr (Or.inr ⟨bound, _, hbound, hcursor, rfl⟩)⟩

end Bind

/-- Written as `--page intro --extras a b --theme fast`, against the order of declaration. -/
def pageBlocks : List Block := [(page, ["intro"]), (extras, ["a", "b"]), (theme, ["fast"])]

theorem assigns_pageBlocks : Assigns render.params pageBlocks := by
  constructor
  case complete => exact @List.perm_append_comm _ [page, extras] [theme]
  case single => simp [pageBlocks, page, extras, theme, plain]
  case undoubled => decide +kernel

theorem render_assigned :
    Assigns render.params pageBlocks ∧ (∀ b ∈ pageBlocks, Accepted b) ∧
      ∃ bound, render.bind (ofTokens (written pageBlocks)) = .ok bound ∧
        bound.params.keys = ["theme", "page", "extras"] ∧
        ∀ b ∈ pageBlocks, Holds bound.params b.1 (rawOf b) := by
  have haccepted : ∀ b ∈ pageBlocks, Accepted b := by
    intro b hb
    simp only [pageBlocks, List.mem_cons, List.not_mem_nil, or_false] at hb
    rcases hb with rfl | rfl | rfl
    · exact accepted_of_identity rfl
    · exact accepted_of_identity rfl
    · exact accepted_of_identity rfl
  exact ⟨assigns_pageBlocks, haccepted,
    ((bind_assigned assigns_pageBlocks).2 haccepted).1 (by decide +kernel)⟩

def distance : Param := plain "by" false false (by decide +kernel)

/-- Shifts a value by a distance, which may be meant to be negative. -/
def shift : Overload Unit where
  help := "Shifts a value."
  params := [distance]
  flags := []
  action := none
  params_nodup := List.nodup_singleton _
  flags_nodup := List.nodup_nil

/-- Negative three is in the group of the marker, but `--by -3` is rejected. -/
theorem dashed_value_rejected :
    Assigns shift.params [(distance, ["-3"])] ∧ Accepted (distance, ["-3"]) ∧
      (ofTokens ["--by", "-3"]).named.lookup "by" = some ["-3"] ∧
      written [(distance, ["-3"])] = ["--by", "-3"] ∧
      shift.bind (ofTokens ["--by", "-3"]) = .error ⟨"Shifts a value.", .surplus 1⟩ := by
  refine ⟨?_, accepted_of_identity rfl, by decide +kernel, by decide +kernel, ?_⟩
  · constructor
    case complete => exact List.Perm.refl _
    case single => simp
    case undoubled => decide +kernel
  · rfl

end CommandShell.NamedAssignment
