import CommandShell.Proofs.Globs

/-!
The root of a glob. It is made of the identifiers at the front of the glob, as many as there
are. An identifier stands for itself alone, so every name that a glob matches is its root or
lies below it.
-/
namespace CommandShell.GlobRoots

open Text Text.Expression Glob Globs
open CommandShell.Path (splitDots)

/-- The identifiers at the front of a glob. -/
def concretes (source : String) : List (List Char) :=
  (splitDots source.toList).takeWhile isIdentifier

theorem ne_nil_of_isIdentifier {name : List Char} (h : isIdentifier name = true) : name ≠ [] := by
  rintro rfl
  cases h

section Front

variable {segments rest : List (List Char)} {s text : List Char}

/-- Neither a dot nor the end stands in front of a word character. -/
theorem rests_stop_of_isWord {c : Char} (hc : isWord c = true) :
    (either dot ending).rests (c :: text) = [] := by
  have hdot : c ≠ '.' := ne_of_isWord hc (by decide)
  have hnewline : c ≠ '\n' := ne_of_isWord hc (by decide)
  simp [rests, dot, Letter.accepts, hdot, hnewline]

/-- Only the whole run of word characters may be followed by a dot or by the end. -/
theorem rests_word_stop (text : List Char) :
    ((many (one .word)).rests text).flatMap (either dot ending).rests =
      (either dot ending).rests (text.dropWhile isWord) := by
  induction text with
  | nil => rfl
  | cons c text ih =>
    rw [rests_many, rests]
    by_cases hc : isWord c = true
    · have hone : ([text].filter fun rest => rest.length < (c :: text).length) = [text] := by simp
      rw [Letter.accepts, if_pos hc, hone, List.flatMap_singleton, List.flatMap_append, ih,
        List.flatMap_singleton, rests_stop_of_isWord hc, List.append_nil, List.dropWhile_cons,
        if_pos hc]
    · rw [Letter.accepts, if_neg hc, List.filter_nil, List.flatMap_nil, List.nil_append,
        List.flatMap_singleton, List.dropWhile_cons, if_neg hc]

theorem rests_step_cons (c : Char) (text : List Char) :
    (seq identifier (either dot ending)).rests (c :: text) =
      if isWord c && !isDecimal c then (either dot ending).rests (text.dropWhile isWord)
      else [] := by
  rw [← rests_word_stop, rests, identifier, rests, rests]
  cases hdecimal : isDecimal c with
  | true => simp [Letter.accepts, hdecimal]
  | false =>
    cases hword : isWord c with
    | true => simp [rests, Letter.accepts, hdecimal, hword]
    | false => simp [rests, Letter.accepts, hdecimal, hword]

theorem rests_stop_behindDots (rest : List (List Char)) :
    (either dot ending).rests (behindDots rest) = [joined rest] := by
  cases rest with
  | nil => rfl
  | cons r rest => simp [behindDots_cons, rests, dot, Letter.accepts, joined_cons]

theorem dropWhile_behindDots (rest : List (List Char)) :
    (behindDots rest).dropWhile isWord = behindDots rest := by
  have hdot : isWord '.' = false := by decide
  cases rest with
  | nil => rfl
  | cons r rest => rw [behindDots_cons, List.dropWhile_cons, hdot, if_neg Bool.false_ne_true]

/-- Behind the word characters of a segment stands its end, if they are the whole segment. -/
theorem rests_stop_dropWhile (hfree : '.' ∉ s)
    (hend : (s ++ behindDots rest).getLast? ≠ some '\n') :
    (either dot ending).rests ((s ++ behindDots rest).dropWhile isWord) =
      if s.all isWord then [joined rest] else [] := by
  rw [List.dropWhile_append]
  cases hrun : s.dropWhile isWord with
  | nil =>
    have hall : s.all isWord = true :=
      List.all_eq_true.mpr (List.dropWhile_eq_nil_iff.mp hrun)
    rw [List.isEmpty_nil, if_pos rfl, dropWhile_behindDots, rests_stop_behindDots, hall, if_pos rfl]
  | cons d more =>
    obtain ⟨front, hfront⟩ := List.dropWhile_suffix (p := isWord) (l := s)
    rw [hrun] at hfront
    have hd : isWord d = false := by
      have hhead := List.head_dropWhile_not isWord (l := s) (by simp [hrun])
      simpa only [hrun, List.head_cons] using hhead
    have hnot : s.all isWord = false :=
      List.all_eq_false.mpr ⟨d, by simp [← hfront], by simp [hd]⟩
    have hdot : d ≠ '.' := by
      rintro rfl
      exact hfree (by simp [← hfront])
    have hnewline : ¬ d :: more ++ behindDots rest = ['\n'] := by
      intro hlast
      rw [← hfront, List.append_assoc, hlast] at hend
      exact hend List.getLast?_concat
    rw [List.isEmpty_cons, if_neg Bool.false_ne_true, hnot, if_neg Bool.false_ne_true]
    simp [rests, dot, Letter.accepts, hdot]
    simpa using hnewline

/-- One step takes the first segment with the dot behind it, if that segment is an
identifier. -/
theorem rests_step (hfree : '.' ∉ s) (hend : (s ++ behindDots rest).getLast? ≠ some '\n') :
    (seq identifier (either dot ending)).rests (s ++ behindDots rest) =
      if isIdentifier s then [joined rest] else [] := by
  cases s with
  | nil =>
    rw [isIdentifier, if_neg Bool.false_ne_true, List.nil_append]
    cases rest with
    | nil => rfl
    | cons r rest =>
      have hdot : isWord '.' = false := by decide
      rw [behindDots_cons, rests_step_cons, hdot]
      rfl
  | cons c run =>
    rw [List.cons_append, rests_step_cons, isIdentifier]
    cases hfirst : isWord c && !isDecimal c with
    | false => rfl
    | true =>
      -- the first character is a word character, so what follows it may be read as a segment
      have hword : isWord c = true := (Bool.and_eq_true_iff.mp hfirst).1
      have hstop := rests_stop_dropWhile hfree hend
      rw [List.cons_append, List.dropWhile_cons, if_pos hword, List.all_cons, hword] at hstop
      rw [if_pos rfl, hstop]

/-- Without the dot in front of it, a text of segments is no longer. -/
theorem length_joined_le (segments : List (List Char)) :
    (joined segments).length ≤ (behindDots segments).length := by
  cases segments with
  | nil => exact Nat.le_refl 0
  | cons s rest =>
    rw [joined_cons, behindDots_cons]
    exact Nat.le_succ _

/-- The newline that ends a text also ends it behind a first segment. -/
theorem getLast?_append_behindDots (h : (joined rest).getLast? = some '\n') :
    (s ++ behindDots rest).getLast? = some '\n' := by
  cases rest with
  | nil => cases h
  | cons r rest =>
    rw [behindDots_cons, ← joined_cons, List.getLast?_append, List.getLast?_cons, h]
    rfl

/-- The front of a glob ends where the first segment stands that is no identifier. -/
theorem head?_rests_front (hfree : ∀ s ∈ segments, '.' ∉ s)
    (hend : (joined segments).getLast? ≠ some '\n') :
    (front.rests (joined segments)).head? = some (joined (segments.dropWhile isIdentifier)) := by
  induction segments with
  | nil => rfl
  | cons s rest ih =>
    obtain ⟨hs, hrest⟩ := List.forall_mem_cons.mp hfree
    rw [joined_cons] at hend ⊢
    rw [front, rests_many, rests_step hs hend, List.dropWhile_cons]
    cases hname : isIdentifier s with
    | false =>
      rw [if_neg Bool.false_ne_true, if_neg Bool.false_ne_true, joined_cons]
      rfl
    | true =>
      have hlast : (joined rest).getLast? ≠ some '\n' := fun h => hend (getLast?_append_behindDots h)
      have hshorter : (joined rest).length < (s ++ behindDots rest).length := by
        have hpos : 0 < s.length := List.length_pos_iff.mpr (ne_nil_of_isIdentifier hname)
        have hdots := length_joined_le rest
        rw [List.length_append]
        omega
      have hstep : [joined rest].filter (fun rest' => rest'.length < (s ++ behindDots rest).length) =
          [joined rest] := by simp only [hshorter, List.filter_cons_of_pos, List.filter_nil, decide_true]
      rw [if_pos rfl, if_pos rfl, hstep, List.flatMap_singleton, List.head?_append, ← front,
        ih hrest hlast, Option.some_or]

end Front

section Root

variable {source name : String} {segments names : List (List Char)} {pattern s text : List Char}

theorem trimDots_concat (text : List Char) : trimDots (text ++ ['.']) = trimDots text := by
  rw [trimDots, List.reverse_concat, List.dropWhile_cons, if_pos (by decide), trimDots]

theorem trimDots_of_getLast? (h : text.getLast? ≠ some '.') : trimDots text = text := by
  rw [trimDots]
  rcases List.eq_nil_or_concat' text with rfl | ⟨front, last, rfl⟩
  · rfl
  · have hlast : ¬ (last == '.') = true := by
      intro hdot
      rw [List.getLast?_concat, eq_of_beq hdot] at h
      exact h rfl
    rw [List.reverse_concat, List.dropWhile_cons, if_neg hlast, List.reverse_cons,
      List.reverse_reverse]

theorem trimDots_joined (h : ∀ s ∈ segments, isIdentifier s = true) :
    trimDots (joined segments) = joined segments := by
  rcases List.eq_nil_or_concat' segments with rfl | ⟨front, last, rfl⟩
  · rfl
  · have hlast : isIdentifier last = true := h last (by simp)
    have hsuffix : ∃ before, joined (front ++ [last]) = before ++ last := by
      cases front with
      | nil => exact ⟨[], List.append_nil last⟩
      | cons s front =>
        refine ⟨s ++ behindDots front ++ ['.'], ?_⟩
        rw [List.cons_append, joined_cons, behindDots_append]
        simp [behindDots]
    obtain ⟨before, hbefore⟩ := hsuffix
    apply trimDots_of_getLast?
    rw [hbefore, List.getLast?_append_of_ne_nil _ (ne_nil_of_isIdentifier hlast)]
    exact fun hdot => notMem_dot_of_isIdentifier hlast (List.mem_of_getLast? hdot)

/-- The front of a glob is given with the dot that ends it. -/
theorem trimDots_take (front back : List (List Char)) (h : ∀ s ∈ front, isIdentifier s = true) :
    trimDots ((joined (front ++ back)).take
      ((joined (front ++ back)).length - (joined back).length)) = joined front := by
  cases back with
  | nil =>
    have hall : (joined front).length - (joined []).length = (joined front).length := rfl
    rw [List.append_nil, hall, List.take_length, trimDots_joined h]
  | cons b back =>
    cases front with
    | nil => rw [List.nil_append, Nat.sub_self, List.take_zero]; rfl
    | cons s front =>
      have hsplit : joined (s :: front ++ b :: back) =
          (joined (s :: front) ++ ['.']) ++ joined (b :: back) := by
        rw [List.cons_append, joined_cons, behindDots_append, behindDots_cons, joined_cons,
          joined_cons]
        simp
      rw [hsplit, List.length_append, Nat.add_sub_cancel, List.take_left, trimDots_concat,
        trimDots_joined h]

/-- The root of a glob, with its dots, is made of the identifiers at the front. -/
theorem toList_root (hend : source.toList.getLast? ≠ some '\n') :
    (root source).toList = joined (concretes source) := by
  have hsource := joined_splitDots source.toList
  obtain ⟨first, rest, hsplit, -, hfree⟩ := exists_splitDots source.toList
  rw [← hsplit] at hfree
  rw [← hsource] at hend
  have hhead := head?_rests_front hfree hend
  have htake := trimDots_take (concretes source)
    ((splitDots source.toList).dropWhile isIdentifier) fun s hs => List.mem_takeWhile_imp hs
  rw [concretes, List.takeWhile_append_dropWhile, ← concretes] at htake
  rw [root, String.toList_ofList, taken?, ← htake]
  rw [hsource] at hhead ⊢
  rw [hhead]
  rfl

theorem eq_of_segmentMatches (hstar : '*' ∉ pattern) (hmark : '?' ∉ pattern)
    (h : SegmentMatches pattern s) : s = pattern := by
  induction h with
  | done => rfl
  | run _ _ _ => exact absurd List.mem_cons_self hstar
  | any _ _ _ => exact absurd List.mem_cons_self hmark
  | same _ _ _ ih =>
    rw [ih (mt (List.mem_cons_of_mem _) hstar) (mt (List.mem_cons_of_mem _) hmark)]

/-- Identifiers at the front of a glob stand for themselves. -/
theorem exists_of_globMatches (h : GlobMatches segments names) :
    ∃ more, names = segments.takeWhile isIdentifier ++ more := by
  have hstar : isWord '*' = false := by decide
  have hmark : isWord '?' = false := by decide
  induction h with
  | done => exact ⟨[], rfl⟩
  | @deep glob inner rest hinner h ih =>
    have hdeep : isIdentifier ['*', '*'] = false := by
      rw [isIdentifier, hstar]
      rfl
    exact ⟨inner ++ rest, by rw [List.takeWhile_cons, hdeep]; rfl⟩
  | @segment pattern segment glob rest hpattern hsegment h ih =>
    rw [List.takeWhile_cons]
    cases hname : isIdentifier pattern with
    | false => exact ⟨segment :: rest, rfl⟩
    | true =>
      obtain ⟨more, rfl⟩ := ih
      obtain rfl := eq_of_segmentMatches (notMem_of_isIdentifier hname hstar)
        (notMem_of_isIdentifier hname hmark) hsegment
      exact ⟨more, rfl⟩

/-- A name that a glob stands for is the root of the glob or lies below it. -/
theorem eq_root_or_below (hend : source.toList.getLast? ≠ some '\n') (hne : concretes source ≠ [])
    (h : GlobMatches (splitDots source.toList) (splitDots name.toList)) :
    name = root source ∨ ∃ below, name = root source ++ "." ++ below := by
  obtain ⟨more, hmore⟩ := exists_of_globMatches h
  have hroot := toList_root hend
  obtain ⟨first, rest, hcons⟩ := List.exists_cons_of_ne_nil hne
  have hname : name.toList = joined (concretes source) ++ behindDots more := by
    rw [← joined_splitDots name.toList, hmore, ← concretes, hcons, List.cons_append, joined_cons,
      joined_cons, behindDots_append, List.append_assoc]
  cases more with
  | nil =>
    left
    rw [← String.toList_inj, hname, hroot]
    exact List.append_nil _
  | cons m more =>
    right
    refine ⟨String.ofList (joined (m :: more)), ?_⟩
    rw [← String.toList_inj, hname, String.toList_append, String.toList_append, hroot,
      List.append_assoc, String.toList_ofList, String.toList_ofList, joined_cons]
    rfl

end Root

end CommandShell.GlobRoots
