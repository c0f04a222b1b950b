import CommandShell.Proofs.OrderedScan
import CommandShell.Proofs.Spelling

/-!
Names of parameters and flags on a line. A declared name is trimmed, and it holds only word
characters and hyphens and begins with a letter. So it is plain behind any hyphens: its marker
and its flag are one token each, which classification reads as this name and nothing else. The
name is no key of the line, and it is declared unchanged when it is declared again.
-/
namespace CommandShell.DeclaredNames

open Text Token Spelling OrderedScan

section Names

theorem isPlain_of_isName {name : List Char} (h : Descriptor.isName name = true) :
    ∀ c ∈ name, isPlain c = true := by
  intro c hc
  rcases Bool.or_eq_true_iff.mp (Descriptor.isWord_or_hyphen_of_isName h hc) with hword | hhyphen
  · have hquote : c ≠ '"' := ne_of_isWord hword (by decide)
    have hslash : c ≠ '\\' := ne_of_isWord hword (by decide)
    simp [isPlain, hquote, hslash, isBlank_eq_false_of_isWord hword]
  · obtain rfl : c = '-' := by simpa using hhyphen
    decide

theorem trim_of_isName {name : String} (h : Descriptor.isName name.toList = true) :
    trim name = name := by
  apply trim_eq_self
  intro c hc
  have hplain := isPlain_of_isName h c hc
  simp only [isPlain, Bool.and_eq_true, Bool.not_eq_true'] at hplain
  exact hplain.2

/-- Plain characters in front of a name, such as hyphens, stay with it. -/
theorem tokenize_append_name {front name : String} (hfront : ∀ c ∈ front.toList, isPlain c = true)
    (h : Descriptor.isName name.toList = true) : tokenize (front ++ name) = [front ++ name] := by
  apply tokenize_plain
  · intro hempty
    obtain rfl : name = "" := (String.append_eq_empty_iff.mp hempty).2
    cases h
  · intro c hc
    rw [String.toList_append] at hc
    rcases List.mem_append.mp hc with hc | hc
    · exact hfront c hc
    · exact isPlain_of_isName h c hc

theorem ofTokens_marker (name : String) :
    Classified.ofTokens [marker name] = ⟨[(name, [])], [], []⟩ := by
  simp [Classified.ofTokens, shape_marker, Classified.openGroup, Classified.group]

theorem ofTokens_flag {name : String} (h : Descriptor.isName name.toList = true) :
    Classified.ofTokens ["-" ++ name] = ⟨[], [name], []⟩ := by
  have hshape : Shape.of ("-" ++ name) = .flag name := (shape_eq_flag_iff h).mpr rfl
  simp [Classified.ofTokens, hshape]

end Names

section Declarations

variable {name description optional variadic : Value} {parser : Slot Parser}

/-- Written on a line, a declared name is one token that reads as `reading`. It is the text that
was given for it with nothing left to trim, and no key of the line. -/
structure Writes (given : Value) (name token : String) (reading : Classified) : Prop where
  given : ∃ text, given = .text text ∧ name = trim text
  tokens : tokenize token = [token]
  classified : Classified.ofTokens [token] = reading
  not_raw : name ≠ Binding.rawKey
  not_tokens : name ≠ Binding.tokensKey
  trimmed : trim name = name

theorem make_eq_ok_iff {d : Descriptor} : Descriptor.make name description = .ok d ↔
    ∃ text, name = .text text ∧ d.name = trim text ∧
      Descriptor.checkDescription description = .ok d.description := by
  constructor
  · intro h
    unfold Descriptor.make at h
    split at h
    case h_2 => cases h
    case h_1 text =>
      split at h
      · cases h
      · split at h
        · cases hdescription : Descriptor.checkDescription description with
          | error e =>
            rw [hdescription] at h
            cases h
          | ok checked =>
            rw [hdescription] at h
            cases h
            exact ⟨text, rfl, rfl, rfl⟩
        · cases h
  · rintro ⟨text, rfl, hname, hdescription⟩
    obtain ⟨kept, checked, hvalid⟩ := d
    obtain rfl : kept = trim text := hname
    have hne : trim text ≠ "" := by
      intro hempty
      rw [hempty] at hvalid
      cases hvalid
    simp [Descriptor.make, hne, hvalid, hdescription, Except.map]

/-- A name that was declared is declared again as it stands. -/
theorem make_again {d : Descriptor} (h : Descriptor.make name description = .ok d) :
    Descriptor.make (.text d.name) description = .ok d := by
  obtain ⟨_, _, _, hdescription⟩ := make_eq_ok_iff.mp h
  exact make_eq_ok_iff.mpr ⟨d.name, rfl, (trim_of_isName d.name_valid).symm, hdescription⟩

theorem descriptor_of_make {p : Param}
    (h : Param.make name description optional variadic parser = .ok p) :
    Descriptor.make name description = .ok p.toDescriptor := by
  unfold Param.make at h
  cases hmake : Descriptor.make name description with
  | error e =>
    rw [hmake] at h
    cases h
  | ok d =>
    rw [hmake] at h
    cases parser with
    | unset =>
      cases h
      rfl
    | callable f =>
      cases h
      rfl
    | other => cases h

theorem param_again {p : Param}
    (h : Param.make name description optional variadic parser = .ok p) :
    Param.make (.text p.name) description optional variadic parser = .ok p := by
  have hmake := descriptor_of_make h
  rw [Param.make, make_again hmake]
  rwa [Param.make, hmake] at h

theorem writes_of_make {d : Descriptor} (h : Descriptor.make name description = .ok d)
    {front : String} (hfront : ∀ c ∈ front.toList, isPlain c = true) {reading : Classified}
    (hreading : Classified.ofTokens [front ++ d.name] = reading) :
    Writes name d.name (front ++ d.name) reading := by
  obtain ⟨text, hgiven, hname, _⟩ := make_eq_ok_iff.mp h
  obtain ⟨hraw, htokens⟩ := name_ne_lineKeys d
  exact ⟨⟨text, hgiven, hname⟩, tokenize_append_name hfront d.name_valid, hreading, hraw, htokens,
    trim_of_isName d.name_valid⟩

theorem flag_make_eq_ok_iff {f : Flag} :
    Flag.make name description = .ok f ↔ Descriptor.make name description = .ok f.toDescriptor := by
  obtain ⟨kept⟩ := f
  rw [Flag.make]
  cases Descriptor.make name description with
  | error e => simp [Except.map]
  | ok d => simp [Except.map]

/-- Whatever parameter is declared can be given by its marker, and whatever flag by its own
spelling. Declared again under the name that it has, either is the same. -/
theorem writes_declared (name description optional variadic : Value) (parser : Slot Parser) :
    (∀ p, Param.make name description optional variadic parser = .ok p →
      Writes name p.name (marker p.name) ⟨[(p.name, [])], [], []⟩ ∧
        Param.make (.text p.name) description optional variadic parser = .ok p) ∧
      ∀ f, Flag.make name description = .ok f →
        Writes name f.name ("-" ++ f.name) ⟨[], [f.name], []⟩ ∧
          Flag.make (.text f.name) description = .ok f := by
  constructor
  · intro p h
    have hmake := descriptor_of_make h
    have hfront : ∀ c ∈ "--".toList, isPlain c = true := List.all_eq_true.mp (by decide)
    exact ⟨writes_of_make hmake hfront (ofTokens_marker p.name), param_again h⟩
  · intro f h
    have hmake := flag_make_eq_ok_iff.mp h
    have hfront : ∀ c ∈ "-".toList, isPlain c = true := List.all_eq_true.mp (by decide)
    exact ⟨writes_of_make hmake hfront (ofTokens_flag f.name_valid),
      flag_make_eq_ok_iff.mpr (make_again hmake)⟩

/-- A name with letters outside ASCII, a digit, a hyphen and blanks around it. -/
theorem writes_size :
    ∃ h, Param.make (.text " größe-2\t") .unset .none (.bool true) .unset =
        .ok ⟨⟨"größe-2", none, h⟩, false, true, Parser.identity⟩ ∧
      Flag.make (.text " größe-2\t") .unset = .ok ⟨⟨"größe-2", none, h⟩⟩ ∧
      Writes (.text " größe-2\t") "größe-2" "--größe-2" ⟨[("größe-2", [])], [], []⟩ ∧
      Writes (.text " größe-2\t") "größe-2" "-größe-2" ⟨[], ["größe-2"], []⟩ := by
  have htrim : trim " größe-2\t" = "größe-2" := by decide +kernel
  have hvalid : Descriptor.isName "größe-2".toList = true := by decide +kernel
  have hmake : Descriptor.make (.text " größe-2\t") .unset = .ok ⟨"größe-2", none, hvalid⟩ :=
    make_eq_ok_iff.mpr ⟨_, rfl, htrim.symm, rfl⟩
  have hparam : Param.make (.text " größe-2\t") .unset .none (.bool true) .unset =
      .ok ⟨⟨"größe-2", none, hvalid⟩, false, true, Parser.identity⟩ := by
    rw [Param.make, hmake]
    rfl
  have hflag : Flag.make (.text " größe-2\t") .unset = .ok ⟨⟨"größe-2", none, hvalid⟩⟩ :=
    flag_make_eq_ok_iff.mpr hmake
  obtain ⟨hparams, hflags⟩ := writes_declared (.text " größe-2\t") .unset .none (.bool true) .unset
  exact ⟨hvalid, hparam, hflag, (hparams _ hparam).1, (hflags _ hflag).1⟩

end Declarations

end CommandShell.DeclaredNames
