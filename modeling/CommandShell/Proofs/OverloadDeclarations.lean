import CommandShell.Overload
import CommandShell.Proofs.Readings
import Mathlib.Data.List.TakeWhile

/-!
What the constructor of overloads accepts, and which error the rest gives. The help must be a
text with something in it, parameters and flags are lists that are read in order, and an action
must be callable. An overload is built exactly if its declaration is well formed, and holds what
was declared. Any other declaration gives the error of its first check that fails.
-/
namespace CommandShell.OverloadDeclarations

open Text Readings

section Overloads

variable {α : Type} {help : Value} {params flags : Members} {action : Slot α}

theorem trim_eq_empty_iff (text : String) :
    trim text = "" ↔ ∀ c ∈ text.toList, isBlank c = true := by
  have hempty : trim text = "" ↔ trimLeft (trimLeft text.toList).reverse = [] := by
    rw [← String.toList_eq_nil_iff, trim, String.toList_ofList, trimRight, List.reverse_eq_nil_iff]
  rw [hempty, trimLeft, List.dropWhile_eq_nil_iff]
  constructor
  · intro h c hc
    rw [← List.takeWhile_append_dropWhile (p := isBlank) (l := text.toList)] at hc
    rcases List.mem_append.mp hc with hc | hc
    · exact List.mem_takeWhile_imp hc
    · exact h c (List.mem_reverse.mpr hc)
  · intro h c hc
    exact h c ((List.dropWhile_sublist _).mem (List.mem_reverse.mp hc))

def HelpGiven (help : Value) : Prop :=
  ∃ text, help = .text text ∧ ∃ c ∈ text.toList, isBlank c = false

inductive HelpRefused : Value → Overload.Error → Prop where
  | notText {v : Value} (h : v.isText = false) : HelpRefused v .helpNotText
  | blank {text : String} (h : ∀ c ∈ text.toList, isBlank c = true) :
      HelpRefused (.text text) .helpEmpty

theorem checkHelp_eq_ok_iff {s : String} : Overload.checkHelp help = .ok s ↔
    ∃ text, help = .text text ∧ (∃ c ∈ text.toList, isBlank c = false) ∧ s = trim text := by
  cases help with
  | text t =>
    have hshown : (∃ c ∈ t.toList, isBlank c = false) ↔ trim t ≠ "" := by
      simp [trim_eq_empty_iff]
    rw [Overload.checkHelp]
    constructor
    · intro h
      split at h
      case isTrue => cases h
      case isFalse hne =>
        cases h
        exact ⟨t, rfl, hshown.mpr hne, rfl⟩
    · rintro ⟨text, htext, hsome, rfl⟩
      cases htext
      rw [if_neg (hshown.mp hsome)]
  | _ => simp [Overload.checkHelp]

theorem checkHelp_eq_error_iff {e : Overload.Error} :
    Overload.checkHelp help = .error e ↔ HelpRefused help e := by
  constructor
  · intro h
    cases help with
    | text t =>
      rw [Overload.checkHelp] at h
      split at h
      case isTrue hempty =>
        cases h
        exact .blank ((trim_eq_empty_iff t).mp hempty)
      case isFalse => cases h
    | _ =>
      cases h
      exact .notText rfl
  · rintro (h | h)
    · cases help with
      | text t => cases h
      | _ => rfl
    · rw [Overload.checkHelp, if_pos ((trim_eq_empty_iff _).mpr h)]

section Members

variable {β : Type} {kind : DescriptorKind} {pick : Member → Option β} {name : β → String}

/-- Members of one kind, with distinct names. -/
def MembersGiven (embed : β → Member) (name : β → String) (members : Members) : Prop :=
  ∃ ms : List β, members = .items (ms.map embed) ∧ (ms.map name).Nodup

def memberReading (kind : DescriptorKind) (pick : Member → Option β) (name : β → String) :
    Reading Member β Overload.Error where
  read m :=
    match pick m with
    | some b => .ok b
    | none => .error (.foreignMember kind)
  name := name
  repeated := .duplicateMember kind

inductive MembersRefused (kind : DescriptorKind) (pick : Member → Option β)
    (name : β → String) : Members → Overload.Error → Prop where
  | notIterable : MembersRefused kind pick name .notIterable (.membersNotIterable kind)
  | offence {ms : List Member} {e : Overload.Error}
      (h : (memberReading kind pick name).FirstOffence [] ms e) :
      MembersRefused kind pick name (.items ms) e

theorem checkMembers_eq_check (seen : List String) (ms : List Member) :
    (Overload.checkMembers kind pick name seen ms).map Subtype.val =
      (memberReading kind pick name).check seen ms := by
  induction ms generalizing seen with
  | nil => rfl
  | cons m rest ih =>
    rw [Overload.checkMembers, Reading.check]
    cases hpick : pick m with
    | none => simp [memberReading, hpick, Except.map, bind, Except.bind]
    | some b =>
      have hread : (memberReading kind pick name).read m = .ok b := by
        simp [memberReading, hpick]
      rw [hread]
      simp only [bind, Except.bind]
      rw [← ih]
      by_cases hb : name b ∈ seen
      · simp [memberReading, hb, Except.map]
      · simp only [memberReading, hb, ↓reduceDIte, ↓reduceIte]
        cases Overload.checkMembers kind pick name (name b :: seen) rest with
        | error e => rfl
        | ok ms =>
          obtain ⟨bs, hnodup, hfresh⟩ := ms
          rfl

theorem checkAll_items (ms : List Member) :
    (Overload.checkAll kind pick name (.items ms)).map Subtype.val =
      (memberReading kind pick name).check [] ms := by
  rw [← checkMembers_eq_check, Overload.checkAll]
  cases Overload.checkMembers kind pick name [] ms <;> rfl

theorem checkAll_eq_ok_iff {embed : β → Member} (hpick : ∀ m b, pick m = some b ↔ m = embed b)
    {members : Members} {ms : { ms : List β // (ms.map name).Nodup }} :
    Overload.checkAll kind pick name members = .ok ms ↔ members = .items (ms.1.map embed) := by
  have hread : ∀ m b, (memberReading kind pick name).read m = .ok b ↔ m = embed b ∧ True := by
    intro m b
    rw [and_true, ← hpick]
    cases hm : pick m <;> simp [memberReading, hm]
  cases members with
  | notIterable => simp [Overload.checkAll]
  | items given =>
    rw [← map_val_eq_ok_iff, checkAll_items, Reading.check_eq_ok_iff List.nodup_nil]
    constructor
    · rintro ⟨hkept, _⟩
      rw [((Reading.map_read_eq_iff hread).mp hkept).1]
    · intro hgiven
      cases hgiven
      exact ⟨(Reading.map_read_eq_iff hread).mpr ⟨rfl, fun _ _ => trivial⟩, ms.2⟩

theorem checkAll_eq_error_iff {members : Members} {e : Overload.Error} :
    Overload.checkAll kind pick name members = .error e ↔
      MembersRefused kind pick name members e := by
  cases members with
  | notIterable =>
    constructor
    · intro h
      cases h
      exact .notIterable
    · rintro ⟨⟩
      rfl
  | items given =>
    rw [← map_eq_error_iff, checkAll_items, Reading.check_eq_error_iff List.nodup_nil]
    constructor
    · exact .offence
    · rintro ⟨⟩
      assumption

end Members

theorem param?_eq_some_iff (m : Member) (p : Param) : m.param? = some p ↔ m = .param p := by
  cases m <;> simp [Member.param?]

theorem flag?_eq_some_iff (m : Member) (f : Flag) : m.flag? = some f ↔ m = .flag f := by
  cases m <;> simp [Member.flag?]

def slotOf : Option α → Slot α
  | none => .unset
  | some f => .callable f

theorem checkAction_eq_ok_iff {a : Option α} :
    Overload.checkAction action = .ok a ↔ action = slotOf a := by
  cases action <;> cases a <;> simp [Overload.checkAction, slotOf]

/-- What an overload holds: the trimmed help, and the rest as it was given. -/
structure DeclaredOverload (help : Value) (params flags : Members) (action : Slot α)
    (o : Overload α) : Prop where
  help : ∃ text, help = .text text ∧ (∃ c ∈ text.toList, isBlank c = false) ∧ o.help = trim text
  params : params = .items (o.params.map .param)
  flags : flags = .items (o.flags.map .flag)
  action : action = slotOf o.action

structure WellFormedOverload (help : Value) (params flags : Members) (action : Slot α) : Prop where
  help : HelpGiven help
  params : MembersGiven .param (fun p => p.name) params
  flags : MembersGiven .flag (fun f => f.name) flags
  action : action = .unset ∨ ∃ f, action = .callable f

/-- The help is checked first, then the parameters, the flags and the action. -/
inductive RefusedOverload (help : Value) (params flags : Members) (action : Slot α) :
    Overload.Error → Prop where
  | help {e : Overload.Error} (h : HelpRefused help e) : RefusedOverload help params flags action e
  | params {e : Overload.Error} (hhelp : HelpGiven help)
      (h : MembersRefused .param Member.param? (fun p => p.name) params e) :
      RefusedOverload help params flags action e
  | flags {e : Overload.Error} (hhelp : HelpGiven help)
      (hparams : MembersGiven .param (fun p => p.name) params)
      (h : MembersRefused .flag Member.flag? (fun f => f.name) flags e) :
      RefusedOverload help params flags action e
  | action (hhelp : HelpGiven help) (hparams : MembersGiven .param (fun p => p.name) params)
      (hflags : MembersGiven .flag (fun f => f.name) flags) (h : action = .other) :
      RefusedOverload help params flags action .actionNotCallable

theorem exists_checkHelp_iff : (∃ s, Overload.checkHelp help = .ok s) ↔ HelpGiven help := by
  simp only [checkHelp_eq_ok_iff, HelpGiven]
  constructor
  · rintro ⟨_, text, hhelp, hsome, _⟩
    exact ⟨text, hhelp, hsome⟩
  · rintro ⟨text, hhelp, hsome⟩
    exact ⟨_, text, hhelp, hsome, rfl⟩

theorem exists_checkAll_iff {β : Type} {kind : DescriptorKind} {pick : Member → Option β}
    {name : β → String} {embed : β → Member} (hpick : ∀ m b, pick m = some b ↔ m = embed b)
    {members : Members} :
    (∃ ms, Overload.checkAll kind pick name members = .ok ms) ↔
      MembersGiven embed name members := by
  simp only [checkAll_eq_ok_iff hpick, MembersGiven]
  constructor
  · rintro ⟨⟨ms, hnodup⟩, hmembers⟩
    exact ⟨ms, hmembers, hnodup⟩
  · rintro ⟨ms, hmembers, hnodup⟩
    exact ⟨⟨ms, hnodup⟩, hmembers⟩

theorem exists_checkParams_iff :
    (∃ ps, Overload.checkAll .param Member.param? (fun p => p.name) params = .ok ps) ↔
      MembersGiven .param (fun p => p.name) params :=
  exists_checkAll_iff param?_eq_some_iff

theorem exists_checkFlags_iff :
    (∃ fs, Overload.checkAll .flag Member.flag? (fun f => f.name) flags = .ok fs) ↔
      MembersGiven .flag (fun f => f.name) flags :=
  exists_checkAll_iff flag?_eq_some_iff

theorem overload_make_eq_ok_iff {o : Overload α} :
    Overload.make help params flags action = .ok o ↔
      DeclaredOverload help params flags action o := by
  simp only [Overload.make, bind_eq_ok_iff, checkHelp_eq_ok_iff,
    checkAll_eq_ok_iff param?_eq_some_iff, checkAll_eq_ok_iff flag?_eq_some_iff,
    checkAction_eq_ok_iff]
  constructor
  · rintro ⟨_, ⟨text, hhelp, hsome, rfl⟩, ps, hps, fs, hfs, a, ha, ho⟩
    cases ho
    exact ⟨⟨text, hhelp, hsome, rfl⟩, hps, hfs, ha⟩
  · rintro ⟨hhelp, hparams, hflags, haction⟩
    exact ⟨o.help, hhelp, ⟨o.params, o.params_nodup⟩, hparams, ⟨o.flags, o.flags_nodup⟩, hflags,
      o.action, haction, rfl⟩

theorem exists_overload_iff :
    (∃ o : Overload α, DeclaredOverload help params flags action o) ↔
      WellFormedOverload help params flags action := by
  constructor
  · rintro ⟨o, ⟨text, hhelp, hsome, _⟩, hparams, hflags, haction⟩
    refine ⟨⟨text, hhelp, hsome⟩, ⟨_, hparams, o.params_nodup⟩, ⟨_, hflags, o.flags_nodup⟩, ?_⟩
    rw [haction]
    cases o.action with
    | none => exact Or.inl rfl
    | some f => exact Or.inr ⟨f, rfl⟩
  · rintro ⟨⟨text, hhelp, hsome⟩, ⟨ps, hparams, hps⟩, ⟨fs, hflags, hfs⟩, haction⟩
    rcases haction with rfl | ⟨f, rfl⟩
    · exact ⟨⟨trim text, ps, fs, none, hps, hfs⟩, ⟨text, hhelp, hsome, rfl⟩, hparams, hflags, rfl⟩
    · exact ⟨⟨trim text, ps, fs, some f, hps, hfs⟩, ⟨text, hhelp, hsome, rfl⟩, hparams, hflags, rfl⟩

theorem overload_make_eq_error_iff {e : Overload.Error} :
    Overload.make help params flags action = .error e ↔
      RefusedOverload help params flags action e := by
  simp only [Overload.make, bind_eq_error_iff, checkHelp_eq_error_iff, checkAll_eq_error_iff]
  constructor
  · rintro (h | ⟨s, hs, h | ⟨ps, hps, h | ⟨fs, hfs, h | ⟨_, _, h⟩⟩⟩⟩)
    · exact .help h
    · exact .params (exists_checkHelp_iff.mp ⟨s, hs⟩) h
    · exact .flags (exists_checkHelp_iff.mp ⟨s, hs⟩) (exists_checkParams_iff.mp ⟨ps, hps⟩) h
    · cases action with
      | other =>
        cases h
        exact .action (exists_checkHelp_iff.mp ⟨s, hs⟩) (exists_checkParams_iff.mp ⟨ps, hps⟩)
          (exists_checkFlags_iff.mp ⟨fs, hfs⟩) rfl
      | _ => cases h
    · cases h
  · intro h
    cases h with
    | help h => exact Or.inl h
    | params hhelp h =>
      obtain ⟨s, hs⟩ := exists_checkHelp_iff.mpr hhelp
      exact Or.inr ⟨s, hs, Or.inl h⟩
    | flags hhelp hparams h =>
      obtain ⟨s, hs⟩ := exists_checkHelp_iff.mpr hhelp
      obtain ⟨ps, hps⟩ := exists_checkParams_iff.mpr hparams
      exact Or.inr ⟨s, hs, Or.inr ⟨ps, hps, Or.inl h⟩⟩
    | action hhelp hparams hflags h =>
      obtain ⟨s, hs⟩ := exists_checkHelp_iff.mpr hhelp
      obtain ⟨ps, hps⟩ := exists_checkParams_iff.mpr hparams
      obtain ⟨fs, hfs⟩ := exists_checkFlags_iff.mpr hflags
      exact Or.inr ⟨s, hs, Or.inr ⟨ps, hps, Or.inr ⟨fs, hfs, Or.inl (by rw [h]; rfl)⟩⟩⟩

/-- What becomes of the declaration of an overload. -/
structure CheckedOverload (help : Value) (params flags : Members) (action : Slot α) : Prop where
  accepted : (∃ o, Overload.make help params flags action = .ok o) ↔
    WellFormedOverload help params flags action
  built : ∀ o, Overload.make help params flags action = .ok o ↔
    DeclaredOverload help params flags action o
  refused : ∀ e, Overload.make help params flags action = .error e ↔
    RefusedOverload help params flags action e

end Overloads

end CommandShell.OverloadDeclarations
