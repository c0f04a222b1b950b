import CommandShell.Fault.Rendering
import CommandShell.Proofs.StyledTexts
import CommandShell.TextRecord

/-!
The presentation of a fault. Whether it is fancy and whether it has colour are options of the
fault like any other, and decide nothing about its words: the header, the message and the hint
read the same under every setting. Fancy makes the header a title, and without colour no part
has a style, also where an option holds a styled text. Styled texts that are handed in are taken
to be texts of the toolkit.
-/
namespace CommandShell.FaultPresentation

open StyledTexts Fault Toolkit

/-- What a fault says, apart from its presentation. -/
structure Wording where
  header : String
  message : String
  hint : Option String

namespace Wording

/-- From the top. -/
def lines (w : Wording) : List String := w.header :: w.message :: w.hint.toList

end Wording

/-- What a value reads as in a fault: nothing if it is false, and no control codes. -/
def words (v : Value) : String := if v.truthy then shown v.display else ""

def wording (host : Host) (f : Fault) : Wording where
  header := "[ " ++ words (f.progValue host) ++ " — " ++ words (.text (f.codeText host)) ++ " | " ++
    words (.text f.titleText) ++ " ]"
  message := words (.text (f.message.getD ""))
  hint := ((f.option? "hint").filter Value.truthy).map fun hint => " → " ++ words hint

/-- The setting of the two options that a rendering asks for. -/
def setting (fancy colorful : Value) : Table Value := [("fancy", fancy), ("colorful", colorful)]

/-- If a value is a styled text, it is one of the toolkit. -/
def FromToolkit (R : Toolkit) (v : Value) : Prop := ∀ t, v = .styled t → t ∈ Set.range R.view

/-- The two options that a fault shows as they are handed in. -/
structure Handed (R : Toolkit) (host : Host) (f : Fault) : Prop where
  prog : FromToolkit R (f.progValue host)
  hint : ∀ hint ∈ f.option? "hint", FromToolkit R hint

/-- A header over a body: one below the other, or as the title of a panel around the body. -/
inductive Arranged (R : Toolkit) (header : R.Text) (body : List R.Text) :
    (fancy : Bool) → R.Screen → Prop
  | below : Arranged R header body false (R.group ((header :: body).map R.screen))
  | panel : Arranged R header body true (R.panel (R.group (body.map R.screen)) header)

section Fragments

variable (R : Toolkit) (host : Host) (colorful : Bool)

theorem unstyled_fragment [R.LawfulStyles] (v : Value) (key : String) :
    Unstyled ((fragment host false v key).build R) := by
  unfold fragment
  split
  · rw [Styled.build_make]
    exact unstyled_make ""
  · exact (Styled.build_make R v.display "").symm ▸ unstyled_make v.display

variable [R.LawfulPlain]

/-- A text of the toolkit holds no control codes, so taking its characters alone drops none. -/
theorem reading_fragment {v : Value} (hv : FromToolkit R v) (key : String) :
    reading R (fragment host colorful v key) = words v := by
  have hempty : shown "" = "" := by decide
  unfold fragment words
  cases v.truthy with
  | false => exact (reading_make R "" "").trans hempty
  | true =>
    cases colorful with
    | false => exact reading_make R v.display ""
    | true =>
      cases v with
      | styled t =>
        obtain ⟨x, rfl⟩ := hv t rfl
        exact (reading_given R x).trans (LawfulPlain.shown_plain x).symm
      | _ => exact reading_make R _ _

theorem reading_fragment_text (text key : String) :
    reading R (fragment host colorful (.text text) key) = words (.text text) :=
  reading_fragment R host colorful (fun _ h => by cases h) key

end Fragments

section Parts

variable (R : Toolkit) (host : Host) (f : Fault)

theorem reading_header [R.LawfulPlain] (h : Handed R host f) :
    reading R (f.parts host).header = (wording host f).header := by
  have hopen : shown "[ " = "[ " := by decide
  have hdash : shown " — " = " — " := by decide
  have hbar : shown " | " = " | " := by decide
  have hclose : shown " ]" = " ]" := by decide
  simp only [parts, wording, reading_assemble, List.map_cons, List.map_nil, plainPart_text,
    plainPart_words, reading_fragment R host _ h.prog, reading_fragment_text, hopen, hdash, hbar,
    hclose, String.join_cons, String.join_nil, String.append_assoc, String.append_empty]

theorem reading_message [R.LawfulPlain] :
    reading R (f.parts host).message = (wording host f).message :=
  reading_fragment_text R host _ _ _

theorem reading_hint [R.LawfulPlain] (h : Handed R host f) :
    (f.parts host).hint.map (reading R) = (wording host f).hint := by
  have harrow : words (.text " → ") = " → " := by decide
  rw [parts, wording, Option.map_map]
  apply Option.map_congr
  intro hint hmem
  have hgiven : f.option? "hint" = some hint := (Option.filter_eq_some_iff.mp hmem).1
  simp only [Function.comp_apply, reading_assemble, List.map_cons, List.map_nil, plainPart_text,
    reading_fragment_text, reading_fragment R host _ (h.hint hint hgiven), harrow,
    String.join_cons, String.join_nil, String.append_empty]

/-- A fault is put into words by its message and four of its options. -/
theorem wording_congr {f g : Fault} (hmessage : g.message = f.message)
    (hoptions : ∀ key ∈ ["prog", "code", "title", "hint"], g.option? key = f.option? key) :
    wording host g = wording host f := by
  have hprog : g.option? "prog" = f.option? "prog" := hoptions _ (by simp)
  have hcode : g.option? "code" = f.option? "code" := hoptions _ (by simp)
  have htitle : g.option? "title" = f.option? "title" := hoptions _ (by simp)
  have hhint : g.option? "hint" = f.option? "hint" := hoptions _ (by simp)
  simp only [wording, progValue, codeText, titleText, hmessage, hprog, hcode, htitle, hhint]

end Parts

section Rendered

variable (R : Toolkit) (host : Host) (f : Fault)

/-- The texts below the header, as the toolkit makes them. -/
def body : List R.Text :=
  (f.parts host).message.build R :: ((f.parts host).hint.map (Styled.build R)).toList

theorem body_eq_map : body R host f =
    ((f.parts host).message :: (f.parts host).hint.toList).map (Styled.build R) := by
  rw [body, List.map_cons]
  cases (f.parts host).hint <;> rfl

theorem arranged_render : Arranged R ((f.parts host).header.build R) (body R host f)
    (f.enabled "fancy") ((f.render host).build R) := by
  have hbuild (lines : List Styled) : (lines.map Rendering.text).map (Rendering.build R) =
      (lines.map (Styled.build R)).map R.screen := by
    rw [List.map_map, List.map_map]
    exact List.map_congr_left fun line _ => Rendering.build_text R line
  have hparts : Rendering.text (f.parts host).message :: (f.parts host).hint.toList.map .text =
      ((f.parts host).message :: (f.parts host).hint.toList).map .text := rfl
  rw [render, body_eq_map]
  cases f.enabled "fancy" with
  | false =>
    simp only [Bool.false_eq_true, if_false]
    rw [hparts, ← List.map_cons, Rendering.build_group, hbuild, List.map_cons]
    exact .below
  | true =>
    simp only [if_true]
    rw [hparts, Rendering.build_panel, Rendering.build_group, hbuild]
    exact .panel

theorem texts_of_arranged [R.LawfulScreens] {header : R.Text} {body : List R.Text} {fancy : Bool}
    {r : R.Screen} (h : Arranged R header body fancy r) : R.texts r = header :: body := by
  have hgroup (lines : List R.Text) : R.texts (R.group (lines.map R.screen)) = lines := by
    rw [LawfulScreens.texts_group, List.flatMap_map]
    simp only [LawfulScreens.texts_screen, List.flatMap_singleton']
  cases h with
  | below => exact hgroup _
  | panel => rw [LawfulScreens.texts_panel, hgroup]

/-- Top to bottom, a rendering is the wording of its fault. -/
theorem lines_render [R.LawfulPlain] [R.LawfulScreens] (h : Handed R host f) :
    (R.texts ((f.render host).build R)).map R.plain = (wording host f).lines := by
  rw [texts_of_arranged R (arranged_render R host f), body, Wording.lines, List.map_cons,
    List.map_cons, ← reading_header R host f h, ← reading_message R, ← reading_hint R host f h,
    reading, reading]
  cases (f.parts host).hint <;> rfl

/-- Without colour every piece is unstyled, whatever it shows, and so is what they make up. -/
theorem unstyled_render [R.LawfulStyles] [R.LawfulScreens]
    (hcolour : f.enabled "colorful" = false) :
    ∀ t ∈ R.texts ((f.render host).build R), Unstyled t := by
  have hpiece (v : Value) (key : String) :
      Unstyled ((fragment host (f.enabled "colorful") v key).build R) :=
    hcolour ▸ unstyled_fragment R host v key
  have hassemble (parts : List (Part Styled))
      (h : ∀ t, .text t ∈ parts → Unstyled (t.build R)) :
      Unstyled ((Styled.assemble parts).build R) := by
    rw [Styled.build_assemble]
    apply unstyled_assemble
    intro t ht
    obtain ⟨part, hpart, heq⟩ := List.mem_map.mp ht
    cases part with
    | words s => cases heq
    | text x =>
      obtain rfl := Part.text.inj heq
      exact h x hpart
  rw [texts_of_arranged R (arranged_render R host f), List.forall_mem_cons, body,
    List.forall_mem_cons]
  refine ⟨?header, hpiece _ _, ?hint⟩
  case header =>
    apply hassemble
    simp only [List.mem_cons, reduceCtorEq, Part.text.injEq, false_or, List.not_mem_nil, or_false,
      forall_eq_or_imp, forall_eq, hpiece, and_self]
  case hint =>
    intro t ht
    obtain ⟨made, hmade, rfl⟩ := Option.map_eq_some_iff.mp (Option.mem_toList.mp ht)
    obtain ⟨hint, _, rfl⟩ := Option.map_eq_some_iff.mp hmade
    apply hassemble
    simp only [List.mem_cons, Part.text.injEq, List.not_mem_nil, or_false, forall_eq_or_imp,
      forall_eq, hpiece, and_self]

end Rendered

section Setting

variable (f : Fault) (fancy colorful : Value)

theorem option?_setting (key : String) :
    (f.withOptions (setting fancy colorful)).option? key =
      ((setting fancy colorful).get? key).or (f.option? key) := by
  have hkeys : (setting fancy colorful).keys = ["fancy", "colorful"] := rfl
  exact Table.get?_merge f.options (hkeys ▸ by decide) key

theorem enabled_fancy :
    (f.withOptions (setting fancy colorful)).enabled "fancy" = fancy.truthy := by
  rw [enabled, option?_setting]
  rfl

theorem enabled_colorful :
    (f.withOptions (setting fancy colorful)).enabled "colorful" = colorful.truthy := by
  rw [enabled, option?_setting]
  rfl

/-- A setting leaves alone every option but its own two. -/
theorem option?_setting_of_ne {key : String} (hfancy : key ≠ "fancy") (hcolour : key ≠ "colorful") :
    (f.withOptions (setting fancy colorful)).option? key = f.option? key := by
  rw [option?_setting, setting, Table.get?_cons, if_neg hfancy, Table.get?_cons, if_neg hcolour]
  rfl

theorem wording_setting (host : Host) :
    wording host (f.withOptions (setting fancy colorful)) = wording host f := by
  refine wording_congr host (g := f.withOptions (setting fancy colorful)) rfl ?_
  intro key hkey
  apply option?_setting_of_ne
  · rintro rfl
    simp at hkey
  · rintro rfl
    simp at hkey

end Setting

/-- What a fault shows under a setting: its wording, in an arrangement that fancy decides, and
without colour no styles. Surfacing it shows just that, or raises it, as without a setting. -/
structure Presented (R : Toolkit) (host : Host) (f : Fault) (fancy colorful : Value) (g : Fault) :
    Prop where
  replaced : f.replace (setting fancy colorful) = .ok g
  arranged : ∃ header message hint, Arranged R header (message :: Option.toList hint) fancy.truthy
      ((g.render host).build R) ∧
    R.plain header = (wording host f).header ∧ R.plain message = (wording host f).message ∧
    hint.map R.plain = (wording host f).hint
  hinted : (wording host f).hint.isSome = f.enabled "hint"
  lines : (R.texts ((g.render host).build R)).map R.plain = (wording host f).lines
  uncoloured : colorful.truthy = false → ∀ t ∈ R.texts ((g.render host).build R), Unstyled t
  surfaced : trigger host f.toValue (setting fancy colorful) =
    if f.enabled "shell" then .ok (g.render host) else .error (.fault g)

theorem handed_setting {R : Toolkit} {host : Host} {f : Fault} (h : Handed R host f)
    (fancy colorful : Value) : Handed R host (f.withOptions (setting fancy colorful)) where
  prog := by
    rw [progValue, option?_setting_of_ne f fancy colorful (by decide) (by decide)]
    exact h.prog
  hint := by
    rw [option?_setting_of_ne f fancy colorful (by decide) (by decide)]
    exact h.hint

theorem presented_of_setting (R : Toolkit) [R.LawfulPlain] [R.LawfulStyles] [R.LawfulScreens]
    (host : Host) (f : Fault) (h : Handed R host f) (fancy colorful : Value) :
    Presented R host f fancy colorful (f.withOptions (setting fancy colorful)) := by
  let g := f.withOptions (setting fancy colorful)
  have hhanded : Handed R host g := handed_setting h fancy colorful
  have hwording : wording host g = wording host f := wording_setting f fancy colorful host
  constructor
  case replaced => rfl
  case arranged =>
    have harranged := arranged_render R host g
    rw [enabled_fancy] at harranged
    rw [← hwording]
    refine ⟨_, _, _, harranged, reading_header R host g hhanded, reading_message R host g, ?_⟩
    rw [Option.map_map]
    exact reading_hint R host g hhanded
  case hinted => rw [wording, Option.isSome_map, Option.isSome_filter, enabled]
  case lines => rw [lines_render R host _ hhanded, hwording]
  case uncoloured =>
    intro hcolour
    exact unstyled_render R host g ((enabled_colorful f fancy colorful).trans hcolour)
  case surfaced =>
    have hshell : g.enabled "shell" = f.enabled "shell" :=
      congrArg (·.any Value.truthy) (option?_setting_of_ne f fancy colorful (by decide) (by decide))
    have htrigger : trigger host f.toValue (setting fancy colorful) =
        (g.surface host).mapError Failure.fault := rfl
    rw [htrigger, surface, hshell]
    cases f.enabled "shell" <;> rfl

/-- A fault whose label and hint were handed in as styled texts. -/
def styledFault : Fault where
  kind := .command
  message := some "it broke"
  options := [("prog", .styled (TextRecord.make "shop" "bold").view),
    ("code", .code .delegatedError), ("hint", .styled (TextRecord.make "try again" "red").view)]

end CommandShell.FaultPresentation
