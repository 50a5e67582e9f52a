import LicenseHeader.Proofs.Header.ReadBack
import LicenseHeader.Proofs.Header.Stripping
import LicenseHeader.Proofs.Regex.Ink
import LicenseHeader.Style.Builtin

/-!
# What holds of the built-in styles

The built-in styles are read from their definitions, patterns included.  What the other modules need
to know about them is decided here by going through the list, and nowhere else, so that a change of a
built-in style is noticed in this file.

* `isReadable_of_isBuiltin`: a header written in a built-in style is found again, with one exception
  that has no closing;
* `endsExactly_of_isBuiltin`: its end is found as well if the closing ends with a line break;
* `isComment_of_isBuiltin`: the comments between slashes and stars are blocks that no blank line
  closes;
* `isRemovable_of_isBuiltin`: comment syntax can be taken out of the lines of a header.
-/

namespace LicenseHeader

namespace Style

/-- One of the built-in styles. -/
def IsBuiltin (s : Style) : Prop := ∃ e ∈ builtinModels, ofModel e.1 e.2 = .ok s

/-- The built-in style with a name. -/
def builtin? (name : String) : Option Style :=
  (builtinModels.get? name.toList).bind fun m => (ofModel name.toList m).toOption

/-- The built-in style with a name, or the style of files that have none. -/
def builtin (name : String) : Style := (builtin? name).getD unknown

theorem isBuiltin_builtin {name : String} (h : (builtin? name).isSome = true) :
    (builtin name).IsBuiltin := by
  obtain ⟨s, hs⟩ := Option.isSome_iff_exists.mp h
  obtain ⟨m, hm, hok⟩ := Option.bind_eq_some_iff.mp hs
  refine ⟨(name.toList, m), Keyed.mem_of_get? hm, ?_⟩
  unfold builtin
  rw [hs, Option.getD_some]
  cases hread : ofModel name.toList m with
  | error e =>
    rw [hread] at hok
    exact absurd hok (by simp [Except.toOption])
  | ok found =>
    rw [hread] at hok
    exact congrArg Except.ok (Option.some.inj hok)

/-- What is checked of each built-in style holds of all. -/
theorem forall_isBuiltin {p : Style → Prop} [DecidablePred p]
    (h : (builtinModels.all fun e => (ofModel e.1 e.2).toOption.all fun s => decide (p s)) = true)
    {s : Style} (hs : s.IsBuiltin) : p s := by
  obtain ⟨e, he, hok⟩ := hs
  have hall := List.all_eq_true.mp h e he
  rw [hok] at hall
  exact of_decide_eq_true hall

/-! ### The list of the built-in styles -/

/-- The name of the style of single lines that has no closing. -/
def withoutClosing : Text := "single_line_doubleslash_style".toList

/-- The names of the styles of block comments between slashes and stars. -/
def commentNames : List Text :=
  ["javadoc_style", "scala_style", "slashstar_style", "php"].map String.toList

/-- A block without blank lines in it, which no blank line closes. -/
structure IsComment (s : Style) : Prop where
  isBlock : s.isBlock = true
  noBlanks : s.allowsBlank = false
  readsInk : s.last.all (·.regex.readsInk) = true

instance (s : Style) : Decidable s.IsComment :=
  decidable_of_iff
    (s.isBlock = true ∧ s.allowsBlank = false ∧ s.last.all (·.regex.readsInk) = true)
    ⟨fun ⟨h₁, h₂, h₃⟩ => ⟨h₁, h₂, h₃⟩, fun ⟨h₁, h₂, h₃⟩ => ⟨h₁, h₂, h₃⟩⟩

/-- What all built-in styles have in common, checked in one go through the list. -/
theorem isBuiltin_facts {s : Style} (hs : s.IsBuiltin) :
    (s.id ≠ withoutClosing → s.IsReadable) ∧
      (s.closing.getLast? = some '\n' → s.IsReadable ∧ s.EndsExactly) ∧
      (s.id ∈ commentNames → s.IsComment) :=
  @forall_isBuiltin
    (fun s => (s.id ≠ withoutClosing → s.IsReadable) ∧
      (s.closing.getLast? = some '\n' → s.IsReadable ∧ s.EndsExactly) ∧
      (s.id ∈ commentNames → s.IsComment)) _ (by decide +kernel) s hs

/-- **A header in a built-in style is found again**, unless nothing closes it. -/
theorem isReadable_of_isBuiltin {s : Style} (hs : s.IsBuiltin) (hid : s.id ≠ withoutClosing) :
    s.IsReadable :=
  (isBuiltin_facts hs).1 hid

/-- **The end of a header in a built-in style is found**, if a line break ends the closing. -/
theorem endsExactly_of_isBuiltin {s : Style} (hs : s.IsBuiltin)
    (hfeed : s.closing.getLast? = some '\n') : s.IsReadable ∧ s.EndsExactly :=
  (isBuiltin_facts hs).2.1 hfeed

example : (builtinModels.filter fun e =>
    (expandLineBreaks e.2.closing).getLast? == some '\n').length = 17 := by decide +kernel

example : (builtinModels.filter fun e =>
    e.2.skip.isNone && e.1 != withoutClosing).length = 25 := by decide +kernel

theorem isComment_of_isBuiltin {s : Style} (hs : s.IsBuiltin) (hid : s.id ∈ commentNames) :
    s.IsComment :=
  (isBuiltin_facts hs).2.2 hid

/-- **The comment syntax of the built-in styles can be taken out.** -/
theorem isRemovable_of_isBuiltin {s : Style} (hs : s.IsBuiltin) : s.IsRemovable :=
  @forall_isBuiltin (fun s => s.IsRemovable) _ (by decide +kernel) s hs

/-- A line that closes a comment is not blank. -/
theorem IsComment.isBlank_eq_false {s : Style} (hs : s.IsComment) {l : Line}
    (h : s.isLastLine l.body = true) : l.isBlank = false := by
  have hink := hs.readsInk
  rw [isLastLine] at h
  cases hlast : s.last with
  | none => simp [hlast] at h
  | some p =>
    rw [hlast] at h hink
    exact Regex.isBlank_eq_false_of_isMatch hink h

end Style

end LicenseHeader
