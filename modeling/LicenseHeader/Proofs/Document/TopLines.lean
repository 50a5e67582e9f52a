import LicenseHeader.Proofs.Header.Offsets
import LicenseHeader.Proofs.Style.Builtin

/-!
# Lines that stay on top of a file

An interpreter line or the declaration of a document has to be the first line of its file, so a header
goes below it.  The search for its place goes on over all such lines at the top; if it then comes to the
end of the file, it takes this for a file without any of them and puts the header to the top after all.

* `HeaderScan.above_of_followed` and `HeaderScan.above_of_alone`: what is above a header in a file whose
  first line stays on top;
* `HeaderScan.size_le_beginsAt_iff`: the place of the header is behind the first line exactly if some
  other line follows those that stay on top;
* `Document.stays_on_top_iff`: so it is with the header that is put in;
* `Document.header_above_interpreter`: a script that has nothing but its interpreter line.
-/

namespace LicenseHeader

namespace HeaderScan

variable {s : Style} {t : Text} {l : Line} {rest : List Line}

/-- The search goes on over the first line and those like it. -/
theorem dropWhile_of_top (htop : s.isSkipLine l.body = true) :
    ((l :: rest).dropWhile fun k => !s.isSkipLine k.body).dropWhile (fun k => s.isSkipLine k.body)
      = rest.dropWhile fun k => s.isSkipLine k.body := by
  have hfirst : (l :: rest).dropWhile (fun k => !s.isSkipLine k.body) = l :: rest :=
    List.dropWhile_cons_of_neg (by simp [htop])
  have hnext : (l :: rest).dropWhile (fun k => s.isSkipLine k.body)
      = rest.dropWhile fun k => s.isSkipLine k.body := List.dropWhile_cons_of_pos htop
  rw [hfirst, hnext]

/-- Below the lines that stay on top stands the first line that does not. -/
theorem splitAbove_of_followed (htop : s.isSkipLine l.body = true)
    (hfollowed : ∃ k ∈ rest, s.isSkipLine k.body = false) :
    splitAbove s (l :: rest) = (l :: rest.takeWhile (fun k => s.isSkipLine k.body),
      rest.dropWhile fun k => s.isSkipLine k.body) := by
  have hskip : ¬s.skip.isNone = true := by
    intro hnone
    rw [Option.isNone_iff_eq_none] at hnone
    rw [Style.isSkipLine, hnone] at htop
    cases htop
  have hbelow : rest.dropWhile (fun k => s.isSkipLine k.body) ≠ [] := by
    rw [Ne, List.dropWhile_eq_nil_iff]
    intro hall
    obtain ⟨k, hk, hother⟩ := hfollowed
    rw [hall k hk] at hother
    cases hother
  have hlines : l :: rest = l :: rest.takeWhile (fun k => s.isSkipLine k.body)
      ++ rest.dropWhile (fun k => s.isSkipLine k.body) := by
    rw [List.cons_append, List.takeWhile_append_dropWhile]
  unfold splitAbove
  rw [if_neg hskip]
  dsimp only
  rw [dropWhile_of_top htop, if_neg (by simpa using hbelow)]
  congr 1
  conv => lhs; rw [hlines]
  refine List.take_left' ?_
  rw [List.length_append, Nat.add_sub_cancel]

/-- If all lines stay on top, the search has come to the end of the file and starts over. -/
theorem splitAbove_of_alone (htop : s.isSkipLine l.body = true)
    (halone : ∀ k ∈ rest, s.isSkipLine k.body = true) :
    splitAbove s (l :: rest) = ([], l :: rest) := by
  unfold splitAbove
  split
  · rfl
  · dsimp only
    rw [dropWhile_of_top htop, List.dropWhile_eq_nil_iff.mpr halone]
    rfl

section Top

variable (hsplit : Line.split t = l :: rest) (htop : s.isSkipLine l.body = true)
include hsplit htop

theorem above_of_followed (hfollowed : ∃ k ∈ rest, s.isSkipLine k.body = false)
    (keywords : List Text) :
    (run s keywords t).above = l :: rest.takeWhile fun k => s.isSkipLine k.body := by
  rw [above_run, hsplit, splitAbove_of_followed htop hfollowed]

theorem above_of_alone (hnone : ¬∃ k ∈ rest, s.isSkipLine k.body = false) (keywords : List Text) :
    (run s keywords t).above = [] := by
  have halone : ∀ k ∈ rest, s.isSkipLine k.body = true := by simpa using hnone
  rw [above_run, hsplit, splitAbove_of_alone htop halone]

/-- **Where the place of a header is behind the first line**, if that stays on top. -/
theorem size_le_beginsAt_iff (keywords : List Text) :
    l.size ≤ (run s keywords t).beginsAt ↔ ∃ k ∈ rest, s.isSkipLine k.body = false := by
  constructor
  · intro hle
    by_contra hnone
    have hpos : 0 < l.size := Line.size_pos_of_mem_split (t := t) (by simp [hsplit])
    rw [beginsAt, above_of_alone hsplit htop hnone, Line.totalSize_nil] at hle
    omega
  · intro hfollowed
    rw [beginsAt, above_of_followed hsplit htop hfollowed, Line.totalSize_cons]
    omega

/-- The text above the place of a header begins with the first line in the same case. -/
theorem text_isPrefix_above_iff (keywords : List Text) :
    l.text <+: Line.unsplit (run s keywords t).above ↔ ∃ k ∈ rest, s.isSkipLine k.body = false := by
  constructor
  · intro hstart
    by_contra hnone
    have hne : l.text ≠ [] := Line.text_ne_nil_of_mem_split (t := t) (by simp [hsplit])
    rw [above_of_alone hsplit htop hnone, Line.unsplit_nil, List.prefix_nil] at hstart
    exact hne hstart
  · intro hfollowed
    rw [above_of_followed hsplit htop hfollowed, Line.unsplit_cons]
    exact List.prefix_append _ _

end Top

end HeaderScan

namespace Document

/-- A header is put between what is above its place and the rest of the file. -/
theorem text_insertHeader {s : Style} {keywords : List Text} {properties : Properties} {t : Text}
    {h : HeaderTemplate} {new : Document}
    (hnew : (ofText s keywords properties t).insertHeader h = .ok new) :
    new.above = Line.unsplit (HeaderScan.run s keywords t).above ∧
      ∃ rendered below, h.render s properties = .ok rendered ∧ t = new.above ++ below ∧
        new.text = new.above ++ ((LineEnding.detect t).apply rendered ++ below) := by
  cases hrender : h.render s properties with
  | error cycle =>
    have hrefused : (ofText s keywords properties t).insertHeader h = .error cycle := by
      show (h.render s properties).map _ = _
      rw [hrender]
      rfl
    rw [hrefused] at hnew
    cases hnew
  | ok rendered =>
    have hdone : (ofText s keywords properties t).insertHeader h
        = .ok { ofText s keywords properties t with
                header := some ((LineEnding.detect t).apply rendered)
                below := (ofText s keywords properties t).header.getD []
                  ++ (ofText s keywords properties t).below } := by
      show (h.render s properties).map _ = _
      rw [hrender]
      rfl
    rw [hdone] at hnew
    obtain rfl := Except.ok.inj hnew
    have htext := text_ofText s keywords properties t
    rw [text, List.append_assoc] at htext
    exact ⟨rfl, rendered, _, rfl, htext.symm, List.append_assoc _ _ _⟩

/-- **A line that stays on top is kept above the header exactly if some line after it is of another
kind.**  For every style and every file whose first line stays on top, this is when the place of a header
is behind that line, and when a header that is put in goes below it.  A file of such lines only gets its
header above them. -/
theorem stays_on_top_iff {s : Style} {t : Text} {l : Line} {rest : List Line}
    (hsplit : Line.split t = l :: rest) (htop : s.isSkipLine l.body = true) (keywords : List Text)
    (properties : Properties) :
    (l.size ≤ (HeaderScan.run s keywords t).beginsAt ↔ ∃ k ∈ rest, s.isSkipLine k.body = false) ∧
    ∀ h new, (ofText s keywords properties t).insertHeader h = .ok new →
      (l.text <+: new.above ↔ ∃ k ∈ rest, s.isSkipLine k.body = false) ∧
      ∃ rendered below, h.render s properties = .ok rendered ∧ t = new.above ++ below ∧
        new.text = new.above ++ ((LineEnding.detect t).apply rendered ++ below) := by
  refine ⟨HeaderScan.size_le_beginsAt_iff hsplit htop keywords, ?_⟩
  intro h new hnew
  obtain ⟨habove, hplace⟩ := text_insertHeader hnew
  refine ⟨?_, hplace⟩
  rw [habove]
  exact HeaderScan.text_isPrefix_above_iff hsplit htop keywords

/-- An interpreter line with another line below it. -/
theorem stays_on_top_iff_script :
    Line.split "#!/bin/sh\r\necho hi".toList
      = [⟨"#!/bin/sh".toList, .crlf⟩, ⟨"echo hi".toList, .none⟩] ∧
    (Style.builtin "script_style").isSkipLine "#!/bin/sh".toList = true ∧
    11 ≤ (HeaderScan.run (Style.builtin "script_style") ["copyright".toList]
      "#!/bin/sh\r\necho hi".toList).beginsAt := by
  have hsplit : Line.split "#!/bin/sh\r\necho hi".toList
      = [⟨"#!/bin/sh".toList, .crlf⟩, ⟨"echo hi".toList, .none⟩] := by decide +kernel
  have htop : (Style.builtin "script_style").isSkipLine "#!/bin/sh".toList = true := by
    decide +kernel
  refine ⟨hsplit, htop, ?_⟩
  exact (stays_on_top_iff hsplit htop ["copyright".toList] []).1.mpr
    ⟨⟨"echo hi".toList, .none⟩, by simp, by decide +kernel⟩

/-- A script that has nothing but its interpreter line: the header goes above it, and the script can no
longer be run. -/
theorem header_above_interpreter :
    (Style.builtin "script_style").IsBuiltin ∧
    (Style.builtin "script_style").isSkipLine "#!/bin/sh".toList = true ∧
    Line.split "#!/bin/sh\n".toList = [⟨"#!/bin/sh".toList, .lf⟩] ∧
    (HeaderScan.run (Style.builtin "script_style") ["copyright".toList]
      "#!/bin/sh\n".toList).beginsAt = 0 ∧
    ((ofText (Style.builtin "script_style") ["copyright".toList] []
      "#!/bin/sh\n".toList).insertHeader ⟨"Copyright Acme".toList⟩).toOption.map text
        = some "# Copyright Acme\n\n#!/bin/sh\n".toList := by
  refine ⟨Style.isBuiltin_builtin (by decide +kernel), ?_, ?_, ?_, ?_⟩
  all_goals decide +kernel

end Document

end LicenseHeader
