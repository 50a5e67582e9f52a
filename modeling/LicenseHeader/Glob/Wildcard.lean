import LicenseHeader.Text.Case

/-!
# Wildcards

A wildcard pattern is matched against one name: `?` stands for any one character, `*` for any
number of characters, and every other character for itself.

The pattern is cut at its stars.  The part before the first star has to be at the front of the
name, the part after the last star at its end, and the parts in between one after the other, each
at the leftmost place that is left.

Path patterns are matched in the same way, segment by segment.  So the operations on *runs*, the parts
of a pattern without a gap, are over an abstract test `ok` of one pattern item against one item of the
list that is searched:

* `stripRun` matches a run at the front;
* `afterRun` matches it at its leftmost place;
* `afterRuns` matches several, each at the leftmost place after the one before.
-/

namespace LicenseHeader.Glob

section Runs

variable {α β : Type}

/-- What is left of the list after its front has matched the run, item by item. -/
def stripRun (ok : α → β → Bool) : List α → List β → Option (List β)
  | [], ys => some ys
  | _ :: _, [] => none
  | x :: xs, y :: ys => if ok x y then stripRun ok xs ys else none

/-- What is left of the list after the leftmost place where the run matches. -/
def afterRun (ok : α → β → Bool) (run : List α) : List β → Option (List β)
  | [] => stripRun ok run []
  | y :: ys =>
    match stripRun ok run (y :: ys) with
    | some rest => some rest
    | none => afterRun ok run ys

/-- What is left of the list after each run, in turn, at its leftmost place. -/
def afterRuns (ok : α → β → Bool) : List (List α) → List β → Option (List β)
  | [], ys => some ys
  | run :: runs, ys =>
    match afterRun ok run ys with
    | some rest => afterRuns ok runs rest
    | none => none

/-- Whether the end of the list matches the run. -/
def endsWithRun (ok : α → β → Bool) (run : List α) (ys : List β) : Bool :=
  run.length ≤ ys.length
    && (stripRun ok run (ys.drop (ys.length - run.length))).isSome

end Runs

/-- Whether a pattern character other than `*` stands for the character `c`.  Without case, two
characters with the same lower case form are the same. -/
def sameChar (caseSensitive : Bool) (p c : Char) : Bool :=
  p == '?' || p == c || (!caseSensitive && lowerChar p == lowerChar c)

def wildcardMatches (caseSensitive : Bool) (pattern name : Text) : Bool :=
  let ok := sameChar caseSensitive
  match splitAt '*' pattern with
  | [] => false
  | [whole] => stripRun ok whole name == some []
  | front :: back :: parts =>
    match stripRun ok front name with
    | none => false
    | some rest =>
      match afterRuns ok (back :: parts).dropLast rest with
      | none => false
      | some left => endsWithRun ok ((back :: parts).getLastD []) left

end LicenseHeader.Glob
