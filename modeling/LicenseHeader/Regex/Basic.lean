import LicenseHeader.Regex.CharSet

/-!
# Regular expressions

A regular expression matches stretches of a text.  Only whether there is a match matters here, so
that the order of alternatives and the greed of repetitions have no meaning.

* `Look` are the conditions on a place between two characters;
* `Regex.ends` lists the places where a match that starts at a given place can end;
* `Regex.isMatch` tells whether there is a match anywhere in a text.
-/

namespace LicenseHeader

/-- A condition on the characters right before and right after a place in a text. -/
inductive Look where
  | textStart
  | textEnd
  | lineStart
  | lineEnd
  /-- Line start and end where a carriage return ends a line, too. -/
  | crlfStart
  | crlfEnd
  /-- The conditions on words, for ASCII words or for those of all scripts. -/
  | wordBoundary (ascii : Bool)
  | notWordBoundary (ascii : Bool)
  | wordStart (ascii : Bool)
  | wordEnd (ascii : Bool)
  | wordStartHalf (ascii : Bool)
  | wordEndHalf (ascii : Bool)
  deriving DecidableEq

namespace Look

/-- Whether there is a character and it is part of a word. -/
def inWord (ascii : Bool) : Option Char → Bool
  | none => false
  | some c => if ascii then isAsciiWordChar c else isWordChar c

/-- Whether the condition holds between two neighbours, `none` being the end of the text. -/
def holds (l : Look) (before after : Option Char) : Bool :=
  match l with
  | textStart => before.isNone
  | textEnd => after.isNone
  | lineStart => before.isNone || before == some '\n'
  | lineEnd => after.isNone || after == some '\n'
  | crlfStart =>
    before.isNone || before == some '\n' || (before == some '\r' && after != some '\n')
  | crlfEnd =>
    after.isNone || after == some '\r' || (after == some '\n' && before != some '\r')
  | wordBoundary ascii => inWord ascii before != inWord ascii after
  | notWordBoundary ascii => inWord ascii before == inWord ascii after
  | wordStart ascii => !inWord ascii before && inWord ascii after
  | wordEnd ascii => inWord ascii before && !inWord ascii after
  | wordStartHalf ascii => !inWord ascii before
  | wordEndHalf ascii => !inWord ascii after

end Look

inductive Regex where
  /-- The empty stretch. -/
  | empty
  /-- One character of the set. -/
  | chars (set : CharSet)
  /-- The empty stretch at a place where the condition holds. -/
  | look (condition : Look)
  /-- One after the other. -/
  | seq (first second : Regex)
  /-- Either of two. -/
  | alt (left right : Regex)
  /-- At least `min` times and, if there is a `max`, at most so many times. -/
  | rep (r : Regex) (min : Nat) (max : Option Nat)

structure Spot where
  /-- How many characters are before the place. -/
  index : Nat
  /-- The character right before the place. -/
  before : Option Char
  /-- The text after the place. -/
  rest : Text

namespace Spot

def start (t : Text) : Spot := ⟨0, none, t⟩

/-- The place itself and all places after it. -/
def onwards : Nat → Option Char → Text → List Spot
  | i, before, [] => [⟨i, before, []⟩]
  | i, before, c :: t => ⟨i, before, c :: t⟩ :: onwards (i + 1) (some c) t

/-- Adds the places that are not yet in a list. -/
def merge (seen : List Spot) : List Spot → List Spot
  | [] => []
  | p :: ps =>
    if seen.any fun q => q.index == p.index then merge seen ps else p :: merge (p :: seen) ps

def distinct (ps : List Spot) : List Spot := merge [] ps

end Spot

namespace Regex

/-- The places reached by exactly `n` steps. -/
def power (step : Spot → List Spot) : Nat → List Spot → List Spot
  | 0, ps => ps
  | n + 1, ps => if ps.isEmpty then [] else power step n (Spot.distinct (ps.flatMap step))

/-- The places in `seen` and those reached from the frontier by at most `n` steps. -/
def reach (step : Spot → List Spot) : Nat → List Spot → List Spot → List Spot
  | 0, _, seen => seen
  | n + 1, frontier, seen =>
    let fresh := Spot.merge seen (frontier.flatMap step)
    if fresh.isEmpty then seen else reach step n fresh (seen ++ fresh)

/-- The places where a match that starts at `p` can end, each once. -/
def ends : Regex → Spot → List Spot
  | empty, p => [p]
  | chars set, p =>
    match p.rest with
    | [] => []
    | c :: t => if set.mem c then [⟨p.index + 1, some c, t⟩] else []
  | look condition, p => if condition.holds p.before p.rest.head? then [p] else []
  | seq first second, p => Spot.distinct ((ends first p).flatMap fun q => ends second q)
  | alt left right, p => Spot.distinct (ends left p ++ ends right p)
  | rep r min max, p =>
    let step := fun q => ends r q
    let first := power step min [p]
    match max with
    | none => reach step (p.rest.length + 1) first first
    | some n => reach step (n - min) first first

/-- Whether some stretch of the text matches. -/
def isMatch (r : Regex) (t : Text) : Bool :=
  (Spot.onwards 0 none t).any fun p => !(ends r p).isEmpty

end Regex

end LicenseHeader
