/-!
# Texts

A text is a list of characters.  Every file body, line, pattern and property value of the
library is one, so that all of them are taken apart by the same recursion.

* `Text.size` is the length of the UTF-8 form: offsets into a file are counted in it;
* `splitAt`, `Text.isIn` and `Text.replace` are the searching operations, each by recursion
  on what is searched;
* `Text.joinWith` puts a separator between texts;
* `isWhite` is the Unicode property `White_Space`, by which texts are compared, trimmed and skipped
  everywhere in the library.
-/

namespace LicenseHeader

/-- A text: its characters from first to last. -/
abbrev Text := List Char

/-- Whether one of the closed ranges, given in ascending order, holds the code point. -/
def inRanges : List (Nat × Nat) → Nat → Bool
  | [], _ => false
  | (lo, hi) :: ranges, n => lo ≤ n && (n ≤ hi || inRanges ranges n)

/-- The code points with the property `White_Space`. -/
def whiteSpaceRanges : List (Nat × Nat) :=
  [(0x9, 0xD), (0x20, 0x20), (0x85, 0x85), (0xA0, 0xA0), (0x1680, 0x1680), (0x2000, 0x200A),
    (0x2028, 0x2029), (0x202F, 0x202F), (0x205F, 0x205F), (0x3000, 0x3000)]

def isWhite (c : Char) : Bool := inRanges whiteSpaceRanges c.toNat

/-- The parts of a list between the occurrences of `sep`; at least one part. -/
def splitAt {α : Type} [DecidableEq α] (sep : α) : List α → List (List α)
  | [] => [[]]
  | c :: t =>
    if c = sep then [] :: splitAt sep t
    else
      match splitAt sep t with
      | [] => [[c]]
      | part :: parts => (c :: part) :: parts

namespace Text

/-- The number of bytes in the UTF-8 form of a text. -/
def size : Text → Nat
  | [] => 0
  | c :: t => c.utf8Size + size t

@[simp]
theorem size_nil : size [] = 0 := rfl

@[simp]
theorem size_cons (c : Char) (t : Text) : size (c :: t) = c.utf8Size + size t := rfl

@[simp]
theorem size_append (s t : Text) : size (s ++ t) = size s + size t := by
  induction s with
  | nil => simp
  | cons c s ih => simp [ih, Nat.add_assoc]

/-- Whether `needle` occurs somewhere in a text. -/
def isIn (needle : Text) : Text → Bool
  | [] => needle.isEmpty
  | c :: t => needle.isPrefixOf (c :: t) || isIn needle t

/-- Replaces occurrences from the left, `skip` characters of the current one being left. -/
def replaceFrom (old new : Text) : Nat → Text → Text
  | _, [] => []
  | skip + 1, _ :: t => replaceFrom old new skip t
  | 0, c :: t =>
    if old.isPrefixOf (c :: t) then new ++ replaceFrom old new (old.length - 1) t
    else c :: replaceFrom old new 0 t

/-- Replaces every occurrence of `old`, read from the left without overlap, by `new`. -/
def replace (t old new : Text) : Text :=
  if old.isEmpty then t else replaceFrom old new 0 t

/-- The texts with `sep` between each two neighbours. -/
def joinWith (sep : Text) : List Text → Text
  | [] => []
  | [t] => t
  | t :: s :: ts => t ++ sep ++ joinWith sep (s :: ts)

/-- The text without the prefix `p`, if it starts with it. -/
def dropPrefix? (p t : Text) : Option Text :=
  if p.isPrefixOf t then some (t.drop p.length) else none

/-- The text without the suffix `p`, if it ends with it. -/
def dropSuffix? (p t : Text) : Option Text :=
  if p.isSuffixOf t then some (t.take (t.length - p.length)) else none

/-- Order by code point, which for texts is the order of their UTF-8 bytes. -/
def compare : Text → Text → Ordering
  | [], [] => .eq
  | [], _ :: _ => .lt
  | _ :: _, [] => .gt
  | a :: s, b :: t =>
    if a.toNat < b.toNat then .lt
    else if b.toNat < a.toNat then .gt
    else compare s t

def ofNat (n : Nat) : Text := Nat.toDigits 10 n

/-- The number in decimal, padded with zeros on the left to `width` digits. -/
def ofNatPadded (width n : Nat) : Text :=
  let digits := ofNat n
  List.replicate (width - digits.length) '0' ++ digits

def isBlank (t : Text) : Bool := t.all isWhite

def trimStart (t : Text) : Text := t.dropWhile isWhite

def trimEnd (t : Text) : Text := (t.reverse.dropWhile isWhite).reverse

def trim (t : Text) : Text := trimEnd (trimStart t)

def squeeze (t : Text) : Text := t.filter fun c => !isWhite c

end Text

end LicenseHeader
