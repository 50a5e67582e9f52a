import LicenseHeader.Text.Word

/-!
# Sets of characters

The classes of a regular expression are built from ranges of code points by the Boolean operations
and by closing a set under letter case.  `CharSet.mem` is the meaning of such a description.
-/

namespace LicenseHeader

/-- A description of a set of characters. -/
inductive CharSet where
  /-- The characters in one of the ranges, which ascend. -/
  | ranges (table : List (Nat × Nat))
  | union (a b : CharSet)
  | inter (a b : CharSet)
  | diff (a b : CharSet)
  | symmDiff (a b : CharSet)
  | compl (a : CharSet)
  /-- All characters that differ only in case from one in the set. -/
  | foldCase (a : CharSet)
  /-- The same for ASCII letters only. -/
  | foldAscii (a : CharSet)

namespace CharSet

/-- The other case of an ASCII letter; every other character itself. -/
def swapAscii (c : Char) : Char :=
  if 'A' ≤ c ∧ c ≤ 'Z' then Char.ofNat (c.toNat + 0x20)
  else if 'a' ≤ c ∧ c ≤ 'z' then Char.ofNat (c.toNat - 0x20)
  else c

def mem : CharSet → Char → Bool
  | ranges table, c => inRanges table c.toNat
  | union a b, c => mem a c || mem b c
  | inter a b, c => mem a c && mem b c
  | diff a b, c => mem a c && !mem b c
  | symmDiff a b, c => mem a c != mem b c
  | compl a, c => !mem a c
  | foldCase a, c => (c :: caseVariants c).any fun d => mem a d
  | foldAscii a, c => mem a c || mem a (swapAscii c)

def empty : CharSet := ranges []

def single (c : Char) : CharSet := ranges [(c.toNat, c.toNat)]

def between (lo hi : Char) : CharSet := ranges [(lo.toNat, hi.toNat)]

def digits : CharSet := ranges digitRanges

def spaces : CharSet := ranges whiteSpaceRanges

def words : CharSet := ranges wordRanges

def asciiDigits : CharSet := ranges [(0x30, 0x39)]

def asciiSpaces : CharSet := ranges [(0x9, 0xD), (0x20, 0x20)]

def asciiWords : CharSet := ranges [(0x30, 0x39), (0x41, 0x5A), (0x5F, 0x5F), (0x61, 0x7A)]

/-- The named classes of ASCII characters. -/
def posix? (name : Text) : Option CharSet :=
  let table : List (String × List (Nat × Nat)) :=
    [("alnum", [(0x30, 0x39), (0x41, 0x5A), (0x61, 0x7A)]),
     ("alpha", [(0x41, 0x5A), (0x61, 0x7A)]),
     ("ascii", [(0x0, 0x7F)]),
     ("blank", [(0x9, 0x9), (0x20, 0x20)]),
     ("cntrl", [(0x0, 0x1F), (0x7F, 0x7F)]),
     ("digit", [(0x30, 0x39)]),
     ("graph", [(0x21, 0x7E)]),
     ("lower", [(0x61, 0x7A)]),
     ("print", [(0x20, 0x7E)]),
     ("punct", [(0x21, 0x2F), (0x3A, 0x40), (0x5B, 0x60), (0x7B, 0x7E)]),
     ("space", [(0x9, 0xD), (0x20, 0x20)]),
     ("upper", [(0x41, 0x5A)]),
     ("word", [(0x30, 0x39), (0x41, 0x5A), (0x5F, 0x5F), (0x61, 0x7A)]),
     ("xdigit", [(0x30, 0x39), (0x41, 0x46), (0x61, 0x66)])]
  (table.find? fun entry => entry.1.toList == name).map fun entry => ranges entry.2

end CharSet

end LicenseHeader
