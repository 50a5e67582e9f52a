import LicenseHeader.Regex.Reader
import LicenseHeader.Repository.Basic
import LicenseHeader.Repository.Inflate

/-!
# The objects of a repository

A repository stores its commits, and the directories and files of their time, as objects.  An object is
known by a name of twenty bytes.  It is in a file of its own, or with others in a pack, where it may be
given by what has to be done to another object to get it.

* `StoredObject.ofLoose?` and `Pack.entry?` read objects, and `Delta.result?` makes one from another;
* `TreeEntry.readAll?` and `CommitRecord.read?` read what directories and commits consist of.
-/

namespace LicenseHeader

abbrev ObjectName := ByteArray

namespace ObjectName

def text (name : ObjectName) : Text :=
  name.toList.flatMap fun byte => [Nat.digitChar (byte.toNat / 16), Nat.digitChar (byte.toNat % 16)]

def ofDigits? : Text → Option (List UInt8)
  | [] => some []
  | [_] => none
  | high :: low :: rest => do
    let high ← RegexReader.hexDigit? high
    let low ← RegexReader.hexDigit? low
    return (16 * high + low).toUInt8 :: (← ofDigits? rest)

/-- The name that is written with forty digits. -/
def ofText? (t : Text) : Option ObjectName :=
  match ofDigits? t with
  | some bytes => if bytes.length = 20 then some ⟨bytes.toArray⟩ else none
  | none => none

end ObjectName

/-- The text with the given bytes; those that are no UTF-8 cannot be shown. -/
def Text.ofBytes (bytes : ByteArray) : Text :=
  match String.fromUTF8? bytes with
  | some s => s.toList
  | none => bytes.toList.map fun b => if b < 128 then Char.ofNat b.toNat else Char.ofNat 0xFFFD

inductive ObjectKind where
  | commit
  | tree
  | blob
  | tag
  deriving DecidableEq, Repr

structure StoredObject where
  kind : ObjectKind
  content : ByteArray

/-- Reads an object that has a file of its own: its kind, its size, a zero byte and its content. -/
def StoredObject.ofLoose? (file : ByteArray) : Option StoredObject := do
  let data ← inflate? file 0
  let stop ← data.findIdx? (· == 0)
  let content := data.extract (stop + 1) data.size
  match splitAt ' ' (Text.ofBytes (data.extract 0 stop)) with
  | kind :: _ =>
    if kind = "commit".toList then return ⟨.commit, content⟩
    else if kind = "tree".toList then return ⟨.tree, content⟩
    else if kind = "blob".toList then return ⟨.blob, content⟩
    else if kind = "tag".toList then return ⟨.tag, content⟩
    else none
  | [] => none

/-! ### Packs -/

/-- The number in some bytes, the highest first. -/
def bigEndian (data : ByteArray) (start count : Nat) : Nat :=
  (data.extract start (start + count)).toList.foldl (fun n byte => 256 * n + byte.toNat) 0

/-- A number with seven bits in each of at most `fuel` bytes, the lowest first, and the place after it.
The high bit of a byte says that one more follows. -/
def sevenBits? (data : ByteArray) : Nat → Nat → Option (Nat × Nat)
  | 0, _ => none
  | fuel + 1, place => do
    let byte ← data[place]?
    if byte < 128 then return (byte.toNat, place + 1)
    let (high, after) ← sevenBits? data fuel (place + 1)
    return (byte.toNat - 128 + 128 * high, after)

/-- The distance to an object before, the highest bits first.  Each length of a distance starts where
the shorter ones end. -/
def distance? (data : ByteArray) : Nat → (before place : Nat) → Option (Nat × Nat)
  | 0, _, _ => none
  | fuel + 1, before, place => do
    let byte ← data[place]?
    if byte < 128 then return (128 * before + byte.toNat, place + 1)
    distance? data fuel (128 * before + (byte.toNat - 128) + 1) (place + 1)

/-- Many objects in one file, with an index of their names. -/
structure Pack where
  index : ByteArray
  data : ByteArray

inductive PackEntry where
  | whole (object : StoredObject)
  /-- Made from the object at a place of the pack. -/
  | onPlace (base : Nat) (delta : ByteArray)
  | onName (base : ObjectName) (delta : ByteArray)

namespace Pack

/-- The place of an object in a pack.  The index counts the names by their first bytes. -/
def place? (p : Pack) (name : ObjectName) : Option Nat := do
  let first ← name[0]?
  let counted := fun byte => bigEndian p.index (8 + 4 * byte) 4
  let lower := if first = 0 then 0 else counted (first.toNat - 1)
  let names := 8 + 4 * 256
  let i ← (List.range' lower (counted first.toNat - lower)).find? fun i =>
    p.index.extract (names + 20 * i) (names + 20 * i + 20) == name
  -- each name also has a checksum of four bytes
  let places := names + 24 * counted 255
  let place := bigEndian p.index (places + 4 * i) 4
  let large := 2147483648
  if place < large then return place
  return bigEndian p.index (places + 4 * counted 255 + 8 * (place - large)) 8

def entry? (p : Pack) (start : Nat) : Option PackEntry := do
  let byte ← p.data[start]?
  let place ←
    if byte < 128 then some (start + 1) else (sevenBits? p.data 9 (start + 1)).map Prod.snd
  match byte.toNat / 16 % 8 with
  | 1 => return .whole ⟨.commit, ← inflate? p.data place⟩
  | 2 => return .whole ⟨.tree, ← inflate? p.data place⟩
  | 3 => return .whole ⟨.blob, ← inflate? p.data place⟩
  | 4 => return .whole ⟨.tag, ← inflate? p.data place⟩
  | 6 =>
    let (distance, place) ← distance? p.data 9 0 place
    if distance = 0 ∨ start < distance then none
    else return .onPlace (start - distance) (← inflate? p.data place)
  | 7 => return .onName (p.data.extract place (place + 20)) (← inflate? p.data (place + 20))
  | _ => none

end Pack

namespace Delta

/-- A number of which only some bytes are given, those whose bits are set in `flags`. -/
def sparse? (data : ByteArray) : (count flags place : Nat) → Option (Nat × Nat)
  | 0, _, place => some (0, place)
  | count + 1, flags, place => do
    if flags % 2 = 0 then
      let (high, after) ← sparse? data count (flags / 2) place
      return (256 * high, after)
    let byte ← data[place]?
    let (high, after) ← sparse? data count (flags / 2) (place + 1)
    return (byte.toNat + 256 * high, after)

/-- Takes parts of an object and new bytes in turn, at most `fuel` of them. -/
def run? (base delta : ByteArray) : Nat → Nat → ByteArray → Option ByteArray
  | 0, place, out => if delta.size ≤ place then some out else none
  | fuel + 1, place, out =>
    match delta[place]? with
    | none => some out
    | some byte =>
      if 128 ≤ byte then
        match sparse? delta 4 (byte.toNat % 16) (place + 1) with
        | none => none
        | some (start, place) =>
          match sparse? delta 3 (byte.toNat / 16 % 8) place with
          | none => none
          | some (size, place) =>
            let stop := start + (if size = 0 then 65536 else size)
            if stop ≤ base.size then run? base delta fuel place (out ++ base.extract start stop)
            else none
      else if byte = 0 then none
      else
        let stop := place + 1 + byte.toNat
        if stop ≤ delta.size then run? base delta fuel stop (out ++ delta.extract (place + 1) stop)
        else none

/-- Makes an object from another one.  In front stand the sizes of both. -/
def result? (base : StoredObject) (delta : ByteArray) : Option StoredObject := do
  let (_, place) ← sevenBits? delta 9 0
  let (size, place) ← sevenBits? delta 9 place
  let content ← run? base.content delta delta.size place .empty
  if content.size = size then return ⟨base.kind, content⟩ else none

end Delta

/-! ### Directories and commits -/

/-- A name in a directory of a commit. -/
structure TreeEntry where
  /-- What the name stands for; nothing for a directory. -/
  mode : Option FileMode
  name : Text
  object : ObjectName

namespace TreeEntry

def modeOf (digits : Text) : Option FileMode :=
  if digits = "40000".toList ∨ digits = "040000".toList then none
  else if digits = "120000".toList then some .link
  else if digits = "160000".toList then some .submodule
  else if (digits.drop 3).any (fun c => c.toNat % 2 = 1) then some .executable
  else some .regular

/-- Reads the entries of a directory from a place on, at most `fuel` of them. -/
def readFrom? (data : ByteArray) : Nat → Nat → Option (List TreeEntry)
  | 0, place => if data.size ≤ place then some [] else none
  | fuel + 1, place =>
    if data.size ≤ place then some []
    else do
      let blank ← data.findIdx? (· == 32) place
      let stop ← data.findIdx? (· == 0) blank
      let rest ← readFrom? data fuel (stop + 21)
      return {
        mode := modeOf (Text.ofBytes (data.extract place blank))
        name := Text.ofBytes (data.extract (blank + 1) stop)
        object := data.extract (stop + 1) (stop + 21) } :: rest

def readAll? (object : StoredObject) : Option (List TreeEntry) :=
  if object.kind = .tree then readFrom? object.content object.content.size 0 else none

end TreeEntry

/-- A commit as it is stored. -/
structure CommitRecord where
  tree : ObjectName
  parents : List ObjectName
  author : Text
  time : Instant

namespace CommitRecord

/-- Whether a character is left out around the name of an author. -/
def isCrud (c : Char) : Bool := c.toNat ≤ 32 || ".,:;<>\"\\'".toList.contains c

/-- The name in a line that tells who did something and when. -/
def nameIn (line : Text) : Text :=
  let before := ((line.reverse.dropWhile (· ≠ '<')).drop 1).reverse
  ((before.dropWhile isCrud).reverse.dropWhile isCrud).reverse

/-- The distance of a time zone in minutes.  One that is not understood counts as zero. -/
def zoneIn (zone : Text) : Int :=
  match zone with
  | [] => 0
  | sign :: digits =>
    let number := ((String.ofList digits).toNat?).getD 0
    let minutes := number / 100 * 60 + number % 100
    if (sign ≠ '+' ∧ sign ≠ '-') ∨ 14 < number / 100 ∨ 59 < number % 100 then 0
    else if sign = '-' then -minutes else minutes

/-- The moment in such a line. -/
def timeIn? (line : Text) : Option Instant :=
  match splitAt ' ' ((line.reverse.takeWhile (· ≠ '>')).reverse.drop 1) with
  | seconds :: zone => do
    if seconds = [] then return ⟨0, 0⟩
    return ⟨← (String.ofList seconds).toInt?, zoneIn (zone.headD [])⟩
  | [] => none

/-- Reads a commit.  Its fields are lines in front of the first empty one. -/
def read? (object : StoredObject) : Option CommitRecord := do
  if object.kind ≠ .commit then none
  let lines := (splitAt '\n' (Text.ofBytes object.content)).takeWhile (· ≠ [])
  let fields := fun (name : String) => lines.filterMap (Text.dropPrefix? name.toList)
  return {
    tree := ← (fields "tree ").head?.bind ObjectName.ofText?
    parents := ← (fields "parent ").mapM ObjectName.ofText?
    author := nameIn ((fields "author ").headD [])
    time := ← timeIn? ((fields "committer ").headD []) }

end CommitRecord

end LicenseHeader
