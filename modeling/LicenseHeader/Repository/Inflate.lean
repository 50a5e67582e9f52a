/-!
# Compressed data

The objects of a repository are stored in the format of zlib: two bytes in front, and then blocks of
*deflated* data.  A block is stored as it is, or is a sequence of symbols, each a byte or a reference to
bytes that came before.  Symbols have codes of different lengths.  These codes are fixed, or given by
their lengths at the start of the block.

Places are counted in bits, from the lowest bit of the first byte on.  Every symbol takes at least one
bit, so there are at most as many symbols as bits.
-/

namespace LicenseHeader.Inflate

/-- The number in the next `n` bits, the lowest bit first, and the place after them. -/
def bits? (data : ByteArray) : Nat → Nat → Option (Nat × Nat)
  | 0, place => some (0, place)
  | n + 1, place =>
    if h : place / 8 < data.size then
      match bits? data n (place + 1) with
      | some (high, after) => some ((data[place / 8].toNat >>> (place % 8)) % 2 + 2 * high, after)
      | none => none
    else none

/-- Codes of up to fifteen bits.  Codes of one length follow each other in the order of their symbols,
and after them come the longer ones. -/
structure Code where
  /-- How many codes there are of each length, from one on. -/
  counts : List Nat
  /-- The symbols in the order of their codes. -/
  symbols : Array Nat

namespace Code

/-- The codes whose lengths are given for the symbols from zero on; a symbol with length zero has
none. -/
def ofLengths (lengths : List Nat) : Code :=
  let used := List.range' 1 15
  { counts := used.map fun n => lengths.count n
    symbols := (used.flatMap fun n =>
      lengths.zipIdx.filterMap fun (length, symbol) => if length = n then some symbol else none).toArray }

/-- Reads a code bit by bit.  `first` is the first code of the length reached so far, and `index` the
number of its symbol. -/
def read? (data : ByteArray) (symbols : Array Nat) :
    List Nat → (code first index place : Nat) → Option (Nat × Nat)
  | [], _, _, _, _ => none
  | count :: counts, code, first, index, place =>
    match bits? data 1 place with
    | none => none
    | some (bit, place) =>
      let code := code + bit
      if code < first + count then (symbols[index + (code - first)]?).map (·, place)
      else read? data symbols counts (2 * code) (2 * (first + count)) (index + count) place

/-- The symbol at a place, and the place after it. -/
def symbol? (c : Code) (data : ByteArray) (place : Nat) : Option (Nat × Nat) :=
  read? data c.symbols c.counts 0 0 0 place

end Code

/-- The codes for bytes, the end of a block and the lengths of references, and those for distances. -/
structure Codes where
  bytes : Code
  distances : Code

/-- The codes of a block that does not give its own. -/
def Codes.fixed : Codes where
  bytes := .ofLengths (List.replicate 144 8 ++ List.replicate 112 9 ++ List.replicate 24 7
    ++ List.replicate 8 8)
  distances := .ofLengths (List.replicate 30 5)

/-- The least length that a symbol stands for, from the symbol 257 on, and how many bits are added. -/
def lengths : Array (Nat × Nat) :=
  #[(3, 0), (4, 0), (5, 0), (6, 0), (7, 0), (8, 0), (9, 0), (10, 0), (11, 1), (13, 1), (15, 1),
    (17, 1), (19, 2), (23, 2), (27, 2), (31, 2), (35, 3), (43, 3), (51, 3), (59, 3), (67, 4), (83, 4),
    (99, 4), (115, 4), (131, 5), (163, 5), (195, 5), (227, 5), (258, 0)]

/-- The least distance that a symbol stands for, and how many bits are added. -/
def distances : Array (Nat × Nat) :=
  #[(1, 0), (2, 0), (3, 0), (4, 0), (5, 1), (7, 1), (9, 2), (13, 2), (17, 3), (25, 3), (33, 4),
    (49, 4), (65, 5), (97, 5), (129, 6), (193, 6), (257, 7), (385, 7), (513, 8), (769, 8), (1025, 9),
    (1537, 9), (2049, 10), (3073, 10), (4097, 11), (6145, 11), (8193, 12), (12289, 12), (16385, 13),
    (24577, 13)]

/-- Adds bytes that stand `distance` before the end, one after the other, so that those just added may
be taken as well. -/
def repeatBytes (distance : Nat) : Nat → ByteArray → ByteArray
  | 0, out => out
  | n + 1, out => repeatBytes distance n (out.push (out[out.size - distance]?.getD 0))

/-- The number that a symbol of a table stands for. -/
def amount? (table : Array (Nat × Nat)) (data : ByteArray) (symbol place : Nat) :
    Option (Nat × Nat) := do
  let (least, extra) ← table[symbol]?
  let (more, place) ← bits? data extra place
  return (least + more, place)

/-- Reads the symbols of a block up to its end, at most `fuel` of them. -/
def readSymbols (codes : Codes) (data : ByteArray) : Nat → Nat → ByteArray → Option (ByteArray × Nat)
  | 0, _, _ => none
  | fuel + 1, place, out =>
    match codes.bytes.symbol? data place with
    | none => none
    | some (symbol, place) =>
      if symbol < 256 then readSymbols codes data fuel place (out.push symbol.toUInt8)
      else if symbol = 256 then some (out, place)
      else
        match amount? lengths data (symbol - 257) place with
        | none => none
        | some (length, place) =>
          match codes.distances.symbol? data place with
          | none => none
          | some (symbol, place) =>
            match amount? distances data symbol place with
            | none => none
            | some (distance, place) =>
              if out.size < distance then none
              else readSymbols codes data fuel place (repeatBytes distance length out)

/-- The order in which the lengths of the codes for lengths are given. -/
def lengthOrder : List Nat := [16, 17, 18, 0, 8, 7, 9, 6, 10, 5, 11, 4, 12, 3, 13, 2, 14, 1, 15]

def readTriples (data : ByteArray) : Nat → Nat → Option (List Nat × Nat)
  | 0, place => some ([], place)
  | n + 1, place => do
    let (length, place) ← bits? data 3 place
    let (rest, place) ← readTriples data n place
    return (length :: rest, place)

/-- Reads code lengths, the last one first in `found`, until there are `count`.  A length may be
repeated, and so may zero. -/
def readLengths (code : Code) (data : ByteArray) (count : Nat) :
    Nat → Nat → List Nat → Option (List Nat × Nat)
  | 0, _, _ => none
  | fuel + 1, place, found =>
    if count ≤ found.length then if found.length = count then some (found.reverse, place) else none
    else
      match code.symbol? data place with
      | none => none
      | some (symbol, place) =>
        if symbol < 16 then readLengths code data count fuel place (symbol :: found)
        else
          let (length, least, extra) :=
            if symbol = 16 then (found.head?, 3, 2) else if symbol = 17 then (some 0, 3, 3)
            else (some 0, 11, 7)
          match length, bits? data extra place with
          | some length, some (more, place) =>
            readLengths code data count fuel place (List.replicate (least + more) length ++ found)
          | _, _ => none

def readCodes (data : ByteArray) (place : Nat) : Option (Codes × Nat) := do
  let (more, place) ← bits? data 5 place
  let (far, place) ← bits? data 5 place
  let (given, place) ← bits? data 4 place
  let (triples, place) ← readTriples data (given + 4) place
  let code := Code.ofLengths ((List.range 19).map fun symbol =>
    (((lengthOrder.zip triples).find? (·.1 = symbol)).map Prod.snd).getD 0)
  let count := more + 257
  let (found, place) ← readLengths code data (count + far + 1) (count + far + 2) place []
  return (⟨.ofLengths (found.take count), .ofLengths (found.drop count)⟩, place)

/-- Reads a block that is stored as it is, from the next whole byte on. -/
def readStored (data : ByteArray) (place : Nat) (out : ByteArray) : Option (ByteArray × Nat) := do
  let start := (place + 7) / 8 * 8
  let (length, start) ← bits? data 16 start
  let (_, start) ← bits? data 16 start
  let stop := start / 8 + length
  if stop ≤ data.size then return (out ++ data.extract (start / 8) stop, 8 * stop) else none

/-- Reads blocks up to the last one, at most `fuel` of them. -/
def readBlocks (data : ByteArray) : Nat → Nat → ByteArray → Option ByteArray
  | 0, _, _ => none
  | fuel + 1, place, out =>
    match bits? data 1 place, bits? data 2 (place + 1) with
    | some (last, _), some (kind, place) =>
      let read :=
        match kind with
        | 0 => readStored data place out
        | 1 => readSymbols .fixed data (8 * data.size) place out
        | 2 => (readCodes data place).bind fun (codes, place) =>
          readSymbols codes data (8 * data.size) place out
        | _ => none
      match read with
      | none => none
      | some (out, place) => if last = 1 then some out else readBlocks data fuel place out
    | _, _ => none

end Inflate

/-- The data that is compressed from the byte `start` on. -/
def inflate? (data : ByteArray) (start : Nat) : Option ByteArray := do
  let method ← data[start]?
  if method.toNat % 16 = 8 then Inflate.readBlocks data (8 * data.size) (8 * (start + 2)) .empty
  else none

end LicenseHeader
