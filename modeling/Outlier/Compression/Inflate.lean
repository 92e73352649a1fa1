import Outlier.Compression.Huffman

/-! Decompression of deflated data: blocks of literals and of references to what came before. -/
namespace Outlier

inductive Inflate.Defect where
  | blockType | storedLength
  | tooManySymbols | lengthCodes | lengthRepeat | noBlockEnd | literalCodes | distanceCodes
  | literalCode | distanceCode | tooFarBack
  | header | method | windowSize | headerFlags | headerChecksum | dictionary
  | dataChecksum | dataLength
  deriving DecidableEq, Repr

namespace Inflate

def Defect.text : Defect → String
  | .blockType => "invalid block type"
  | .storedLength => "invalid stored block lengths"
  | .tooManySymbols => "too many length or distance symbols"
  | .lengthCodes => "invalid code lengths set"
  | .lengthRepeat => "invalid bit length repeat"
  | .noBlockEnd => "invalid code -- missing end-of-block"
  | .literalCodes => "invalid literal/lengths set"
  | .distanceCodes => "invalid distances set"
  | .literalCode => "invalid literal/length code"
  | .distanceCode => "invalid distance code"
  | .tooFarBack => "invalid distance too far back"
  | .header => "incorrect header check"
  | .method => "unknown compression method"
  | .windowSize => "invalid window size"
  | .headerFlags => "unknown header flags set"
  | .headerChecksum => "header crc mismatch"
  | .dictionary => "need dictionary"
  | .dataChecksum => "incorrect data check"
  | .dataLength => "incorrect length check"

def Defect.message (d : Defect) : String := "Error -3 while decompressing data: " ++ d.text

/-- Why reading stops early. -/
inductive Stop where
  | ended
  | broken (d : Defect)
  deriving DecidableEq, Repr

/-- What is left to read, the lowest bit of each byte first, and what has been written. -/
structure Flow where
  bits : List Bool
  written : Array UInt8

end Inflate

/-- Reading keeps what has been written where it stops. -/
abbrev Inflate := ExceptT Inflate.Stop (StateM Inflate.Flow)

namespace Inflate
open Huffman

def byteBits (b : UInt8) : List Bool := (List.range 8).map b.toNat.testBit

def Flow.ofBytes (bs : List UInt8) : Flow := ⟨bs.flatMap byteBits, #[]⟩

def broken {α : Type} (d : Defect) : Inflate α := throw (.broken d)

def demand (holds : Bool) (d : Defect) : Inflate Unit := if holds then pure () else broken d

def bit : Inflate Bool := do
  match (← get).bits with
  | [] => throw .ended
  | b :: bits =>
    modify ({ · with bits })
    return b

/-- A number of a width, its lowest bit first. -/
def number : Nat → Inflate Nat
  | 0 => return 0
  | width + 1 => do
    let b ← bit
    return b.toNat + 2 * (← number width)

def byte : Inflate UInt8 := UInt8.ofNat <$> number 8

/-- Skips to the next whole byte. -/
def align : Inflate Unit := modify fun f => { f with bits := f.bits.drop (f.bits.length % 8) }

def write (b : UInt8) : Inflate Unit := modify fun f => { f with written := f.written.push b }

/-- The next symbol of a code; a path that no word takes is broken in the given way. -/
def symbol (d : Defect) : Tree → Inflate Nat
  | .gap => broken d
  | .leaf n => return n
  | .node zero one => do
    if ← bit then symbol d one else symbol d zero

def repeated (x : Inflate Unit) : Nat → Inflate Unit
  | 0 => return ()
  | n + 1 => do
    x
    repeated x n

/-- Copies bytes from a distance back, which may be among those that are copied. -/
def copy (distance length : Nat) : Inflate Unit := do
  demand (distance ≤ (← get).written.size) .tooFarBack
  repeated (do
    let written := (← get).written
    write (written[written.size - distance]?.getD 0)) length

/-! References: a base and a number of further bits for each symbol. -/

def lengthBases : List (Nat × Nat) :=
  [(3, 0), (4, 0), (5, 0), (6, 0), (7, 0), (8, 0), (9, 0), (10, 0), (11, 1), (13, 1), (15, 1),
    (17, 1), (19, 2), (23, 2), (27, 2), (31, 2), (35, 3), (43, 3), (51, 3), (59, 3), (67, 4),
    (83, 4), (99, 4), (115, 4), (131, 5), (163, 5), (195, 5), (227, 5), (258, 0)]

def distanceBases : List (Nat × Nat) :=
  [(1, 0), (2, 0), (3, 0), (4, 0), (5, 1), (7, 1), (9, 2), (13, 2), (17, 3), (25, 3), (33, 4),
    (49, 4), (65, 5), (97, 5), (129, 6), (193, 6), (257, 7), (385, 7), (513, 8), (769, 8),
    (1025, 9), (1537, 9), (2049, 10), (3073, 10), (4097, 11), (6145, 11), (8193, 12), (12289, 12),
    (16385, 13), (24577, 13)]

def extended (d : Defect) (bases : List (Nat × Nat)) (n : Nat) : Inflate Nat :=
  match bases[n]? with
  | some (base, width) => (base + ·) <$> number width
  | none => broken d

/-- The symbol that ends a block; literals are below it and lengths above. -/
def blockEnd : Nat := 256

/-- Symbols up to the end of the block, which are no more than the given number. -/
def symbols (literals distances : Tree) : Nat → Inflate Unit
  | 0 => throw .ended
  | fuel + 1 => do
    let n ← symbol .literalCode literals
    if n = blockEnd then return
    if n < blockEnd then write (UInt8.ofNat n)
    else
      let length ← extended .literalCode lengthBases (n - blockEnd - 1)
      let n ← symbol .distanceCode distances
      let distance ← extended .distanceCode distanceBases n
      copy distance length
    symbols literals distances fuel

/-! Blocks. -/

def stored : Inflate Unit := do
  align
  let length ← number 16
  let complement ← number 16
  demand (length + complement = 0xFFFF) .storedLength
  repeated (byte >>= write) length

/-- A code that may lack words only where it has one of a single bit, or none at all. -/
def sparseCode (d : Defect) (lengths : List Nat) : Inflate Tree :=
  match ofLengths? lengths with
  | none => broken d
  | some .gap => return .node .gap .gap
  | some tree => do
    demand (tree.isFull || lengths.all (· ≤ 1)) d
    return tree

def fixedLiterals : List Nat :=
  List.replicate 144 8 ++ List.replicate 112 9 ++ List.replicate 24 7 ++ List.replicate 8 8

def fixedDistances : List Nat := List.replicate 32 5

/-- The order in which the lengths of the code for lengths come. -/
def lengthOrder : List Nat := [16, 17, 18, 0, 8, 7, 9, 6, 10, 5, 11, 4, 12, 3, 13, 2, 14, 1, 15]

/-- Without any words each bit stands for the length zero. -/
def lengthCode (lengths : List Nat) : Inflate Tree :=
  match ofLengths? lengths with
  | none => broken .lengthCodes
  | some .gap => return .node (.leaf 0) (.leaf 0)
  | some tree => do
    demand tree.isFull .lengthCodes
    return tree

/-- Lengths by their code until there are as many as given. Three symbols repeat: the last length,
or zero for a shorter or a longer run. -/
def lengths (code : Tree) (count : Nat) (done : List Nat) : Nat → Inflate (List Nat)
  | 0 => throw .ended
  | fuel + 1 => do
    if done.length = count then return done
    let n ← symbol .lengthCodes code
    let run ← match n with
      | 16 => do
        let times := 3 + (← number 2)
        match done.getLast? with
        | some last => pure (List.replicate times last)
        | none => broken .lengthRepeat
      | 17 => do pure (List.replicate (3 + (← number 3)) 0)
      | 18 => do pure (List.replicate (11 + (← number 7)) 0)
      | n => pure [n]
    demand (done.length + run.length ≤ count) .lengthRepeat
    lengths code count (done ++ run) fuel

def dynamicCodes : Inflate (Tree × Tree) := do
  let literals := 257 + (← number 5)
  let distances := 1 + (← number 5)
  let count := 4 + (← number 4)
  demand (literals ≤ 286 && distances ≤ 30) .tooManySymbols
  let given ← (List.replicate count 3).mapM number
  let code ← lengthCode ((List.range 19).map fun n =>
    (((lengthOrder.zip given).find? (·.1 == n)).map (·.2)).getD 0)
  let all ← lengths code (literals + distances) [] (literals + distances + 1)
  demand ((all[blockEnd]?.getD 0) != 0) .noBlockEnd
  return (← sparseCode .literalCodes (all.take literals),
    ← sparseCode .distanceCodes (all.drop literals))

/-- A block, and whether it is the last one. -/
def block (fuel : Nat) : Inflate Bool := do
  let isLast ← number 1
  match ← number 2 with
  | 0 => stored
  | 1 => do
    symbols (← sparseCode .literalCodes fixedLiterals) (← sparseCode .distanceCodes fixedDistances)
      fuel
  | 2 => do
    let (literals, distances) ← dynamicCodes
    symbols literals distances fuel
  | _ => broken .blockType
  return isLast = 1

def blocks (fuel : Nat) : Nat → Inflate Unit
  | 0 => throw .ended
  | left + 1 => do
    if ← block fuel then return
    blocks fuel left

/-- All blocks. Each symbol takes a bit at least, and so does each block. -/
def data : Inflate Unit := do
  let fuel := (← get).bits.length + 1
  blocks fuel fuel

/-- The bytes that data stands for, as far as it goes, or what is wrong with it. -/
def run (x : Inflate Unit) (bs : List UInt8) : Except Defect (List UInt8) :=
  match ExceptT.run x (Flow.ofBytes bs) with
  | (.error (.broken d), _) => .error d
  | (_, flow) => .ok flow.written.toList

end Inflate
end Outlier
