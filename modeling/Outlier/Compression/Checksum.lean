/-! Checksums of bytes. -/
namespace Outlier.Checksum

/-- Two sums modulo the largest prime below 65536: of the bytes, and of all the sums so far. -/
def adler (bs : List UInt8) : Nat :=
  let (a, b) := bs.foldl (fun (a, b) x =>
    let a := (a + x.toNat) % 65521
    (a, (b + a) % 65521)) (1, 0)
  b * 65536 + a

/-- One bit of the remainder of a division by the polynomial of degree 32. -/
def cyclicBit (c : UInt32) : UInt32 :=
  if c &&& 1 = 1 then (c >>> 1) ^^^ 0xEDB88320 else c >>> 1

def cyclicByte (c : UInt32) (b : UInt8) : UInt32 :=
  (List.range 8).foldl (fun c _ => cyclicBit c) (c ^^^ b.toUInt32)

def cyclic (bs : List UInt8) : Nat := ((bs.foldl cyclicByte 0xFFFFFFFF) ^^^ 0xFFFFFFFF).toNat

end Outlier.Checksum
