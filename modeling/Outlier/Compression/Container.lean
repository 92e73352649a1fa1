import Outlier.Compression.Checksum
import Outlier.Compression.Inflate

/-! Containers of deflated data: a header in front and checksums behind. -/
namespace Outlier.Inflate

/-- A number of four bytes, the highest first. -/
def bigNumber : Inflate Nat := do
  let bs ← [8, 8, 8, 8].mapM number
  return bs.foldl (256 * · + ·) 0

def writtenBytes : Inflate (List UInt8) := do return (← get).written.toList

/-- The plain container: method and window in one byte, then flags that make both divisible. -/
def plainHeader : Inflate Unit := do
  let first ← number 8
  let flags ← number 8
  demand ((256 * first + flags) % 31 = 0) .header
  demand (first % 16 = 8) .method
  demand (first / 16 ≤ 7) .windowSize
  if flags.testBit 5 then
    let _ ← number 32
    broken .dictionary

def plain : Inflate Unit := do
  plainHeader
  data
  align
  let sum ← bigNumber
  demand (sum = Checksum.adler (← writtenBytes)) .dataChecksum

/-- Bytes up to a zero, which are no more than the given number. -/
def skipText : Nat → Inflate Unit
  | 0 => throw .ended
  | left + 1 => do
    if (← number 8) = 0 then return
    skipText left

/-- The header of a member: method, flags, and the parts that the flags announce. -/
def memberHeader (input : List UInt8) : Inflate Unit := do
  let magic ← number 16
  demand (magic = 0x8B1F) .header
  let method ← number 8
  let flags ← number 8
  demand (method = 8) .method
  demand (flags < 0x20) .headerFlags
  repeated (discard byte) 6
  if flags.testBit 2 then repeated (discard byte) (← number 16)
  if flags.testBit 3 then skipText (input.length + 1)
  if flags.testBit 4 then skipText (input.length + 1)
  if flags.testBit 1 then
    let header := input.take (input.length - (← get).bits.length / 8)
    let sum ← number 16
    demand (sum = Checksum.cyclic header % 65536) .headerChecksum

/-- The first member of a file with checksum and length. -/
def member (input : List UInt8) : Inflate Unit := do
  memberHeader input
  data
  align
  let sum ← number 32
  demand (sum = Checksum.cyclic (← writtenBytes)) .dataChecksum
  let length ← number 32
  demand (length = (← writtenBytes).length % 0x100000000) .dataLength

end Outlier.Inflate
