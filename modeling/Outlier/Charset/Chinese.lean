import Outlier.Charset.Grid.Big5
import Outlier.Charset.Grid.Gb2312
import Outlier.Charset.Grid.Gbk
import Outlier.Charset.Grid.HongKong
import Outlier.Charset.Grid.WindowsBig5
import Outlier.Charset.Piece
import Outlier.Text.CodeSet

/-! Character sets of the Chinese script with two bytes for a character, or four. -/
namespace Outlier.Charset.Chinese

/-- The place of a second byte from 0x40 on, without 0x7F. -/
def place? (b : UInt8) : Option Nat :=
  if b < 0x40 ∨ b = 0x7F ∨ b = 0xFF then none
  else some (if b < 0x7F then b.toNat - 0x40 else b.toNat - 0x41)

/-- The width of the lines of the grid, two of which belong to each first byte. -/
def width : Nat := 95

def gbkOnly? (a b : UInt8) : Option Char := do
  let n ← place? b
  Grid.gbk.cell? (a.toNat * 0x100 + if n < width then 0x40 else 0xA0) (n % width)

def gbk? (a b : UInt8) : Option Char := gbkOnly? a b <|> Grid.gb2312.high? a b

/-- The line of a grid that two bytes lie in, and the column. -/
def big5Cell? (g : Grid) (a b : UInt8) : Option Char :=
  if 0x40 ≤ b ∧ b < 0x7F then g.cell? (a.toNat * 0x100 + 0x40) (b.toNat - 0x40)
  else if 0xA1 ≤ b then g.cell? (a.toNat * 0x100 + 0xA1) (b.toNat - 0xA1)
  else none

def big5? (a b : UInt8) : Option Char := big5Cell? Grid.big5 a b

def windowsBig5? (a b : UInt8) : Option Char := big5Cell? Grid.windowsBig5 a b <|> big5? a b

/-- The letters with two accents, by their codes. -/
def accented : List (Nat × List Char) :=
  [(0x8862, ['\u00CA', '\u0304']), (0x8864, ['\u00CA', '\u030C']),
    (0x88A3, ['\u00EA', '\u0304']), (0x88A5, ['\u00EA', '\u030C'])]

/-- From the code 0xC6A1 up to the first byte 0xC8 the characters of Big5 have no place. -/
def hongKong? (a b : UInt8) : Option (List Char) :=
  let code := a.toNat * 0x100 + b.toNat
  let old := if 0xC6A1 ≤ code ∧ code < 0xC900 then none else big5? a b
  ((big5Cell? Grid.hongKong a b <|> old).map ([·])) <|> accented.lookup code

/-! GB 18030 fills what GBK leaves, and reaches all other characters with four bytes. -/

/-- Runs of two bytes with the codes that they stand for. -/
def pairRuns : String := "
  777E=E4C6-E525 783C=E526-E585 78A6=E766-E76B 78DE=20AC 78DF=E76D 78EA=E76E-E76F 78F8=E770-E771
  78FA=E586-E5E5 79B8=E5E6-E645 7A6B=E772-E77C 7A76=E646-E6A5 7B2C=E77D-E784 7B34=E6A6-E705
  7BAC=E785-E78C 7BCC=E78D-E793 7BDF=E794-E795 7BE6=E796 7BE9=E797-E79F 7BF2=E706-E765
  7C73=E7A0-E7AE 7CA3=E7AF-E7BB 7D05=E7BC-E7C6 7D2B=E7C7 7D2E=1F9 7D30=E7C9-E7CC 7D59=E7CD-E7E1
  7D86=E7E2 7D89=E7E3 7D8B=E7E4-E7E6 7DB6=303E 7DB7=2FF0-2FFB 7DC4=E7F4-E800 7E1D=E801-E80F
  7E8C=E000-E05D 7F4A=E05E-E0BB 8008=E0BC-E119 80C6=E11A-E177 8184=E178-E1D5 8242=E1D6-E233
  A04B=E810-E814 B870=E234-E291 B92E=E292-E2EF B9EC=E2F0-E34D BAAA=E34E-E3AB BB68=E3AC-E409
  BC26=E40A-E467 BC94=2E81 BC95=E816-E818 BC98=2E84 BC99=3473 BC9A=3447 BC9B=2E88 BC9C=2E8B
  BC9D=E81E BC9E=359E BC9F=361A BCA0=360E BCA1=2E8C BCA2=2E97 BCA3=396E BCA4=3918 BCA5=E826
  BCA6=39CF BCA7=39DF BCA8=3A73 BCA9=39D0 BCAA=E82B-E82C BCAC=3B4E BCAD=3C6E BCAE=3CE0 BCAF=2EA7
  BCB0=E831-E832 BCB2=2EAA BCB3=4056 BCB4=415F BCB5=2EAE BCB6=4337 BCB7=2EB3 BCB8=2EB6-2EB7
  BCBA=E83B BCBB=43B1 BCBC=43AC BCBD=2EBB BCBE=43DD BCBF=44D6 BCC0=4661 BCC1=464C BCC2=E843
  BCC3=4723 BCC4=4729 BCC5=477C BCC6=478D BCC7=2ECA BCC8=4947 BCC9=497A BCCA=497D BCCB=4982-4983
  BCCD=4985-4986 BCCF=499F BCD0=499B BCD1=49B7 BCD2=49B6 BCD3=E854-E855 BCD5=4CA3 BCD6=4C9F-4CA1
  BCD9=4C77 BCDA=4CA2 BCDB=4D13-4D19 BCE2=4DAE BCE3=E864 BCE4=E468-E4C5"

/-- Where runs of codes of four bytes begin, and the codes that they stand for. -/
def fourRuns : String := "
  0=80-A3 24=A5-A6 26=A9-AF 2D=B2-B6 32=B8-D6 51=D8-DF 59=E2-E7 5F=EB 60=EE-F1 64=F4-F6 67=F8
  68=FB 69=FD-100 6D=102-112 7E=114-11A 85=11C-12A 94=12C-143 AC=145-147 AF=149-14C B3=14E-16A
  D0=16C-1CD 132=1CF 133=1D1 134=1D3 135=1D5 136=1D7 137=1D9 138=1DB 139=1DD-1F8 155=1FA-250
  1AC=252-260 1BB=262-2C6 220=2C8 221=2CC-2D8 22E=2DA-390 2E5=3A2 2E6=3AA-3B0 2ED=3C2 2EE=3CA-400
  325=402-40F 333=450 334=452-200F 1EF2=2011-2012 1EF4=2017 1EF5=201A-201B 1EF7=201E-2024
  1EFE=2027-202F 1F07=2031 1F08=2034 1F09=2036-203A 1F0E=203C-20AB 1F7E=20AD-2102 1FD4=2104
  1FD5=2106-2108 1FD8=210A-2115 1FE4=2117-2120 1FEE=2122-215F 202C=216C-216F 2030=217A-218F
  2046=2194-2195 2048=219A-2207 20B6=2209-220E 20BC=2210 20BD=2212-2214 20C0=2216-2219
  20C4=221B-221C 20C6=2221-2222 20C8=2224 20C9=2226 20CA=222C-222D 20CC=222F-2233 20D1=2238-223C
  20D6=223E-2247 20E0=2249-224B 20E3=224D-2251 20E8=2253-225F 20F5=2262-2263 20F7=2268-226D
  20FD=2270-2294 2122=2296-2298 2125=229A-22A4 2130=22A6-22BE 2149=22C0-2311 219B=2313-245F
  22E8=246A-2473 22F2=249C-24FF 2356=254C-254F 235A=2574-2580 2367=2590-2592 236A=2596-259F
  2374=25A2-25B1 2384=25B4-25BB 238C=25BE-25C5 2394=25C8-25CA 2397=25CC-25CD 2399=25D0-25E1
  23AB=25E6-2604 23CA=2607-2608 23CC=260A-263F 2402=2641 2403=2643-2E80 2C41=2E82-2E83
  2C43=2E85-2E87 2C46=2E89-2E8A 2C48=2E8D-2E96 2C52=2E98-2EA6 2C61=2EA8-2EA9 2C63=2EAB-2EAD
  2C66=2EAF-2EB2 2C6A=2EB4-2EB5 2C6C=2EB8-2EBA 2C6F=2EBC-2EC9 2C7D=2ECB-2FEF 2DA2=2FFC-2FFF
  2DA6=3004 2DA7=3018-301C 2DAC=301F-3020 2DAE=302A-303D 2DC2=303F-3040 2DC4=3094-309A
  2DCB=309F-30A0 2DCD=30F7-30FB 2DD2=30FF-3104 2DD8=312A-321F 2ECE=322A-3230 2ED5=3232-32A2
  2F46=32A4-338D 3030=3390-339B 303C=339F-33A0 303E=33A2-33C3 3060=33C5-33CD 3069=33CF-33D0
  306B=33D3-33D4 306D=33D6-3446 30DE=3448-3472 3109=3474-359D 3233=359F-360D 32A2=360F-3619
  32AD=361B-3917 35AA=3919-396D 35FF=396F-39CE 365F=39D1-39DE 366D=39E0-3A72 3700=3A74-3B4D
  37DA=3B4F-3C6D 38F9=3C6F-3CDF 396A=3CE1-4055 3CDF=4057-415E 3DE7=4160-4336 3FBE=4338-43AB
  4032=43AD-43B0 4036=43B2-43DC 4061=43DE-44D5 4159=44D7-464B 42CE=464D-4660 42E2=4662-4722
  43A3=4724-4728 43A8=472A-477B 43FA=477D-478C 440A=478E-4946 45C3=4948-4979 45F5=497B-497C
  45F7=497E-4981 45FB=4984 45FC=4987-499A 4610=499C-499E 4613=49A0-49B5 4629=49B8-4C76
  48E8=4C78-4C9E 490F=4CA4-4D12 497E=4D1A-4DAD 4A12=4DAF-4DFF 4A63=9FA6-D7FF 82BD=E76C 82BE=E7C8
  82BF=E7E7-E7F3 82CC=E815 82CD=E819-E81D 82D2=E81F-E825 82D9=E827-E82A 82DD=E82D-E830
  82E1=E833-E83A 82E9=E83C-E842 82F0=E844-E853 8300=E856-E863 830E=E865-F92B 93D5=F92D-F978
  9421=F97A-F994 943C=F996-F9E6 948D=F9E8-F9F0 9496=F9F2-FA0B 94B0=FA10 94B1=FA12 94B2=FA15-FA17
  94B5=FA19-FA1E 94BB=FA22 94BC=FA25-FA26 94BE=FA2A-FE2F 98C4=FE32 98C5=FE45-FE48 98C9=FE53
  98CA=FE58 98CB=FE67 98CC=FE6C-FF00 9961=FF5F-FFDF 99E2=FFE6-FFFF"

def readRun? (s : String) : Option (Nat × Nat × Nat) :=
  match s.splitOn "=" with
  | [start, codes] => (CodeSet.readRange? codes).map fun (first, last) =>
    (CodeSet.hexValue start, first, last)
  | _ => none

def runs (s : String) : List (Nat × Nat × Nat) := (CodeSet.words s).filterMap readRun?

/-- The character at a place in runs of consecutive places. -/
def find? (runs : List (Nat × Nat × Nat)) (place : Nat) : Option Char :=
  runs.findSome? fun (start, first, last) =>
    if start ≤ place ∧ place - start ≤ last - first then some (Char.ofNat (first + (place - start)))
    else none

/-- The number of second bytes. -/
def breadth : Nat := 190

def pair? (a b : UInt8) : Option Char :=
  gbk? a b <|> do
    find? (runs pairRuns) (a.toNat * breadth + (← place? b))

/-- The characters beyond U+FFFF come in order from this first byte on. -/
def upperLead : UInt8 := 0x90

def four? (a b c d : UInt8) : Option Char :=
  if 0x81 ≤ a ∧ a ≤ 0xFE ∧ 0x81 ≤ c ∧ c ≤ 0xFE ∧ 0x30 ≤ d ∧ d ≤ 0x39 then
    let low := (b.toNat - 0x30) * 1260 + (c.toNat - 0x81) * 10 + (d.toNat - 0x30)
    if a < 0x85 then find? (runs fourRuns) ((a.toNat - 0x81) * 12600 + low)
    else if a < upperLead then none
    else
      let n := 0x10000 + (a.toNat - upperLead.toNat) * 12600 + low
      if n ≤ 0x10FFFF then some (Char.ofNat n) else none
  else none

def gb18030 : List UInt8 → Piece
  | a :: b :: bs =>
    if 0x80 ≤ a ∧ 0x30 ≤ b ∧ b ≤ 0x39 then match bs with
      | c :: d :: _ => .ofChar? 4 1 (four? a b c d)
      | _ => .cut
    else .paired pair? (a :: b :: bs)
  | bs => .paired pair? bs

/-! HZ switches between ASCII and GB 2312 in seven bits with a tilde and a mark. -/

def hz (within : Bool) : List UInt8 → Piece × Bool
  | [] => (.cut, within)
  | 0x7E :: [] => (.cut, within)
  | 0x7E :: b :: _ =>
    if within then if b = 0x7D then (.chars [] 2, false) else (.malformed 1, true)
    else if b = 0x7E then (.chars ['~'] 2, false)
    else if b = 0x7B then (.chars [] 2, true)
    else if b = 0x0A then (.chars [] 2, false)
    else (.malformed 1, false)
  | a :: bs =>
    if 0x80 ≤ a then (.malformed 1, within)
    else if !within then (.ofByte a, false)
    else match bs with
      | [] => (.cut, true)
      | b :: _ => (.ofChar? 2 1 (Grid.gb2312.low? a b), true)

end Outlier.Charset.Chinese
