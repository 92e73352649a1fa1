import Outlier.Charset.Chinese
import Outlier.Charset.Escaped
import Outlier.Charset.Japanese
import Outlier.Charset.Korean
import Outlier.Charset.Page.Dos
import Outlier.Charset.Page.Ebcdic
import Outlier.Charset.Page.Mac
import Outlier.Charset.Page.Other
import Outlier.Charset.Page.Windows
import Outlier.Charset.Switched
import Outlier.Charset.Unreadable
import Outlier.Charset.Utf7
import Outlier.Hostname.Punycode

/-! The character sets that are known, by their names. -/
namespace Outlier

/-- A character set: its name, other names, and how bytes are read. -/
structure Charset where
  name : String
  others : List String
  read : List UInt8 → Except Unreadable Utf8.Output

namespace Charset

/-- A set by its names, with blanks between them, and what is wrong with bytes that it does not
read. -/
def makePartial (names : String) (u : Unreadable) (read? : List UInt8 → Option Utf8.Output) :
    Charset :=
  let all := CodeSet.words names
  ⟨all.headD "", all.tail, fun bs => (read? bs).elim (.error u) .ok⟩

def make (names : String) (read : List UInt8 → Utf8.Output) : Charset :=
  makePartial names .notText fun bs => some (read bs)

def ofPage (p : Page) : Charset := make p.names p.decode

/-- Bytes after a mark at the beginning. The beginning of a mark alone is nothing. -/
def readSigned (bs : List UInt8) : Utf8.Output :=
  let mark : List UInt8 := [0xEF, 0xBB, 0xBF]
  if bs.isPrefixOf mark then []
  else Utf8.scan .start (if mark.isPrefixOf bs then bs.drop 3 else bs)

def unicode : List Charset :=
  [make "utf_8 u8 utf utf8 utf8_ucs2 utf8_ucs4 cp65001" (Utf8.scan .start),
    make "utf_8_sig" readSigned,
    make "utf_16_be unicodebigunmarked utf_16be" (Piece.read (Wide.units16 .high)),
    make "utf_16_le unicodelittleunmarked utf_16le" (Piece.read (Wide.units16 .low)),
    make "utf_32_be utf_32be" (Piece.read (Wide.units32 .high)),
    make "utf_32_le utf_32le" (Piece.read (Wide.units32 .low)),
    make "utf_7 u7 utf7 unicode_1_1_utf_7" Utf7.outside,
    make "raw_unicode_escape" (Piece.read Escaped.raw),
    make "unicode_escape" (Piece.read Escaped.full)]

def marked : List Charset :=
  [makePartial "utf_16 u16 utf16" (.unmarked 2) (Wide.marked? 2 Wide.units16),
    makePartial "utf_32 u32 utf32" (.unmarked 4) (Wide.marked? 4 Wide.units32)]

def switched (families : List (String × Switched.Family)) : List Charset :=
  families.map fun (names, f) => makePartial names .longSequence (Switched.read? f)

def chinese : List Charset :=
  [make "gb2312 chinese csiso58gb231280 euc_cn euccn eucgb2312_cn gb2312_1980 gb2312_80 iso_ir_58
      x_mac_simp_chinese" (Piece.read (.paired Grid.gb2312.high?)),
    make "gbk 936 cp936 ms936" (Piece.read (.paired Chinese.gbk?)),
    make "gb18030 gb18030_2000" (Piece.read Chinese.gb18030),
    make "hz hzgb hz_gb hz_gb_2312" (Piece.readFrom Chinese.hz false),
    make "big5 big5_tw csbig5 x_mac_trad_chinese" (Piece.read (.paired Chinese.big5?)),
    make "big5hkscs big5_hkscs hkscs" (Piece.read (.pairedChars Chinese.hongKong?)),
    make "cp950 950 ms950" (Piece.read (.paired Chinese.windowsBig5?))]

def japanese : List Charset :=
  [make "shift_jis csshiftjis shiftjis sjis s_jis x_mac_japanese" (Piece.read Japanese.shifted),
    make "cp932 932 ms932 mskanji ms_kanji" (Piece.read Japanese.windows),
    make "euc_jp eucjp ujis u_jis" (Piece.read Japanese.extended),
    make "euc_jis_2004 jisx0213 eucjis2004 euc_jis2004" (Piece.read (Jis2004.extended .newer)),
    make "euc_jisx0213 eucjisx0213" (Piece.read (Jis2004.extended .older)),
    make "shift_jis_2004 shiftjis2004 sjis_2004 s_jis_2004" (Piece.read (Jis2004.shifted .newer)),
    make "shift_jisx0213 shiftjisx0213 sjisx0213 s_jisx0213"
      (Piece.read (Jis2004.shifted .older))] ++ switched
      [("iso2022_jp csiso2022jp iso2022jp iso_2022_jp", Switched.japanese),
        ("iso2022_jp_1 iso2022jp_1 iso_2022_jp_1", Switched.japanese1),
        ("iso2022_jp_2 iso2022jp_2 iso_2022_jp_2", Switched.japanese2),
        ("iso2022_jp_3 iso2022jp_3 iso_2022_jp_3", Switched.japanesePlanes .older 0x4F),
        ("iso2022_jp_2004 iso_2022_jp_2004 iso2022jp_2004", Switched.japanesePlanes .newer 0x51),
        ("iso2022_jp_ext iso2022jp_ext iso_2022_jp_ext", Switched.japaneseExtended)]

def korean : List Charset :=
  [make "euc_kr euckr korean ksc5601 ks_c_5601 ks_c_5601_1987 ksx1001 ks_x_1001 x_mac_korean"
      (Piece.read Korean.extended),
    make "cp949 949 ms949 uhc" (Piece.read (.paired Korean.windowsPair?)),
    make "johab cp1361 ms1361" (Piece.read (.paired Korean.johab?))] ++
    switched [("iso2022_kr csiso2022kr iso2022kr iso_2022_kr", Switched.koreanShifted)]

/-- Only what comes before the last hyphen may be other than ASCII. -/
def readPunycode (bs : List UInt8) : Except Unreadable Utf8.Output :=
  let (front, rest) := Punycode.splitLast (bs.map fun b => Char.ofNat b.toNat)
  match rest.zipIdx.find? (!isAscii ·.1) with
  | some (c, n) => .error (.notAscii (UInt8.ofNat c.toNat) n)
  | none =>
    let front := front.map fun c => if isAscii c then c else '\uFFFD'
    .ok ((Punycode.decodeLossy front rest).map some)

/-- Encodings that are no character sets. -/
def unreadable : List Charset :=
  [⟨"punycode", [], readPunycode⟩, refused "idna" .strictOnly, refused "undefined" .undefined,
    refused "rot_13 rot13" .notBytes] ++
  ["hex_codec hex", "base64_codec base64 base_64", "bz2_codec bz2", "uu_codec uu",
    "zlib_codec zip zlib", "quopri_codec quopri quoted_printable quotedprintable"].map
    fun names => refused names .notText
where
  refused (names : String) (u : Unreadable) : Charset := makePartial names u fun _ => none

def pages : List Charset :=
  (Page.iso ++ Page.windows ++ Page.dos ++ Page.ebcdic ++ Page.mac ++ Page.other).map ofPage

def known : List Charset :=
  unicode ++ marked ++ chinese ++ japanese ++ korean ++ unreadable ++ pages

/-- A name in lower case with one low line for each run of other marks, dots apart. -/
def normalized (s : String) : String :=
  let words := (s.toList.map Char.toLower).splitOnP fun c => !(c.isAlphanum || c == '.')
  "_".intercalate ((words.filter (!·.isEmpty)).map String.ofList)

def dotless (s : String) : String :=
  String.ofList (s.toList.map fun c => if c = '.' then '_' else c)

/-- Dots in a name may stand for low lines, but for the first name of a set. -/
def isNamed (set : Charset) (name : String) : Bool :=
  set.name == name || set.others.contains name || set.others.contains (dotless name)

def ofName? (s : String) : Option Charset := known.find? (·.isNamed (normalized s))

/-- The text of bytes, with malformed parts replaced. -/
def text (set : Charset) (bs : List UInt8) : Except Unreadable String :=
  (set.read bs).map fun out => String.ofList (out.map (·.getD '\uFFFD'))

/-- The text of bytes of which none are malformed. -/
def strictText? (set : Charset) (bs : List UInt8) : Option String :=
  match set.read bs with
  | .ok out => (out.mapM id).map String.ofList
  | .error _ => none

end Charset
end Outlier
