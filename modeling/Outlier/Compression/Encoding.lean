import Outlier.Compression.Container

/-! The encodings of content: how content is packed, by the names that a header gives. -/
namespace Outlier

inductive Encoding where
  | gzip
  | deflate
  deriving DecidableEq, Repr

namespace Encoding

def name : Encoding → String
  | .gzip => "gzip"
  | .deflate => "deflate"

/-- Names that are not known say nothing. -/
def ofName? (s : String) : Option Encoding := [gzip, deflate].find? (·.name == s)

/-- What packed content stands for. Deflated data may come without a container. -/
def unpack (bs : List UInt8) : Encoding → Except Inflate.Defect (List UInt8)
  | .gzip => Inflate.run (Inflate.member bs) bs
  | .deflate => match Inflate.run Inflate.plain bs with
    | .ok content => .ok content
    | .error _ => Inflate.run Inflate.data bs

end Encoding
end Outlier
