import Outlier.Charset.Grid

/-! The characters that Windows has beside those of Big5, or in place of them. -/
namespace Outlier.Charset.Grid

def windowsBig5 : Grid := ⟨[
  (0xA140, "     ‧        ﹑"),
  (0xA1A1, "                                 ¯                                ～              ⊕⊙"),
  (0xA240, " ∕﹨ ￥ ￠￡"),
  (0xA3A1, "                                                                €"),
  (0xF9A1, "                                                     碁銹裏墻恒粧嫺╔╦╗╠╬╣╚╩╝╒╤╕╞╪╡╘╧╛╓╥╖╟╫╢╙╨╜║═╭╮╰╯▓")]⟩

end Outlier.Charset.Grid
