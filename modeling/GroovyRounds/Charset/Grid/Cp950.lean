import GroovyRounds.Charset.Grid

/-!
# Code page 950

The characters that code page 950 adds to Big5 or has instead.
-/

namespace GroovyRounds.Charset.Grid

/-- Characters by code. -/
def cp950Only : Grid := ⟨[
  (0xa145, "‧"),
  (0xa14e, "﹑"),
  (0xa1c2, "¯"),
  (0xa1e3, "～"),
  (0xa1f2, "⊕⊙"),
  (0xa241, "∕﹨\ufffd￥\ufffd￠￡"),
  (0xa3e1, "€"),
  (0xf9d6, "碁銹裏墻恒粧嫺╔╦╗╠╬╣╚╩╝╒╤╕╞╪╡╘╧╛╓╥╖╟╫╢╙╨╜║═╭╮╰╯▓")]⟩

end GroovyRounds.Charset.Grid
