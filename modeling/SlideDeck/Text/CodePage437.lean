/-!
# Code page 437

The characters of code page 437, in which old archives write names. Its first half is ASCII.
-/

namespace SlideDeck.Text.CodePage437

/-- The characters of the bytes from 128 on. -/
def upperHalf : List Char :=
  "ÇüéâäàåçêëèïîìÄÅÉæÆôöòûùÿÖÜ¢£¥₧ƒ".toList ++
  "áíóúñÑªº¿⌐¬½¼¡«»░▒▓│┤╡╢╖╕╣║╗╝╜╛┐".toList ++
  "└┴┬├─┼╞╟╚╔╩╦╠═╬╧╨╤╥╙╘╒╓╫╪┘┌█▄▌▐▀".toList ++
  "αßΓπΣσµτΦΘΩδ∞φε∩≡±≥≤⌠⌡÷≈°∙·√ⁿ²■\u00a0".toList

/-- The character of a byte. -/
def char (byte : UInt8) : Char :=
  if byte < 128 then Char.ofNat byte.toNat else upperHalf.getD (byte.toNat - 128) ' '

/-- The text that bytes stand for. -/
def decode (bytes : ByteArray) : String := String.ofList (bytes.toList.map char)

end SlideDeck.Text.CodePage437
