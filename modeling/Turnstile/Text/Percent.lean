import Turnstile.Text.Hex

/-!
Percent-decoding of one segment of a request path. An escape that is not followed by two
hexadecimal digits stands for itself; the decoded bytes have to be UTF-8.
-/

namespace Turnstile.Text

/-- The bytes of a text in which every escape is replaced by the byte it names. -/
def unescape : List UInt8 → List UInt8
  | 0x25 :: high :: low :: rest =>
    match hexValue? (Char.ofNat high.toNat), hexValue? (Char.ofNat low.toNat) with
    | some h, some l => UInt8.ofNat (h * 16 + l) :: unescape rest
    | _, _ => 0x25 :: unescape (high :: low :: rest)
  | byte :: rest => byte :: unescape rest
  | [] => []
termination_by bytes => bytes.length

/-- The text that a percent-encoded segment names, if its bytes are UTF-8. -/
def percentDecode? (s : String) : Option String :=
  String.fromUTF8? ⟨(unescape s.toUTF8.toList).toArray⟩

end Turnstile.Text
