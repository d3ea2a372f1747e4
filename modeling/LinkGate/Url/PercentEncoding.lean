import LinkGate.Text.RunTable

/-!
# Percent encoding

A byte can be written as a percent sign and two hexadecimal digits. Each part of an address has its
own set of ASCII characters that must be written so; control characters and all bytes beyond ASCII
always are.
-/

namespace LinkGate.Url

def isHexDigit (c : Char) : Bool :=
  c.isDigit || ('a' ≤ c && c ≤ 'f') || ('A' ≤ c && c ≤ 'F')

def percentDecode : List Char → List UInt8
  | '%' :: a :: b :: rest =>
    if isHexDigit a && isHexDigit b then
      UInt8.ofNat (16 * Text.hexDigitValue a + Text.hexDigitValue b) :: percentDecode rest
    else 0x25 :: percentDecode (a :: b :: rest)
  | c :: rest => (String.singleton c).toUTF8.toList ++ percentDecode rest
  | [] => []
termination_by s => s.length

def percentByte (b : UInt8) : List Char :=
  ['%', (Nat.digitChar (b.toNat / 16)).toUpper, (Nat.digitChar (b.toNat % 16)).toUpper]

/-- A row of characters with those encoded that are control characters, beyond ASCII, or in the
given set. -/
def percentEncode (reserved : List Char) (s : List Char) : List Char :=
  s.flatMap fun c =>
    if c.toNat < 0x20 || 0x7F ≤ c.toNat || reserved.contains c then
      (String.singleton c).toUTF8.toList.flatMap percentByte
    else [c]

/-! ## What is reserved in each part -/

def fragmentReserved : List Char := [' ', '"', '<', '>', '\x60']

def pathReserved : List Char := fragmentReserved ++ ['#', '?', '\x7b', '\x7d']

def userReserved : List Char := pathReserved ++ ['/', ':', ';', '=', '@', '[', '\\', ']', '^', '|']

def queryReserved : List Char := [' ', '"', '#', '<', '>']

def specialQueryReserved : List Char := queryReserved ++ ['\'']

end LinkGate.Url
