import LivePages.Text.Utf8

/-!
Percent-encoding: unreserved characters stand for themselves, every other octet is `%HH` with
upper-case digits.
-/

namespace LivePages.Text.Percent

/-- Letters, digits and `-`, `_`, `.`, `~`. -/
def unreserved (c : Char) : Bool :=
  c.isAlphanum || c == '-' || c == '_' || c == '.' || c == '~'

def hexDigit (n : Nat) : Char :=
  if n < 10 then Char.ofNat (48 + n) else Char.ofNat (55 + n)

def octet (b : UInt8) : List Char :=
  ['%', hexDigit (b.toNat / 16), hexDigit (b.toNat % 16)]

/-- `keep` says which characters beside letters and digits stand for themselves. -/
def encodeKeeping (keep : Char → Bool) (s : List Char) : List Char :=
  s.flatMap fun c =>
    if keep c then [c] else (Utf8.octets c).flatMap octet

def encode (s : List Char) : List Char :=
  encodeKeeping unreserved s

theorem encode_append (s t : List Char) : encode (s ++ t) = encode s ++ encode t := by
  simp [encode, encodeKeeping]

def escape (s : String) : String :=
  String.ofList (encode s.toList)

end LivePages.Text.Percent
