/-!
UTF-8 as a machine that reads one octet at a time. `decode?` refuses ill-formed text; `decodeLossy`
writes U+FFFD for each maximal part of it that begins no character.
-/

namespace LivePages.Text.Utf8

/-- The octets of one character. -/
def octets (c : Char) : List UInt8 :=
  let n := c.toNat
  if n < 0x80 then [n.toUInt8]
  else if n < 0x800 then [(0xC0 + n / 64).toUInt8, (0x80 + n % 64).toUInt8]
  else if n < 0x10000 then
    [(0xE0 + n / 4096).toUInt8, (0x80 + n / 64 % 64).toUInt8, (0x80 + n % 64).toUInt8]
  else
    [(0xF0 + n / 262144).toUInt8, (0x80 + n / 4096 % 64).toUInt8, (0x80 + n / 64 % 64).toUInt8,
      (0x80 + n % 64).toUInt8]

def encode (s : List Char) : List UInt8 :=
  s.flatMap octets

/-- How many octets a character takes. -/
def width (c : Char) : Nat :=
  let n := c.toNat
  if n < 0x80 then 1 else if n < 0x800 then 2 else if n < 0x10000 then 3 else 4

def size (s : List Char) : Nat :=
  (s.map width).foldr (· + ·) 0

/-- A character under way: how many tails it still needs, its value so far, and the bounds of the
next octet. -/
structure Partial where
  owed : Nat
  value : Nat
  low : Nat
  high : Nat
  deriving DecidableEq, Repr

/-- What one octet leads to. -/
inductive Outcome
  | done (c : Char)
  | more (p : Partial)
  | refused
  deriving DecidableEq, Repr

/-- The first octet of a character. -/
def start (b : UInt8) : Outcome :=
  let n := b.toNat
  if n < 0x80 then .done (Char.ofNat n)
  else if n < 0xC2 then .refused
  else if n < 0xE0 then .more ⟨1, n - 0xC0, 0x80, 0xBF⟩
  else if n = 0xE0 then .more ⟨2, 0, 0xA0, 0xBF⟩
  else if n = 0xED then .more ⟨2, 0xD, 0x80, 0x9F⟩
  else if n < 0xF0 then .more ⟨2, n - 0xE0, 0x80, 0xBF⟩
  else if n = 0xF0 then .more ⟨3, 0, 0x90, 0xBF⟩
  else if n < 0xF4 then .more ⟨3, n - 0xF0, 0x80, 0xBF⟩
  else if n = 0xF4 then .more ⟨3, 4, 0x80, 0x8F⟩
  else .refused

/-- A further octet of a character. -/
def Partial.step (p : Partial) (b : UInt8) : Outcome :=
  let n := b.toNat
  if p.low ≤ n ∧ n ≤ p.high then
    let v := p.value * 64 + (n - 0x80)
    if p.owed ≤ 1 then .done (Char.ofNat v) else .more ⟨p.owed - 1, v, 0x80, 0xBF⟩
  else .refused

def replacement : Char := Char.ofNat 0xFFFD

/-- The octet that ends an ill-formed part is read again as the start of a character. -/
def decodeLossyFrom : Option Partial → List UInt8 → List Char
  | none, [] => []
  | some _, [] => [replacement]
  | none, b :: r =>
    match start b with
    | .done c => c :: decodeLossyFrom none r
    | .more p => decodeLossyFrom (some p) r
    | .refused => replacement :: decodeLossyFrom none r
  | some q, b :: r =>
    match q.step b with
    | .done c => c :: decodeLossyFrom none r
    | .more p => decodeLossyFrom (some p) r
    | .refused =>
      match start b with
      | .done c => replacement :: c :: decodeLossyFrom none r
      | .more p => replacement :: decodeLossyFrom (some p) r
      | .refused => replacement :: replacement :: decodeLossyFrom none r

def decodeLossy (bs : List UInt8) : List Char :=
  decodeLossyFrom none bs

def decodeFrom? : Option Partial → List UInt8 → Option (List Char)
  | none, [] => some []
  | some _, [] => none
  | q, b :: r =>
    match (match q with | none => start b | some p => p.step b) with
    | .done c => (decodeFrom? none r).map (c :: ·)
    | .more p => decodeFrom? (some p) r
    | .refused => none

def decode? (bs : List UInt8) : Option (List Char) :=
  decodeFrom? none bs

end LivePages.Text.Utf8
