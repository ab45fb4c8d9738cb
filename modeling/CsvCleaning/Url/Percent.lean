import CsvCleaning.Text.Bytes
import CsvCleaning.Text.Digits

/-!
# Percent-encoding

Characters that an address cannot hold as they are stand in it as their UTF-8 bytes, each byte as
a percent sign and two upper-case hexadecimal digits. Reading turns every such group back into its
byte and leaves a percent sign that begins none as it is.
-/

namespace CsvCleaning.Percent

/-- One byte as a percent sign and two digits. -/
def escape (b : UInt8) : List Char :=
  ['%', Digits.upper (b.toNat / 16), Digits.upper (b.toNat % 16)]

/-- Write characters, escaping those that are not kept. -/
def encode (keep : Char → Bool) (cs : List Char) : List Char :=
  cs.flatMap fun c => if keep c then [c] else (String.utf8EncodeChar c).flatMap escape

/-- The byte that two digits write. -/
def byte? (a b : Char) : Option UInt8 := do
  let high ← Digits.value? a.toNat
  let low ← Digits.value? b.toNat
  return UInt8.ofNat (high * 16 + low)

/-- Read escaped text as bytes. -/
def decode : List Char → Bytes
  | '%' :: a :: b :: rest =>
    match byte? a b with
    | some x => x :: decode rest
    | none => 0x25 :: decode (a :: b :: rest)
  | c :: rest => String.utf8EncodeChar c ++ decode rest
  | [] => []

/-- An escaped byte is read back. -/
theorem decode_escape (b : UInt8) (rest : List Char) :
    decode (escape b ++ rest) = b :: decode rest := by
  have hb : b.toNat < 256 := b.toNat_lt
  have digits : byte? (Digits.upper (b.toNat / 16)) (Digits.upper (b.toNat % 16)) = some b := by
    simp only [byte?, Digits.value?_upper (show b.toNat / 16 < 16 by omega),
      Digits.value?_upper (show b.toNat % 16 < 16 by omega), Option.bind_eq_bind,
      Option.bind_some, Option.pure_def, Option.some.injEq]
    rw [show b.toNat / 16 * 16 + b.toNat % 16 = b.toNat by omega]
    exact UInt8.ofNat_toNat
  simp [escape, decode, digits]

end CsvCleaning.Percent
