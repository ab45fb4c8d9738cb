import CsvCleaning.Text.LowerCase
import CsvCleaning.Url.Ipv6
import CsvCleaning.Url.Percent
import CsvCleaning.Url.Punycode

/-!
# Hosts

A host is an address in brackets, a numeric address or a name. Names are percent-decoded and
lower-cased, labels beyond ASCII are written in ASCII, and a name is refused for a character that
would end it or make it something else.
-/

namespace CsvCleaning.Host

/-- Decide whether a character must not stand in a name. -/
def isForbidden (c : Char) : Bool :=
  c.toNat ≤ 0x20 || c.toNat == 0x7F || c ∈ ['%', '#', '/', ':', '<', '>', '?', '@', '[', '\\', ']',
    '^', '|']

/-- A label of a name in ASCII. -/
def asciiLabel (label : List Char) : List Char :=
  if label.all (·.toNat < 0x80) then label
  else ['x', 'n', '-', '-'] ++ Punycode.encode label

/-- A name in lower case and in ASCII. -/
def asciiName (cs : List Char) : List Char :=
  ['.'].intercalate ((Text.splitWhere (· == '.') (cs.flatMap Text.lowerChar)).map asciiLabel)

/-- The host that characters write, as it stands in an address. -/
def ofChars? : List Char → Option String
  | '[' :: rest =>
    if rest.getLast? = some ']' then
      (Ipv6.ofChars? rest.dropLast).map fun pieces => "[" ++ Ipv6.write pieces ++ "]"
    else none
  | cs =>
    match (Bytes.readChars? (Percent.decode cs)).map asciiName with
    | none => none
    | some name =>
      if name = [] ∨ name.any isForbidden then none
      else if Ipv4.endsInNumber name then (Ipv4.ofHost? name).map Ipv4.write
      else some (String.ofList name)

end CsvCleaning.Host
