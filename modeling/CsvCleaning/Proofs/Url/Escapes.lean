import CsvCleaning.Proofs.Text.Utf8
import CsvCleaning.Url.Percent

/-!
# Reading escapes back

A text that is percent-encoded reads as the text itself does, as long as percent signs and
hexadecimal digits are kept. So what is read is the text exactly if the text has no group of its own
that reads as an escaped byte; with one, what is read is shorter.
-/

namespace CsvCleaning.Percent

/-- The byte that two digits at the front write. -/
def front? : List Char → Option UInt8
  | a :: b :: _ => byte? a b
  | _ => none

/-- Decide whether a text has a group that reads as an escaped byte. -/
def hasEscape : List Char → Bool
  | [] => false
  | c :: rest => (c == '%' && (front? rest).isSome) || hasEscape rest

/-- A character other than the percent sign is read as its bytes. -/
theorem decode_cons_of_ne {c : Char} (h : c ≠ '%') (rest : List Char) :
    decode (c :: rest) = String.utf8EncodeChar c ++ decode rest := by
  rw [decode]
  rintro a b more rfl
  exact absurd rfl h

/-- A percent sign that begins no escape is read as its byte. -/
theorem decode_percent_of_front? {rest : List Char} (h : front? rest = none) :
    decode ('%' :: rest) = 0x25 :: decode rest := by
  match rest with
  | [] | [a] => rfl
  | a :: b :: more => rw [decode, show byte? a b = none from h]

/-- An escape is read as the byte that it writes. -/
theorem decode_percent_of_byte? {a b : Char} {x : UInt8} (h : byte? a b = some x) (rest : List Char) :
    decode ('%' :: a :: b :: rest) = x :: decode rest := by
  rw [decode, h]

/-- Only digits write a byte. -/
theorem isSome_value?_of_byte? {a b : Char} {x : UInt8} (h : byte? a b = some x) :
    (Digits.value? a.toNat).isSome ∧ (Digits.value? b.toNat).isSome := by
  unfold byte? at h
  cases ha : Digits.value? a.toNat with
  | none => simp [ha] at h
  | some n =>
    cases hb : Digits.value? b.toNat with
    | none => simp [ha, hb] at h
    | some m => exact ⟨rfl, rfl⟩

/-- A percent sign is no digit. -/
theorem front?_percent (rest : List Char) : front? ('%' :: rest) = none := by
  cases rest with
  | nil => rfl
  | cons b more => rfl

/-- Neither is one that comes second. -/
theorem front?_cons_percent (a : Char) (rest : List Char) : front? (a :: '%' :: rest) = none :=
  Option.eq_none_iff_forall_ne_some.mpr fun x hx => by
    have hdigit := (isSome_value?_of_byte? (a := a) (b := '%') hx).2
    cases hdigit

/-- Escaped bytes are read back. -/
theorem decode_flatMap_escape (bytes : Bytes) (rest : List Char) :
    decode (bytes.flatMap escape ++ rest) = bytes ++ decode rest := by
  induction bytes with
  | nil => rfl
  | cons b more ih =>
    rw [List.flatMap_cons, List.append_assoc, decode_escape, ih]
    rfl

section Encoding

variable {keep : Char → Bool}

/-- A kept character is written as it is. -/
theorem encode_cons_of_keep {c : Char} (h : keep c = true) (rest : List Char) :
    encode keep (c :: rest) = c :: encode keep rest := by
  simp [encode, h]

/-- Any other is written as its escaped bytes. -/
theorem encode_cons_of_not_keep {c : Char} (h : keep c = false) (rest : List Char) :
    encode keep (c :: rest) = (String.utf8EncodeChar c).flatMap escape ++ encode keep rest := by
  simp [encode, h]

/-- What is written for any other begins with a percent sign. -/
theorem exists_encode_cons_of_not_keep {c : Char} (h : keep c = false) (rest : List Char) :
    ∃ more, encode keep (c :: rest) = '%' :: more := by
  obtain ⟨b, bytes, hbytes⟩ := List.exists_cons_of_ne_nil (String.utf8EncodeChar_ne_nil (c := c))
  rw [encode_cons_of_not_keep h, hbytes]
  exact ⟨_, rfl⟩

/-- Encoding makes no escape of what was none. -/
theorem front?_encode_of_front? {cs : List Char} (h : front? cs = none) :
    front? (encode keep cs) = none := by
  match cs with
  | [] => rfl
  | a :: rest =>
    cases ha : keep a with
    | false =>
      obtain ⟨more, hmore⟩ := exists_encode_cons_of_not_keep ha rest
      rw [hmore, front?_percent]
    | true =>
      rw [encode_cons_of_keep ha]
      match rest with
      | [] => rfl
      | b :: more =>
        cases hb : keep b with
        | false =>
          obtain ⟨more', hmore⟩ := exists_encode_cons_of_not_keep hb more
          rw [hmore, front?_cons_percent]
        | true =>
          rw [encode_cons_of_keep hb]
          exact h

/-- If percent signs and digits are kept, an encoded text is read as the text itself. -/
theorem decode_encode (hpercent : keep '%' = true)
    (hdigits : ∀ c : Char, (Digits.value? c.toNat).isSome → keep c = true) (cs : List Char) :
    decode (encode keep cs) = decode cs := by
  induction cs using decode.induct with
  | case1 a b rest x hbyte ih =>
    obtain ⟨ha, hb⟩ := isSome_value?_of_byte? hbyte
    rw [encode_cons_of_keep hpercent, encode_cons_of_keep (hdigits a ha),
      encode_cons_of_keep (hdigits b hb), decode_percent_of_byte? hbyte, decode_percent_of_byte? hbyte,
      ih]
  | case2 a b rest hbyte ih =>
    have hfront : front? (a :: b :: rest) = none := hbyte
    rw [encode_cons_of_keep hpercent, decode_percent_of_front? hfront,
      decode_percent_of_front? (front?_encode_of_front? hfront), ih]
  | case3 c rest hne ih =>
    by_cases hc : c = '%'
    · subst hc
      have hfront : front? rest = none := by
        match rest with
        | [] | [a] => rfl
        | a :: b :: more => exact absurd rfl (hne a b more rfl)
      rw [encode_cons_of_keep hpercent, decode_percent_of_front? hfront,
        decode_percent_of_front? (front?_encode_of_front? hfront), ih]
    · rw [decode_cons_of_ne hc]
      cases hkeep : keep c with
      | true => rw [encode_cons_of_keep hkeep, decode_cons_of_ne hc, ih]
      | false => rw [encode_cons_of_not_keep hkeep, decode_flatMap_escape, ih]
  | case4 => rfl

end Encoding

/-- A text without escapes is read as its bytes. -/
theorem decode_of_not_hasEscape {cs : List Char} (h : hasEscape cs = false) :
    decode cs = Bytes.ofChars cs := by
  induction cs with
  | nil => rfl
  | cons c rest ih =>
    obtain ⟨hfirst, hrest⟩ := Bool.or_eq_false_iff.mp h
    rw [Bytes.ofChars, List.flatMap_cons]
    by_cases hc : c = '%'
    · subst hc
      have hfront : front? rest = none := by simpa using hfirst
      rw [decode_percent_of_front? hfront, ih hrest]
      rfl
    · rw [decode_cons_of_ne hc, ih hrest]
      rfl

/-- Reading makes nothing longer, and a text with an escape shorter. -/
theorem length_decode_le (cs : List Char) :
    (decode cs).length ≤ (Bytes.ofChars cs).length ∧
      (hasEscape cs = true → (decode cs).length < (Bytes.ofChars cs).length) := by
  have hcons (c : Char) (rest : List Char) : (Bytes.ofChars (c :: rest)).length =
      (String.utf8EncodeChar c).length + (Bytes.ofChars rest).length := by
    rw [Bytes.ofChars, List.flatMap_cons, List.length_append]
    rfl
  have hpercent : (String.utf8EncodeChar '%').length = 1 := rfl
  induction cs using decode.induct with
  | case1 a b rest x hbyte ih =>
    rw [decode_percent_of_byte? hbyte, List.length_cons, hcons, hcons, hcons]
    have ha := List.length_pos_iff.mpr (String.utf8EncodeChar_ne_nil (c := a))
    exact ⟨by omega, fun _ => by omega⟩
  | case2 a b rest hbyte ih =>
    have hfront : front? (a :: b :: rest) = none := hbyte
    have hescape : hasEscape ('%' :: a :: b :: rest) = hasEscape (a :: b :: rest) := by
      rw [hasEscape, hfront]
      rfl
    rw [decode_percent_of_front? hfront, hescape, List.length_cons, hcons]
    exact ⟨by omega, fun h => by have := ih.2 h; omega⟩
  | case3 c rest hne ih =>
    have hescape : hasEscape (c :: rest) = hasEscape rest := by
      rcases rest with _ | ⟨a, _ | ⟨b, more⟩⟩
      · simp [hasEscape, front?]
      · simp [hasEscape, front?]
      · have hc : c ≠ '%' := fun hc => hne a b more hc rfl
        simp [hasEscape, hc]
    have hdecode : (decode (c :: rest)).length =
        (String.utf8EncodeChar c).length + (decode rest).length := by
      rw [decode, List.length_append]
      exact hne
    rw [hdecode, hescape, hcons]
    exact ⟨by omega, fun h => by have := ih.2 h; omega⟩
  | case4 => exact ⟨Nat.le_refl 0, fun h => by cases h⟩

end CsvCleaning.Percent
