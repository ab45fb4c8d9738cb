import CsvCleaning.Proofs.Text.Utf8

/-!
# Reading UTF-8 back

The bytes that a character is written in are read as this character, whatever follows them. So a text
that was written is read without a damaged part, and it is the same text.
-/

namespace CsvCleaning.Bytes

/-- A byte of a number below 256 has this number. -/
theorem toNat_ofNat_of_lt {n : Nat} (h : n < 0x100) : (UInt8.ofNat n).toNat = n := by
  rw [UInt8.toNat_ofNat']
  omega

/-- A byte with six bits of a character continues it, and gives these bits back. -/
theorem continuation_spec (n : Nat) :
    isContinuation (UInt8.ofNat (n % 64 + 128)) = true ∧ payload (UInt8.ofNat (n % 64 + 128)) = n % 64 := by
  simp only [isContinuation, payload, toNat_ofNat_of_lt (show n % 64 + 128 < 0x100 by omega),
    Bool.and_eq_true, decide_eq_true_eq]
  omega

/-- The second byte of three or four is in the range that the lead byte asks for. -/
theorem isSecond_spec {lead n : Nat} (h : (secondRange lead).1 ≤ n ∧ n ≤ (secondRange lead).2)
    (hn : n < 0x100) : isSecond lead (UInt8.ofNat n) = true := by
  simpa only [isSecond, toNat_ofNat_of_lt hn, Bool.and_eq_true, decide_eq_true_eq] using h

section Widths

variable {v : Nat} (rest : Bytes)

/-- A character of one byte is read. -/
theorem frontAt_one (h : v < 0x80) : frontAt (UInt8.ofNat v) rest = .char (Char.ofNat v) rest := by
  simp only [frontAt, toNat_ofNat_of_lt (show v < 0x100 by omega), if_pos h]

/-- A character of two bytes is read. -/
theorem frontAt_two (h : 0x80 ≤ v) (h' : v ≤ 0x7FF) :
    frontAt (UInt8.ofNat (v / 64 % 32 + 192)) (UInt8.ofNat (v % 64 + 128) :: rest) =
      .char (Char.ofNat v) rest := by
  obtain ⟨hnext, hbits⟩ := continuation_spec v
  simp only [frontAt, toNat_ofNat_of_lt (show v / 64 % 32 + 192 < 0x100 by omega)]
  rw [if_neg (by omega), if_pos (by omega), if_pos hnext, hbits]
  congr 2
  omega

/-- A character of three bytes is read; none is among the surrogates. -/
theorem frontAt_three (h : 0x800 ≤ v) (h' : v ≤ 0xFFFF) (hvalid : v < 0xD800 ∨ 0xDFFF < v) :
    frontAt (UInt8.ofNat (v / 4096 % 16 + 224))
        (UInt8.ofNat (v / 64 % 64 + 128) :: UInt8.ofNat (v % 64 + 128) :: rest) =
      .char (Char.ofNat v) rest := by
  obtain ⟨-, hbits⟩ := continuation_spec (v / 64)
  obtain ⟨hnext, hbits'⟩ := continuation_spec v
  have hsecond : isSecond (v / 4096 % 16 + 224) (UInt8.ofNat (v / 64 % 64 + 128)) = true := by
    refine isSecond_spec ?_ (by omega)
    unfold secondRange
    grind
  simp only [frontAt, toNat_ofNat_of_lt (show v / 4096 % 16 + 224 < 0x100 by omega)]
  rw [if_neg (by omega), if_neg (by omega), if_pos (by omega), if_pos hsecond, if_pos hnext, hbits,
    hbits']
  congr 2
  omega

/-- A character of four bytes is read. -/
theorem frontAt_four (h : 0x10000 ≤ v) (h' : v < 0x110000) :
    frontAt (UInt8.ofNat (v / 262144 % 8 + 240)) (UInt8.ofNat (v / 4096 % 64 + 128) ::
        UInt8.ofNat (v / 64 % 64 + 128) :: UInt8.ofNat (v % 64 + 128) :: rest) =
      .char (Char.ofNat v) rest := by
  obtain ⟨-, hbits⟩ := continuation_spec (v / 4096)
  obtain ⟨hnext, hbits'⟩ := continuation_spec (v / 64)
  obtain ⟨hlast, hbits''⟩ := continuation_spec v
  have hsecond : isSecond (v / 262144 % 8 + 240) (UInt8.ofNat (v / 4096 % 64 + 128)) = true := by
    refine isSecond_spec ?_ (by omega)
    unfold secondRange
    grind
  simp only [frontAt, toNat_ofNat_of_lt (show v / 262144 % 8 + 240 < 0x100 by omega)]
  rw [if_neg (by omega), if_neg (by omega), if_neg (by omega), if_pos (by omega), if_pos hsecond,
    if_pos hnext, if_pos hlast, hbits, hbits', hbits'']
  congr 2
  omega

end Widths

/-- The bytes of a character are read as this character. -/
theorem frontAt_utf8EncodeChar (c : Char) :
    ∃ lead more, String.utf8EncodeChar c = lead :: more ∧
      ∀ rest, frontAt lead (more ++ rest) = .char c rest := by
  have hc : Char.ofNat c.val.toNat = c := Char.ofNat_toNat c
  have hvalid : c.val.toNat < 0xD800 ∨ 0xDFFF < c.val.toNat ∧ c.val.toNat < 0x110000 := c.valid
  rw [String.utf8EncodeChar.eq_1]
  split
  · exact ⟨_, _, rfl, fun rest => (frontAt_one rest (by omega)).trans (by rw [hc])⟩
  · split
    · exact ⟨_, _, rfl, fun rest => (frontAt_two rest (by omega) (by omega)).trans (by rw [hc])⟩
    · split
      · exact ⟨_, _, rfl, fun rest =>
          (frontAt_three rest (by omega) (by omega) (by omega)).trans (by rw [hc])⟩
      · exact ⟨_, _, rfl, fun rest => (frontAt_four rest (by omega) (by omega)).trans (by rw [hc])⟩

/-- With as many steps as there are bytes, written characters are read back. -/
theorem readParts_ofChars {fuel : Nat} {cs : List Char} (h : (ofChars cs).length ≤ fuel) :
    readParts fuel (ofChars cs) = cs.map some := by
  induction cs generalizing fuel with
  | nil => cases fuel <;> rfl
  | cons c rest ih =>
    obtain ⟨lead, more, hbytes, hfront⟩ := frontAt_utf8EncodeChar c
    have hcons : ofChars (c :: rest) = lead :: (more ++ ofChars rest) := by
      rw [ofChars, List.flatMap_cons, hbytes]
      rfl
    rw [hcons] at h ⊢
    rw [List.length_cons, List.length_append] at h
    obtain ⟨steps, rfl⟩ : ∃ steps, fuel = steps + 1 := ⟨fuel - 1, by omega⟩
    rw [readParts, hfront]
    exact congrArg (some c :: ·) (ih (by omega))

/-- Characters are whole if none is damaged. -/
theorem wholeParts?_map_some (cs : List Char) : wholeParts? (cs.map some) = some cs := by
  induction cs with
  | nil => rfl
  | cons c rest ih => rw [List.map_cons, wholeParts?, ih, Option.map_some]

/-- A written text is read back by a reader that refuses damaged parts. -/
theorem readUtf8?_utf8 (s : String) : readUtf8? (utf8 s) = some s := by
  rw [readUtf8?, readChars?, utf8, parts, readParts_ofChars (Nat.le_refl _), wholeParts?_map_some,
    Option.map_some, String.ofList_toList]

/-- A written text is read back by one that replaces them. -/
theorem readUtf8Lossy_utf8 (s : String) : readUtf8Lossy (utf8 s) = s := by
  rw [readUtf8Lossy, utf8, parts, readParts_ofChars (Nat.le_refl _), List.map_map]
  simp [Function.comp_def]

end CsvCleaning.Bytes
