import CsvCleaning.Proofs.Text.Splitting
import CsvCleaning.Text.Bytes
import Mathlib.Data.List.Flatten
import Mathlib.Logic.Function.Basic
import Mathlib.Tactic.SplitIfs

/-!
# Texts as bytes

The bytes of a text that is put together are those of its parts. In UTF-8 a character below `0x80` is one
byte, its own number, and every byte of any other is `0x80` or more. Separators of paths and addresses
are such characters, so that a text can be searched for them by bytes as well, and is parted by them at
the same places. Different texts have different bytes.
-/

namespace CsvCleaning.Bytes

/-- The bytes of a text behind another. -/
theorem utf8_append (s t : String) : utf8 (s ++ t) = utf8 s ++ utf8 t := by
  rw [utf8, String.toList_append, ofChars_append]
  rfl

/-- The bytes of texts one behind the other. -/
theorem utf8_join (ss : List String) : utf8 (String.join ss) = ss.flatMap utf8 := by
  rw [utf8, String.toList_join, ofChars, List.flatMap_assoc]
  rfl

/-- The bytes of characters with others between them. -/
theorem ofChars_intercalate (between : List Char) (css : List (List Char)) :
    ofChars (between.intercalate css) = (ofChars between).intercalate (css.map ofChars) := by
  induction css with
  | nil => rfl
  | cons cs rest ih =>
    cases rest with
    | nil => rw [List.intercalate_singleton, List.map_singleton, List.intercalate_singleton]
    | cons next more =>
      rw [List.intercalate_cons_cons, ofChars_append, ofChars_append, ih, List.map_cons (l := next :: more),
        List.map_cons, List.intercalate_cons_cons]

/-- A character is one byte of the same number, or several that are all `0x80` or more. -/
theorem utf8EncodeChar_cases (c : Char) :
    (c.toNat < 0x80 ∧ String.utf8EncodeChar c = [UInt8.ofNat c.toNat]) ∨
      (0x80 ≤ c.toNat ∧ 2 ≤ (String.utf8EncodeChar c).length ∧
        ∀ b ∈ String.utf8EncodeChar c, 0x80 ≤ b.toNat) := by
  change (c.val.toNat < 0x80 ∧ _) ∨ (0x80 ≤ c.val.toNat ∧ _)
  have hv : c.val.toNat < 0x110000 := by
    have := c.valid
    omega
  rw [String.utf8EncodeChar.eq_1]
  split
  · exact .inl ⟨by omega, rfl⟩
  · refine .inr ⟨by omega, ?_⟩
    split_ifs <;> simp [UInt8.toNat_ofNat'] <;> omega

/-- A character of one byte stands in a text exactly if its byte stands among the bytes. -/
theorem mem_ofChars_iff {a : Char} (ha : a.toNat < 0x80) {cs : List Char} :
    UInt8.ofNat a.toNat ∈ ofChars cs ↔ a ∈ cs := by
  have hbyte : (UInt8.ofNat a.toNat).toNat = a.toNat := by
    rw [UInt8.toNat_ofNat']
    omega
  rw [ofChars, List.mem_flatMap]
  constructor
  · rintro ⟨c, hc, hmem⟩
    rcases utf8EncodeChar_cases c with ⟨hlow, hone⟩ | ⟨-, -, hhigh⟩
    · rw [hone, List.mem_singleton] at hmem
      have hsame : a.toNat = c.toNat := by
        rw [← hbyte, hmem, UInt8.toNat_ofNat']
        omega
      rwa [Char.toNat_inj.mp hsame]
    · have := hhigh _ hmem
      omega
  · intro hmem
    rcases utf8EncodeChar_cases a with ⟨-, hone⟩ | ⟨hhigh, -⟩
    · exact ⟨a, hmem, by rw [hone]; exact List.mem_singleton_self _⟩
    · omega

/-- A character of one byte is written as this byte. -/
theorem ofChars_cons {a : Char} (ha : a.toNat < 0x80) (cs : List Char) :
    ofChars (a :: cs) = UInt8.ofNat a.toNat :: ofChars cs := by
  rcases utf8EncodeChar_cases a with ⟨-, hone⟩ | ⟨hhigh, -⟩
  · rw [ofChars, List.flatMap_cons, hone]
    rfl
  · omega

/-- A character of one byte parts a text where its byte parts the bytes of the text. -/
theorem ofChars_eq_append_cons_iff {a : Char} (ha : a.toNat < 0x80) {cs : List Char}
    {front back : Bytes} : ofChars cs = front ++ UInt8.ofNat a.toNat :: back ↔
      ∃ before after, cs = before ++ a :: after ∧ ofChars before = front ∧ ofChars after = back := by
  constructor
  · intro h
    induction cs generalizing front with
    | nil => simp [ofChars] at h
    | cons c rest ih =>
      by_cases hc : c = a
      · subst hc
        rw [ofChars_cons ha] at h
        cases front with
        | nil => exact ⟨[], rest, rfl, rfl, (List.cons.inj h).2⟩
        | cons b front =>
          obtain ⟨rfl, hrest⟩ := List.cons.inj h
          obtain ⟨before, after, rfl, rfl, rfl⟩ := ih hrest
          exact ⟨c :: before, after, rfl, ofChars_cons ha before, rfl⟩
      · -- The byte is none of another character, however many it has, so it comes after them.
        have hbyte : UInt8.ofNat a.toNat ∉ ofChars [c] := fun hmem =>
          hc (List.mem_singleton.mp ((mem_ofChars_iff ha).mp hmem)).symm
        rw [← List.singleton_append, ofChars_append] at h
        obtain ⟨left, rfl, hrest⟩ := Text.exists_append_of_not_mem hbyte h
        obtain ⟨before, after, rfl, rfl, rfl⟩ := ih hrest
        exact ⟨c :: before, after, rfl, ofChars_append [c] before, rfl⟩
  · intro h
    obtain ⟨before, after, rfl, rfl, rfl⟩ := h
    rw [ofChars_append, ofChars_cons ha]

/-- Characters with the same bytes are the same. -/
theorem ofChars_injective : Function.Injective ofChars := by
  intro cs cs' h
  have hencoded : cs.utf8Encode = cs'.utf8Encode := congrArg List.toByteArray h
  have htext : String.ofList cs = String.ofList cs' :=
    String.toByteArray_inj.mp (by rw [String.toByteArray_ofList, String.toByteArray_ofList, hencoded])
  exact String.ofList_injective htext

/-- A stretch of characters with as many bytes is all of them. -/
theorem eq_of_sublist {cs cs' : List Char} (h : cs.Sublist cs')
    (hlength : (ofChars cs').length ≤ (ofChars cs).length) : cs = cs' := by
  have hbytes : (ofChars cs).Sublist (ofChars cs') := h.flatMap String.utf8EncodeChar
  exact ofChars_injective (hbytes.eq_of_length (Nat.le_antisymm hbytes.length_le hlength))

/-- Texts with the same bytes are the same. -/
theorem utf8_injective : Function.Injective utf8 := fun _ _ h =>
  String.toList_inj.mp (ofChars_injective h)

end CsvCleaning.Bytes
