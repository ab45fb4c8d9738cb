import CsvCleaning.Proofs.Json.Bodies

/-!
# Values that are read back from their text

A value is read back where each of its numbers is, no array or object in it is nested too deep, and the
members of each object are in order. Of the whole numbers those of 64 bits are read back; of the others
those whose shortest decimal is scaled to the same number again.
-/

namespace CsvCleaning

open Json (Fault Doc parse maxWord digitValue gather)

/-! ### Numbers -/

/-- A number is read back if its own text is parsed as this number. -/
def JsonNumber.ReadsBack (n : JsonNumber) : Prop :=
  parse (Bytes.utf8 (Json.number n).print) = .ok (.number n)

namespace Json

/-- To go on with digits makes no number smaller. -/
theorem le_ofDigitChars (cs : List Char) (n : Nat) : n ≤ Nat.ofDigitChars 10 cs n := by
  induction cs generalizing n with
  | nil => exact Nat.le_refl n
  | cons c rest ih =>
    have hfirst : n ≤ 10 * n + (c.toNat - '0'.toNat) := by omega
    exact hfirst.trans (ih _)

/-- Digits are gathered if the number that they write fits. -/
theorem gather_of_le {cs : List Char} {n : Nat} (h : Nat.ofDigitChars 10 cs n ≤ maxWord) :
    gather n (cs.map digitValue) = (Nat.ofDigitChars 10 cs n, []) := by
  induction cs generalizing n with
  | nil => rfl
  | cons c rest ih =>
    have hnext : n * 10 + digitValue c = 10 * n + (c.toNat - '0'.toNat) := by
      rw [Nat.mul_comm]
      rfl
    have hfits : ¬ maxWord < n * 10 + digitValue c := by
      rw [hnext]
      exact Nat.not_lt.mpr ((le_ofDigitChars rest _).trans h)
    rw [List.map_cons, gather, if_neg hfits, hnext]
    exact ih h

/-- Digits are left if it does not. -/
theorem gather_of_lt {cs : List Char} {n : Nat} (hn : n ≤ maxWord) (h : maxWord < Nat.ofDigitChars 10 cs n) :
    (gather n (cs.map digitValue)).2 ≠ [] := by
  induction cs generalizing n with
  | nil => exact absurd h (Nat.not_lt.mpr hn)
  | cons c rest ih =>
    have hnext : n * 10 + digitValue c = 10 * n + (c.toNat - '0'.toNat) := by
      rw [Nat.mul_comm]
      rfl
    rw [List.map_cons, gather]
    split
    · exact List.cons_ne_nil _ _
    · rename_i hfits
      rw [hnext] at hfits ⊢
      exact ih (Nat.le_of_not_lt hfits) h

/-- No real number is a whole one. -/
theorem map_real_ne_ok_int (x : Except Fault Binary64) (n : Int) :
    x.map JsonNumber.real ≠ .ok (JsonNumber.int n) := by
  cases x <;> simp [Except.map]

/-- The text of a whole number is read as this number exactly if it has 64 bits. -/
theorem reread_int_iff (n : Int) :
    (JsonNumber.int n).reread = .ok (.int n) ↔ -(Nat.pow 2 63 : Int) ≤ n ∧ n ≤ maxWord := by
  obtain ⟨hproper, hchars⟩ := NumberParts.ofInt_spec n
  have htoken : (NumberParts.ofInt n).token =
      ⟨decide (n < 0), (Nat.toDigits 10 n.natAbs).map digitValue, none, none⟩ := rfl
  have hdigits : Nat.ofDigitChars 10 (Nat.toDigits 10 n.natAbs) 0 = n.natAbs := Nat.ofDigitChars_ten_toDigits
  have hword : maxWord = 18446744073709551615 := rfl
  have hhalf : Nat.pow 2 63 = 9223372036854775808 := rfl
  rw [JsonNumber.reread_eq (.int n) hproper hchars, htoken, NumberToken.value, hhalf]
  by_cases hfits : n.natAbs ≤ maxWord
  · have hgathered : gather 0 ((Nat.toDigits 10 n.natAbs).map digitValue) = (n.natAbs, []) := by
      rw [gather_of_le (hdigits.symm ▸ hfits), hdigits]
    have hwhole : ¬ ((none : Option (Bool × List Nat)).isSome ∨ ([] : List Nat) ≠ []) := by simp
    simp only [hgathered, if_neg hwhole, decide_eq_true_eq]
    by_cases hnegative : n < 0
    · rw [if_pos hnegative]
      by_cases hlarge : n.natAbs = 0 ∨ 9223372036854775808 < n.natAbs
      · rw [if_pos hlarge]
        exact iff_of_false (map_real_ne_ok_int _ n) (by omega)
      · rw [if_neg hlarge, Except.ok.injEq, JsonNumber.int.injEq]
        omega
    · rw [if_neg hnegative, Except.ok.injEq, JsonNumber.int.injEq]
      omega
  · have hdropped := gather_of_lt (Nat.zero_le maxWord) (hdigits.symm ▸ Nat.lt_of_not_le hfits)
    simp only [hdropped, ne_eq, not_false_eq_true, or_true, if_true]
    exact iff_of_false (map_real_ne_ok_int _ n) (by omega)

/-- A proper number is read back if its text is read as this number. -/
theorem readsBack_iff {n : JsonNumber} (hn : n.IsProper) : n.ReadsBack ↔ n.reread = .ok n := by
  rw [JsonNumber.ReadsBack, parse, decodeBody_print (.number hn), Doc.reread, Doc.value]
  cases n.reread with
  | error f => simp [Except.map]
  | ok m => simp only [Except.map, Except.ok.injEq, number.injEq]

/-- The whole numbers that are read back are those of 64 bits. -/
theorem readsBack_int_iff (n : Int) :
    (JsonNumber.int n).ReadsBack ↔ -(Nat.pow 2 63 : Int) ≤ n ∧ n ≤ maxWord :=
  (readsBack_iff (n := .int n) trivial).trans (reread_int_iff n)

/-! ### Values -/

/-- A value is restored from its text where it is nested in `depth` others: its numbers are read back, its
arrays and objects stay below the limit, and the members of its objects are in order. -/
inductive IsRestored : Nat → Json → Prop
  | null {depth : Nat} : IsRestored depth null
  | bool {depth : Nat} (b : Bool) : IsRestored depth (bool b)
  | number {depth : Nat} {n : JsonNumber} (hn : n.ReadsBack) : IsRestored depth (number n)
  | text {depth : Nat} (s : String) : IsRestored depth (text s)
  | array {depth : Nat} {items : List Json} (hdepth : depth + 1 < nestingLimit)
      (hitems : ∀ v ∈ items, IsRestored (depth + 1) v) : IsRestored depth (array items)
  | object {depth : Nat} {members : List (String × Json)} (hdepth : depth + 1 < nestingLimit)
      (hkeys : members.Pairwise fun a b => a.1 < b.1)
      (hmembers : ∀ e ∈ members, IsRestored (depth + 1) e.2) : IsRestored depth (object members)

/-- Items are read again one by one. -/
theorem rereadItems_eq_map (depth : Nat) (items : List Json) :
    rereadItems depth items = items.map (Doc.reread depth) := by
  induction items with
  | nil => rfl
  | cons v rest ih => rw [rereadItems, ih, List.map_cons]

/-- So are members. -/
theorem rereadMembers_eq_map (depth : Nat) (members : List (String × Json)) :
    rereadMembers depth members = members.map fun e => (.ok e.1, Doc.reread depth e.2) := by
  induction members with
  | nil => rfl
  | cons e rest ih => rw [rereadMembers, ih, List.map_cons]

/-- Below the limit nothing is nested too deep. -/
theorem decide_nestingLimit_le {depth : Nat} :
    decide (nestingLimit ≤ depth) = false ↔ depth < nestingLimit := by
  rw [decide_eq_false_iff_not, Nat.not_le]

/-- The document of a value's text has this value exactly if the value is restored. -/
theorem value_reread_iff {v : Json} (hv : v.HasProperNumbers) (depth : Nat) :
    (Doc.reread depth v).value = .ok v ↔ v.IsRestored depth := by
  induction hv generalizing depth with
  | null => exact ⟨fun _ => .null, fun _ => by rw [Doc.reread, Doc.value]⟩
  | bool b => exact ⟨fun _ => .bool b, fun _ => by rw [Doc.reread, Doc.value]⟩
  | text s => exact ⟨fun _ => .text s, fun _ => by rw [Doc.reread, Doc.value]; rfl⟩
  | @number n hn =>
    have hvalue : n.reread.map number = .ok (number n) ↔ n.reread = .ok n := by
      cases n.reread <;> simp [Except.map]
    rw [Doc.reread, Doc.value, hvalue, ← readsBack_iff hn]
    constructor
    · exact .number
    · intro h
      cases h with
      | number hn => exact hn
  | @array items _ ih =>
    have hread : (Doc.reread depth (array items)).value = .ok (array items) ↔
        readList Doc.value (Doc.reread depth (array items)) = .ok items := by
      rw [Doc.reread, value_array]
      cases readList Doc.value _ <;> simp [Except.map]
    rw [hread, Doc.reread, readList_array_eq_ok_iff, rereadItems_eq_map, readAll_map_eq_ok_iff,
      decide_nestingLimit_le, forall₂_congr fun v hv => ih v hv (depth + 1)]
    constructor
    · intro h
      obtain ⟨hdepth, -, hitems⟩ := h
      exact .array hdepth hitems
    · intro h
      cases h with
      | array hdepth hitems => exact ⟨hdepth, rfl, hitems⟩
  | @object members _ ih =>
    have hread : (Doc.reread depth (object members)).value = .ok (object members) ↔
        ∃ m : SortedMap Json, m.entries = members ∧
          readMap Doc.value (Doc.reread depth (object members)) = .ok m := by
      rw [Doc.reread, value_object]
      cases readMap Doc.value _ <;> simp [Except.map, eq_comm]
    have hentries {m : SortedMap Json} (hm : m.entries = members) :
        readMap Doc.value (Doc.reread depth (object members)) = .ok m ↔
          depth + 1 < nestingLimit ∧ ∀ e ∈ members, e.2.IsRestored (depth + 1) := by
      subst hm
      rw [Doc.reread, readMap_object_eq_ok_iff, rereadMembers_eq_map, readEntries_entries_eq_ok_iff,
        decide_nestingLimit_le, forall₂_congr fun e he => ih e he (depth + 1)]
      exact and_congr_right' (and_iff_right rfl)
    rw [hread]
    constructor
    · intro h
      obtain ⟨m, hm, hvalues⟩ := h
      obtain ⟨hdepth, hmembers⟩ := (hentries hm).mp hvalues
      exact .object hdepth (hm ▸ m.sorted) hmembers
    · intro h
      cases h with
      | object hdepth hkeys hmembers => exact ⟨⟨members, hkeys⟩, rfl, (hentries rfl).mpr ⟨hdepth, hmembers⟩⟩

/-! ### Parts of bodies -/

section Readers

variable {α : Type} {read : Doc → Except Fault α} {depth : Nat}

/-- A text is read from its text. -/
@[simp]
theorem readString_reread (s : String) : readString (Doc.reread depth (.text s)) = .ok s := by
  rw [Doc.reread, readString]

/-- A truth value is read from its text. -/
@[simp]
theorem readFlag_reread (b : Bool) : readFlag (Doc.reread depth (.bool b)) = .ok b := by
  rw [Doc.reread, readFlag]

/-- A count is read from its text exactly if it has 64 bits. -/
@[simp]
theorem readCount_reread_iff (n : Nat) : readCount (Doc.reread depth (.count n)) = .ok n ↔ n ≤ maxWord := by
  have hbits : -(Nat.pow 2 63 : Int) ≤ n ∧ (n : Int) ≤ maxWord ↔ n ≤ maxWord := by omega
  have hcount : readCount (.number (JsonNumber.int n).reread) = .ok n ↔
      (JsonNumber.int n).reread = .ok (.int n) := by
    rcases (JsonNumber.int n).reread with f | ⟨k | x⟩
    · simp [readCount]
    · rw [readCount]
      by_cases hk : 0 ≤ k
      · rw [if_pos hk, Except.ok.injEq, Except.ok.injEq, JsonNumber.int.injEq]
        omega
      · rw [if_neg hk, Except.ok.injEq, JsonNumber.int.injEq]
        exact iff_of_false (by simp) fun heq => absurd (Int.natCast_nonneg n) (heq ▸ hk)
    · simp [readCount]
  rw [count, Doc.reread, hcount, reread_int_iff, hbits]

/-- A list is read from its text exactly if it is not nested too deep and each part is read. -/
theorem readList_reread_iff (write : α → Json) {as : List α} :
    readList read (Doc.reread depth (.array (as.map write))) = .ok as ↔
      depth + 1 < nestingLimit ∧ ∀ a ∈ as, read (Doc.reread (depth + 1) (write a)) = .ok a := by
  rw [Doc.reread, readList_array_eq_ok_iff, rereadItems_eq_map, List.map_map, readAll_map_eq_ok_iff,
    decide_nestingLimit_le]
  exact and_congr_right' (and_iff_right rfl)

/-- A map is read from its text exactly if it is not nested too deep and each value is read. -/
theorem readMap_reread_iff (write : α → Json) {m : SortedMap α} :
    readMap read (Doc.reread depth (.object (m.entries.map fun e => (e.1, write e.2)))) = .ok m ↔
      depth + 1 < nestingLimit ∧
        ∀ e ∈ m.entries, read (Doc.reread (depth + 1) (write e.2)) = .ok e.2 := by
  have hentries : readEntries read
      (m.entries.map fun e => (.ok e.1, Doc.reread (depth + 1) (write e.2))) .empty = .ok m ↔
        ∀ e ∈ m.entries, read (Doc.reread (depth + 1) (write e.2)) = .ok e.2 :=
    readEntries_entries_eq_ok_iff fun a => Doc.reread (depth + 1) (write a)
  rw [Doc.reread, readMap_object_eq_ok_iff, rereadMembers_eq_map, List.map_map, ← hentries,
    decide_nestingLimit_le]
  exact and_congr_right' (and_iff_right rfl)

/-- Null is read as nothing. -/
@[simp]
theorem readOption_reread_null : readOption read (Doc.reread depth .null) = .ok none := by
  rw [Doc.reread, readOption]

/-- Another value that may be null is read from its text exactly as if it might not. -/
theorem readOption_reread_eq_some_iff {v : Json} (hv : v ≠ .null) {a : α} :
    readOption read (Doc.reread depth v) = .ok (some a) ↔ read (Doc.reread depth v) = .ok a := by
  have hdoc : Doc.reread depth v ≠ .null := by
    cases v <;> simp_all [Doc.reread]
  rw [readOption]
  · cases read (Doc.reread depth v) <;> simp [Except.map]
  · exact hdoc

end Readers

end Json

end CsvCleaning
