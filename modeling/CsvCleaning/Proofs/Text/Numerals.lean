import CsvCleaning.Number.Extended
import Mathlib.Data.List.Basic

/-!
# Numerals

A number has one decimal numeral with which it is written, and many that read as it. Of those that
do, the one that is written has no zero in front unless it is zero itself; a whole number with a
sign has no plus sign either, and zero has no sign. A real number that is written without an exponent
has digits and perhaps a point.
-/

namespace CsvCleaning

namespace Digits

/-- The codes of the digits. -/
theorem toNat_of_isDigit {c : Char} (h : c.isDigit = true) : 0x30 ≤ c.toNat ∧ c.toNat ≤ 0x39 :=
  (by simpa [Char.isDigit] using h : 48 ≤ c.val ∧ c.val ≤ 57)

/-- A decimal digit is the one that its value is written with. -/
theorem digitChar_of_value? {c : Char} {d : Nat} (h : value? c.toNat = some d) (hd : d < 10) :
    Nat.digitChar d = c := by
  apply Char.toNat_inj.mp
  rw [Nat.toNat_digitChar_of_lt_ten hd]
  unfold value? at h
  split at h
  · have hvalue := Option.some.inj h
    omega
  · split at h
    · have hvalue := Option.some.inj h
      omega
    · split at h
      · have hvalue := Option.some.inj h
        omega
      · cases h

/-- A first digit other than zero has a value other than zero. -/
theorem pos_of_value? {c : Char} {d : Nat} (h : value? c.toNat = some d) (hd : d < 10)
    (hc : c ≠ '0') : 0 < d := by
  rw [Nat.pos_iff_ne_zero]
  rintro rfl
  exact hc (digitChar_of_value? h hd).symm

/-- To read on is to read one more digit and then the rest. -/
theorem numberFrom?_cons {base read n : Nat} {c : Char} {rest : List Char} :
    numberFrom? base read (c :: rest) = some n ↔
      ∃ d, value? c.toNat = some d ∧ d < base ∧ numberFrom? base (read * base + d) rest = some n := by
  rw [numberFrom?]
  cases value? c.toNat <;> simp

/-- Digits that are read on after a number other than zero follow those of that number. -/
theorem toDigits_of_numberFrom? {read n : Nat} {cs : List Char} (hread : 0 < read)
    (h : numberFrom? 10 read cs = some n) : Nat.toDigits 10 n = Nat.toDigits 10 read ++ cs := by
  induction cs generalizing read with
  | nil =>
    rw [List.append_nil, Option.some.inj h]
  | cons c rest ih =>
    obtain ⟨d, hvalue, hd, hrest⟩ := numberFrom?_cons.mp h
    have hnext : Nat.toDigits 10 (read * 10 + d) = Nat.toDigits 10 read ++ [c] := by
      rw [Nat.mul_comm, ← Nat.toDigits_append_toDigits (by decide) hread hd,
        Nat.toDigits_of_lt_base hd, digitChar_of_value? hvalue hd]
    rw [ih (by omega) hrest, hnext, List.append_assoc, List.singleton_append]

/-- The numeral of a number other than zero does not begin with a zero. -/
theorem head?_toDigits_ne {n : Nat} (h : 0 < n) : (Nat.toDigits 10 n).head? ≠ some '0' := by
  induction n using Nat.strongRecOn with
  | ind n ih =>
    by_cases hn : n < 10
    · rw [Nat.toDigits_of_lt_base hn, List.head?_cons, ne_eq, Option.some.injEq]
      intro hzero
      have hcode := Nat.toNat_digitChar_of_lt_ten hn
      rw [hzero] at hcode
      simp at hcode
      omega
    · rw [Nat.toDigits_of_base_le (by decide) (Nat.le_of_not_lt hn),
        List.head?_append_of_ne_nil _ Nat.toDigits_ne_nil]
      exact ih (n / 10) (Nat.div_lt_self h (by decide)) (by omega)

/-- Digits as numbers are written with: some, and no zero in front of others. -/
def IsNumeral (cs : List Char) : Prop :=
  cs ≠ [] ∧ (cs.head? = some '0' → cs = ['0'])

/-- Of the digits that read as a number, a numeral is the one that the number is written with. -/
theorem toDigits_eq_iff {cs : List Char} {n : Nat} (h : number? 10 cs = some n) :
    Nat.toDigits 10 n = cs ↔ IsNumeral cs := by
  constructor
  · rintro rfl
    refine ⟨Nat.toDigits_ne_nil, fun hhead => ?_⟩
    rcases Nat.eq_zero_or_pos n with rfl | hn
    · rfl
    · exact absurd hhead (head?_toDigits_ne hn)
  · rintro ⟨hne, hzero⟩
    cases cs with
    | nil => exact absurd rfl hne
    | cons c rest =>
      by_cases hc : c = '0'
      · obtain rfl : rest = [] := (List.cons.inj (hzero (congrArg some hc))).2
        subst hc
        obtain rfl : n = 0 := (Option.some.inj h).symm
        rfl
      · obtain ⟨d, hvalue, hd, hrest⟩ := numberFrom?_cons.mp h
        rw [Nat.zero_mul, Nat.zero_add] at hrest
        rw [toDigits_of_numberFrom? (pos_of_value? hvalue hd hc) hrest,
          Nat.toDigits_of_lt_base hd, digitChar_of_value? hvalue hd, List.singleton_append]

/-- To read one digit more is to read the digits before it first. -/
theorem numberFrom?_concat (base read : Nat) (cs : List Char) (c : Char) :
    numberFrom? base read (cs ++ [c]) =
      (numberFrom? base read cs).bind fun n => numberFrom? base n [c] := by
  induction cs generalizing read with
  | nil => rfl
  | cons a rest ih =>
    rw [List.cons_append, numberFrom?, numberFrom?]
    cases value? a.toNat with
    | none => rfl
    | some d =>
      dsimp only
      split
      · exact ih _
      · rfl

/-- A digit is read as its value. -/
theorem numberFrom?_digitChar {d : Nat} (read : Nat) (hd : d < 10) :
    numberFrom? 10 read [Nat.digitChar d] = some (read * 10 + d) := by
  have hvalue : ∀ d : Fin 10, value? (Nat.digitChar d).toNat = some d.val := by decide
  rw [numberFrom?, hvalue ⟨d, hd⟩]
  exact if_pos hd

/-- A number is read back from its numeral. -/
theorem number?_toDigits (n : Nat) : number? 10 (Nat.toDigits 10 n) = some n := by
  induction n using Nat.strongRecOn with
  | ind n ih =>
    by_cases hn : n < 10
    · rw [Nat.toDigits_of_lt_base hn, number?, numberFrom?_digitChar 0 hn, Nat.zero_mul, Nat.zero_add]
    · have hten : 10 ≤ n := Nat.le_of_not_lt hn
      rw [Nat.toDigits_of_base_le (by decide) hten, number?, numberFrom?_concat, ← number?,
        ih (n / 10) (Nat.div_lt_self (by omega) (by decide)), Option.bind_some,
        numberFrom?_digitChar _ (Nat.mod_lt n (by decide)), Nat.div_add_mod']

/-- Only digits are in a numeral. -/
theorem beq_of_mem_toDigits {c : Char} (hc : c.isDigit = false) (n : Nat) :
    ∀ d ∈ Nat.toDigits 10 n, (d == c) = false := by
  intro d hd
  have hdigit : d.isDigit = true := Nat.isDigit_of_mem_toDigits (by decide) (by decide) hd
  rw [beq_eq_false_iff_ne]
  rintro rfl
  exact Bool.false_ne_true (hc.symm.trans hdigit)

/-- Numbers with the same numeral are the same. -/
theorem toDigits_injective {m n : Nat} (h : Nat.toDigits 10 m = Nat.toDigits 10 n) : m = n := by
  have hread := congrArg (Nat.ofDigitChars 10 · 0) h
  simpa only [Nat.ofDigitChars_ten_toDigits] using hread

end Digits

/-- A whole number as it is written: a numeral, perhaps after a minus sign unless it is zero. -/
def IsWholeNumeral (cs : List Char) : Prop :=
  cs.head? ≠ some '+' ∧ Digits.IsNumeral (cutSign cs).2 ∧ cs ≠ ['-', '0']

/-- The numeral of a whole number with a sign. -/
theorem toList_toString_int (n : Int) :
    (toString n).toList =
      if n < 0 then '-' :: Nat.toDigits 10 n.natAbs else Nat.toDigits 10 n.natAbs := by
  cases n with
  | ofNat n =>
    rw [Int.ofNat_eq_natCast, if_neg (Int.not_lt.mpr (Int.natCast_nonneg n)), Int.natAbs_natCast]
    change (toString n).toList = _
    rw [Nat.toString_eq_ofList_toDigits, String.toList_ofList]
  | negSucc n =>
    rw [if_pos (Int.negSucc_lt_zero n), Int.natAbs_negSucc]
    change ("-" ++ toString (n + 1)).toList = _
    rw [String.toList_append, Nat.toString_eq_ofList_toDigits, String.toList_ofList,
      String.toList_ofList]
    rfl

/-- The numeral of a number has no sign in front. -/
theorem toDigits_ne_cons {n : Nat} {c : Char} (hc : c.isDigit = false) (rest : List Char) :
    Nat.toDigits 10 n ≠ c :: rest := by
  intro h
  have hdigit : c.isDigit = true :=
    Nat.isDigit_of_mem_toDigits (b := 10) (n := n) (by decide) (by decide) (h ▸ List.mem_cons_self)
  exact Bool.false_ne_true (hc.symm.trans hdigit)

/-- A sign is cut off if there is one. -/
theorem cutSign_cases (cs : List Char) :
    (∃ rest, cs = '-' :: rest ∧ cutSign cs = (true, rest)) ∨
      (∃ rest, cs = '+' :: rest ∧ cutSign cs = (false, rest)) ∨
      cs.head? ≠ some '-' ∧ cs.head? ≠ some '+' ∧ cutSign cs = (false, cs) := by
  unfold cutSign
  split
  · exact .inl ⟨_, rfl, rfl⟩
  · exact .inr (.inl ⟨_, rfl, rfl⟩)
  · rename_i hminus hplus
    refine .inr (.inr ⟨fun h => ?_, fun h => ?_, rfl⟩)
    · obtain ⟨rest, rfl⟩ := List.head?_eq_some_iff.mp h
      exact hminus rest rfl
    · obtain ⟨rest, rfl⟩ := List.head?_eq_some_iff.mp h
      exact hplus rest rfl

/-- A whole number is read from digits, perhaps after a sign. -/
theorem exists_of_wholeNumber? {low high m : Int} {cs : List Char}
    (h : wholeNumber? low high cs = some m) :
    ∃ n : Nat, Digits.number? 10 (cutSign cs).2 = some n ∧
      m = if (cutSign cs).1 then -(n : Int) else n := by
  unfold wholeNumber? at h
  dsimp only at h
  split at h
  · cases h
  · cases hn : Digits.number? 10 (cutSign cs).2 with
    | none =>
      rw [hn] at h
      cases h
    | some n =>
      rw [hn] at h
      exact ⟨n, rfl, (Option.some.inj (Option.ite_none_right_eq_some.mp h).2).symm⟩

/-- Of the characters that read as a whole number, a numeral is what the number is written as. -/
theorem toString_eq_iff_of_wholeNumber? {low high m : Int} {cs : List Char}
    (h : wholeNumber? low high cs = some m) :
    (toString m).toList = cs ↔ IsWholeNumeral cs := by
  obtain ⟨n, hn, rfl⟩ := exists_of_wholeNumber? h
  have hiff := Digits.toDigits_eq_iff hn
  rw [toList_toString_int, IsWholeNumeral]
  rcases cutSign_cases cs with ⟨rest, rfl, hcut⟩ | ⟨rest, rfl, hcut⟩ | ⟨hminus, hplus, hcut⟩ <;>
    rw [hcut] at hiff ⊢
  · rw [if_pos rfl, Int.natAbs_neg, Int.natAbs_natCast]
    rcases Nat.eq_zero_or_pos n with rfl | hpos
    · -- Zero is written without a sign.
      refine iff_of_false (toDigits_ne_cons rfl rest) ?_
      rintro ⟨-, hnumeral, hzero⟩
      exact hzero (congrArg ('-' :: ·) (hiff.mpr hnumeral).symm)
    · rw [if_pos (by omega), List.cons.injEq, hiff]
      constructor
      · rintro ⟨-, hnumeral⟩
        refine ⟨by simp, hnumeral, fun hzero => ?_⟩
        have hrest := hiff.mpr hnumeral
        rw [(List.cons.inj hzero).2] at hrest
        exact Digits.head?_toDigits_ne hpos (congrArg List.head? hrest)
      · exact fun hnumeral => ⟨rfl, hnumeral.2.1⟩
  · rw [if_neg Bool.false_ne_true, if_neg (by omega), Int.natAbs_natCast]
    exact iff_of_false (toDigits_ne_cons rfl rest) fun hnumeral => hnumeral.1 rfl
  · rw [if_neg Bool.false_ne_true, if_neg (by omega), Int.natAbs_natCast, hiff]
    refine ⟨fun hnumeral => ⟨hplus, hnumeral, ?_⟩, fun hnumeral => hnumeral.2.1⟩
    rintro rfl
    exact hminus rfl

/-- A whole number is written with digits, perhaps after a minus sign. -/
theorem of_mem_toString_int {n : Int} {c : Char} (h : c ∈ (toString n).toList) :
    c.isDigit = true ∨ c = '-' := by
  have hdigit (hc : c ∈ Nat.toDigits 10 n.natAbs) : c.isDigit = true :=
    Nat.isDigit_of_mem_toDigits (by decide) (by decide) hc
  rw [toList_toString_int] at h
  split at h
  · rcases List.mem_cons.mp h with rfl | h
    · exact .inr rfl
    · exact .inl (hdigit h)
  · exact .inl (hdigit h)

/-- The shortest decimal of a value consists of digits. -/
theorem Binary64.isDigit_of_mem_shortest {x : Binary64} {c : Char} (h : c ∈ x.shortest.digits) :
    c.isDigit = true := by
  have hunits (count : Nat) (unit : Int) (hc : c ∈ (Decimal.ofUnits count unit).digits) :
      c.isDigit = true := by
    rw [Decimal.ofUnits, Decimal.stripZeros, List.mem_reverse] at hc
    have hdigits := List.mem_reverse.mp ((List.dropWhile_sublist _).subset hc)
    exact Nat.isDigit_of_mem_toDigits (by decide) (by decide) hdigits
  unfold Binary64.shortest at h
  dsimp only at h
  generalize hhit : List.findSome? _ (List.range 17) = hit at h
  cases hit with
  | none => exact hunits _ _ h
  | some d =>
    obtain ⟨k, -, hk⟩ := List.exists_of_findSome?_eq_some hhit
    obtain ⟨count, -, rfl⟩ := Option.map_eq_some_iff.mp hk
    exact hunits _ _ h

/-- A magnitude that is written without an exponent consists of digits and perhaps a point. -/
theorem NumberLayout.of_mem_positional {keepsPoint : Bool} {d : Decimal} {c : Char}
    (hd : ∀ c ∈ d.digits, c.isDigit = true) (h : c ∈ positional keepsPoint d) :
    c.isDigit = true ∨ c = '.' := by
  unfold positional at h
  dsimp only at h
  split at h
  · simp only [List.mem_cons, List.mem_append, List.mem_replicate] at h
    rcases h with rfl | rfl | ⟨-, rfl⟩ | h
    · exact .inl rfl
    · exact .inr rfl
    · exact .inl rfl
    · exact .inl (hd c h)
  · split at h
    · simp only [List.mem_append, List.mem_replicate] at h
      rcases h with (h | ⟨-, rfl⟩) | h
      · exact .inl (hd c h)
      · exact .inl rfl
      · cases keepsPoint with
        | false => cases h
        | true =>
          obtain rfl | rfl : c = '.' ∨ c = '0' := by simpa using h
          · exact .inr rfl
          · exact .inl rfl
    · simp only [List.mem_append, List.mem_cons] at h
      rcases h with h | rfl | h
      · exact .inl (hd c (List.mem_of_mem_take h))
      · exact .inr rfl
      · exact .inl (hd c (List.mem_of_mem_drop h))

end CsvCleaning
