import CsvCleaning.Json.NumberToken
import CsvCleaning.Json.TextToken
import CsvCleaning.Proofs.Json.Printing
import CsvCleaning.Proofs.Number.Shortest
import CsvCleaning.Proofs.Text.Reading

/-!
# Tokens that were written are cut out again

A text in quotes is cut out of a body up to its closing quote, and it is the text that was written. A number
is cut out up to what cannot belong to it, so that its value does not depend on what follows.
-/

namespace CsvCleaning

namespace Json

/-! ### Texts -/

/-- Bytes that are no quote, no backslash and no control character are scanned as they stand. -/
theorem scanText_append {bs : Bytes} (h : ∀ b ∈ bs, b ≠ 0x22 ∧ b ≠ 0x5C ∧ 0x20 ≤ b.toNat)
    (rest : Bytes) :
    scanText (bs ++ rest) = (bs.map .byte ++ (scanText rest).1, (scanText rest).2) := by
  induction bs with
  | nil => rfl
  | cons b more ih =>
    obtain ⟨⟨hquote, hslash, hplain⟩, hmore⟩ := List.forall_mem_cons.mp h
    rw [List.cons_append, scanText.eq_def]
    simp only [hquote, hslash, Nat.not_lt.mpr hplain, if_false, ih hmore, List.map_cons, List.cons_append]

/-- An escape of one letter is scanned as the byte that it stands for. -/
theorem scanText_escape {e b : UInt8} (he : e ≠ 0x75) (h : escapeByte? e = some b) (rest : Bytes) :
    scanText (0x5C :: e :: rest) = (.escape b :: (scanText rest).1, (scanText rest).2) := by
  rw [scanText.eq_def]
  simp only [he, h, if_false, if_true]
  rfl

/-- An escape of four digits is scanned as the unit that they write. -/
theorem scanText_unit {a b c d : UInt8} {n : Nat} (h : hexUnit? a b c d = some n) (rest : Bytes) :
    scanText (0x5C :: 0x75 :: a :: b :: c :: d :: rest) =
      (.unit n :: (scanText rest).1, (scanText rest).2) := by
  rw [scanText.eq_def]
  simp only [h, if_true]
  rfl

/-- Bytes that stand as they are spell themselves. -/
theorem spell_bytes (stop : Option TextBreak) (bs : Bytes) (more : List Piece) :
    spell stop (bs.map .byte ++ more) = (spell stop more).map (bs ++ ·) := by
  induction bs with
  | nil =>
    rw [List.map_nil, List.nil_append]
    cases spell stop more <;> rfl
  | cons b rest ih =>
    rw [List.map_cons, List.cons_append, spell, ih]
    cases spell stop more <;> rfl

/-- The pieces that a character is written as: they are scanned, whatever follows, and spell its bytes. -/
def IsSpelling (c : Char) (pieces : List Piece) : Prop :=
  (∀ rest, scanText (Bytes.ofChars (escapeChar c) ++ rest) =
    (pieces ++ (scanText rest).1, (scanText rest).2)) ∧
  ∀ stop more, spell stop (pieces ++ more) = (spell stop more).map (String.utf8EncodeChar c ++ ·)

/-- The characters with an escape of one letter, each with its letter. -/
def letterEscapes : List (Char × UInt8) :=
  [('\"', 0x22), ('\\', 0x5C), (Char.ofNat 8, 0x62), (Char.ofNat 12, 0x66), ('\n', 0x6E), ('\r', 0x72),
    ('\t', 0x74)]

/-- They are written as their escapes, which stand for their one byte. -/
theorem letterEscapes_spec : ∀ e ∈ letterEscapes, Bytes.ofChars (escapeChar e.1) = [0x5C, e.2] ∧ e.2 ≠ 0x75 ∧
    escapeByte? e.2 = some (UInt8.ofNat e.1.toNat) ∧
      String.utf8EncodeChar e.1 = [UInt8.ofNat e.1.toNat] := by
  decide

/-- A character with an escape of one letter. -/
theorem isSpelling_escape {e : Char × UInt8} (he : e ∈ letterEscapes) :
    IsSpelling e.1 [.escape (UInt8.ofNat e.1.toNat)] := by
  obtain ⟨hwritten, hletter, hbyte, hone⟩ := letterEscapes_spec e he
  constructor
  · intro rest
    rw [hwritten]
    exact scanText_escape hletter hbyte rest
  · intro stop more
    rw [hone]
    rfl

/-- Any other character is written by its number or stands as it is. -/
theorem escapeChar_of_not_mem {c : Char} (h : c ∉ letterEscapes.map (·.1)) :
    escapeChar c = if c.toNat < 0x20 then
      ['\\', 'u', '0', '0', Digits.lower (c.toNat / 16), Digits.lower (c.toNat % 16)] else [c] := by
  have hcode {n : Nat} (hne : c ≠ Char.ofNat n) : c.toNat ≠ n := fun heq =>
    hne (heq ▸ (Char.ofNat_toNat c).symm)
  simp only [letterEscapes, List.map_cons, List.map_nil, List.mem_cons, List.not_mem_nil, or_false,
    not_or] at h
  obtain ⟨hquote, hslash, hback, hfeed, hline, hreturn, htab⟩ := h
  simp only [escapeChar, hquote, hslash, hcode hback, hcode hfeed, hline, hreturn, htab, if_false]

/-- A control character that has no other escape is written by its number. -/
theorem isSpelling_unit {c : Char} (h : c.toNat < 0x20)
    (hwritten : escapeChar c =
      ['\\', 'u', '0', '0', Digits.lower (c.toNat / 16), Digits.lower (c.toNat % 16)]) :
    IsSpelling c [.unit c.toNat] := by
  have hunit : ∀ n : Fin 0x20, ∃ a b, Bytes.ofChars ['\\', 'u', '0', '0', Digits.lower (n / 16),
      Digits.lower (n % 16)] = [0x5C, 0x75, 0x30, 0x30, a, b] ∧ hexUnit? 0x30 0x30 a b = some n.val := by
    intro n
    refine ⟨UInt8.ofNat (Digits.lower (n / 16)).toNat, UInt8.ofNat (Digits.lower (n % 16)).toNat, ?_⟩
    revert n
    decide
  obtain ⟨a, b, hbytes, hvalue⟩ := hunit ⟨c.toNat, h⟩
  constructor
  · intro rest
    rw [hwritten, hbytes]
    exact scanText_unit hvalue rest
  · intro stop more
    have htrailing : isTrailing c.toNat = false := by
      simp only [isTrailing, Bool.and_eq_false_iff, decide_eq_false_iff_not]
      omega
    have hleading : isLeading c.toNat = false := by
      simp only [isLeading, Bool.and_eq_false_iff, decide_eq_false_iff_not]
      omega
    rw [List.singleton_append, spell.eq_def]
    simp only [htrailing, hleading, Bool.false_eq_true, if_false, Char.ofNat_toNat]

/-- Any other character stands as it is. -/
theorem isSpelling_plain {c : Char} (hquote : c ≠ '\"') (hslash : c ≠ '\\') (hplain : 0x20 ≤ c.toNat)
    (hwritten : escapeChar c = [c]) : IsSpelling c ((String.utf8EncodeChar c).map .byte) := by
  have hbytes : ∀ b ∈ String.utf8EncodeChar c, b ≠ 0x22 ∧ b ≠ 0x5C ∧ 0x20 ≤ b.toNat := by
    rcases Bytes.utf8EncodeChar_cases c with ⟨hlow, hone⟩ | ⟨-, -, hhigh⟩
    · have hbyte : (UInt8.ofNat c.toNat).toNat = c.toNat := Bytes.toNat_ofNat_of_lt (by omega)
      rw [hone, List.forall_mem_singleton]
      refine ⟨fun heq => hquote ?_, fun heq => hslash ?_, hbyte.symm ▸ hplain⟩
      · exact Char.toNat_inj.mp (hbyte.symm.trans (congrArg UInt8.toNat heq))
      · exact Char.toNat_inj.mp (hbyte.symm.trans (congrArg UInt8.toNat heq))
    · intro b hb
      have hb := hhigh b hb
      refine ⟨?_, ?_, by omega⟩
      · rintro rfl
        exact absurd hb (by decide)
      · rintro rfl
        exact absurd hb (by decide)
  constructor
  · intro rest
    have hone : Bytes.ofChars (escapeChar c) = String.utf8EncodeChar c := by
      rw [hwritten]
      exact List.append_nil _
    rw [hone]
    exact scanText_append hbytes rest
  · exact fun stop more => spell_bytes stop _ more

/-- Every character is written as pieces that are scanned and spell it. -/
theorem exists_isSpelling (c : Char) : ∃ pieces, IsSpelling c pieces := by
  by_cases hletter : c ∈ letterEscapes.map (·.1)
  · obtain ⟨e, he, rfl⟩ := List.mem_map.mp hletter
    exact ⟨_, isSpelling_escape he⟩
  have hwritten := escapeChar_of_not_mem hletter
  by_cases hcontrol : c.toNat < 0x20
  · exact ⟨_, isSpelling_unit hcontrol (hwritten.trans (if_pos hcontrol))⟩
  · have hquote : c ≠ '\"' := fun heq => hletter (heq ▸ by decide)
    have hslash : c ≠ '\\' := fun heq => hletter (heq ▸ by decide)
    exact ⟨_, isSpelling_plain hquote hslash (Nat.le_of_not_lt hcontrol)
      (hwritten.trans (if_neg hcontrol))⟩

/-- Written characters are scanned up to the closing quote and spell the characters. -/
theorem exists_scanText (cs : List Char) (rest : Bytes) : ∃ pieces,
    scanText (Bytes.ofChars (cs.flatMap escapeChar) ++ 0x22 :: rest) = (pieces, .ok rest) ∧
      spell none pieces = .ok (Bytes.ofChars cs) := by
  induction cs with
  | nil =>
    refine ⟨[], ?_, rfl⟩
    rw [scanText.eq_def]
    rfl
  | cons c more ih =>
    obtain ⟨pieces, hscan, hspell⟩ := ih
    obtain ⟨first, hfirst, hbytes⟩ := exists_isSpelling c
    refine ⟨first ++ pieces, ?_, ?_⟩
    · rw [List.flatMap_cons, Bytes.ofChars_append, List.append_assoc, hfirst, hscan]
    · rw [hbytes, hspell]
      rfl

/-- A text is cut out of what it was written in and what follows, and it is the same. -/
theorem readText_written (s : String) (rest : Bytes) :
    readText (Bytes.ofChars (s.toList.flatMap escapeChar) ++ 0x22 :: rest) = .ok (.ok s, rest) := by
  obtain ⟨pieces, hscan, hspell⟩ := exists_scanText s.toList rest
  have htext : spellText none pieces = .ok s := by
    have hread : Bytes.readUtf8? (Bytes.ofChars s.toList) = some s := Bytes.readUtf8?_utf8 s
    rw [spellText, hspell]
    simp only [hread]
  rw [readText, hscan]
  simp only [htext]

/-! ### Numbers -/

/-- A number in parts: whether it is negative, the digits before the point and behind it, and those of the
exponent with whether that is positive. -/
structure NumberParts where
  negative : Bool
  whole : List Char
  fraction : Option (List Char)
  exponent : Option (Bool × List Char)

/-- The value of a digit. -/
def digitValue (c : Char) : Nat :=
  c.toNat - 0x30

namespace NumberParts

/-- The characters that the parts are written as. -/
def chars (p : NumberParts) : List Char :=
  (if p.negative then ['-'] else []) ++ (p.whole ++ (p.fraction.elim [] ('.' :: ·) ++
    p.exponent.elim [] fun e => 'e' :: (if e.1 then '+' else '-') :: e.2))

/-- The token of the parts. -/
def token (p : NumberParts) : NumberToken where
  negative := p.negative
  whole := p.whole.map digitValue
  fraction := p.fraction.map (·.map digitValue)
  exponent := p.exponent.map fun e => (e.1, e.2.map digitValue)

/-- The parts are digits, some in each, and there is no zero in front. -/
structure IsProper (p : NumberParts) : Prop where
  numeral : Digits.IsNumeral p.whole
  whole : ∀ c ∈ p.whole, c.isDigit = true
  fraction : ∀ cs ∈ p.fraction, cs ≠ [] ∧ ∀ c ∈ cs, c.isDigit = true
  exponent : ∀ e ∈ p.exponent, e.2 ≠ [] ∧ ∀ c ∈ e.2, c.isDigit = true

end NumberParts

/-- What follows does not go on with a number. -/
def EndsNumber (rest : Bytes) : Prop :=
  ∀ b ∈ rest.head?, digit? b = none ∧ b ≠ 0x2E ∧ b ≠ 0x65 ∧ b ≠ 0x45

/-- Nothing follows. -/
theorem endsNumber_nil : EndsNumber [] := by
  intro b hb
  cases hb

/-- A digit is one byte, which is read as its value. -/
theorem digit?_of_isDigit {c : Char} (h : c.isDigit = true) :
    digit? (UInt8.ofNat c.toNat) = some (digitValue c) := by
  have hcode := Digits.toNat_of_isDigit h
  rw [digit?, Bytes.toNat_ofNat_of_lt (by omega), if_pos hcode, digitValue]

/-- A digit is a character of one byte. -/
theorem ofChars_cons_of_isDigit {c : Char} (h : c.isDigit = true) (cs : List Char) :
    Bytes.ofChars (c :: cs) = UInt8.ofNat c.toNat :: Bytes.ofChars cs := by
  have hcode := Digits.toNat_of_isDigit h
  exact Bytes.ofChars_cons (by omega) cs

/-- Digits are taken up to what is no digit. -/
theorem takeDigits_append {cs : List Char} (h : ∀ c ∈ cs, c.isDigit = true) {rest : Bytes}
    (hrest : ∀ b ∈ rest.head?, digit? b = none) :
    takeDigits (Bytes.ofChars cs ++ rest) = (cs.map digitValue, rest) := by
  induction cs with
  | nil =>
    cases rest with
    | nil => rfl
    | cons b more =>
      have hnone : digit? b = none := hrest b rfl
      change takeDigits (b :: more) = ([], b :: more)
      rw [takeDigits, hnone]
  | cons c more ih =>
    obtain ⟨hc, hmore⟩ := List.forall_mem_cons.mp h
    rw [ofChars_cons_of_isDigit hc, List.cons_append, takeDigits, digit?_of_isDigit hc, ih hmore]
    rfl

/-- Some digits are taken up to what is no digit. -/
theorem someDigits_append {cs : List Char} (hne : cs ≠ []) (h : ∀ c ∈ cs, c.isDigit = true) {rest : Bytes}
    (hrest : ∀ b ∈ rest.head?, digit? b = none) :
    someDigits (Bytes.ofChars cs ++ rest) = .ok (cs.map digitValue, rest) := by
  rw [someDigits, takeDigits_append h hrest]
  cases cs with
  | nil => exact absurd rfl hne
  | cons c more => rfl

/-- A numeral is cut out up to what is no digit. -/
theorem scanWhole_append {cs : List Char} (hcs : Digits.IsNumeral cs) (h : ∀ c ∈ cs, c.isDigit = true)
    {rest : Bytes} (hrest : ∀ b ∈ rest.head?, digit? b = none) :
    scanWhole (Bytes.ofChars cs ++ rest) = .ok (cs.map digitValue, rest) := by
  rw [scanWhole, someDigits_append hcs.1 h hrest]
  cases cs with
  | nil => rfl
  | cons c more =>
    cases more with
    | nil =>
      rw [List.map_singleton]
      cases digitValue c <;> rfl
    | cons d more =>
      have hzero : c ≠ '0' := by
        intro hc
        cases hcs.2 (congrArg some hc)
      have hvalue : digitValue c ≠ 0 := by
        intro hc
        have hcode := Digits.toNat_of_isDigit (h c List.mem_cons_self)
        refine hzero (Char.toNat_inj.mp ?_)
        change c.toNat = 0x30
        rw [digitValue] at hc
        omega
      obtain ⟨n, hn⟩ := Nat.exists_eq_succ_of_ne_zero hvalue
      simp only [List.map_cons, hn]

/-- A minus sign is cut off where there is one. -/
theorem takeMinus_append (negative : Bool) {cs : List Char} (hne : cs ≠ [])
    (h : ∀ c ∈ cs, c.isDigit = true) (rest : Bytes) :
    takeMinus (Bytes.ofChars ((if negative then ['-'] else []) ++ cs) ++ rest) =
      (negative, Bytes.ofChars cs ++ rest) := by
  cases negative with
  | true => rfl
  | false =>
    cases cs with
    | nil => exact absurd rfl hne
    | cons c more =>
      have hc := h c List.mem_cons_self
      have hminus : UInt8.ofNat c.toNat ≠ 0x2D := by
        intro heq
        have hcode := digit?_of_isDigit hc
        rw [heq] at hcode
        cases hcode
      change takeMinus (Bytes.ofChars (c :: more) ++ rest) = _
      rw [ofChars_cons_of_isDigit hc, List.cons_append, takeMinus, if_neg hminus]

/-- A point and digits are cut out where there are some. -/
theorem scanFraction_append {fraction : Option (List Char)}
    (h : ∀ cs ∈ fraction, cs ≠ [] ∧ ∀ c ∈ cs, c.isDigit = true) {rest : Bytes}
    (hdigit : ∀ b ∈ rest.head?, digit? b = none) (hpoint : rest.head? ≠ some 0x2E) :
    scanFraction (Bytes.ofChars (fraction.elim [] ('.' :: ·)) ++ rest) =
      .ok (fraction.map (·.map digitValue), rest) := by
  cases fraction with
  | none =>
    change scanFraction rest = _
    cases rest with
    | nil => rfl
    | cons b more =>
      have hb : b ≠ 0x2E := fun heq => hpoint (congrArg some heq)
      rw [scanFraction, if_neg hb]
      rfl
  | some cs =>
    obtain ⟨hne, hcs⟩ := h cs rfl
    have hbytes : Bytes.ofChars ('.' :: cs) = 0x2E :: Bytes.ofChars cs := Bytes.ofChars_cons (by decide) cs
    rw [Option.elim_some, hbytes, List.cons_append, scanFraction, if_pos rfl,
      someDigits_append hne hcs hdigit]
    rfl

/-- An exponent is cut out where there is one. -/
theorem scanExponent_append {exponent : Option (Bool × List Char)}
    (h : ∀ e ∈ exponent, e.2 ≠ [] ∧ ∀ c ∈ e.2, c.isDigit = true) {rest : Bytes} (hrest : EndsNumber rest) :
    scanExponent (Bytes.ofChars (exponent.elim [] fun e => 'e' :: (if e.1 then '+' else '-') :: e.2) ++
      rest) = .ok (exponent.map fun e => (e.1, e.2.map digitValue), rest) := by
  cases exponent with
  | none =>
    change scanExponent rest = _
    cases rest with
    | nil => rfl
    | cons b more =>
      obtain ⟨-, -, hlower, hupper⟩ := hrest b rfl
      rw [scanExponent, if_neg (not_or.mpr ⟨hlower, hupper⟩)]
      rfl
  | some e =>
    obtain ⟨positive, cs⟩ := e
    obtain ⟨hne, hcs⟩ := h _ rfl
    have hbytes : Bytes.ofChars ('e' :: (if positive then '+' else '-') :: cs) =
        0x65 :: (if positive then 0x2B else 0x2D) :: Bytes.ofChars cs := by
      cases positive <;> rfl
    have hsign (more : Bytes) :
        takeSign ((if positive then 0x2B else 0x2D) :: more) = (positive, more) := by
      cases positive <;> rfl
    rw [Option.elim_some, hbytes, List.cons_append, List.cons_append, scanExponent, if_pos (.inl rfl),
      hsign]
    dsimp only
    rw [someDigits_append hne hcs fun b hb => (hrest b hb).1]
    rfl

namespace NumberParts

variable {p : NumberParts} {rest : Bytes}

/-- An exponent and what follows go on with neither a digit nor a point. -/
theorem head?_exponent (hrest : EndsNumber rest) :
    ∀ b ∈ (Bytes.ofChars (p.exponent.elim [] fun e => 'e' :: (if e.1 then '+' else '-') :: e.2) ++
      rest).head?, digit? b = none ∧ b ≠ 0x2E := by
  cases p.exponent with
  | none => exact fun b hb => ⟨(hrest b hb).1, (hrest b hb).2.1⟩
  | some e =>
    intro b hb
    obtain rfl : 0x65 = b := Option.some.inj hb
    decide

/-- A fraction and what follows do not go on with a digit. -/
theorem head?_fraction (hrest : EndsNumber rest) :
    ∀ b ∈ (Bytes.ofChars (p.fraction.elim [] ('.' :: ·)) ++
      (Bytes.ofChars (p.exponent.elim [] fun e => 'e' :: (if e.1 then '+' else '-') :: e.2) ++
        rest)).head?, digit? b = none := by
  cases p.fraction with
  | none => exact fun b hb => (head?_exponent hrest b hb).1
  | some cs =>
    intro b hb
    obtain rfl : 0x2E = b := Option.some.inj hb
    rfl

/-- A number that is written in proper parts is cut out, and the token has its parts. -/
theorem scanNumber_chars (hp : p.IsProper) (hrest : EndsNumber rest) :
    scanNumber (Bytes.ofChars p.chars ++ rest) = .ok (p.token, rest) := by
  have hsign := takeMinus_append p.negative hp.numeral.1 hp.whole
    (Bytes.ofChars (p.fraction.elim [] ('.' :: ·)) ++
      (Bytes.ofChars (p.exponent.elim [] fun e => 'e' :: (if e.1 then '+' else '-') :: e.2) ++ rest))
  have hwhole := scanWhole_append hp.numeral hp.whole (head?_fraction (p := p) hrest)
  have hfraction := scanFraction_append hp.fraction (fun b hb => (head?_exponent (p := p) hrest b hb).1)
    fun hpoint => (head?_exponent hrest _ hpoint).2 rfl
  have hchars : Bytes.ofChars p.chars ++ rest =
      Bytes.ofChars ((if p.negative then ['-'] else []) ++ p.whole) ++
        (Bytes.ofChars (p.fraction.elim [] ('.' :: ·)) ++
          (Bytes.ofChars (p.exponent.elim [] fun e => 'e' :: (if e.1 then '+' else '-') :: e.2) ++
            rest)) := by
    simp only [chars, Bytes.ofChars_append, List.append_assoc]
  rw [hchars, scanNumber, hsign]
  simp only [hwhole, hfraction, scanExponent_append hp.exponent hrest, bind, Except.bind]
  rfl

end NumberParts

end Json

/-! ### Numbers as they are written -/

/-- A number as the format has it: the exponent of a binary64 value is not below the least. -/
def JsonNumber.IsProper : JsonNumber → Prop
  | int _ => True
  | real x => -1074 ≤ x.exponent

namespace Json

namespace NumberParts

/-- Digits that do not begin with a zero are a numeral. -/
theorem isNumeral_of_ne {c : Char} (hc : c ≠ '0') (cs : List Char) : Digits.IsNumeral (c :: cs) :=
  ⟨List.cons_ne_nil _ _, fun hzero => absurd (Option.some.inj hzero) hc⟩

/-- Only digits are among zeros. -/
theorem isDigit_of_mem_replicate {n : Nat} {c : Char} (h : c ∈ List.replicate n '0') : c.isDigit = true := by
  rw [List.eq_of_mem_replicate h]
  rfl

/-- Zero is a numeral. -/
theorem isNumeral_zero : Digits.IsNumeral ['0'] :=
  ⟨List.cons_ne_nil _ _, fun _ => rfl⟩

/-- A magnitude that is written without an exponent has a numeral before its point and digits behind it. -/
theorem exists_positional {d : Decimal} (hdigits : ∀ c ∈ d.digits, c.isDigit = true)
    (hfirst : ∃ c cs, d.digits = c :: cs ∧ c ≠ '0') (negative : Bool) :
    ∃ p : NumberParts, p.IsProper ∧
      (if negative then ['-'] else []) ++ NumberLayout.positional true d = p.chars := by
  obtain ⟨c, cs, hd, hc⟩ := hfirst
  have hne : d.digits ≠ [] := by simp [hd]
  unfold NumberLayout.positional
  dsimp only
  by_cases hsmall : d.point ≤ 0
  · refine ⟨⟨negative, ['0'], some (List.replicate (-d.point).toNat '0' ++ d.digits), none⟩, ?_, ?_⟩
    · refine ⟨isNumeral_zero, by simp, ?_, by simp⟩
      rintro _ ⟨⟩
      refine ⟨List.append_ne_nil_of_right_ne_nil _ hne, fun c hc => ?_⟩
      exact (List.mem_append.mp hc).elim isDigit_of_mem_replicate (hdigits c)
    · simp only [hsmall, if_true, chars, Option.elim, List.append_nil, List.singleton_append]
  by_cases hwhole : (d.digits.length : Int) ≤ d.point
  · refine ⟨⟨negative, d.digits ++ List.replicate (d.point - d.digits.length).toNat '0', some ['0'],
      none⟩, ?_, ?_⟩
    · refine ⟨?_, fun c hc => ?_, ?_, by simp⟩
      · rw [hd]
        exact isNumeral_of_ne hc _
      · exact (List.mem_append.mp hc).elim (hdigits c) isDigit_of_mem_replicate
      · rintro _ ⟨⟩
        exact ⟨List.cons_ne_nil _ _, by simp⟩
    · simp only [hsmall, hwhole, if_true, if_false, chars, Option.elim, List.append_nil]
  · refine ⟨⟨negative, d.digits.take d.point.toNat, some (d.digits.drop d.point.toNat), none⟩, ?_, ?_⟩
    · refine ⟨?_, fun c hc => hdigits c (List.mem_of_mem_take hc), ?_, by simp⟩
      · obtain ⟨k, hk⟩ : ∃ k, d.point.toNat = k + 1 := ⟨d.point.toNat - 1, by omega⟩
        rw [hd, hk, List.take_succ_cons]
        exact isNumeral_of_ne hc _
      · rintro _ ⟨⟩
        refine ⟨fun hnil => ?_, fun c hc => hdigits c (List.mem_of_mem_drop hc)⟩
        have hshort := List.drop_eq_nil_iff.mp hnil
        omega
    · simp only [hsmall, hwhole, if_false, chars, Option.elim, List.append_nil]

/-- A magnitude that is written with an exponent has one digit before its point. -/
theorem exists_scientific {d : Decimal} (hdigits : ∀ c ∈ d.digits, c.isDigit = true)
    (hfirst : ∃ c cs, d.digits = c :: cs ∧ c ≠ '0') (negative : Bool) :
    ∃ p : NumberParts, p.IsProper ∧
      (if negative then ['-'] else []) ++ NumberLayout.scientific d = p.chars := by
  obtain ⟨c, cs, hd, hc⟩ := hfirst
  rw [hd] at hdigits
  obtain ⟨hcdigit, hcsdigits⟩ := List.forall_mem_cons.mp hdigits
  refine ⟨⟨negative, [c], if cs.isEmpty then none else some cs,
    some (decide (0 ≤ d.point - 1), Nat.toDigits 10 (d.point - 1).natAbs)⟩, ?_, ?_⟩
  · refine ⟨isNumeral_of_ne hc [], List.forall_mem_singleton.mpr hcdigit, ?_, ?_⟩
    · intro more hmore
      split at hmore
      · cases hmore
      · rename_i hne
        obtain rfl : cs = more := Option.some.inj hmore
        exact ⟨mt List.isEmpty_iff.mpr hne, hcsdigits⟩
    · rintro _ ⟨⟩
      exact ⟨Nat.toDigits_ne_nil, fun c hc => Nat.isDigit_of_mem_toDigits (by decide) (by decide) hc⟩
  · have hsign : (if d.point - 1 < 0 then '-' else '+') =
        if decide (0 ≤ d.point - 1) then '+' else '-' := by
      by_cases h : d.point - 1 < 0
      · rw [if_pos h, if_neg (by simpa using h)]
      · rw [if_neg h, if_pos (by simpa using Int.not_lt.mp h)]
    unfold NumberLayout.scientific chars
    rw [hd]
    dsimp only
    rw [hsign]
    cases cs <;> simp

/-- The parts of a whole number. -/
def ofInt (n : Int) : NumberParts where
  negative := n < 0
  whole := Nat.toDigits 10 n.natAbs
  fraction := none
  exponent := none

/-- A whole number is written in its parts, which are proper. -/
theorem ofInt_spec (n : Int) : (ofInt n).IsProper ∧ (toString n).toList = (ofInt n).chars := by
  constructor
  · refine ⟨⟨Nat.toDigits_ne_nil, fun hzero => ?_⟩,
      fun c hc => Nat.isDigit_of_mem_toDigits (by decide) (by decide) hc, by simp [ofInt], by simp [ofInt]⟩
    change Nat.toDigits 10 n.natAbs = ['0']
    rcases Nat.eq_zero_or_pos n.natAbs with habs | habs
    · rw [habs]
      rfl
    · exact absurd hzero (Digits.head?_toDigits_ne habs)
  · rw [toList_toString_int, chars, ofInt]
    by_cases hnegative : n < 0 <;> simp [hnegative]

/-- Every proper number is written in proper parts. -/
theorem exists_of_write {n : JsonNumber} (hn : n.IsProper) :
    ∃ p : NumberParts, p.IsProper ∧ (n.write .compact).toList = p.chars := by
  cases n with
  | int n => exact ⟨ofInt n, ofInt_spec n⟩
  | real x =>
    change ∃ p : NumberParts, p.IsProper ∧ (NumberLayout.compact.write x).toList = p.chars
    rw [NumberLayout.write, String.toList_ofList, NumberLayout.magnitude]
    by_cases hzero : x.isZero = true
    · refine ⟨⟨x.negative, ['0'], some ['0'], none⟩, ?_, ?_⟩
      · exact ⟨isNumeral_zero, by simp, by simp, by simp⟩
      · simp [chars, hzero, NumberLayout.compact]
    · rw [if_neg hzero]
      dsimp only
      have hdigits : ∀ c ∈ x.shortest.digits, c.isDigit = true := fun c hc =>
        Binary64.isDigit_of_mem_shortest hc
      have hfirst := Binary64.exists_digits_shortest (Bool.eq_false_iff.mpr hzero) hn
      by_cases hpositional : NumberLayout.compact.isPositional (x.shortest.point - 1) = true
      · rw [if_pos hpositional]
        exact exists_positional hdigits hfirst x.negative
      · rw [if_neg hpositional]
        exact exists_scientific hdigits hfirst x.negative

/-- The bytes of a number begin with a minus sign or a digit. -/
theorem exists_ofChars_chars {p : NumberParts} (hp : p.IsProper) :
    ∃ b bs, Bytes.ofChars p.chars = b :: bs ∧ (b = 0x2D ∨ (digit? b).isSome) := by
  obtain ⟨negative, whole, fraction, exponent⟩ := p
  cases negative with
  | true => exact ⟨0x2D, _, rfl, .inl rfl⟩
  | false =>
    cases whole with
    | nil => exact absurd rfl hp.numeral.1
    | cons c cs =>
      have hc := hp.whole c List.mem_cons_self
      refine ⟨_, _, ofChars_cons_of_isDigit hc _, .inr ?_⟩
      rw [digit?_of_isDigit hc]
      rfl

end NumberParts

end Json

end CsvCleaning
