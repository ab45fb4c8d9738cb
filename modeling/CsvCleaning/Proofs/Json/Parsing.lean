import CsvCleaning.Json.Document
import CsvCleaning.Proofs.Json.Tokens

/-!
# Printed values are parsed again

The text of a value is parsed up to its end, and the document that this gives can be told from the value: it
differs from the one that spells out the value only in its numbers, each of which is what is read from its
own text, and in the arrays and objects that are nested too deep.
-/

namespace CsvCleaning

open Json (Fault Doc scanNumber)

/-- What is read from the text of a number. -/
def JsonNumber.reread (n : JsonNumber) : Except Fault JsonNumber :=
  match scanNumber (Bytes.utf8 (n.write .compact)) with
  | .ok (token, _) => token.value
  | .error b => .error b.needed

/-- A number that is written in proper parts is read as their token. -/
theorem JsonNumber.reread_eq (n : JsonNumber) {p : Json.NumberParts} (hp : p.IsProper)
    (hchars : (n.write .compact).toList = p.chars) : n.reread = p.token.value := by
  have hscan := Json.NumberParts.scanNumber_chars hp Json.endsNumber_nil
  rw [List.append_nil] at hscan
  rw [reread, Bytes.utf8, hchars, hscan]

namespace Json

mutual

/-- The document that is read from the text of a value where it is nested in `depth` others. -/
def Doc.reread (depth : Nat) : Json → Doc
  | .null => .null
  | .bool b => .bool b
  | .number n => .number n.reread
  | .text s => .text (.ok s)
  | .array items => .array (nestingLimit ≤ depth + 1) (rereadItems (depth + 1) items) none
  | .object members => .object (nestingLimit ≤ depth + 1) (rereadMembers (depth + 1) members) none

/-- The documents that are read from the texts of values. -/
def rereadItems (depth : Nat) : List Json → List Doc
  | [] => []
  | v :: rest => Doc.reread depth v :: rereadItems depth rest

/-- The documents that are read from the texts of members. -/
def rereadMembers (depth : Nat) : List (String × Json) → List (Except Fault String × Doc)
  | [] => []
  | (k, v) :: rest => (.ok k, Doc.reread depth v) :: rereadMembers depth rest

end

/-- All numbers in a value are proper. -/
inductive HasProperNumbers : Json → Prop
  | null : HasProperNumbers null
  | bool (b : Bool) : HasProperNumbers (bool b)
  | number {n : JsonNumber} (hn : n.IsProper) : HasProperNumbers (number n)
  | text (s : String) : HasProperNumbers (text s)
  | array {items : List Json} (hitems : ∀ v ∈ items, HasProperNumbers v) : HasProperNumbers (array items)
  | object {members : List (String × Json)} (hmembers : ∀ e ∈ members, HasProperNumbers e.2) :
      HasProperNumbers (object members)

/-! ### The bytes of printed values -/

/-- A text is printed between quotes. -/
theorem utf8_quote (s : String) :
    Bytes.utf8 (quote s) = 0x22 :: (Bytes.ofChars (s.toList.flatMap escapeChar) ++ [0x22]) := by
  have hopen := Bytes.ofChars_cons (a := '\"') (by decide) (s.toList.flatMap escapeChar ++ ['\"'])
  rw [Bytes.ofChars_append] at hopen
  rw [quote, Bytes.utf8, String.toList_ofList]
  exact hopen

/-- The items of an array are printed between brackets. -/
theorem utf8_print_array (items : List Json) :
    Bytes.utf8 (array items).print = 0x5B :: (Bytes.utf8 (printItems items) ++ [0x5D]) := by
  rw [print, Bytes.utf8_append, Bytes.utf8_append]
  rfl

/-- The members of an object are printed between braces. -/
theorem utf8_print_object (members : List (String × Json)) :
    Bytes.utf8 (object members).print = 0x7B :: (Bytes.utf8 (printMembers members) ++ [0x7D]) := by
  rw [print, Bytes.utf8_append, Bytes.utf8_append]
  rfl

/-- Items are printed with a comma behind each but the last. -/
theorem utf8_printItems_cons (v : Json) (rest : List Json) :
    Bytes.utf8 (printItems (v :: rest)) = Bytes.utf8 v.print ++
      if rest.isEmpty then [] else 0x2C :: Bytes.utf8 (printItems rest) := by
  cases rest with
  | nil => exact (List.append_nil _).symm
  | cons w more =>
    rw [printItems, Bytes.utf8_append, Bytes.utf8_append, List.append_assoc]
    rfl

/-- Members are printed with a colon behind the name and a comma behind each but the last. -/
theorem utf8_printMembers_cons (k : String) (v : Json) (rest : List (String × Json)) :
    Bytes.utf8 (printMembers ((k, v) :: rest)) =
      Bytes.utf8 (quote k) ++ 0x3A :: (Bytes.utf8 v.print ++
        if rest.isEmpty then [] else 0x2C :: Bytes.utf8 (printMembers rest)) := by
  cases rest with
  | nil =>
    change Bytes.utf8 (quote k ++ ":" ++ v.print) = _
    rw [Bytes.utf8_append, Bytes.utf8_append, List.append_assoc, List.isEmpty_nil, if_pos rfl,
      List.append_nil]
    rfl
  | cons e more =>
    rw [printMembers, Bytes.utf8_append, Bytes.utf8_append, Bytes.utf8_append, Bytes.utf8_append]
    simp only [List.append_assoc]
    rfl

/-- The first byte of a number is no space and no other byte outside of the range from the minus sign to the
digits. -/
theorem byte_of_number {b : UInt8} (hb : b = 0x2D ∨ (digit? b).isSome) :
    isSpace b = false ∧ ∀ c : UInt8, ¬ (0x2D ≤ c.toNat ∧ c.toNat ≤ 0x39) → b ≠ c := by
  have hrange : 0x2D ≤ b.toNat ∧ b.toNat ≤ 0x39 := by
    rcases hb with rfl | hdigit
    · decide
    · rw [digit?] at hdigit
      split at hdigit
      · omega
      · cases hdigit
  have hother : ∀ c : UInt8, ¬ (0x2D ≤ c.toNat ∧ c.toNat ≤ 0x39) → b ≠ c := fun c hc heq => hc (heq ▸ hrange)
  refine ⟨?_, hother⟩
  simp only [isSpace, hother 0x20 (by decide), hother 0x0A (by decide), hother 0x09 (by decide),
    hother 0x0D (by decide), decide_false, Bool.or_false]

/-- The first byte of a printed value is neither space nor a closing bracket. -/
theorem exists_utf8_print {v : Json} (hv : v.HasProperNumbers) :
    ∃ b bs, Bytes.utf8 v.print = b :: bs ∧ isSpace b = false ∧ b ≠ 0x5D := by
  cases hv with
  | null => exact ⟨0x6E, _, rfl, rfl, by decide⟩
  | bool b =>
    cases b with
    | false => exact ⟨0x66, _, rfl, rfl, by decide⟩
    | true => exact ⟨0x74, _, rfl, rfl, by decide⟩
  | @number n hn =>
    obtain ⟨p, hp, hchars⟩ := NumberParts.exists_of_write hn
    obtain ⟨b, bs, hbytes, hb⟩ := NumberParts.exists_ofChars_chars hp
    refine ⟨b, bs, ?_, (byte_of_number hb).1, (byte_of_number hb).2 0x5D (by decide)⟩
    rw [print, Bytes.utf8, hchars, hbytes]
  | text s => exact ⟨0x22, _, utf8_quote s, rfl, by decide⟩
  | array hitems => exact ⟨0x5B, _, utf8_print_array _, rfl, by decide⟩
  | object hmembers => exact ⟨0x7B, _, utf8_print_object _, rfl, by decide⟩

/-! ### Reading what was printed -/

variable {fuel depth : Nat} {rest : Bytes}

/-- There is no space to pass over in front of another byte. -/
theorem skipSpace_cons {b : UInt8} (h : isSpace b = false) (bs : Bytes) : skipSpace (b :: bs) = b :: bs := by
  rw [skipSpace, List.dropWhile_cons_of_neg (Bool.not_eq_true _ ▸ h)]

/-- Numbers are read up to what does not go on with them. -/
theorem readValue_number {n : JsonNumber} (hn : n.IsProper) (hrest : EndsNumber rest) :
    readValue (fuel + 1) depth (Bytes.utf8 (number n).print ++ rest) = ⟨.number n.reread, some rest⟩ := by
  obtain ⟨p, hp, hchars⟩ := NumberParts.exists_of_write hn
  obtain ⟨b, bs, hbytes, hb⟩ := NumberParts.exists_ofChars_chars hp
  obtain ⟨hspace, hother⟩ := byte_of_number hb
  have hprint : Bytes.utf8 (number n).print = Bytes.ofChars p.chars := by rw [print, Bytes.utf8, hchars]
  rw [hprint, hbytes, List.cons_append, readValue, skipSpace_cons hspace]
  simp only [hother 0x5B (by decide), hother 0x7B (by decide), hother 0x22 (by decide), hb, if_false, if_true]
  rw [readNumber, ← List.cons_append, ← hbytes, NumberParts.scanNumber_chars hp hrest, n.reread_eq hp hchars]

/-- Texts are read up to the closing quote. -/
theorem readValue_text (s : String) :
    readValue (fuel + 1) depth (Bytes.utf8 (text s).print ++ rest) = ⟨.text (.ok s), some rest⟩ := by
  rw [print, utf8_quote, List.cons_append, List.append_assoc, List.singleton_append, readValue,
    skipSpace_cons rfl]
  simp only [readText_written]
  rfl

/-- A byte that ends a number, whatever comes after it. -/
theorem endsNumber_cons {b : UInt8} (h : digit? b = none ∧ b ≠ 0x2E ∧ b ≠ 0x65 ∧ b ≠ 0x45) (bs : Bytes) :
    EndsNumber (b :: bs) := by
  intro c hc
  obtain rfl : b = c := Option.some.inj hc
  exact h

section Steps

variable {bs next : Bytes} {d : Doc} {key : Except Fault String} {b : UInt8}

/-- The last item has a bracket behind it. -/
theorem readItems_last (h : readValue fuel depth bs = ⟨d, some (0x5D :: rest)⟩) :
    readItems (fuel + 1) depth bs = ⟨[d], none, some rest⟩ := by
  rw [readItems, h]
  dsimp only
  rw [skipSpace_cons rfl]
  rfl

/-- Any other item has a comma behind it, and an item follows. -/
theorem readItems_comma (h : readValue fuel depth bs = ⟨d, some (0x2C :: b :: next)⟩)
    (hspace : isSpace b = false) (hb : b ≠ 0x5D) :
    readItems (fuel + 1) depth bs =
      ⟨d :: (readItems fuel depth (b :: next)).items, (readItems fuel depth (b :: next)).stop,
        (readItems fuel depth (b :: next)).rest⟩ := by
  rw [readItems, h]
  dsimp only
  rw [skipSpace_cons rfl]
  dsimp only
  rw [skipSpace_cons hspace, if_neg (by decide), if_pos rfl]
  split
  · rename_i heq
    exact absurd (List.cons.inj heq).1 hb
  · rfl

/-- The last member has a brace behind it. -/
theorem readMembers_last (hkey : readText bs = .ok (key, 0x3A :: next))
    (h : readValue fuel depth next = ⟨d, some (0x7D :: rest)⟩) :
    readMembers (fuel + 1) depth bs = ⟨[(key, d)], none, some rest⟩ := by
  rw [readMembers, hkey]
  dsimp only
  rw [skipSpace_cons rfl]
  dsimp only
  rw [if_pos rfl, h]
  dsimp only
  rw [skipSpace_cons rfl]
  rfl

/-- Any other member has a comma behind it, and a name in quotes follows. -/
theorem readMembers_comma {more : Bytes} (hkey : readText bs = .ok (key, 0x3A :: next))
    (h : readValue fuel depth next = ⟨d, some (0x2C :: 0x22 :: more)⟩) :
    readMembers (fuel + 1) depth bs =
      ⟨(key, d) :: (readMembers fuel depth more).members, (readMembers fuel depth more).stop,
        (readMembers fuel depth more).rest⟩ := by
  rw [readMembers, hkey]
  dsimp only
  rw [skipSpace_cons rfl]
  dsimp only
  rw [if_pos rfl, h]
  dsimp only
  rw [skipSpace_cons rfl]
  dsimp only
  rw [if_neg (by decide), if_pos rfl, skipSpace_cons rfl]
  rfl

end Steps

/-- Printed members begin with the quote of the first name. -/
theorem utf8_printMembers_quote (k : String) (v : Json) (more : List (String × Json)) :
    Bytes.utf8 (printMembers ((k, v) :: more)) =
      0x22 :: (Bytes.ofChars (k.toList.flatMap escapeChar) ++ 0x22 :: 0x3A :: (Bytes.utf8 v.print ++
        if more.isEmpty then [] else 0x2C :: Bytes.utf8 (printMembers more))) := by
  rw [utf8_printMembers_cons, utf8_quote, List.cons_append, List.append_assoc]
  rfl

/-- A printed value takes at least one step. -/
theorem exists_steps {v : Json} (hv : v.HasProperNumbers) (h : 2 * (Bytes.utf8 v.print).length ≤ fuel) :
    ∃ steps, fuel = steps + 1 := by
  obtain ⟨b, bs, hbytes, -⟩ := exists_utf8_print hv
  rw [hbytes, List.length_cons] at h
  exact ⟨fuel - 1, by omega⟩

/-- A value whose text is read up to its end where it is nested in `depth` others, in as many steps as it has
bytes twice over. -/
def IsReread (depth : Nat) (v : Json) : Prop :=
  ∀ (fuel : Nat) (rest : Bytes), 2 * (Bytes.utf8 v.print).length ≤ fuel → EndsNumber rest →
    readValue fuel depth (Bytes.utf8 v.print ++ rest) = ⟨Doc.reread depth v, some rest⟩

/-- Printed items are read up to the bracket behind them, if each is read. -/
theorem readItems_print (fuel : Nat) (rest : Bytes) {v : Json} {more : List Json}
    (hproper : ∀ w ∈ v :: more, w.HasProperNumbers) (hread : ∀ w ∈ v :: more, IsReread depth w)
    (hfuel : 2 * (Bytes.utf8 (printItems (v :: more))).length < fuel) :
    readItems fuel depth (Bytes.utf8 (printItems (v :: more)) ++ 0x5D :: rest) =
      ⟨rereadItems depth (v :: more), none, some rest⟩ := by
  induction more generalizing v fuel with
  | nil =>
    obtain ⟨steps, rfl⟩ : ∃ steps, fuel = steps + 1 := ⟨fuel - 1, by omega⟩
    rw [utf8_printItems_cons, List.length_append] at hfuel
    rw [utf8_printItems_cons, List.isEmpty_nil, if_pos rfl, List.append_nil]
    exact readItems_last (hread v List.mem_cons_self _ _ (by omega) (endsNumber_cons (by decide) rest))
  | cons w more ih =>
    obtain ⟨steps, rfl⟩ : ∃ steps, fuel = steps + 1 := ⟨fuel - 1, by omega⟩
    obtain ⟨hv, hmore⟩ := List.forall_mem_cons.mp hread
    obtain ⟨-, hproper⟩ := List.forall_mem_cons.mp hproper
    obtain ⟨b, bs, hbytes, hspace, hb⟩ := exists_utf8_print (hproper w List.mem_cons_self)
    rw [utf8_printItems_cons, List.isEmpty_cons, if_neg Bool.false_ne_true] at hfuel ⊢
    rw [List.length_append, List.length_cons] at hfuel
    rw [List.append_assoc, List.cons_append]
    have hrest := ih steps hproper hmore (by omega)
    have hfirst := hv steps _ (by omega)
      (endsNumber_cons (b := 0x2C) (by decide) (Bytes.utf8 (printItems (w :: more)) ++ 0x5D :: rest))
    rw [utf8_printItems_cons w, hbytes] at hrest hfirst ⊢
    dsimp only [List.cons_append] at hrest hfirst ⊢
    rw [readItems_comma hfirst hspace hb, hrest]
    rfl

/-- Printed members are read up to the brace behind them from after the first quote on, if each is read. -/
theorem readMembers_print (fuel : Nat) (rest : Bytes) {k : String} {v : Json} {more : List (String × Json)}
    (hread : ∀ e ∈ (k, v) :: more, IsReread depth e.2) {bs : Bytes}
    (hfuel : 2 * (Bytes.utf8 (printMembers ((k, v) :: more))).length < fuel)
    (hbytes : Bytes.utf8 (printMembers ((k, v) :: more)) = 0x22 :: bs) :
    readMembers fuel depth (bs ++ 0x7D :: rest) =
      ⟨rereadMembers depth ((k, v) :: more), none, some rest⟩ := by
  induction more generalizing k v fuel bs with
  | nil =>
    obtain ⟨steps, rfl⟩ : ∃ steps, fuel = steps + 1 := ⟨fuel - 1, by omega⟩
    rw [utf8_printMembers_quote, List.isEmpty_nil, if_pos rfl, List.append_nil] at hfuel hbytes
    obtain rfl := (List.cons.inj hbytes).2
    rw [List.length_cons, List.length_append, List.length_cons, List.length_cons] at hfuel
    rw [List.append_assoc]
    have hv : IsReread depth v := hread (k, v) List.mem_cons_self
    refine readMembers_last (readText_written k _) ?_
    exact hv _ _ (by omega) (endsNumber_cons (by decide) rest)
  | cons e more ih =>
    obtain ⟨steps, rfl⟩ : ∃ steps, fuel = steps + 1 := ⟨fuel - 1, by omega⟩
    obtain ⟨k', w⟩ := e
    have hv : IsReread depth v := hread (k, v) List.mem_cons_self
    rw [utf8_printMembers_quote, List.isEmpty_cons, if_neg Bool.false_ne_true] at hfuel hbytes
    obtain rfl := (List.cons.inj hbytes).2
    simp only [List.length_cons, List.length_append] at hfuel
    have hnext := utf8_printMembers_quote k' w more
    have hrest := ih steps (List.forall_mem_cons.mp hread).2 (by omega) hnext
    have hfirst := hv steps _ (by omega) (endsNumber_cons (b := 0x2C) (by decide)
      (Bytes.utf8 (printMembers ((k', w) :: more)) ++ 0x7D :: rest))
    rw [List.append_assoc, List.cons_append, List.cons_append, List.append_assoc, List.cons_append]
    rw [hnext, List.cons_append] at hfirst ⊢
    rw [readMembers_comma (readText_written k _) hfirst, hrest]
    rfl

/-- A printed value is read up to its end. -/
theorem isReread {v : Json} (hv : v.HasProperNumbers) (depth : Nat) : IsReread depth v := by
  induction hv generalizing depth with
  | null =>
    intro fuel rest hfuel _
    obtain ⟨steps, rfl⟩ := exists_steps .null hfuel
    rfl
  | bool b =>
    intro fuel rest hfuel _
    obtain ⟨steps, rfl⟩ := exists_steps (.bool b) hfuel
    cases b <;> rfl
  | number hn =>
    intro fuel rest hfuel hrest
    obtain ⟨steps, rfl⟩ := exists_steps (.number hn) hfuel
    exact readValue_number hn hrest
  | text s =>
    intro fuel rest hfuel _
    obtain ⟨steps, rfl⟩ := exists_steps (.text s) hfuel
    exact readValue_text s
  | @array items hitems ih =>
    intro fuel rest hfuel _
    obtain ⟨steps, rfl⟩ := exists_steps (.array hitems) hfuel
    rw [utf8_print_array] at hfuel ⊢
    rw [List.length_cons, List.length_append, List.length_singleton] at hfuel
    rw [List.cons_append, List.append_assoc, List.singleton_append, readValue, skipSpace_cons rfl]
    dsimp only
    rw [if_pos rfl]
    cases items with
    | nil => rfl
    | cons v more =>
      obtain ⟨b, bs, hbytes, hspace, hb⟩ := exists_utf8_print (hitems v List.mem_cons_self)
      have hread := readItems_print steps rest hitems
        (fun w hw => ih w hw (depth + 1)) (by omega)
      rw [utf8_printItems_cons, hbytes] at hread ⊢
      dsimp only [List.cons_append] at hread ⊢
      rw [skipSpace_cons hspace]
      dsimp only
      rw [if_neg hb, hread]
      rfl
  | @object members hmembers ih =>
    intro fuel rest hfuel _
    obtain ⟨steps, rfl⟩ := exists_steps (.object hmembers) hfuel
    rw [utf8_print_object] at hfuel ⊢
    rw [List.length_cons, List.length_append, List.length_singleton] at hfuel
    rw [List.cons_append, List.append_assoc, List.singleton_append, readValue, skipSpace_cons rfl]
    dsimp only
    rw [if_neg (by decide), if_pos rfl]
    cases members with
    | nil => rfl
    | cons e more =>
      obtain ⟨k, v⟩ := e
      have hbytes := utf8_printMembers_quote k v more
      have hread := readMembers_print steps rest (fun e he => ih e he (depth + 1))
        (by omega) hbytes
      rw [hbytes, List.cons_append, skipSpace_cons rfl]
      dsimp only
      rw [if_neg (by decide), if_pos rfl, hread]
      rfl

end Json

end CsvCleaning
