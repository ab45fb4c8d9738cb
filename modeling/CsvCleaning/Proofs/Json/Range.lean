import CsvCleaning.Proofs.Json.Leniency
import CsvCleaning.Proofs.Json.Restoring

/-!
# Numbers that are parsed are proper

Whatever the text of a number, what is read from it is whole or rounded to a binary64 value. So the numbers
in all values that are parsed are proper, and what a body is read as is made of such values.
-/

namespace CsvCleaning

open Json (Fault)

/-! ### Numbers -/

/-- A quotient is rounded to a value whose exponent is not below the least. -/
theorem Binary64.le_exponent_of_ofQuotient? {negative : Bool} {num den : Nat} {x : Binary64}
    (h : ofQuotient? negative num den = some x) : -1074 ≤ x.exponent := by
  have hplace : -1074 ≤ lastPlace num den := Int.le_max_right _ _
  unfold ofQuotient? at h
  split_ifs at h
  · obtain rfl := Option.some.inj h
    exact Int.le_refl _
  · dsimp only at h
    split_ifs at h <;> obtain rfl := Option.some.inj h <;> dsimp only <;> omega

namespace Json

/-- One step of scaling divides by the greatest power of ten, unless there is a power for what is left. -/
theorem scale_succ (negative : Bool) (steps : Nat) (x : Binary64) (e : Int) :
    scale negative (steps + 1) x e =
      if e.natAbs ≤ 308 then
        match if 0 ≤ e then x.mul? (powerOfTen e.natAbs) else x.div? (powerOfTen e.natAbs) with
        | some y => .ok (y.withSign negative)
        | none => .error .numberOutOfRange
      else if x.isZero then .ok (.zero negative)
      else if 0 ≤ e then .error .numberOutOfRange
      else
        match x.div? (powerOfTen 308) with
        | some y => scale negative steps y (e + 308)
        | none => .error .numberOutOfRange :=
  rfl

/-- A magnitude is scaled to such a value. -/
theorem le_exponent_of_scale {negative : Bool} {steps : Nat} {x y : Binary64} {e : Int}
    (h : scale negative steps x e = .ok y) : -1074 ≤ y.exponent := by
  induction steps generalizing x e with
  | zero =>
    obtain rfl := Except.ok.inj h
    exact Int.le_refl _
  | succ steps ih =>
    rw [scale_succ] at h
    split_ifs at h
    · split at h
      · rename_i z hz
        obtain rfl := Except.ok.inj h
        have hexponent : -1074 ≤ z.exponent := Binary64.le_exponent_of_ofQuotient? hz
        exact hexponent
      · cases h
    · split at h
      · rename_i z hz
        obtain rfl := Except.ok.inj h
        have hexponent : -1074 ≤ z.exponent := Binary64.le_exponent_of_ofQuotient? hz
        exact hexponent
      · cases h
    · obtain rfl := Except.ok.inj h
      exact Int.le_refl _
    · split at h
      · exact ih h
      · cases h

/-- The value of a significand at an exponent is such a value. -/
theorem le_exponent_of_ofParts {negative : Bool} {significand : Nat} {e : Int} {x : Binary64}
    (h : ofParts negative significand e = .ok x) : -1074 ≤ x.exponent := by
  rw [ofParts] at h
  split at h
  · exact le_exponent_of_scale h
  · cases h

/-- So is that of a token that is not a whole number. -/
theorem NumberToken.le_exponent_of_real {t : NumberToken} {significand : Nat} {shift : Int} {x : Binary64}
    (h : t.real significand shift = .ok x) : -1074 ≤ x.exponent := by
  rw [real] at h
  split at h
  · exact le_exponent_of_ofParts h
  · split at h
    · exact le_exponent_of_ofParts h
    · split_ifs at h
      obtain rfl := Except.ok.inj h
      exact Int.le_refl _

/-- What was made real is proper where it was. -/
theorem isProper_of_map_real {x : Except Fault Binary64} (hx : ∀ y, x = .ok y → -1074 ≤ y.exponent)
    {n : JsonNumber} (h : x.map .real = .ok n) : n.IsProper := by
  cases x with
  | error f => cases h
  | ok y =>
    obtain rfl := Except.ok.inj h
    exact hx y rfl

/-- The value of a token is proper. -/
theorem NumberToken.isProper_of_value {t : NumberToken} {n : JsonNumber} (h : t.value = .ok n) :
    n.IsProper := by
  rw [value] at h
  dsimp only at h
  split at h
  · exact isProper_of_map_real (fun _ => le_exponent_of_real) h
  · split_ifs at h
    · exact isProper_of_map_real (fun _ => le_exponent_of_real) h
    · exact isProper_of_map_real (fun _ => le_exponent_of_ofParts) h
    · obtain rfl := Except.ok.inj h
      trivial
    · obtain rfl := Except.ok.inj h
      trivial

/-! ### Documents -/

/-- A document in which each number that is in range is proper. -/
inductive Doc.IsProper : Doc → Prop
  | null : IsProper null
  | bool (b : Bool) : IsProper (bool b)
  | number {n : Except Fault JsonNumber} (hn : ∀ m, n = .ok m → m.IsProper) : IsProper (number n)
  | text (s : Except Fault String) : IsProper (text s)
  | array (tooDeep : Bool) {items : List Doc} (hitems : ∀ d ∈ items, IsProper d) (stop : Option Break) :
      IsProper (array tooDeep items stop)
  | object (tooDeep : Bool) {members : List (Except Fault String × Doc)}
      (hmembers : ∀ e ∈ members, IsProper e.2) (stop : Option Break) : IsProper (object tooDeep members stop)
  | broken (b : Break) : IsProper (broken b)

/-- A word is read as its document or breaks off. -/
theorem isProper_readWord {d : Doc} (hd : d.IsProper) (word : List UInt8) (bs : Bytes) :
    (readWord d word bs).doc.IsProper := by
  induction word generalizing bs with
  | nil => exact hd
  | cons w word ih =>
    cases bs with
    | nil => exact .broken _
    | cons b rest =>
      rw [readWord]
      split
      · exact ih rest
      · exact .broken _

/-- A number is read as the value of its token or breaks off. -/
theorem isProper_readNumber (bs : Bytes) : (readNumber bs).doc.IsProper := by
  rw [readNumber]
  split
  · exact .number fun _ => NumberToken.isProper_of_value
  · exact .broken _

/-- What is read is proper. -/
theorem isProper_read (fuel : Nat) :
    (∀ depth bs, (readValue fuel depth bs).doc.IsProper) ∧
      (∀ depth bs, ∀ d ∈ (readItems fuel depth bs).items, d.IsProper) ∧
        ∀ depth bs, ∀ e ∈ (readMembers fuel depth bs).members, e.2.IsProper := by
  induction fuel with
  | zero => exact ⟨fun _ _ => .broken _, fun _ _ => List.forall_mem_nil _, fun _ _ => List.forall_mem_nil _⟩
  | succ fuel ih =>
    obtain ⟨hvalue, hitems, hmembers⟩ := ih
    refine ⟨fun depth bs => ?_, fun depth bs => ?_, fun depth bs => ?_⟩
    · rw [readValue]
      split
      · exact .broken _
      · split_ifs
        · split
          · exact .array _ (List.forall_mem_nil _) _
          · split_ifs
            · exact .array _ (List.forall_mem_nil _) _
            · exact .array _ (hitems _ _) _
        · split
          · exact .object _ (List.forall_mem_nil _) _
          · split_ifs
            · exact .object _ (List.forall_mem_nil _) _
            · exact .object _ (hmembers _ _) _
            · exact .object _ (List.forall_mem_nil _) _
        · split
          · exact .text _
          · exact .broken _
        · exact isProper_readNumber _
        · exact isProper_readWord .null _ _
        · exact isProper_readWord (.bool true) _ _
        · exact isProper_readWord (.bool false) _ _
        · exact .broken _
    · have hfirst := List.forall_mem_singleton.mpr (hvalue depth bs)
      rw [readItems]
      dsimp only
      split
      · exact hfirst
      · split
        · exact hfirst
        · split_ifs
          · exact hfirst
          · split
            · exact hfirst
            · exact List.forall_mem_cons.mpr ⟨hvalue depth bs, hitems _ _⟩
          · exact hfirst
    · rw [readMembers]
      split
      · exact List.forall_mem_nil _
      · split
        · exact List.forall_mem_singleton.mpr (.broken _)
        · split_ifs
          · dsimp only
            split
            · exact List.forall_mem_singleton.mpr (hvalue _ _)
            · split
              · exact List.forall_mem_singleton.mpr (hvalue _ _)
              · split_ifs
                · exact List.forall_mem_singleton.mpr (hvalue _ _)
                · split
                  · exact List.forall_mem_singleton.mpr (hvalue _ _)
                  · split_ifs
                    · exact List.forall_mem_cons.mpr ⟨hvalue _ _, hmembers _ _⟩
                    · exact List.forall_mem_singleton.mpr (hvalue _ _)
                    · exact List.forall_mem_singleton.mpr (hvalue _ _)
                · exact List.forall_mem_singleton.mpr (hvalue _ _)
          · exact List.forall_mem_singleton.mpr (.broken _)

/-! ### Readers -/

section Readers

variable {α β : Type} {read : Doc → Except Fault α} {P : α → Prop}

/-- What holds of all that is read from the items holds of the list. -/
theorem forall_of_readAll {items : List Doc} (h : ∀ d ∈ items, ∀ a, read d = .ok a → P a) {as : List α}
    (hread : readAll read items = .ok as) : ∀ a ∈ as, P a := by
  induction items generalizing as with
  | nil =>
    obtain rfl := Except.ok.inj hread
    exact List.forall_mem_nil _
  | cons d rest ih =>
    obtain ⟨hd, hrest⟩ := List.forall_mem_cons.mp h
    rw [readAll] at hread
    split at hread
    · cases hread
    · rename_i a ha
      cases hmore : readAll read rest with
      | error f => rw [hmore] at hread; cases hread
      | ok more =>
        rw [hmore] at hread
        obtain rfl := Except.ok.inj hread
        exact List.forall_mem_cons.mpr ⟨hd a ha, ih hrest hmore⟩

/-- What holds of a map and of all that is read from the members holds of the map that they are gathered
in. -/
theorem forall_of_readEntries {members : List (Except Fault String × Doc)}
    (h : ∀ e ∈ members, ∀ a, read e.2 = .ok a → P a) {m m' : SortedMap α} (hm : ∀ e ∈ m.entries, P e.2)
    (hread : readEntries read members m = .ok m') : ∀ e ∈ m'.entries, P e.2 := by
  induction members generalizing m with
  | nil =>
    obtain rfl := Except.ok.inj hread
    exact hm
  | cons e rest ih =>
    obtain ⟨he, hrest⟩ := List.forall_mem_cons.mp h
    obtain ⟨f | k, d⟩ := e
    · cases hread
    · rw [readEntries] at hread
      split at hread
      · cases hread
      · rename_i a ha
        refine ih hrest (fun e' he' => ?_) hread
        rcases eq_or_mem_of_mem_insertSorted he' with rfl | he'
        · exact he a ha
        · exact hm e' he'

/-- What is read of proper documents has the property. -/
def Yields (read : Doc → Except Fault α) (P : α → Prop) : Prop :=
  ∀ (d : Doc) (a : α), d.IsProper → read d = .ok a → P a

namespace Yields

/-- What a list is read as has parts with the property. -/
theorem readList (h : Yields read P) : Yields (readList read) fun as => ∀ a ∈ as, P a := by
  intro d as hd hread
  cases hd with
  | array tooDeep hitems stop =>
    obtain ⟨-, -, hitems'⟩ := readList_array_eq_ok_iff.mp hread
    exact forall_of_readAll (fun d hd a => h d a (hitems d hd)) hitems'
  | _ => cases hread

/-- So has what a map is read as. -/
theorem readMap (h : Yields read P) : Yields (readMap read) fun m => ∀ v ∈ m.values, P v := by
  intro d m hd hread
  rw [SortedMap.values, List.forall_mem_map]
  cases hd with
  | object tooDeep hmembers stop =>
    obtain ⟨-, -, hmembers'⟩ := readMap_object_eq_ok_iff.mp hread
    exact forall_of_readEntries (fun e he a => h e.2 a (hmembers e he)) (List.forall_mem_nil _) hmembers'
  | _ => cases hread

/-- So has what may be null, if there is something. -/
theorem readOption (h : Yields read P) : Yields (readOption read) fun o => ∀ a ∈ o, P a := by
  intro d o hd hread
  unfold Json.readOption at hread
  split at hread
  · obtain rfl := Except.ok.inj hread
    exact fun a ha => absurd ha (Option.not_mem_none a)
  · cases ha : read d with
    | error f => rw [ha] at hread; cases hread
    | ok a =>
      rw [ha] at hread
      obtain rfl := Except.ok.inj hread
      rintro b ⟨⟩
      exact h d _ hd ha

/-- Values that are read have proper numbers. -/
theorem value : Yields Doc.value HasProperNumbers := by
  intro d v hd hread
  induction hd generalizing v with
  | null | bool b =>
    rw [Doc.value] at hread
    obtain rfl := Except.ok.inj hread
    constructor
  | @number n hn =>
    rw [Doc.value] at hread
    cases n with
    | error f => cases hread
    | ok n =>
      obtain rfl := Except.ok.inj hread
      exact .number (hn n rfl)
  | text s =>
    rw [Doc.value] at hread
    cases s with
    | error f => cases hread
    | ok s =>
      obtain rfl := Except.ok.inj hread
      exact .text s
  | @array tooDeep items hitems stop ih =>
    rw [value_array] at hread
    cases hvs : Json.readList Doc.value (.array tooDeep items stop) with
    | error f => rw [hvs] at hread; cases hread
    | ok vs =>
      rw [hvs] at hread
      obtain rfl := Except.ok.inj hread
      obtain ⟨-, -, hread⟩ := readList_array_eq_ok_iff.mp hvs
      exact .array (forall_of_readAll (fun d hd => ih d hd) hread)
  | @object tooDeep members hmembers stop ih =>
    rw [value_object] at hread
    cases hm : Json.readMap Doc.value (.object tooDeep members stop) with
    | error f => rw [hm] at hread; cases hread
    | ok m =>
      rw [hm] at hread
      obtain rfl := Except.ok.inj hread
      obtain ⟨-, -, hread⟩ := readMap_object_eq_ok_iff.mp hm
      exact .object (forall_of_readEntries (fun e he => ih e he) (List.forall_mem_nil _) hread)
  | broken b =>
    rw [Doc.value] at hread
    cases hread

/-- What a body is read as has the property. -/
theorem decodeBody (h : Yields read P) {bs : Bytes} {a : α} (hread : decodeBody read bs = .ok a) : P a := by
  rw [Json.decodeBody] at hread
  split at hread
  · cases hread
  · rename_i b hb
    split at hread
    · obtain rfl := Except.ok.inj hread
      exact h _ _ ((isProper_read _).1 _ _) hb
    · cases hread

end Yields

/-! ### Shapes -/

/-- What is built of proper documents has the property. -/
def Shape.Yields (s : Shape α) (P : α → Prop) : Prop :=
  ∀ (fields : Fields) (a : α), (∀ k d, fields k = some d → d.IsProper) → s.build fields = .ok a → P a

namespace Shape.Yields

variable {name : String} {default : α}

/-- Everything has the property that holds of all. -/
theorem anything {s : Shape α} : s.Yields fun _ => True :=
  fun _ _ _ _ => trivial

/-- A value is built as it is. -/
theorem pure {a : α} (h : P a) : (Shape.pure a).Yields P := by
  intro fields b _ hbuild
  exact Except.ok.inj hbuild ▸ h

/-- What the last field gives is handed to what the fields before it give. -/
theorem and {s : Shape (β → α)} {t : Shape β} {Q : β → Prop} (hs : s.Yields fun f => ∀ b, Q b → P (f b))
    (ht : t.Yields Q) : (s.and t).Yields P := by
  intro fields a hfields hbuild
  obtain ⟨f, b, hf, hb, rfl⟩ := build_and_eq_ok_iff.mp hbuild
  exact hs fields f hfields hf b (ht fields b hfields hb)

/-- A required field gives what is read. -/
theorem required (h : Json.Yields read P) : (Shape.required name read).Yields P := by
  intro fields a hfields hbuild
  simp only [Shape.required] at hbuild
  split at hbuild
  · exact h _ a (hfields _ _ ‹_›) hbuild
  · cases hbuild

/-- A field with a default gives what is read or the default. -/
theorem withDefault (h : Json.Yields read P) (hdefault : P default) :
    (Shape.withDefault name read default).Yields P := by
  intro fields a hfields hbuild
  simp only [Shape.withDefault] at hbuild
  split at hbuild
  · exact h _ a (hfields _ _ ‹_›) hbuild
  · exact Except.ok.inj hbuild ▸ hdefault

/-- What is built of the members of an object has the property. -/
theorem of_members {s : Shape α} (h : s.Yields P) {members : List (Except Fault String × Doc)}
    (hmembers : ∀ e ∈ members, e.2.IsProper) {a : α}
    (hbuild : s.build (memberNamed members) = .ok a) : P a := by
  refine h _ a (fun k d hd => ?_) hbuild
  obtain ⟨e, he, rfl⟩ := Option.map_eq_some_iff.mp hd
  exact hmembers e (List.mem_of_find?_eq_some he)

/-- So has what is built of the items of an array. -/
theorem of_items {s : Shape α} (h : s.Yields P) {rules : List FieldRule} {items : List Doc}
    (hitems : ∀ d ∈ items, d.IsProper) {a : α} (hbuild : s.build (itemNamed rules items) = .ok a) : P a := by
  refine h _ a (fun k d hd => ?_) hbuild
  obtain ⟨e, he, rfl⟩ := Option.map_eq_some_iff.mp hd
  exact hitems e.2 (List.of_mem_zip (List.mem_of_find?_eq_some he)).2

end Shape.Yields

end Readers

/-- An array that has the shape gives its items under the names of the fields. -/
theorem eq_itemNamed_of_checkArray {name : String} {rules : List FieldRule} {tooDeep : Bool}
    {items : List Doc} {stop : Option Break} {fields : Fields} (h : checkArray name rules tooDeep items stop = .ok fields) :
    fields = itemNamed rules items := by
  unfold checkArray at h
  split_ifs at h
  all_goals
    split at h
    · cases h
    · dsimp only at h
      split at h
      · cases h
      · split at h
        · cases h
        · exact (Except.ok.inj h).symm

/-- What is read by a shape is built by it. -/
theorem Shape.Yields.of_read {α : Type} {s : Shape α} {P : α → Prop} (h : s.Yields P) (name : String) :
    Json.Yields (s.read name) P := by
  intro d a hd hread
  cases hd with
  | object tooDeep hmembers stop =>
    obtain ⟨-, -, -, hbuild⟩ := read_object_eq_ok_iff.mp hread
    exact h.of_members hmembers hbuild
  | array tooDeep hitems stop =>
    rw [Shape.read] at hread
    split at hread
    · cases hread
    · rename_i fields hfields
      rw [eq_itemNamed_of_checkArray hfields] at hread
      exact h.of_items hitems hread
  | _ => cases hread

/-! ### What is restored -/

/-- A number that is read back is proper. -/
theorem isProper_of_readsBack {n : JsonNumber} (h : n.ReadsBack) : n.IsProper := by
  have hproper : (number n).HasProperNumbers := Yields.value.decodeBody h
  cases hproper with
  | number hn => exact hn

/-- So are the numbers in a value that is restored. -/
theorem IsRestored.hasProperNumbers {depth : Nat} {v : Json} (h : v.IsRestored depth) :
    v.HasProperNumbers := by
  induction h with
  | null => exact .null
  | bool b => exact .bool b
  | number hn => exact .number (isProper_of_readsBack hn)
  | text s => exact .text s
  | array _ _ ih => exact .array ih
  | object _ _ _ ih => exact .object ih

end Json

end CsvCleaning
