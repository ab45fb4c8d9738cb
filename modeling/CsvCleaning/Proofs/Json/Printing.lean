import CsvCleaning.Json.Printer
import CsvCleaning.Proofs.Text.Numerals
import CsvCleaning.Proofs.Text.Splitting
import Mathlib.Tactic.SplitIfs

/-!
# Printed values are on one line

Compact JSON text holds no control character. Numbers and the names of constants have none, and those
of a text are written as escapes; what stands between the parts has none either. And there is always
something on the line: nothing is printed as the empty text.
-/

namespace CsvCleaning

/-! ### Plain texts -/

namespace Text

/-- A character that is not one of the control characters below the space. -/
def IsPlain (c : Char) : Prop :=
  0x20 ≤ c.toNat

instance : DecidablePred IsPlain :=
  fun c => inferInstanceAs (Decidable (0x20 ≤ c.toNat))

/-- A text without control characters below the space. -/
def AllPlain (s : String) : Prop :=
  ∀ c ∈ s.toList, IsPlain c

instance : DecidablePred AllPlain :=
  fun s => List.decidableBAll IsPlain s.toList

/-- A digit is a plain character. -/
theorem isPlain_of_isDigit {c : Char} (h : c.isDigit = true) : IsPlain c :=
  Nat.le_trans (by decide) (Digits.toNat_of_isDigit h).1

/-- A plain text is a single line. -/
theorem AllPlain.lineBreak_not_mem {s : String} (h : AllPlain s) : '\n' ∉ s.toList :=
  fun hmem => absurd (h '\n' hmem) (by decide)

/-- Plain texts one after the other. -/
theorem AllPlain.append {s t : String} (hs : AllPlain s) (ht : AllPlain t) : AllPlain (s ++ t) := by
  intro c hc
  rw [String.toList_append] at hc
  exact (List.mem_append.mp hc).elim (hs c) (ht c)

/-- Plain texts with a plain text between them. -/
theorem AllPlain.intercalate {between : String} {parts : List String} (hbetween : AllPlain between)
    (hparts : ∀ part ∈ parts, AllPlain part) : AllPlain (between.intercalate parts) := by
  intro c hc
  rw [String.toList_intercalate] at hc
  rcases of_mem_intercalate hc with hc | ⟨part, hpart, hc⟩
  · exact hbetween c hc
  · obtain ⟨s, hs, rfl⟩ := List.mem_map.mp hpart
    exact hparts s hs c hc

end Text

open Text (IsPlain AllPlain)

/-! ### Numbers -/

namespace NumberLayout

variable {x : Binary64} {c : Char}

/-- A magnitude is written with digits, a point and a letter and a sign before the exponent. -/
theorem isPlain_of_mem_magnitude {layout : NumberLayout} (h : c ∈ layout.magnitude x) :
    IsPlain c := by
  have hdigit {d : Char} (hd : d ∈ x.shortest.digits) : d.isDigit = true :=
    Binary64.isDigit_of_mem_shortest hd
  unfold magnitude at h
  split at h
  · have hzero : AllPlain "0.0" := by decide
    split at h
    · exact hzero c h
    · exact hzero c (List.mem_cons_of_mem _ (List.mem_cons_of_mem _ h))
  · dsimp only at h
    split at h
    · rcases of_mem_positional (fun _ => hdigit) h with hc | rfl
      · exact Text.isPlain_of_isDigit hc
      · decide
    · unfold scientific at h
      simp only [List.mem_append, List.mem_cons] at h
      rcases h with (h | h) | rfl | rfl | h
      · exact Text.isPlain_of_isDigit (hdigit (List.mem_of_mem_take h))
      · split at h
        · cases h
        · rcases List.mem_cons.mp h with rfl | h
          · decide
          · exact Text.isPlain_of_isDigit (hdigit (List.mem_of_mem_drop h))
      · decide
      · split <;> decide
      · exact Text.isPlain_of_isDigit (Nat.isDigit_of_mem_toDigits (by decide) (by decide) h)

/-- A real number is plain text in every layout. -/
theorem allPlain_write (layout : NumberLayout) (x : Binary64) : AllPlain (layout.write x) := by
  intro c h
  rw [write, String.toList_ofList, List.mem_append] at h
  rcases h with h | h
  · split at h
    · obtain rfl := List.mem_singleton.mp h
      decide
    · cases h
  · exact isPlain_of_mem_magnitude h

end NumberLayout

/-- A whole number is plain text. -/
theorem allPlain_toString_int (n : Int) : AllPlain (toString n) := by
  intro c h
  rcases of_mem_toString_int h with hdigit | rfl
  · exact Text.isPlain_of_isDigit hdigit
  · decide

/-- A number is plain text in every layout. -/
theorem JsonNumber.allPlain_write (layout : NumberLayout) (n : JsonNumber) :
    AllPlain (n.write layout) := by
  cases n with
  | int n => exact allPlain_toString_int n
  | real x => exact layout.allPlain_write x

namespace Json

/-! ### Texts -/

/-- A hexadecimal digit is a plain character. -/
theorem isPlain_lower {n : Nat} (h : n < 16) : IsPlain (Digits.lower n) := by
  have all : ∀ m : Fin 16, IsPlain (Digits.lower m) := by decide
  exact all ⟨n, h⟩

/-- A character is written as itself if it is plain, and else as an escape. -/
theorem isPlain_of_mem_escapeChar {c d : Char} (h : d ∈ escapeChar c) : IsPlain d := by
  have hshort {e : Char} (he : IsPlain e) : ∀ d ∈ ['\\', e], IsPlain d :=
    List.forall_mem_cons.mpr ⟨by decide, List.forall_mem_singleton.mpr he⟩
  unfold escapeChar at h
  split_ifs at h with _ _ _ _ _ _ _ hcontrol
  iterate 7 exact hshort (by decide) d h
  · have hlead : AllPlain "\\u00" := by decide
    have hparts : d ∈ ['\\', 'u', '0', '0'] ∨
        d ∈ [Digits.lower (c.toNat / 16), Digits.lower (c.toNat % 16)] := List.mem_append.mp h
    rcases hparts with h | h
    · exact hlead d h
    · rcases List.mem_cons.mp h with rfl | h
      · exact isPlain_lower (by omega)
      · obtain rfl := List.mem_singleton.mp h
        exact isPlain_lower (by omega)
  · obtain rfl := List.mem_singleton.mp h
    exact Nat.le_of_not_lt hcontrol

/-- A text in quotes is plain. -/
theorem allPlain_quote (s : String) : AllPlain (quote s) := by
  intro c h
  rw [quote, String.toList_ofList, List.mem_cons, List.mem_append, List.mem_singleton,
    List.mem_flatMap] at h
  rcases h with rfl | ⟨d, -, hc⟩ | rfl
  · decide
  · exact isPlain_of_mem_escapeChar hc
  · decide

/-! ### Values -/

/-- Items are printed with commas between them. -/
theorem printItems_eq (items : List Json) : printItems items = ",".intercalate (items.map print) := by
  induction items with
  | nil => rfl
  | cons x rest ih =>
    cases rest with
    | nil => simp [printItems]
    | cons y rest =>
      rw [printItems, ih]
      simp only [List.map_cons, String.intercalate_cons_cons]

/-- So are members. -/
theorem printMembers_eq (members : List (String × Json)) :
    printMembers members = ",".intercalate (members.map fun e => quote e.1 ++ ":" ++ print e.2) := by
  induction members with
  | nil => rfl
  | cons e rest ih =>
    cases rest with
    | nil => simp [printMembers]
    | cons y rest =>
      rw [printMembers, ih]
      simp only [List.map_cons, String.intercalate_cons_cons]

/-- A printed value is plain, so on a single line, whatever the texts in it. -/
theorem allPlain_print : (v : Json) → AllPlain (print v)
  | null | bool true | bool false => by decide
  | number n => n.allPlain_write .compact
  | text s => allPlain_quote s
  | array items => by
    rw [print, printItems_eq]
    refine .append (.append (by decide) (.intercalate (by decide) fun part hpart => ?_)) (by decide)
    obtain ⟨x, hx, rfl⟩ := List.mem_map.mp hpart
    exact allPlain_print x
  | object members => by
    rw [print, printMembers_eq]
    refine .append (.append (by decide) (.intercalate (by decide) fun part hpart => ?_)) (by decide)
    obtain ⟨e, he, rfl⟩ := List.mem_map.mp hpart
    exact .append (.append (allPlain_quote e.1) (by decide)) (allPlain_print e.2)
termination_by v => sizeOf v
decreasing_by
  · have hsize := List.sizeOf_lt_of_mem hx
    simp only [array.sizeOf_spec]
    omega
  · have hsize := List.sizeOf_lt_of_mem he
    obtain ⟨name, x⟩ := e
    simp only [object.sizeOf_spec, Prod.mk.sizeOf_spec] at hsize ⊢
    omega

end Json

/-! ### Empty texts -/

namespace NumberLayout

/-- Digits laid out without an exponent have a point, or zeros up to where it would be. -/
theorem positional_ne_nil (keepsPoint : Bool) (d : Decimal) : positional keepsPoint d ≠ [] := by
  unfold positional
  dsimp only
  split
  · exact List.cons_ne_nil _ _
  · rename_i hpoint
    split
    · intro hnil
      have hlength := congrArg List.length (List.append_eq_nil_iff.mp hnil).1
      rw [List.length_append, List.length_replicate, List.length_nil] at hlength
      omega
    · exact List.append_ne_nil_of_right_ne_nil _ (List.cons_ne_nil _ _)

/-- A real number is never written as the empty text. -/
theorem write_ne_empty (layout : NumberLayout) (x : Binary64) : layout.write x ≠ "" := by
  have hmagnitude : layout.magnitude x ≠ [] := by
    unfold magnitude
    split
    · split <;> exact List.cons_ne_nil _ _
    · dsimp only
      split
      · exact positional_ne_nil _ _
      · exact List.append_ne_nil_of_right_ne_nil _ (List.cons_ne_nil _ _)
  intro hempty
  have hnil := String.toList_eq_nil_iff.mpr hempty
  rw [write, String.toList_ofList] at hnil
  exact hmagnitude (List.append_eq_nil_iff.mp hnil).2

end NumberLayout

/-- A number is never written as the empty text. -/
theorem JsonNumber.write_ne_empty (layout : NumberLayout) (n : JsonNumber) : n.write layout ≠ "" := by
  cases n with
  | int n =>
    intro hempty
    have hnil := String.toList_eq_nil_iff.mpr hempty
    rw [write, toList_toString_int] at hnil
    split at hnil
    · cases hnil
    · exact Nat.toDigits_ne_nil hnil
  | real x => exact layout.write_ne_empty x

/-- A value is never printed as the empty text. -/
theorem Json.print_ne_empty (v : Json) : v.print ≠ "" := by
  cases v with
  | null => decide
  | bool b => cases b <;> decide
  | number n => exact n.write_ne_empty .compact
  | text s => exact fun hempty => List.cons_ne_nil _ _ (String.ofList_eq_empty_iff.mp hempty)
  | array items =>
    rw [print]
    simp
  | object members =>
    rw [print]
    simp

end CsvCleaning
