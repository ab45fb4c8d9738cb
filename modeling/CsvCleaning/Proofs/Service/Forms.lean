import CsvCleaning.Proofs.Json.Range
import CsvCleaning.Proofs.Json.ReadingBack
import CsvCleaning.Service.Reply

/-!
# Forms of replies

A form says how a reply is read and written, which members it has, and which counts and cells are in it. A
reply of a shape is faithful if it is built from what is read of its own members just where it is restored:
its counts have 64 bits, and its cells come back from their text. Whether this text is a body or stands in
one makes no difference but to the number of levels that are left.
-/

namespace CsvCleaning

open Json (Doc Fault Shape MemberSpec LenientBodies Yields readString readCount readList readMap readOption
  rereadMembers memberNamed nestingLimit maxWord decodeBody)

/-- How a reply is read and written, and what it consists of. -/
structure ReplyForm (α : Type) where
  /-- The reader of the reply. -/
  ofDoc : Doc → Except Fault α
  /-- Its JSON form. -/
  toJson : α → Json
  /-- The members that it has. -/
  specs : List MemberSpec
  /-- The values that a member with an unknown name may have. -/
  admits : Doc → Prop
  /-- The members that it may be written with, in the order of its fields. -/
  members : α → List (String × Json) → Prop
  /-- The counts in it. -/
  counts : α → List Nat
  /-- The cells of the tables in it. -/
  cells : α → List Json
  /-- The number of arrays and objects that are nested in each other around a cell. -/
  levels : Nat

namespace ReplyForm

variable {α : Type} (form : ReplyForm α)

/-- A reply is written as the object of its members in any order. -/
def Writes (a : α) (v : Json) : Prop :=
  ∃ members members', form.members a members ∧ members'.Perm members ∧ v = .object members'

/-- The numbers in the cells of a reply are whole or in the range of binary64. -/
def HasProperCells (a : α) : Prop :=
  ∀ c ∈ form.cells a, c.HasProperNumbers

/-- The counts of a reply have 64 bits, and its cells are restored where the reply is nested in `depth`
others. -/
def IsRestored (depth : Nat) (a : α) : Prop :=
  (∀ n ∈ form.counts a, n ≤ maxWord) ∧ ∀ c ∈ form.cells a, c.IsRestored (depth + form.levels)

/-- A reply is read leniently just where its members allow it. -/
structure Faithful : Prop extends LenientBodies form.ofDoc form.admits form.specs where
  /-- It is written with all its members. -/
  named {a : α} {members : List (String × Json)} : form.members a members →
    members.map (·.1) = form.specs.map (·.name)
  /-- Its JSON form is an object that it is written as. -/
  written (a : α) : form.Writes a (form.toJson a)
  /-- It is read back from the text of any such object just where it is restored. -/
  read_back {a : α} {v : Json} : form.Writes a v →
    (decodeBody form.ofDoc (Bytes.utf8 v.print) = .ok a ↔ form.IsRestored 0 a)

/-- A reply of a shape, which is built from what is read of its members just where it is restored. Its cells
may be taken to be proper, as those of all replies that are read are. -/
structure OfShape (s : Shape α) (name : String) : Prop where
  specified : s.Specified form.specs
  read_eq : form.ofDoc = s.read name := by rfl
  admits_eq : form.admits = fun _ => True := by rfl
  bare : ∀ spec ∈ form.specs, ∀ v ∈ spec.default, v.isBare = true
  named {a : α} {members : List (String × Json)} : form.members a members →
    members.map (·.1) = form.specs.map (·.name)
  toJson_eq (a : α) : ∃ members, form.members a members ∧ form.toJson a = .ofMembers members
  proper {a : α} {members : List (String × Json)} : form.members a members → form.HasProperCells a →
    ∀ e ∈ members, e.2.HasProperNumbers
  yields : s.Yields form.HasProperCells
  levels_pos : 0 < form.levels := by decide
  levels_lt : form.levels < nestingLimit := by decide
  build_iff {a : α} {members : List (String × Json)} {depth : Nat} : form.members a members →
    form.HasProperCells a → depth + form.levels < nestingLimit →
      (s.build (memberNamed (rereadMembers (depth + 1) members)) = .ok a ↔ form.IsRestored depth a)

/-- A reply that may be missing is written as itself or null. -/
def WritesOption : Option α → Json → Prop
  | none, v => v = .null
  | some a, v => form.Writes a v

variable {form}

/-- The object that a reply is written as is not null. -/
theorem Writes.ne_null {a : α} {v : Json} (h : form.Writes a v) : v ≠ .null := by
  obtain ⟨members, members', -, -, rfl⟩ := h
  simp

namespace OfShape

variable {s : Shape α} {name : String} {a : α} {v : Json}

/-- The numbers in the object are proper if those in the cells are. -/
theorem hasProperNumbers (h : form.OfShape s name) (hv : form.Writes a v) (hcells : form.HasProperCells a) :
    v.HasProperNumbers := by
  obtain ⟨members, members', hmembers, hperm, rfl⟩ := hv
  exact .object fun e he => h.proper hmembers hcells e (hperm.mem_iff.mp he)

/-- The reply is read back from the document of the object's text, wherever this is nested. -/
theorem ofDoc_reread_iff (h : form.OfShape s name) (hv : form.Writes a v) (hcells : form.HasProperCells a)
    {depth : Nat} (hdepth : depth + form.levels < nestingLimit) :
    form.ofDoc (Doc.reread depth v) = .ok a ↔ form.IsRestored depth a := by
  obtain ⟨members, members', hmembers, hperm, rfl⟩ := hv
  have hobject : depth + 1 < nestingLimit := lt_of_le_of_lt (Nat.add_le_add_left h.levels_pos depth) hdepth
  rw [h.read_eq, h.specified.read_reread_iff name (h.named hmembers) hperm, and_iff_right hobject,
    h.build_iff hmembers hcells hdepth]

/-- So is a reply that may be missing. -/
theorem readOption_reread_iff (h : form.OfShape s name) {o : Option α} (hv : form.WritesOption o v)
    (hcells : ∀ a ∈ o, form.HasProperCells a) {depth : Nat} (hdepth : depth + form.levels < nestingLimit) :
    readOption form.ofDoc (Doc.reread depth v) = .ok o ↔ ∀ a ∈ o, form.IsRestored depth a := by
  cases o with
  | none =>
    obtain rfl : v = .null := hv
    simp
  | some a =>
    have hone : (∀ b ∈ some a, form.IsRestored depth b) ↔ form.IsRestored depth a := by simp
    have hwritten : form.Writes a v := hv
    rw [Json.readOption_reread_eq_some_iff hwritten.ne_null, hone,
      h.ofDoc_reread_iff hwritten (hcells a rfl) hdepth]

/-- The numbers in what it is written as are proper if those in its cells are. -/
theorem hasProperNumbers_of_option (h : form.OfShape s name) {o : Option α} (hv : form.WritesOption o v)
    (hcells : ∀ a ∈ o, form.HasProperCells a) : v.HasProperNumbers := by
  cases o with
  | none =>
    obtain rfl : v = .null := hv
    exact .null
  | some a => exact h.hasProperNumbers hv (hcells a rfl)

/-- The reply is faithful. -/
theorem faithful (h : form.OfShape s name) : form.Faithful where
  toLenientBodies := by
    rw [h.read_eq, h.admits_eq]
    exact (h.specified.lenient name).bodies (fun d hd => iff_true_intro hd.skip) h.bare
  named := h.named
  written a := by
    obtain ⟨members, hmembers, heq⟩ := h.toJson_eq a
    have hnodup : (members.map (·.1)).Nodup := h.named hmembers ▸ h.specified.nodup
    exact ⟨members, _, hmembers, SortedMap.entries_ofList_perm hnodup, heq⟩
  read_back {a v} hv := by
    by_cases hcells : form.HasProperCells a
    · rw [Json.decodeBody_print (h.hasProperNumbers hv hcells)]
      exact h.ofDoc_reread_iff hv hcells ((Nat.zero_add _).symm ▸ h.levels_lt)
    -- Cells that are not proper are neither read nor restored.
    · have hyields : Yields form.ofDoc form.HasProperCells := h.read_eq ▸ h.yields.of_read name
      exact iff_of_false (mt hyields.decodeBody hcells)
        (mt (fun hrestored c hc => (hrestored.2 c hc).hasProperNumbers) hcells)

end OfShape

end ReplyForm

/-! ### Members -/

section Members

variable {depth : Nat}

/-- Texts are read from their text. -/
theorem readTexts_reread (ss : List String) (hdepth : depth + 1 < nestingLimit) :
    readList readString (Doc.reread depth (.texts ss)) = .ok ss :=
  (Json.readList_reread_iff .text).mpr ⟨hdepth, fun s _ => Json.readString_reread s⟩

/-- So is a text that may be null. -/
theorem readOptionText_reread (s : Option String) :
    readOption readString (Doc.reread depth (.ofOption .text s)) = .ok s := by
  cases s with
  | none => exact Json.readOption_reread_null
  | some s =>
    have htext : Json.text s ≠ .null := by simp
    exact (Json.readOption_reread_eq_some_iff htext).mpr (Json.readString_reread s)

/-- Named texts are read from their text. -/
theorem readTextMap_reread (m : SortedMap String) (hdepth : depth + 1 < nestingLimit) :
    readMap readString (Doc.reread depth (.object (m.entries.map fun e => (e.1, .text e.2)))) = .ok m :=
  (Json.readMap_reread_iff .text).mpr ⟨hdepth, fun e _ => Json.readString_reread e.2⟩

/-- Named counts are read from their text just where they have 64 bits. -/
theorem readCountMap_reread_iff (m : SortedMap Nat) (hdepth : depth + 1 < nestingLimit) :
    readMap readCount (Doc.reread depth (.object (m.entries.map fun e => (e.1, .count e.2)))) = .ok m ↔
      ∀ n ∈ m.values, n ≤ maxWord := by
  rw [Json.readMap_reread_iff .count, and_iff_right hdepth, SortedMap.values, List.forall_mem_map]
  exact forall₂_congr fun e _ => Json.readCount_reread_iff e.2

/-- A row of a table is read from its text just where its cells are restored. -/
theorem readRow_reread_iff {row : Row} (hcells : ∀ c ∈ row.values, c.HasProperNumbers)
    (hdepth : depth + 1 < nestingLimit) :
    Row.ofDoc (Doc.reread depth row.toJson) = .ok row ↔ ∀ c ∈ row.values, c.IsRestored (depth + 1) := by
  have hmap : Row.ofDoc (Doc.reread depth (.object (row.entries.map fun e => (e.1, id e.2)))) = .ok row ↔ _ :=
    Json.readMap_reread_iff id
  rw [SortedMap.values, List.forall_mem_map] at hcells ⊢
  simp only [id_eq, Prod.mk.eta, List.map_id', and_iff_right hdepth] at hmap
  exact hmap.trans (forall₂_congr fun e he => Json.value_reread_iff (hcells e he) _)

/-- So are the rows of a table. -/
theorem readRows_reread_iff {rows : List Row} (hcells : ∀ c ∈ rows.flatMap (·.values), c.HasProperNumbers)
    (hdepth : depth + 2 < nestingLimit) :
    readList Row.ofDoc (Doc.reread depth (.array (rows.map Row.toJson))) = .ok rows ↔
      ∀ c ∈ rows.flatMap (·.values), c.IsRestored (depth + 2) := by
  rw [List.forall_mem_flatMap] at hcells ⊢
  rw [Json.readList_reread_iff, and_iff_right (by omega)]
  exact forall₂_congr fun row hrow => readRow_reread_iff (hcells row hrow) hdepth

/-- The numbers in the rows of a table are those in its cells. -/
theorem hasProperNumbers_rows {rows : List Row} (hcells : ∀ c ∈ rows.flatMap (·.values), c.HasProperNumbers) :
    (Json.array (rows.map Row.toJson)).HasProperNumbers := by
  refine .array (List.forall_mem_map.mpr fun row hrow => .object fun e he => ?_)
  exact hcells _ (List.mem_flatMap.mpr ⟨row, hrow, List.mem_map_of_mem he⟩)

/-- Tables that are read have such cells. -/
theorem yields_rows :
    Yields (readList Row.ofDoc) fun rows => ∀ c ∈ rows.flatMap (·.values), c.HasProperNumbers := by
  intro d rows hd hread c hc
  obtain ⟨row, hrow, hc⟩ := List.mem_flatMap.mp hc
  exact Yields.value.readMap.readList d rows hd hread row hrow c hc

/-- Counts are whole numbers. -/
theorem hasProperNumbers_count (n : Nat) : (Json.count n).HasProperNumbers :=
  .number trivial

/-- There are no numbers in texts. -/
theorem hasProperNumbers_texts (ss : List String) : (Json.texts ss).HasProperNumbers :=
  .array (List.forall_mem_map.mpr fun s _ => .text s)

end Members

end CsvCleaning
