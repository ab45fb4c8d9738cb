import CsvCleaning.Json.Shape
import CsvCleaning.Proofs.SortedMap

/-!
# Documents by their parts

A list is read from an array just where each of its parts is read from an item, and a map from an object
just where each is read from a member. So one can tell from a document alone whether it has a value, and
whether it can be passed over; the latter asks for less.
-/

namespace CsvCleaning.Json

/-! ### Lists and maps -/

section Readers

variable {α : Type} {read : Doc → Except Fault α} {tooDeep : Bool} {stop : Option Break}

/-- Documents are read in order if each is read. -/
theorem exists_readAll_iff {items : List Doc} :
    (∃ as, readAll read items = .ok as) ↔ ∀ d ∈ items, ∃ a, read d = .ok a := by
  induction items with
  | nil => exact ⟨fun _ => nofun, fun _ => ⟨[], rfl⟩⟩
  | cons d rest ih =>
    rw [List.forall_mem_cons, ← ih, readAll]
    cases read d with
    | error f => exact ⟨nofun, fun ⟨⟨_, ha⟩, _⟩ => nomatch ha⟩
    | ok a =>
      cases readAll read rest with
      | error f => exact ⟨nofun, fun ⟨_, _, has⟩ => nomatch has⟩
      | ok as => exact ⟨fun _ => ⟨⟨a, rfl⟩, as, rfl⟩, fun _ => ⟨a :: as, rfl⟩⟩

/-- Members are read in order if each has a name and is read. -/
theorem exists_readEntries_iff {members : List (Except Fault String × Doc)} {m : SortedMap α} :
    (∃ m', readEntries read members m = .ok m') ↔
      ∀ e ∈ members, (∃ k, e.1 = .ok k) ∧ ∃ a, read e.2 = .ok a := by
  induction members generalizing m with
  | nil => exact ⟨fun _ => nofun, fun _ => ⟨m, rfl⟩⟩
  | cons e rest ih =>
    obtain ⟨f | k, d⟩ := e
    · exact ⟨nofun, fun h => nomatch (h _ List.mem_cons_self).1⟩
    · rw [List.forall_mem_cons, readEntries]
      cases read d with
      | error f => exact ⟨nofun, fun ⟨⟨_, _, ha⟩, _⟩ => nomatch ha⟩
      | ok a => exact ih.trans ⟨fun h => ⟨⟨⟨k, rfl⟩, a, rfl⟩, h⟩, fun h => h.2⟩

/-- A list is read from the documents of its parts just where each is read. -/
theorem readAll_map_eq_ok_iff {doc : α → Doc} {as : List α} :
    readAll read (as.map doc) = .ok as ↔ ∀ a ∈ as, read (doc a) = .ok a := by
  induction as with
  | nil => exact ⟨fun _ => nofun, fun _ => rfl⟩
  | cons a rest ih =>
    rw [List.forall_mem_cons, ← ih, List.map_cons, readAll]
    cases read (doc a) with
    | error f => exact ⟨nofun, fun h => nomatch h.1⟩
    | ok b =>
      cases readAll read (rest.map doc) with
      | error f => exact ⟨nofun, fun h => nomatch h.2⟩
      | ok bs => simp only [Except.map, Except.ok.injEq, List.cons.injEq]

/-- What is read from members is put into the map under their names. -/
theorem readEntries_map_eq_ok_iff {β : Type} {doc : β → Doc} {entries : List (String × β)}
    {m m' : SortedMap α} :
    readEntries read (entries.map fun e => (.ok e.1, doc e.2)) m = .ok m' ↔
      ∃ found : List (String × α),
        List.Forall₂ (fun e e' => e.1 = e'.1 ∧ read (doc e.2) = .ok e'.2) entries found ∧
          found.foldl (fun m e => m.insert e.1 e.2) m = m' := by
  induction entries generalizing m with
  | nil => simp [readEntries]
  | cons e rest ih =>
    rw [List.map_cons, readEntries]
    cases he : read (doc e.2) with
    | error f =>
      refine ⟨nofun, fun h => ?_⟩
      obtain ⟨found, hfound, -⟩ := h
      obtain ⟨e', rest', ⟨-, hread⟩, -⟩ := List.forall₂_cons_left_iff.mp hfound
      cases he.symm.trans hread
    | ok a =>
      rw [ih]
      constructor
      · intro h
        obtain ⟨found, hfound, hm⟩ := h
        exact ⟨(e.1, a) :: found, .cons ⟨rfl, he⟩ hfound, hm⟩
      · intro h
        obtain ⟨found, hfound, hm⟩ := h
        obtain ⟨⟨k, b⟩, rest', ⟨hkey, hread⟩, hrest, rfl⟩ := List.forall₂_cons_left_iff.mp hfound
        obtain rfl : e.1 = k := hkey
        obtain rfl : a = b := Except.ok.inj (he.symm.trans hread)
        exact ⟨rest', hrest, hm⟩

/-- A map is read from the documents of its parts just where each is read. -/
theorem readEntries_entries_eq_ok_iff (doc : α → Doc) {m : SortedMap α} :
    readEntries read (m.entries.map fun e => (.ok e.1, doc e.2)) .empty = .ok m ↔
      ∀ e ∈ m.entries, read (doc e.2) = .ok e.2 := by
  rw [readEntries_map_eq_ok_iff]
  constructor
  · intro h
    obtain ⟨found, hfound, hm⟩ := h
    -- The keys are in order already, so the map has just the entries that it was put together from.
    have hkeys : m.entries.map (·.1) = found.map (·.1) := by
      rw [← List.forall₂_eq_eq_eq, List.forall₂_map_left_iff, List.forall₂_map_right_iff]
      exact hfound.imp fun _ _ h => h.1
    have hsorted : found.Pairwise fun a b => a.1 < b.1 := by
      have hpairwise := List.pairwise_map.mpr m.sorted
      rw [hkeys] at hpairwise
      exact List.pairwise_map.mp hpairwise
    have hentries : found = m.entries :=
      congrArg SortedMap.entries ((SortedMap.ofList_entries ⟨found, hsorted⟩).symm.trans hm)
    rw [hentries, List.forall₂_same] at hfound
    exact fun e he => (hfound e he).2
  · intro h
    exact ⟨m.entries, List.forall₂_same.mpr fun e he => ⟨rfl, h e he⟩, m.ofList_entries⟩

/-- An array is read as a list if it is whole and not nested too deep and its items are read. -/
theorem readList_array_eq_ok_iff {items : List Doc} {as : List α} :
    readList read (.array tooDeep items stop) = .ok as ↔
      tooDeep = false ∧ stop = none ∧ readAll read items = .ok as := by
  rw [readList]
  cases tooDeep with
  | true => exact ⟨nofun, fun h => nomatch h.1⟩
  | false =>
    rw [if_neg Bool.false_ne_true]
    cases readAll read items with
    | error f => exact ⟨nofun, fun h => nomatch h.2.2⟩
    | ok bs =>
      cases stop with
      | some b => exact ⟨nofun, fun h => nomatch h.2.1⟩
      | none => exact ⟨fun h => ⟨rfl, rfl, h⟩, fun h => h.2.2⟩

/-- An object is read as a map if it is whole and not nested too deep and its members are read. -/
theorem readMap_object_eq_ok_iff {members : List (Except Fault String × Doc)} {m : SortedMap α} :
    readMap read (.object tooDeep members stop) = .ok m ↔
      tooDeep = false ∧ stop = none ∧ readEntries read members .empty = .ok m := by
  rw [readMap]
  cases tooDeep with
  | true => exact ⟨nofun, fun h => nomatch h.1⟩
  | false =>
    rw [if_neg Bool.false_ne_true]
    cases readEntries read members .empty with
    | error f => exact ⟨nofun, fun h => nomatch h.2.2⟩
    | ok m' =>
      cases stop with
      | some b => exact ⟨nofun, fun h => nomatch h.2.1⟩
      | none => exact ⟨fun h => ⟨rfl, rfl, h⟩, fun h => h.2.2⟩

end Readers

/-! ### Values -/

/-- The values of documents are read in order. -/
theorem valueItems_eq_readAll (items : List Doc) : valueItems items = readAll Doc.value items := by
  induction items with
  | nil => rfl
  | cons d rest ih =>
    rw [valueItems, readAll, ih]
    cases d.value <;> rfl

/-- The values of members are read in order. -/
theorem valueMembers_eq_readEntries (members : List (Except Fault String × Doc))
    (m : SortedMap Json) : valueMembers members m = readEntries Doc.value members m := by
  induction members generalizing m with
  | nil => rfl
  | cons e rest ih =>
    obtain ⟨f | k, d⟩ := e
    · rw [valueMembers, readEntries]
    · rw [valueMembers, readEntries]
      simp only [ih]
      cases d.value <;> rfl

/-- The value of an array is the list of the values of its items. -/
theorem value_array (tooDeep : Bool) (items : List Doc) (stop : Option Break) :
    (Doc.array tooDeep items stop).value =
      (readList Doc.value (.array tooDeep items stop)).map .array := by
  rw [Doc.value, readList, valueItems_eq_readAll]
  cases tooDeep
  · cases readAll Doc.value items
    · rfl
    · cases needStop stop <;> rfl
  · rfl

/-- The value of an object has the values of its members. -/
theorem value_object (tooDeep : Bool) (members : List (Except Fault String × Doc))
    (stop : Option Break) :
    (Doc.object tooDeep members stop).value =
      (readMap Doc.value (.object tooDeep members stop)).map (.object ·.entries) := by
  rw [Doc.value, readMap, valueMembers_eq_readEntries]
  cases tooDeep
  · cases readEntries Doc.value members .empty
    · rfl
    · cases needStop stop <;> rfl
  · rfl

namespace Doc

/-- A document in which no part breaks off. -/
inductive IsWhole : Doc → Prop
  | null : IsWhole null
  | bool (b : Bool) : IsWhole (bool b)
  | number (n : Except Fault JsonNumber) : IsWhole (number n)
  | text (s : Except Fault String) : IsWhole (text s)
  | array {tooDeep : Bool} {items : List Doc} (hitems : ∀ d ∈ items, IsWhole d) :
      IsWhole (array tooDeep items none)
  | object {tooDeep : Bool} {members : List (Except Fault String × Doc)}
      (hmembers : ∀ e ∈ members, IsWhole e.2) : IsWhole (object tooDeep members none)

/-- A document in which no part breaks off, no number is out of range, no text or name is damaged, and
nothing is nested too deep. -/
inductive IsSound : Doc → Prop
  | null : IsSound null
  | bool (b : Bool) : IsSound (bool b)
  | number (n : JsonNumber) : IsSound (number (.ok n))
  | text (s : String) : IsSound (text (.ok s))
  | array {items : List Doc} (hitems : ∀ d ∈ items, IsSound d) : IsSound (array false items none)
  | object {members : List (Except Fault String × Doc)} (hnames : ∀ e ∈ members, ∃ k, e.1 = .ok k)
      (hmembers : ∀ e ∈ members, IsSound e.2) : IsSound (object false members none)

/-- A sound document is whole. -/
theorem IsSound.isWhole {d : Doc} (h : d.IsSound) : d.IsWhole := by
  induction h with
  | null => exact .null
  | bool b => exact .bool b
  | number n => exact .number _
  | text s => exact .text _
  | array _ ih => exact .array ih
  | object _ _ ih => exact .object ih

/-- An array is sound if it is whole and not nested too deep and its items are sound. -/
theorem isSound_array_iff {tooDeep : Bool} {items : List Doc} {stop : Option Break} :
    (array tooDeep items stop).IsSound ↔ tooDeep = false ∧ stop = none ∧ ∀ d ∈ items, d.IsSound := by
  constructor
  · intro h
    cases h with
    | array hitems => exact ⟨rfl, rfl, hitems⟩
  · intro h
    obtain ⟨rfl, rfl, hitems⟩ := h
    exact .array hitems

/-- An object is sound if it is whole and not nested too deep and its names and members are sound. -/
theorem isSound_object_iff {tooDeep : Bool} {members : List (Except Fault String × Doc)}
    {stop : Option Break} : (object tooDeep members stop).IsSound ↔
      tooDeep = false ∧ stop = none ∧ ∀ e ∈ members, (∃ k, e.1 = .ok k) ∧ e.2.IsSound := by
  constructor
  · intro h
    cases h with
    | object hnames hmembers => exact ⟨rfl, rfl, fun e he => ⟨hnames e he, hmembers e he⟩⟩
  · intro h
    obtain ⟨rfl, rfl, hmembers⟩ := h
    exact .object (fun e he => (hmembers e he).1) fun e he => (hmembers e he).2

/-- A document has a value exactly if it is sound. -/
theorem exists_value_iff : (d : Doc) → ((∃ v, d.value = .ok v) ↔ d.IsSound)
  | null => ⟨fun _ => .null, fun _ => ⟨_, by rw [value]⟩⟩
  | bool b => ⟨fun _ => .bool b, fun _ => ⟨_, by rw [value]⟩⟩
  | number n => by
    rw [value]
    cases n with
    | ok n => exact ⟨fun _ => .number n, fun _ => ⟨_, rfl⟩⟩
    | error f => exact ⟨(nomatch ·.choose_spec), nofun⟩
  | text s => by
    rw [value]
    cases s with
    | ok s => exact ⟨fun _ => .text s, fun _ => ⟨_, rfl⟩⟩
    | error f => exact ⟨(nomatch ·.choose_spec), nofun⟩
  | broken b => by
    rw [value]
    exact ⟨nofun, nofun⟩
  | array tooDeep items stop => by
    have hread : (∃ v, (array tooDeep items stop).value = .ok v) ↔
        ∃ vs, readList Doc.value (array tooDeep items stop) = .ok vs := by
      rw [value_array]
      cases readList Doc.value (array tooDeep items stop) <;> simp [Except.map]
    simp only [hread, readList_array_eq_ok_iff, exists_and_left, exists_readAll_iff, isSound_array_iff]
    exact and_congr_right' (and_congr_right' (forall₂_congr fun d hd => exists_value_iff d))
  | object tooDeep members stop => by
    have hread : (∃ v, (object tooDeep members stop).value = .ok v) ↔
        ∃ m, readMap Doc.value (object tooDeep members stop) = .ok m := by
      rw [value_object]
      cases readMap Doc.value (object tooDeep members stop) <;> simp [Except.map]
    simp only [hread, readMap_object_eq_ok_iff, exists_and_left, exists_readEntries_iff, isSound_object_iff]
    exact and_congr_right' (and_congr_right' (forall₂_congr fun e he =>
      and_congr_right' (exists_value_iff e.2)))
-- Items and members are reached by membership, so the recursion is on the size.
termination_by d => sizeOf d
decreasing_by
  · have hsize := List.sizeOf_lt_of_mem hd
    rw [Doc.array.sizeOf_spec]
    omega
  · have hsize := List.sizeOf_lt_of_mem he
    have hpart : sizeOf e.2 < sizeOf e := by
      obtain ⟨name, d⟩ := e
      simp only [Prod.mk.sizeOf_spec]
      omega
    rw [Doc.object.sizeOf_spec]
    omega

end Doc

/-- Items that can each be passed over can be passed over together. -/
theorem skipItems_eq_ok {items : List Doc} (h : ∀ d ∈ items, d.skip = .ok ()) : skipItems items = .ok () := by
  induction items with
  | nil => rw [skipItems]
  | cons d rest ih =>
    obtain ⟨hd, hrest⟩ := List.forall_mem_cons.mp h
    rw [skipItems, hd]
    exact ih hrest

/-- So can members. -/
theorem skipMembers_eq_ok {members : List (Except Fault String × Doc)}
    (h : ∀ e ∈ members, e.2.skip = .ok ()) : skipMembers members = .ok () := by
  induction members with
  | nil => rw [skipMembers]
  | cons e rest ih =>
    obtain ⟨he, hrest⟩ := List.forall_mem_cons.mp h
    obtain ⟨name, d⟩ := e
    rw [skipMembers, he]
    exact ih hrest

/-- A whole document can be passed over. -/
theorem Doc.IsWhole.skip {d : Doc} (h : d.IsWhole) : d.skip = .ok () := by
  induction h with
  | null | bool b | number n | text s => rw [Doc.skip]
  | array _ ih => rw [Doc.skip, skipItems_eq_ok ih]
  | object _ ih => rw [Doc.skip, skipMembers_eq_ok ih]

/-- What has a value can be passed over. -/
theorem skip_of_value {d : Doc} {v : Json} (h : d.value = .ok v) : d.skip = .ok () :=
  (d.exists_value_iff.mp ⟨v, h⟩).isWhole.skip

end CsvCleaning.Json
