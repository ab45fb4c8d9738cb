import CsvCleaning.Proofs.Json.Leniency
import CsvCleaning.Proofs.Json.Restoring

/-!
# Bodies read back

A body is written as an object that has a member for each of its fields. Whatever the order of the members,
it is read from the text of this object exactly if it is built from them in the order of the fields. What
holds of the objects that are read holds of the bodies that they are parsed from.
-/

namespace CsvCleaning.Json

variable {α : Type}

/-! ### Leniency of bodies -/

/-- Bodies that are objects are read leniently just where the members allow it. -/
structure LenientBodies (read : Doc → Except Fault α) (admits : Doc → Prop) (specs : List MemberSpec) :
    Prop where
  /-- The order of the members does not matter. -/
  reorder {members members' : List (Except Fault String × Doc)} {bs bs' : Bytes} {a : α} :
    IsObjectOf members bs → IsObjectOf members' bs' → members.Perm members' →
      decodeBody read bs = .ok a → decodeBody read bs' = .ok a
  /-- A member with an unknown name does not matter as long as it is admitted. -/
  unknown {before after : List (Except Fault String × Doc)} {k : String} {d : Doc} {bs bs' : Bytes} {a : α} :
    IsObjectOf (before ++ (.ok k, d) :: after) bs → IsObjectOf (before ++ after) bs' →
      k ∉ specs.map (·.name) → (decodeBody read bs = .ok a ↔ admits d ∧ decodeBody read bs' = .ok a)
  /-- To leave out a member that has a default is to give that default. -/
  default {before after : List (Except Fault String × Doc)} {spec : MemberSpec} {d d' : Doc} {v : Json}
    {bs bs' bs'' : Bytes} {a : α} : IsObjectOf (before ++ (.ok spec.name, d) :: after) bs →
      IsObjectOf (before ++ after) bs' → IsObjectOf (before ++ (.ok spec.name, d') :: after) bs'' →
      spec ∈ specs → spec.default = some v → d'.value = .ok v → decodeBody read bs = .ok a →
      ∃ b, decodeBody read bs' = .ok b ∧ decodeBody read bs'' = .ok b
  /-- Any other member of the body may not be left out. -/
  missing {before after : List (Except Fault String × Doc)} {spec : MemberSpec} {d : Doc}
    {bs bs' : Bytes} {a : α} : IsObjectOf (before ++ (.ok spec.name, d) :: after) bs →
      IsObjectOf (before ++ after) bs' → spec ∈ specs → spec.default = none →
      decodeBody read bs = .ok a → decodeBody read bs' = .error (.missingField spec.name)

/-- A value without parts. -/
def isBare : Json → Bool
  | array items => items.isEmpty
  | object members => members.isEmpty
  | null | bool _ | number _ | text _ => true

/-- No list is read from items unless there are none. -/
theorem eq_nil_of_readAll {read : Doc → Except Fault α} {items : List Doc} (h : readAll read items = .ok []) :
    items = [] := by
  cases items with
  | nil => rfl
  | cons d rest =>
    rw [readAll] at h
    cases hd : read d with
    | error f => rw [hd] at h; cases h
    | ok a => cases hrest : readAll read rest <;> rw [hd, hrest] at h <;> cases h

/-- Insertion leaves an entry. -/
theorem insertSorted_ne_nil (k : String) (a : α) (entries : List (String × α)) :
    insertSorted k a entries ≠ [] := by
  cases entries with
  | nil => exact List.cons_ne_nil _ _
  | cons e rest =>
    rw [insertSorted]
    split_ifs <;> exact List.cons_ne_nil _ _

/-- Where there are members, there is an entry in the map that they are gathered in. -/
theorem entries_ne_nil_of_readEntries {read : Doc → Except Fault α}
    {members : List (Except Fault String × Doc)} {m m' : SortedMap α}
    (h : readEntries read members m = .ok m') (hne : members ≠ [] ∨ m.entries ≠ []) : m'.entries ≠ [] := by
  induction members generalizing m with
  | nil =>
    cases h
    exact hne.resolve_left (absurd rfl)
  | cons e rest ih =>
    obtain ⟨f | k, d⟩ := e
    · cases h
    · rw [readEntries] at h
      split at h
      · cases h
      · exact ih h (.inr (insertSorted_ne_nil k _ m.entries))

/-- A document with a value that has no parts spells it out. -/
theorem Doc.eq_ofJson_of_value {d : Doc} {v : Json} (hv : v.isBare = true) (h : d.value = .ok v) :
    d = .ofJson v := by
  cases d with
  | null | bool b =>
    rw [Doc.value] at h
    obtain rfl := Except.ok.inj h
    rw [Doc.ofJson]
  | number n =>
    rw [Doc.value] at h
    cases n with
    | error f => cases h
    | ok n =>
      obtain rfl := Except.ok.inj h
      rw [Doc.ofJson]
  | text s =>
    rw [Doc.value] at h
    cases s with
    | error f => cases h
    | ok s =>
      obtain rfl := Except.ok.inj h
      rw [Doc.ofJson]
  | array tooDeep items stop =>
    rw [value_array] at h
    cases hread : readList Doc.value (.array tooDeep items stop) with
    | error f => rw [hread] at h; cases h
    | ok vs =>
      rw [hread] at h
      obtain rfl := Except.ok.inj h
      obtain rfl : vs = [] := List.isEmpty_iff.mp hv
      obtain ⟨rfl, rfl, hitems⟩ := readList_array_eq_ok_iff.mp hread
      rw [eq_nil_of_readAll hitems, Doc.ofJson, docItems]
  | object tooDeep members stop =>
    rw [value_object] at h
    cases hread : readMap Doc.value (.object tooDeep members stop) with
    | error f => rw [hread] at h; cases h
    | ok m =>
      rw [hread] at h
      obtain rfl := Except.ok.inj h
      have hempty : m.entries = [] := List.isEmpty_iff.mp hv
      obtain ⟨rfl, rfl, hmembers⟩ := readMap_object_eq_ok_iff.mp hread
      have hnil : members = [] := by
        by_contra hne
        exact entries_ne_nil_of_readEntries hmembers (.inl hne) hempty
      change _ = Doc.ofJson (.object m.entries)
      rw [hnil, hempty, Doc.ofJson, docMembers]
  | broken b =>
    rw [Doc.value] at h
    cases h

/-- Bodies are read leniently if objects are, and a document that is whole is admitted just where it is to
be. -/
theorem Lenient.bodies {read : Doc → Except Fault α} {passes admits : Doc → Prop} {specs : List MemberSpec}
    (h : Lenient read passes specs) (hadmits : ∀ d : Doc, d.IsWhole → (passes d ↔ admits d))
    (hbare : ∀ spec ∈ specs, ∀ v ∈ spec.default, v.isBare = true) : LenientBodies read admits specs where
  reorder hbody hbody' hperm hread := by
    rw [hbody'.decodeBody_eq]
    rw [hbody.decodeBody_eq] at hread
    exact h.reorder hperm hread
  unknown hbody hbody' hk := by
    have hwhole := hbody.isWhole _ List.mem_append_cons_self
    rw [hbody.decodeBody_eq, hbody'.decodeBody_eq, h.unknown hk, hadmits _ hwhole]
  default hbody hbody' hbody'' hspec hdefault hvalue hread := by
    rw [hbody'.decodeBody_eq, hbody''.decodeBody_eq, Doc.eq_ofJson_of_value (hbare _ hspec _ hdefault) hvalue]
    rw [hbody.decodeBody_eq] at hread
    exact h.default hspec hdefault hread
  missing hbody hbody' hspec hmust hread := by
    rw [hbody'.decodeBody_eq]
    rw [hbody.decodeBody_eq] at hread
    exact h.missing hspec hmust hread

/-! ### Shapes by their members -/

/-- A member that is read again is found under its name. -/
@[simp]
theorem memberNamed_reread (depth : Nat) (k name : String) (v : Json) (rest : List (String × Json)) :
    memberNamed (rereadMembers depth ((k, v) :: rest)) name =
      if k = name then some (Doc.reread depth v) else memberNamed (rereadMembers depth rest) name := by
  rw [rereadMembers, memberNamed_cons]

/-- Among members with different names the first of a name is the only one. -/
theorem memberNamed_eq_some {members : List (Except Fault String × Doc)}
    (hnodup : (members.map (·.1)).Nodup) {k : String} {d : Doc} (h : (.ok k, d) ∈ members) :
    memberNamed members k = some d := by
  induction members with
  | nil => cases h
  | cons e rest ih =>
    rw [List.map_cons, List.nodup_cons] at hnodup
    obtain ⟨hnew, hnodup⟩ := hnodup
    rcases List.mem_cons.mp h with rfl | hrest
    · rw [memberNamed_cons, if_pos rfl]
    · obtain ⟨f | k', d'⟩ := e
      · exact ih hnodup hrest
      · have hname : k' ≠ k := by
          rintro rfl
          exact hnew (List.mem_map.mpr ⟨(.ok k', d), hrest, rfl⟩)
        rw [memberNamed_cons, if_neg hname, ih hnodup hrest]

namespace Shape.Specified

variable {s : Shape α} {specs : List MemberSpec} {members members' : List (Except Fault String × Doc)} {a : α}

/-- What a body is built from passes the checks of its fields. -/
theorem check_of_build (h : Specified s specs) {fields : Fields} (hbuild : s.build fields = .ok a)
    {rule : FieldRule} {d : Doc} (hrule : rule ∈ s.rules) (hd : fields rule.name = some d) :
    rule.check d = .ok () := by
  induction h with
  | pure a => cases hrule
  | @and _ _ s specs t spec read hs ht hname ih =>
    obtain ⟨f, x, hf, hx, -⟩ := build_and_eq_ok_iff.mp hbuild
    rw [rules_and, List.mem_append, ht.rules_eq, List.mem_singleton] at hrule
    rcases hrule with hrule | rfl
    · exact ih hf hrule
    · rw [ht.build_eq, MemberSpec.doc, hd, Option.some_or] at hx
      have hread : read d = .ok x := hx
      simp only [hread, Except.map]

/-- A body is read from its members in the order of the fields exactly if it is built from them. -/
theorem read_object_iff (h : Specified s specs) (name : String)
    (hnames : members.map (·.1) = specs.map fun spec => .ok spec.name) :
    s.read name (.object false members none) = .ok a ↔ s.build (memberNamed members) = .ok a := by
  rw [read_object_eq_ok_iff]
  refine ⟨fun hread => hread.2.2.2, fun hbuild => ⟨rfl, rfl, ?_, hbuild⟩⟩
  have hrules := h.names_eq
  have hnodup : (members.map (·.1)).Nodup := by
    rw [hnames, ← Function.comp_def, ← List.map_map]
    exact h.nodup.map fun _ _ => Except.ok.inj
  have hfields : fieldNames s.rules members = specs.map (·.name) := by
    have hall : members.filterMap (·.1.toOption) = specs.map (·.name) := by
      have hmap := congrArg (List.filterMap Except.toOption) hnames
      rw [List.filterMap_map, List.filterMap_map] at hmap
      exact hmap.trans (congrFun List.filterMap_eq_map _)
    rw [fieldNames, hall, hrules]
    exact List.filter_eq_self.mpr fun k hk => decide_eq_true hk
  refine ⟨⟨fun e he => ?_, hfields ▸ h.nodup⟩, fun rule hrule _ => ?_⟩
  · have hname := List.mem_map_of_mem (f := Prod.fst) he
    rw [hnames] at hname
    obtain ⟨spec, hspec, heq⟩ := List.mem_map.mp hname
    obtain ⟨key, d⟩ := e
    obtain rfl : .ok spec.name = key := heq
    rw [Reads]
    split
    · rename_i rule hfound
      obtain ⟨hrule, hname⟩ := mem_and_name_of_find?_rule hfound
      refine h.check_of_build hbuild hrule ?_
      rw [hname]
      exact memberNamed_eq_some hnodup he
    · rename_i hnone
      exact absurd (hrules ▸ List.mem_map_of_mem hspec) (find?_rule_eq_none_iff.mp hnone)
  · rw [hfields, ← hrules]
    exact List.mem_map_of_mem hrule

/-- A body is read from its members in any order exactly if it is built from them in the order of the
fields. -/
theorem read_object_perm_iff (h : Specified s specs) (name : String)
    (hnames : members.map (·.1) = specs.map fun spec => .ok spec.name) (hperm : members'.Perm members) :
    s.read name (.object false members' none) = .ok a ↔ s.build (memberNamed members) = .ok a := by
  rw [← h.read_object_iff name hnames]
  exact ⟨h.read_object_perm hperm, h.read_object_perm hperm.symm⟩

/-- An object that is written with the members of a body, in any order, is read from its text as the body
exactly if it is not nested too deep and the body is built from what is read of the members. -/
theorem read_reread_iff (h : Specified s specs) (name : String) {members members' : List (String × Json)}
    (hnames : members.map (·.1) = specs.map (·.name)) (hperm : members'.Perm members) (depth : Nat) :
    s.read name (Doc.reread depth (.object members')) = .ok a ↔
      depth + 1 < nestingLimit ∧ s.build (memberNamed (rereadMembers (depth + 1) members)) = .ok a := by
  have hkeys : (rereadMembers (depth + 1) members).map (·.1) = specs.map fun spec => .ok spec.name := by
    have hall := congrArg (List.map (Except.ok (ε := Fault))) hnames
    rw [List.map_map, List.map_map] at hall
    rw [rereadMembers_eq_map, List.map_map]
    exact hall
  have hreordered : (rereadMembers (depth + 1) members').Perm (rereadMembers (depth + 1) members) := by
    rw [rereadMembers_eq_map, rereadMembers_eq_map]
    exact hperm.map _
  rw [Doc.reread]
  by_cases hdepth : depth + 1 < nestingLimit
  · rw [decide_nestingLimit_le.mpr hdepth, h.read_object_perm_iff name hkeys hreordered, and_iff_right hdepth]
  · rw [decide_eq_true (Nat.le_of_not_lt hdepth), read_object_eq_ok_iff]
    exact iff_of_false (fun h => Bool.noConfusion h.1) (mt And.left hdepth)

end Shape.Specified

end CsvCleaning.Json
