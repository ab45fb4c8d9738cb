import CsvCleaning.Proofs.Json.Parts
import Mathlib.Data.List.Nodup
import Mathlib.Data.List.Perm.Basic

/-!
# The members that a shape accepts

An object is accepted if each of its members can be read, no field stands there twice, and the fields
that may not be left out are there. All this is independent of the order of the members, and so is
the document found under the name of a field.
-/

namespace CsvCleaning.Json

variable {α : Type} {rules : List FieldRule} {k : String} {d : Doc}
  {members members' : List (Except Fault String × Doc)}

/-- A member has a name, and it passes the check of the field of that name, if there is one; a member
without a field can be passed over. -/
def Reads (rules : List FieldRule) : Except Fault String × Doc → Prop
  | (.error _, _) => False
  | (.ok k, d) =>
    match rules.find? (·.name == k) with
    | some rule => rule.check d = .ok ()
    | none => d.skip = .ok ()

/-- The names of the members that are fields, in document order. -/
def fieldNames (rules : List FieldRule) (members : List (Except Fault String × Doc)) : List String :=
  (members.filterMap (·.1.toOption)).filter (· ∈ rules.map (·.name))

/-- The members can be read, and no field stands there twice. -/
structure Fits (rules : List FieldRule) (members : List (Except Fault String × Doc)) : Prop where
  reads : ∀ e ∈ members, Reads rules e
  once : (fieldNames rules members).Nodup

/-- The members fit, and every field that may not be left out is there. -/
structure Accepts (rules : List FieldRule) (members : List (Except Fault String × Doc)) : Prop
    extends Fits rules members where
  complete : ∀ rule ∈ rules, rule.mayMiss = false → rule.name ∈ fieldNames rules members

/-! ### Fields -/

/-- A name is looked up in vain exactly if no field has it. -/
theorem find?_rule_eq_none_iff :
    rules.find? (·.name == k) = none ↔ k ∉ rules.map (·.name) := by
  simp only [List.find?_eq_none, beq_iff_eq, List.mem_map, not_exists, not_and]

/-- A field is looked up by its name. -/
theorem mem_and_name_of_find?_rule {rule : FieldRule} (h : rules.find? (·.name == k) = some rule) :
    rule ∈ rules ∧ rule.name = k :=
  ⟨List.mem_of_find?_eq_some h, by simpa using List.find?_some h⟩

/-- A member under the name of a field is one more field. -/
theorem fieldNames_cons_of_mem (h : k ∈ rules.map (·.name)) :
    fieldNames rules ((.ok k, d) :: members) = k :: fieldNames rules members :=
  List.filter_cons_of_pos (decide_eq_true h)

/-- A member under another name is no field. -/
theorem fieldNames_cons_of_not_mem (h : k ∉ rules.map (·.name)) :
    fieldNames rules ((.ok k, d) :: members) = fieldNames rules members :=
  List.filter_cons_of_neg (by simpa using h)

/-- The fields of an object are the names of its members that belong to fields. -/
theorem mem_fieldNames :
    k ∈ fieldNames rules members ↔ (∃ d, (.ok k, d) ∈ members) ∧ k ∈ rules.map (·.name) := by
  rw [fieldNames, List.mem_filter, decide_eq_true_iff, List.mem_filterMap]
  refine and_congr_left fun _ => ⟨?_, fun ⟨d, hd⟩ => ⟨_, hd, rfl⟩⟩
  rintro ⟨⟨f | k', d⟩, hd, hk⟩
  · cases hk
  · cases hk
    exact ⟨d, hd⟩

/-- The first member of a name is found under it. -/
theorem memberNamed_cons (k' : String) :
    memberNamed ((.ok k, d) :: members) k' = if k = k' then some d else memberNamed members k' := by
  by_cases h : k = k' <;> simp [memberNamed, h]

/-- Reordering the members reorders the fields. -/
theorem fieldNames_perm (h : members.Perm members') :
    (fieldNames rules members).Perm (fieldNames rules members') :=
  (h.filterMap _).filter _

namespace Fits

/-- Fitting is independent of the order. -/
theorem perm (hfits : Fits rules members) (h : members.Perm members') : Fits rules members' :=
  ⟨fun e he => hfits.reads e (h.mem_iff.mpr he), (fieldNames_perm h).nodup_iff.mp hfits.once⟩

/-- A member fits among the others if it can be read and is not a field that is there already. -/
theorem cons_iff : Fits rules ((.ok k, d) :: members) ↔
    Reads rules (.ok k, d) ∧ (k ∈ rules.map (·.name) → k ∉ fieldNames rules members) ∧
      Fits rules members := by
  by_cases hk : k ∈ rules.map (·.name)
  · constructor
    · rintro ⟨hreads, honce⟩
      rw [fieldNames_cons_of_mem hk, List.nodup_cons] at honce
      obtain ⟨hread, hrest⟩ := List.forall_mem_cons.mp hreads
      exact ⟨hread, fun _ => honce.1, hrest, honce.2⟩
    · rintro ⟨hread, hnew, hrest⟩
      refine ⟨List.forall_mem_cons.mpr ⟨hread, hrest.reads⟩, ?_⟩
      rw [fieldNames_cons_of_mem hk]
      exact List.nodup_cons.mpr ⟨hnew hk, hrest.once⟩
  · constructor
    · rintro ⟨hreads, honce⟩
      rw [fieldNames_cons_of_not_mem hk] at honce
      obtain ⟨hread, hrest⟩ := List.forall_mem_cons.mp hreads
      exact ⟨hread, fun h => absurd h hk, hrest, honce⟩
    · rintro ⟨hread, -, hrest⟩
      refine ⟨List.forall_mem_cons.mpr ⟨hread, hrest.reads⟩, ?_⟩
      rw [fieldNames_cons_of_not_mem hk]
      exact hrest.once

/-- Under the name of a field the member of that name is found. -/
theorem memberNamed_eq_some_iff (hfits : Fits rules members) (hk : k ∈ rules.map (·.name)) :
    memberNamed members k = some d ↔ (.ok k, d) ∈ members := by
  induction members with
  | nil => exact ⟨nofun, nofun⟩
  | cons e rest ih =>
    obtain ⟨f | k', d'⟩ := e
    · exact (hfits.reads _ List.mem_cons_self).elim
    obtain ⟨-, hnew, hrest⟩ := cons_iff.mp hfits
    rw [memberNamed_cons, List.mem_cons]
    split
    · rename_i heq
      subst heq
      have hnot : (.ok k', d) ∉ rest := fun hmem => hnew hk (mem_fieldNames.mpr ⟨⟨d, hmem⟩, hk⟩)
      simp only [Option.some.injEq, Prod.mk.injEq, true_and, hnot, or_false, eq_comm]
    · rename_i hne
      have hother : ((.ok k, d) : Except Fault String × Doc) ≠ (.ok k', d') :=
        fun heq => hne (by cases heq; rfl)
      rw [ih hrest, or_iff_right hother]

/-- Under the name of a field that is not there nothing is found. -/
theorem memberNamed_eq_none (hfits : Fits rules members) (hk : k ∈ rules.map (·.name))
    (h : k ∉ fieldNames rules members) : memberNamed members k = none := by
  refine Option.eq_none_iff_forall_ne_some.mpr fun d hd => h (mem_fieldNames.mpr ⟨⟨d, ?_⟩, hk⟩)
  exact (hfits.memberNamed_eq_some_iff hk).mp hd

/-- What is found under the name of a field is independent of the order. -/
theorem memberNamed_perm (hfits : Fits rules members) (h : members.Perm members')
    (hk : k ∈ rules.map (·.name)) : memberNamed members k = memberNamed members' k := by
  ext d
  rw [hfits.memberNamed_eq_some_iff hk, (hfits.perm h).memberNamed_eq_some_iff hk, h.mem_iff]

end Fits

/-- The check of the members succeeds exactly if they fit and are new, and it gives the fields. -/
theorem checkMembers_eq_ok_iff {seen seen' : List String} :
    checkMembers rules seen members = .ok seen' ↔
      Fits rules members ∧ (∀ k ∈ fieldNames rules members, k ∉ seen) ∧
        (fieldNames rules members).reverse ++ seen = seen' := by
  induction members generalizing seen with
  | nil =>
    have hfits : Fits rules [] := ⟨nofun, List.nodup_nil⟩
    simp [checkMembers, fieldNames, hfits]
  | cons e rest ih =>
    obtain ⟨f | k, d⟩ := e
    · rw [checkMembers]
      exact ⟨nofun, fun ⟨hfits, _⟩ => (hfits.reads _ List.mem_cons_self).elim⟩
    rw [checkMembers, Fits.cons_iff, Reads]
    cases hrule : rules.find? (·.name == k) with
    | none =>
      have hk := find?_rule_eq_none_iff.mp hrule
      rw [fieldNames_cons_of_not_mem hk]
      cases hskip : d.skip with
      | error f => exact ⟨nofun, fun ⟨⟨hread, _⟩, _⟩ => nomatch hread⟩
      | ok => simp only [ih, hk, true_and, false_implies]
    | some rule =>
      obtain ⟨hmem, rfl⟩ := mem_and_name_of_find?_rule hrule
      have hk : rule.name ∈ rules.map (·.name) := List.mem_map_of_mem hmem
      rw [fieldNames_cons_of_mem hk, List.forall_mem_cons]
      by_cases hseen : rule.name ∈ seen
      · simp only [hseen, if_true, not_true_eq_false, false_and, and_false, reduceCtorEq]
      · cases hcheck : rule.check d with
        | error f =>
          simp only [hseen, if_false, hcheck, false_and, reduceCtorEq]
        | ok =>
          -- The name goes in front of those that were seen, so the fields are found in reverse.
          have horder : (rule.name :: fieldNames rules rest).reverse ++ seen =
              (fieldNames rules rest).reverse ++ rule.name :: seen := by
            rw [List.reverse_cons, List.append_assoc, List.singleton_append]
          simp only [hseen, if_false, hcheck, ih, List.mem_cons, not_or, horder, not_false_eq_true,
            true_and]
          constructor
          · rintro ⟨hrest, hnew, heq⟩
            exact ⟨⟨fun _ hmem => (hnew _ hmem).1 rfl, hrest⟩, fun k hmem => (hnew k hmem).2, heq⟩
          · rintro ⟨⟨hfirst, hrest⟩, hnew, heq⟩
            exact ⟨hrest, fun k hmem => ⟨fun hk' => hfirst hk (hk' ▸ hmem), hnew k hmem⟩, heq⟩

/-! ### Objects -/

/-- Acceptance is independent of the order. -/
theorem Accepts.perm (haccepts : Accepts rules members) (h : members.Perm members') :
    Accepts rules members' :=
  ⟨haccepts.toFits.perm h, fun rule hmem hmust =>
    (fieldNames_perm h).mem_iff.mp (haccepts.complete rule hmem hmust)⟩

/-- A member without a field is accepted with the others if it can be read. -/
theorem Accepts.cons_iff_of_not_mem (hk : k ∉ rules.map (·.name)) :
    Accepts rules ((.ok k, d) :: members) ↔ Reads rules (.ok k, d) ∧ Accepts rules members := by
  constructor
  · rintro ⟨hfits, hcomplete⟩
    obtain ⟨hread, -, hrest⟩ := Fits.cons_iff.mp hfits
    rw [fieldNames_cons_of_not_mem hk] at hcomplete
    exact ⟨hread, hrest, hcomplete⟩
  · rintro ⟨hread, hrest, hcomplete⟩
    refine ⟨Fits.cons_iff.mpr ⟨hread, fun h => absurd h hk, hrest⟩, ?_⟩
    rwa [fieldNames_cons_of_not_mem hk]

/-- A field is accepted with the other members if it can be read, is not there already, and nothing
else is missing. -/
theorem Accepts.cons_iff_of_mem (hk : k ∈ rules.map (·.name)) :
    Accepts rules ((.ok k, d) :: members) ↔
      Reads rules (.ok k, d) ∧ k ∉ fieldNames rules members ∧ Fits rules members ∧
        ∀ rule ∈ rules, rule.mayMiss = false → rule.name ≠ k → rule.name ∈ fieldNames rules members := by
  constructor
  · rintro ⟨hfits, hcomplete⟩
    obtain ⟨hread, hnew, hrest⟩ := Fits.cons_iff.mp hfits
    rw [fieldNames_cons_of_mem hk] at hcomplete
    exact ⟨hread, hnew hk, hrest, fun rule hmem hmust hne =>
      (List.mem_cons.mp (hcomplete rule hmem hmust)).resolve_left hne⟩
  · rintro ⟨hread, hnew, hrest, hothers⟩
    refine ⟨Fits.cons_iff.mpr ⟨hread, fun _ => hnew, hrest⟩, fun rule hmem hmust => ?_⟩
    rw [fieldNames_cons_of_mem hk, List.mem_cons]
    exact (em (rule.name = k)).imp id (hothers rule hmem hmust)

/-- Of members that fit the first missing field is reported. -/
theorem checkObject_of_fits (hfits : Fits rules members) :
    checkObject rules false members none =
      (rules.find? fun rule => !rule.mayMiss && !(rule.name ∈ fieldNames rules members)).elim
        (.ok (memberNamed members)) fun rule => .error (.missingField rule.name) := by
  have hcheck : checkMembers rules [] members = .ok (fieldNames rules members).reverse :=
    checkMembers_eq_ok_iff.mpr ⟨hfits, fun _ _ => List.not_mem_nil, List.append_nil _⟩
  simp only [checkObject, hcheck, needStop, List.mem_reverse, Bool.false_eq_true, if_false]
  cases rules.find? fun rule => !rule.mayMiss && !(rule.name ∈ fieldNames rules members) <;> rfl

/-- The members that an object is made of are its fields exactly if they are accepted. -/
theorem checkObject_eq_ok_iff {tooDeep : Bool} {stop : Option Break} {fields : Fields} :
    checkObject rules tooDeep members stop = .ok fields ↔
      tooDeep = false ∧ stop = none ∧ Accepts rules members ∧ memberNamed members = fields := by
  constructor
  · intro h
    cases tooDeep with
    | true => cases h
    | false =>
      cases hcheck : checkMembers rules [] members with
      | error f => simp [checkObject, hcheck] at h
      | ok seen =>
        have hfits : Fits rules members := (checkMembers_eq_ok_iff.mp hcheck).1
        cases stop with
        | some b => simp [checkObject, hcheck, needStop] at h
        | none =>
          rw [checkObject_of_fits hfits] at h
          cases hfind : rules.find? fun rule =>
              !rule.mayMiss && !(rule.name ∈ fieldNames rules members) with
          | some rule => rw [hfind] at h; cases h
          | none =>
            rw [hfind] at h
            exact ⟨rfl, rfl, ⟨hfits, by simpa using hfind⟩, Except.ok.inj h⟩
  · rintro ⟨rfl, rfl, haccepts, rfl⟩
    have hnone : rules.find? (fun rule => !rule.mayMiss && !(rule.name ∈ fieldNames rules members)) =
        none := by simpa using haccepts.complete
    rw [checkObject_of_fits haccepts.toFits, hnone, Option.elim_none]

/-- If a field that may not be left out is all that is missing, it is reported. -/
theorem checkObject_eq_missingField {rule : FieldRule} (hfits : Fits rules members)
    (hmem : rule ∈ rules) (hmust : rule.mayMiss = false) (hmissing : rule.name ∉ fieldNames rules members)
    (hothers : ∀ other ∈ rules, other.mayMiss = false → other.name ≠ rule.name →
      other.name ∈ fieldNames rules members) :
    checkObject rules false members none = .error (.missingField rule.name) := by
  rw [checkObject_of_fits hfits]
  cases hfind : rules.find? fun rule => !rule.mayMiss && !(rule.name ∈ fieldNames rules members) with
  | some found =>
    have hfalse : found.mayMiss = false ∧ found.name ∉ fieldNames rules members := by
      simpa using List.find?_some hfind
    have hname : found.name = rule.name := by
      by_contra hne
      exact hfalse.2 (hothers found (List.mem_of_find?_eq_some hfind) hfalse.1 hne)
    rw [Option.elim_some, hname]
  | none =>
    have hpresent := List.find?_eq_none.mp hfind rule hmem
    simp [hmust, hmissing] at hpresent

/-- A body is read from an object exactly if its members are accepted and give the body. -/
theorem Shape.read_object_eq_ok_iff {s : Shape α} {name : String} {tooDeep : Bool}
    {stop : Option Break} {a : α} :
    s.read name (.object tooDeep members stop) = .ok a ↔
      tooDeep = false ∧ stop = none ∧ Accepts s.rules members ∧
        s.build (memberNamed members) = .ok a := by
  rw [Shape.read]
  cases hcheck : checkObject s.rules tooDeep members stop with
  | error f =>
    refine ⟨nofun, fun ⟨hdeep, hstop, haccepts, _⟩ => ?_⟩
    have hok := checkObject_eq_ok_iff.mpr ⟨hdeep, hstop, haccepts, rfl⟩
    cases hcheck.symm.trans hok
  | ok fields =>
    obtain ⟨hdeep, hstop, haccepts, rfl⟩ := checkObject_eq_ok_iff.mp hcheck
    exact ⟨fun h => ⟨hdeep, hstop, haccepts, h⟩, fun h => h.2.2.2⟩

end CsvCleaning.Json
