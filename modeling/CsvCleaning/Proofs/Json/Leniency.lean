import CsvCleaning.Proofs.Json.Members

/-!
# Lenient reading of objects

A body says of each of its members whether it may be left out, and what it is then. A reader is lenient
in three ways only: members may stand in any order, members with unknown names are passed over, and
a member with a default may be left out. A shape that is put together field by field reads so.
-/

namespace CsvCleaning.Json

variable {α β : Type}

/-- What a body says of a member: its name and, if it may be left out, the JSON form of its default. -/
structure MemberSpec where
  name : String
  default : Option Json

/-- Objects are read leniently just where the body's members allow it. A member with an unknown name is
admitted if its value can be passed over, which may ask for more or for less. -/
structure Lenient (read : Doc → Except Fault α) (admits : Doc → Prop) (specs : List MemberSpec) :
    Prop where
  /-- The order of the members does not matter. -/
  reorder {tooDeep : Bool} {members members' : List (Except Fault String × Doc)} {stop : Option Break}
    {a : α} : members.Perm members' → read (.object tooDeep members stop) = .ok a →
      read (.object tooDeep members' stop) = .ok a
  /-- A member with an unknown name does not matter as long as it is admitted. -/
  unknown {tooDeep : Bool} {before after : List (Except Fault String × Doc)} {stop : Option Break}
    {k : String} {d : Doc} {a : α} : k ∉ specs.map (·.name) →
      (read (.object tooDeep (before ++ (.ok k, d) :: after) stop) = .ok a ↔
        admits d ∧ read (.object tooDeep (before ++ after) stop) = .ok a)
  /-- To leave out a member that has a default is to give that default. -/
  default {tooDeep : Bool} {before after : List (Except Fault String × Doc)} {stop : Option Break}
    {spec : MemberSpec} {d : Doc} {v : Json} {a : α} : spec ∈ specs → spec.default = some v →
      read (.object tooDeep (before ++ (.ok spec.name, d) :: after) stop) = .ok a →
      ∃ b, read (.object tooDeep (before ++ after) stop) = .ok b ∧
        read (.object tooDeep (before ++ (.ok spec.name, .ofJson v) :: after) stop) = .ok b
  /-- Any other member of the body may not be left out. -/
  missing {tooDeep : Bool} {before after : List (Except Fault String × Doc)} {stop : Option Break}
    {spec : MemberSpec} {d : Doc} {a : α} : spec ∈ specs → spec.default = none →
      read (.object tooDeep (before ++ (.ok spec.name, d) :: after) stop) = .ok a →
      read (.object tooDeep (before ++ after) stop) = .error (.missingField spec.name)

/-- The document of a member: what is given or else its default. -/
def MemberSpec.doc (spec : MemberSpec) (fields : Fields) : Option Doc :=
  (fields spec.name).or (spec.default.map .ofJson)

/-! ### Shapes by their members -/

namespace Shape

/-- The rules of a field come after those before it. -/
theorem rules_and (s : Shape (α → β)) (t : Shape α) : (s.and t).rules = s.rules ++ t.rules := rfl

/-- A required field is read from the document of its member. -/
theorem build_required {name : String} {read : Doc → Except Fault α} {fields : Fields} {d : Doc}
    (h : fields name = some d) : (required name read).build fields = read d := by
  simp only [required, h]

/-- So is a field with a default, if there is the member. -/
theorem build_withDefault {name : String} {read : Doc → Except Fault α} {default : α} {fields : Fields}
    {d : Doc} (h : fields name = some d) : (withDefault name read default).build fields = read d := by
  simp only [withDefault, h]

/-- A shape gives a value if its parts do. -/
theorem build_and_eq_ok_iff {s : Shape (α → β)} {t : Shape α} {fields : Fields} {b : β} :
    (s.and t).build fields = .ok b ↔
      ∃ f a, s.build fields = .ok f ∧ t.build fields = .ok a ∧ f a = b := by
  simp only [Shape.and]
  cases s.build fields with
  | error e => exact ⟨nofun, fun ⟨_, _, hf, _⟩ => nomatch hf⟩
  | ok f =>
    cases t.build fields with
    | error e => exact ⟨nofun, fun ⟨_, _, _, ha, _⟩ => nomatch ha⟩
    | ok a => simp [Except.map]

/-- What the parts before a field give is applied to its value. -/
@[simp]
theorem build_and_eq_ok_iff_map {s : Shape (α → β)} {t : Shape α} {fields : Fields} {b : β} :
    (s.and t).build fields = .ok b ↔
      ∃ a, t.build fields = .ok a ∧ (s.build fields).map (fun f => f a) = .ok b := by
  rw [build_and_eq_ok_iff, exists_comm]
  refine exists_congr fun a => ?_
  cases s.build fields with
  | error e => exact ⟨fun ⟨_, hf, _⟩ => (nomatch hf), fun ⟨_, hf⟩ => (nomatch hf)⟩
  | ok f => simp [Except.map]

/-- So it is where something is made of what the shape gives. -/
@[simp]
theorem map_build_and_eq_ok_iff {γ : Type} {s : Shape (α → β)} {t : Shape α} {fields : Fields} {g : β → γ}
    {c : γ} : ((s.and t).build fields).map g = .ok c ↔
      ∃ a, t.build fields = .ok a ∧ (s.build fields).map (fun f => g (f a)) = .ok c := by
  simp only [Shape.and]
  cases s.build fields with
  | error e => exact ⟨nofun, fun ⟨_, _, hf⟩ => nomatch hf⟩
  | ok f => cases t.build fields <;> simp [Except.map]

/-- Where there are no fields, it is made of the value of the shape. -/
@[simp]
theorem map_build_pure_eq_ok_iff {γ : Type} {fields : Fields} {g : α → γ} {a : α} {c : γ} :
    ((Shape.pure a).build fields).map g = .ok c ↔ g a = c :=
  ⟨Except.ok.inj, congrArg Except.ok⟩

/-- A shape of one field, which reads the document of a member and reads its default. -/
structure IsField (t : Shape α) (spec : MemberSpec) (read : Doc → Except Fault α) : Prop where
  rules_eq : t.rules = [⟨spec.name, fun d => (read d).map fun _ => (), spec.default.isSome⟩]
  build_eq (fields : Fields) :
    t.build fields = (spec.doc fields).elim (.error (.missingField spec.name)) read
  reads_default {v : Json} : spec.default = some v → ∃ a, read (.ofJson v) = .ok a

/-- A required field belongs to a member without a default. -/
theorem isField_required (name : String) (read : Doc → Except Fault α) :
    IsField (.required name read) ⟨name, none⟩ read where
  rules_eq := rfl
  build_eq fields := by
    simp only [required, MemberSpec.doc, Option.map_none, Option.or_none]
    cases fields name <;> rfl
  reads_default := nofun

/-- A field with a default belongs to a member with its JSON form. -/
theorem isField_withDefault (name : String) {read : Doc → Except Fault α} {default : α} {v : Json}
    (h : read (.ofJson v) = .ok default) :
    IsField (.withDefault name read default) ⟨name, some v⟩ read where
  rules_eq := rfl
  build_eq fields := by
    simp only [withDefault, MemberSpec.doc, Option.map_some]
    cases fields name with
    | none => exact h.symm
    | some d => rfl
  reads_default hv := Option.some.inj hv ▸ ⟨default, h⟩

/-- A shape is put together from the fields of members under different names. -/
inductive Specified : {α : Type} → Shape α → List MemberSpec → Prop
  | pure {α : Type} (a : α) : Specified (.pure a) []
  | and {α β : Type} {s : Shape (α → β)} {specs : List MemberSpec} {t : Shape α} {spec : MemberSpec}
      {read : Doc → Except Fault α} (hs : Specified s specs) (ht : IsField t spec read)
      (hname : spec.name ∉ specs.map (·.name)) : Specified (s.and t) (specs ++ [spec])

namespace Specified

variable {s : Shape α} {specs : List MemberSpec} {fields fields' : Fields}

/-- A required field is put after the others. -/
theorem required {s : Shape (α → β)} (hs : Specified s specs) (name : String)
    (read : Doc → Except Fault α) (hname : name ∉ specs.map (·.name)) :
    Specified (s.and (.required name read)) (specs ++ [⟨name, none⟩]) :=
  hs.and (isField_required name read) hname

/-- A field with a default is put after the others. -/
theorem withDefault {s : Shape (α → β)} (hs : Specified s specs) (name : String)
    {read : Doc → Except Fault α} {default : α} {v : Json} (hdefault : read (.ofJson v) = .ok default)
    (hname : name ∉ specs.map (·.name)) :
    Specified (s.and (.withDefault name read default)) (specs ++ [⟨name, some v⟩]) :=
  hs.and (isField_withDefault name hdefault) hname

/-- The rules of a shape are those of its members. -/
theorem rules_eq (h : Specified s specs) :
    s.rules.map (fun rule => (rule.name, rule.mayMiss)) =
      specs.map fun spec => (spec.name, spec.default.isSome) := by
  induction h with
  | pure a => rfl
  | and hs ht hname ih => rw [rules_and, List.map_append, List.map_append, ih, ht.rules_eq]; rfl

/-- The names of the rules are those of the members. -/
theorem names_eq (h : Specified s specs) : s.rules.map (·.name) = specs.map (·.name) := by
  have hnames := congrArg (List.map Prod.fst) h.rules_eq
  simpa only [List.map_map, Function.comp_def] using hnames

/-- The names of the members differ. -/
theorem nodup (h : Specified s specs) : (specs.map (·.name)).Nodup := by
  induction h with
  | pure a => exact List.nodup_nil
  | and hs ht hname ih =>
    rw [List.map_append, List.map_singleton, List.nodup_append_comm]
    exact List.nodup_cons.mpr ⟨hname, ih⟩

/-- A member is known by its name. -/
theorem eq_of_name_eq (h : Specified s specs) {spec spec' : MemberSpec} (hspec : spec ∈ specs)
    (hspec' : spec' ∈ specs) (hsame : spec.name = spec'.name) : spec = spec' :=
  List.inj_on_of_nodup_map h.nodup hspec hspec' hsame

/-- Each member has a rule, and it may miss if the member has a default. -/
theorem exists_rule (h : Specified s specs) {spec : MemberSpec} (hspec : spec ∈ specs) :
    ∃ rule ∈ s.rules, rule.name = spec.name ∧ rule.mayMiss = spec.default.isSome := by
  have hmem := List.mem_map_of_mem (f := fun spec => (spec.name, spec.default.isSome)) hspec
  rw [← h.rules_eq] at hmem
  obtain ⟨rule, hrule, heq⟩ := List.mem_map.mp hmem
  exact ⟨rule, hrule, (Prod.mk.inj heq).1, (Prod.mk.inj heq).2⟩

/-- A rule with the name of a member that has a default may miss. -/
theorem mayMiss_of_default (h : Specified s specs) {rule : FieldRule} {spec : MemberSpec}
    (hrule : rule ∈ s.rules) (hspec : spec ∈ specs) (hsame : rule.name = spec.name)
    (hdefault : spec.default.isSome = true) : rule.mayMiss = true := by
  have hmem := List.mem_map_of_mem (f := fun rule : FieldRule => (rule.name, rule.mayMiss)) hrule
  rw [h.rules_eq] at hmem
  obtain ⟨spec', hspec', heq⟩ := List.mem_map.mp hmem
  obtain ⟨hname, hmay⟩ := Prod.mk.inj heq
  rw [← hmay, h.eq_of_name_eq hspec' hspec (hname.trans hsame), hdefault]

/-- A default passes the check of its own field. -/
theorem check_default (h : Specified s specs) {rule : FieldRule} {spec : MemberSpec} {v : Json}
    (hrule : rule ∈ s.rules) (hspec : spec ∈ specs) (hsame : rule.name = spec.name)
    (hdefault : spec.default = some v) : rule.check (.ofJson v) = .ok () := by
  induction h with
  | pure a => cases hspec
  | @and _ _ s specs t spec' read hs ht hname ih =>
    rw [rules_and, List.mem_append, ht.rules_eq, List.mem_singleton] at hrule
    rw [List.mem_append, List.mem_singleton] at hspec
    rcases hrule with hrule | rfl <;> rcases hspec with hspec | rfl
    · exact ih hrule hspec
    · have hmem := List.mem_map_of_mem (f := FieldRule.name) hrule
      rw [hs.names_eq, hsame] at hmem
      exact absurd hmem hname
    · exact absurd (List.mem_map.mpr ⟨spec, hspec, hsame.symm⟩) hname
    · obtain ⟨a, ha⟩ := ht.reads_default hdefault
      simp only [ha, Except.map]

/-- What is built depends on the documents of the members only. -/
theorem build_congr (h : Specified s specs)
    (hfields : ∀ spec ∈ specs, spec.doc fields = spec.doc fields') :
    s.build fields = s.build fields' := by
  induction h with
  | pure a => rfl
  | and hs ht hname ih =>
    obtain ⟨hinit, hlast⟩ := List.forall_mem_append.mp hfields
    have ht' := (ht.build_eq fields).trans (hlast _ List.mem_cons_self ▸ (ht.build_eq fields').symm)
    simp only [Shape.and, ih hinit, ht']

/-- Something is still built if members that have a default are left out. -/
theorem build_of_missing (h : Specified s specs) {a : α} (ha : s.build fields = .ok a)
    (hfields : ∀ spec ∈ specs, fields' spec.name = fields spec.name ∨
      fields' spec.name = none ∧ spec.default.isSome = true) : ∃ b, s.build fields' = .ok b := by
  induction h with
  | pure a => exact ⟨_, rfl⟩
  | @and _ _ s specs t spec' read hs ht hname ih =>
    obtain ⟨hinit, hlast⟩ := List.forall_mem_append.mp hfields
    obtain ⟨f, x, hf, hx, -⟩ := build_and_eq_ok_iff.mp ha
    obtain ⟨g, hg⟩ := ih hf hinit
    have hy : ∃ y, t.build fields' = .ok y := by
      rcases hlast _ List.mem_cons_self with hsame | ⟨hnone, hdefault⟩
      · rw [ht.build_eq, MemberSpec.doc, hsame, ← MemberSpec.doc, ← ht.build_eq]
        exact ⟨x, hx⟩
      · obtain ⟨v, hv⟩ := Option.isSome_iff_exists.mp hdefault
        rw [ht.build_eq, MemberSpec.doc, hnone, hv]
        exact ht.reads_default hv
    obtain ⟨y, hy⟩ := hy
    exact ⟨g y, build_and_eq_ok_iff.mpr ⟨g, y, hg, hy, rfl⟩⟩

/-! ### Leniency -/

variable {name k : String} {d : Doc} {tooDeep : Bool}
  {members members' : List (Except Fault String × Doc)} {stop : Option Break} {a : α}

/-- The order of the members does not matter. -/
theorem read_object_perm (h : Specified s specs) (hperm : members.Perm members')
    (hread : s.read name (.object tooDeep members stop) = .ok a) :
    s.read name (.object tooDeep members' stop) = .ok a := by
  obtain ⟨rfl, rfl, haccepts, hbuild⟩ := read_object_eq_ok_iff.mp hread
  have hsame : s.build (memberNamed members) = s.build (memberNamed members') := by
    refine h.build_congr fun spec hspec => ?_
    have hmem : spec.name ∈ s.rules.map (·.name) := h.names_eq ▸ List.mem_map_of_mem hspec
    rw [MemberSpec.doc, MemberSpec.doc, haccepts.memberNamed_perm hperm hmem]
  exact read_object_eq_ok_iff.mpr ⟨rfl, rfl, haccepts.perm hperm, hsame ▸ hbuild⟩

/-- A member with an unknown name does not matter as long as it can be passed over. -/
theorem read_object_cons_unknown (h : Specified s specs) (hk : k ∉ specs.map (·.name)) :
    s.read name (.object tooDeep ((.ok k, d) :: members) stop) = .ok a ↔
      d.skip = .ok () ∧ s.read name (.object tooDeep members stop) = .ok a := by
  have hrule : k ∉ s.rules.map (·.name) := h.names_eq ▸ hk
  have hreads : Reads s.rules (.ok k, d) ↔ d.skip = .ok () := by
    simp only [Reads, find?_rule_eq_none_iff.mpr hrule]
  have hsame : s.build (memberNamed ((.ok k, d) :: members)) = s.build (memberNamed members) := by
    refine h.build_congr fun spec hspec => ?_
    have hne : k ≠ spec.name := fun heq => hk (heq ▸ List.mem_map_of_mem hspec)
    rw [MemberSpec.doc, MemberSpec.doc, memberNamed_cons, if_neg hne]
  rw [read_object_eq_ok_iff, read_object_eq_ok_iff, Accepts.cons_iff_of_not_mem hrule, hsame, hreads]
  constructor
  · intro hread
    obtain ⟨hdeep, hstop, ⟨hskip, haccepts⟩, hbuild⟩ := hread
    exact ⟨hskip, hdeep, hstop, haccepts, hbuild⟩
  · intro hread
    obtain ⟨hskip, hdeep, hstop, haccepts, hbuild⟩ := hread
    exact ⟨hdeep, hstop, ⟨hskip, haccepts⟩, hbuild⟩

/-- To leave out a member that has a default is to give that default. -/
theorem read_object_cons_default (h : Specified s specs) {spec : MemberSpec} {v : Json}
    (hspec : spec ∈ specs) (hdefault : spec.default = some v)
    (hread : s.read name (.object tooDeep ((.ok spec.name, d) :: members) stop) = .ok a) :
    ∃ b, s.read name (.object tooDeep members stop) = .ok b ∧
      s.read name (.object tooDeep ((.ok spec.name, .ofJson v) :: members) stop) = .ok b := by
  obtain ⟨rfl, rfl, haccepts, hbuild⟩ := read_object_eq_ok_iff.mp hread
  have hmem : spec.name ∈ s.rules.map (·.name) := h.names_eq ▸ List.mem_map_of_mem hspec
  obtain ⟨-, hnew, hfits, hothers⟩ := (Accepts.cons_iff_of_mem hmem).mp haccepts
  have hnone : memberNamed members spec.name = none := hfits.memberNamed_eq_none hmem hnew
  have hrest : Accepts s.rules members := by
    refine ⟨hfits, fun rule hrule hmust => hothers rule hrule hmust fun hsame => ?_⟩
    have hmay := h.mayMiss_of_default hrule hspec hsame (hdefault ▸ rfl)
    rw [hmust] at hmay
    cases hmay
  have hgiven : Accepts s.rules ((.ok spec.name, .ofJson v) :: members) := by
    refine (Accepts.cons_iff_of_mem hmem).mpr ⟨?_, hnew, hfits, hothers⟩
    rw [Reads]
    split
    · rename_i rule hrule
      obtain ⟨hrule, hsame⟩ := mem_and_name_of_find?_rule hrule
      exact h.check_default hrule hspec hsame hdefault
    · rename_i hrule
      exact absurd hmem (find?_rule_eq_none_iff.mp hrule)
  -- The member's own value may be anything, so that the rest still gives a body is a fact of its own.
  have hleft : ∃ b, s.build (memberNamed members) = .ok b := by
    refine h.build_of_missing hbuild fun spec' hspec' => ?_
    by_cases hsame : spec.name = spec'.name
    · obtain rfl := h.eq_of_name_eq hspec hspec' hsame
      exact .inr ⟨hnone, hdefault ▸ rfl⟩
    · exact .inl ((memberNamed_cons _).trans (if_neg hsame)).symm
  have hsame : s.build (memberNamed ((.ok spec.name, .ofJson v) :: members)) =
      s.build (memberNamed members) := by
    refine h.build_congr fun spec' hspec' => ?_
    rw [MemberSpec.doc, MemberSpec.doc, memberNamed_cons]
    split
    · rename_i hsame
      obtain rfl := h.eq_of_name_eq hspec hspec' hsame
      rw [hnone, hdefault]
      rfl
    · rfl
  obtain ⟨b, hb⟩ := hleft
  exact ⟨b, read_object_eq_ok_iff.mpr ⟨rfl, rfl, hrest, hb⟩,
    read_object_eq_ok_iff.mpr ⟨rfl, rfl, hgiven, hsame.trans hb⟩⟩

/-- A member without a default may not be left out. -/
theorem read_object_missing (h : Specified s specs) {spec : MemberSpec}
    (hspec : spec ∈ specs) (hmust : spec.default = none)
    (hread : s.read name (.object tooDeep ((.ok spec.name, d) :: members) stop) = .ok a)
    (hperm : members.Perm members') :
    s.read name (.object tooDeep members' stop) = .error (.missingField spec.name) := by
  obtain ⟨rfl, rfl, haccepts, -⟩ := read_object_eq_ok_iff.mp hread
  obtain ⟨rule, hrule, hsame, hmay⟩ := h.exists_rule hspec
  rw [← hsame] at haccepts ⊢
  obtain ⟨-, hnew, hfits, hothers⟩ :=
    (Accepts.cons_iff_of_mem (List.mem_map_of_mem hrule)).mp haccepts
  have hfields : (fieldNames s.rules members).Perm (fieldNames s.rules members') := fieldNames_perm hperm
  rw [read, checkObject_eq_missingField (hfits.perm hperm) hrule (hmay.trans (hmust ▸ rfl))
    (mt hfields.mem_iff.mpr hnew)
    fun other hother hmust hne => hfields.mem_iff.mp (hothers other hother hmust hne)]

/-- A shape that is put together field by field reads leniently; it passes over what is whole. -/
theorem lenient (h : Specified s specs) (name : String) :
    Lenient (s.read name) (fun d => d.skip = .ok ()) specs where
  reorder hperm hread := h.read_object_perm hperm hread
  unknown hk :=
    Iff.trans ⟨h.read_object_perm List.perm_middle, h.read_object_perm List.perm_middle.symm⟩
      (h.read_object_cons_unknown hk)
  default hspec hdefault hread := by
    obtain ⟨b, hleft, hgiven⟩ :=
      h.read_object_cons_default hspec hdefault (h.read_object_perm List.perm_middle hread)
    exact ⟨b, hleft, h.read_object_perm List.perm_middle.symm hgiven⟩
  missing hspec hmust hread :=
    h.read_object_missing hspec hmust (h.read_object_perm List.perm_middle hread) (.refl _)

end Specified

end Shape

end CsvCleaning.Json
