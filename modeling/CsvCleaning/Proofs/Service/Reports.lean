import CsvCleaning.Proofs.Json.Leniency
import CsvCleaning.Service.Reply

/-!
# Reading status reports

A report keeps its file id and its flags in one object. Where all members have values, the two are read
one after the other, each as if the members of the other were unknown to it.
-/

namespace CsvCleaning

open Json (Doc Fault Break Shape MemberSpec Lenient readString readFlag checkMembers needStop memberNamed
  skip_of_value)

namespace Flags

/-- Every flag has to be there. -/
def specs : List MemberSpec :=
  [⟨"uploaded", .none⟩, ⟨"processed_by_llm", .none⟩, ⟨"script_executed", .none⟩, ⟨"ready", .none⟩]

/-- The flags are put together from their members. -/
theorem specified_shape : shape.Specified specs :=
  (Shape.Specified.pure Flags.mk).required "uploaded" readFlag (by simp)
    |>.required "processed_by_llm" readFlag (by simp)
    |>.required "script_executed" readFlag (by simp)
    |>.required "ready" readFlag (by simp)

end Flags

namespace StatusReport

variable {tooDeep : Bool} {members members' : List (Except Fault String × Doc)} {stop : Option Break}
  {r : StatusReport}

/-- The file id of a report. -/
def idShape : Shape String :=
  (Shape.pure id).and (.required "file_id" readString)

/-- The file id has to be there. -/
theorem specified_idShape : idShape.Specified [⟨"file_id", none⟩] :=
  (Shape.Specified.pure id).required "file_id" readString (by simp)

/-- Each member has a name and a value. -/
def Valued (members : List (Except Fault String × Doc)) : Prop :=
  ∀ e ∈ members, ∃ k v, e.1 = .ok k ∧ e.2.value = .ok v

/-- What is read as a text has a value. -/
theorem value_of_readString {d : Doc} {s : String} (h : readString d = .ok s) : d.value = .ok (.text s) := by
  cases d with
  | text t =>
    obtain rfl : t = .ok s := h
    rw [Doc.value, Except.map]
  | _ => cases h

/-- Where the members of a report are read, each has a value. -/
theorem valued_of_checkReport {seen seen' : Bool} (h : checkReport seen members = .ok seen') :
    Valued members := by
  induction members generalizing seen with
  | nil => exact nofun
  | cons e rest ih =>
    obtain ⟨f | k, d⟩ := e
    · cases h
    · rw [checkReport] at h
      split_ifs at h
      · split at h
        · cases h
        · rename_i s hs
          exact List.forall_mem_cons.mpr ⟨⟨k, .text s, rfl, value_of_readString hs⟩, ih h⟩
      · split at h
        · cases h
        · rename_i v hv
          exact List.forall_mem_cons.mpr ⟨⟨k, v, rfl, hv⟩, ih h⟩

/-- Members that have values are checked as for the file id alone. -/
theorem checkReport_eq (names : List String) (h : Valued members) :
    checkReport (decide ("file_id" ∈ names)) members =
      (checkMembers idShape.rules names members).map fun names => decide ("file_id" ∈ names) := by
  induction members generalizing names with
  | nil => rfl
  | cons e rest ih =>
    obtain ⟨⟨k, v, hk, hv⟩, hrest⟩ := List.forall_mem_cons.mp h
    obtain ⟨key, d⟩ := e
    obtain rfl : key = .ok k := hk
    rw [checkReport, checkMembers]
    by_cases hid : k = "file_id"
    · subst hid
      have hfind : idShape.rules.find? (·.name == "file_id") =
          some ⟨"file_id", fun d => (readString d).map fun _ => (), false⟩ := rfl
      simp only [hfind, if_true]
      by_cases hseen : "file_id" ∈ names
      · simp only [hseen, decide_true, if_true]
        rfl
      · have hnames := ih ("file_id" :: names) hrest
        rw [decide_eq_true List.mem_cons_self] at hnames
        cases hread : readString d with
        | error f => simp only [hseen, decide_false, Bool.false_eq_true, if_false, Except.map]
        | ok s => simpa only [hseen, decide_false, Bool.false_eq_true, if_false, Except.map] using hnames
    · have hfind : idShape.rules.find? (·.name == k) = none := by
        refine Json.find?_rule_eq_none_iff.mpr ?_
        rw [specified_idShape.names_eq]
        exact mt List.mem_singleton.mp hid
      simp only [hfind, hid, if_false, hv, skip_of_value hv]
      exact ih names hrest

/-- A report of members that have values is its file id and then its flags. -/
theorem ofDoc_object (h : Valued members) :
    ofDoc (.object tooDeep members stop) =
      (idShape.read "StatusSnapshot" (.object tooDeep members stop)).bind fun fileId =>
        (Flags.shape.read "StageFlags" (.object false (flagMembers members) none)).map
          fun flags => ⟨fileId, flags⟩ := by
  -- The flags come last on both sides, so what they are does not matter to the file id.
  rw [ofDoc]
  generalize Flags.shape.read "StageFlags" (.object false (flagMembers members) none) = flags
  have hcheck := checkReport_eq [] h
  rw [decide_eq_false List.not_mem_nil] at hcheck
  rw [Shape.read, Json.checkObject, hcheck]
  cases tooDeep with
  | true => rfl
  | false =>
    cases checkMembers idShape.rules [] members with
    | error f => rfl
    | ok names =>
      cases stop with
      | some b => rfl
      | none =>
        have hrules : idShape.rules = [⟨"file_id", fun d => (readString d).map fun _ => (), false⟩] :=
          rfl
        by_cases hseen : "file_id" ∈ names
        · have hbuild : idShape.build (memberNamed members) =
              ((Shape.required "file_id" readString).build (memberNamed members)).map id := rfl
          simp only [hrules, needStop, hseen, hbuild, Except.map, Except.bind, decide_true, if_true,
            Bool.false_eq_true, if_false, List.find?_cons, List.find?_nil, Bool.not_true, Bool.and_false]
          cases (Shape.required "file_id" readString).build (memberNamed members) <;> rfl
        · simp only [hrules, needStop, hseen, Except.map, Except.bind, decide_false, Bool.false_eq_true,
            if_false, List.find?_cons, Bool.not_false, Bool.and_true]

/-- A report that is read has members with values. -/
theorem valued_of_ofDoc (h : ofDoc (.object tooDeep members stop) = .ok r) : Valued members := by
  rw [ofDoc] at h
  split_ifs at h
  split at h
  · cases h
  · rename_i seen hseen
    exact valued_of_checkReport hseen

/-- A report is read where its members have values and its file id and its flags are read. -/
theorem ofDoc_object_eq_ok_iff :
    ofDoc (.object tooDeep members stop) = .ok r ↔ Valued members ∧
      idShape.read "StatusSnapshot" (.object tooDeep members stop) = .ok r.fileId ∧
      Flags.shape.read "StageFlags" (.object false (flagMembers members) none) = .ok r.flags := by
  constructor
  · intro h
    have hvalued := valued_of_ofDoc h
    rw [ofDoc_object hvalued] at h
    cases hid : idShape.read "StatusSnapshot" (.object tooDeep members stop) with
    | error f => rw [hid] at h; cases h
    | ok fileId =>
      rw [hid] at h
      cases hflags : Flags.shape.read "StageFlags" (.object false (flagMembers members) none) with
      | error f => rw [hflags] at h; cases h
      | ok flags =>
        rw [hflags] at h
        cases h
        exact ⟨hvalued, rfl, rfl⟩
  · rintro ⟨hvalued, hid, hflags⟩
    rw [ofDoc_object hvalued, hid, hflags]
    rfl

/-! ### Members and flags -/

variable {before after : List (Except Fault String × Doc)} {k : String} {d : Doc}

/-- Members have values if those around one of them and this one have. -/
theorem valued_insert_iff : Valued (before ++ (.ok k, d) :: after) ↔
    (∃ v, d.value = .ok v) ∧ Valued (before ++ after) := by
  have hfront : Valued (before ++ (.ok k, d) :: after) ↔ Valued ((.ok k, d) :: (before ++ after)) :=
    ⟨fun h e he => h e (List.perm_middle.mem_iff.mpr he),
      fun h e he => h e (List.perm_middle.mem_iff.mp he)⟩
  have hhead : (∃ k' v, (.ok k : Except Fault String) = .ok k' ∧ d.value = .ok v) ↔ ∃ v, d.value = .ok v :=
    ⟨fun ⟨_, v, _, hv⟩ => ⟨v, hv⟩, fun ⟨v, hv⟩ => ⟨k, v, rfl, hv⟩⟩
  exact hfront.trans (List.forall_mem_cons.trans (and_congr_left' hhead))

/-- A member is kept for the flags if it has the name of one. -/
theorem isFlag_iff : (Flags.shape.rules.any (·.name == k) = true) ↔ k ∈ Flags.specs.map (·.name) := by
  rw [← Flags.specified_shape.names_eq]
  simp only [List.any_eq_true, beq_iff_eq, List.mem_map]

/-- The members that are flags are found one by one. -/
theorem flagMembers_append : flagMembers (before ++ after) = flagMembers before ++ flagMembers after :=
  List.filter_append _ _

/-- A member under the name of a flag is kept for the flags. -/
theorem flagMembers_cons_of_mem (hk : k ∈ Flags.specs.map (·.name)) :
    flagMembers ((.ok k, d) :: members) = (.ok k, d) :: flagMembers members :=
  List.filter_cons_of_pos (isFlag_iff.mpr hk)

/-- A member under another name is not. -/
theorem flagMembers_cons_of_not_mem (hk : k ∉ Flags.specs.map (·.name)) :
    flagMembers ((.ok k, d) :: members) = flagMembers members :=
  List.filter_cons_of_neg (mt isFlag_iff.mp hk)

/-- A file id and four flags, all of which have to be there. -/
def specs : List MemberSpec :=
  ⟨"file_id", none⟩ :: Flags.specs

/-- No member of a report has a default. -/
theorem default_of_mem_specs {spec : MemberSpec} (h : spec ∈ specs) : spec.default = none := by
  have hall : ∀ spec ∈ specs, spec.default = none := by simp [specs, Flags.specs]
  exact hall spec h

/-- Reports are read leniently in the order of their members and in unknown members. -/
theorem lenient_ofDoc : Lenient ofDoc Doc.IsSound specs where
  reorder hperm hread := by
    obtain ⟨hvalued, hid, hflags⟩ := ofDoc_object_eq_ok_iff.mp hread
    exact ofDoc_object_eq_ok_iff.mpr ⟨fun e he => hvalued e (hperm.mem_iff.mpr he),
      specified_idShape.read_object_perm hperm hid,
      Flags.specified_shape.read_object_perm (hperm.filter _) hflags⟩
  unknown {_ before after _ k d r} hk := by
    obtain ⟨hid, hflags⟩ := not_or.mp (mt List.mem_cons.mpr hk)
    have hunknown : k ∉ [MemberSpec.mk "file_id" none].map (·.name) := mt List.mem_singleton.mp hid
    have hsame : flagMembers (before ++ (.ok k, d) :: after) = flagMembers (before ++ after) := by
      rw [flagMembers_append, flagMembers_append, flagMembers_cons_of_not_mem hflags]
    rw [ofDoc_object_eq_ok_iff, ofDoc_object_eq_ok_iff, valued_insert_iff, hsame, d.exists_value_iff,
      and_assoc]
    refine and_congr_right fun hsound => and_congr_right fun _ => and_congr_left fun _ => ?_
    rw [(specified_idShape.lenient _).unknown hunknown, and_iff_right hsound.isWhole.skip]
  default hspec hdefault _ := by
    rw [default_of_mem_specs hspec] at hdefault
    cases hdefault
  missing {_ before after _ spec d r} hspec hmust hread := by
    obtain ⟨hvalued, hid, hflags⟩ := ofDoc_object_eq_ok_iff.mp hread
    obtain ⟨-, hrest⟩ := valued_insert_iff.mp hvalued
    rw [ofDoc_object hrest]
    rcases List.mem_cons.mp hspec with rfl | hflag
    · rw [(specified_idShape.lenient _).missing List.mem_cons_self rfl hid]
      rfl
    · have hunknown : spec.name ∉ [MemberSpec.mk "file_id" none].map (·.name) := by
        have hall : ∀ spec ∈ Flags.specs, spec.name ≠ "file_id" := by simp [Flags.specs]
        exact mt List.mem_singleton.mp (hall spec hflag)
      rw [flagMembers_append, flagMembers_cons_of_mem (List.mem_map_of_mem hflag)] at hflags
      rw [((specified_idShape.lenient _).unknown hunknown).mp hid |>.2, flagMembers_append,
        (Flags.specified_shape.lenient _).missing hflag hmust hflags]
      rfl

end StatusReport

end CsvCleaning
