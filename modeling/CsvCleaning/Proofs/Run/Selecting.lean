import CsvCleaning.Run.Selection
import Mathlib.Data.List.Basic
import Mathlib.Data.List.Induction

/-!
# Sequences of selections

A selection under any sequence of offers and resets. What comes of each of them tells what it does to
the held file: an accepted candidate takes its place, a rejection leaves it, and a clearing or a reset
lets go of it. So the held file is read off what came of the actions so far, and since a file is held
only once it was accepted, it is one that may be selected.
-/

namespace CsvCleaning

/-- A file that may be selected: its name ends in `.csv`, and there is no limit or its size is within
the limit. -/
structure SourceFile.Selectable (file : SourceFile) (limit : Nat) : Prop where
  csv : ".csv".toList <:+ file.name.toList
  size : limit = 0 ∨ file.size ≤ limit

namespace Selection

/-- What is done with a selection: a candidate is offered, or none to clear it, or it is reset. -/
inductive Action
  | offer (candidate : Option SourceFile)
  | reset
deriving DecidableEq, Repr

/-- What comes of an action: an offer has an outcome, a reset has none. -/
inductive Event
  | outcome (outcome : SelectionOutcome)
  | reset
deriving DecidableEq, Repr

/-- The selection after an action, and what came of it. -/
def act (s : Selection) : Action → Selection × Event
  | .offer candidate => ((s.select candidate).1, .outcome (s.select candidate).2)
  | .reset => (s.reset, .reset)

/-- The selection after some actions, one after the other. -/
def after (s : Selection) (actions : List Action) : Selection :=
  actions.foldl (fun s a => (s.act a).1) s

/-- What came of some actions, in order. -/
def events (s : Selection) : List Action → List Event
  | [] => []
  | a :: rest => (s.act a).2 :: (s.act a).1.events rest

/-- What is held after an event. -/
def Event.held (before : Option SourceFile) : Event → Option SourceFile
  | .outcome (.accepted file) => some file
  | .outcome (.rejected _) => before
  | .outcome .cleared | .reset => none

/-- A file is the last that was accepted, and since then all else was rejected: no clearing and no
reset has let go of it. -/
def IsLastAccepted (events : List Event) (file : SourceFile) : Prop :=
  ∃ earlier later, events = earlier ++ .outcome (.accepted file) :: later ∧
    ∀ e ∈ later, ∃ reason, e = .outcome (.rejected reason)

/-- How a selection decides. The name of a candidate is looked at before its size, and a rejection
leaves everything as it was. -/
structure Decides (s : Selection) (limit : Nat) : Prop where
  accepted (file : SourceFile) :
    (s.select (some file)).2 = .accepted file ↔ file.Selectable limit
  wrongFormat (file : SourceFile) : (s.select (some file)).2 = .rejected .wrongFormat ↔
    ¬ ".csv".toList <:+ file.name.toList
  tooLarge (file : SourceFile) : (s.select (some file)).2 = .rejected .tooLarge ↔
    ".csv".toList <:+ file.name.toList ∧ limit ≠ 0 ∧ limit < file.size
  cleared : (s.select none).2 = .cleared ↔ ∃ file, s.held = some file
  noFile : (s.select none).2 = .rejected .noFile ↔ s.held = none
  kept (candidate : Option SourceFile) (reason : Rejection) :
    (s.select candidate).2 = .rejected reason → (s.select candidate).1 = s

section Deciding

variable {s : Selection} {file : SourceFile}

/-- A candidate that may be selected is held. -/
theorem select_of_selectable (h : file.Selectable s.limit) :
    s.select (some file) = ({ s with held := some file }, .accepted file) := by
  have hsize : ¬ (0 < s.limit ∧ s.limit < file.size) := by
    have := h.size
    omega
  simp only [select, FileName.isCsv_iff.mpr h.csv, Bool.not_true, Bool.false_eq_true, if_false,
    if_neg hsize]

/-- A candidate of another name is refused for it, whatever its size. -/
theorem select_of_not_csv (h : ¬ ".csv".toList <:+ file.name.toList) :
    s.select (some file) = (s, .rejected .wrongFormat) := by
  have hname : FileName.isCsv file.name = false :=
    Bool.eq_false_iff.mpr fun hcsv => h (FileName.isCsv_iff.mp hcsv)
  simp only [select, hname, Bool.not_false, if_true]

/-- A candidate above the limit is refused for its size if not for its name. -/
theorem select_of_too_large (hcsv : ".csv".toList <:+ file.name.toList)
    (hlimit : s.limit ≠ 0) (hsize : s.limit < file.size) :
    s.select (some file) = (s, .rejected .tooLarge) := by
  simp only [select, FileName.isCsv_iff.mpr hcsv, Bool.not_true, Bool.false_eq_true, if_false,
    if_pos (And.intro (Nat.pos_of_ne_zero hlimit) hsize)]

/-- A candidate may be selected, is of another name, or is above the limit. -/
theorem selectable_cases (file : SourceFile) (limit : Nat) :
    file.Selectable limit ∨ ¬ ".csv".toList <:+ file.name.toList ∨
      ".csv".toList <:+ file.name.toList ∧ limit ≠ 0 ∧ limit < file.size := by
  by_cases hcsv : ".csv".toList <:+ file.name.toList
  · by_cases hsize : limit = 0 ∨ file.size ≤ limit
    · exact .inl ⟨hcsv, hsize⟩
    · exact .inr (.inr ⟨hcsv, by omega, by omega⟩)
  · exact .inr (.inl hcsv)

/-- Every selection decides so by its limit. -/
theorem decides (s : Selection) : s.Decides s.limit where
  accepted file := by
    rcases selectable_cases file s.limit with h | h | ⟨hcsv, hlimit, hsize⟩
    · simp [select_of_selectable h, h]
    · simpa [select_of_not_csv h] using fun hfile : file.Selectable s.limit => h hfile.csv
    · rw [select_of_too_large hcsv hlimit hsize]
      refine ⟨nofun, fun hfile => ?_⟩
      have := hfile.size
      omega
  wrongFormat file := by
    rcases selectable_cases file s.limit with h | h | ⟨hcsv, hlimit, hsize⟩
    · simpa [select_of_selectable h] using h.csv
    · simpa [select_of_not_csv h] using h
    · simpa [select_of_too_large hcsv hlimit hsize] using hcsv
  tooLarge file := by
    rcases selectable_cases file s.limit with h | h | ⟨hcsv, hlimit, hsize⟩
    · rw [select_of_selectable h]
      refine ⟨nofun, fun ⟨_, hlimit, hsize⟩ => ?_⟩
      have := h.size
      omega
    · rw [select_of_not_csv h]
      exact ⟨nofun, fun ⟨hcsv, _⟩ => absurd hcsv h⟩
    · rw [select_of_too_large hcsv hlimit hsize]
      exact ⟨fun _ => ⟨hcsv, hlimit, hsize⟩, fun _ => rfl⟩
  cleared := by
    cases hheld : s.held <;> simp [select, hheld]
  noFile := by
    cases hheld : s.held <;> simp [select, hheld]
  kept candidate reason hout := by
    cases candidate with
    | none =>
      cases hheld : s.held with
      | none => simp [select, hheld]
      | some file => simp [select, hheld] at hout
    | some file =>
      rcases selectable_cases file s.limit with h | h | ⟨hcsv, hlimit, hsize⟩
      · rw [select_of_selectable h] at hout
        cases hout
      · rw [select_of_not_csv h]
      · rw [select_of_too_large hcsv hlimit hsize]

end Deciding

/-! ### What is held -/

/-- An action never changes the limit. -/
theorem limit_act (s : Selection) (a : Action) : (s.act a).1.limit = s.limit := by
  cases a with
  | offer candidate => exact limit_select s candidate
  | reset => rfl

/-- What comes of an action tells what is held after it. -/
theorem held_act (s : Selection) (a : Action) : (s.act a).1.held = (s.act a).2.held s.held := by
  cases a with
  | reset => rfl
  | offer candidate =>
    cases candidate with
    | none => cases hheld : s.held <;> simp [act, select, hheld, Event.held]
    | some file =>
      rcases selectable_cases file s.limit with h | h | ⟨hcsv, hlimit, hsize⟩
      · simp [act, select_of_selectable h, Event.held]
      · simp [act, select_of_not_csv h, Event.held]
      · simp [act, select_of_too_large hcsv hlimit hsize, Event.held]

/-- Only files that may be selected come to be held. -/
theorem selectable_act {s : Selection} (h : ∀ file ∈ s.held, file.Selectable s.limit) (a : Action) :
    ∀ file ∈ (s.act a).1.held, file.Selectable s.limit := by
  cases a with
  | reset => simp [act, reset]
  | offer candidate =>
    cases candidate with
    | none => cases hheld : s.held <;> simp [act, select, hheld]
    | some file =>
      rcases selectable_cases file s.limit with hfile | hname | ⟨hcsv, hlimit, hsize⟩
      · simpa [act, select_of_selectable hfile] using hfile
      · simpa [act, select_of_not_csv hname] using h
      · simpa [act, select_of_too_large hcsv hlimit hsize] using h

/-- After any actions the limit is the same, what is held is told by what came of them, and it may be
selected if what was held before may. -/
theorem after_eq (s : Selection) (actions : List Action)
    (h : ∀ file ∈ s.held, file.Selectable s.limit) :
    (s.after actions).limit = s.limit ∧
      (s.after actions).held = (s.events actions).foldl Event.held s.held ∧
      ∀ file ∈ (s.after actions).held, file.Selectable s.limit := by
  induction actions generalizing s with
  | nil => exact ⟨rfl, rfl, h⟩
  | cons a rest ih =>
    have hlimit := limit_act s a
    obtain ⟨hlimit', hheld, hselectable⟩ := ih (s.act a).1 (by rw [hlimit]; exact selectable_act h a)
    rw [hlimit] at hlimit' hselectable
    rw [held_act] at hheld
    exact ⟨hlimit', hheld, hselectable⟩

/-- One event more keeps a file the last accepted one if it is a rejection. -/
theorem isLastAccepted_concat_iff {events : List Event} {e : Event} {file : SourceFile} :
    IsLastAccepted (events ++ [e]) file ↔
      e = .outcome (.accepted file) ∨
        (∃ reason, e = .outcome (.rejected reason)) ∧ IsLastAccepted events file := by
  constructor
  · rintro ⟨earlier, later, hsplit, hlater⟩
    rcases List.eq_nil_or_concat' later with rfl | ⟨later, last, rfl⟩
    · obtain ⟨-, hlast⟩ := List.append_inj' hsplit rfl
      exact .inl (List.singleton_inj.mp hlast)
    · rw [← List.cons_append, ← List.append_assoc] at hsplit
      obtain ⟨rfl, hlast⟩ := List.append_inj' hsplit rfl
      obtain rfl := List.singleton_inj.mp hlast
      exact .inr ⟨hlater e (by simp), earlier, later, rfl, fun x hx => hlater x (by simp [hx])⟩
  · rintro (rfl | ⟨hrejected, earlier, later, rfl, hlater⟩)
    · exact ⟨events, [], rfl, by simp⟩
    · refine ⟨earlier, later ++ [e], by simp, fun x hx => ?_⟩
      rcases List.mem_append.mp hx with hx | hx
      · exact hlater x hx
      · rwa [List.mem_singleton.mp hx]

/-- What events leave of nothing is the last accepted file, if nothing let go of it. -/
theorem foldl_held_eq_some_iff {events : List Event} {file : SourceFile} :
    events.foldl Event.held none = some file ↔ IsLastAccepted events file := by
  induction events using List.reverseRecOn with
  | nil => simp [IsLastAccepted]
  | append_singleton rest e ih =>
    rw [List.foldl_concat, isLastAccepted_concat_iff]
    cases e with
    | reset => simp [Event.held]
    | outcome outcome =>
      cases outcome with
      | accepted other => simp [Event.held]
      | cleared => simp [Event.held]
      | rejected reason => simpa [Event.held] using ih

/-- A selection holds exactly the last accepted file. After any sequence of offers and resets, a
candidate is accepted exactly if its name ends in `.csv` and its size is within the limit, a wrong
name being told before an excessive size; a rejection leaves everything as it was; clearing succeeds
exactly if a file is held. The held file is the last accepted one that no clearing and no reset came
after, and it may be selected. -/
theorem holds_last_accepted (limit : Nat) (actions : List Action) :
    let s := (empty limit).after actions
    s.Decides limit ∧
      (∀ file, s.held = some file ↔ IsLastAccepted ((empty limit).events actions) file) ∧
      ∀ file ∈ s.held, file.Selectable limit := by
  intro s
  obtain ⟨hlimit, hheld, hselectable⟩ := after_eq (empty limit) actions (by simp [empty])
  refine ⟨?_, fun file => ?_, hselectable⟩
  · have hdecides := s.decides
    rwa [show s.limit = limit from hlimit] at hdecides
  · rw [show s.held = _ from hheld]
    exact foldl_held_eq_some_iff

end Selection

end CsvCleaning
