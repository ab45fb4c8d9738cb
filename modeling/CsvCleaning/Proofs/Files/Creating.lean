import CsvCleaning.Proofs.Files.Following
import Mathlib.Data.List.DropRight
import Mathlib.Data.List.Induction

/-!
# Directories on the way

A directory is created after its missing parents, so whatever comes of it, all that is new in the tree
are directories that the path leads through, where nothing stood before. A path leads through a place
if its first steps lead there.
-/

namespace CsvCleaning

namespace Path

/-! ### Steps of a path and of its parent -/

/-- The steps of paths with a slash between them. -/
theorem steps_append_slash (front p : Path) : (front ++ slash :: p).steps = front.steps ++ p.steps := by
  rw [steps, parts_append_slash, List.filter_append]
  rfl

/-- The empty path has no steps. -/
theorem steps_nil : steps [] = [] := rfl

/-- There is no slash in a step, and it leads somewhere. -/
theorem of_mem_steps {p : Path} {name : Bytes} (h : name ∈ p.steps) :
    slash ∉ name ∧ name ≠ [] ∧ name ≠ dot := by
  rw [steps, List.mem_filter, decide_eq_true_eq] at h
  refine ⟨fun hslash => ?_, h.2⟩
  have hnone := Text.not_isSeparator_of_mem_splitWhere h.1 hslash
  exact absurd rfl (beq_eq_false_iff_ne.mp hnone)

/-- A path that is made of names has a slash between the first and the others. -/
theorem ofParts_cons_cons (name next : Bytes) (rest : List Bytes) :
    ofParts (name :: next :: rest) = name ++ slash :: ofParts (next :: rest) := by
  simp [ofParts, List.intercalate, List.intersperse]

/-- The steps of a path that is made of names without slashes are the names that lead somewhere. -/
theorem steps_ofParts {names : List Bytes} (h : ∀ name ∈ names, slash ∉ name) :
    (ofParts names).steps = names.filter fun name => name ≠ [] ∧ name ≠ dot := by
  have hsingle (name : Bytes) (hname : slash ∉ name) :
      steps name = [name].filter fun name => name ≠ [] ∧ name ≠ dot := by
    rw [steps, parts, Text.splitWhere_of_all]
    intro b hb
    rw [beq_eq_false_iff_ne]
    rintro rfl
    exact hname hb
  induction names with
  | nil => rfl
  | cons name rest ih =>
    obtain ⟨hname, hrest⟩ := List.forall_mem_cons.mp h
    cases rest with
    | nil => simpa [ofParts] using hsingle name hname
    | cons next more =>
      rw [ofParts_cons_cons, steps_append_slash, hsingle name hname, ih hrest, ← List.filter_append,
        List.singleton_append]

/-- A path that is made of names begins as the first one does. -/
theorem isAbsolute_ofParts_cons {name : Bytes} (h : name ≠ []) (rest : List Bytes) :
    (ofParts (name :: rest)).isAbsolute = isAbsolute name := by
  obtain ⟨b, more, rfl⟩ := List.exists_cons_of_ne_nil h
  cases rest with
  | nil => simp [ofParts, isAbsolute]
  | cons next others => simp [ofParts_cons_cons, isAbsolute]

/-- The parent of a path starts where the path does and has all its steps but the last. -/
theorem parent_eq {p parent : Path} (h : p.parent? = some parent) :
    parent.steps = p.steps.dropLast ∧ parent.isAbsolute = p.isAbsolute := by
  have hkept (name : Bytes) (hname : name ∈ p.steps.dropLast) :=
    of_mem_steps (List.dropLast_subset _ hname)
  have hfilter : (p.steps.dropLast.filter fun name => name ≠ [] ∧ name ≠ dot) = p.steps.dropLast :=
    List.filter_eq_self.mpr fun name hname => by simpa using (hkept name hname).2
  have hparts : (ofParts p.steps.dropLast).steps = p.steps.dropLast :=
    (steps_ofParts fun name hname => (hkept name hname).1).trans hfilter
  unfold parent? at h
  split at h
  · rename_i hsteps
    split at h
    · cases h
    · rename_i hrelative
      obtain rfl := Option.some.inj h
      rw [hsteps]
      exact ⟨rfl, (Bool.eq_false_iff.mpr fun habsolute => hrelative (.inl habsolute)).symm⟩
  · rename_i step rest hsteps
    rw [← hsteps] at h
    obtain rfl := Option.some.inj h
    split
    · rename_i habsolute
      exact ⟨(steps_append_slash [] _).trans hparts, habsolute.symm⟩
    · rename_i hrelative
      rw [Bool.eq_false_iff.mpr hrelative]
      split
      · refine ⟨?_, isAbsolute_ofParts_cons (by decide) _⟩
        rw [steps_ofParts, List.filter_cons_of_neg (by decide), hfilter]
        exact List.forall_mem_cons.mpr ⟨by decide, fun name hname => (hkept name hname).1⟩
      · refine ⟨hparts, ?_⟩
        cases hdropped : p.steps.dropLast with
        | nil => rfl
        | cons name more =>
          obtain ⟨hslash, hname, -⟩ := hkept name (by simp [hdropped])
          rw [isAbsolute_ofParts_cons hname, isAbsolute, beq_eq_false_iff_ne]
          exact fun hhead => hslash (List.mem_of_mem_head? hhead)

end Path

namespace FileTree

/-- Slashes at the end of a path are no steps. -/
theorem steps_withoutEndSlash (p : Path) : Path.steps (withoutEndSlash p) = p.steps := by
  change Path.steps (List.rdropWhile (· == Path.slash) p) = p.steps
  induction p using List.reverseRecOn with
  | nil => rfl
  | append_singleton front b ih =>
    by_cases hb : b = Path.slash
    · subst hb
      rw [List.rdropWhile_concat_pos _ _ _ (by simp), ih, Path.steps_append_slash, Path.steps_nil,
        List.append_nil]
    · rw [List.rdropWhile_concat_neg _ _ _ (by simpa using hb)]

/-- A path starts where it does without the slashes at its end, if there is more of it. -/
theorem isAbsolute_withoutEndSlash {p : Path} (h : withoutEndSlash p ≠ []) :
    Path.isAbsolute (withoutEndSlash p) = p.isAbsolute := by
  obtain ⟨after, hafter⟩ : withoutEndSlash p <+: p := List.rdropWhile_prefix _ _
  obtain ⟨b, more, hmore⟩ := List.exists_cons_of_ne_nil h
  conv_rhs => rw [← hafter]
  rw [hmore]
  rfl

/-! ### Growing along a path -/

/-- Where a path starts: at the root or in the working directory. -/
def start (cwd : Location) (p : Path) : Location :=
  if p.isAbsolute then [] else cwd

/-- A path leads through a place: its first steps lead there. -/
def LeadsThrough (t : FileTree) (cwd : Location) (p : Path) (place : Location) : Prop :=
  ∃ names, names <+: p.steps ∧ t.follow (start cwd p) names = .ok place

/-- All that is new in a tree are directories that a path leads through, where nothing stood. -/
def GrownAlong (t t' : FileTree) (cwd : Location) (p : Path) : Prop :=
  ∀ place, t'.node? place = t.node? place ∨
    (t.node? place = none ∧ t'.node? place = some .directory ∧ t'.LeadsThrough cwd p place)

/-- Names that lead nowhere else can be left out. -/
theorem follow_filter {t : FileTree} {here place : Location} {names : List Bytes}
    (h : t.follow here names = .ok place) :
    t.follow here (names.filter fun name => name ≠ [] ∧ name ≠ Path.dot) = .ok place := by
  induction names generalizing here with
  | nil => exact h
  | cons name rest ih =>
    obtain ⟨hnode, next, hnext, hrest⟩ := follow_cons_eq_ok_iff.mp h
    by_cases hname : name ≠ [] ∧ name ≠ Path.dot
    · rw [List.filter_cons_of_pos (by simpa using hname)]
      exact follow_cons_eq_ok_iff.mpr ⟨hnode, next, hnext, ih hrest⟩
    · rw [List.filter_cons_of_neg (by simpa using hname)]
      have hsame : name = Path.dot ∨ name = [] := by tauto
      rw [enter, if_pos hsame] at hnext
      obtain rfl := Option.some.inj hnext
      exact ih hrest

/-- A path leads through the place that it leads to. -/
theorem leadsThrough_of_locate {t : FileTree} {cwd place : Location} {p : Path}
    (h : t.locate cwd p = .ok place) : t.LeadsThrough cwd p place :=
  ⟨p.steps, List.prefix_rfl, follow_filter (locate_eq_ok_iff.mp h).2.2.2⟩

namespace LeadsThrough

variable {t t' : FileTree} {cwd place : Location} {p parent : Path}

/-- A path leads through the same places in a tree with all directories of another. -/
theorem mono (h : t.LeadsThrough cwd p place)
    (hdirectories : ∀ l, t.node? l = some .directory → t'.node? l = some .directory) :
    t'.LeadsThrough cwd p place := by
  obtain ⟨names, hnames, hfollow⟩ := h
  exact ⟨names, hnames, follow_mono hdirectories hfollow⟩

/-- A path leads through all that its parent leads through. -/
theorem of_parent (h : t.LeadsThrough cwd parent place) (hparent : p.parent? = some parent) :
    t.LeadsThrough cwd p place := by
  obtain ⟨hsteps, habsolute⟩ := Path.parent_eq hparent
  obtain ⟨names, hnames, hfollow⟩ := h
  rw [start, habsolute] at hfollow
  exact ⟨names, (hsteps ▸ hnames).trans (List.dropLast_prefix _), hfollow⟩

/-- A path leads through all that it leads through without the slashes at its end. -/
theorem of_withoutEndSlash (h : t.LeadsThrough cwd (withoutEndSlash p) place)
    (hne : withoutEndSlash p ≠ []) : t.LeadsThrough cwd p place := by
  obtain ⟨names, hnames, hfollow⟩ := h
  rw [steps_withoutEndSlash] at hnames
  rw [start, isAbsolute_withoutEndSlash hne] at hfollow
  exact ⟨names, hnames, hfollow⟩

end LeadsThrough

namespace GrownAlong

variable {t t₁ t₂ : FileTree} {cwd : Location} {p parent : Path}

/-- A tree that stays the same has grown by nothing. -/
theorem refl (t : FileTree) (cwd : Location) (p : Path) : t.GrownAlong t cwd p :=
  fun _ => .inl rfl

/-- Directories stay where they are. -/
theorem directory (h : t.GrownAlong t₁ cwd p) (l : Location) (hnode : t.node? l = some .directory) :
    t₁.node? l = some .directory := by
  rcases h l with hsame | ⟨-, hnew, -⟩
  · rw [hsame, hnode]
  · exact hnew

/-- Growing twice along a path is growing along it. -/
theorem trans (h : t.GrownAlong t₁ cwd p) (h' : t₁.GrownAlong t₂ cwd p) : t.GrownAlong t₂ cwd p := by
  intro place
  rcases h' place with hsame | ⟨hnone, hnew, hway⟩
  · rw [hsame]
    exact (h place).imp_right fun ⟨hnone, hnew, hway⟩ => ⟨hnone, hnew, hway.mono h'.directory⟩
  · rcases h place with hsame | ⟨-, hdirectory, -⟩
    · exact .inr ⟨hsame ▸ hnone, hnew, hway⟩
    · rw [hnone] at hdirectory
      cases hdirectory

/-- Growing along the parent of a path is growing along the path. -/
theorem of_parent (h : t.GrownAlong t₁ cwd parent) (hparent : p.parent? = some parent) :
    t.GrownAlong t₁ cwd p := fun place =>
  (h place).imp_right fun ⟨hnone, hnew, hway⟩ => ⟨hnone, hnew, hway.of_parent hparent⟩

end GrownAlong

/-! ### What creating directories changes -/

section Creating

variable {t t' : FileTree} {cwd : Location} {p : Path}

/-- A directory is created where its path leads, if nothing stands there. -/
theorem grownAlong_of_createDirectory (h : t.createDirectory cwd p = .ok t') :
    t.GrownAlong t' cwd p := by
  unfold createDirectory at h
  dsimp only at h
  split at h
  · cases h
  · rename_i place hlocate
    split at h
    · cases h
    · rename_i hnone _
      obtain rfl := Except.ok.inj h
      have hne : place ≠ [] := by
        rintro rfl
        cases hnone
      have hfree : t.node? place ≠ some .directory := by
        rw [hnone]
        nofun
      have hway : t.LeadsThrough cwd p place := by
        have hshort := leadsThrough_of_locate hlocate
        split at hshort
        · exact hshort
        · rename_i hrest
          exact hshort.of_withoutEndSlash hrest
      intro other
      by_cases hother : other = place
      · subst hother
        exact .inr ⟨hnone, node?_put_self t hne .directory, hway.mono fun _ => directory_put hfree _⟩
      · exact .inl (node?_put_of_ne t hother .directory)
    · cases h
    · cases h

/-- To see to it that a directory is there changes nothing else. -/
theorem grownAlong_ensureDirectory (t : FileTree) (cwd : Location) (p : Path) :
    t.GrownAlong (t.ensureDirectory cwd p).1 cwd p := by
  unfold ensureDirectory
  cases hcreated : t.createDirectory cwd p with
  | error f => exact .refl t cwd p
  | ok t' => exact grownAlong_of_createDirectory hcreated

/-- Neither does it with the parents of the directory, which are created first. -/
theorem grownAlong_createUpTo (t : FileTree) (cwd : Location) (depth : Nat) (p : Path) :
    t.GrownAlong (t.createUpTo cwd depth p).1 cwd p := by
  induction depth generalizing p with
  | zero => exact .refl t cwd p
  | succ depth ih =>
    rw [createUpTo]
    split
    · exact .refl t cwd p
    · split
      · split
        · exact .refl t cwd p
        · rename_i parent hparent
          have hgrown := (ih parent).of_parent hparent
          split
          · rename_i made hmade
            rw [hmade] at hgrown
            exact hgrown.trans (grownAlong_ensureDirectory made cwd p)
          · rename_i made f hmade
            rwa [hmade] at hgrown
      · exact grownAlong_ensureDirectory t cwd p

/-- Whatever comes of creating a directory and its missing parents, all that is new are directories on
the way to it. -/
theorem grownAlong_createDirectories (t : FileTree) (cwd : Location) (p : Path) :
    t.GrownAlong (t.createDirectories cwd p).1 cwd p :=
  grownAlong_createUpTo t cwd (p.length + 2) p

end Creating

end FileTree

end CsvCleaning
