import CsvCleaning.Files.Tree
import CsvCleaning.Proofs.Text.Splitting

/-!
# Where a path leads

Following names in a row is following the first ones and then the others from where these lead. So
a single name that is joined to a directory leads right into this directory, and a file that is
written there is read again.
-/

namespace CsvCleaning

namespace Path

/-- Joining a relative path to a directory puts a slash between the two, unless there is one. -/
theorem join_eq {dir p : Path} (hdir : dir ≠ []) (hp : p.isAbsolute = false) :
    ∃ front, dir.join p = front ++ slash :: p ∧ (dir = front ++ [slash] ∨ dir = front) := by
  by_cases hlast : dir.getLast? = some slash
  · obtain ⟨front, hfront⟩ := List.getLast?_eq_some_iff.mp hlast
    exact ⟨front, by simp [join, hp, hfront], .inl hfront⟩
  · exact ⟨dir, by simp [join, hp, hlast, hdir], .inr rfl⟩

/-- A directory comes first in what is joined to it. -/
theorem prefix_join {dir p : Path} (hp : p.isAbsolute = false) : dir <+: dir.join p := by
  rw [join, hp, if_neg Bool.false_ne_true]
  split
  · exact List.prefix_append dir p
  · exact List.prefix_append dir (slash :: p)

/-- The parts of paths with a slash between them. -/
theorem parts_append_slash (front p : Path) : (front ++ slash :: p).parts = front.parts ++ p.parts :=
  Text.splitWhere_append_separator front (by decide) p

/-- What is joined to a directory does not make it absolute. -/
theorem isAbsolute_join {dir p : Path} (hdir : dir ≠ []) (hp : p.isAbsolute = false) :
    (dir.join p).isAbsolute = dir.isAbsolute := by
  obtain ⟨front, hjoin, hfront⟩ := join_eq hdir hp
  rw [hjoin]
  rcases hfront with rfl | rfl
  · cases front <;> rfl
  · cases dir with
    | nil => exact absurd rfl hdir
    | cons => rfl

end Path

namespace FileTree

/-- Where a name leads from a directory, if it is not too long. -/
def enter (here : Location) (name : Bytes) : Option Location :=
  if name = Path.dot ∨ name = [] then some here
  else if name = Path.dotDot then some here.dropLast
  else if maxName < name.length then none
  else some (here ++ [name])

/-- A name is followed in a directory only, and the others are followed from where it leads. -/
theorem follow_cons_eq_ok_iff {t : FileTree} {here place : Location} {name : Bytes} {rest : List Bytes} :
    t.follow here (name :: rest) = .ok place ↔
      t.node? here = some .directory ∧ ∃ next, enter here name = some next ∧
        t.follow next rest = .ok place := by
  rw [follow, enter]
  split
  · rename_i hnode
    simp [hnode]
  · rename_i hnode
    simp [hnode]
  · rename_i hnode
    by_cases hsame : name = Path.dot ∨ name = []
    · simp [hnode, hsame]
    · by_cases hup : name = Path.dotDot
      · simp only [if_neg hsame, if_pos hup]
        simp [hnode]
      · by_cases hlong : maxName < name.length <;> simp [hnode, hsame, hup, hlong]

/-- Names in a row are followed one after the other. -/
theorem follow_append_eq_ok_iff {t : FileTree} {here place : Location} {names more : List Bytes} :
    t.follow here (names ++ more) = .ok place ↔
      ∃ there, t.follow here names = .ok there ∧ t.follow there more = .ok place := by
  induction names generalizing here with
  | nil => simp [follow]
  | cons name rest ih =>
    simp only [List.cons_append, follow_cons_eq_ok_iff, ih]
    grind

/-- Names lead to where they did in a tree with all directories of another. -/
theorem follow_mono {t t' : FileTree} {here place : Location} {names : List Bytes}
    (hdirectories : ∀ l, t.node? l = some .directory → t'.node? l = some .directory)
    (h : t.follow here names = .ok place) : t'.follow here names = .ok place := by
  induction names generalizing here with
  | nil => exact h
  | cons name rest ih =>
    obtain ⟨hnode, next, hnext, hrest⟩ := follow_cons_eq_ok_iff.mp h
    exact follow_cons_eq_ok_iff.mpr ⟨hdirectories here hnode, next, hnext, ih hrest⟩

/-- A name of its own leads into the directory that it is looked up in. -/
theorem follow_singleton {t : FileTree} {here there : Location} {name : Bytes} (hname : 2 < name.length)
    (h : t.follow here [name] = .ok there) :
    t.node? here = some .directory ∧ there = here ++ [name] := by
  have hdot : ¬ (name = Path.dot ∨ name = []) := by
    rintro (rfl | rfl) <;> simp [Path.dot] at hname
  have hdotDot : name ≠ Path.dotDot := by
    rintro rfl
    simp [Path.dotDot] at hname
  obtain ⟨hnode, next, hnext, hthere⟩ := follow_cons_eq_ok_iff.mp h
  rw [enter, if_neg hdot, if_neg hdotDot] at hnext
  split at hnext
  · cases hnext
  · obtain rfl := Option.some.inj hnext
    exact ⟨hnode, (Except.ok.inj hthere).symm⟩

/-- The location of a directory; the empty path stands for the working directory. -/
def home (t : FileTree) (cwd : Location) (dir : Path) : Except FileFault Location :=
  if dir = [] then .ok cwd else t.locate cwd dir

/-- A path leads where its names lead, unless it is empty, too long, or holds a zero byte. -/
theorem locate_eq_ok_iff {t : FileTree} {cwd place : Location} {p : Path} :
    t.locate cwd p = .ok place ↔ 0 ∉ p ∧ p ≠ [] ∧ p.length ≤ maxPath ∧
      t.follow (if p.isAbsolute then [] else cwd) p.parts = .ok place := by
  unfold locate
  by_cases hzero : 0 ∈ p
  · simp [hzero]
  · by_cases hempty : p = []
    · simp [hempty]
    · by_cases hlong : maxPath < p.length
      · simp [hzero, hempty, hlong, Nat.not_le_of_lt hlong]
      · simp [hzero, hempty, hlong, Nat.le_of_not_lt hlong]

/-- A path leads to where it did in a tree with all directories of another. -/
theorem locate_mono {t t' : FileTree} {cwd place : Location} {p : Path}
    (hdirectories : ∀ l, t.node? l = some .directory → t'.node? l = some .directory)
    (h : t.locate cwd p = .ok place) : t'.locate cwd p = .ok place := by
  obtain ⟨hzero, hempty, hlong, hfollow⟩ := locate_eq_ok_iff.mp h
  exact locate_eq_ok_iff.mpr ⟨hzero, hempty, hlong, follow_mono hdirectories hfollow⟩

/-- What is put where no directory stands leaves all directories there are. -/
theorem directory_put {t : FileTree} {place l : Location} (hplace : t.node? place ≠ some .directory)
    (node : Node) (h : t.node? l = some .directory) : (t.put place node).node? l = some .directory := by
  rw [node?_put_of_ne t, h]
  rintro rfl
  exact hplace h

/-- A name of its own that is joined to a directory leads into this directory. -/
theorem locate_join {t : FileTree} {cwd place : Location} {dir : Path} {name : Bytes}
    (hname : 2 < name.length) (hslash : Path.slash ∉ name)
    (h : t.locate cwd (dir.join name) = .ok place) :
    ∃ here, t.home cwd dir = .ok here ∧ t.node? here = some .directory ∧ place = here ++ [name] := by
  have hrelative : Path.isAbsolute name = false := by
    rw [Path.isAbsolute, beq_eq_false_iff_ne]
    exact fun hhead => hslash (List.mem_of_mem_head? hhead)
  have hparts : Path.parts name = [name] := Text.splitWhere_of_all fun x hx => by
    rw [beq_eq_false_iff_ne]
    rintro rfl
    exact hslash hx
  obtain ⟨hzero, -, hlong, hfollow⟩ := locate_eq_ok_iff.mp h
  by_cases hdir : dir = []
  · subst hdir
    have hjoin : Path.join [] name = name := by simp [Path.join, hrelative]
    rw [hjoin, hrelative, hparts] at hfollow
    obtain ⟨hnode, hplace⟩ := follow_singleton hname hfollow
    exact ⟨cwd, rfl, hnode, hplace⟩
  · rw [Path.isAbsolute_join hdir hrelative] at hfollow
    obtain ⟨front, hjoin, hfront⟩ := Path.join_eq hdir hrelative
    rw [hjoin, Path.parts_append_slash, hparts] at hfollow
    obtain ⟨here, hhere, hlast⟩ := follow_append_eq_ok_iff.mp hfollow
    obtain ⟨hnode, hplace⟩ := follow_singleton hname hlast
    refine ⟨here, ?_, hnode, hplace⟩
    have hwithin : dir <+: dir.join name := Path.prefix_join hrelative
    rw [home, if_neg hdir, locate_eq_ok_iff]
    refine ⟨fun hmem => hzero (hwithin.subset hmem), hdir, Nat.le_trans hwithin.length_le hlong, ?_⟩
    -- A slash at the end of the directory is one more, empty part, which leads nowhere else.
    rcases hfront with rfl | rfl
    · rw [Path.parts_append_slash, follow_append_eq_ok_iff]
      exact ⟨here, hhere, by simp [Path.parts, Text.splitWhere, follow, hnode]⟩
    · exact hhere

/-- A file is written where its path leads, in a directory that is there. -/
theorem exists_of_write {t t' : FileTree} {cwd : Location} {p : Path} {bytes : Bytes}
    (h : t.write cwd p bytes = .ok t') :
    ∃ place, t.locate cwd p = .ok place ∧ t.node? place ≠ some .directory ∧
      t' = t.put place (.file bytes) := by
  unfold write at h
  split at h
  · cases h
  · rename_i place hplace
    split at h
    · cases h
    · rename_i hparent hnode
      exact ⟨place, hplace, hnode, (Except.ok.inj h).symm⟩
    · cases h
    · cases h

/-- A file that was written is read under the same path. -/
theorem read_of_write {t t' : FileTree} {cwd : Location} {p : Path} {bytes : Bytes}
    (h : t.write cwd p bytes = .ok t') : t'.read cwd p = .ok bytes := by
  obtain ⟨place, hlocate, hnode, rfl⟩ := exists_of_write h
  have hne : place ≠ [] := by
    rintro rfl
    exact hnode rfl
  have hlocate' : (t.put place (.file bytes)).locate cwd p = .ok place :=
    locate_mono (fun _ => directory_put hnode _) hlocate
  rw [read, stat, hlocate']
  dsimp only
  rw [node?_put_self t hne]

end FileTree

end CsvCleaning
