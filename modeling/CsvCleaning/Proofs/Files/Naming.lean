import CsvCleaning.FileName
import CsvCleaning.Proofs.Text.Utf8
import Mathlib.Data.List.TakeWhile

/-!
# Readings of a file name

A name is looked at in three ways: for the marker `.csv` at its end, for its last dot, and for what
stands before the marker. The marker begins with a dot and has no other, so the last dot of a name that
ends in it is the one of the marker, and the three readings agree. Only the marker by itself has nothing
before its dot and is no extension. The last dot is looked for among the characters of a name; among its
bytes it is found at the same place.
-/

namespace CsvCleaning.FileName

/-- An extension of a name, both as characters or both as bytes: a dot begins it, it has no other dot,
and something stands before it. -/
structure IsExtension {α : Type} (dot : α) (name extension : List α) : Prop where
  dotted : ∃ after, extension = dot :: after ∧ dot ∉ after
  behind : ∃ before, before ≠ [] ∧ name = before ++ extension

/-! ### The last dot -/

section LastDot

variable {name e : String} {before after : List Char}

/-- The last dot of a name begins its extension, unless it begins the name. -/
theorem extension?_of_last_dot (hname : name.toList = before ++ '.' :: after) (hafter : '.' ∉ after) :
    extension? name = if before = [] then none else some (String.ofList ('.' :: after)) := by
  have hpassed : ∀ c ∈ after.reverse, (c != '.') = true := fun c hc =>
    bne_iff_ne.mpr fun hdot => hafter (hdot ▸ List.mem_reverse.mp hc)
  have hreverse : name.toList.reverse = after.reverse ++ '.' :: before.reverse := by
    rw [hname, List.reverse_append, List.reverse_cons, List.append_assoc, List.singleton_append]
  have hdrop : name.toList.reverse.dropWhile (· != '.') = '.' :: before.reverse := by
    rw [hreverse, List.dropWhile_append_of_pos hpassed]
    rfl
  have htake : name.toList.reverse.takeWhile (· != '.') = after.reverse := by
    rw [hreverse, List.takeWhile_append_of_pos hpassed]
    exact List.append_nil _
  rw [extension?, hdrop, htake, List.reverse_reverse]
  rcases List.eq_nil_or_concat before with rfl | ⟨front, c, rfl⟩
  · rfl
  · simp

/-- A name without a dot has no extension. -/
theorem extension?_of_no_dot (h : '.' ∉ name.toList) : extension? name = none := by
  have hall : name.toList.reverse.dropWhile (· != '.') = [] :=
    List.dropWhile_eq_nil_iff.mpr fun c hc =>
      bne_iff_ne.mpr fun hdot => h (hdot ▸ List.mem_reverse.mp hc)
  rw [extension?, hall]

/-- What is found is an extension, and an extension is found if there is one. -/
theorem extension?_eq_some_iff :
    extension? name = some e ↔ IsExtension '.' name.toList e.toList := by
  constructor
  · intro h
    by_cases hdot : '.' ∈ name.toList
    · obtain ⟨before, after, hname, hafter⟩ := Text.exists_last_of_mem hdot
      rw [extension?_of_last_dot hname hafter] at h
      obtain ⟨hbefore, he⟩ := Option.ite_none_left_eq_some.mp h
      obtain rfl := Option.some.inj he
      refine ⟨⟨after, String.toList_ofList, hafter⟩, before, hbefore, ?_⟩
      rw [hname, String.toList_ofList]
    · rw [extension?_of_no_dot hdot] at h
      cases h
  · intro h
    obtain ⟨after, he, hafter⟩ := h.dotted
    obtain ⟨before, hbefore, hname⟩ := h.behind
    rw [he] at hname
    rw [extension?_of_last_dot hname hafter, if_neg hbefore, ← he, String.ofList_toList]

/-- A dot at the end begins an extension with nothing after it, and one in front begins none. -/
example : extension? "é.2024.csv" = some ".csv" ∧ extension? "a." = some "." ∧
    extension? ".csv" = none := by decide +kernel

/-- The bytes of a name and of its extension are a name and its extension again. -/
theorem isExtension_utf8_iff :
    IsExtension 0x2E (Bytes.utf8 name) (Bytes.utf8 e) ↔ IsExtension '.' name.toList e.toList := by
  have hbyte : '.'.toNat < 0x80 := by decide
  constructor
  · intro h
    obtain ⟨back, he, hback⟩ := h.dotted
    obtain ⟨front, hfront, hname⟩ := h.behind
    rw [he] at hname
    obtain ⟨before, after, hchars, rfl, rfl⟩ := (Bytes.ofChars_eq_append_cons_iff hbyte).mp hname
    have hextension : e.toList = '.' :: after :=
      Bytes.ofChars_injective (he.trans (Bytes.ofChars_cons hbyte after).symm)
    have hbefore : before ≠ [] := fun hnil => hfront (congrArg Bytes.ofChars hnil)
    exact ⟨⟨after, hextension, mt (Bytes.mem_ofChars_iff hbyte).mpr hback⟩, before, hbefore,
      by rw [hextension, hchars]⟩
  · intro h
    obtain ⟨after, he, hafter⟩ := h.dotted
    obtain ⟨before, hbefore, hname⟩ := h.behind
    have hfront : Bytes.ofChars before ≠ [] := fun hnil => hbefore (Bytes.ofChars_injective hnil)
    have hextension : Bytes.utf8 e = 0x2E :: Bytes.ofChars after := by
      rw [Bytes.utf8, he]
      exact Bytes.ofChars_cons hbyte after
    have hbytes : Bytes.utf8 name = Bytes.ofChars before ++ Bytes.utf8 e := by
      rw [Bytes.utf8, hname, Bytes.ofChars_append]
      rfl
    exact ⟨⟨_, hextension, mt (Bytes.mem_ofChars_iff hbyte).mp hafter⟩, _, hfront, hbytes⟩

end LastDot

/-! ### The marker -/

section Marker

variable {name : String}

/-- A name is put together of texts if it is of their characters. -/
theorem eq_append_of_toList {front : List Char} {marker : String}
    (h : name.toList = front ++ marker.toList) : name = String.ofList front ++ marker := by
  apply String.toList_inj.mp
  rw [String.toList_append, String.toList_ofList, h]

/-- A name is taken for that of a CSV file if the marker stands behind something, or behind nothing. -/
theorem isCsv_iff_exists : isCsv name = true ↔ ∃ front, name = front ++ ".csv" := by
  rw [isCsv_iff]
  constructor
  · intro h
    obtain ⟨front, hname⟩ := h
    exact ⟨String.ofList front, eq_append_of_toList hname.symm⟩
  · intro h
    obtain ⟨front, rfl⟩ := h
    rw [String.toList_append]
    exact List.suffix_append _ _

/-- The marker is taken off what it was put behind. -/
theorem stem_append (front : String) : stem (front ++ ".csv") = front := by
  have hcsv : isCsv (front ++ ".csv") = true := isCsv_iff_exists.mpr ⟨front, rfl⟩
  rw [stem, if_pos hcsv, String.toList_append, List.length_append]
  exact String.toList_inj.mp (by simp [csvEnding])

/-- The marker is the extension of every name that ends in it, but for the marker itself. -/
theorem isCsv_iff_extension? :
    isCsv name = true ↔ extension? name = some ".csv" ∨ name = ".csv" := by
  rw [extension?_eq_some_iff, isCsv_iff_exists]
  constructor
  · intro h
    obtain ⟨front, rfl⟩ := h
    by_cases hfront : front = ""
    · exact .inr (by rw [hfront, String.empty_append])
    · have hne : front.toList ≠ [] := mt String.toList_eq_nil_iff.mp hfront
      exact .inl ⟨⟨['c', 's', 'v'], rfl, by decide⟩, front.toList, hne, String.toList_append⟩
  · intro h
    rcases h with h | rfl
    · obtain ⟨before, -, hname⟩ := h.behind
      exact ⟨String.ofList before, eq_append_of_toList hname⟩
    · exact ⟨"", rfl⟩

/-- With the marker behind it the stem is the name exactly if the name ends in the marker. -/
theorem stem_append_eq_iff : stem name ++ ".csv" = name ↔ isCsv name = true := by
  rw [isCsv_iff_exists]
  constructor
  · exact fun h => ⟨stem name, h.symm⟩
  · intro h
    obtain ⟨front, rfl⟩ := h
    rw [stem_append]

/-- The stem is the name itself exactly if the name does not end in the marker. -/
theorem stem_eq_self_iff : stem name = name ↔ isCsv name = false := by
  refine ⟨fun h => ?_, stem_of_not_isCsv⟩
  rw [← Bool.not_eq_true]
  intro hcsv
  obtain ⟨front, rfl⟩ := isCsv_iff_exists.mp hcsv
  rw [stem_append] at h
  have hmarker : ".csv".toList = [] :=
    List.self_eq_append_right.mp ((congrArg String.toList h).trans String.toList_append)
  exact absurd hmarker (by decide)

end Marker

/-- The three readings of a name agree, whatever its characters. It is accepted exactly if its extension
is `.csv` or it is `.csv` itself; its stem with `.csv` behind it is the name exactly if it is accepted,
and the stem is the name itself exactly if it is not. The extension that is found is the one it has:
a dot begins it, it has no other dot, and the name is something and then the extension; and so it is
for the bytes of the two. -/
theorem readings_agree (name : String) :
    (checkCsv name = .ok () ↔ extension? name = some ".csv" ∨ name = ".csv") ∧
    (stem name ++ ".csv" = name ↔ checkCsv name = .ok ()) ∧
    (stem name = name ↔ checkCsv name ≠ .ok ()) ∧
    ∀ e, (extension? name = some e ↔ IsExtension '.' name.toList e.toList) ∧
      (extension? name = some e ↔ IsExtension 0x2E (Bytes.utf8 name) (Bytes.utf8 e)) := by
  rw [ne_eq, checkCsv_eq_ok_iff, Bool.not_eq_true]
  exact ⟨isCsv_iff_extension?, stem_append_eq_iff, stem_eq_self_iff, fun e =>
    ⟨extension?_eq_some_iff, extension?_eq_some_iff.trans isExtension_utf8_iff.symm⟩⟩

end CsvCleaning.FileName
