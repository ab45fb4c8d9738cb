import CsvCleaning.Proofs.Text.Reading
import CsvCleaning.Proofs.Url.Below
import CsvCleaning.Proofs.Url.Escapes

/-!
# Reading queries back

In a form-encoded name or value nothing stands for a separator, and plus signs and escapes are read as
the characters that they were written for. So a pair is read back from its query. A path holds no
question mark, so the query of a request target is all that follows the first one.
-/

namespace CsvCleaning

namespace Percent

/-- An escape is a percent sign with two upper-case digits. -/
theorem of_mem_escape {b : UInt8} {c : Char} (h : c ∈ escape b) :
    c = '%' ∨ ∃ n : Fin 16, c = Digits.upper n := by
  have hb : b.toNat < 256 := b.toNat_lt
  simp only [escape, List.mem_cons, List.not_mem_nil, or_false] at h
  rcases h with rfl | rfl | rfl
  · exact .inl rfl
  · exact .inr ⟨⟨b.toNat / 16, by omega⟩, rfl⟩
  · exact .inr ⟨⟨b.toNat % 16, by omega⟩, rfl⟩

/-- What is written is kept or belongs to an escape. -/
theorem of_mem_encode {keep : Char → Bool} {cs : List Char} {c : Char} (h : c ∈ encode keep cs) :
    keep c = true ∨ c = '%' ∨ ∃ n : Fin 16, c = Digits.upper n := by
  obtain ⟨a, -, hc⟩ := List.mem_flatMap.mp h
  split at hc
  · rename_i hkeep
    rw [List.mem_singleton.mp hc]
    exact .inl hkeep
  · obtain ⟨b, -, hb⟩ := List.mem_flatMap.mp hc
    exact .inr (of_mem_escape hb)

end Percent

namespace Form

/-- Digits are kept. -/
theorem isKept_upper (n : Fin 16) : isKept (Digits.upper n) = true := by
  revert n
  decide

/-- A character that is kept is none that is not. -/
theorem ne_of_isKept {a c : Char} (hc : isKept c = true) (ha : isKept a = false) : c ≠ a := by
  rintro rfl
  rw [hc] at ha
  cases ha

/-- What is written is kept, or it is a plus sign or a percent sign. -/
theorem of_mem_encode {cs : List Char} {c : Char} (h : c ∈ encode cs) :
    isKept c = true ∨ c = '+' ∨ c = '%' := by
  obtain ⟨a, -, hc⟩ := List.mem_flatMap.mp h
  rw [encodeChar] at hc
  split at hc
  · exact .inr (.inl (List.mem_singleton.mp hc))
  · rcases Percent.of_mem_encode hc with hkept | hpercent | ⟨n, rfl⟩
    · exact .inl hkept
    · exact .inr (.inr hpercent)
    · exact .inl (isKept_upper n)

/-- Nothing that is written stands for a separator. -/
theorem not_separator_of_mem_encode {cs : List Char} {c : Char} (h : c ∈ encode cs) :
    (c == '&') = false ∧ (c == '=') = false := by
  have hne : c ≠ '&' ∧ c ≠ '=' := by
    rcases of_mem_encode h with hkept | rfl | rfl
    · exact ⟨ne_of_isKept hkept (by decide), ne_of_isKept hkept (by decide)⟩
    · decide
    · decide
  exact ⟨beq_eq_false_iff_ne.mpr hne.1, beq_eq_false_iff_ne.mpr hne.2⟩

/-- One character is read back as its bytes. -/
theorem decode_encodeChar_append (c : Char) (rest : List Char) :
    decode (encodeChar c ++ rest) = String.utf8EncodeChar c ++ decode rest := by
  have hcons {a : Char} (hplus : a ≠ '+') (hpercent : a ≠ '%') :
      decode (a :: rest) = String.utf8EncodeChar a ++ decode rest := by
    rw [decode, List.map_cons, if_neg hplus, Percent.decode_cons_of_ne hpercent]
    rfl
  by_cases hspace : c = ' '
  · rw [encodeChar, if_pos hspace, hspace, List.singleton_append, decode, List.map_cons, if_pos rfl,
      Percent.decode_cons_of_ne (by decide)]
    rfl
  · rw [encodeChar, if_neg hspace]
    cases hkept : isKept c with
    | true =>
      rw [Percent.encode_cons_of_keep hkept]
      exact hcons (ne_of_isKept hkept (by decide)) (ne_of_isKept hkept (by decide))
    | false =>
      rw [Percent.encode_cons_of_not_keep hkept, Percent.encode, List.flatMap_nil, List.append_nil,
        decode, List.map_append]
      have hescapes : ((String.utf8EncodeChar c).flatMap Percent.escape).map
          (fun a => if a = '+' then ' ' else a) = (String.utf8EncodeChar c).flatMap Percent.escape := by
        refine (List.map_congr_left fun a ha => if_neg ?_).trans (List.map_id' _)
        obtain ⟨b, -, hb⟩ := List.mem_flatMap.mp ha
        rcases Percent.of_mem_escape hb with rfl | ⟨n, rfl⟩
        · decide
        · exact ne_of_isKept (isKept_upper n) (by decide)
      rw [hescapes, Percent.decode_flatMap_escape]
      rfl

/-- A name or value is read back as its bytes. -/
theorem decode_encode (cs : List Char) : decode (encode cs) = Bytes.ofChars cs := by
  induction cs with
  | nil => rfl
  | cons c rest ih =>
    rw [encode, List.flatMap_cons, decode_encodeChar_append, ← encode, ih]
    rfl

/-- A name with its value is read back. -/
theorem readPair_writePair (name value : String) : readPair (writePair name value) = (name, value) := by
  have hcut : Text.cutAt (· == '=') (writePair name value) =
      (encode name.toList, some (encode value.toList)) :=
    Text.cutAt_append_cons _ (fun c hc => (not_separator_of_mem_encode hc).2) (by decide)
  rw [readPair, hcut]
  dsimp only
  rw [Option.getD_some, decode_encode, decode_encode]
  exact Prod.ext (Bytes.readUtf8Lossy_utf8 name) (Bytes.readUtf8Lossy_utf8 value)

/-- A query of one pair is read back. -/
theorem read_writePair (name value : String) :
    read (String.ofList (writePair name value)) = [(name, value)] := by
  have hsingle : Text.splitWhere (· == '&') (writePair name value) = [writePair name value] := by
    refine Text.splitWhere_of_all fun c hc => ?_
    rcases List.mem_append.mp hc with hc | hc
    · exact (not_separator_of_mem_encode hc).1
    · rcases List.mem_cons.mp hc with rfl | hc
      · rfl
      · exact (not_separator_of_mem_encode hc).1
  rw [read, String.toList_ofList, hsingle, List.filter_cons_of_pos (by simp [writePair]),
    List.filter_nil, List.map_singleton, readPair_writePair]

/-- The pairs that are read off the target of a request, from the first question mark on. -/
def ofTarget? (target : String) : Option (List (String × String)) :=
  (Text.cutAt (· == '?') target.toList).2.map fun query => read (String.ofList query)

end Form

namespace Segments

/-- What is left of segments was among them or passed before, or it is empty. -/
theorem mem_follow {passed segments : List (List Char)} {segment : List Char}
    (h : segment ∈ follow passed segments) :
    segment ∈ passed ∨ segment ∈ segments ∨ segment = [] := by
  induction segments generalizing passed with
  | nil => exact .inl (by simpa [follow] using h)
  | cons first rest ih =>
    cases rest with
    | nil =>
      rw [follow] at h
      split at h
      · rcases List.mem_cons.mp (List.mem_reverse.mp h) with hnil | hpassed
        · exact .inr (.inr hnil)
        · exact .inl (List.mem_of_mem_tail hpassed)
      · split at h
        · rcases List.mem_cons.mp (List.mem_reverse.mp h) with hnil | hpassed
          · exact .inr (.inr hnil)
          · exact .inl hpassed
        · rcases List.mem_cons.mp (List.mem_reverse.mp h) with rfl | hpassed
          · exact .inr (.inl List.mem_cons_self)
          · exact .inl hpassed
    | cons next more =>
      rw [follow] at h
      · split at h
        · rcases ih h with hpassed | hlater | hnil
          · exact .inl (List.mem_of_mem_tail hpassed)
          · exact .inr (.inl (List.mem_cons_of_mem _ hlater))
          · exact .inr (.inr hnil)
        · split at h
          · exact (ih h).imp_right (Or.imp_left (List.mem_cons_of_mem _))
          · rcases ih h with hpassed | hlater | hnil
            · rcases List.mem_cons.mp hpassed with rfl | hpassed
              · exact .inr (.inl List.mem_cons_self)
              · exact .inl hpassed
            · exact .inr (.inl (List.mem_cons_of_mem _ hlater))
            · exact .inr (.inr hnil)
      · simp

end Segments

namespace Url

/-- What stays of an address is a stretch of it. -/
theorem clean_sublist (cs : List Char) : (clean cs).Sublist cs := by
  change ((cs.dropWhile isMargin).rdropWhile isMargin |>.filter (!isDropped ·)).Sublist cs
  exact List.filter_sublist.trans
    ((List.rdropWhile_prefix isMargin _).sublist.trans (List.dropWhile_sublist _))

/-- An address is put together of a scheme, a host with a port, and the end of its text. -/
theorem exists_finish_of_ofText? {text : String} {u : Url} (h : ofText? text = some u) :
    ∃ scheme place cs, u = finish scheme place cs ∧ cs.Sublist text.toList := by
  unfold ofText? at h
  split at h
  · rename_i name rest hcut
    obtain ⟨scheme, -, hread⟩ := Option.bind_eq_some_iff.mp h
    rw [readAfterScheme?_eq] at hread
    obtain ⟨place, -, rfl⟩ := Option.map_eq_some_iff.mp hread
    exact ⟨scheme, place, _, rfl, (List.dropWhile_sublist _).trans ((List.dropWhile_sublist _).trans
      ((Text.sublist_of_cutAt hcut).trans (clean_sublist _)))⟩
  · cases h

/-- An address without marks has no query. -/
theorem query_eq_none_of_ofText? {text : String} {u : Url} (hmarks : ∀ c ∈ text.toList, c ≠ '?' ∧ c ≠ '#')
    (h : ofText? text = some u) : u.query = none := by
  obtain ⟨scheme, place, cs, rfl, hcs⟩ := exists_finish_of_ofText? h
  rw [finish, cutMarks_of_all fun c hc => hmarks c (hcs.subset hc)]
  rfl

/-- There is no question mark in a path. -/
theorem not_mem_pathText_of_ofText? {text : String} {u : Url} (h : ofText? text = some u) :
    '?' ∉ u.pathText.toList := by
  obtain ⟨scheme, place, cs, rfl, -⟩ := exists_finish_of_ofText? h
  have hsegments : ∀ segment ∈ (finish scheme place cs).path.map String.toList, '?' ∉ segment := by
    intro segment hsegment hmark
    rw [finish, readPath, List.map_map, List.mem_map] at hsegment
    obtain ⟨kept, hkept, rfl⟩ := hsegment
    rw [Function.comp_apply, String.toList_ofList] at hmark
    rcases Segments.mem_follow hkept with hpassed | hmem | rfl
    · cases hpassed
    · obtain ⟨part, -, rfl⟩ := List.mem_map.mp hmem
      rcases Percent.of_mem_encode hmark with hkeep | hpercent | ⟨n, hn⟩
      · exact absurd hkeep (by decide)
      · exact absurd hpercent (by decide)
      · revert n
        decide
    · cases hmark
  rw [pathText, String.toList_append, String.toList_intercalate, List.mem_append]
  rintro (hslash | hpath)
  · exact absurd hslash (by decide)
  · rcases Text.of_mem_intercalate hpath with hslash | ⟨segment, hsegment, hmark⟩
    · exact absurd hslash (by decide)
    · exact hsegments segment hsegment hmark

end Url

end CsvCleaning
