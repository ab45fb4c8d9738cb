import CsvCleaning.Proofs.Json.Parsing
import CsvCleaning.Proofs.Json.Parts

/-!
# Bodies that are objects

A body is an object of members if these are what is parsed from it and nothing but space follows. The
members are whole then, since a document in which a part breaks off has nothing behind it. The text of an
object is such a body.
-/

namespace CsvCleaning.Json

/-! ### What is read to its end -/

/-- If something follows, the document before it is whole. -/
def Reading.IsWhole (r : Reading) : Prop :=
  ∀ rest, r.rest = some rest → r.doc.IsWhole

/-- If something follows, the items before it are whole and none breaks off behind them. -/
def Items.IsWhole (r : Items) : Prop :=
  ∀ rest, r.rest = some rest → r.stop = none ∧ ∀ d ∈ r.items, d.IsWhole

/-- If something follows, the members before it are whole and none breaks off behind them. -/
def Members.IsWhole (r : Members) : Prop :=
  ∀ rest, r.rest = some rest → r.stop = none ∧ ∀ e ∈ r.members, e.2.IsWhole

/-- Nothing is to be shown of a reading that stops. -/
theorem Reading.isWhole_of_stopped {r : Reading} (h : r.rest = none) : r.IsWhole := by
  intro rest hrest
  cases h.symm.trans hrest

/-- Nor of items behind which reading stops. -/
theorem Items.isWhole_of_stopped {r : Items} (h : r.rest = none) : r.IsWhole := by
  intro rest hrest
  cases h.symm.trans hrest

/-- Nor of members behind which reading stops. -/
theorem Members.isWhole_of_stopped {r : Members} (h : r.rest = none) : r.IsWhole := by
  intro rest hrest
  cases h.symm.trans hrest

/-- A word is whole if it is read to its end. -/
theorem isWhole_readWord {d : Doc} (hd : d.IsWhole) (word : List UInt8) (bs : Bytes) :
    (readWord d word bs).IsWhole := by
  induction word generalizing bs with
  | nil => exact fun _ _ => hd
  | cons w word ih =>
    cases bs with
    | nil => exact Reading.isWhole_of_stopped rfl
    | cons b rest =>
      rw [readWord]
      split
      · exact ih rest
      · exact Reading.isWhole_of_stopped rfl

/-- So is a number. -/
theorem isWhole_readNumber (bs : Bytes) : (readNumber bs).IsWhole := by
  rw [readNumber]
  split
  · exact fun _ _ => .number _
  · exact Reading.isWhole_of_stopped rfl

/-- An array is whole if its items are, and so is what follows them. -/
theorem Items.IsWhole.array {r : Items} (h : r.IsWhole) (tooDeep : Bool) :
    (⟨.array tooDeep r.items r.stop, r.rest⟩ : Reading).IsWhole := by
  intro rest hrest
  obtain ⟨hstop, hitems⟩ := h rest hrest
  change (Doc.array tooDeep r.items r.stop).IsWhole
  rw [hstop]
  exact .array hitems

/-- An object is whole if its members are. -/
theorem Members.IsWhole.object {r : Members} (h : r.IsWhole) (tooDeep : Bool) :
    (⟨.object tooDeep r.members r.stop, r.rest⟩ : Reading).IsWhole := by
  intro rest hrest
  obtain ⟨hstop, hmembers⟩ := h rest hrest
  change (Doc.object tooDeep r.members r.stop).IsWhole
  rw [hstop]
  exact .object hmembers

/-- A value that is read to its end is whole. -/
theorem isWhole_read (fuel : Nat) :
    (∀ depth bs, (readValue fuel depth bs).IsWhole) ∧ (∀ depth bs, (readItems fuel depth bs).IsWhole) ∧
      ∀ depth bs, (readMembers fuel depth bs).IsWhole := by
  induction fuel with
  | zero => exact ⟨fun _ _ => Reading.isWhole_of_stopped rfl, fun _ _ => Items.isWhole_of_stopped rfl,
      fun _ _ => Members.isWhole_of_stopped rfl⟩
  | succ fuel ih =>
    obtain ⟨hvalue, hitems, hmembers⟩ := ih
    refine ⟨fun depth bs => ?_, fun depth bs => ?_, fun depth bs => ?_⟩
    · rw [readValue]
      split
      · exact Reading.isWhole_of_stopped rfl
      · split_ifs
        · split
          · exact Reading.isWhole_of_stopped rfl
          · split
            · exact fun _ _ => .array (List.forall_mem_nil _)
            · exact (hitems _ _).array _
        · split
          · exact Reading.isWhole_of_stopped rfl
          · split_ifs
            · exact fun _ _ => .object (List.forall_mem_nil _)
            · exact (hmembers _ _).object _
            · exact Reading.isWhole_of_stopped rfl
        · split
          · exact fun _ _ => .text _
          · exact Reading.isWhole_of_stopped rfl
        · exact isWhole_readNumber _
        · exact isWhole_readWord .null _ _
        · exact isWhole_readWord (.bool true) _ _
        · exact isWhole_readWord (.bool false) _ _
        · exact Reading.isWhole_of_stopped rfl
    · have hfirst := hvalue depth bs
      rw [readItems]
      dsimp only
      split
      · exact Items.isWhole_of_stopped rfl
      · rename_i hrest
        have hwhole := hfirst _ hrest
        split
        · exact Items.isWhole_of_stopped rfl
        · split_ifs
          · exact fun _ _ => ⟨rfl, List.forall_mem_singleton.mpr hwhole⟩
          · split
            · exact Items.isWhole_of_stopped rfl
            · intro rest hmore
              obtain ⟨hstop, hrest⟩ := hitems _ _ rest hmore
              exact ⟨hstop, List.forall_mem_cons.mpr ⟨hwhole, hrest⟩⟩
          · exact Items.isWhole_of_stopped rfl
    · rw [readMembers]
      split
      · exact Members.isWhole_of_stopped rfl
      · split
        · exact Members.isWhole_of_stopped rfl
        · split_ifs
          · dsimp only
            split
            · exact Members.isWhole_of_stopped rfl
            · rename_i hrest
              have hwhole := hvalue _ _ _ hrest
              split
              · exact Members.isWhole_of_stopped rfl
              · split_ifs
                · exact fun _ _ => ⟨rfl, List.forall_mem_singleton.mpr hwhole⟩
                · split
                  · exact Members.isWhole_of_stopped rfl
                  · split_ifs
                    · intro rest hmore
                      obtain ⟨hstop, hrest⟩ := hmembers _ _ rest hmore
                      exact ⟨hstop, List.forall_mem_cons.mpr ⟨hwhole, hrest⟩⟩
                    · exact Members.isWhole_of_stopped rfl
                    · exact Members.isWhole_of_stopped rfl
                · exact Members.isWhole_of_stopped rfl
          · exact Members.isWhole_of_stopped rfl

/-! ### Objects -/

/-- A body is an object of members, with nothing but space behind it. -/
def IsObjectOf (members : List (Except Fault String × Doc)) (bs : Bytes) : Prop :=
  ∃ rest, readDocument bs = ⟨.object false members none, some rest⟩ ∧ rest.dropWhile isSpace = []

variable {α : Type} {members : List (Except Fault String × Doc)} {bs : Bytes}

/-- A body that is an object is read as its document. -/
theorem IsObjectOf.decodeBody_eq (h : IsObjectOf members bs) (decode : Doc → Except Fault α) :
    decodeBody decode bs = decode (.object false members none) := by
  obtain ⟨rest, hread, hspace⟩ := h
  rw [decodeBody, hread]
  dsimp only
  cases decode (.object false members none) with
  | error f => rfl
  | ok a => rw [Option.getD_some, hspace]

/-- The members of a body that is an object are whole. -/
theorem IsObjectOf.isWhole (h : IsObjectOf members bs) : ∀ e ∈ members, e.2.IsWhole := by
  obtain ⟨rest, hread, -⟩ := h
  have hwhole := (isWhole_read (2 * bs.length + 2)).1 0 bs
  rw [← readDocument, hread] at hwhole
  cases hwhole rest rfl with
  | object hmembers => exact hmembers

/-- A printed value is read up to its end. -/
theorem readDocument_print {v : Json} (hv : v.HasProperNumbers) :
    readDocument (Bytes.utf8 v.print) = ⟨Doc.reread 0 v, some []⟩ := by
  have hread := isReread hv 0 (2 * (Bytes.utf8 v.print).length + 2) [] (Nat.le_add_right _ _) endsNumber_nil
  rwa [List.append_nil] at hread

/-- A body that is a printed value is read as its document. -/
theorem decodeBody_print {v : Json} (hv : v.HasProperNumbers) (decode : Doc → Except Fault α) :
    decodeBody decode (Bytes.utf8 v.print) = decode (Doc.reread 0 v) := by
  rw [decodeBody, readDocument_print hv]
  cases decode (Doc.reread 0 v) <;> rfl

end CsvCleaning.Json
