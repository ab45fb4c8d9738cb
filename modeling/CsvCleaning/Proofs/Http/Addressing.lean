import CsvCleaning.Proofs.Http.Outcomes
import CsvCleaning.Proofs.Url.Below
import CsvCleaning.Proofs.Url.Escapes

/-!
# What file ids address

What the service keeps of a file is looked up under an address whose path ends with the file id. The
id is put there as it is, and the address is then read with all that is cleaned, parted and followed
in it. So an id is a segment of its own exactly if nothing in it means something in an address, and
such ids never share an address; others may be parts of the path, end it, or lead out of it.
-/

namespace CsvCleaning

/-- Nothing in a file id means something in the path of an address. -/
structure FileId.Addressable (fileId : String) : Prop where
  /-- No character parts the path or ends it. -/
  marks : ∀ c ∈ fileId.toList, Segments.isSlash c = false ∧ c ≠ '?' ∧ c ≠ '#'
  /-- No character is dropped wherever it stands. -/
  kept : ∀ c ∈ fileId.toList, Url.isDropped c = false
  /-- No character is dropped at the end. -/
  ends : ∀ c ∈ fileId.toList.getLast?, Url.isMargin c = false
  dots : fileId ≠ "." ∧ fileId ≠ ".."
  escapes : Percent.hasEscape fileId.toList = false

/-- Whether a file id is a segment of its own can be decided. -/
instance (fileId : String) : Decidable (FileId.Addressable fileId) :=
  decidable_of_iff
    ((fileId.toList.all fun c => !Segments.isSlash c && (c != '?' && c != '#')) ∧
      (fileId.toList.all fun c => !Url.isDropped c) ∧
      (fileId.toList.getLast?.all fun c => !Url.isMargin c) ∧
      (fileId ≠ "." ∧ fileId ≠ "..") ∧ Percent.hasEscape fileId.toList = false) <| by
    simp only [List.all_eq_true, Option.all_eq_true, Bool.and_eq_true, Bool.not_eq_eq_eq_not,
      Bool.not_true, bne_iff_ne]
    exact ⟨fun ⟨marks, kept, ends, dots, escapes⟩ => ⟨marks, kept, ends, dots, escapes⟩,
      fun h => ⟨h.marks, h.kept, h.ends, h.dots, h.escapes⟩⟩

/-- The calls that look something up under a file id. -/
inductive Lookup where
  | status
  | result
  | script
  | download
deriving DecidableEq, Repr

namespace Lookup

/-- The call that looks a file id up. -/
def call : Lookup → String → Call
  | status => .status
  | result => .result
  | script => .script
  | download => .download

/-- The segment of the path in front of the file id. -/
def name : Lookup → String
  | status => "status"
  | result => "result"
  | script => "script"
  | download => "download"

/-- Look-ups with the same segment are the same. -/
theorem name_injective : Function.Injective name := by
  intro a b h
  cases a <;> cases b <;> first | rfl | exact absurd h (by decide)

/-- There is no slash in the segment. -/
theorem slash_not_mem_name (l : Lookup) : '/' ∉ l.name.toList := by
  cases l <;> decide

/-- The file id of the call is the one that is looked up. -/
theorem fileId?_call (l : Lookup) (fileId : String) : (l.call fileId).fileId? = some fileId := by
  cases l <;> rfl

/-- The file id ends the path of a look-up, as it is. -/
theorem endpoint_call (l : Lookup) (fileId : String) :
    Client.endpoint (l.call fileId) = "/" ++ ("api/v1/" ++ l.name ++ "/" ++ fileId) := by
  rw [← String.append_assoc]
  cases l with
  | status => exact congrArg (· ++ fileId) (by decide : "/api/v1/status/" = _)
  | result => exact congrArg (· ++ fileId) (by decide : "/api/v1/result/" = _)
  | script => exact congrArg (· ++ fileId) (by decide : "/api/v1/script/" = _)
  | download => exact congrArg (· ++ fileId) (by decide : "/api/v1/download/" = _)

/-- An address is that of a file id: below the segments of the base it has those of the look-up and
one more, which reads as the file id, and it has no query. -/
def Addresses (l : Lookup) (root : List String) (fileId : String) (url : Url) : Prop :=
  (∃ segment, url.path = root ++ ["api", "v1", l.name, segment] ∧
    Percent.decode segment.toList = Bytes.utf8 fileId) ∧ url.query = none

end Lookup

namespace Segments

/-- A segment without a dot at its front is read with it. -/
theorem decode_of_dropDot? {segment rest : List Char} (h : dropDot? segment = some rest) :
    Percent.decode segment = 0x2E :: Percent.decode rest := by
  unfold dropDot? at h
  split at h
  · obtain rfl := Option.some.inj h
    exact Percent.decode_cons_of_ne (by decide) _
  · obtain rfl := Option.some.inj h
    exact Percent.decode_percent_of_byte? (by decide) _
  · obtain rfl := Option.some.inj h
    exact Percent.decode_percent_of_byte? (by decide) _
  · cases h

/-- A segment that is a single dot reads as one. -/
theorem decode_of_isHere {segment : List Char} (h : isHere segment = true) :
    Percent.decode segment = Bytes.utf8 "." := by
  rw [decode_of_dropDot? (beq_iff_eq.mp h)]
  decide +kernel

/-- A segment that is two dots reads as two. -/
theorem decode_of_isUp {segment : List Char} (h : isUp segment = true) :
    Percent.decode segment = Bytes.utf8 ".." := by
  obtain ⟨rest, hfirst, hsecond⟩ := Option.bind_eq_some_iff.mp (beq_iff_eq.mp h)
  rw [decode_of_dropDot? hfirst, decode_of_dropDot? hsecond]
  decide +kernel

/-- What is left of segments ends in the last one, unless it is a dot or two. -/
theorem getLast?_follow (passed : List (List Char)) {segments : List (List Char)} {last : List Char}
    (hlast : segments.getLast? = some last) :
    (follow passed segments).getLast? = some [] ∨
      (follow passed segments).getLast? = some last ∧ isUp last = false ∧ isHere last = false := by
  obtain ⟨before, rfl⟩ := List.getLast?_eq_some_iff.mp hlast
  rw [follow_append passed before (List.cons_ne_nil last []), follow]
  cases hup : isUp last with
  | true => exact .inl (by simp)
  | false =>
    cases hhere : isHere last with
    | true => exact .inl (by simp)
    | false => exact .inr ⟨by simp, rfl, rfl⟩

end Segments

namespace Url

/-- Percent signs and digits are kept in a path. -/
theorem keptInPath_of_isSome_value? {c : Char} (h : (Digits.value? c.toNat).isSome) :
    keptInPath c = true := by
  have hrange : (0x30 ≤ c.toNat ∧ c.toNat ≤ 0x39) ∨ (0x41 ≤ c.toNat ∧ c.toNat ≤ 0x46) ∨
      (0x61 ≤ c.toNat ∧ c.toNat ≤ 0x66) := by
    by_contra hout
    rw [Digits.value?, if_neg (by omega), if_neg (by omega), if_neg (by omega)] at h
    cases h
  have hne (x : Char) (hx : ¬ ((0x30 ≤ x.toNat ∧ x.toNat ≤ 0x39) ∨ (0x41 ≤ x.toNat ∧ x.toNat ≤ 0x46) ∨
      (0x61 ≤ x.toNat ∧ x.toNat ≤ 0x66))) : c ≠ x := fun hc => hx (hc ▸ hrange)
  simp [keptInPath, keptInFragment, hne '\"' (by decide), hne '<' (by decide), hne '>' (by decide),
    hne '#' (by decide), hne '?' (by decide), hne '\x7b' (by decide), hne '\x7d' (by decide)]
  omega

/-- A segment that is written in a path is read as the text itself. -/
theorem decode_encode_keptInPath (cs : List Char) :
    Percent.decode (Percent.encode keptInPath cs) = Percent.decode cs :=
  Percent.decode_encode (by decide) (fun _ => keptInPath_of_isSome_value?) cs

/-- What is written below a base in place of an id that means nothing in a path is the id itself, as
the last segment. -/
theorem path_below_of_addressable (home : Url) (passed : List (List Char)) {fileId : String}
    (h : FileId.Addressable fileId) :
    (home.below passed (cleanEnd fileId.toList)).path = passed.reverse.map String.ofList ++
        [String.ofList (Percent.encode keptInPath fileId.toList)] ∧
      (home.below passed (cleanEnd fileId.toList)).query = none ∧
      Percent.decode (Percent.encode keptInPath fileId.toList) = Bytes.utf8 fileId := by
  have hdecode : Percent.decode (Percent.encode keptInPath fileId.toList) = Bytes.utf8 fileId := by
    rw [decode_encode_keptInPath, Percent.decode_of_not_hasEscape h.escapes]
    rfl
  have hhere : Segments.isHere (Percent.encode keptInPath fileId.toList) = false := by
    refine Bool.eq_false_iff.mpr fun hdot => h.dots.1 (Bytes.utf8_injective ?_)
    rw [← hdecode, Segments.decode_of_isHere hdot]
  have hup : Segments.isUp (Percent.encode keptInPath fileId.toList) = false := by
    refine Bool.eq_false_iff.mpr fun hdots => h.dots.2 (Bytes.utf8_injective ?_)
    rw [← hdecode, Segments.decode_of_isUp hdots]
  have hmarks : cutMarks fileId.toList = (fileId.toList, none, none) :=
    cutMarks_of_all fun c hc => (h.marks c hc).2
  refine ⟨?_, ?_, hdecode⟩
  · rw [below, cleanEnd_eq_self_iff.mpr ⟨h.kept, h.ends⟩, hmarks,
      Text.splitWhere_of_all fun c hc => (h.marks c hc).1]
    simp [Segments.follow, hup, hhere]
  · rw [below, cleanEnd_eq_self_iff.mpr ⟨h.kept, h.ends⟩, hmarks]
    rfl

/-- The last part of a path is a stretch of the text that is read, without anything that parts the
path or ends it. -/
theorem last_part {cs last : List Char}
    (h : (Text.splitWhere Segments.isSlash (cutMarks cs).1).getLast? = some last) :
    last.Sublist cs ∧ ∀ c ∈ last, Segments.isSlash c = false ∧ c ≠ '?' ∧ c ≠ '#' := by
  have hmem := List.mem_of_getLast? h
  have hbefore := Text.cutAt_fst (· == '#') cs
  have hpath := Text.cutAt_fst (· == '?') (Text.cutAt (· == '#') cs).1
  have hstretch : last.Sublist (Text.cutAt (· == '?') (Text.cutAt (· == '#') cs).1).1 :=
    Text.sublist_of_mem_splitWhere hmem
  refine ⟨(hstretch.trans hpath.2.sublist).trans hbefore.2.sublist, fun c hc => ⟨?_, ?_, ?_⟩⟩
  · exact Text.not_isSeparator_of_mem_splitWhere hmem hc
  · exact beq_eq_false_iff_ne.mp (hpath.1 c (hstretch.subset hc))
  · exact beq_eq_false_iff_ne.mp (hbefore.1 c (hpath.2.subset (hstretch.subset hc)))

/-- If the last segment below a base reads as the id that was put there, the id means nothing in a
path. -/
theorem addressable_of_getLast?_path (home : Url) (passed : List (List Char)) {fileId segment : String}
    (hempty : fileId ≠ "")
    (hlast : (home.below passed (cleanEnd fileId.toList)).path.getLast? = some segment)
    (hsegment : Percent.decode segment.toList = Bytes.utf8 fileId) : FileId.Addressable fileId := by
  obtain ⟨last, hpart⟩ : ∃ last,
      (Text.splitWhere Segments.isSlash (cutMarks (cleanEnd fileId.toList)).1).getLast? = some last :=
    Option.ne_none_iff_exists'.mp (by simpa using Text.splitWhere_ne_nil _ _)
  obtain ⟨hstretch, hmarks⟩ := last_part hpart
  rw [below, List.getLast?_map, Option.map_eq_some_iff] at hlast
  obtain ⟨kept, hkept, rfl⟩ := hlast
  rw [String.toList_ofList] at hsegment
  have hencoded : ((Text.splitWhere Segments.isSlash (cutMarks (cleanEnd fileId.toList)).1).map
      (Percent.encode keptInPath)).getLast? = some (Percent.encode keptInPath last) := by
    rw [List.getLast?_map, hpart]
    rfl
  rcases Segments.getLast?_follow passed hencoded with hnone | ⟨hsome, hup, hhere⟩
  · -- An empty segment reads as the empty text.
    obtain rfl := Option.some.inj (hkept.symm.trans hnone)
    exact absurd (Bytes.utf8_injective (hsegment.symm.trans Bytes.utf8_empty.symm)) hempty
  · obtain rfl := Option.some.inj (hkept.symm.trans hsome)
    rw [decode_encode_keptInPath] at hsegment
    -- What is read is no longer than the last part, which is a stretch of the id: they are the same.
    have hlengths := Percent.length_decode_le last
    rw [hsegment] at hlengths
    have hsame : last = fileId.toList :=
      Bytes.eq_of_sublist (hstretch.trans (sublist_cleanEnd _)) hlengths.1
    subst hsame
    have hcleaned : cleanEnd fileId.toList = fileId.toList :=
      (sublist_cleanEnd _).antisymm hstretch
    obtain ⟨hkeptAll, hends⟩ := cleanEnd_eq_self_iff.mp hcleaned
    refine ⟨hmarks, hkeptAll, hends, ⟨?_, ?_⟩, ?_⟩
    · rintro rfl
      exact absurd hhere (by decide)
    · rintro rfl
      exact absurd hup (by decide)
    · exact Bool.eq_false_iff.mpr fun hescape => Nat.lt_irrefl _ (hlengths.2 hescape)

end Url

namespace Lookup

/-- What comes between the slash of the base and that of the file id. -/
def front (l : Lookup) : List Char :=
  ("api/v1/" ++ l.name).toList

/-- Nothing of it is dropped, and nothing ends a path. -/
theorem front_plain (l : Lookup) :
    l.front.filter (!Url.isDropped ·) = l.front ∧ ∀ c ∈ l.front, c ≠ '?' ∧ c ≠ '#' := by
  have hmarks : (l.front.all fun c => c != '?' && c != '#') = true := by
    cases l <;> decide +kernel
  exact ⟨by cases l <;> decide +kernel, by simpa using hmarks⟩

/-- Its segments are passed as they are. -/
theorem walk_front (l : Lookup) (passed : List (List Char)) :
    Segments.walk passed
        ((Text.splitWhere Segments.isSlash l.front).map (Percent.encode Url.keptInPath)) =
      l.name.toList :: "v1".toList :: "api".toList :: passed := by
  have hsegments : (Text.splitWhere Segments.isSlash l.front).map (Percent.encode Url.keptInPath) =
      ["api".toList, "v1".toList, l.name.toList] := by
    cases l <;> decide +kernel
  have hplain : ∀ s ∈ ["api".toList, "v1".toList, l.name.toList],
      Segments.isUp s = false ∧ Segments.isHere s = false := by
    cases l <;> decide +kernel
  simp only [List.forall_mem_cons] at hplain
  obtain ⟨⟨hup, hhere⟩, ⟨hup', hhere'⟩, ⟨hup'', hhere''⟩, -⟩ := hplain
  rw [hsegments]
  simp only [Segments.walk, hup, hhere, hup', hhere', hup'', hhere'', Bool.false_eq_true, if_false]

section Requests

variable {client : Client} {home : Url}

/-- The address of a look-up is the one that is read, unless this is too long. -/
theorem address_call {fileId : String} {l : Lookup} {url : Url}
    (hread : Url.ofText? (client.base ++ Client.endpoint (l.call fileId)) = some url) :
    client.address (l.call fileId) =
      if url.isSendable then .ok url else .error (Client.unsendable url) := by
  rw [Client.address, hread]
  cases l <;> rfl

/-- A look-up is sent there. -/
theorem request_call {fileId : String} (hblank : Text.allBlank fileId = false) {l : Lookup} {url : Url}
    (hread : Url.ofText? (client.base ++ Client.endpoint (l.call fileId)) = some url)
    (boundary : String) (tree : FileTree) (cwd : Location) :
    client.request boundary tree cwd (l.call fileId) =
      if url.isSendable then .ok ⟨.get, url, none⟩ else .error (Client.unsendable url) := by
  have hmethod : Client.method (l.call fileId) = .get := by
    cases l <;> rfl
  rw [Client.request_of_fileId (l.fileId?_call fileId) hblank, address_call hread, hmethod]
  split <;> rfl

/-- A look-up that is sent is sent to the address that is read. -/
theorem url_of_request {fileId : String} {l : Lookup} {url : Url}
    (hread : Url.ofText? (client.base ++ Client.endpoint (l.call fileId)) = some url)
    {boundary : String} {tree : FileTree} {cwd : Location} {r : Request}
    (h : client.request boundary tree cwd (l.call fileId) = .ok r) : r.url = url := by
  have haddress := Client.address_of_request (l.fileId?_call fileId) h
  rw [address_call hread] at haddress
  split at haddress
  · exact (Except.ok.inj haddress).symm
  · cases haddress

/-- Let a base without marks be an address with a slash at its end. The address of a look-up is
then read below the segments of the base and those of the look-up. -/
theorem exists_root (hmarks : ∀ c ∈ client.base.toList, c ≠ '?' ∧ c ≠ '#')
    (hhome : Url.ofText? (client.base ++ "/") = some home) :
    ∃ passed : List (List Char), home.path = passed.reverse.map String.ofList ++ [""] ∧
      ∀ (l : Lookup) (fileId : String),
        Url.ofText? (client.base ++ Client.endpoint (l.call fileId)) =
          some (home.below (l.name.toList :: "v1".toList :: "api".toList :: passed)
            (Url.cleanEnd fileId.toList)) := by
  obtain ⟨passed, hbelow⟩ := Url.exists_ofText?_eq_below hmarks hhome
  refine ⟨passed, ?_, fun l fileId => ?_⟩
  · have hself := hbelow ""
    rw [String.append_empty, hhome] at hself
    exact (congrArg Url.path (Option.some.inj hself)).trans (Url.path_below_nil home passed)
  · have htext : ("api/v1/" ++ l.name ++ "/" ++ fileId).toList = l.front ++ '/' :: fileId.toList := by
      rw [String.toList_append, String.toList_append, List.append_assoc]
      rfl
    obtain ⟨hkept, hplain⟩ := l.front_plain
    rw [endpoint_call, ← String.append_assoc, hbelow, htext,
      Url.cleanEnd_append_cons (by decide) (by decide), hkept, Url.below_append_slash _ _ hplain,
      walk_front]

/-- The request line of a file id of its own tells the look-up and the file id apart. -/
theorem target_of_addresses {l : Lookup} {root : List String} {fileId : String} {url : Url}
    (h : l.Addresses root fileId url) :
    ∃ segment : String, Percent.decode segment.toList = Bytes.utf8 fileId ∧
      url.target.toList = ("/" ++ ("/".intercalate (root ++ ["api", "v1"]) ++ "/")).toList ++
        (l.name.toList ++ '/' :: segment.toList) := by
  obtain ⟨⟨segment, hpath, hdecode⟩, hquery⟩ := h
  refine ⟨segment, hdecode, ?_⟩
  have hsplit : root ++ ["api", "v1", l.name, segment] =
      (root ++ ["api", "v1"]) ++ [l.name, segment] := by simp
  rw [Url.target, hquery, Url.pathText, hpath, hsplit,
    String.intercalate_append_of_ne_nil (by simp) (by simp), String.intercalate_cons_cons,
    String.intercalate_singleton]
  simp

/-- File ids of their own that are looked up at the same target are the same, and so are the
look-ups. -/
theorem eq_of_target_eq {l l' : Lookup} {root : List String} {fileId fileId' : String} {url url' : Url}
    (h : l.Addresses root fileId url) (h' : l'.Addresses root fileId' url')
    (htarget : url.target = url'.target) : l = l' ∧ fileId = fileId' := by
  obtain ⟨segment, hdecode, hchars⟩ := target_of_addresses h
  obtain ⟨segment', hdecode', hchars'⟩ := target_of_addresses h'
  rw [htarget, hchars'] at hchars
  have hends := List.append_cancel_left hchars
  have hslash (l : Lookup) : ∀ c ∈ l.name.toList, (c == '/') = false := fun c hc =>
    beq_eq_false_iff_ne.mpr fun hslash => l.slash_not_mem_name (hslash ▸ hc)
  have hcut := congrArg (Text.cutAt (· == '/')) hends
  rw [Text.cutAt_append_cons _ (hslash l') (by decide), Text.cutAt_append_cons _ (hslash l) (by decide)]
    at hcut
  obtain ⟨hname, hsegment⟩ := Prod.mk.inj hcut
  refine ⟨name_injective (String.toList_inj.mp hname.symm), Bytes.utf8_injective ?_⟩
  rw [← hdecode, ← hdecode', Option.some.inj hsegment]

/-- Which file ids have an address of their own. Let the base be without marks, and an address with
a slash at its end. Every look-up of a file id that is not blank is then sent to the scheme, the
host and the port of the base, unless its address is too long. The path of the address is that of
the base with `api`, `v1`, the look-up and one more segment that reads as the file id, and it has no
query, exactly if nothing in the file id means something in a path. Two such look-ups that are sent
to the same target are the same look-up of the same file id. -/
theorem request_addresses_iff (hmarks : ∀ c ∈ client.base.toList, c ≠ '?' ∧ c ≠ '#')
    (hhome : Url.ofText? (client.base ++ "/") = some home) :
    ∃ root : List String, home.path = root ++ [""] ∧
      (∀ (l : Lookup) (fileId : String), Text.allBlank fileId = false → ∃ url : Url,
        (∀ boundary tree cwd, client.request boundary tree cwd (l.call fileId) =
          if url.isSendable then .ok ⟨.get, url, none⟩ else .error (Client.unsendable url)) ∧
        (url.scheme = home.scheme ∧ url.host = home.host ∧ url.port = home.port) ∧
        (l.Addresses root fileId url ↔ FileId.Addressable fileId)) ∧
      ∀ (l l' : Lookup) (fileId fileId' : String) (boundary : String) (tree : FileTree)
        (cwd : Location) (r r' : Request), FileId.Addressable fileId → FileId.Addressable fileId' →
        client.request boundary tree cwd (l.call fileId) = .ok r →
        client.request boundary tree cwd (l'.call fileId') = .ok r' →
        r.url.target = r'.url.target → l = l' ∧ fileId = fileId' := by
  obtain ⟨passed, hhomePath, hread⟩ := exists_root hmarks hhome
  have haddresses (l : Lookup) (fileId : String) (h : FileId.Addressable fileId) :
      l.Addresses (passed.reverse.map String.ofList) fileId
        (home.below (l.name.toList :: "v1".toList :: "api".toList :: passed)
          (Url.cleanEnd fileId.toList)) := by
    obtain ⟨hpath, hquery, hdecode⟩ := Url.path_below_of_addressable home
      (l.name.toList :: "v1".toList :: "api".toList :: passed) h
    refine ⟨⟨String.ofList (Percent.encode Url.keptInPath fileId.toList), hpath.trans ?_, ?_⟩, hquery⟩
    · simp
    · rwa [String.toList_ofList]
  refine ⟨_, hhomePath, fun l fileId hblank => ?_, ?_⟩
  · have hempty : fileId ≠ "" := by
      rintro rfl
      rw [Text.allBlank_empty] at hblank
      cases hblank
    refine ⟨_, request_call hblank (hread l fileId), Url.place_below .., ?_, haddresses l fileId⟩
    rintro ⟨⟨segment, hpath, hdecode⟩, -⟩
    exact Url.addressable_of_getLast?_path home _ hempty (by rw [hpath]; simp) hdecode
  · intro l l' fileId fileId' boundary tree cwd r r' h h' hr hr' htarget
    rw [url_of_request (hread l fileId) hr, url_of_request (hread l' fileId') hr'] at htarget
    exact eq_of_target_eq (haddresses l fileId h) (haddresses l' fileId' h') htarget

/-- A file id of letters and digits has an address of its own below a base with a path. -/
theorem request_addresses_plain_id :
    let client : Client := ⟨"http://h/x"⟩
    let home : Url := ⟨.http, "h", none, ["x", ""], none, none⟩
    (∀ c ∈ client.base.toList, c ≠ '?' ∧ c ≠ '#') ∧
      Url.ofText? (client.base ++ "/") = some home ∧
      ∃ url : Url, url.host = "h" ∧ status.Addresses ["x"] "a1" url := by
  intro client home
  have hplain : (client.base.toList.all fun c => c != '?' && c != '#') = true := by decide +kernel
  have hmarks : ∀ c ∈ client.base.toList, c ≠ '?' ∧ c ≠ '#' := by simpa using hplain
  have hhome : Url.ofText? (client.base ++ "/") = some home := by decide +kernel
  obtain ⟨root, hroot, hlookups, -⟩ := request_addresses_iff hmarks hhome
  obtain rfl : ["x"] = root :=
    List.append_cancel_right (show ["x"] ++ [""] = root ++ [""] from hroot)
  obtain ⟨url, -, ⟨-, hhost, -⟩, haddresses⟩ := hlookups .status "a1" (by decide +kernel)
  exact ⟨hmarks, hhome, url, hhost, haddresses.mpr (by decide +kernel)⟩

/-- Dots and slashes in a file id lead to what another call asks for under another id. -/
theorem lookups_share_address :
    let client : Client := ⟨"http://h"⟩
    ∃ r : Request, client.request "" .empty [] (status.call "../result/a1") = .ok r ∧
      client.request "" .empty [] (result.call "a1") = .ok r ∧ r.url.path = ["api", "v1", "result", "a1"] :=
  ⟨⟨.get, ⟨.http, "h", none, ["api", "v1", "result", "a1"], none, none⟩, none⟩, by decide +kernel⟩

end Requests

end Lookup

end CsvCleaning
