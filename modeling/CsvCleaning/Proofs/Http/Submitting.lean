import CsvCleaning.Proofs.Http.Outcomes
import CsvCleaning.Proofs.Url.Queries

/-!
# What submitted file ids are read as

The two stages that work on an uploaded file name it in the query of their request. Below a base
without marks that query is the file id alone, form-encoded, and a service reads off the target of the
request the very file id that was submitted, whatever its characters. So no two file ids are submitted
to the same target.
-/

namespace CsvCleaning

/-- The calls that submit an uploaded file to a stage. -/
inductive Submission where
  | process
  | execute
deriving DecidableEq, Repr

namespace Submission

/-- The call that submits a file id. -/
def call : Submission → String → Call
  | process => .process
  | execute => .execute

/-- The last segment of the path. -/
def name : Submission → String
  | process => "process"
  | execute => "execute"

/-- The file id of the call is the one that is submitted. -/
theorem fileId?_call (sub : Submission) (fileId : String) : (sub.call fileId).fileId? = some fileId := by
  cases sub <;> rfl

/-- The path is the same for all file ids. -/
theorem endpoint_call (sub : Submission) (fileId : String) :
    Client.endpoint (sub.call fileId) = "/api/v1/" ++ sub.name := by
  cases sub with
  | process => exact (by decide : "/api/v1/process" = "/api/v1/" ++ "process")
  | execute => exact (by decide : "/api/v1/execute" = "/api/v1/" ++ "execute")

/-- There are no marks in it. -/
theorem plain_path (sub : Submission) : ∀ c ∈ ("/api/v1/" ++ sub.name).toList, c ≠ '?' ∧ c ≠ '#' := by
  have hall : (("/api/v1/" ++ sub.name).toList.all fun c => c != '?' && c != '#') = true := by
    cases sub <;> decide +kernel
  simpa using hall

/-- The query that names a file id. -/
def query (fileId : String) : String :=
  "file_id=" ++ String.ofList (Form.encode fileId.toList)

/-- It is the file id with its name as a form has them. -/
theorem query_eq (fileId : String) : query fileId = String.ofList (Form.writePair "file_id" fileId) := by
  have hname : String.ofList (Form.encode "file_id".toList ++ ['=']) = "file_id=" := by decide +kernel
  rw [query, ← hname, ← String.ofList_append, List.append_assoc]
  rfl

section Requests

variable {client : Client} {found : Url} {sub : Submission} {fileId : String}

/-- The address of a submission is the one that is read with the file id in its query, unless this is
too long. -/
theorem address_call (hread : Url.ofText? (client.base ++ "/api/v1/" ++ sub.name) = some found)
    (fileId : String) : client.address (sub.call fileId) =
      if (found.append "file_id" fileId).isSendable then .ok (found.append "file_id" fileId)
      else .error (Client.unsendable (found.append "file_id" fileId)) := by
  rw [Client.address, endpoint_call, ← String.append_assoc, hread]
  cases sub <;> rfl

/-- A submission is sent there. -/
theorem request_call (hblank : Text.allBlank fileId = false)
    (hread : Url.ofText? (client.base ++ "/api/v1/" ++ sub.name) = some found)
    (boundary : String) (tree : FileTree) (cwd : Location) :
    client.request boundary tree cwd (sub.call fileId) =
      if (found.append "file_id" fileId).isSendable then
        .ok ⟨.post, found.append "file_id" fileId, none⟩
      else .error (Client.unsendable (found.append "file_id" fileId)) := by
  have hmethod : Client.method (sub.call fileId) = .post := by
    cases sub <;> rfl
  rw [Client.request_of_fileId (sub.fileId?_call fileId) hblank, address_call hread, hmethod]
  split <;> rfl

/-- A submission that is sent is sent to an address that can be read. -/
theorem exists_of_request {boundary : String} {tree : FileTree} {cwd : Location} {r : Request}
    (h : client.request boundary tree cwd (sub.call fileId) = .ok r) :
    ∃ found, Url.ofText? (client.base ++ "/api/v1/" ++ sub.name) = some found ∧
      r.url = found.append "file_id" fileId := by
  have haddress := Client.address_of_request (sub.fileId?_call fileId) h
  cases hread : Url.ofText? (client.base ++ "/api/v1/" ++ sub.name) with
  | none =>
    rw [Client.address, endpoint_call, ← String.append_assoc, hread] at haddress
    cases haddress
  | some found =>
    rw [address_call hread] at haddress
    split at haddress
    · exact ⟨found, rfl, (Except.ok.inj haddress).symm⟩
    · cases haddress

/-- Below a base without marks the file id is all of the query, and it is read off the target. -/
theorem target_append (hmarks : ∀ c ∈ client.base.toList, c ≠ '?' ∧ c ≠ '#') (fileId : String)
    (hread : Url.ofText? (client.base ++ "/api/v1/" ++ sub.name) = some found) :
    (found.append "file_id" fileId).target = found.pathText ++ "?" ++ query fileId ∧
      Form.ofTarget? (found.append "file_id" fileId).target = some [("file_id", fileId)] := by
  have hplain : ∀ c ∈ (client.base ++ "/api/v1/" ++ sub.name).toList, c ≠ '?' ∧ c ≠ '#' := by
    intro c hc
    rw [String.append_assoc, String.toList_append, List.mem_append] at hc
    exact hc.elim (hmarks c) (plain_path sub c)
  have htarget : (found.append "file_id" fileId).target = found.pathText ++ "?" ++ query fileId := by
    rw [Url.target, Url.query_append_of_none (Url.query_eq_none_of_ofText? hplain hread), query_eq,
      String.append_assoc]
    rfl
  have hpath : ∀ c ∈ found.pathText.toList, (c == '?') = false := fun c hc =>
    beq_eq_false_iff_ne.mpr fun hmark => Url.not_mem_pathText_of_ofText? hread (hmark ▸ hc)
  refine ⟨htarget, ?_⟩
  have hcut : Text.cutAt (· == '?') (found.pathText ++ "?" ++ query fileId).toList =
      (found.pathText.toList, some (query fileId).toList) := by
    rw [String.append_assoc, String.toList_append, String.toList_append]
    exact Text.cutAt_append_cons _ hpath (by decide)
  rw [Form.ofTarget?, htarget, hcut, Option.map_some, String.ofList_toList, query_eq,
    Form.read_writePair]

/-- Submitted file ids are read back. Let the base be without marks and an address with the path of a
submission below it. Then every file id that is not blank is submitted to this address with the file id,
form-encoded, as all of its query, unless the address is too long; and what a service reads off the
target of the request is the one pair of `file_id` and this very file id. So submissions that are sent
to the same target, to whichever stage, are of the same file id. -/
theorem submitted_ids_read_back (hmarks : ∀ c ∈ client.base.toList, c ≠ '?' ∧ c ≠ '#') :
    (∀ (sub : Submission) (found : Url),
      Url.ofText? (client.base ++ "/api/v1/" ++ sub.name) = some found →
      ∀ fileId : String, Text.allBlank fileId = false → ∃ url : Url,
        (∀ boundary tree cwd, client.request boundary tree cwd (sub.call fileId) =
          if url.isSendable then .ok ⟨.post, url, none⟩ else .error (Client.unsendable url)) ∧
        url.target = found.pathText ++ "?" ++ query fileId ∧
        Form.ofTarget? url.target = some [("file_id", fileId)]) ∧
    ∀ (sub sub' : Submission) (fileId fileId' : String) (boundary : String) (tree : FileTree)
      (cwd : Location) (r r' : Request),
      client.request boundary tree cwd (sub.call fileId) = .ok r →
      client.request boundary tree cwd (sub'.call fileId') = .ok r' →
      r.url.target = r'.url.target → fileId = fileId' := by
  refine ⟨fun sub found hread fileId hblank => ?_, ?_⟩
  · exact ⟨_, request_call hblank hread, target_append hmarks fileId hread⟩
  · intro sub sub' fileId fileId' boundary tree cwd r r' hr hr' htarget
    obtain ⟨found, hread, hurl⟩ := exists_of_request hr
    obtain ⟨found', hread', hurl'⟩ := exists_of_request hr'
    rw [hurl, hurl'] at htarget
    have hpairs := (target_append hmarks fileId hread).2
    rw [htarget, (target_append hmarks fileId' hread').2] at hpairs
    have hpair := List.singleton_inj.mp (Option.some.inj hpairs)
    exact (Prod.mk.inj hpair).2.symm

/-- A file id of separators, an escape and an accent is read back below a base with a path. -/
theorem submitted_separators_read_back :
    let client : Client := ⟨"http://h/x"⟩
    let fileId := "a&b=c +%41é"
    (∀ c ∈ client.base.toList, c ≠ '?' ∧ c ≠ '#') ∧
      ∃ url : Url, url.target = "/x/api/v1/process?file_id=a%26b%3Dc+%2B%2541%C3%A9" ∧
        (∀ boundary tree cwd, client.request boundary tree cwd (process.call fileId) =
          if url.isSendable then .ok ⟨.post, url, none⟩ else .error (Client.unsendable url)) ∧
        Form.ofTarget? url.target = some [("file_id", fileId)] := by
  intro client fileId
  have hplain : (client.base.toList.all fun c => c != '?' && c != '#') = true := by decide +kernel
  have hmarks : ∀ c ∈ client.base.toList, c ≠ '?' ∧ c ≠ '#' := by simpa using hplain
  have hread : Url.ofText? (client.base ++ "/api/v1/" ++ process.name) =
      some ⟨.http, "h", none, ["x", "api", "v1", "process"], none, none⟩ := by decide +kernel
  obtain ⟨url, hrequest, htarget, hpairs⟩ :=
    (submitted_ids_read_back hmarks).1 process _ hread fileId (by decide +kernel)
  exact ⟨hmarks, url, htarget.trans (by decide +kernel), hrequest, hpairs⟩

end Requests

end Submission

end CsvCleaning
