import CsvCleaning.Http.Client

/-!
# The outcomes of a call over the network

Whatever the service does, a call comes to one of a few kinds of outcome, and which one depends
only on what was asked and what came back. A call that is refused here sends nothing; every other
sends exactly one request, and its outcome is read off the exchange.
-/

namespace CsvCleaning

/-- A network with the requests that it carried, in order. -/
def Network.noting {ν : Type} (network : Network ν) : Network (ν × List Request) :=
  fun request state =>
    let (exchange, next) := network request state.1
    (exchange, next, state.2 ++ [request])

/-- A body that does not have the shape that is asked for. -/
def Body.Undecodable {α : Type} (ofDoc : Json.Doc → Except Json.Fault α) (body : Bytes) : Prop :=
  ∃ fault, Json.decodeBody ofDoc body = .error fault

/-- The detail that an error answer with a body is told by. -/
inductive Body.ToldBy (body : Bytes) : String → Prop
  | envelope {envelope : ErrorEnvelope}
      (reads : Json.decodeBody ErrorEnvelope.ofDoc body = .ok envelope)
      (visible : Text.allBlank envelope.detail = false) : ToldBy body envelope.detail
  | fallback
      (silent : ∀ envelope, Json.decodeBody ErrorEnvelope.ofDoc body = .ok envelope →
        Text.allBlank envelope.detail = true) : ToldBy body Failure.fallbackDetail

namespace Call

/-- The file id that a call is made with. -/
def fileId? : Call → Option String
  | .health | .upload _ => none
  | .process fileId | .execute fileId | .status fileId | .result fileId | .script fileId
  | .download fileId => some fileId

/-- A call with a blank file id. -/
def BlankId (c : Call) : Prop :=
  ∃ fileId, c.fileId? = some fileId ∧ Text.allBlank fileId = true

/-- An upload of a file that cannot be read. -/
def Unreadable (tree : FileTree) (cwd : Location) (c : Call) : Prop :=
  ∃ file f, c = .upload file ∧ file.read tree cwd = .error f

end Call

namespace Client

/-- A good answer's body that is no reply to a call: it does not have the shape of one, it names
no file for an upload, or it is a table that is refused. -/
def Unfit : Call → Bytes → Prop
  | .health, body => Body.Undecodable HealthReply.ofDoc body
  | .upload _, body =>
    Body.Undecodable UploadReply.ofDoc body ∨
      ∃ reply, Json.decodeBody UploadReply.ofDoc body = .ok reply ∧
        Text.allBlank reply.fileId = true
  | .process _, body => Body.Undecodable ProcessReply.ofDoc body
  | .execute _, body => Body.Undecodable ExecuteReply.ofDoc body
  | .status _, body => Body.Undecodable StatusReport.ofDoc body
  | .result _, body =>
    Body.Undecodable ResultReply.ofDoc body ∨
      ∃ reply, Json.decodeBody ResultReply.ofDoc body = .ok reply ∧
        ∃ f, ResultTable.ofReply reply = .error f
  | .script _, _ => False
  | .download _, _ => False

/-- What a call comes to, by what came back for its request. -/
inductive Outcome (c : Call) : Exchange → Answer c → Prop
  | unanswered (text : String) : Outcome c .noAnswer (.error (.transport text))
  | refused {status : Nat} {body : Bytes} {cutShort : Bool} {detail : String}
      (bad : ¬ (200 ≤ status ∧ status < 300))
      (told : Body.ToldBy (if cutShort then [] else body) detail)
      (visible : Text.allBlank detail = false) :
      Outcome c (.answer status body cutShort) (.error (.server status detail))
  | cutShort {status : Nat} {body : Bytes} (good : 200 ≤ status ∧ status < 300) (text : String) :
      Outcome c (.answer status body true) (.error (.malformedResponse text))
  | unfit {status : Nat} {body : Bytes} (good : 200 ≤ status ∧ status < 300)
      (unfit : Unfit c body) (text : String) :
      Outcome c (.answer status body false) (.error (.malformedResponse text))
  | replied {status : Nat} {body : Bytes} (good : 200 ≤ status ∧ status < 300)
      (fit : ¬ Unfit c body) (reply : c.Reply) : Outcome c (.answer status body false) (.ok reply)

end Client

namespace Body

/-- Good answers have the statuses from 200 on, below 300. -/
theorem isSuccess_iff {status : Nat} : isSuccess status = true ↔ 200 ≤ status ∧ status < 300 := by
  simp [isSuccess]

/-- The failure that an error answer is has its status and the detail it is told by. -/
theorem errorOf_toldBy (status : Nat) (body : Bytes) :
    ∃ detail, ToldBy body detail ∧ Text.allBlank detail = false ∧
      errorOf status body = .server status detail := by
  cases reads : Json.decodeBody ErrorEnvelope.ofDoc body with
  | error fault =>
    refine ⟨_, .fallback fun envelope h => ?_, allBlank_fallbackDetail, ?_⟩
    · rw [reads] at h
      cases h
    · simp [errorOf, detail?, reads]
  | ok envelope =>
    cases blank : Text.allBlank envelope.detail with
    | false => exact ⟨_, .envelope reads blank, blank, by simp [errorOf, detail?, reads, blank]⟩
    | true =>
      refine ⟨_, .fallback fun envelope' h => ?_, allBlank_fallbackDetail, ?_⟩
      · rw [reads] at h
        cases h
        exact blank
      · simp [errorOf, detail?, reads, blank]

example : errorOf 422 (Bytes.utf8 "\x7b\"detail\": \"no such file\"\x7d") =
    .server 422 "no such file" := by
  decide +kernel

/-- A body either has the shape that is asked for and is read, or it does not and is refused. -/
theorem decode_cases {α : Type} (ofDoc : Json.Doc → Except Json.Fault α) (body : Bytes) :
    (Undecodable ofDoc body ∧ ∃ text, decode ofDoc body = .error (.malformedResponse text)) ∨
    (¬ Undecodable ofDoc body ∧
      ∃ a, Json.decodeBody ofDoc body = .ok a ∧ decode ofDoc body = .ok a) := by
  unfold Undecodable decode
  cases Json.decodeBody ofDoc body with
  | error fault => exact .inl ⟨⟨fault, rfl⟩, _, rfl⟩
  | ok a =>
    refine .inr ⟨?_, a, rfl, rfl⟩
    rintro ⟨fault, failed⟩
    cases failed

/-- So with a check behind it that refuses some of what is read. -/
theorem decode_bind_cases {α β : Type} (ofDoc : Json.Doc → Except Json.Fault α) (body : Bytes)
    {check : α → Except Failure β} {Refused : α → Prop}
    (bad : ∀ a, Refused a → ∃ text, check a = .error (.malformedResponse text))
    (good : ∀ a, ¬ Refused a → ∃ b, check a = .ok b) :
    let unfit := Undecodable ofDoc body ∨ ∃ a, Json.decodeBody ofDoc body = .ok a ∧ Refused a
    (unfit ∧ ∃ text, (decode ofDoc body).bind check = .error (.malformedResponse text)) ∨
    (¬ unfit ∧ ∃ b, (decode ofDoc body).bind check = .ok b) := by
  rcases decode_cases ofDoc body with ⟨shapeless, text, failed⟩ | ⟨shape, a, reads, decoded⟩
  · exact .inl ⟨.inl shapeless, text, by rw [failed]; rfl⟩
  · rw [decoded]
    by_cases refused : Refused a
    · exact .inl ⟨.inr ⟨a, reads, refused⟩, bad a refused⟩
    · refine .inr ⟨?_, good a refused⟩
      rintro (shapeless | ⟨a', reads', refused'⟩)
      · exact shape shapeless
      · rw [reads] at reads'
        cases reads'
        exact refused refused'

end Body

/-- A file that cannot be read is a failure of reading. -/
theorem SourceFile.read_error {file : SourceFile} {tree : FileTree} {cwd : Location} {f : Failure}
    (h : file.read tree cwd = .error f) : ∃ text, f = .io text := by
  unfold read at h
  split at h
  · cases h
  · split at h
    · cases h
    · cases h
      exact ⟨_, rfl⟩

/-- A table that is refused does not fit what was asked for. -/
theorem ResultTable.ofReply_error {reply : ResultReply} {f : Failure}
    (h : ResultTable.ofReply reply = .error f) : ∃ text, f = .malformedResponse text := by
  unfold ofReply build at h
  split at h
  · cases h
    exact ⟨_, rfl⟩
  · split at h
    · cases h
      exact ⟨_, rfl⟩
    · cases h

namespace Client

/-- The body of a good answer is the reply to a call, unless it is unfit for one. -/
theorem readReply_cases (c : Call) (body : Bytes) :
    (Unfit c body ∧ ∃ text, readReply c body = .error (.malformedResponse text)) ∨
    (¬ Unfit c body ∧ ∃ reply, readReply c body = .ok reply) := by
  have plain {α : Type} (ofDoc : Json.Doc → Except Json.Fault α) :
      (Body.Undecodable ofDoc body ∧
        ∃ text, Body.decode ofDoc body = .error (.malformedResponse text)) ∨
      (¬ Body.Undecodable ofDoc body ∧ ∃ a, Body.decode ofDoc body = .ok a) :=
    (Body.decode_cases ofDoc body).imp_right (And.imp_right fun ⟨a, _, ok⟩ => ⟨a, ok⟩)
  cases c with
  | health => exact plain HealthReply.ofDoc
  | upload file =>
    refine Body.decode_bind_cases UploadReply.ofDoc body (fun reply blank => ?_)
      fun reply named => ?_
    · exact ⟨_, if_pos blank⟩
    · exact ⟨reply, if_neg named⟩
  | process fileId => exact plain ProcessReply.ofDoc
  | execute fileId => exact plain ExecuteReply.ofDoc
  | status fileId => exact plain StatusReport.ofDoc
  | result fileId =>
    refine Body.decode_bind_cases ResultReply.ofDoc body (fun reply ⟨f, refused⟩ => ?_)
      fun reply accepted => ?_
    · obtain ⟨text, rfl⟩ := ResultTable.ofReply_error refused
      exact ⟨text, refused⟩
    · cases built : ResultTable.ofReply reply with
      | error f => exact absurd ⟨f, built⟩ accepted
      | ok table => exact ⟨table, rfl⟩
  | script fileId => exact .inr ⟨id, _, rfl⟩
  | download fileId => exact .inr ⟨id, _, rfl⟩

/-- The answer to a call that was sent is the outcome of its exchange. -/
theorem outcome_answer (c : Call) (url : Url) (exchange : Exchange) :
    Outcome c exchange (answer c url exchange) := by
  cases exchange with
  | noAnswer => exact .unanswered _
  | answer status body cutShort =>
    cases good : Body.isSuccess status with
    | false =>
      have bad : ¬ (200 ≤ status ∧ status < 300) := by
        rw [← Body.isSuccess_iff, good]
        exact Bool.false_ne_true
      obtain ⟨detail, told, visible, failed⟩ :=
        Body.errorOf_toldBy status (if cutShort then [] else body)
      simp only [answer, good, Bool.false_eq_true, if_false, failed]
      exact .refused bad told visible
    | true =>
      have good' := Body.isSuccess_iff.mp good
      cases cutShort with
      | true =>
        simp only [answer, good, if_true]
        exact .cutShort good' _
      | false =>
        simp only [answer, good, if_true, Bool.false_eq_true, if_false]
        rcases readReply_cases c body with ⟨unfit, text, failed⟩ | ⟨fit, reply, read⟩
        · rw [failed]
          exact .unfit good' unfit text
        · rw [read]
          exact .replied good' fit reply

/-- A call with a file id carries nothing, and is refused for a blank one. -/
theorem content_of_fileId {c : Call} {fileId : String} (made : c.fileId? = some fileId)
    (boundary : String) (tree : FileTree) (cwd : Location) :
    content boundary tree cwd c = (FileId.check fileId).map fun _ => none := by
  cases c with
  | health | upload => cases made
  | process | execute | status | result | script | download =>
    cases made
    rw [content]
    cases FileId.check _ <;> rfl

/-- It is sent where it has an address. -/
theorem request_of_fileId {c : Call} {fileId : String} (made : c.fileId? = some fileId)
    (visible : Text.allBlank fileId = false) (client : Client) (boundary : String) (tree : FileTree)
    (cwd : Location) : client.request boundary tree cwd c =
      (client.address c).map fun url => ⟨method c, url, none⟩ := by
  rw [request, content_of_fileId made, FileId.check_eq_ok_iff.mpr visible]
  rfl

/-- A request for a file id has the address of the call. -/
theorem address_of_request {c : Call} {fileId : String} (made : c.fileId? = some fileId) {client : Client}
    {boundary : String} {tree : FileTree} {cwd : Location} {r : Request}
    (sent : client.request boundary tree cwd c = .ok r) : client.address c = .ok r.url := by
  cases blank : Text.allBlank fileId with
  | true =>
    rw [request, content_of_fileId made, show FileId.check fileId = .error _ from if_pos blank] at sent
    cases sent
  | false =>
    rw [request_of_fileId made blank] at sent
    cases addressed : client.address c with
    | error f =>
      rw [addressed] at sent
      cases sent
    | ok url =>
      rw [addressed] at sent
      obtain rfl := Except.ok.inj sent
      rfl

/-- A blank id is refused. -/
theorem content_of_blankId {c : Call} (blank : c.BlankId) (boundary : String) (tree : FileTree)
    (cwd : Location) : ∃ text, content boundary tree cwd c = .error (.validation text) := by
  obtain ⟨fileId, made, blank⟩ := blank
  have refused : FileId.check fileId = .error (.validation "missing file id") := if_pos blank
  exact ⟨"missing file id", by rw [content_of_fileId made, refused]; rfl⟩

/-- A file that cannot be read is not uploaded. -/
theorem content_of_unreadable {c : Call} {tree : FileTree} {cwd : Location}
    (unreadable : c.Unreadable tree cwd) (boundary : String) :
    ∃ text, content boundary tree cwd c = .error (.io text) := by
  obtain ⟨file, f, rfl, failed⟩ := unreadable
  obtain ⟨text, rfl⟩ := SourceFile.read_error failed
  exact ⟨text, by simp only [content, failed]⟩

/-- Nothing else is refused before an address is looked for. -/
theorem content_eq_ok {c : Call} {tree : FileTree} {cwd : Location} (named : ¬ c.BlankId)
    (readable : ¬ c.Unreadable tree cwd) (boundary : String) :
    ∃ carried, content boundary tree cwd c = .ok carried := by
  cases c with
  | health => exact ⟨none, rfl⟩
  | upload file =>
    cases read : file.read tree cwd with
    | ok bytes =>
      exact ⟨some (FileForm.content boundary file.name bytes), by simp only [content, read]⟩
    | error f => exact absurd ⟨file, f, rfl, read⟩ readable
  | process fileId | execute fileId | status fileId | result fileId | script fileId
  | download fileId =>
    have visible : Text.allBlank fileId = false :=
      Bool.eq_false_iff.mpr fun blank => named ⟨fileId, rfl, blank⟩
    exact ⟨none, by rw [content_of_fileId rfl, FileId.check_eq_ok_iff.mpr visible]; rfl⟩

/-- An address that cannot be written down keeps the request from being sent. -/
theorem address_error {client : Client} {c : Call} {f : Failure}
    (h : client.address c = .error f) : ∃ text, f = .transport text := by
  unfold address at h
  split at h
  · cases h
    exact ⟨_, rfl⟩
  · dsimp only at h
    split at h
    all_goals
      split at h
      · cases h
      · cases h
        exact ⟨_, rfl⟩

example : ((⟨"http://h"⟩ : Client).address (.status "a1")).toOption.isSome = true := by
  decide +kernel

section Sending

variable {ν : Type} (client : Client) (boundary : String) (tree : FileTree) (cwd : Location)
  (network : Network ν) (c : Call) (state : ν)

/-- A request that is sent is carried once, and its answer is the outcome of what came back. -/
theorem gateway_of_request {request : Request}
    (h : client.request boundary tree cwd c = .ok request) :
    client.gateway boundary tree cwd network c state =
      (answer c request.url (network request state).1, (network request state).2) := by
  simp only [gateway, h]

/-- To note the requests changes nothing else. -/
theorem gateway_noting (sent : List Request) :
    let noted := client.gateway boundary tree cwd network.noting c (state, sent)
    client.gateway boundary tree cwd network c state = (noted.1, noted.2.1) := by
  unfold gateway
  cases client.request boundary tree cwd c <;> rfl

end Sending

/-- A call with a blank id fails in the check and an upload of a file that cannot be read fails in
reading, and nothing is sent. Nor is anything sent where there is no address, which is a failure of the
transport: the base may not be one, and an address that is well formed may still be refused as the target
of a request, if it has more than 65534 bytes or a quote, a backtick or a brace in its host. Otherwise
exactly one request is sent, and what came back for it decides the outcome. -/
theorem outcome_of_call {ν : Type} (client : Client) (boundary : String) (tree : FileTree)
    (cwd : Location) (network : Network ν) (c : Call) (state : ν) :
    let result := client.gateway boundary tree cwd network.noting c (state, [])
    let answer := result.1
    let sent := result.2.2
    client.gateway boundary tree cwd network c state = (answer, result.2.1) ∧
    (c.BlankId → (∃ text, answer = .error (.validation text)) ∧ sent = []) ∧
    (c.Unreadable tree cwd → (∃ text, answer = .error (.io text)) ∧ sent = []) ∧
    (¬ c.BlankId → ¬ c.Unreadable tree cwd →
      (∀ f, client.address c = .error f →
        (∃ text, answer = .error (.transport text)) ∧ sent = []) ∧
      ∀ url, client.address c = .ok url →
        ∃ request, request.method = method c ∧ request.url = url ∧ sent = [request] ∧
          Outcome c (network request state).1 answer) := by
  intro result answer sent
  have unsent (f : Failure) (refused : client.request boundary tree cwd c = .error f) :
      answer = .error f ∧ sent = [] := by
    have stays : result = (.error f, state, []) :=
      gateway_of_refused refused network.noting (state, [])
    exact ⟨congrArg Prod.fst stays, congrArg (·.2.2) stays⟩
  refine ⟨gateway_noting client boundary tree cwd network c state [], fun blank => ?_,
    fun unreadable => ?_, fun named readable => ?_⟩
  · obtain ⟨text, refused⟩ := content_of_blankId blank boundary tree cwd
    obtain ⟨failed, nothing⟩ := unsent _ (by rw [request, refused])
    exact ⟨⟨text, failed⟩, nothing⟩
  · obtain ⟨text, refused⟩ := content_of_unreadable unreadable boundary
    obtain ⟨failed, nothing⟩ := unsent _ (by rw [request, refused])
    exact ⟨⟨text, failed⟩, nothing⟩
  · obtain ⟨carried, accepted⟩ := content_eq_ok named readable boundary
    refine ⟨fun f unaddressed => ?_, fun url addressed => ?_⟩
    · obtain ⟨text, rfl⟩ := address_error unaddressed
      obtain ⟨failed, nothing⟩ := unsent _ (by rw [request, accepted, unaddressed]; rfl)
      exact ⟨⟨text, failed⟩, nothing⟩
    · have sends : client.request boundary tree cwd c = .ok ⟨method c, url, carried⟩ := by
        rw [request, accepted, addressed]
        rfl
      have carriedOnce : result = _ :=
        gateway_of_request client boundary tree cwd network.noting c (state, []) sends
      refine ⟨⟨method c, url, carried⟩, rfl, rfl, congrArg (·.2.2) carriedOnce, ?_⟩
      rw [show answer = _ from congrArg Prod.fst carriedOnce]
      exact outcome_answer c url _

end Client

end CsvCleaning
