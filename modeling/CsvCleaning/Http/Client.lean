import CsvCleaning.FileId
import CsvCleaning.Http.FileForm
import CsvCleaning.Service.BaseUrl
import CsvCleaning.Service.Body
import CsvCleaning.Service.Call

/-!
# The service over the network

Each call is one request below the base address. What can be refused here is refused before it is
sent; after that the call's answer is decided by what comes back.
-/

namespace CsvCleaning

/-- A client of a service at a base address, which has no slash at its end. -/
structure Client where
  base : String
deriving DecidableEq, Repr

namespace Client

/-- The client of a service at an address. -/
def ofAddress (url : String) : Except Failure Client :=
  match BaseUrl.check url with
  | .ok () => .ok ⟨BaseUrl.trim url⟩
  | .error f => .error f

/-- The method of a call. -/
def method : Call → Method
  | .upload _ | .process _ | .execute _ => .post
  | _ => .get

/-- Where a call is taken, below the base address. -/
def endpoint : Call → String
  | .health => "/"
  | .upload _ => "/api/v1/upload"
  | .process _ => "/api/v1/process"
  | .execute _ => "/api/v1/execute"
  | .status fileId => "/api/v1/status/" ++ fileId
  | .result fileId => "/api/v1/result/" ++ fileId
  | .script fileId => "/api/v1/script/" ++ fileId
  | .download fileId => "/api/v1/download/" ++ fileId

/-- The failure of a call whose address cannot be read. -/
def unaddressable : Failure :=
  .transport "builder error"

/-- The failure of a call whose address does not go into a request. -/
def unsendable (url : Url) : Failure :=
  .transport ("builder error for url (" ++ url.text ++ ")")

/-- The address of a call. The id goes into the path or, for the two stages that work on an
uploaded file, into the query. -/
def address (client : Client) (c : Call) : Except Failure Url :=
  match Url.ofText? (client.base ++ endpoint c) with
  | none => .error unaddressable
  | some found =>
    let url := match c with
      | .process fileId | .execute fileId => found.append "file_id" fileId
      | _ => found
    if url.isSendable then .ok url else .error (unsendable url)

/-- What a call carries, unless it is refused: the file of an upload has to be readable and a file
id must not be blank. -/
def content (boundary : String) (tree : FileTree) (cwd : Location) :
    Call → Except Failure (Option Content)
  | .health => .ok none
  | .upload file =>
    match file.read tree cwd with
    | .ok bytes => .ok (some (FileForm.content boundary file.name bytes))
    | .error f => .error f
  | .process fileId | .execute fileId | .status fileId | .result fileId | .script fileId
  | .download fileId =>
    match FileId.check fileId with
    | .ok () => .ok none
    | .error f => .error f

/-- The request of a call, or the failure that keeps it from being sent. -/
def request (client : Client) (boundary : String) (tree : FileTree) (cwd : Location) (c : Call) :
    Except Failure Request :=
  match content boundary tree cwd c with
  | .error f => .error f
  | .ok content => (client.address c).map fun url => ⟨method c, url, content⟩

/-- The reply to an upload, which has to name the file. -/
def checkUpload (reply : UploadReply) : Except Failure UploadReply :=
  if Text.allBlank reply.fileId then
    .error (.malformedResponse "upload response carried an empty file_id")
  else .ok reply

/-- Read the body of a good answer as the reply to a call. -/
def readReply : (c : Call) → Bytes → Answer c
  | .health, body => Body.decode HealthReply.ofDoc body
  | .upload _, body => (Body.decode UploadReply.ofDoc body).bind checkUpload
  | .process _, body => Body.decode ProcessReply.ofDoc body
  | .execute _, body => Body.decode ExecuteReply.ofDoc body
  | .status _, body => Body.decode StatusReport.ofDoc body
  | .result _, body => (Body.decode ResultReply.ofDoc body).bind ResultTable.ofReply
  | .script _, body => .ok body.readUtf8Lossy
  | .download _, body => .ok body

/-- The answer to a call by what came back for its request. -/
def answer (c : Call) (url : Url) : Exchange → Answer c
  | .noAnswer => .error (.transport ("error sending request for url (" ++ url.text ++ ")"))
  | .answer status body cutShort =>
    if Body.isSuccess status then
      if cutShort then .error (.malformedResponse "error decoding response body")
      else readReply c body
    else .error (Body.errorOf status (if cutShort then [] else body))

/-- The service at the base address as a gateway over a network. -/
def gateway {ν : Type} (client : Client) (boundary : String) (tree : FileTree) (cwd : Location)
    (network : Network ν) : Gateway ν := fun c state =>
  match client.request boundary tree cwd c with
  | .error f => (.error f, state)
  | .ok request =>
    let (exchange, state) := network request state
    (answer c request.url exchange, state)

/-- A call that is refused here never reaches the network. -/
theorem gateway_of_refused {ν : Type} {client : Client} {boundary : String} {tree : FileTree}
    {cwd : Location} {c : Call} {f : Failure} (h : client.request boundary tree cwd c = .error f)
    (network : Network ν) (state : ν) :
    client.gateway boundary tree cwd network c state = (.error f, state) := by
  simp [gateway, h]

end Client

end CsvCleaning
