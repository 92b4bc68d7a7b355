import RemoteBatch.Error
import RemoteBatch.Json.Printer
import RemoteBatch.Text.Base64
import RemoteBatch.Url.Basic

/-!
# Requests and responses

A request is made from a method, an address, headers and a content, unless a
header holds what no header may.  Credentials in the address become a header of
their own.  A response is what one send of a request yields in the end: where the
client follows redirects, the last one, the others being outside of this description.
It is read in two steps: its status decides whether the request was accepted, and only
then does its body count.

## Main definitions

* `Request`, `Request.make` — a request that can be sent.
* `Response` — what one send of a request yields.
* `Response.expectSuccess` — refuses a response whose status is a refusal.
* `Response.decode` — the value that a response carries in JSON.
-/

namespace RemoteBatch.Http

/-- What a request wants done. -/
inductive Method
  | get
  | post
  | delete
  deriving DecidableEq, Repr, Inhabited

/-- The name of a method. -/
def Method.name : Method → String
  | get => "GET"
  | post => "POST"
  | delete => "DELETE"

/-- What a request carries. -/
inductive Content
  | empty
  | json (d : Json.Document)
  | form (fields : List (String × String))
  deriving Repr, Inhabited

namespace Content

/-- The headers that describe a content. -/
def headers : Content → List (String × String)
  | empty => []
  | json _ => [("content-type", "application/json")]
  | form _ => [("content-type", "application/x-www-form-urlencoded")]

end Content

/-- A request as it is handed to the client for one send. -/
structure Request where
  method : Method
  /-- The address, without credentials. -/
  url : Url
  /-- The headers in the order of their making, with names in small letters. -/
  headers : List (String × String)
  body : List Char
  deriving DecidableEq, Repr

/-- Whether a header may hold a character. -/
def isHeaderChar (c : Char) : Bool := (0x20 ≤ c.toNat && c.toNat != 0x7F) || c == '\t'

/-- The name and password that credentials stand for, if the name is a text and
there is something to say. -/
def loginOf (c : Url.Credentials) : Option (String × String) := do
  let name ← Text.decodeUtf8? (Text.percentDecode c.name)
  let password := c.password.bind fun p => Text.decodeUtf8? (Text.percentDecode p)
  if name.isEmpty && password.isNone then none else some (name, password.getD "")

/-- The header of a name and a password. -/
def basicHeader (name password : String) : String × String :=
  let text := Text.encodeUtf8 (name.toList ++ ':' :: password.toList)
  ("authorization", "Basic " ++ String.ofList (Text.base64 text))

/-- The address without the credentials that become a header, and that header. -/
def takeLogin (url : Url) : Url × List (String × String) :=
  match url.credentials.bind loginOf with
  | some (name, password) => (url.withoutCredentials, [basicHeader name password])
  | none => (url, [])

/-- Nothing but credentials is taken from an address. -/
theorem takeLogin_fst (url : Url) :
    (takeLogin url).1 = { url with credentials := (takeLogin url).1.credentials } := by
  unfold takeLogin
  split
  · rfl
  · rfl

/-- The header that says which replies are welcome, unless there is one. -/
def welcome (headers : List (String × String)) : List (String × String) :=
  if headers.any (·.1 == "accept") then [] else [("accept", "*/*")]

namespace Request

/-- The text that a content is sent as. -/
def bodyOf : Content → List Char
  | .empty => []
  | .json d => d.print
  | .form fields => Text.formEncodePairs fields

/-- The request with the parts given. -/
def make (method : Method) (url : Url) (headers : List (String × String)) (content : Content) :
    Except Error Request :=
  if headers.all fun h => h.2.toList.all isHeaderChar then
    let (url, login) := takeLogin url
    let headers := login ++ headers
    .ok { method, url, headers := headers ++ content.headers ++ welcome headers
          body := bodyOf content }
  else .error (.transport .unsendable)

/-- A request can be made if its headers are fit to be sent, and then it is this one. -/
theorem make_eq_ok_iff {method : Method} {url : Url} {headers : List (String × String)}
    {content : Content} {r : Request} : make method url headers content = .ok r ↔
      (headers.all fun h => h.2.toList.all isHeaderChar) = true ∧
        r = { method, url := (takeLogin url).1
              headers := (takeLogin url).2 ++ headers ++ content.headers
                ++ welcome ((takeLogin url).2 ++ headers)
              body := bodyOf content } := by
  unfold make
  split
  · next fit => rw [Except.ok.injEq, and_iff_right fit, eq_comm]
  · next unfit => exact iff_of_false nofun fun h => unfit h.1

/-- A request has the method and the content that it was made with. -/
theorem parts_of_make {method : Method} {url : Url} {headers : List (String × String)}
    {content : Content} {r : Request} (h : make method url headers content = .ok r) :
    r.method = method ∧ r.body = bodyOf content := by
  obtain ⟨-, rfl⟩ := make_eq_ok_iff.mp h
  exact ⟨rfl, rfl⟩

/-- The error of a request that nothing answered. -/
def unanswered (r : Request) : Error := .transport (.unanswered r.url.print)

end Request

/-- The body of a response as far as it arrived. -/
inductive Body
  | whole (bytes : List UInt8)
  | cutShort
  deriving DecidableEq, Repr, Inhabited

/-- A response, as one send of a request yields it; redirects that the client follows on the
way leave no trace in it. -/
structure Response where
  status : Nat
  body : Body
  deriving DecidableEq, Repr, Inhabited

namespace Response

/-- The response with a status and a body; two statuses never have one. -/
def make (status : Nat) (body : Body) : Response :=
  ⟨status, if status = 204 ∨ status = 304 then .whole [] else body⟩

/-- Whether the status accepts the request. -/
def accepted (r : Response) : Bool := 200 ≤ r.status && r.status < 300

theorem accepted_iff {r : Response} :
    r.accepted = true ↔ 200 ≤ r.status ∧ r.status < 300 := by
  rw [accepted, Bool.and_eq_true, decide_eq_true_eq, decide_eq_true_eq]

/-- The text of a body that explains a refusal. -/
def explanation (r : Response) : String :=
  match r.body with
  | .whole bytes => Text.decodeLossy bytes
  | .cutShort => "Unknown error"

/-- Refuses a response whose status is a refusal. -/
def expectSuccess (r : Response) : Except Error Unit :=
  if r.accepted then .ok () else .error (.api r.status r.explanation)

theorem isOk_expectSuccess (r : Response) : r.expectSuccess.isOk = r.accepted := by
  unfold expectSuccess
  cases r.accepted <;> rfl

/-- The error of a body that cannot be read. -/
def undecodable : Error :=
  .protocol "Failed to parse JSON response: error decoding response body"

/-- The JSON document in a body. -/
def document? (r : Response) : Option Json.Document :=
  match r.body with
  | .whole bytes => Json.Document.ofBytes? bytes
  | .cutShort => none

/-- The value that a response carries. -/
def decode (read : Json.Document → Option α) (r : Response) : Except Error α :=
  if r.accepted then
    match r.document?.bind read with
    | some a => .ok a
    | none => .error undecodable
  else .error (.api r.status r.explanation)

/-- What a call makes of a value fails if there is none. -/
theorem isOk_decode_bind {r : Response} {doc : Json.Document} (haccepted : r.accepted = true)
    (hdoc : r.document? = some doc) (read : Json.Document → Option α) (f : α → Except Error β) :
    (r.decode read >>= f).isOk = true ↔ ∃ a, read doc = some a ∧ (f a).isOk = true := by
  rw [decode, if_pos haccepted, hdoc, Option.bind_some]
  cases hread : read doc with
  | none => simp [Bind.bind, Except.bind, Except.isOk, Except.toBool]
  | some a => simp [Bind.bind, Except.bind]

end Response

end RemoteBatch.Http
