import RemoteBatch.Http.Message
import RemoteBatch.Settings
import RemoteBatch.Url.Parse

/-!
# Endpoints

The places of one service, below a base address.  A job id is put into an address
as one escaped segment, so that nothing in it separates segments.

## Main definitions

* `Endpoint` — a base address without slashes at its end.
* `Endpoint.ofSettings` — the endpoint that settings describe.
* `Endpoint.place`, `Endpoint.url` — the place with a path, as text and as address.
* `Endpoint.segmentUrl` — the place of one job.
-/

namespace RemoteBatch.Http

/-- A service's base address. -/
structure Endpoint where
  base : String
  deriving DecidableEq, Repr, Inhabited

namespace Endpoint

/-- The endpoint that valid settings describe; `default` is the service's own. -/
def ofSettings (s : Settings) (default : String) : Except Error Endpoint := do
  s.validate
  return ⟨s.baseUrl default⟩

theorem ofSettings_eq_ok_iff {s : Settings} {default : String} {e : Endpoint} :
    ofSettings s default = .ok e ↔ s.validate = .ok () ∧ ⟨s.baseUrl default⟩ = e := by
  unfold ofSettings
  cases s.validate with
  | error f => simp [bind, Except.bind]
  | ok valid => simp [bind, Except.bind, pure, Except.pure]

/-- The text of the place with a path; slashes at the path's start do not count. -/
def place (e : Endpoint) (path : String) : String :=
  e.base ++ "/" ++ String.ofList (path.toList.dropWhile (· == '/'))

/-- The address of the place with a path. -/
def url (e : Endpoint) (path : String) : Except Error Url :=
  match Url.parse (e.place path) with
  | .ok u => .ok u
  | .error _ => .error (.transport .unsendable)

/-- Why a segment has no address. -/
inductive Fault
  | badSegment (segment : String)
  | badBase (base : String) (fault : Url.Fault)
  | flatBase (base : String)
  deriving DecidableEq, Repr

/-- A fault as an error of the call that needs the address. -/
def Fault.error : Fault → Error
  | badSegment segment =>
    .precondition ("Invalid job ID for a URL path: " ++ Text.quoted segment)
  | badBase base fault => .invalidConfig ("invalid base URL " ++ base ++ ": " ++ fault.message)
  | flatBase base => .invalidConfig ("base URL cannot carry a path: " ++ base)

/-- Whether a text can be a segment that names one thing. -/
def isSegment (segment : String) : Bool :=
  !segment.isEmpty && segment != "." && segment != ".."

/-- The address of the place with a path and one more segment. -/
def segmentUrl (e : Endpoint) (path segment : String) : Except Error Url :=
  if !isSegment segment then .error (Fault.badSegment segment).error
  else match Url.parse (e.place path) with
    | .error fault => .error (Fault.badBase e.base fault).error
    | .ok u =>
      match u.path.push? (Url.isSpecial u.scheme) segment.toList with
      | some path => .ok { u with path }
      | none => .error (Fault.flatBase e.base).error

end Endpoint

end RemoteBatch.Http
