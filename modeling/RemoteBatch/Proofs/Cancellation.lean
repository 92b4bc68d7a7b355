import RemoteBatch.Proofs.FailureReport
import RemoteBatch.Proofs.Following
import RemoteBatch.Proofs.Registrations
import RemoteBatch.Proofs.StatusReply

/-!
# Cancelling a job from the command line

A job is stopped only after its state was told.  One request looks at the job, at the
address that its id has below the place of all jobs, and the same request with another
method stops it, so that what is stopped is what was looked at.  How this goes can be told
from outside: from the driver that is selected, the id, and the replies that wait at the end
of the line.  The job is stopped exactly if the first reply tells a state, and the program
succeeds exactly if the second one then accepts its request.

## Main definitions

* `Http.Desk` — where a driver asks about jobs, and what it takes a response to tell.
* `Http.Desk.Admits`, `Http.Desk.Looks` — the ids that a desk can be asked about, and the
  request that asks.
* `Http.Service.Keeps` — that a service looks at jobs and stops them at a desk.
* `CommandLine.Selects` — the desk of the driver that an invocation selects.
* `CommandLine.Finds` — that the first reply tells the state of the job.
* `CommandLine.Cancels` — how a cancellation goes, with the requests that it makes.

## Main results

* `Slurm.Driver.keeps`, `Nersc.Driver.keeps` — each driver keeps its desk.
* `CommandLine.cancels_run` — a cancellation does as it is described.
* `CommandLine.cancel_run` — **what a cancellation sends, and how it ends.**
-/

namespace RemoteBatch

open Http (Call Endpoint Line Method Network Reply Request Response Service)

/-! ### Desks -/

namespace Http

/-- Where a driver asks about jobs, and what it takes a response to tell. -/
structure Desk where
  endpoint : Endpoint
  /-- The path of the place that the jobs are below. -/
  path : String
  headers : List (String × String)
  /-- What a response tells about the job with an id. -/
  Tells : String → Response → Except Error JobState → Prop

/-- The request with another method. -/
def Request.withMethod (r : Request) (method : Method) : Request := { r with method }

namespace Desk

/-- The request about the job with an id, if it can be made. -/
def request (desk : Desk) (method : Method) (id : String) : Except Error Request := do
  let url ← desk.endpoint.segmentUrl desk.path id
  Request.make method url desk.headers .empty

/-- That a desk can be asked about the job with an id: the id is neither blank nor dots, and
requests can be made below the place of the desk. -/
structure Admits (desk : Desk) (id : String) : Prop where
  visible : ∃ c ∈ id.toList, Text.isBlank c = false
  not_dots : id ≠ "." ∧ id ≠ ".."
  serves : desk.endpoint.Serves desk.path desk.headers

/-- That a request looks at the job with an id: it gets the address that is the place of the
desk with one more segment, which stands for the id.  Credentials may be left out of the
address. -/
structure Looks (desk : Desk) (id : String) (look : Request) : Prop where
  method : look.method = .get
  /-- An id that an address does not keep as it is has an address too, but it is not named
  there. -/
  address : ∃ v parts, Url.parse (desk.endpoint.place desk.path) = .ok v
    ∧ v.path = .segments parts
    ∧ (Url.NamesBelow v (v.below parts id) id ↔
      Url.kept id = id ∧ v.path ≠ .segments [[], []])
    ∧ look.url = { v.below parts id with credentials := look.url.credentials }
    ∧ Request.make .get (v.below parts id) desk.headers .empty = .ok look

variable {desk : Desk} {id : String} {look : Request}

/-- Nothing but the method of a request depends on the method. -/
theorem request_delete (desk : Desk) (id : String) :
    desk.request .delete id = (desk.request .get id).map (·.withMethod .delete) := by
  unfold request
  cases desk.endpoint.segmentUrl desk.path id with
  | error e => rfl
  | ok url =>
    show Request.make .delete url _ _ = (Request.make .get url _ _).map _
    unfold Request.make
    split
    · rfl
    · rfl

theorem Admits.isSegment (h : desk.Admits id) : Endpoint.isSegment id = true := by
  obtain ⟨c, hc, -⟩ := h.visible
  rw [← Bool.not_eq_false, Url.isSegment_eq_false_iff]
  rintro (hnil | hdot | hdots)
  · rw [hnil] at hc
    exact absurd hc List.not_mem_nil
  · exact h.not_dots.1 (String.toList_inj.mp hdot)
  · exact h.not_dots.2 (String.toList_inj.mp hdots)

theorem not_admits_of_mem (h : id ∈ ["", ".", ".."]) : ¬ desk.Admits id := by
  intro admits
  have legal := admits.isSegment
  simp only [List.mem_cons, List.not_mem_nil, or_false] at h
  rcases h with rfl | rfl | rfl
  · exact absurd legal (by decide)
  · exact absurd legal (by decide)
  · exact absurd legal (by decide)

/-- What can be asked at a desk, and how. -/
theorem exists_of_request (h : desk.request .get id = .ok look) :
    (id ≠ "." ∧ id ≠ "..") ∧ desk.endpoint.Serves desk.path desk.headers
      ∧ desk.Looks id look := by
  obtain ⟨url, hurl, made⟩ := exists_ok_of_bind h
  obtain ⟨v, hv⟩ := Endpoint.exists_parse_of_segmentUrl hurl
  obtain ⟨legal, parts, hparts, rfl⟩ := (Endpoint.segmentUrl_eq_ok_iff hv).mp hurl
  obtain ⟨fit, hlook⟩ := Request.make_eq_ok_iff.mp made
  have haddress : look.url = { v.below parts id with credentials := look.url.credentials } := by
    rw [hlook]
    exact takeLogin_fst _
  refine ⟨?_, ⟨⟨v, parts, hv, hparts⟩, fit⟩, ?_⟩
  · constructor
    · rintro rfl
      exact absurd legal (by decide)
    · rintro rfl
      exact absurd legal (by decide)
  · exact ⟨by rw [hlook], v, parts, hv, hparts, Url.namesBelow_below_iff hparts legal,
      haddress, made⟩

/-- A desk can be asked about a job exactly if the id is not blank and the request can be
made. -/
theorem admits_iff : desk.Admits id ↔
    Text.isBlankText id = false ∧ ∃ look, desk.request .get id = .ok look := by
  constructor
  · intro h
    exact ⟨Text.isBlankText_eq_false_iff.mpr h.visible, h.serves.exists_request h.isSegment .get .empty⟩
  · rintro ⟨given, look, made⟩
    obtain ⟨dots, serves, -⟩ := exists_of_request made
    exact ⟨Text.isBlankText_eq_false_iff.mp given, dots, serves⟩

theorem Looks.request_eq (h : desk.Looks id look) (admits : desk.Admits id) :
    desk.request .get id = .ok look := by
  obtain ⟨v, parts, hv, hparts, -, -, made⟩ := h.address
  have hurl : desk.endpoint.segmentUrl desk.path id = .ok (v.below parts id) :=
    (Endpoint.segmentUrl_eq_ok_iff hv).mpr ⟨admits.isSegment, parts, hparts, rfl⟩
  rw [request, hurl]
  exact made

end Desk

/-- That a service looks at jobs and stops them at a desk. -/
structure Service.Keeps (service : Service) (desk : Desk) : Prop where
  looks : ∀ id, (service.call (.status id)).request = desk.request .get id
  stops : ∀ id, (service.call (.cancel id)).request = desk.request .delete id
  tells : ∀ {id}, desk.Admits id → ∀ {net : Network} {r : Response},
    net.line.response? = some r → ∀ x,
      (service.backend.answer (.status id) net).1.outcome = x ↔ desk.Tells id r x
  accepts : ∀ id r, ((service.call (.cancel id)).interpret r).isOk = r.accepted

end Http

open Http (Desk)

namespace Slurm.Driver

/-- The desk of a Slurm driver. -/
def desk (d : Driver) : Desk where
  endpoint := d.endpoint
  path := "slurm/v0.0.40/job"
  headers := d.headers
  Tells id r := r.Tells id ["jobs", "errors"] JobsReply.ofDocument? (Verdict id)

theorem keeps (d : Driver) : d.service.Keeps d.desk where
  looks _ := rfl
  stops _ := rfl
  tells admits _ _ answered x := Call.outcome_eq_iff admits.serves admits.isSegment rfl
    (fun _ => rfl) (fun _ _ h => JobsReply.state_eq_iff h _) answered x
  accepts := d.isOk_interpret_cancel

end Slurm.Driver

namespace Nersc.Driver

/-- The desk of a NERSC driver. -/
def desk (d : Driver) : Desk where
  endpoint := d.endpoint
  path := d.jobsPath
  headers := d.headers
  Tells id r := r.Tells id Report.fieldNames Report.ofDocument? (Verdict id)

theorem keeps (d : Driver) : d.service.Keeps d.desk where
  looks _ := rfl
  stops _ := rfl
  tells admits _ _ answered x := Call.outcome_eq_iff admits.serves admits.isSegment rfl
    (fun _ => rfl) (fun _ _ h => Report.state_eq_iff h _) answered x
  accepts := d.isOk_interpret_cancel

end Nersc.Driver

/-! ### Replies in turn -/

namespace Http

/-- That the second of the replies that wait is a response with a status of success. -/
def Line.AcceptsSecond (line : Line) : Prop :=
  ∃ first second rest, line = .up (first :: .response second :: rest)
    ∧ 200 ≤ second.status ∧ second.status < 300

/-- Behind a first response, the second reply is the next one. -/
theorem Network.acceptsSecond_iff {net : Network} {r : Response}
    (answered : net.line.response? = some r) (request : Request) : net.line.AcceptsSecond ↔
      ∃ r', (net.send request).2.line.response? = some r' ∧ r'.accepted = true := by
  obtain ⟨rest, hline⟩ := Line.response?_eq_some_iff.mp answered
  have hnext : (net.send request).2.line = .up rest := by
    rw [send, hline]
  simp only [hnext, Line.response?_eq_some_iff, Line.AcceptsSecond, hline, Response.accepted_iff]
  constructor
  · rintro ⟨first, second, others, heq, accepted⟩
    obtain ⟨-, rfl⟩ := List.cons.inj (Line.up.inj heq)
    exact ⟨second, ⟨others, rfl⟩, accepted⟩
  · rintro ⟨second, ⟨others, heq⟩, accepted⟩
    obtain rfl := Line.up.inj heq
    exact ⟨_, second, others, rfl, accepted⟩

/-- A desk takes every response to tell something. -/
theorem Service.Keeps.exists_tells {service : Service} {desk : Desk} (keeps : service.Keeps desk)
    {id : String} (admits : desk.Admits id) (r : Response) : ∃ x, desk.Tells id r x := by
  let net : Network := { line := .up [.response r], now := .epoch }
  have answered : net.line.response? = some r := rfl
  exact ⟨_, (keeps.tells admits answered _).mp rfl⟩

/-- And nothing else. -/
theorem Service.Keeps.tells_unique {service : Service} {desk : Desk} (keeps : service.Keeps desk)
    {id : String} (admits : desk.Admits id) {r : Response} {x y : Except Error JobState}
    (hx : desk.Tells id r x) (hy : desk.Tells id r y) : x = y := by
  let net : Network := { line := .up [.response r], now := .epoch }
  have answered : net.line.response? = some r := rfl
  exact ((keeps.tells admits answered x).mpr hx).symm.trans
    ((keeps.tells admits answered y).mpr hy)

end Http

/-! ### Cancelling -/

namespace CommandLine

/-- An invocation that cancels a job. -/
def cancelling (driver : String) (flags : Flags) (id : String) : Invocation :=
  { driver, flags, command := .cancel id }

/-- The desk of the driver that an invocation selects: the driver with the name, made from the
settings that the environment and the flags give. -/
inductive Selects (s : Surroundings) (i : Invocation) : Desk → Prop
  | slurm {settings : Settings} {d : Slurm.Driver} (named : i.driver = "slurm-rest")
    (given : settingsOf s.env? i.flags = .ok settings)
    (made : Slurm.Driver.ofSettings settings = .ok d) : Selects s i d.desk
  | nersc {settings : Settings} {d : Nersc.Driver} (named : i.driver = "nersc")
    (given : settingsOf s.env? i.flags = .ok settings)
    (made : Nersc.Driver.ofSettings settings = .ok d) : Selects s i d.desk

/-- That the first reply tells the state of the job with an id, after a driver was selected
that can be asked about it. -/
def Finds (s : Surroundings) (i : Invocation) (id : String) (line : Line) (state : JobState) :
    Prop :=
  ∃ desk r, Selects s i desk ∧ desk.Admits id ∧ line.response? = some r
    ∧ desk.Tells id r (.ok state)

/-- How a cancellation goes, with the requests that it makes, in order. -/
inductive Cancels (s : Surroundings) (i : Invocation) (id : String) (line : Line) :
    List Request → Prop
  | unconfigured (unsound : ∀ desk, ¬ Selects s i desk) : Cancels s i id line []
  | unasked {desk : Desk} (selected : Selects s i desk) (unasked : ¬ desk.Admits id) :
    Cancels s i id line []
  /-- No response comes for the look. -/
  | unanswered {desk : Desk} {look : Request} (selected : Selects s i desk)
    (admits : desk.Admits id) (looks : desk.Looks id look) (silence : line.response? = none) :
    Cancels s i id line [look]
  /-- The response tells no state but an error, whatever that is. -/
  | untold {desk : Desk} {look : Request} {r : Response} {e : Error}
    (selected : Selects s i desk) (admits : desk.Admits id) (looks : desk.Looks id look)
    (answered : line.response? = some r) (told : desk.Tells id r (.error e)) :
    Cancels s i id line [look]
  /-- The response tells a state, whatever that is, and the job is stopped where it was looked
  at. -/
  | told {desk : Desk} {look : Request} {r : Response} {state : JobState}
    (selected : Selects s i desk) (admits : desk.Admits id) (looks : desk.Looks id look)
    (answered : line.response? = some r) (told : desk.Tells id r (.ok state)) :
    Cancels s i id line [look, look.withMethod .delete]

section Run

variable {s : Surroundings} {i : Invocation} {driver : String} {flags : Flags} {id : String}
  {service : Service} {desk desk' : Desk} {net : Network}

/-- What is set up keeps the desk of the driver that is selected. -/
theorem exists_selects (configured : configured? s Registry.builtin i = some service) :
    ∃ desk, Selects s i desk ∧ service.Keeps desk := by
  obtain ⟨settings, given, hmade⟩ := configured?_eq_some_iff.mp configured
  rcases Registry.create_builtin_eq_ok_iff.mp hmade with
    ⟨named, d, made, rfl⟩ | ⟨named, d, made, rfl⟩
  · exact ⟨d.desk, .slurm named given made, d.keeps⟩
  · exact ⟨d.desk, .nersc named given made, d.keeps⟩

theorem Selects.exists_configured (h : Selects s i desk) :
    ∃ service, configured? s Registry.builtin i = some service ∧ service.Keeps desk := by
  cases h with
  | @slurm settings d named given made =>
    exact ⟨d.service, configured?_eq_some_iff.mpr ⟨settings, given,
      Registry.create_builtin_eq_ok_iff.mpr (.inl ⟨named, d, made, rfl⟩)⟩, d.keeps⟩
  | @nersc settings d named given made =>
    exact ⟨d.service, configured?_eq_some_iff.mpr ⟨settings, given,
      Registry.create_builtin_eq_ok_iff.mpr (.inr ⟨named, d, made, rfl⟩)⟩, d.keeps⟩

/-- One driver is selected. -/
theorem Selects.unique (h : Selects s i desk) (h' : Selects s i desk') : desk = desk' := by
  cases h with
  | slurm named given made =>
    cases h' with
    | slurm _ given' made' =>
      obtain rfl := Except.ok.inj (given.symm.trans given')
      obtain rfl := Except.ok.inj (made.symm.trans made')
      rfl
    | nersc named' _ _ => exact absurd (named.symm.trans named') (by decide)
  | nersc named given made =>
    cases h' with
    | slurm named' _ _ => exact absurd (named.symm.trans named') (by decide)
    | nersc _ given' made' =>
      obtain rfl := Except.ok.inj (given.symm.trans given')
      obtain rfl := Except.ok.inj (made.symm.trans made')
      rfl

theorem run_cancelling_of_configured
    (configured : configured? s Registry.builtin (cancelling driver flags id) = some service) :
    run s Registry.builtin (cancelling driver flags id) net = cancel s service id net := by
  obtain ⟨settings, given, reach⟩ := runWith_of_configured configured
  simp only [cancelling] at given reach
  simp only [run, given, reach, cancelling]

theorem cancel_of_unattached {causes : List String} {after : Network}
    (h : attach s service id net = (.error causes, after)) :
    cancel s service id net = (.failing causes, after) := by
  rw [cancel, h]

/-- Stopping a job that was attached to succeeds exactly if its one query does. -/
theorem cancel_of_attached {job : Job} {after : Network}
    (h : attach s service id net = (.ok job, after)) (bound : job.nativeId = some id) :
    (cancel s service id net).1.exitCode
        = (if (service.backend.answer (.cancel id) after).1.succeeded then 0 else 1)
      ∧ (cancel s service id net).2 = (service.backend.answer (.cancel id) after).2 := by
  have hcancel : Lifecycle.cancel job = .ask (.cancel id) fun answer =>
      { value := answer.outcome, job, events := [Lifecycle.cancelEvent id answer.outcome] } := by
    rw [Lifecycle.cancel, bound]
  rw [cancel, h]
  simp only [hcancel, Plan.run_ask]
  cases answered : (service.backend.answer (.cancel id) after).1.outcome with
  | error e =>
    rw [Answer.succeeded_of_error answered]
    exact ⟨rfl, rfl⟩
  | ok u =>
    rw [Answer.succeeded_of_ok answered]
    exact ⟨rfl, rfl⟩

/-! What the look comes to, if it can be made and if it cannot. -/

theorem attach_of_not_admits (s : Surroundings) (net : Network) (keeps : service.Keeps desk)
    (unasked : ¬ desk.Admits id) : ∃ causes, attach s service id net = (.error causes, net) := by
  cases given : Text.isBlankText id with
  | true => exact attach_of_blank s service net given
  | false =>
    cases unmade : desk.request .get id with
    | ok look => exact absurd (Desk.admits_iff.mpr ⟨given, look, unmade⟩) unasked
    | error e =>
      have hanswer : service.backend.answer (.status id) net
          = ((service.call (.status id)).answer (.error e) net.now, net) := by
        show (service.call (.status id)).run net = _
        rw [Call.run, keeps.looks, unmade]
      have untold : (service.backend.answer (.status id) net).1.outcome = .error e := by
        rw [hanswer, Call.outcome_answer]
      obtain ⟨causes, hattach⟩ := attach_of_untold (s := s) given untold
      exact ⟨causes, by rw [hattach, hanswer]⟩

/-- A look is made by one request. -/
theorem status_snd (keeps : service.Keeps desk) (admits : desk.Admits id) {look : Request}
    (looks : desk.Looks id look) :
    (service.backend.answer (.status id) net).2 = net.sendAll [look] := by
  have hrequests : (service.call (.status id)).requests = [look] := by
    rw [Call.requests, keeps.looks, looks.request_eq admits]
  rw [← hrequests]
  exact Call.run_snd _ net

/-- Nothing is stopped after a look that tells no state. -/
theorem run_cancelling_of_untold
    (configured : configured? s Registry.builtin (cancelling driver flags id) = some service)
    (keeps : service.Keeps desk) (admits : desk.Admits id) {look : Request}
    (looks : desk.Looks id look) {e : Error}
    (untold : (service.backend.answer (.status id) net).1.outcome = .error e) :
    ∃ causes, run s Registry.builtin (cancelling driver flags id) net
      = (.failing causes, net.sendAll [look]) := by
  obtain ⟨causes, hattach⟩ := attach_of_untold (s := s) (Desk.admits_iff.mp admits).1 untold
  refine ⟨causes, ?_⟩
  rw [run_cancelling_of_configured configured, cancel_of_unattached hattach,
    status_snd keeps admits looks]

/-- Nothing comes of a look that no response comes for. -/
theorem exists_error_of_silence (service : Service) (id : String)
    (silence : net.line.response? = none) :
    ∃ e, (service.backend.answer (.status id) net).1.outcome = .error e := by
  have houtcome := Call.outcome_run_eq (service.call (.status id)) net
  rw [silence] at houtcome
  cases hrequest : (service.call (.status id)).request with
  | error e => exact ⟨e, houtcome.trans (by rw [hrequest]; rfl)⟩
  | ok look => exact ⟨look.unanswered, houtcome.trans (by rw [hrequest]; rfl)⟩

/-- After a look, stopping the job succeeds exactly if the second reply accepts it. -/
theorem succeeded_cancel_iff (keeps : service.Keeps desk) (admits : desk.Admits id)
    {look : Request} (looks : desk.Looks id look) {r : Response}
    (answered : net.line.response? = some r) :
    (service.backend.answer (.cancel id) (net.sendAll [look])).1.succeeded = true
      ↔ net.line.AcceptsSecond := by
  have made : (service.call (.cancel id)).request.isOk = true := by
    rw [keeps.stops, Desk.request_delete, looks.request_eq admits]
    rfl
  refine (Call.succeeded_run_iff _ _).trans ?_
  simp only [made, true_and, keeps.accepts]
  exact (Network.acceptsSecond_iff answered look).symm

theorem cancel_snd (keeps : service.Keeps desk) (admits : desk.Admits id) {look : Request}
    (looks : desk.Looks id look) (after : Network) :
    (service.backend.answer (.cancel id) after).2 = after.sendAll [look.withMethod .delete] := by
  have hrequests : (service.call (.cancel id)).requests = [look.withMethod .delete] := by
    rw [Call.requests, keeps.stops, Desk.request_delete, looks.request_eq admits]
    rfl
  rw [← hrequests]
  exact Call.run_snd _ after

/-- A cancellation goes in one of the ways described. -/
theorem exists_cancels (s : Surroundings) (i : Invocation) (id : String) (line : Line) :
    ∃ requests, Cancels s i id line requests := by
  by_cases unsound : ∀ desk, ¬ Selects s i desk
  · exact ⟨_, .unconfigured unsound⟩
  · obtain ⟨desk, selected⟩ := not_forall_not.mp unsound
    by_cases admits : desk.Admits id
    · obtain ⟨service, -, keeps⟩ := selected.exists_configured
      obtain ⟨look, made⟩ := (Desk.admits_iff.mp admits).2
      obtain ⟨-, -, looks⟩ := Desk.exists_of_request made
      cases answered : line.response? with
      | none => exact ⟨_, .unanswered selected admits looks answered⟩
      | some r =>
        obtain ⟨x, told⟩ := keeps.exists_tells admits r
        cases x with
        | error e => exact ⟨_, .untold selected admits looks answered told⟩
        | ok state => exact ⟨_, .told selected admits looks answered told⟩
    · exact ⟨_, .unasked selected admits⟩

theorem not_deletes (looks : desk.Looks id look) : ¬ ∃ r ∈ [look], r.method = .delete := by
  simp [looks.method]

/-- **A cancellation does as it is described**: it makes the requests, and it succeeds exactly
if they stop the job and the second reply accepts that. -/
theorem cancels_run {requests : List Request}
    (h : Cancels s (cancelling driver flags id) id net.line requests) :
    (run s Registry.builtin (cancelling driver flags id) net).2 = net.sendAll requests
      ∧ ((run s Registry.builtin (cancelling driver flags id) net).1.exitCode = 0
        ↔ (∃ r ∈ requests, r.method = .delete) ∧ net.line.AcceptsSecond) := by
  cases h with
  | unconfigured unsound =>
    have hnone : configured? s Registry.builtin (cancelling driver flags id) = none := by
      rw [Option.eq_none_iff_forall_ne_some]
      intro service configured
      obtain ⟨desk, selected, -⟩ := exists_selects configured
      exact unsound desk selected
    obtain ⟨causes, hrun⟩ := run_of_unconfigured net (fun _ => Command.noConfusion) hnone
    rw [hrun]
    exact ⟨rfl, iff_of_false Nat.one_ne_zero (by simp)⟩
  | unasked selected unasked =>
    obtain ⟨service, configured, keeps⟩ := selected.exists_configured
    obtain ⟨causes, hattach⟩ := attach_of_not_admits s net keeps unasked
    rw [run_cancelling_of_configured configured, cancel_of_unattached hattach]
    exact ⟨rfl, iff_of_false Nat.one_ne_zero (by simp)⟩
  | unanswered selected admits looks silence =>
    obtain ⟨service, configured, keeps⟩ := selected.exists_configured
    obtain ⟨e, untold⟩ := exists_error_of_silence service id silence
    obtain ⟨causes, hrun⟩ := run_cancelling_of_untold configured keeps admits looks untold
    rw [hrun]
    exact ⟨rfl, iff_of_false Nat.one_ne_zero fun h => not_deletes looks h.1⟩
  | untold selected admits looks answered told =>
    obtain ⟨service, configured, keeps⟩ := selected.exists_configured
    have untold := (keeps.tells admits answered _).mpr told
    obtain ⟨causes, hrun⟩ := run_cancelling_of_untold configured keeps admits looks untold
    rw [hrun]
    exact ⟨rfl, iff_of_false Nat.one_ne_zero fun h => not_deletes looks h.1⟩
  | told selected admits looks answered told =>
    obtain ⟨service, configured, keeps⟩ := selected.exists_configured
    have hstate := (keeps.tells admits answered _).mpr told
    obtain ⟨job, bound, -, hattach⟩ := attach_of_told (s := s) (Desk.admits_iff.mp admits).1 hstate
    obtain ⟨hcode, hnet⟩ := cancel_of_attached hattach bound
    rw [status_snd keeps admits looks] at hcode hnet
    rw [run_cancelling_of_configured configured, hnet, cancel_snd keeps admits looks,
      ← Network.sendAll_append, hcode, ← succeeded_cancel_iff keeps admits looks answered]
    refine ⟨rfl, ?_⟩
    simp [Request.withMethod]

namespace Cancels

variable {line : Line} {requests : List Request}

/-- A job is stopped exactly if the first reply tells its state. -/
theorem deletes_iff (h : Cancels s i id line requests) :
    (∃ r ∈ requests, r.method = .delete) ↔ ∃ state, Finds s i id line state := by
  cases h with
  | unconfigured unsound =>
    refine iff_of_false (by simp) ?_
    rintro ⟨state, desk, r, selected, -⟩
    exact unsound desk selected
  | unasked selected unasked =>
    refine iff_of_false (by simp) ?_
    rintro ⟨state, desk, r, selected', admits, -⟩
    obtain rfl := selected.unique selected'
    exact unasked admits
  | unanswered selected admits looks silence =>
    refine iff_of_false (not_deletes looks) ?_
    rintro ⟨state, desk, r, -, -, answered, -⟩
    exact nomatch silence.symm.trans answered
  | untold selected admits looks answered told =>
    refine iff_of_false (not_deletes looks) ?_
    rintro ⟨state, desk, r, selected', -, answered', told'⟩
    obtain rfl := selected.unique selected'
    obtain rfl := Option.some.inj (answered.symm.trans answered')
    obtain ⟨service, -, keeps⟩ := selected.exists_configured
    exact nomatch keeps.tells_unique admits told told'
  | told selected admits looks answered told =>
    exact iff_of_true (by simp [Request.withMethod]) ⟨_, _, _, selected, admits, answered, told⟩

/-- Nothing is asked about an id that is empty or dots. -/
theorem eq_nil_of_mem (h : Cancels s i id line requests) (illegal : id ∈ ["", ".", ".."]) :
    requests = [] := by
  cases h with
  | unconfigured _ => rfl
  | unasked _ _ => rfl
  | unanswered _ admits _ _ => exact absurd admits (Desk.not_admits_of_mem illegal)
  | untold _ admits _ _ _ => exact absurd admits (Desk.not_admits_of_mem illegal)
  | told _ admits _ _ _ => exact absurd admits (Desk.not_admits_of_mem illegal)

end Cancels

/-- **What a cancellation sends, and how it ends.**  There is a way in which it goes, and
however that is, it makes the requests that belong to it: it looks at the job where its id has
an address, and then stops it by the same request with another method, exactly if the first
reply tells a state, whichever that is.  For an id that is empty or dots it asks nothing.  It
exits with zero exactly if the first reply tells a state and the second has a status of
success, and else with one. -/
theorem cancel_run (s : Surroundings) (driver : String) (flags : Flags) (id : String)
    (net : Network) :
    let i := cancelling driver flags id
    let ran := run s Registry.builtin i net
    (∃ requests, Cancels s i id net.line requests)
      ∧ (∀ requests, Cancels s i id net.line requests →
        ran.2 = net.sendAll requests
          ∧ (net.line ≠ .down → ran.2.sent = net.sent ++ requests)
          ∧ (id ∈ ["", ".", ".."] → requests = [])
          ∧ ((∃ r ∈ requests, r.method = .delete) ↔ ∃ state, Finds s i id net.line state))
      ∧ (ran.1.exitCode = 0 ↔ (∃ state, Finds s i id net.line state) ∧ net.line.AcceptsSecond)
      ∧ (ran.1.exitCode ≠ 0 → ran.1.exitCode = 1) := by
  have hways := exists_cancels s (cancelling driver flags id) id net.line
  refine ⟨hways, fun requests h => ?_, ?_, Result.exitCode_of_ne_zero⟩
  · obtain ⟨hnet, -⟩ := cancels_run h
    rw [hnet]
    exact ⟨rfl, fun up => Network.sent_sendAll up requests, h.eq_nil_of_mem, h.deletes_iff⟩
  · obtain ⟨requests, h⟩ := hways
    rw [(cancels_run h).2, h.deletes_iff]

/-- A network on which the job has completed, and that answers a second request with a
status. -/
def stopping (status : Nat) : Network where
  line := .up [.response (stateResponse "COMPLETED"), .response ⟨status, .whole []⟩]
  now := .epoch

/-- A job that has completed is stopped all the same, and it is for the second reply to refuse
that, while dots are not even looked at. -/
theorem cancel_run_completed :
    let place := "http://localhost:6820/slurm/v0.0.40/job/7"
    let stopped (status : Nat) :=
      run bareSurroundings Registry.builtin (cancelling "slurm-rest" {} "7") (stopping status)
    (stopped 200).2.sent.map (fun r => (r.method, r.url.print)) = [(.get, place), (.delete, place)]
      ∧ (stopped 200).1.exitCode = 0 ∧ (stopped 500).1.exitCode = 1
      ∧ (run bareSurroundings Registry.builtin (cancelling "slurm-rest" {} "..")
        (stopping 200)).2.sent = [] := by
  have selected : Selects bareSurroundings (cancelling "slurm-rest" {} "7") bareSlurm.desk :=
    .slurm rfl rfl rfl
  have serves : bareSlurm.desk.endpoint.Serves bareSlurm.desk.path bareSlurm.desk.headers := by
    let place : Url :=
      { scheme := "http".toList, host := some (.domain "localhost".toList), port := some 6820
        path := .segments ["slurm".toList, "v0.0.40".toList, "job".toList] }
    exact ⟨⟨place, _, by decide +kernel, rfl⟩, by decide +kernel⟩
  have admits : bareSlurm.desk.Admits "7" := ⟨⟨'7', by decide, by decide⟩, by decide, serves⟩
  have answered (status : Nat) :
    (stopping status).line.response? = some (stateResponse "COMPLETED") := rfl
  have told : bareSlurm.desk.Tells "7" (stateResponse "COMPLETED") (.ok .completed) :=
    (bareSlurm.keeps.tells admits (answered 200) _).mp (by decide +kernel)
  have found (status : Nat) : ∃ state, Finds bareSurroundings (cancelling "slurm-rest" {} "7") "7"
      (stopping status).line state := ⟨_, _, _, selected, admits, answered status, told⟩
  have accepts : (stopping 200).line.AcceptsSecond := ⟨_, _, _, rfl, by decide, by decide⟩
  have refuses : ¬ (stopping 500).line.AcceptsSecond := by
    rintro ⟨first, second, rest, heq, -, high⟩
    obtain ⟨-, hsecond⟩ := List.cons.inj (Line.up.inj heq)
    obtain rfl := Reply.response.inj (List.cons.inj hsecond).1
    exact absurd high (by decide)
  refine ⟨by decide +kernel, ?_, ?_, ?_⟩
  · obtain ⟨-, -, hcode, -⟩ := cancel_run bareSurroundings "slurm-rest" {} "7" (stopping 200)
    exact hcode.mpr ⟨found 200, accepts⟩
  · obtain ⟨-, -, hcode, hone⟩ := cancel_run bareSurroundings "slurm-rest" {} "7" (stopping 500)
    exact hone fun hzero => refuses (hcode.mp hzero).2
  · obtain ⟨⟨requests, h⟩, hgoes, -⟩ :=
      cancel_run bareSurroundings "slurm-rest" {} ".." (stopping 200)
    obtain ⟨-, hsent, hnil, -⟩ := hgoes requests h
    rw [hnil (by decide)] at hsent
    exact hsent Line.noConfusion

end Run

end CommandLine

end RemoteBatch
