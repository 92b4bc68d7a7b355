import RemoteBatch.Lifecycle
import RemoteBatch.Nersc.Service
import RemoteBatch.Slurm.Service

/-!
# Replies that report a failure

Both schedulers accept requests that they then fail, and say so in the reply:
Slurm by a list of errors, NERSC by a status of its own.  A driver that reads the
reply finds the report and fails, whatever else the reply holds.  Two kinds of
request pass such a reply over.  No driver reads what a cancellation is answered
with, and a submission to NERSC is read for its id alone.

## Main definitions

* `Slurm.Complains`, `Nersc.SaysError` — that a reply reports a failure.
* `Driver.Taken` — the queries whose failure is taken for success.
* `Backend.SucceedsExactly` — what queries succeed, and what the lifecycle makes of
  it.

## Main results

* `Slurm.Driver.succeeded_iff`, `Nersc.Driver.succeeded_iff` — the queries that
  succeed on a report of failure.
* `Backend.succeedsExactly` — what follows for handles.
* `succeedsExactly_of_failureReport` — **what is made of a report of failure.**
-/

namespace RemoteBatch

open Json (Document Fields)
open Http (Call Network Reply Response)

/-! ### Slurm -/

namespace Slurm

/-- That a reply holds errors. -/
def Complains (d : Document) : Prop :=
  ∃ members first rest, d = .object members ∧
    (some "errors", Document.array (first :: rest)) ∈ members

theorem complaints_ne_nil {fields : Fields} {first : Document} {rest : List Document}
    (h : fields "errors" = some (.array (first :: rest))) {errors : List Complaint}
    (hread : fields.withDefault "errors" [] (Document.list? Complaint.ofDocument?)
      = some errors) : errors ≠ [] := by
  rintro rfl
  simp only [Fields.withDefault, h, Document.list?, List.mapM_cons, Option.bind_eq_bind,
    Option.bind_eq_some_iff] at hread
  obtain ⟨c, -, cs, -, hnil⟩ := hread
  cases hnil

theorem SubmitReply.errors_ne_nil {d : Document} (h : Complains d) {reply : SubmitReply}
    (hread : SubmitReply.ofDocument? d = some reply) : reply.errors ≠ [] := by
  obtain ⟨members, first, rest, rfl, hmem⟩ := h
  simp only [SubmitReply.ofDocument?, Option.bind_eq_bind, Option.bind_eq_some_iff,
    Option.some.injEq] at hread
  obtain ⟨fields, hfields, jobId, -, errors, herrors, rfl⟩ := hread
  exact complaints_ne_nil (Document.field_of_mem hfields (by decide) hmem) herrors

theorem JobsReply.errors_ne_nil {d : Document} (h : Complains d) {reply : JobsReply}
    (hread : JobsReply.ofDocument? d = some reply) : reply.errors ≠ [] := by
  obtain ⟨members, first, rest, rfl, hmem⟩ := h
  simp only [JobsReply.ofDocument?, Option.bind_eq_bind, Option.bind_eq_some_iff,
    Option.some.injEq] at hread
  obtain ⟨fields, hfields, jobs, -, errors, herrors, rfl⟩ := hread
  exact complaints_ne_nil (Document.field_of_mem hfields (by decide) hmem) herrors

theorem isOk_checkErrors_bind {errors : List Complaint} (h : errors ≠ []) (context : String)
    (f : Unit → Except Error α) : (checkErrors errors context >>= f).isOk = false := by
  cases errors with
  | nil => exact absurd rfl h
  | cons c errors => rfl

theorem SubmitReply.isOk_id {reply : SubmitReply} (h : reply.errors ≠ []) :
    reply.id.isOk = false := isOk_checkErrors_bind h _ _

theorem JobsReply.isOk_infos_bind {reply : JobsReply} (h : reply.errors ≠ []) (context : String)
    (f : List JobInfo → Except Error α) : (reply.infos context >>= f).isOk = false := by
  rw [infos, bind_assoc]
  exact isOk_checkErrors_bind h _ _

namespace Driver

/-- Of the reply to a cancellation the status alone is looked at. -/
theorem isOk_interpret_cancel (d : Driver) (id : String) (r : Response) :
    ((d.cancel id).interpret r).isOk = r.accepted :=
  (Error.isOk_mapError _ _).trans (Response.isOk_expectSuccess r)

/-- The queries whose failure is taken for success: cancellations that are sent. -/
def Taken (d : Driver) : Query → Prop
  | .cancel id => (d.cancel id).request.isOk = true
  | _ => False

theorem succeeded_iff {net : Network} {r : Response} {doc : Document}
    (answered : net.line.response? = some r) (haccepted : r.accepted = true)
    (hdoc : r.document? = some doc) (h : Complains doc) (d : Driver) (q : Query) :
    (d.service.backend.answer q net).1.succeeded = true ↔ d.Taken q := by
  refine (Call.succeeded_run_iff _ net).trans ?_
  simp only [answered, Option.some.injEq, exists_eq_left']
  cases q with
  | submit spec =>
    refine ⟨?_, False.elim⟩
    rintro ⟨-, hok⟩
    obtain ⟨reply, hread, hid⟩ := (Response.isOk_decode_bind haccepted hdoc _ _).mp hok
    rw [SubmitReply.isOk_id (SubmitReply.errors_ne_nil h hread)] at hid
    exact nomatch hid
  | cancel id =>
    have hok : ((d.cancel id).interpret r).isOk = true :=
      (d.isOk_interpret_cancel id r).trans haccepted
    exact ⟨fun hsent => hsent.1, fun hsent => ⟨hsent, hok⟩⟩
  | list =>
    refine ⟨?_, False.elim⟩
    rintro ⟨-, hok⟩
    obtain ⟨reply, hread, hids⟩ := (Response.isOk_decode_bind haccepted hdoc _ _).mp hok
    rw [JobsReply.isOk_infos_bind (JobsReply.errors_ne_nil h hread)] at hids
    exact nomatch hids
  | status id =>
    refine ⟨?_, False.elim⟩
    rintro ⟨-, hok⟩
    change ((r.decode JobsReply.ofDocument?).mapError (Error.aboutJob id)
      >>= fun reply => reply.state id).isOk = true at hok
    -- an error keeps being one, however it is put
    rw [Error.isOk_mapError_bind, Response.isOk_decode_bind haccepted hdoc] at hok
    obtain ⟨reply, hread, hstate⟩ := hok
    rw [JobsReply.state, JobsReply.isOk_infos_bind (JobsReply.errors_ne_nil h hread)] at hstate
    exact nomatch hstate

end Driver

end Slurm

/-! ### NERSC -/

namespace Nersc

/-- That a reply has the status of a failure. -/
def SaysError (d : Document) : Prop :=
  ∃ members token, d = .object members ∧
    (some "status", Document.string (some token)) ∈ members ∧
    Text.sameIgnoringCase token "ERROR" = true

/-- The id that a reply to a submission brings. -/
def submittedId? (d : Document) : Option String := (submitId? d).join.bind nativeId?

theorem Report.failure?_eq_some {members : List (Option String × Document)}
    (h : SaysError (.object members)) {report : Report}
    (hread : ((Document.object members).members? fieldNames).bind ofFields? = some report) :
    ∃ text, report.failure? = some text := by
  obtain ⟨members', token, hd, hmem, herror⟩ := h
  obtain rfl := Document.object.inj hd
  simp only [Option.bind_eq_some_iff, ofFields?, Option.bind_eq_bind, Option.some.injEq] at hread
  obtain ⟨fields, hfields, status, hstatus, error, -, output, -, rfl⟩ := hread
  have hfield := Document.field_of_mem hfields (show "status" ∈ fieldNames by decide) hmem
  simp only [Fields.optional, hfield, Document.text?, Option.map_some, Option.some.injEq] at hstatus
  refine ⟨error.getD "unknown error", ?_⟩
  rw [failure?, ← hstatus, Option.any_some, if_pos herror]

theorem Report.isOk_state {d : Document} (h : SaysError d) {report : Report}
    (hread : ofDocument? d = some report) (id : String) : (report.state id).isOk = false := by
  obtain ⟨members, token, rfl, herror⟩ := h
  obtain ⟨text, htext⟩ := Report.failure?_eq_some ⟨members, token, rfl, herror⟩ hread
  rw [Report.state, htext]
  rfl

theorem Listing.isOk_jobs_bind {d : Document} (h : SaysError d) {listing : Listing}
    (hread : ofDocument? d = some listing) (f : List Record → Except Error α) :
    (listing.jobs >>= f).isOk = false := by
  obtain ⟨members, token, rfl, herror⟩ := h
  unfold ofDocument? at hread
  split at hread
  · exact nomatch hread
  · obtain ⟨report, hreport, rfl⟩ := Option.map_eq_some_iff.mp hread
    obtain ⟨text, htext⟩ := Report.failure?_eq_some ⟨members, token, rfl, herror⟩ hreport
    rw [Listing.jobs, htext]
    rfl

namespace Driver

/-- Of the reply to a cancellation the status alone is looked at. -/
theorem isOk_interpret_cancel (d : Driver) (id : String) (r : Response) :
    ((d.cancel id).interpret r).isOk = r.accepted := Response.isOk_expectSuccess r

/-- The queries whose failure is taken for success, by what the reply to them holds:
cancellations that are sent, and submissions that are sent and bring an id. -/
def Taken (d : Driver) (reply : Document) : Query → Prop
  | .cancel id => (d.cancel id).request.isOk = true
  | .submit spec => (d.submit spec).request.isOk = true ∧ (submittedId? reply).isSome = true
  | _ => False

theorem interpret_submit_eq_ok_iff {r : Response} {doc : Document} (haccepted : r.accepted = true)
    (hdoc : r.document? = some doc) (d : Driver) (spec : JobSpec) (id : String) :
    (d.submit spec).interpret r = .ok id ↔ submittedId? doc = some id := by
  simp only [submit, submittedId?, Response.decode, if_pos haccepted, hdoc, Option.bind_some]
  cases submitId? doc with
  | none => simp [Bind.bind, Except.bind]
  | some v =>
    cases hid : v.bind nativeId? with
    | none => simp [Bind.bind, Except.bind, hid, throw, throwThe, MonadExceptOf.throw]
    | some id => simp [Bind.bind, Except.bind, hid, pure, Except.pure]

theorem succeeded_iff {net : Network} {r : Response} {doc : Document}
    (answered : net.line.response? = some r) (haccepted : r.accepted = true)
    (hdoc : r.document? = some doc) (h : SaysError doc) (d : Driver) (q : Query) :
    (d.service.backend.answer q net).1.succeeded = true ↔ d.Taken doc q := by
  refine (Call.succeeded_run_iff _ net).trans ?_
  simp only [answered, Option.some.injEq, exists_eq_left']
  cases q with
  | submit spec =>
    refine and_congr_right fun _ => Error.isOk_iff.trans ?_
    simp only [Option.isSome_iff_exists]
    exact exists_congr (interpret_submit_eq_ok_iff haccepted hdoc d spec)
  | cancel id =>
    have hok : ((d.cancel id).interpret r).isOk = true :=
      (d.isOk_interpret_cancel id r).trans haccepted
    exact ⟨fun hsent => hsent.1, fun hsent => ⟨hsent, hok⟩⟩
  | list =>
    refine ⟨?_, False.elim⟩
    rintro ⟨-, hok⟩
    obtain ⟨listing, hread, hids⟩ := (Response.isOk_decode_bind haccepted hdoc _ _).mp hok
    rw [Listing.isOk_jobs_bind h hread] at hids
    exact nomatch hids
  | status id =>
    refine ⟨?_, False.elim⟩
    rintro ⟨-, hok⟩
    change ((r.decode Report.ofDocument?).mapError (Error.aboutJob id)
      >>= fun report => report.state id).isOk = true at hok
    rw [Error.isOk_mapError_bind, Response.isOk_decode_bind haccepted hdoc] at hok
    obtain ⟨report, hread, hstate⟩ := hok
    rw [Report.isOk_state h hread] at hstate
    exact nomatch hstate

end Driver

end Nersc

/-! ### Handles -/

/-- That some queries succeed in a state of the world and no others do, with what
the lifecycle makes of it. -/
structure Backend.SucceedsExactly {σ : Type} (b : Backend σ) (s : σ) (taken : Query → Prop) :
    Prop where
  succeeded_iff : ∀ q, (b.answer q s).1.succeeded = true ↔ taken q
  submitted_iff : ∀ job, ((Lifecycle.submit job).run b s).1.1.value.isOk = true ↔
    taken (.submit job.spec)
  /-- A handle stays unbound without such a submission. -/
  unbound_iff : ∀ job, job.nativeId = none →
    (((Lifecycle.submit job).run b s).1.1.job.nativeId = none ↔ ¬ taken (.submit job.spec))
  /-- No other submission changes a handle. -/
  untouched : ∀ job, ¬ taken (.submit job.spec) →
    ((Lifecycle.submit job).run b s).1.1.job = job
  /-- Only such a cancellation is told to be requested. -/
  requested_iff : ∀ job id, job.nativeId = some id →
    (Lifecycle.cancelEvent id (.ok ()) ∈ ((Lifecycle.cancel job).run b s).1.1.events ↔
      taken (.cancel id))

/-- A submission that fails leaves the handle alone, any other binds it. -/
theorem Lifecycle.run_submit_cases {σ : Type} (b : Backend σ) (s : σ) (job : Job)
    (hid : ∀ id, (b.answer (.submit job.spec) s).1.outcome = .ok id →
      Text.isBlankText id = false) :
    (b.answer (.submit job.spec) s).1.succeeded = false
        ∧ ((submit job).run b s).1.1.value.isOk = false ∧ ((submit job).run b s).1.1.job = job
      ∨ (b.answer (.submit job.spec) s).1.succeeded = true
        ∧ ((submit job).run b s).1.1.value.isOk = true
        ∧ ∃ id, ((submit job).run b s).1.1.job.nativeId = some id := by
  simp only [submit, Plan.run_ask]
  cases houtcome : (b.answer (.submit job.spec) s).1.outcome with
  | error e =>
    left
    rw [concludeSubmit_of_error houtcome]
    exact ⟨Answer.succeeded_of_error houtcome, rfl, rfl⟩
  | ok id =>
    right
    rw [concludeSubmit_of_ok houtcome (hid id houtcome)]
    refine ⟨Answer.succeeded_of_ok houtcome, rfl, id, ?_⟩
    rw [Job.nativeId_transition, Job.nativeId_bind]

theorem Lifecycle.requested_mem_cancel_iff {σ : Type} (b : Backend σ) (s : σ) {job : Job}
    {id : String} (bound : job.nativeId = some id) :
    cancelEvent id (.ok ()) ∈ ((cancel job).run b s).1.1.events ↔
      (b.answer (.cancel id) s).1.succeeded = true := by
  simp only [cancel, bound, Plan.run_ask, List.mem_singleton]
  cases houtcome : (b.answer (.cancel id) s).1.outcome with
  | error e =>
    rw [Answer.succeeded_of_error houtcome]
    exact iff_of_false (fun same => nomatch same) Bool.false_ne_true
  | ok _ =>
    rw [Answer.succeeded_of_ok houtcome]
    exact iff_of_true rfl rfl

theorem Backend.succeedsExactly {σ : Type} {b : Backend σ} {s : σ} {taken : Query → Prop}
    (h : ∀ q, (b.answer q s).1.succeeded = true ↔ taken q)
    (hid : ∀ spec id, (b.answer (.submit spec) s).1.outcome = .ok id →
      Text.isBlankText id = false) : b.SucceedsExactly s taken where
  succeeded_iff := h
  submitted_iff job := by
    rw [← h]
    rcases Lifecycle.run_submit_cases b s job (hid _) with ⟨ha, hv, -⟩ | ⟨ha, hv, -⟩
    · rw [ha, hv]
    · rw [ha, hv]
  unbound_iff job unbound := by
    rw [← h]
    rcases Lifecycle.run_submit_cases b s job (hid _) with ⟨ha, -, hjob⟩ | ⟨ha, -, id, hjob⟩
    · rw [ha, hjob, unbound]
      exact iff_of_true rfl Bool.false_ne_true
    · rw [ha, hjob]
      exact iff_of_false nofun (fun hne => hne rfl)
  untouched job htaken := by
    rw [← h] at htaken
    rcases Lifecycle.run_submit_cases b s job (hid _) with ⟨-, -, hjob⟩ | ⟨ha, -⟩
    · exact hjob
    · exact absurd ha htaken
  requested_iff job id bound := (Lifecycle.requested_mem_cancel_iff b s bound).trans (h _)

/-- **What is made of a report of failure.**  With Slurm, nothing but a cancellation
is taken for success; with NERSC, a cancellation and a submission whose reply brings
an id all the same. -/
theorem succeedsExactly_of_failureReport {net : Network} {r : Response} {replies : List Reply}
    {doc : Document} (hnet : net.line = .up (.response r :: replies))
    (haccepted : r.accepted = true) (hdoc : r.document? = some doc) :
    (Slurm.Complains doc →
      ∀ d : Slurm.Driver, d.service.backend.SucceedsExactly net d.Taken) ∧
    (Nersc.SaysError doc →
      ∀ d : Nersc.Driver, d.service.backend.SucceedsExactly net (d.Taken doc)) := by
  have answered : net.line.response? = some r := Http.Line.response?_eq_some_iff.mpr ⟨_, hnet⟩
  constructor
  · intro h d
    have hiff := Slurm.Driver.succeeded_iff answered haccepted hdoc h d
    refine Backend.succeedsExactly hiff ?_
    -- no submission succeeds, so none brings an id
    intro spec id houtcome
    exact False.elim ((hiff (.submit spec)).mp (Answer.succeeded_of_ok houtcome))
  · intro h d
    refine Backend.succeedsExactly (Nersc.Driver.succeeded_iff answered haccepted hdoc h d) ?_
    intro spec id houtcome
    have hrun := (Call.outcome_run_eq (d.submit spec) net).symm.trans houtcome
    rw [answered] at hrun
    cases hrequest : (d.submit spec).request with
    | error e =>
      rw [hrequest] at hrun
      exact nomatch hrun
    | ok request =>
      rw [hrequest] at hrun
      have hid := (Nersc.Driver.interpret_submit_eq_ok_iff haccepted hdoc d spec id).mp hrun
      obtain ⟨v, -, hv⟩ := Option.bind_eq_some_iff.mp hid
      exact isBlankText_of_nativeId? hv

/-- A reply that reports a failure in both ways and brings an id all the same. -/
def doubtfulBytes : List UInt8 := Text.encodeUtf8
  "\x7b\"errors\":[\x7b\"error\":\"x\"\x7d],\"status\":\"Error\",\"jobid\":\"1\"\x7d".toList

/-- The response with that body. -/
def doubtful : Response := ⟨200, .whole doubtfulBytes⟩

/-- What that reply writes. -/
def doubtfulDocument : Document :=
  .object [(some "errors", .array [.object [(some "error", .string (some "x"))]]),
    (some "status", .string (some "Error")), (some "jobid", .string (some "1"))]

/-- A network with that response for its first request. -/
def doubtfulNetwork : Network :=
  { line := .up [.response doubtful], now := .epoch }

theorem document?_doubtful : doubtful.document? = some doubtfulDocument := by
  have hlex : Json.lex (Text.glyphs doubtfulBytes) = some
      [.openBrace, .string (some "errors"), .colon, .openBracket, .openBrace,
        .string (some "error"), .colon, .string (some "x"), .closeBrace, .closeBracket, .comma,
        .string (some "status"), .colon, .string (some "Error"), .comma,
        .string (some "jobid"), .colon, .string (some "1"), .closeBrace] := by
    decide +kernel
  show (Json.lex (Text.glyphs doubtfulBytes)).bind Document.ofTokens? = _
  rw [hlex]
  rfl

theorem complains_doubtful : Slurm.Complains doubtfulDocument :=
  ⟨_, _, _, rfl, List.mem_cons_self⟩

theorem saysError_doubtful : Nersc.SaysError doubtfulDocument :=
  ⟨_, _, rfl, List.mem_cons_of_mem _ List.mem_cons_self, by decide⟩

/-- Such a reply neither lists jobs nor tells the state of one. -/
theorem succeedsExactly_of_failureReport_doubtful :
    doubtfulNetwork.line = .up [.response doubtful] ∧ doubtful.accepted = true ∧
      doubtful.document? = some doubtfulDocument ∧
      ((Slurm.Driver.mk ⟨"http://h"⟩ "root" "t").service.backend.answer
        .list doubtfulNetwork).1.succeeded = false ∧
      ((Nersc.Driver.mk ⟨"http://h"⟩ "t" "m").service.backend.answer
        (.status "42") doubtfulNetwork).1.succeeded = false := by
  have hnet : doubtfulNetwork.line = .up [.response doubtful] := rfl
  have haccepted : doubtful.accepted = true := rfl
  obtain ⟨hslurm, hnersc⟩ :=
    succeedsExactly_of_failureReport hnet haccepted document?_doubtful
  refine ⟨hnet, haccepted, document?_doubtful, ?_, ?_⟩
  · rw [← Bool.not_eq_true, (hslurm complains_doubtful _).succeeded_iff]
    exact id
  · rw [← Bool.not_eq_true, (hnersc saysError_doubtful _).succeeded_iff]
    exact id

/-- **Failures that are taken for success.**  A cancellation that the scheduler
reports as failed is told to be requested, and a submission that NERSC reports as
failed binds a handle. -/
theorem failureReport_taken_for_success :
    doubtful.accepted = true ∧ doubtful.document? = some doubtfulDocument ∧
      Slurm.Complains doubtfulDocument ∧ Nersc.SaysError doubtfulDocument ∧
      ((Slurm.Driver.mk ⟨"http://h"⟩ "root" "t").service.backend.answer
        (.cancel "42") doubtfulNetwork).1.outcome = .ok () ∧
      ((Nersc.Driver.mk ⟨"http://h"⟩ "t" "m").service.backend.answer
        (.cancel "42") doubtfulNetwork).1.outcome = .ok () ∧
      ((Nersc.Driver.mk ⟨"http://h"⟩ "t" "m").service.backend.answer
        (.submit { executable := "/bin/true" }) doubtfulNetwork).1.outcome = .ok "1" := by
  refine ⟨rfl, document?_doubtful, complains_doubtful, saysError_doubtful, ?_, ?_, ?_⟩
  · decide +kernel
  · decide +kernel
  · decide +kernel

end RemoteBatch
