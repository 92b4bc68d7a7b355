import RemoteBatch.Nersc.Service
import RemoteBatch.Proofs.Replies
import RemoteBatch.Proofs.Segment
import RemoteBatch.Slurm.Service

/-!
# The state that a reply tells

A scheduler that is asked for the state of a job may answer in many ways: it refuses, it
reports an error, it knows no such job, it leaves the state out, or it names one that the
driver's table may or may not hold.  For each driver, a relation between the fields of a
reply and what is to be concluded lists these ways, without regard to the order in which
a reader checks for them; the driver concludes what the relation says and nothing else.

## Main definitions

* `Http.Endpoint.Serves` — that requests about jobs can be made below a place.
* `Slurm.Verdict`, `Nersc.Verdict` — what the fields of a reply tell about a job.
* `Nersc.Selects` — that a token decides the state of a job.

## Main results

* `Http.Call.outcome_eq_iff` — a call about a job concludes what its reply tells.
* `Slurm.JobsReply.state_eq_iff`, `Nersc.Report.state_eq_iff` — the readers conclude what
  the relations say.
* `Slurm.Driver.status_told` — **what a reply of Slurm tells about a job.**
* `Nersc.Driver.status_told_by_report` — **what a reply of NERSC tells about a job.**
-/

namespace RemoteBatch

open Http (Endpoint Line Method Network Request Response)
open Json (Document Fields)

/-! ### Calls about a job -/

namespace Http

/-- That requests about jobs can be made below the place with a path: jobs have addresses
there, and the headers are fit to be sent. -/
structure Endpoint.Serves (e : Endpoint) (path : String) (headers : List (String × String)) :
    Prop where
  place : ∃ v parts, Url.parse (e.place path) = .ok v ∧ v.path = .segments parts
  fit : (headers.all fun h => h.2.toList.all isHeaderChar) = true

theorem Endpoint.Serves.exists_request {e : Endpoint} {path : String}
    {headers : List (String × String)} (h : e.Serves path headers) {id : String}
    (legal : Endpoint.isSegment id = true) (method : Method) (content : Content) :
    ∃ request, (e.segmentUrl path id >>= fun url => Request.make method url headers content)
      = .ok request := by
  obtain ⟨v, parts, hv, hparts⟩ := h.place
  have hurl : e.segmentUrl path id = .ok (v.below parts id) :=
    (Endpoint.segmentUrl_eq_ok_iff hv).mpr ⟨legal, parts, hparts, rfl⟩
  rw [hurl]
  exact ⟨_, if_pos h.fit⟩

/-- **What a call about a job comes to** that meets a response, if its id is a segment and
`means` describes what is made of the fields of a document. -/
theorem Call.outcome_eq_iff {call : Call α} {e : Endpoint} {path id : String}
    {headers : List (String × String)} {method : Method} {content : Content}
    {names : List String} {read : Document → Option β} {f : β → Except Error α}
    {means : Fields → Except Error α → Prop} (serves : e.Serves path headers)
    (legal : Endpoint.isSegment id = true)
    (hrequest : call.request
      = e.segmentUrl path id >>= fun url => Request.make method url headers content)
    (hinterpret : ∀ r, call.interpret r
      = ((r.decode read).mapError (Error.aboutJob id) >>= f))
    (h : ∀ d b, read d = some b → ∃ fields, d.fields? names = some fields ∧
      ∀ x, f b = x ↔ means fields x)
    {net : Network} {r : Response} (hnet : net.line.response? = some r) (x : Except Error α) :
    (call.run net).1.outcome = x ↔ r.Tells id names read means x := by
  obtain ⟨request, hmade⟩ := serves.exists_request legal method content
  have houtcome : (call.run net).1.outcome = call.interpret r := by
    rw [Call.outcome_run_eq, hrequest, hmade, hnet]
    rfl
  rw [houtcome, hinterpret]
  exact Response.decode_eq_iff h r id x

end Http

/-! ### A reply

It tells both drivers of a job that runs, in spite of its status. -/

/-- The body of the reply. -/
def busyBytes : List UInt8 := Text.encodeUtf8
  ("\x7b\"errors\":[],\"jobs\":[\x7b\"job_state\":[\"running\",\"X\"]\x7d],".toList
    ++ "\"status\":\"completed\",\"output\":[\x7b\"state\":\" Running \"\x7d]\x7d".toList)

/-- The response with that body. -/
def busy : Response := ⟨200, .whole busyBytes⟩

/-- A network with that response for its first request. -/
def busyNetwork : Network := { line := .up [.response busy], now := .epoch }

/-- The members of the object that the reply writes. -/
def busyMembers : List (Option String × Document) :=
  [(some "errors", .array []),
    (some "jobs", .array [.object [(some "job_state",
      .array [.string (some "running"), .string (some "X")])]]),
    (some "status", .string (some "completed")),
    (some "output", .array [.object [(some "state", .string (some " Running "))]])]

/-- What the reply writes. -/
def busyDocument : Document := .object busyMembers

theorem document?_busy : busy.document? = some busyDocument := by
  have hlex : Json.lex (Text.glyphs busyBytes) = some
      [.openBrace, .string (some "errors"), .colon, .openBracket, .closeBracket, .comma,
        .string (some "jobs"), .colon, .openBracket, .openBrace, .string (some "job_state"),
        .colon, .openBracket, .string (some "running"), .comma, .string (some "X"),
        .closeBracket, .closeBrace, .closeBracket, .comma,
        .string (some "status"), .colon, .string (some "completed"), .comma,
        .string (some "output"), .colon, .openBracket, .openBrace, .string (some "state"),
        .colon, .string (some " Running "), .closeBrace, .closeBracket, .closeBrace] := by
    decide +kernel
  show (Json.lex (Text.glyphs busyBytes)).bind Document.ofTokens? = _
  rw [hlex]
  rfl

/-! ### Slurm -/

namespace Slurm

/-- That a reply holds no errors. -/
def NoErrors (fields : Fields) : Prop :=
  fields "errors" = none ∨ fields "errors" = some (.array [])

/-- What the errors of a reply are read as. -/
theorem errors_cases {fields : Fields} {errors : List Complaint}
    (h : fields.withDefault "errors" [] (Document.list? Complaint.ofDocument?) = some errors) :
    NoErrors fields ∧ errors = [] ∨ ∃ first rest c cs, fields "errors" =
      some (.array (first :: rest)) ∧ Complaint.ofDocument? first = some c ∧ errors = c :: cs := by
  rcases Fields.withDefault_list?_cases h with ⟨hnone, rfl⟩ | ⟨items, hitems, hread⟩
  · exact .inl ⟨.inl hnone, rfl⟩
  · cases hread with
    | nil => exact .inl ⟨.inr hitems, rfl⟩
    | cons hc _ => exact .inr ⟨_, _, _, _, hitems, hc, rfl⟩

theorem NoErrors.errors_eq_nil {fields : Fields} (h : NoErrors fields) {errors : List Complaint}
    (hread : fields.withDefault "errors" [] (Document.list? Complaint.ofDocument?)
      = some errors) : errors = [] := by
  rcases h with hnone | hempty
  · rw [Fields.withDefault, hnone] at hread
    exact (Option.some.inj hread).symm
  · exact List.forall₂_nil_left_iff.mp (Fields.withDefault_list?_of_array hempty hread)

/-- That a token, of one or more, decides the state of the job that a record is about. -/
def StateIs (record : Document) (token : String) : Prop :=
  token ≠ "" ∧ ∃ fields, record.fields? ["job_id", "job_state"] = some fields ∧
    (fields "job_state" = some (.string (some token)) ∨
      ∃ rest, fields "job_state" = some (.array (.string (some token) :: rest)))

theorem stateToken?_head?_eq_some_iff {d : Document} {tokens : List String}
    (h : stateToken? d = some tokens) {token : String} : tokens.head? = some token ↔
      d = .string (some token) ∨ ∃ rest, d = .array (.string (some token) :: rest) := by
  unfold stateToken? at h
  split at h
  · next s =>
    obtain ⟨s', rfl, rfl⟩ := Option.map_eq_some_iff.mp h
    simp
  · next items =>
    cases mapM_eq_some_iff.mp h with
    | nil => simp
    | cons htoken _ =>
      obtain rfl := Document.text?_eq_some_iff.mp htoken
      simp
  · exact nomatch h

theorem JobInfo.primary?_eq_some_iff {record : Document} {info : JobInfo}
    (h : JobInfo.ofDocument? record = some info) {token : String} :
    info.primary? = some token ↔ StateIs record token := by
  simp only [JobInfo.ofDocument?, Option.bind_eq_bind, Option.bind_eq_some_iff,
    Option.some.injEq] at h
  obtain ⟨fields, hfields, jobId, -, state, hstate, rfl⟩ := h
  have hhead : state.bind List.head? = some token ↔
      fields "job_state" = some (.string (some token)) ∨
        ∃ rest, fields "job_state" = some (.array (.string (some token) :: rest)) := by
    rcases Fields.optional_eq_some_iff.mp hstate with ⟨hnone | hnull, rfl⟩ |
      ⟨d, tokens, hd, -, htokens, rfl⟩
    · simp [hnone]
    · simp [hnull]
    · simp only [hd, Option.bind_some, stateToken?_head?_eq_some_iff htokens, Option.some.injEq]
  simp only [primary?, Option.filter_eq_some_iff, hhead, StateIs, hfields, Option.some.injEq,
    exists_eq_left', Bool.not_eq_true', String.isEmpty_eq_false_iff]
  exact and_comm

/-- What the fields of a reply tell about the job with an id. -/
inductive Verdict (id : String) (fields : Fields) : Except Error JobState → Prop
  /-- The reply holds errors, of which the first counts. -/
  | complaint {first : Document} {rest : List Document} {c : Complaint}
    (errors : fields "errors" = some (.array (first :: rest)))
    (read : Complaint.ofDocument? first = some c) :
    Verdict id fields (.error (.protocol ("Slurm failed to look up job " ++ id ++ ": " ++ c.text)))
  | noJobs (fine : NoErrors fields) (jobs : fields.Lacks "jobs") :
    Verdict id fields
      (.error (.protocol ("Slurm failed to look up job " ++ id ++ ": response has no jobs field")))
  | unknown (fine : NoErrors fields) (jobs : fields "jobs" = some (.array [])) :
    Verdict id fields (.error (.notFound id))
  | stateless {first : Document} {rest : List Document} (fine : NoErrors fields)
    (jobs : fields "jobs" = some (.array (first :: rest)))
    (state : ∀ token, ¬ StateIs first token) :
    Verdict id fields (.error (.protocol ("Slurm job " ++ id ++ " has no job_state")))
  | unmapped {first : Document} {rest : List Document} {token : String} (fine : NoErrors fields)
    (jobs : fields "jobs" = some (.array (first :: rest))) (state : StateIs first token)
    (outside : ∀ s, ¬ states.Holds token s) :
    Verdict id fields (.error (.unmappedState "slurm-rest" token))
  | mapped {first : Document} {rest : List Document} {token : String} {s : JobState}
    (fine : NoErrors fields) (jobs : fields "jobs" = some (.array (first :: rest)))
    (state : StateIs first token) (holds : states.Holds token s) : Verdict id fields (.ok s)

theorem distinct_states : states.Distinct := by decide +kernel

theorem map_states_eq_ok_iff {token : String} {s : JobState} :
    states.map token = .ok s ↔ states.Holds token s := by
  rw [StateTable.map_eq_ok_iff distinct_states]
  exact or_iff_left fun h => nomatch h.2

theorem map_states_eq_error_iff {token : String} {e : Error} : states.map token = .error e ↔
    (∀ s, ¬ states.Holds token s) ∧ e = .unmappedState "slurm-rest" token := by
  rw [StateTable.map_eq_error_iff]
  exact and_congr_right fun _ => and_iff_right rfl

namespace JobsReply

/-- That a reply is read from the fields of a record. -/
structure Reads (fields : Fields) (reply : JobsReply) : Prop where
  jobs : fields.optional "jobs" (Document.list? JobInfo.ofDocument?) = some reply.jobs
  errors : fields.withDefault "errors" [] (Document.list? Complaint.ofDocument?)
    = some reply.errors

theorem exists_reads {d : Document} {reply : JobsReply} (h : ofDocument? d = some reply) :
    ∃ fields, d.fields? ["jobs", "errors"] = some fields ∧ Reads fields reply := by
  simp only [ofDocument?, Option.bind_eq_bind, Option.bind_eq_some_iff, Option.some.injEq] at h
  obtain ⟨fields, hfields, jobs, hjobs, errors, herrors, rfl⟩ := h
  exact ⟨fields, hfields, hjobs, herrors⟩

variable {fields : Fields} {reply : JobsReply}

theorem state_of_complaint {c : Complaint} {cs : List Complaint} (h : reply.errors = c :: cs)
    (id : String) : reply.state id =
      .error (Fault.complaint ("Slurm failed to look up job " ++ id) c.text).error := by
  rw [state, infos, h]
  rfl

theorem state_of_noJobs (herrors : reply.errors = []) (h : reply.jobs = none) (id : String) :
    reply.state id = .error (Fault.missingJobs ("Slurm failed to look up job " ++ id)).error := by
  rw [state, infos, herrors, h]
  rfl

theorem state_of_unknown (herrors : reply.errors = []) (h : reply.jobs = some []) (id : String) :
    reply.state id = .error (.notFound id) := by
  rw [state, infos, herrors, h]
  rfl

theorem state_of_job {info : JobInfo} {rest : List JobInfo} (herrors : reply.errors = [])
    (h : reply.jobs = some (info :: rest)) (id : String) : reply.state id =
      info.primary?.elim (.error (Fault.missingState id).error) states.map := by
  have hinfos : reply.infos ("Slurm failed to look up job " ++ id) = .ok (info :: rest) := by
    rw [infos, herrors, h]
    rfl
  simp only [state, hinfos, Bind.bind, Except.bind]
  cases info.primary? with
  | none => rfl
  | some token => rw [Option.elim_some]

/-- What a reply concludes is among what its fields tell. -/
theorem Reads.verdict (h : Reads fields reply) (id : String) :
    Verdict id fields (reply.state id) := by
  -- errors count before jobs, and of the jobs the first
  rcases errors_cases h.errors with ⟨fine, hnil⟩ | ⟨first, rest, c, cs, hfield, hc, hcons⟩
  · rcases Fields.optional_list?_cases h.jobs with ⟨hlacks, hnone⟩ |
      ⟨items, infos, hitems, hread, hsome⟩
    · rw [state_of_noJobs hnil hnone]
      exact .noJobs fine hlacks
    · cases hread with
      | nil =>
        rw [state_of_unknown hnil hsome]
        exact .unknown fine hitems
      | @cons record info _ _ hinfo _ =>
        rw [state_of_job hnil hsome]
        cases htoken : info.primary? with
        | none =>
          refine .stateless fine hitems fun token hstate => ?_
          rw [← JobInfo.primary?_eq_some_iff hinfo, htoken] at hstate
          exact nomatch hstate
        | some token =>
          have hstate := (JobInfo.primary?_eq_some_iff hinfo).mp htoken
          rw [Option.elim_some]
          cases hmap : states.map token with
          | ok s => exact .mapped fine hitems hstate (map_states_eq_ok_iff.mp hmap)
          | error e =>
            obtain ⟨outside, rfl⟩ := map_states_eq_error_iff.mp hmap
            exact .unmapped fine hitems hstate outside
  · rw [state_of_complaint hcons]
    exact .complaint hfield hc

/-- The first job of a reply is read from the first item. -/
theorem Reads.exists_info (h : Reads fields reply) {first : Document} {rest : List Document}
    (jobs : fields "jobs" = some (.array (first :: rest))) :
    ∃ info infos, reply.jobs = some (info :: infos) ∧ JobInfo.ofDocument? first = some info := by
  obtain ⟨infos, hsome, hread⟩ := Fields.optional_list?_of_array jobs h.jobs
  cases hread with
  | cons hinfo _ => exact ⟨_, _, hsome, hinfo⟩

/-- A reply concludes nothing but what its fields tell. -/
theorem Reads.state_eq_of_verdict (h : Reads fields reply) {id : String}
    {x : Except Error JobState} (v : Verdict id fields x) : reply.state id = x := by
  have fine_nil (fine : NoErrors fields) : reply.errors = [] := fine.errors_eq_nil h.errors
  cases v with
  | @complaint first rest c errors read =>
    generalize hreply : reply.errors = cs
    have hread := Fields.withDefault_list?_of_array errors h.errors
    rw [hreply] at hread
    cases hread with
    | cons hc _ =>
      obtain rfl := Option.some.inj (hc.symm.trans read)
      exact state_of_complaint hreply id
  | noJobs fine jobs =>
    have hnone := Option.some.inj ((Fields.optional_of_lacks jobs _).symm.trans h.jobs)
    exact state_of_noJobs (fine_nil fine) hnone.symm id
  | unknown fine jobs =>
    obtain ⟨infos, hsome, hread⟩ := Fields.optional_list?_of_array jobs h.jobs
    obtain rfl := List.forall₂_nil_left_iff.mp hread
    exact state_of_unknown (fine_nil fine) hsome id
  | stateless fine jobs state =>
    obtain ⟨info, infos, hsome, hinfo⟩ := h.exists_info jobs
    have hprimary : info.primary? = none := by
      rw [Option.eq_none_iff_forall_ne_some]
      exact fun token htoken => state token ((JobInfo.primary?_eq_some_iff hinfo).mp htoken)
    rw [state_of_job (fine_nil fine) hsome, hprimary, Option.elim_none]
    rfl
  | @unmapped first rest token fine jobs state outside =>
    obtain ⟨info, infos, hsome, hinfo⟩ := h.exists_info jobs
    rw [state_of_job (fine_nil fine) hsome, (JobInfo.primary?_eq_some_iff hinfo).mpr state,
      Option.elim_some]
    exact map_states_eq_error_iff.mpr ⟨outside, rfl⟩
  | @mapped first rest token s fine jobs state holds =>
    obtain ⟨info, infos, hsome, hinfo⟩ := h.exists_info jobs
    rw [state_of_job (fine_nil fine) hsome, (JobInfo.primary?_eq_some_iff hinfo).mpr state,
      Option.elim_some]
    exact map_states_eq_ok_iff.mpr holds

/-- What is concluded from a document about a job. -/
theorem state_eq_iff {d : Document} {reply : JobsReply} (h : ofDocument? d = some reply)
    (id : String) : ∃ fields, d.fields? ["jobs", "errors"] = some fields ∧
      ∀ x, reply.state id = x ↔ Verdict id fields x := by
  obtain ⟨fields, hfields, hreads⟩ := exists_reads h
  refine ⟨fields, hfields, fun x => ⟨?_, hreads.state_eq_of_verdict⟩⟩
  rintro rfl
  exact hreads.verdict id

end JobsReply

namespace Driver

/-- **What a reply of Slurm tells about a job.** -/
theorem status_told {d : Driver} (serves : d.endpoint.Serves "slurm/v0.0.40/job" d.headers)
    {id : String} (legal : Endpoint.isSegment id = true) {net : Network} {r : Response}
    (hnet : net.line.response? = some r) (x : Except Error JobState) :
    (d.service.backend.answer (.status id) net).1.outcome = x ↔
      r.Tells id ["jobs", "errors"] JobsReply.ofDocument? (Verdict id) x :=
  Http.Call.outcome_eq_iff serves legal rfl (fun _ => rfl)
    (fun _ _ h => JobsReply.state_eq_iff h id) hnet x

/-- Of several tokens the first counts, however it is written. -/
theorem status_told_busy :
    (Endpoint.mk "http://h").Serves "slurm/v0.0.40/job"
        (Driver.mk ⟨"http://h"⟩ "root" "t").headers ∧
      Endpoint.isSegment "42" = true ∧ busyNetwork.line.response? = some busy ∧
      ((Driver.mk ⟨"http://h"⟩ "root" "t").service.backend.answer
        (.status "42") busyNetwork).1.outcome = .ok .active := by
  have serves : (Endpoint.mk "http://h").Serves "slurm/v0.0.40/job"
      (Driver.mk ⟨"http://h"⟩ "root" "t").headers := by
    let place : Url :=
      { scheme := "http".toList, host := some (.domain "h".toList),
        path := .segments ["slurm".toList, "v0.0.40".toList, "job".toList] }
    exact ⟨⟨place, _, by decide +kernel, rfl⟩, by decide +kernel⟩
  have legal : Endpoint.isSegment "42" = true := by decide +kernel
  have has : busyDocument.fields? ["jobs", "errors"] = some (Document.lookup · busyMembers) :=
    Document.fields?_object (by decide +kernel)
  refine ⟨serves, legal, rfl, (status_told serves legal rfl _).mpr ?_⟩
  have state : StateIs (.object [(some "job_state",
      .array [.string (some "running"), .string (some "X")])]) "running" :=
    ⟨by decide, _, Document.fields?_object (by decide +kernel), .inr ⟨_, rfl⟩⟩
  refine .read rfl document?_busy rfl has (.mapped (.inr rfl) rfl state ?_)
  exact ⟨"RUNNING", by decide +kernel, by decide +kernel⟩

end Driver

end Slurm

/-! ### NERSC -/

namespace Nersc

/-- That a report has the status of a failure. -/
def Fails (fields : Fields) : Prop :=
  ∃ token, fields "status" = some (.string (some token)) ∧
    Text.sameIgnoringCase token "ERROR" = true

/-- What a report of a failure says of its cause. -/
def Explains (fields : Fields) (text : String) : Prop :=
  fields "error" = some (.string (some text)) ∨
    fields.Lacks "error" ∧ text = "unknown error"

/-- That a record tells a token as the state of its job. -/
def StateIs (record : Document) (token : String) : Prop :=
  ∃ fields, record.fields? ["jobid", "state"] = some fields ∧
    fields "state" = some (.string (some token))

/-- That a token decides the state of a job: that of the first record or, of a report
without records, its status. -/
def Selects (fields : Fields) (token : String) : Prop :=
  (∃ first rest, fields "output" = some (.array (first :: rest)) ∧ StateIs first token) ∨
    fields.Lacks "output" ∧ fields "status" = some (.string (some token))

/-- What the fields of a report tell about the job with an id. -/
inductive Verdict (id : String) (fields : Fields) : Except Error JobState → Prop
  | failed {text : String} (fails : Fails fields) (why : Explains fields text) :
    Verdict id fields
      (.error (.protocol ("NERSC reported an error for job " ++ id ++ ": " ++ text)))
  | unknown (fine : ¬ Fails fields) (output : fields "output" = some (.array [])) :
    Verdict id fields (.error (.notFound id))
  | stateless {first : Document} {rest : List Document} (fine : ¬ Fails fields)
    (output : fields "output" = some (.array (first :: rest)))
    (state : ∀ token, ¬ StateIs first token) :
    Verdict id fields (.error (.protocol ("NERSC job " ++ id ++ " record has no state")))
  | silent (fine : ¬ Fails fields) (output : fields.Lacks "output")
    (status : fields.Lacks "status") :
    Verdict id fields (.error (.protocol ("NERSC response for job " ++ id ++ " has no status")))
  | mapped {token : String} {s : JobState} (fine : ¬ Fails fields)
    (selects : Selects fields token) (gives : states.Gives token s) : Verdict id fields (.ok s)

theorem distinct_states : states.Distinct := by decide +kernel

theorem map_states_eq_ok_iff {token : String} {s : JobState} :
    states.map token = .ok s ↔ states.Gives token s := StateTable.map_eq_ok_iff distinct_states

/-- Every token has a state. -/
theorem exists_map_states (token : String) : ∃ s, states.map token = .ok s := by
  cases hmap : states.map token with
  | ok s => exact ⟨s, rfl⟩
  | error e => exact nomatch (StateTable.map_eq_error_iff.mp hmap).2.1

/-- A job is over only if the table says so. -/
theorem holds_of_gives {token : String} {s : JobState} (h : states.Gives token s)
    (terminal : s.isTerminal = true) : states.Holds token s := by
  refine h.resolve_right fun outside => ?_
  obtain rfl := Option.some.inj outside.2
  exact nomatch terminal

theorem Record.state_iff {enclosing : Nat} {d : Document} {record : Record}
    (h : ofDocument? enclosing d = some record) {token : String} :
    record.state = some token ↔ StateIs d token := by
  simp only [ofDocument?, Option.bind_eq_bind, Option.bind_eq_some_iff, Option.some.injEq] at h
  obtain ⟨fields, hfields, jobId, -, state, hstate, rfl⟩ := h
  rw [(Fields.optional_text?_iff hstate).2, StateIs, hfields]
  simp

namespace Report

/-- That a report is read from the fields of a record. -/
structure Reads (fields : Fields) (report : Report) : Prop where
  status : fields.optional "status" Document.text? = some report.status
  error : fields.optional "error" Document.text? = some report.error
  output : fields.optional "output" (Document.list? (Record.ofDocument? 3)) = some report.output

theorem reads_of_ofFields? {fields : Fields} {report : Report}
    (h : ofFields? fields = some report) : Reads fields report := by
  simp only [ofFields?, Option.bind_eq_bind, Option.bind_eq_some_iff, Option.some.injEq] at h
  obtain ⟨status, hstatus, error, herror, output, houtput, rfl⟩ := h
  exact ⟨hstatus, herror, houtput⟩

theorem exists_reads {d : Document} {report : Report} (h : ofDocument? d = some report) :
    ∃ fields, d.fields? fieldNames = some fields ∧ Reads fields report := by
  obtain ⟨fields, hfields, h⟩ := Option.bind_eq_some_iff.mp h
  exact ⟨fields, hfields, reads_of_ofFields? h⟩

variable {fields : Fields} {report : Report}

theorem Reads.fails_iff (h : Reads fields report) :
    Fails fields ↔ report.status.any (Text.sameIgnoringCase · "ERROR") = true := by
  simp only [Fails, ← (Fields.optional_text?_iff h.status).2, Option.any_eq_true]

theorem Reads.explains_iff (h : Reads fields report) {text : String} :
    Explains fields text ↔ report.error.getD "unknown error" = text := by
  obtain ⟨hnone, hsome⟩ := Fields.optional_text?_iff h.error
  rw [Explains, ← hnone, ← hsome]
  cases report.error <;> simp [eq_comm]

theorem Reads.failure?_eq_some_iff (h : Reads fields report) {text : String} :
    report.failure? = some text ↔ Fails fields ∧ Explains fields text := by
  rw [h.fails_iff, h.explains_iff, failure?]
  split <;> simp [*]

theorem Reads.failure?_eq_none_iff (h : Reads fields report) :
    report.failure? = none ↔ ¬ Fails fields := by
  rw [h.fails_iff, failure?]
  split <;> simp [*]

theorem state_of_failure {text : String} (h : report.failure? = some text) (id : String) :
    report.state id = .error (Fault.statusFailed id text).error := by
  rw [state, h]

theorem state_of_fine (h : report.failure? = none) (id : String) :
    report.state id = report.token id >>= states.map := by
  rw [state, h]

theorem state_of_token {token : String} (h : report.failure? = none) {id : String}
    (htoken : report.token id = .ok token) : report.state id = states.map token := by
  rw [state_of_fine h, htoken]
  exact pure_bind token states.map

theorem token_of_unknown (h : report.output = some []) (id : String) :
    report.token id = .error (.notFound id) := by
  rw [token, h]

theorem token_of_record {record : Record} {rest : List Record}
    (h : report.output = some (record :: rest)) (id : String) :
    report.token id = record.state.elim (.error (Fault.missingState id).error) .ok := by
  simp only [token, h]
  cases record.state with
  | none => rfl
  | some token => rfl

theorem token_of_status (h : report.output = none) (id : String) :
    report.token id = report.status.elim (.error (Fault.missingStatus id).error) .ok := by
  rw [token, h]
  cases report.status with
  | none => rfl
  | some token => rfl

/-- The first job of a report is read from the first item. -/
theorem Reads.exists_record (h : Reads fields report) {first : Document} {rest : List Document}
    (output : fields "output" = some (.array (first :: rest))) :
    ∃ record records, report.output = some (record :: records) ∧
      Record.ofDocument? 3 first = some record := by
  obtain ⟨records, hsome, hread⟩ := Fields.optional_list?_of_array output h.output
  cases hread with
  | cons hrecord _ => exact ⟨_, _, hsome, hrecord⟩

theorem Reads.output_eq_none (h : Reads fields report) (output : fields.Lacks "output") :
    report.output = none :=
  (Option.some.inj ((Fields.optional_of_lacks output _).symm.trans h.output)).symm

theorem Reads.token_of_selects (h : Reads fields report) {token : String}
    (selects : Selects fields token) (id : String) : report.token id = .ok token := by
  rcases selects with ⟨first, rest, output, state⟩ | ⟨output, status⟩
  · obtain ⟨record, records, hsome, hrecord⟩ := h.exists_record output
    rw [token_of_record hsome, (Record.state_iff hrecord).mpr state, Option.elim_some]
  · rw [token_of_status (h.output_eq_none output),
      ((Fields.optional_text?_iff h.status).2 token).mpr status, Option.elim_some]

/-- A token that is selected has a state. -/
theorem Reads.verdict_of_selects (h : Reads fields report) (fine : ¬ Fails fields)
    {token : String} (selects : Selects fields token) (id : String) :
    Verdict id fields (report.state id) := by
  obtain ⟨s, hs⟩ := exists_map_states token
  rw [state_of_token (h.failure?_eq_none_iff.mpr fine) (h.token_of_selects selects id), hs]
  exact .mapped fine selects (map_states_eq_ok_iff.mp hs)

/-- What a report concludes is among what its fields tell. -/
theorem Reads.verdict (h : Reads fields report) (id : String) :
    Verdict id fields (report.state id) := by
  -- a failure counts before records, and records before the status
  cases hfailure : report.failure? with
  | some text =>
    obtain ⟨fails, why⟩ := h.failure?_eq_some_iff.mp hfailure
    rw [state_of_failure hfailure]
    exact .failed fails why
  | none =>
    have fine := h.failure?_eq_none_iff.mp hfailure
    rcases Fields.optional_list?_cases h.output with ⟨hlacks, hnone⟩ |
      ⟨items, records, hitems, hread, hsome⟩
    · have hstatus := Fields.optional_text?_iff h.status
      cases htoken : report.status with
      | none =>
        rw [state_of_fine hfailure, token_of_status hnone, htoken]
        exact .silent fine hlacks (hstatus.1.mp htoken)
      | some token =>
        exact h.verdict_of_selects fine (.inr ⟨hlacks, (hstatus.2 token).mp htoken⟩) id
    · cases hread with
      | nil =>
        rw [state_of_fine hfailure, token_of_unknown hsome]
        exact .unknown fine hitems
      | @cons first record _ _ hrecord _ =>
        cases htoken : record.state with
        | none =>
          rw [state_of_fine hfailure, token_of_record hsome, htoken]
          refine .stateless fine hitems fun token hstate => ?_
          rw [← Record.state_iff hrecord, htoken] at hstate
          exact nomatch hstate
        | some token =>
          have hstate := (Record.state_iff hrecord).mp htoken
          exact h.verdict_of_selects fine (.inl ⟨_, _, hitems, hstate⟩) id

/-- A report concludes nothing but what its fields tell. -/
theorem Reads.state_eq_of_verdict (h : Reads fields report) {id : String}
    {x : Except Error JobState} (v : Verdict id fields x) : report.state id = x := by
  have hfine (fine : ¬ Fails fields) : report.state id = report.token id >>= states.map :=
    state_of_fine (h.failure?_eq_none_iff.mpr fine) id
  cases v with
  | failed fails why => exact state_of_failure (h.failure?_eq_some_iff.mpr ⟨fails, why⟩) id
  | unknown fine output =>
    obtain ⟨records, hsome, hread⟩ := Fields.optional_list?_of_array output h.output
    obtain rfl := List.forall₂_nil_left_iff.mp hread
    rw [hfine fine, token_of_unknown hsome]
    rfl
  | stateless fine output state =>
    obtain ⟨record, records, hsome, hrecord⟩ := h.exists_record output
    have hnone : record.state = none := by
      rw [Option.eq_none_iff_forall_ne_some]
      exact fun token htoken => state token ((Record.state_iff hrecord).mp htoken)
    rw [hfine fine, token_of_record hsome, hnone]
    rfl
  | silent fine output status =>
    rw [hfine fine, token_of_status (h.output_eq_none output),
      (Fields.optional_text?_iff h.status).1.mpr status]
    rfl
  | mapped fine selects gives =>
    rw [state_of_token (h.failure?_eq_none_iff.mpr fine) (h.token_of_selects selects id)]
    exact map_states_eq_ok_iff.mpr gives

/-- What is concluded from a document about a job. -/
theorem state_eq_iff {d : Document} {report : Report} (h : ofDocument? d = some report)
    (id : String) : ∃ fields, d.fields? fieldNames = some fields ∧
      ∀ x, report.state id = x ↔ Verdict id fields x := by
  obtain ⟨fields, hfields, hreads⟩ := exists_reads h
  refine ⟨fields, hfields, fun x => ⟨?_, hreads.state_eq_of_verdict⟩⟩
  rintro rfl
  exact hreads.verdict id

end Report

/-- A report tells no state that is none of the table's. -/
theorem Verdict.ne_unmapped {id : String} {fields : Fields} {x : Except Error JobState}
    (v : Verdict id fields x) (driver token : String) :
    x ≠ .error (.unmappedState driver token) := by
  cases v <;> exact nofun

/-- A report tells that a job is over only by a token of the table. -/
theorem Verdict.holds_of_isTerminal {id : String} {fields : Fields} {s : JobState}
    (v : Verdict id fields (.ok s)) (terminal : s.isTerminal = true) :
    ∃ token, Selects fields token ∧ states.Holds token s := by
  cases v with
  | @mapped token _ fine selects gives => exact ⟨token, selects, holds_of_gives gives terminal⟩

namespace Driver

/-- **What a reply of NERSC tells about a job.**  It never tells that a state is unknown,
and it tells that a job is over only by a token of the table. -/
theorem status_told_by_report {d : Driver} (serves : d.endpoint.Serves d.jobsPath d.headers)
    {id : String} (legal : Endpoint.isSegment id = true) {net : Network} {r : Response}
    (hnet : net.line.response? = some r) :
    let outcome := (d.service.backend.answer (.status id) net).1.outcome
    (∀ x, outcome = x ↔ r.Tells id Report.fieldNames Report.ofDocument? (Verdict id) x) ∧
      (∀ driver token, outcome ≠ .error (.unmappedState driver token)) ∧
      ∀ s, outcome = .ok s → s.isTerminal = true → ∃ doc fields token,
        r.document? = some doc ∧ doc.fields? Report.fieldNames = some fields ∧
          Selects fields token ∧ states.Holds token s := by
  have htells (x : Except Error JobState) : (d.service.backend.answer (.status id) net).1.outcome
      = x ↔ r.Tells id Report.fieldNames Report.ofDocument? (Verdict id) x :=
    Http.Call.outcome_eq_iff serves legal rfl (fun _ => rfl)
      (fun _ _ h => Report.state_eq_iff h id) hnet x
  refine ⟨htells, fun driver token hunmapped => ?_, fun s hs terminal => ?_⟩
  · cases (htells _).mp hunmapped with
    | read accepted document readable has told => exact told.ne_unmapped driver token rfl
  · cases (htells _).mp hs with
    | read accepted document readable has told =>
      obtain ⟨token, selects, holds⟩ := told.holds_of_isTerminal terminal
      exact ⟨_, _, token, document, has, selects, holds⟩

/-- The records of a report count more than its status. -/
theorem status_told_by_report_busy :
    (Endpoint.mk "http://h").Serves "compute/jobs/m"
        (Driver.mk ⟨"http://h"⟩ "t" "m").headers ∧
      Endpoint.isSegment "42" = true ∧ busyNetwork.line.response? = some busy ∧
      ((Driver.mk ⟨"http://h"⟩ "t" "m").service.backend.answer
        (.status "42") busyNetwork).1.outcome = .ok .active := by
  have serves : (Endpoint.mk "http://h").Serves "compute/jobs/m"
      (Driver.mk ⟨"http://h"⟩ "t" "m").headers := by
    let place : Url :=
      { scheme := "http".toList, host := some (.domain "h".toList),
        path := .segments ["compute".toList, "jobs".toList, "m".toList] }
    exact ⟨⟨place, _, by decide +kernel, rfl⟩, by decide +kernel⟩
  have legal : Endpoint.isSegment "42" = true := by decide +kernel
  have has : busyDocument.fields? Report.fieldNames = some (Document.lookup · busyMembers) :=
    Document.fields?_object (by decide +kernel)
  have fine : ¬ Fails (Document.lookup · busyMembers) := by
    rintro ⟨token, hstatus, hfails⟩
    obtain rfl : "completed" = token :=
      Option.some.inj (Document.string.inj (Option.some.inj hstatus))
    exact absurd hfails (by decide +kernel)
  have answered : busyNetwork.line.response? = some busy := rfl
  have told := (status_told_by_report (d := ⟨⟨"http://h"⟩, "t", "m"⟩) serves legal answered).1
  refine ⟨serves, legal, answered, (told _).mpr ?_⟩
  have selects : Selects (Document.lookup · busyMembers) " Running " :=
    .inl ⟨_, _, rfl, _, Document.fields?_object (by decide +kernel), rfl⟩
  refine .read rfl document?_busy rfl has (.mapped fine selects (.inl ?_))
  exact ⟨"RUNNING", by decide +kernel, by decide +kernel⟩

end Driver

end Nersc

end RemoteBatch
