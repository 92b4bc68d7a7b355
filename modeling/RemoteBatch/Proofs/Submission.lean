import RemoteBatch.Lifecycle
import RemoteBatch.Proofs.Settled
import RemoteBatch.Proofs.StatusReply

/-!
# What a submission comes to

A job is submitted by one request.  The handle is bound exactly if the reply accepts it
and brings an id, which is a number or a text with more than blanks; whatever else comes
back, or nothing, becomes an error that tells which of the three it was, and the handle
is as before.

## Main definitions

* `Json.Document.NamesJob` — that a document is the id of a job.
* `Slurm.BringsId`, `Nersc.BringsId` — that a reply brings an id.
* `Http.Call.Brings` — what a call must do to come to what the reply brings.
* `Http.Call.Submits` — what a call must do to submit a job.
* `Lifecycle.Submission` — what a submission comes to.

## Main results

* `Http.Call.Brings.fate` — the ways that such a call can go.
* `Lifecycle.submission_of_fresh` — **what the submission of a fresh handle comes to**, with
  either scheduler.
-/

namespace RemoteBatch

open Http (Call Content Endpoint Method Network Request Response Service)
open Json (Document Fields Number Numeral)

/-! ### Ids -/

namespace Json

/-- That a document is the id of a job: a number, or a text with more than blanks. -/
inductive Document.NamesJob : Document → String → Prop
  | number {numeral : Numeral} {n : Number} (value : Number.ofNumeral? numeral = some n) :
    NamesJob (.number numeral) n.text
  | string {s : String} (visible : Text.isBlankText s = false) :
    NamesJob (.string (some s)) (Text.trim s)

namespace Document

/-- The ids that values hold are those that documents are. -/
theorem nativeId?_eq_some_iff {enclosing : Nat} (h : enclosing ≤ maxNesting) {d : Document}
    {id : String} : (d.value? enclosing).bind nativeId? = some id ↔ d.NamesJob id := by
  constructor
  · intro hid
    obtain ⟨v, hv, hid⟩ := Option.bind_eq_some_iff.mp hid
    have hdenote : d.denote? = some v := (Option.ite_none_right_eq_some.mp hv).2
    cases d with
    | null =>
      cases hdenote
      exact nomatch hid
    | bool b =>
      cases hdenote
      exact nomatch hid
    | number numeral =>
      obtain ⟨n, hn, rfl⟩ := Option.map_eq_some_iff.mp hdenote
      obtain rfl := Option.some.inj hid
      exact .number hn
    | string s? =>
      obtain ⟨s, rfl, rfl⟩ := Option.map_eq_some_iff.mp hdenote
      obtain ⟨hs, htrim⟩ := Option.ite_none_left_eq_some.mp hid
      obtain rfl := Option.some.inj htrim
      exact .string (Bool.eq_false_iff.mpr hs)
    | array items =>
      obtain ⟨vs, -, rfl⟩ := Option.map_eq_some_iff.mp hdenote
      exact nomatch hid
    | object members =>
      obtain ⟨vs, -, rfl⟩ := Option.map_eq_some_iff.mp hdenote
      exact nomatch hid
  · intro hnames
    cases hnames with
    | @number numeral n value =>
      have hv : (number numeral).value? enclosing = some (.number n) :=
        (if_pos h).trans (Option.map_eq_some_iff.mpr ⟨n, value, rfl⟩)
      rw [hv]
      rfl
    | @string s visible =>
      have hv : (string (some s)).value? enclosing = some (.string s) := if_pos h
      rw [hv]
      exact if_neg (Bool.eq_false_iff.mp visible)

theorem NamesJob.visible {d : Document} {id : String} (h : d.NamesJob id) :
    Text.isBlankText id = false := by
  obtain ⟨v, -, hv⟩ := Option.bind_eq_some_iff.mp
    ((nativeId?_eq_some_iff (Nat.zero_le maxNesting)).mpr h)
  exact isBlankText_of_nativeId? hv

/-- A whole number that 64 bits hold is an id by its digits. -/
theorem namesJob_number_iff {numeral : Numeral} (unsigned : numeral.negative = false)
    (whole : numeral.fraction = none) (plain : numeral.exponent = none)
    (h : Nat.ofDigitChars 10 numeral.whole 0 < UInt64.size) {id : String} :
    (number numeral).NamesJob id
      ↔ id = Decimal.numeral (Nat.ofDigitChars 10 numeral.whole 0) := by
  have hvalue := Number.ofNumeral?_of_whole unsigned whole plain h
  constructor
  · intro hnames
    cases hnames with
    | number value =>
      obtain rfl := Option.some.inj (hvalue.symm.trans value)
      rfl
  · rintro rfl
    exact .number hvalue

end Document

/-- The id in a field, if it has one. -/
theorem Fields.nativeId?_iff {fields : Fields} {name : String} {enclosing : Nat}
    (h : enclosing ≤ maxNesting) {v? : Option Value}
    (hread : fields.optional name (Document.value? enclosing) = some v?) {id : String} :
    v?.bind nativeId? = some id ↔ ∃ d, fields name = some d ∧ d.NamesJob id := by
  rcases Fields.optional_eq_some_iff.mp hread with ⟨hlacks, rfl⟩ | ⟨d, v, hd, -, hv, rfl⟩
  · refine iff_of_false nofun ?_
    rintro ⟨d, hd, hnames⟩
    rcases hlacks with hnone | hnull
    · exact nomatch hnone.symm.trans hd
    · obtain rfl := Option.some.inj (hnull.symm.trans hd)
      exact nomatch hnames
  · rw [← hv, Document.nativeId?_eq_some_iff h, hd]
    simp

end Json

/-! ### Calls that submit -/

namespace Http

/-- The response that a call meets, if its request can be made and is answered. -/
def Call.response? (call : Call α) (net : Network) : Option Response :=
  call.request.toOption.bind fun _ => net.line.response?

/-- What a call must do to come to what the reply brings, where `brings` tells the values
that documents bring. -/
structure Call.Brings (call : Call α) (brings : Document → α → Prop) : Prop where
  unsent : ∀ e, call.request = .error e → ∃ fault, e = .transport fault
  refused : ∀ r, r.accepted = false → call.interpret r = .error (.api r.status r.explanation)
  ok_iff : ∀ r, r.accepted = true → ∀ a,
    call.interpret r = .ok a ↔ ∃ d, r.document? = some d ∧ brings d a
  unusable : ∀ r, r.accepted = true → ∀ e, call.interpret r = .error e →
    ∃ reason, e = .protocol reason

/-- What a call must do to submit a job, where `brings` tells the ids that documents
bring. -/
structure Call.Submits (call : Call String) (brings : Document → String → Prop) : Prop
    extends call.Brings brings where
  posts : ∀ request, call.request = .ok request → request.method = .post
  visible : ∀ d id, brings d id → Text.isBlankText id = false

/-- A request below an endpoint that cannot be made is not sent. -/
theorem Endpoint.unsent_of_bind {e : Endpoint} {path : String} {method : Method}
    {headers : List (String × String)} {content : Content} {g : Url → Url} {err : Error}
    (h : (e.url path >>= fun url => Request.make method (g url) headers content)
      = .error err) : ∃ fault, err = .transport fault := by
  unfold Endpoint.url at h
  split at h
  · next u _ =>
    change Request.make method (g u) headers content = .error err at h
    unfold Request.make at h
    split at h
    · exact nomatch h
    · exact ⟨_, (Except.error.inj h).symm⟩
  · exact ⟨_, (Except.error.inj h).symm⟩

/-- A call comes to what the reply brings if it reads what is accepted. -/
theorem Call.Brings.of_parts {call : Call α} {brings : Document → α → Prop}
    {read : Document → Option β} {f : β → Except Error α}
    (unsent : ∀ e, call.request = .error e → ∃ fault, e = .transport fault)
    (hinterpret : ∀ r, call.interpret r = (r.decode read >>= f))
    (readable : ∀ d a, brings d a → (read d).isSome = true)
    (hok : ∀ d b, read d = some b → ∀ a, f b = .ok a ↔ brings d a)
    (herror : ∀ b err, f b = .error err → ∃ reason, err = .protocol reason) :
    call.Brings brings where
  unsent := unsent
  refused r hrefused := by
    rw [hinterpret, Response.decode_of_refused hrefused]
    rfl
  ok_iff r accepted a := by
    rw [hinterpret]
    constructor
    · intro h
      cases hread : r.document?.bind read with
      | none =>
        rw [Response.decode_of_unread accepted hread] at h
        exact nomatch h
      | some b =>
        rw [Response.decode_of_read accepted hread] at h
        obtain ⟨d, hd, hb⟩ := Option.bind_eq_some_iff.mp hread
        exact ⟨d, hd, (hok d b hb a).mp h⟩
    · rintro ⟨d, hd, hbrings⟩
      obtain ⟨b, hb⟩ := Option.isSome_iff_exists.mp (readable d a hbrings)
      rw [Response.decode_of_read accepted (Option.bind_eq_some_iff.mpr ⟨d, hd, hb⟩)]
      exact (hok d b hb a).mpr hbrings
  unusable r accepted err h := by
    rw [hinterpret] at h
    cases hread : r.document?.bind read with
    | none =>
      rw [Response.decode_of_unread accepted hread] at h
      exact ⟨_, (Except.error.inj h).symm⟩
    | some b =>
      rw [Response.decode_of_read accepted hread] at h
      exact herror b err h

/-- A call submits a job if it posts and reads what is accepted. -/
theorem Call.Submits.of_parts {call : Call String} {brings : Document → String → Prop}
    {e : Endpoint} {path : String} {headers : List (String × String)} {content : Content}
    {read : Document → Option β} {f : β → Except Error String}
    (hrequest : call.request
      = e.url path >>= fun url => Request.make .post url headers content)
    (hinterpret : ∀ r, call.interpret r = (r.decode read >>= f))
    (readable : ∀ d id, brings d id → (read d).isSome = true)
    (hok : ∀ d b, read d = some b → ∀ id, f b = .ok id ↔ brings d id)
    (herror : ∀ b err, f b = .error err → ∃ reason, err = .protocol reason)
    (visible : ∀ d id, brings d id → Text.isBlankText id = false) : call.Submits brings where
  toBrings := .of_parts
    (fun _ h => Endpoint.unsent_of_bind (g := id) (hrequest.symm.trans h))
    hinterpret readable hok herror
  posts request h := by
    rw [hrequest] at h
    obtain ⟨url, -, hmake⟩ := exists_ok_of_bind h
    exact (Request.parts_of_make hmake).1
  visible := visible

end Http

namespace Slurm

/-- That the reply to a submission brings an id: it can be read, holds no errors, and has
an id in its field. -/
def BringsId (doc : Document) (id : String) : Prop :=
  (SubmitReply.ofDocument? doc).isSome = true ∧
    ∃ fields d, doc.fields? ["job_id", "errors"] = some fields ∧ NoErrors fields ∧
      fields "job_id" = some d ∧ d.NamesJob id

namespace SubmitReply

theorem id_of_complaint {reply : SubmitReply} {c : Complaint} {cs : List Complaint}
    (h : reply.errors = c :: cs) :
    reply.id = .error (Fault.complaint "Slurm rejected the submission" c.text).error := by
  rw [SubmitReply.id, h]
  rfl

theorem id_of_fine {reply : SubmitReply} (h : reply.errors = []) :
    reply.id = (reply.jobId.bind nativeId?).elim (.error Fault.missingId.error) .ok := by
  rw [SubmitReply.id, h]
  cases reply.jobId.bind nativeId? with
  | none => rfl
  | some id => rfl

theorem id_eq_ok_iff {doc : Document} {reply : SubmitReply} (h : ofDocument? doc = some reply)
    (id : String) : reply.id = .ok id ↔ BringsId doc id := by
  have hreadable : (ofDocument? doc).isSome = true := by rw [h]; rfl
  simp only [ofDocument?, Option.bind_eq_bind, Option.bind_eq_some_iff, Option.some.injEq] at h
  obtain ⟨fields, hfields, jobId, hjobId, errors, herrors, rfl⟩ := h
  have hid : jobId.bind nativeId? = some id ↔ ∃ d, fields "job_id" = some d ∧ d.NamesJob id :=
    Fields.nativeId?_iff (by decide) hjobId
  constructor
  · intro hok
    rcases errors_cases herrors with ⟨fine, rfl⟩ | ⟨-, -, c, cs, -, -, rfl⟩
    · rw [id_of_fine rfl] at hok
      cases hjob : jobId.bind nativeId? with
      | none =>
        rw [hjob] at hok
        exact nomatch hok
      | some id' =>
        rw [hjob] at hok
        obtain rfl := Except.ok.inj hok
        obtain ⟨d, hd, hnames⟩ := hid.mp hjob
        exact ⟨hreadable, fields, d, hfields, fine, hd, hnames⟩
    · rw [id_of_complaint rfl] at hok
      exact nomatch hok
  · rintro ⟨-, fields', d, hfields', fine, hd, hnames⟩
    obtain rfl := Option.some.inj (hfields.symm.trans hfields')
    rw [id_of_fine (fine.errors_eq_nil herrors), hid.mpr ⟨d, hd, hnames⟩]
    rfl

theorem exists_reason {reply : SubmitReply} {e : Error} (h : reply.id = .error e) :
    ∃ reason, e = .protocol reason := by
  cases herrors : reply.errors with
  | nil =>
    rw [id_of_fine herrors] at h
    cases hjob : reply.jobId.bind nativeId? with
    | none =>
      rw [hjob] at h
      exact ⟨_, (Except.error.inj h).symm⟩
    | some id =>
      rw [hjob] at h
      exact nomatch h
  | cons c cs =>
    rw [id_of_complaint herrors] at h
    exact ⟨_, (Except.error.inj h).symm⟩

end SubmitReply

theorem Driver.submits (d : Driver) (spec : JobSpec) : (d.submit spec).Submits BringsId :=
  .of_parts rfl (fun _ => rfl) (fun _ _ h => h.1) (fun _ _ h => SubmitReply.id_eq_ok_iff h)
    (fun _ _ h => SubmitReply.exists_reason h) fun _ _ h => by
      obtain ⟨-, fields, d, -, -, -, hnames⟩ := h
      exact hnames.visible

end Slurm

namespace Nersc

/-- That the reply to a submission brings an id: it can be read and has an id in its
field. -/
def BringsId (doc : Document) (id : String) : Prop :=
  (submitId? doc).isSome = true ∧
    ∃ fields d, doc.fields? ["jobid"] = some fields ∧ fields "jobid" = some d ∧ d.NamesJob id

theorem submitId?_bind_iff {doc : Document} {v? : Option Json.Value}
    (h : submitId? doc = some v?) (id : String) :
    v?.bind nativeId? = some id ↔ BringsId doc id := by
  have hreadable : (submitId? doc).isSome = true := by rw [h]; rfl
  obtain ⟨fields, hfields, hread⟩ := Option.bind_eq_some_iff.mp h
  rw [Fields.nativeId?_iff (by decide) hread, BringsId, hfields]
  simp [hreadable]

theorem Driver.submits (d : Driver) (spec : JobSpec) : (d.submit spec).Submits BringsId := by
  refine .of_parts rfl (fun _ => rfl) (fun _ _ h => h.1) ?_ ?_ ?_
  · intro doc v? h id
    rw [← submitId?_bind_iff h]
    cases v?.bind nativeId? with
    | none => exact iff_of_false nofun nofun
    | some id' => exact ⟨fun hok => congrArg some (Except.ok.inj hok),
        fun hsome => congrArg Except.ok (Option.some.inj hsome)⟩
  · intro v? err h
    cases hid : v?.bind nativeId? with
    | none =>
      rw [hid] at h
      exact ⟨_, (Except.error.inj h).symm⟩
    | some id =>
      rw [hid] at h
      exact nomatch h
  · rintro doc id ⟨-, fields, d, -, -, hnames⟩
    exact hnames.visible

end Nersc

/-! ### Submissions -/

namespace Http

/-- A call sends at most its request. -/
theorem Call.sent_run (call : Call α) (net : Network) : (call.run net).2.sent = net.sent ∨
    ∃ request, call.request = .ok request ∧ (call.run net).2.sent = net.sent ++ [request] := by
  unfold Call.run
  cases hrequest : call.request with
  | error e => exact .inl rfl
  | ok request =>
    obtain ⟨line, sent, now⟩ := net
    rcases line with _ | _ | ⟨_ | _, _⟩
    · exact .inl rfl
    all_goals exact .inr ⟨request, rfl, rfl⟩

/-- The ways that a call can go, by the response that it meets. -/
inductive Fate (response? : Option Response) (brings : Document → α → Prop) :
    Except Error α → Prop
  | unanswered {fault : TransportFault} (silence : response? = none) :
    Fate response? brings (.error (.transport fault))
  | refused {r : Response} (answered : response? = some r) (refusal : r.accepted = false) :
    Fate response? brings (.error (.api r.status r.explanation))
  | unusable {r : Response} {reason : String} (answered : response? = some r)
    (accepted : r.accepted = true) (nothing : ∀ d a, r.document? = some d → ¬ brings d a) :
    Fate response? brings (.error (.protocol reason))
  | brought {r : Response} {d : Document} {a : α} (answered : response? = some r)
    (accepted : r.accepted = true) (document : r.document? = some d) (brought : brings d a)
    (only : ∀ d' a', r.document? = some d' → brings d' a' → a' = a) :
    Fate response? brings (.ok a)

theorem Call.Brings.fate {call : Call α} {brings : Document → α → Prop}
    (h : call.Brings brings) (net : Network) :
    Fate (call.response? net) brings (call.run net).1.outcome := by
  rw [Call.outcome_run_eq]
  unfold Call.response?
  cases hrequest : call.request with
  | error e =>
    obtain ⟨fault, rfl⟩ := h.unsent e hrequest
    exact .unanswered rfl
  | ok request =>
    show Fate net.line.response? brings
      (net.line.response?.elim (.error request.unanswered) call.interpret)
    cases hresponse : net.line.response? with
    | none => exact .unanswered rfl
    | some r =>
      rw [Option.elim_some]
      cases haccepted : r.accepted with
      | false =>
        rw [h.refused r haccepted]
        exact .refused rfl haccepted
      | true =>
        have hok := h.ok_iff r haccepted
        cases houtcome : call.interpret r with
        | error e =>
          obtain ⟨reason, rfl⟩ := h.unusable r haccepted e houtcome
          refine .unusable rfl haccepted fun d a hd hbrings => ?_
          exact nomatch houtcome.symm.trans ((hok a).mpr ⟨d, hd, hbrings⟩)
        | ok a =>
          obtain ⟨d, hd, hbrings⟩ := (hok a).mp houtcome
          refine .brought rfl haccepted hd hbrings fun d' a' hd' hbrings' => ?_
          exact Except.ok.inj (((hok a').mpr ⟨d', hd', hbrings'⟩).symm.trans houtcome)

namespace Fate

variable {response? : Option Response} {brings : Document → α → Prop} {x : Except Error α}

theorem ok_iff (h : Fate response? brings x) : (∃ a, x = .ok a) ↔ ∃ r d a,
    response? = some r ∧ r.accepted = true ∧ r.document? = some d ∧ brings d a := by
  cases h with
  | unanswered silence => simp [silence]
  | refused answered refusal => simp [answered, refusal]
  | unusable answered accepted nothing =>
    refine iff_of_false nofun ?_
    rintro ⟨r, d, a, hr, -, hd, hbrings⟩
    obtain rfl := Option.some.inj (answered.symm.trans hr)
    exact nothing d a hd hbrings
  | brought answered accepted document brought only =>
    exact iff_of_true ⟨_, rfl⟩ ⟨_, _, _, answered, accepted, document, brought⟩

theorem transport_iff (h : Fate response? brings x) :
    (∃ fault, x = .error (.transport fault)) ↔ response? = none := by
  cases h with
  | unanswered silence => exact iff_of_true ⟨_, rfl⟩ silence
  | refused answered => simp [answered]
  | unusable answered => simp [answered]
  | brought answered => simp [answered]

theorem api_iff (h : Fate response? brings x) (status : Nat) (body : String) :
    x = .error (.api status body) ↔ ∃ r, response? = some r ∧ r.accepted = false ∧
      r.status = status ∧ r.explanation = body := by
  cases h with
  | unanswered silence => simp [silence]
  | refused answered refusal => simp [answered, refusal]
  | unusable answered accepted => simp [answered, accepted]
  | brought answered accepted => simp [answered, accepted]

theorem protocol_iff (h : Fate response? brings x) :
    (∃ reason, x = .error (.protocol reason)) ↔ ∃ r, response? = some r ∧
      r.accepted = true ∧ ∀ d a, r.document? = some d → ¬ brings d a := by
  cases h with
  | unanswered silence => simp [silence]
  | refused answered refusal => simp [answered, refusal]
  | unusable answered accepted nothing =>
    exact iff_of_true ⟨_, rfl⟩ ⟨_, answered, accepted, nothing⟩
  | brought answered accepted document brought only =>
    refine iff_of_false nofun ?_
    rintro ⟨r, hr, -, nothing⟩
    obtain rfl := Option.some.inj (answered.symm.trans hr)
    exact nothing _ _ document brought

/-- The value is the one that is brought. -/
theorem eq_ok (h : Fate response? brings x) {r : Response} {d : Document} {a : α}
    (hr : response? = some r) (haccepted : r.accepted = true) (hd : r.document? = some d)
    (hbrings : brings d a) : x = .ok a := by
  obtain ⟨a', rfl⟩ := h.ok_iff.mpr ⟨r, d, a, hr, haccepted, hd, hbrings⟩
  cases h with
  | brought answered accepted document brought only =>
    obtain rfl := Option.some.inj (answered.symm.trans hr)
    rw [only d a hd hbrings]

theorem eq_ok_iff (h : Fate response? brings x) {a : α} : x = .ok a ↔ ∃ r d,
    response? = some r ∧ r.accepted = true ∧ r.document? = some d ∧ brings d a := by
  constructor
  · rintro rfl
    cases h with
    | brought answered accepted document brought only =>
      exact ⟨_, _, answered, accepted, document, brought⟩
  · rintro ⟨r, d, hr, haccepted, hd, hbrings⟩
    exact h.eq_ok hr haccepted hd hbrings

end Fate

end Http

namespace Lifecycle

/-- What is told of the submission of a job. -/
def submitReport (b : Backend σ) (job : Job) (s : σ) : Report (Except Error Unit) :=
  ((submit job).run b s).1.1

/-- What the submission of a job comes to, by the response that it meets and the ids that
documents bring. -/
structure Submission (b : Backend Network) (job : Job) (net : Network)
    (response? : Option Response) (brings : Document → String → Prop) : Prop where
  ok_iff : (submitReport b job net).value = .ok () ↔ ∃ r d id, response? = some r ∧
    r.accepted = true ∧ r.document? = some d ∧ brings d id
  bound : ∀ r d id, response? = some r → r.accepted = true → r.document? = some d →
    brings d id → (submitReport b job net).job.state = .queued ∧
      (submitReport b job net).job.nativeId = some id
  transport_iff : (∃ fault, (submitReport b job net).value = .error (.transport fault)) ↔
    response? = none
  api_iff : ∀ status body, (submitReport b job net).value = .error (.api status body) ↔
    ∃ r, response? = some r ∧ r.accepted = false ∧ r.status = status ∧ r.explanation = body
  protocol_iff : (∃ reason, (submitReport b job net).value = .error (.protocol reason)) ↔
    ∃ r, response? = some r ∧ r.accepted = true ∧
      ∀ d id, r.document? = some d → ¬ brings d id
  /-- A handle whose submission fails is as before. -/
  kept : (submitReport b job net).value ≠ .ok () → (submitReport b job net).job = job
  /-- At most one request is sent, and it posts. -/
  posts : (((submit job).run b net).2).sent = net.sent ∨ ∃ request, request.method = .post ∧
    (((submit job).run b net).2).sent = net.sent ++ [request]

theorem submitReport_of_error {b : Backend σ} {job : Job} {s : σ} {e : Error}
    (h : (b.answer (.submit job.spec) s).1.outcome = .error e) :
    submitReport b job s = { value := .error e, job, events := [submitFailed job e] } :=
  concludeSubmit_of_error h

theorem submitReport_of_ok {b : Backend σ} {job : Job} {s : σ} {id : String}
    (h : (b.answer (.submit job.spec) s).1.outcome = .ok id)
    (visible : Text.isBlankText id = false) : submitReport b job s =
      { value := .ok ()
        job := (job.bind id).transition .queued (b.answer (.submit job.spec) s).1.time
        events := [submitted job id] } := concludeSubmit_of_ok h visible

/-- A new handle can be queued. -/
theorem state_queued {job : Job} (new : job.state = .new) (id : String)
    (now : Calendar.Instant) : ((job.bind id).transition .queued now).state = .queued := by
  have hadmits : (job.bind id).admits .queued = true := by
    rw [Job.admits_iff, Job.state_bind, new]
    decide
  rw [Job.state_transition, if_pos hadmits]

/-- What a submission comes to is decided by its fate. -/
theorem submission_of_fate {b : Backend Network} {job : Job} (new : job.state = .new)
    {net : Network} {response? : Option Response} {brings : Document → String → Prop}
    (visible : ∀ d id, brings d id → Text.isBlankText id = false)
    (hfate : Http.Fate response? brings (b.answer (.submit job.spec) net).1.outcome)
    (posts : ((submit job).run b net).2.sent = net.sent ∨ ∃ request, request.method = .post ∧
      ((submit job).run b net).2.sent = net.sent ++ [request]) :
    Submission b job net response? brings := by
  generalize houtcome : (b.answer (.submit job.spec) net).1.outcome = x at hfate
  -- the lifecycle refuses blank ids by itself, but none is ever brought
  have hvisible {id : String} (hid : x = .ok id) : Text.isBlankText id = false := by
    subst hid
    cases hfate with
    | brought _ _ _ brought => exact visible _ id brought
  have hvalue : (submitReport b job net).value = x.map fun _ => () := by
    cases x with
    | error e =>
      rw [submitReport_of_error houtcome]
      rfl
    | ok id =>
      rw [submitReport_of_ok houtcome (hvisible rfl)]
      rfl
  have herror (e : Error) : (submitReport b job net).value = .error e ↔ x = .error e := by
    rw [hvalue]
    cases x <;> simp [Except.map]
  refine ⟨?value, ?bound, ?transport, ?api, ?protocol, ?kept, posts⟩
  case value =>
    rw [← hfate.ok_iff, hvalue]
    cases x <;> simp [Except.map]
  case bound =>
    intro r d id hr haccepted hd hbrings
    obtain rfl := hfate.eq_ok hr haccepted hd hbrings
    rw [submitReport_of_ok houtcome (hvisible rfl)]
    exact ⟨state_queued new id _, by rw [Job.nativeId_transition, Job.nativeId_bind]⟩
  case transport => simp only [herror, hfate.transport_iff]
  case api => simp only [herror, hfate.api_iff, implies_true]
  case protocol => simp only [herror, hfate.protocol_iff]
  case kept =>
    intro hfailed
    cases x with
    | error e => rw [submitReport_of_error houtcome]
    | ok id =>
      rw [hvalue] at hfailed
      exact absurd rfl hfailed

/-- What a call that submits comes to. -/
theorem submission {service : Service} {job : Job} (new : job.state = .new)
    {brings : Document → String → Prop}
    (h : Call.Submits (service.call (.submit job.spec)) brings) (net : Network) :
    Submission service.backend job net
      (Call.response? (service.call (.submit job.spec)) net) brings := by
  refine submission_of_fate new h.visible (h.fate net) ?_
  rcases Call.sent_run (service.call (.submit job.spec)) net with hnone | ⟨request, hmade, hsent⟩
  · exact .inl hnone
  · exact .inr ⟨request, h.posts request hmade, hsent⟩

/-- **What the submission of a fresh handle comes to.**  With either scheduler, the handle
is bound exactly if its one request is answered by a reply that accepts it and brings an
id; a whole number that 64 bits hold is an id by its digits. -/
theorem submission_of_fresh (id : JobId) (spec : JobSpec) (made : Calendar.Instant)
    (net : Network) :
    (∀ d : Slurm.Driver, Submission d.service.backend (Job.create id spec made) net
      ((d.submit spec).response? net) Slurm.BringsId) ∧
    (∀ d : Nersc.Driver, Submission d.service.backend (Job.create id spec made) net
      ((d.submit spec).response? net) Nersc.BringsId) ∧
    ∀ (numeral : Numeral) (nativeId : String), numeral.negative = false →
      numeral.fraction = none → numeral.exponent = none →
      Nat.ofDigitChars 10 numeral.whole 0 < UInt64.size →
      ((Document.number numeral).NamesJob nativeId
        ↔ nativeId = Decimal.numeral (Nat.ofDigitChars 10 numeral.whole 0)) := by
  refine ⟨fun d => ?_, fun d => ?_, fun numeral nativeId unsigned whole plain h => ?_⟩
  · exact submission rfl (d.submits spec) net
  · exact submission rfl (d.submits spec) net
  · exact Document.namesJob_number_iff unsigned whole plain h

/-- The body of a reply that brings a number to Slurm and a text to NERSC. -/
def acceptedBytes : List UInt8 :=
  Text.encodeUtf8 "\x7b\"job_id\":42,\"jobid\":\" 7 \"\x7d".toList

/-- The response with that body. -/
def acceptance : Response := ⟨201, .whole acceptedBytes⟩

/-- A network with that response for its first request. -/
def acceptingNetwork : Network := { line := .up [.response acceptance], now := .epoch }

/-- The members of the object that the reply writes. -/
def acceptedMembers : List (Option String × Document) :=
  [(some "job_id", .number { whole := ['4', '2'] }), (some "jobid", .string (some " 7 "))]

theorem document?_acceptance : acceptance.document? = some (.object acceptedMembers) := by
  have hlex : Json.lex (Text.glyphs acceptedBytes) = some
      [.openBrace, .string (some "job_id"), .colon, .number { whole := ['4', '2'] }, .comma,
        .string (some "jobid"), .colon, .string (some " 7 "), .closeBrace] := by
    decide +kernel
  show (Json.lex (Text.glyphs acceptedBytes)).bind Document.ofTokens? = _
  rw [hlex]
  rfl

/-- A number binds by its digits, a text without the blanks around it. -/
theorem submission_of_fresh_accepted :
    let job := Job.create .zero { executable := "/bin/true" } .epoch
    let slurm := (Slurm.Driver.mk ⟨"http://h"⟩ "root" "t").service.backend
    let nersc := (Nersc.Driver.mk ⟨"http://h"⟩ "t" "m").service.backend
    (submitReport slurm job acceptingNetwork).job.nativeId = some "42" ∧
      (submitReport nersc job acceptingNetwork).job.nativeId = some "7" := by
  obtain ⟨hslurm, hnersc, hdigits⟩ :=
    submission_of_fresh .zero { executable := "/bin/true" } .epoch acceptingNetwork
  have hnumber : (Document.number { whole := ['4', '2'] }).NamesJob "42" :=
    (hdigits _ _ rfl rfl rfl (by decide)).mpr (by decide +kernel)
  have hstring : (Document.string (some " 7 ")).NamesJob "7" := .string (s := " 7 ") (by decide)
  have hbrings : Slurm.BringsId (.object acceptedMembers) "42" :=
    ⟨rfl, _, _, Document.fields?_object (by decide +kernel), .inl rfl, rfl, hnumber⟩
  have hbrings' : Nersc.BringsId (.object acceptedMembers) "7" :=
    ⟨rfl, _, _, Document.fields?_object (by decide +kernel), rfl, hstring⟩
  constructor
  · exact ((hslurm _).bound acceptance _ _ (by decide +kernel) rfl document?_acceptance hbrings).2
  · exact ((hnersc _).bound acceptance _ _ (by decide +kernel) rfl document?_acceptance hbrings').2

end Lifecycle

end RemoteBatch
