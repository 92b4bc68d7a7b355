import RemoteBatch.Proofs.Depth
import RemoteBatch.Proofs.Submission

/-!
# The jobs that a reply lists

A scheduler that is asked for all jobs replies with a list of records.  The ids in them
come out in the order of the records, each as often as it is there, and a record without
an id is passed over.  An empty list of ids comes only from a list of records: a reply
that has none, that reports an error or that cannot be read is an error itself.

NERSC gives the list as it is or as the output of a report, and the two forms say the
same.  They are read by a reader that follows a text to a limited depth, and the second
form is one level deeper, so there are lists that only the first form can bring.

## Main definitions

* `Json.Document.NamesIn` — that a record has an id in one of its fields.
* `Enumerates` — the ids that records have, in order.
* `Slurm.Lists`, `Nersc.Lists` — that a reply lists some records.
* `Http.Listed` — what a call for all jobs comes to.

## Main results

* `filterMap_eq_iff` — the ids that are kept are those that the records have.
* `Nersc.interpret_report_iff` — when the two forms say the same.
* `jobs_listed` — **what a call for all jobs comes to**, with either scheduler.
* `jobs_listed_too_deep` — a list that only one of the forms can bring.
-/

namespace RemoteBatch

open Http (Call Network Response)
open Json (Document Fields maxNesting)

/-! ### Ids in records -/

/-- That a record has the id of a job in one of its fields. -/
def Json.Document.NamesIn (names : List String) (key : String) (record : Document)
    (id : String) : Prop :=
  ∃ fields d, record.fields? names = some fields ∧ fields key = some d ∧ d.NamesJob id

theorem Json.Document.nativeId?_iff_namesIn {names : List String} {key : String}
    {record : Document} {fields : Fields} (hfields : record.fields? names = some fields)
    {enclosing : Nat} (h : enclosing ≤ maxNesting) {v? : Option Json.Value}
    (hread : fields.optional key (value? enclosing) = some v?) {id : String} :
    v?.bind nativeId? = some id ↔ record.NamesIn names key id := by
  rw [Fields.nativeId?_iff h hread, NamesIn, hfields]
  simp

/-- The ids that records have, in their order. -/
inductive Enumerates (names : Document → String → Prop) : List Document → List String → Prop
  | nil : Enumerates names [] []
  | named {record : Document} {records : List Document} {id : String} {ids : List String}
    (has : names record id) (rest : Enumerates names records ids) :
    Enumerates names (record :: records) (id :: ids)
  | nameless {record : Document} {records : List Document} {ids : List String}
    (none : ∀ id, ¬ names record id) (rest : Enumerates names records ids) :
    Enumerates names (record :: records) ids

section

variable {names : Document → String → Prop}

/-- The ids that are kept of what is read from records are those that the records have. -/
theorem filterMap_eq_iff {read : Document → Option β} {idOf : β → Option String}
    (h : ∀ record b, read record = some b → ∀ id, idOf b = some id ↔ names record id)
    {records : List Document} {bs : List β}
    (hread : List.Forall₂ (fun record b => read record = some b) records bs)
    {ids : List String} : bs.filterMap idOf = ids ↔ Enumerates names records ids := by
  induction hread generalizing ids with
  | nil =>
    constructor
    · rintro rfl
      exact .nil
    · intro henumerates
      cases henumerates
      rfl
  | @cons record b records bs hb _ ih =>
    have hid := h record b hb
    cases hidOf : idOf b with
    | none =>
      have hnone : ∀ id, ¬ names record id := by
        intro id hnames
        rw [← hid id, hidOf] at hnames
        exact nomatch hnames
      rw [List.filterMap_cons_none hidOf, ih]
      constructor
      · exact .nameless hnone
      · intro henumerates
        cases henumerates with
        | named has rest => exact absurd has (hnone _)
        | nameless none rest => exact rest
    | some id =>
      have hsome : names record id := (hid id).mp hidOf
      rw [List.filterMap_cons_some hidOf]
      constructor
      · rintro rfl
        exact .named hsome (ih.mp rfl)
      · intro henumerates
        cases henumerates with
        | named has rest =>
          obtain rfl := Option.some.inj (hidOf.symm.trans ((hid _).mpr has))
          rw [ih.mpr rest]
        | nameless none rest => exact absurd hsome (none id)

theorem exists_enumerates (names : Document → String → Prop) (records : List Document) :
    ∃ ids, Enumerates names records ids := by
  induction records with
  | nil => exact ⟨[], .nil⟩
  | cons record records ih =>
    obtain ⟨ids, rest⟩ := ih
    by_cases has : ∃ id, names record id
    · obtain ⟨id, has⟩ := has
      exact ⟨id :: ids, .named has rest⟩
    · exact ⟨ids, .nameless (not_exists.mp has) rest⟩

/-- No ids are enumerated exactly if no record has one. -/
theorem enumerates_nil_iff {records : List Document} :
    Enumerates names records [] ↔ ∀ record ∈ records, ∀ id, ¬ names record id := by
  induction records with
  | nil => exact iff_of_true .nil nofun
  | cons record records ih =>
    rw [List.forall_mem_cons, ← ih]
    constructor
    · intro h
      cases h with
      | nameless none rest => exact ⟨none, rest⟩
    · rintro ⟨none, rest⟩
      exact .nameless none rest

end

/-- That a document brings ids: it lists records that have them. -/
def BringsIds (lists : Document → List Document → Prop) (names : Document → String → Prop)
    (doc : Document) (ids : List String) : Prop :=
  ∃ records, lists doc records ∧ Enumerates names records ids

namespace Http

/-- What a call for all jobs comes to, by the response that it meets and the records that
documents list. -/
structure Listed (x : Except Error (List String)) (response? : Option Response)
    (lists : Document → List Document → Prop) (names : Document → String → Prop) : Prop where
  ok_iff : ∀ ids, x = .ok ids ↔ ∃ r d records, response? = some r ∧ r.accepted = true ∧
    r.document? = some d ∧ lists d records ∧ Enumerates names records ids
  /-- Only a list without an id in it gives an empty list of ids. -/
  empty_iff : x = .ok [] ↔ ∃ r d records, response? = some r ∧ r.accepted = true ∧
    r.document? = some d ∧ lists d records ∧ ∀ record ∈ records, ∀ id, ¬ names record id
  transport_iff : (∃ fault, x = .error (.transport fault)) ↔ response? = none
  api_iff : ∀ status body, x = .error (.api status body) ↔ ∃ r, response? = some r ∧
    r.accepted = false ∧ r.status = status ∧ r.explanation = body
  protocol_iff : (∃ reason, x = .error (.protocol reason)) ↔ ∃ r, response? = some r ∧
    r.accepted = true ∧ ∀ d records, r.document? = some d → ¬ lists d records

theorem Fate.listed {response? : Option Response} {lists : Document → List Document → Prop}
    {names : Document → String → Prop} {x : Except Error (List String)}
    (h : Fate response? (BringsIds lists names) x) : Listed x response? lists names := by
  have hok (ids : List String) : x = .ok ids ↔ ∃ r d records, response? = some r ∧
      r.accepted = true ∧ r.document? = some d ∧ lists d records ∧
        Enumerates names records ids := by
    simp only [h.eq_ok_iff, BringsIds, exists_and_left]
  refine ⟨hok, ?_, h.transport_iff, h.api_iff, ?_⟩
  · simp only [hok, enumerates_nil_iff]
  · rw [h.protocol_iff]
    refine exists_congr fun r => and_congr_right fun _ => and_congr_right fun _ => ?_
    constructor
    · intro nothing d records hd hlists
      obtain ⟨ids, henumerates⟩ := exists_enumerates names records
      exact nothing d ids hd ⟨records, hlists, henumerates⟩
    · rintro nothing d ids hd ⟨records, hlists, -⟩
      exact nothing d records hd hlists

end Http

/-! ### Slurm -/

namespace Slurm

/-- That a reply lists some records: it can be read, holds no errors, and has them in its
field. -/
def Lists (doc : Document) (records : List Document) : Prop :=
  (JobsReply.ofDocument? doc).isSome = true ∧ ∃ fields,
    doc.fields? ["jobs", "errors"] = some fields ∧ NoErrors fields ∧
      fields "jobs" = some (.array records)

/-- That a record is of the job with an id. -/
def Names : Document → String → Prop := Document.NamesIn ["job_id", "job_state"] "job_id"

theorem JobInfo.nativeId?_iff {record : Document} {info : JobInfo}
    (h : ofDocument? record = some info) (id : String) :
    info.jobId.bind nativeId? = some id ↔ Names record id := by
  simp only [ofDocument?, Option.bind_eq_bind, Option.bind_eq_some_iff, Option.some.injEq] at h
  obtain ⟨fields, hfields, jobId, hjobId, state, -, rfl⟩ := h
  exact Document.nativeId?_iff_namesIn hfields (by decide) hjobId

/-- The ids in a reply. -/
def JobsReply.ids (reply : JobsReply) : Except Error (List String) :=
  reply.infos "Slurm failed to list jobs" >>= fun infos =>
    pure (infos.filterMap fun info => info.jobId.bind nativeId?)

namespace JobsReply

variable {reply : JobsReply}

theorem ids_of_complaint {c : Complaint} {cs : List Complaint} (h : reply.errors = c :: cs) :
    reply.ids = .error (Fault.complaint "Slurm failed to list jobs" c.text).error := by
  rw [ids, infos, h]
  rfl

theorem ids_of_noJobs (fine : reply.errors = []) (h : reply.jobs = none) :
    reply.ids = .error (Fault.missingJobs "Slurm failed to list jobs").error := by
  rw [ids, infos, fine, h]
  rfl

theorem ids_of_jobs (fine : reply.errors = []) {infos : List JobInfo}
    (h : reply.jobs = some infos) :
    reply.ids = .ok (infos.filterMap fun info => info.jobId.bind nativeId?) := by
  rw [ids, JobsReply.infos, fine, h]
  rfl

theorem exists_reason {e : Error} (h : reply.ids = .error e) : ∃ reason, e = .protocol reason := by
  cases herrors : reply.errors with
  | cons c cs =>
    rw [ids_of_complaint herrors] at h
    exact ⟨_, (Except.error.inj h).symm⟩
  | nil =>
    cases hjobs : reply.jobs with
    | none =>
      rw [ids_of_noJobs herrors hjobs] at h
      exact ⟨_, (Except.error.inj h).symm⟩
    | some infos =>
      rw [ids_of_jobs herrors hjobs] at h
      exact nomatch h

theorem ids_eq_ok_iff {doc : Document} (h : ofDocument? doc = some reply) (ids : List String) :
    reply.ids = .ok ids ↔ ∃ records, Lists doc records ∧ Enumerates Names records ids := by
  have hreadable : (ofDocument? doc).isSome = true := by rw [h]; rfl
  obtain ⟨fields, hfields, hreads⟩ := exists_reads h
  have hlists (records : List Document) : Lists doc records ↔
      NoErrors fields ∧ fields "jobs" = some (.array records) := by
    rw [Lists, hfields, and_iff_right hreadable]
    simp
  simp only [hlists]
  constructor
  · intro hids
    rcases errors_cases hreads.errors with ⟨fine, hnil⟩ | ⟨-, -, c, cs, -, -, hcons⟩
    · rcases Fields.optional_list?_cases hreads.jobs with ⟨-, hnone⟩ |
        ⟨records, infos, hrecords, hread, hsome⟩
      · rw [ids_of_noJobs hnil hnone] at hids
        exact nomatch hids
      · rw [ids_of_jobs hnil hsome] at hids
        exact ⟨records, ⟨fine, hrecords⟩,
          (filterMap_eq_iff (fun _ _ => JobInfo.nativeId?_iff) hread).mp (Except.ok.inj hids)⟩
    · rw [ids_of_complaint hcons] at hids
      exact nomatch hids
  · rintro ⟨records, ⟨fine, hrecords⟩, henumerates⟩
    obtain ⟨infos, hsome, hread⟩ := Fields.optional_list?_of_array hrecords hreads.jobs
    rw [ids_of_jobs (fine.errors_eq_nil hreads.errors) hsome,
      (filterMap_eq_iff (fun _ _ => JobInfo.nativeId?_iff) hread).mpr henumerates]

end JobsReply

theorem Driver.list_brings (d : Driver) : d.list.Brings (BringsIds Lists Names) :=
  .of_parts (fun _ h => Http.Endpoint.unsent_of_bind (g := id) h) (fun _ => rfl)
    (fun _ _ ⟨_, hlists, _⟩ => hlists.1) (fun _ _ h => JobsReply.ids_eq_ok_iff h)
    fun _ _ h => JobsReply.exists_reason h

end Slurm

/-! ### NERSC -/

namespace Nersc

/-- That a reply lists some records: it can be read, and is an array of them or has them in
the field of a report without the status of a failure. -/
def Lists (doc : Document) (records : List Document) : Prop :=
  (Listing.ofDocument? doc).isSome = true ∧ (doc = .array records ∨ ∃ fields,
    doc.members? Report.fieldNames = some fields ∧ ¬ Fails fields ∧
      fields "output" = some (.array records))

/-- That a record is of the job with an id. -/
def Names : Document → String → Prop := Document.NamesIn ["jobid", "state"] "jobid"

theorem Record.nativeId?_iff {enclosing : Nat} (henclosing : enclosing ≤ maxNesting)
    {doc : Document} {record : Record} (h : ofDocument? enclosing doc = some record)
    (id : String) : record.jobId.bind nativeId? = some id ↔ Names doc id := by
  simp only [ofDocument?, Option.bind_eq_bind, Option.bind_eq_some_iff, Option.some.injEq] at h
  obtain ⟨fields, hfields, jobId, hjobId, state, -, rfl⟩ := h
  exact Document.nativeId?_iff_namesIn hfields henclosing hjobId

namespace Listing

/-- What a document is that a listing is read from. -/
theorem cases_of_ofDocument? {doc : Document} {listing : Listing}
    (h : ofDocument? doc = some listing) : (doc.value? 0).isSome = true ∧
      ((∃ items rs, doc = .array items ∧ listing = .records rs ∧
          List.Forall₂ (fun d r => Record.ofDocument? 0 d = some r) items rs) ∨
        ∃ fields r, doc.members? Report.fieldNames = some fields ∧ listing = .report r ∧
          Report.Reads fields r) := by
  unfold ofDocument? at h
  obtain ⟨hvalue, h⟩ := Option.ite_none_left_eq_some.mp h
  refine ⟨by rwa [Bool.not_eq_true, Option.isNone_eq_false_iff] at hvalue, ?_⟩
  split at h
  · next items _ =>
    obtain ⟨rs, hrs, rfl⟩ := Option.map_eq_some_iff.mp h
    exact .inl ⟨items, rs, rfl, rfl, mapM_eq_some_iff.mp hrs⟩
  · obtain ⟨r, hr, rfl⟩ := Option.map_eq_some_iff.mp h
    obtain ⟨fields, hfields, hread⟩ := Option.bind_eq_some_iff.mp hr
    exact .inr ⟨fields, r, hfields, rfl, Report.reads_of_ofFields? hread⟩

/-- The ids in a listing. -/
def ids (listing : Listing) : Except Error (List String) :=
  listing.jobs >>= fun records =>
    pure (records.filterMap fun record => record.jobId.bind nativeId?)

variable {r : Report}

theorem ids_of_failure {text : String} (h : r.failure? = some text) :
    (report r).ids = .error (Fault.listFailed text).error := by
  rw [ids, jobs, h]
  rfl

theorem ids_of_noOutput (fine : r.failure? = none) (h : r.output = none) :
    (report r).ids = .error Fault.missingOutput.error := by
  rw [ids, jobs, fine, h]
  rfl

theorem ids_of_output (fine : r.failure? = none) {rs : List Record} (h : r.output = some rs) :
    (report r).ids = .ok (rs.filterMap fun record => record.jobId.bind nativeId?) := by
  rw [ids, jobs, fine, h]
  rfl

theorem exists_reason {listing : Listing} {e : Error} (h : listing.ids = .error e) :
    ∃ reason, e = .protocol reason := by
  cases listing with
  | records rs => exact nomatch h
  | report r =>
    cases hfailure : r.failure? with
    | some text =>
      rw [ids_of_failure hfailure] at h
      exact ⟨_, (Except.error.inj h).symm⟩
    | none =>
      cases houtput : r.output with
      | none =>
        rw [ids_of_noOutput hfailure houtput] at h
        exact ⟨_, (Except.error.inj h).symm⟩
      | some rs =>
        rw [ids_of_output hfailure houtput] at h
        exact nomatch h

theorem lists_array_iff {items : List Document} (records : List Document) :
    Lists (.array items) records ↔
      (ofDocument? (.array items)).isSome = true ∧ records = items := by
  rw [Lists, Document.array.injEq]
  refine and_congr_right fun _ => ⟨?_, fun h => .inl h.symm⟩
  rintro (rfl | ⟨_, hfields, -⟩)
  · rfl
  · exact nomatch hfields

theorem lists_iff_of_members {doc : Document} (readable : (ofDocument? doc).isSome = true)
    {fields : Fields} (hfields : doc.members? Report.fieldNames = some fields)
    (records : List Document) : Lists doc records ↔
      ¬ Fails fields ∧ fields "output" = some (.array records) := by
  rw [Lists, and_iff_right readable]
  constructor
  · rintro (rfl | ⟨fields', hfields', fine, houtput⟩)
    · exact nomatch hfields
    · obtain rfl := Option.some.inj (hfields.symm.trans hfields')
      exact ⟨fine, houtput⟩
  · rintro ⟨fine, houtput⟩
    exact .inr ⟨fields, hfields, fine, houtput⟩

theorem ids_eq_ok_iff {doc : Document} {listing : Listing} (h : ofDocument? doc = some listing)
    (ids : List String) : listing.ids = .ok ids ↔
      ∃ records, Lists doc records ∧ Enumerates Names records ids := by
  have hreadable : (ofDocument? doc).isSome = true := by rw [h]; rfl
  obtain ⟨-, ⟨items, rs, rfl, rfl, hread⟩ | ⟨fields, r, hfields, rfl, hreads⟩⟩ :=
    cases_of_ofDocument? h
  · simp only [lists_array_iff, and_iff_right hreadable, exists_eq_left]
    rw [← filterMap_eq_iff (fun _ _ => Record.nativeId?_iff (Nat.zero_le maxNesting)) hread]
    exact ⟨Except.ok.inj, congrArg Except.ok⟩
  · simp only [lists_iff_of_members hreadable hfields]
    constructor
    · intro hids
      cases hfailure : r.failure? with
      | some text =>
        rw [ids_of_failure hfailure] at hids
        exact nomatch hids
      | none =>
        have fine := hreads.failure?_eq_none_iff.mp hfailure
        rcases Fields.optional_list?_cases hreads.output with ⟨-, hnone⟩ |
          ⟨records, rs, hrecords, hread, hsome⟩
        · rw [ids_of_noOutput hfailure hnone] at hids
          exact nomatch hids
        · rw [ids_of_output hfailure hsome] at hids
          exact ⟨records, ⟨fine, hrecords⟩,
            (filterMap_eq_iff (fun _ _ => Record.nativeId?_iff (by decide)) hread).mp
              (Except.ok.inj hids)⟩
    · rintro ⟨records, ⟨fine, hrecords⟩, henumerates⟩
      obtain ⟨rs, hsome, hread⟩ := Fields.optional_list?_of_array hrecords hreads.output
      rw [ids_of_output (hreads.failure?_eq_none_iff.mpr fine) hsome,
        (filterMap_eq_iff (fun _ _ => Record.nativeId?_iff (by decide)) hread).mpr henumerates]

end Listing

theorem Driver.list_brings (d : Driver) : d.list.Brings (BringsIds Lists Names) :=
  .of_parts (fun _ h => Http.Endpoint.unsent_of_bind h) (fun _ => rfl)
    (fun _ _ ⟨_, hlists, _⟩ => hlists.1) (fun _ _ h => Listing.ids_eq_ok_iff h)
    fun _ _ h => Listing.exists_reason h

end Nersc

/-! ### How deep a list lies -/

namespace Nersc

/-- A record is read at any depth at which its id has a value. -/
theorem Record.ofDocument?_of_value? {m n : Nat} {doc : Document} {record : Record}
    (h : ofDocument? m doc = some record)
    (hvalue : ∀ (d : Document) v, d.height < doc.height → d.value? m = some v →
      d.value? n = some v) :
    ofDocument? n doc = some record := by
  simp only [ofDocument?, Option.bind_eq_bind, Option.bind_eq_some_iff, Option.some.injEq] at h ⊢
  obtain ⟨fields, hfields, jobId, hjobId, state, hstate, rfl⟩ := h
  refine ⟨fields, hfields, jobId, ?_, state, hstate, rfl⟩
  rcases Fields.optional_eq_some_iff.mp hjobId with ⟨hlacks, rfl⟩ | ⟨d, v, hd, hnull, hv, rfl⟩
  · exact Fields.optional_eq_some_iff.mpr (.inl ⟨hlacks, rfl⟩)
  · have hlt := Document.height_lt_of_fields? hfields hd
    exact Fields.optional_eq_some_iff.mpr (.inr ⟨d, v, hd, hnull, hvalue d v hlt hv, rfl⟩)

/-- Records that do not nest too deep are read as well three levels further down. -/
theorem Record.forall₂_of_height {records : List Document} {rs : List Record}
    (h : List.Forall₂ (fun d r => Record.ofDocument? 0 d = some r) records rs)
    (hle : Document.heightOfItems records + 2 ≤ maxNesting) :
    List.Forall₂ (fun d r => Record.ofDocument? 3 d = some r) records rs := by
  induction h with
  | nil => exact .nil
  | @cons d r records rs hr _ ih =>
    rw [Document.heightOfItems] at hle
    refine .cons (Record.ofDocument?_of_value? hr fun d' v hlt hv => ?_) (ih (by omega))
    exact (if_pos (by omega)).trans (Option.ite_none_right_eq_some.mp hv).2

/-- A report that has some records for its output and nothing else. -/
def reportOf (records : List Document) : Document := .object [(some "output", .array records)]

theorem height_reportOf (records : List Document) :
    (reportOf records).height = Document.heightOfItems records + 2 := by
  show max (Document.heightOfItems records + 1) 0 + 1 = _
  omega

/-- The fields of a report with an output alone. -/
theorem exists_members?_reportOf (records : List Document) : ∃ fields,
    (reportOf records).members? Report.fieldNames = some fields ∧
      fields "output" = some (.array records) ∧ fields "status" = none ∧
        fields "error" = none := by
  have hdistinct : Document.distinctFields Report.fieldNames
      [(some "output", .array records)] = true := by
    simp [Document.distinctFields, Report.fieldNames]
  exact ⟨_, Document.fields?_object hdistinct, rfl, rfl, rfl⟩

namespace Listing

/-- An array is a listing if it has a value and its items are records. -/
theorem isSome_ofDocument?_array_iff {items : List Document} :
    (ofDocument? (.array items)).isSome = true ↔ ((Document.array items).value? 0).isSome = true ∧
      ∃ rs, List.Forall₂ (fun d r => Record.ofDocument? 0 d = some r) items rs := by
  constructor
  · intro h
    obtain ⟨listing, hlisting⟩ := Option.isSome_iff_exists.mp h
    obtain ⟨hvalue, ⟨items', rs, hitems, -, hread⟩ | ⟨fields, r, hfields, -, -⟩⟩ :=
      cases_of_ofDocument? hlisting
    · obtain rfl := Document.array.inj hitems
      exact ⟨hvalue, rs, hread⟩
    · exact nomatch hfields
  · rintro ⟨hvalue, rs, hread⟩
    have hnone : ((Document.array items).value? 0).isNone = false := by
      rwa [Option.isNone_eq_false_iff]
    have hrs : items.mapM (Record.ofDocument? 0) = some rs := mapM_eq_some_iff.mpr hread
    show (if ((Document.array items).value? 0).isNone then none
      else (items.mapM (Record.ofDocument? 0)).map Listing.records).isSome = true
    rw [hnone, if_neg Bool.false_ne_true, hrs]
    rfl

/-- A report with an output alone is a listing if it has a value and its output is made of
records. -/
theorem isSome_ofDocument?_reportOf_iff {records : List Document} :
    (ofDocument? (reportOf records)).isSome = true ↔
      ((reportOf records).value? 0).isSome = true ∧
        ∃ rs, List.Forall₂ (fun d r => Record.ofDocument? 3 d = some r) records rs := by
  obtain ⟨fields, hfields, houtput, hstatus, herror⟩ := exists_members?_reportOf records
  constructor
  · intro h
    obtain ⟨listing, hlisting⟩ := Option.isSome_iff_exists.mp h
    obtain ⟨hvalue, ⟨items, rs, hitems, -, -⟩ | ⟨fields', r, hfields', -, hreads⟩⟩ :=
      cases_of_ofDocument? hlisting
    · exact nomatch hitems
    · obtain rfl := Option.some.inj (hfields.symm.trans hfields')
      obtain ⟨rs, -, hread⟩ := Fields.optional_list?_of_array houtput hreads.output
      exact ⟨hvalue, rs, hread⟩
  · rintro ⟨hvalue, rs, hread⟩
    have hnone : ((reportOf records).value? 0).isNone = false := by
      rwa [Option.isNone_eq_false_iff]
    have hreport : Report.ofFields? fields = some ⟨none, none, some rs⟩ := by
      have hrs : records.mapM (Record.ofDocument? 3) = some rs := mapM_eq_some_iff.mpr hread
      simp only [Report.ofFields?, Fields.optional, houtput, hstatus, herror, Document.list?, hrs]
      rfl
    show (if ((reportOf records).value? 0).isNone then none
      else (((reportOf records).members? Report.fieldNames).bind Report.ofFields?).map
        Listing.report).isSome = true
    rw [hnone, if_neg Bool.false_ne_true, hfields, Option.bind_some, hreport]
    rfl

end Listing

/-- The records of a report are also listed by themselves. -/
theorem Lists.array {doc : Document} {records : List Document} (h : Lists doc records) :
    Lists (.array records) records := by
  obtain ⟨hreadable, hdoc⟩ := h
  rw [Listing.lists_array_iff, and_iff_left rfl]
  rcases hdoc with rfl | ⟨fields, hfields, -, houtput⟩
  · exact hreadable
  · obtain ⟨listing, hlisting⟩ := Option.isSome_iff_exists.mp hreadable
    obtain ⟨hvalue, ⟨items, rs, rfl, -, -⟩ | ⟨fields', r, hfields', -, hreads⟩⟩ :=
      Listing.cases_of_ofDocument? hlisting
    · exact nomatch hfields
    · obtain rfl := Option.some.inj (hfields.symm.trans hfields')
      obtain ⟨rs, -, hread⟩ := Fields.optional_list?_of_array houtput hreads.output
      cases doc with
      | object members =>
        obtain ⟨-, hsome⟩ := Option.ite_none_right_eq_some.mp hfields
        obtain rfl := Option.some.inj hsome
        have harray := Document.isSome_value?_of_member hvalue (Document.mem_of_lookup houtput)
        refine Listing.isSome_ofDocument?_array_iff.mpr ⟨harray, rs, hread.imp ?_⟩
        intro d r hr
        exact Record.ofDocument?_of_value? hr fun _ _ _ => Document.value?_of_le (Nat.zero_le 3)
      | _ => exact nomatch hfields

theorem lists_reportOf_iff_isSome {records : List Document} : Lists (reportOf records) records ↔
    (Listing.ofDocument? (reportOf records)).isSome = true := by
  refine ⟨And.left, fun readable => ?_⟩
  obtain ⟨fields, hfields, houtput, hstatus, -⟩ := exists_members?_reportOf records
  have fine : ¬ Fails fields := by
    rintro ⟨token, htoken, -⟩
    exact nomatch hstatus.symm.trans htoken
  exact (Listing.lists_iff_of_members readable hfields records).mpr ⟨fine, houtput⟩

/-- Records that are listed by themselves are listed by a report if it is not too deep. -/
theorem lists_reportOf_iff {records : List Document} : Lists (reportOf records) records ↔
    Lists (.array records) records ∧ Document.heightOfItems records + 2 ≤ maxNesting := by
  constructor
  · intro h
    have hvalue := (Listing.isSome_ofDocument?_reportOf_iff.mp h.1).1
    rw [Document.isSome_value?_iff, height_reportOf, Nat.zero_add] at hvalue
    exact ⟨h.array, hvalue.1⟩
  · rintro ⟨h, hle⟩
    rw [Listing.lists_array_iff, and_iff_left rfl, Listing.isSome_ofDocument?_array_iff] at h
    obtain ⟨harray, rs, hread⟩ := h
    have hdenote : (reportOf records).denote?.isSome = true := by
      obtain ⟨v, hv⟩ := Option.isSome_iff_exists.mp (Document.isSome_value?_iff.mp harray).2
      rw [reportOf, Document.denote?, Document.denoteMembers?]
      simp [hv, Document.denoteMembers?]
    have hvalue : ((reportOf records).value? 0).isSome = true := by
      rw [Document.isSome_value?_iff, height_reportOf, Nat.zero_add]
      exact ⟨hle, hdenote⟩
    rw [lists_reportOf_iff_isSome, Listing.isSome_ofDocument?_reportOf_iff]
    exact ⟨hvalue, rs, Record.forall₂_of_height hread hle⟩

section Forms

variable {d : Driver} {r : Response}

theorem interpret_of_lists (accepted : r.accepted = true) {doc : Document}
    (hdoc : r.document? = some doc) {records : List Document} (hlists : Lists doc records)
    {ids : List String} (henumerates : Enumerates Names records ids) :
    d.list.interpret r = .ok ids :=
  (d.list_brings.ok_iff r accepted ids).mpr ⟨doc, hdoc, records, hlists, henumerates⟩

theorem interpret_of_unread (accepted : r.accepted = true) {doc : Document}
    (hdoc : r.document? = some doc) (unread : Listing.ofDocument? doc = none) :
    d.list.interpret r = .error Response.undecodable := by
  have hnone : r.document?.bind Listing.ofDocument? = none := by
    rw [hdoc, Option.bind_some, unread]
  show (r.decode Listing.ofDocument? >>= Listing.ids) = _
  rw [Response.decode_of_unread accepted hnone]
  rfl

/-- **When the two forms say the same**: when the records are none that an array could list,
or when the report is not too deep. -/
theorem interpret_report_iff {r' : Response} (accepted : r.accepted = true)
    (accepted' : r'.accepted = true) {records : List Document}
    (hdoc : r.document? = some (.array records))
    (hdoc' : r'.document? = some (reportOf records)) :
    d.list.interpret r' = d.list.interpret r ↔
      (Lists (.array records) records → Document.heightOfItems records + 2 ≤ maxNesting) := by
  by_cases hlists : Lists (.array records) records
  · obtain ⟨ids, henumerates⟩ := exists_enumerates Names records
    rw [imp_iff_right hlists, interpret_of_lists accepted hdoc hlists henumerates]
    constructor
    · intro hok
      obtain ⟨doc, hdoc'', records', hlists', -⟩ := (d.list_brings.ok_iff r' accepted' ids).mp hok
      obtain rfl := Option.some.inj (hdoc'.symm.trans hdoc'')
      exact (lists_reportOf_iff.mp (lists_reportOf_iff_isSome.mpr hlists'.1)).2
    · intro hle
      exact interpret_of_lists accepted' hdoc' (lists_reportOf_iff.mpr ⟨hlists, hle⟩) henumerates
  · -- what an array cannot list a report cannot either
    have hbare : Listing.ofDocument? (.array records) = none := by
      rw [Listing.lists_array_iff, and_iff_left rfl] at hlists
      exact Option.not_isSome_iff_eq_none.mp hlists
    have hreport : Listing.ofDocument? (reportOf records) = none := by
      rw [← Option.not_isSome_iff_eq_none, ← lists_reportOf_iff_isSome]
      exact fun h => hlists h.array
    rw [interpret_of_unread accepted hdoc hbare, interpret_of_unread accepted' hdoc' hreport]
    exact iff_of_true rfl fun h => absurd h hlists

end Forms

end Nersc

/-- **What a call for all jobs comes to.**  With either scheduler, it comes to a list of ids
exactly if a reply accepts it that lists records, and the ids are those of the records, in
their order; anything else is an error.  What a report of NERSC lists an array lists too,
and the array and a report of it say the same unless the report is too deep for a list that
the array brings. -/
theorem jobs_listed (net : Network) :
    (∀ d : Slurm.Driver, Http.Listed (d.service.backend.answer .list net).1.outcome
      (d.list.response? net) Slurm.Lists Slurm.Names) ∧
    (∀ d : Nersc.Driver, Http.Listed (d.service.backend.answer .list net).1.outcome
      (d.list.response? net) Nersc.Lists Nersc.Names) ∧
    (∀ doc records, Nersc.Lists doc records → Nersc.Lists (.array records) records) ∧
    ∀ (d : Nersc.Driver) (r r' : Response) (records : List Document), r.accepted = true →
      r'.accepted = true → r.document? = some (.array records) →
      r'.document? = some (Nersc.reportOf records) →
      (d.list.interpret r' = d.list.interpret r ↔
        (Nersc.Lists (.array records) records →
          Document.heightOfItems records + 2 ≤ maxNesting)) :=
  ⟨fun d => (d.list_brings.fate net).listed, fun d => (d.list_brings.fate net).listed,
    fun _ _ h => h.array, fun _ _ _ _ accepted accepted' hdoc hdoc' =>
      Nersc.interpret_report_iff accepted accepted' hdoc hdoc'⟩

/-- The response whose body is a document. -/
def Http.Response.bearing (d : Document) : Response := ⟨200, .whole (Text.encodeUtf8 d.print)⟩

theorem Http.Response.document?_bearing {d : Document} (written : d.isWritten = true)
    (plain : Text.glyphs (Text.encodeUtf8 d.print) = d.print.map some) :
    (bearing d).document? = some d := by
  have hread : Document.read? (d.print.map some) = some d := by
    have h := Document.ofString?_toText written
    rwa [Document.ofString?, Json.glyphsOf, Document.toText, String.toList_ofList] at h
  show Document.read? (Text.glyphs (Text.encodeUtf8 d.print)) = some d
  rw [plain, hread]

/-- A list of a number, a blank text, nothing, and a text between blanks, with the id in the
field with a name. -/
def mixedRecords (key : String) : List Document :=
  [.record [(key, .ofNat 7)], .record [(key, .ofText " ")], .record [],
    .record [("state", .null), (key, .ofText " 8 ")]]

/-- A reply that lists them to either driver. -/
def mixedReply : Document :=
  .record [("jobs", .array (mixedRecords "job_id")), ("output", .array (mixedRecords "jobid"))]

/-- A number is an id by its digits, and a text without the blanks around it. -/
theorem jobs_listed_mixed :
    let net : Network := { line := .up [.response (.bearing mixedReply)], now := .epoch }
    ((Slurm.Driver.mk ⟨"http://h"⟩ "root" "t").service.backend.answer .list net).1.outcome
        = .ok ["7", "8"] ∧
      ((Nersc.Driver.mk ⟨"http://h"⟩ "t" "m").service.backend.answer .list net).1.outcome
        = .ok ["7", "8"] := by
  intro net
  have hdoc : (Response.bearing mixedReply).document? = some mixedReply :=
    Response.document?_bearing (by decide +kernel) (by decide +kernel)
  have hinfos : (mixedRecords "job_id").mapM Slurm.JobInfo.ofDocument? = some
      [⟨some (.number (.natural 7)), none⟩, ⟨some (.string " "), none⟩, ⟨none, none⟩,
        ⟨some (.string " 8 "), none⟩] := rfl
  have hrecords : (mixedRecords "jobid").mapM (Nersc.Record.ofDocument? 3) = some
      [⟨some (.number (.natural 7)), none⟩, ⟨some (.string " "), none⟩, ⟨none, none⟩,
        ⟨some (.string " 8 "), none⟩] := rfl
  have hslurmIds : Enumerates Slurm.Names (mixedRecords "job_id") ["7", "8"] :=
    (filterMap_eq_iff (fun _ _ => Slurm.JobInfo.nativeId?_iff)
      (mapM_eq_some_iff.mp hinfos)).mp (by decide +kernel)
  have hnerscIds : Enumerates Nersc.Names (mixedRecords "jobid") ["7", "8"] :=
    (filterMap_eq_iff (fun _ _ => Nersc.Record.nativeId?_iff (by decide))
      (mapM_eq_some_iff.mp hrecords)).mp (by decide +kernel)
  have hslurmLists : Slurm.Lists mixedReply (mixedRecords "job_id") :=
    ⟨rfl, _, Document.fields?_object (by decide +kernel), .inl rfl, rfl⟩
  have hnerscLists : Nersc.Lists mixedReply (mixedRecords "jobid") := by
    have hmembers : mixedReply.members? Nersc.Report.fieldNames
        = mixedReply.fields? Nersc.Report.fieldNames := rfl
    refine ⟨rfl, .inr ⟨_, hmembers.trans (Document.fields?_object (by decide +kernel)), ?_, rfl⟩⟩
    rintro ⟨token, htoken, -⟩
    exact nomatch htoken
  obtain ⟨hslurm, hnersc, -, -⟩ := jobs_listed net
  exact ⟨((hslurm _).ok_iff _).mpr ⟨_, _, _, by decide +kernel, rfl, hdoc, hslurmLists, hslurmIds⟩,
    ((hnersc _).ok_iff _).mpr ⟨_, _, _, by decide +kernel, rfl, hdoc, hnerscLists, hnerscIds⟩⟩

/-- Arrays inside one another. -/
def nest : Nat → Document
  | 0 => .array []
  | n + 1 => .array [nest n]

/-- A list of one record with as many arrays in it as an array of the list can hold. -/
def deepRecords : List Document := [.record [("jobid", .ofText "7"), ("x", nest 124)]]

/-- **A list that only one of the forms can bring.** -/
theorem jobs_listed_too_deep :
    (Response.bearing (.array deepRecords)).accepted = true ∧
    (Response.bearing (Nersc.reportOf deepRecords)).accepted = true ∧
    (Response.bearing (.array deepRecords)).document? = some (.array deepRecords) ∧
    (Response.bearing (Nersc.reportOf deepRecords)).document?
      = some (Nersc.reportOf deepRecords) ∧
    ∀ d : Nersc.Driver,
      d.list.interpret (.bearing (.array deepRecords)) = .ok ["7"] ∧
      d.list.interpret (.bearing (Nersc.reportOf deepRecords)) = .error Response.undecodable := by
  refine ⟨rfl, rfl, Response.document?_bearing (by decide +kernel) (by decide +kernel),
    Response.document?_bearing (by decide +kernel) (by decide +kernel), fun d => ⟨?_, ?_⟩⟩
  · show ((Response.bearing (.array deepRecords)).decode Nersc.Listing.ofDocument?
      >>= Nersc.Listing.ids) = .ok ["7"]
    decide +kernel
  · show ((Response.bearing (Nersc.reportOf deepRecords)).decode Nersc.Listing.ofDocument?
      >>= Nersc.Listing.ids) = .error Response.undecodable
    decide +kernel

end RemoteBatch
