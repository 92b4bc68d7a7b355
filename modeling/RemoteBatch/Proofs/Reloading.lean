import RemoteBatch.Job.Json
import RemoteBatch.Nersc.Service
import RemoteBatch.Proofs.Account
import RemoteBatch.Proofs.InstantText
import RemoteBatch.Proofs.Settled
import RemoteBatch.Slurm.Service

/-!
# Handles that were kept as text

A handle that is written down and read back has a settled specification and is otherwise
the handle that it was.  Settling goes along with everything that the lifecycle does to a
handle, and the payload of a submission only asks a specification for what settling
keeps: whole minutes, and the number of nodes raised to one.  So the reloaded handle
leads the life of the other one, action by action: the same requests go out, the same is
shown and told, and the same becomes of the two handles.

## Main definitions

* `Job.settled` — a handle with a settled specification.
* `Http.Service.IgnoresSettling` — that a service submits a settled specification as it
  does the other one.
* `Situation.Sight`, `Situation.sights` — what can be seen of an action and of a run.
* `Job.SameLife` — that a handle leads the life of another one over a service.

## Main results

* `JobId.read?_text`, `Job.ofText?_text` — ids and handles are read back.
* `Situation.run_plan_settled` — **an action does the same to a settled handle.**
* `Situation.sights_settled` — **and so does a run.**
* `Job.reloaded` — what a handle kept as text is, and what becomes of it.
-/

namespace RemoteBatch

open Calendar (Instant)
open Http (Call Network Request Service)
open Json (Document Fields)
open Lifecycle (Report Refresh)

/-! ### Ids -/

namespace JobId

/-- The groups of a text are found again between their hyphens. -/
theorem unhyphenate?_hyphenate {ns : List Nat} (hns : ns ≠ []) {cs : List Char}
    (h : cs.length = ns.foldr (· + ·) 0) : unhyphenate? ns (hyphenate ns cs) = some cs := by
  induction ns generalizing cs with
  | nil => exact absurd rfl hns
  | cons n ns ih =>
    rw [List.foldr_cons] at h
    cases ns with
    | nil => exact if_pos h
    | cons m ns =>
      have htake : (cs.take n).length = n := by rw [List.length_take]; omega
      have hdrop : (cs.drop n).length = (m :: ns).foldr (· + ·) 0 := by rw [List.length_drop]; omega
      have hgroups := ih (List.cons_ne_nil m ns) hdrop
      rw [hyphenate, unhyphenate?, List.drop_left' htake, List.take_left' htake]
      · simp only [hgroups, Option.map_some, List.take_append_drop]
      · exact List.cons_ne_nil m ns
      · exact List.cons_ne_nil m ns

theorem length_hyphenate {ns : List Nat} (hns : ns ≠ []) (cs : List Char) :
    (hyphenate ns cs).length + 1 = cs.length + ns.length := by
  induction ns generalizing cs with
  | nil => exact absurd rfl hns
  | cons n ns ih =>
    cases ns with
    | nil => rfl
    | cons m ns =>
      have hrest := ih (List.cons_ne_nil m ns) (cs.drop n)
      have hsplit : (cs.take n).length + (cs.drop n).length = cs.length := by
        rw [← List.length_append, List.take_append_drop]
      rw [hyphenate]
      · simp only [List.length_append, List.length_cons] at hrest ⊢
        omega
      · exact List.cons_ne_nil m ns

theorem digit?_hexDigit (d : Fin 16) : digit? (Text.hexDigit d.val) = some d := by
  revert d
  decide

theorem ofDigits?_digits (id : JobId) :
    ofDigits? (id.digits.map fun d => Text.hexDigit d.val) = some id := by
  rw [ofDigits?, mapM_map_eq_some digit?_hexDigit]
  exact dif_pos id.length_digits

/-- A digit starts neither a prefix nor a pair of braces. -/
theorem hexDigit_ne (d : Fin 16) : Text.hexDigit d.val ≠ 'u' ∧ Text.hexDigit d.val ≠ '\x7b' := by
  revert d
  decide

/-- **An id is read back.** -/
theorem read?_text (id : JobId) : read? id.text = some id := by
  have hlength : (id.digits.map fun d => Text.hexDigit d.val).length = groups.foldr (· + ·) 0 := by
    rw [List.length_map, id.length_digits]
    rfl
  have hread : readHyphenated? (hyphenate groups (id.digits.map fun d => Text.hexDigit d.val))
      = some id := by
    rw [readHyphenated?, unhyphenate?_hyphenate (by decide) hlength, Option.bind_some,
      ofDigits?_digits]
  have hlong := length_hyphenate (show groups ≠ [] by decide)
    (id.digits.map fun d => Text.hexDigit d.val)
  obtain ⟨d, ds, hdigits⟩ : ∃ d ds, id.digits = d :: ds :=
    List.exists_cons_of_length_pos (by rw [id.length_digits]; decide)
  obtain ⟨rest, hrest⟩ : ∃ rest, hyphenate groups (id.digits.map fun d => Text.hexDigit d.val)
      = Text.hexDigit d.val :: rest := by
    rw [hdigits]
    exact ⟨_, rfl⟩
  -- it starts with a digit and is longer than its digits, so that it is read with hyphens
  have hfirst := hexDigit_ne d
  rw [hlength, hrest] at hlong
  rw [hrest] at hread
  have hwide : (Text.hexDigit d.val :: rest).length ≠ 32 := by
    intro h
    rw [h] at hlong
    exact absurd hlong (by decide)
  have hstart : dropStart? "urn:uuid:".toList (Text.hexDigit d.val :: rest) = none :=
    if_neg fun h => hfirst.1 h.symm
  have htext : id.text.toList = Text.hexDigit d.val :: rest := by
    rw [text, String.toList_ofList, hrest]
  rw [read?, htext]
  simp only [hstart]
  split
  · next h => exact absurd (List.cons.inj h).1 hfirst.2
  · rw [if_neg hwide, hread]

end JobId

/-! ### Handles -/

theorem JobState.ofDocument?_toDocument (s : JobState) : ofDocument? s.toDocument = some s :=
  ofName?_name s

namespace Job

/-- The handle with its specification settled. -/
def settled (job : Job) : Job := { job with spec := job.spec.settled }

@[simp] theorem id_settled (job : Job) : job.settled.id = job.id := rfl

@[simp] theorem spec_settled (job : Job) : job.settled.spec = job.spec.settled := rfl

@[simp] theorem state_settled (job : Job) : job.settled.state = job.state := rfl

@[simp] theorem nativeId_settled (job : Job) : job.settled.nativeId = job.nativeId := rfl

@[simp] theorem updatedAt_settled (job : Job) : job.settled.updatedAt = job.updatedAt := rfl

@[simp] theorem admits_settled (job : Job) (s : JobState) :
    job.settled.admits s = job.admits s := rfl

@[simp] theorem bind_settled (job : Job) (id : String) :
    job.settled.bind id = (job.bind id).settled := rfl

@[simp] theorem transition_settled (job : Job) (s : JobState) (now : Instant) :
    job.settled.transition s now = (job.transition s now).settled := by
  rw [transition, admits_settled, transition]
  cases job.admits s <;> rfl

theorem isWritten_toDocument (job : Job) : job.toDocument.isWritten = true := by
  refine Document.isWritten_record fun m hm => ?_
  simp only [List.mem_cons, List.not_mem_nil, or_false] at hm
  rcases hm with rfl | rfl | rfl | rfl | rfl
  · exact Document.isWritten_ofText _
  · exact job.spec.isWritten_toDocument
  · exact Document.isWritten_ofText _
  · exact Document.isWritten_ofOption Document.isWritten_ofText _
  · exact Document.isWritten_ofText _

theorem ofDocument?_toDocument (job : Job) : ofDocument? job.toDocument = some job.settled := by
  obtain ⟨fields, hfields, hfield⟩ :=
    Document.exists_fields?_record fieldNames
      [("id", .ofText job.id.text),
       ("spec", job.spec.toDocument),
       ("state", job.state.toDocument),
       ("native_id", .ofOption .ofText job.nativeId),
       ("updated_at", .ofText job.updatedAt.text)] rfl (by decide)
  simp only [List.forall_mem_cons] at hfield
  obtain ⟨hid, hspec, hstate, hnative, htime, -⟩ := hfield
  have hcomplete : (!isComplete job.toDocument) = false := rfl
  rw [ofDocument?, hcomplete, if_neg Bool.false_ne_true, toDocument, hfields, Option.bind_eq_bind,
    Option.bind_some, Fields.required_of_some hid, text?_ofText, Option.bind_some, JobId.read?_text,
    Fields.required_of_some hspec, JobSpec.ofDocument?_toDocument,
    Fields.required_of_some hstate, JobState.ofDocument?_toDocument,
    Fields.optional_ofOption hnative text?_ofText fun _ => Document.noConfusion,
    Fields.required_of_some htime, text?_ofText, Option.bind_some, Instant.read?_text]
  rfl

/-- **A written handle is read back** with its specification settled. -/
theorem ofText?_text (job : Job) : ofText? job.text = some job.settled := by
  rw [ofText?, text, Document.ofString?_toText job.isWritten_toDocument, Option.bind_some,
    ofDocument?_toDocument]

end Job

/-! ### Payloads -/

theorem JobSpec.minutes_settled (spec : JobSpec) : spec.settled.minutes = spec.minutes :=
  Duration.minutes_wholeSeconds spec.duration

theorem JobSpec.nodes_settled (spec : JobSpec) :
    spec.settled.resources.nodes = spec.resources.nodes :=
  Resources.nodes_raised spec.resources

/-- The script itself takes no resources and no time. -/
theorem Script.plain_settled (spec : JobSpec) : plain spec.settled = plain spec := rfl

theorem Script.directives_settled (spec : JobSpec) :
    directives spec.settled = directives spec := by
  rw [directives, spec.nodes_settled, spec.minutes_settled]
  rfl

theorem Script.complete_settled (spec : JobSpec) : complete spec.settled = complete spec := by
  rw [complete, directives_settled]
  rfl

theorem Slurm.submission_settled (spec : JobSpec) : submission spec.settled = submission spec := by
  rw [submission, jobDocument, spec.nodes_settled, spec.minutes_settled, Script.plain_settled]
  rfl

theorem Nersc.submission_settled (spec : JobSpec) : submission spec.settled = submission spec := by
  rw [submission, Script.complete_settled]
  rfl

/-- That a service submits a settled specification as it does the other one. -/
def Http.Service.IgnoresSettling (service : Service) : Prop :=
  ∀ spec : JobSpec, (service.call (.submit spec.settled) : Call String)
    = service.call (.submit spec)

theorem Slurm.Driver.ignoresSettling (d : Driver) : d.service.IgnoresSettling := by
  intro spec
  show d.submit spec.settled = d.submit spec
  rw [submit, submission_settled]
  rfl

theorem Nersc.Driver.ignoresSettling (d : Driver) : d.service.IgnoresSettling := by
  intro spec
  show d.submit spec.settled = d.submit spec
  rw [submit, submission_settled]
  rfl

/-! ### Actions -/

/-- A report about a settled handle. -/
def Lifecycle.Report.settled (r : Report α) : Report α := { r with job := r.job.settled }

namespace Lifecycle

variable (job : Job)

theorem concludeSubmit_settled (answer : Answer String) :
    concludeSubmit job.settled answer = (concludeSubmit job answer).settled := by
  cases outcome : answer.outcome with
  | error e => simp only [concludeSubmit, outcome, Report.settled]; rfl
  | ok id =>
    cases blank : Text.isBlankText id with
    | true => simp only [concludeSubmit, outcome, blank, if_true, Report.settled]; rfl
    | false =>
      rw [concludeSubmit_of_ok outcome blank, concludeSubmit_of_ok outcome blank, Report.settled,
        Job.bind_settled, Job.transition_settled]
      rfl

theorem concludeAttach_settled (id : String) (answer : Answer JobState) :
    concludeAttach job.settled id answer = (concludeAttach job id answer).settled := by
  cases outcome : answer.outcome with
  | error e => simp only [concludeAttach, outcome, Report.settled]
  | ok state =>
    simp only [concludeAttach, outcome, Report.settled, Job.bind_settled, Job.transition_settled]
    rfl

theorem concludeRefresh_settled (id : String) (answer : Answer JobState) :
    concludeRefresh job.settled id answer = (concludeRefresh job id answer).settled := by
  cases outcome : answer.outcome with
  | error e => simp only [concludeRefresh, outcome, Report.settled]
  | ok state =>
    simp only [concludeRefresh, outcome, Report.settled, Job.transition_settled]
    rfl

theorem attach_settled (id : String) :
    attach job.settled id = (attach job id).map Report.settled := by
  rw [attach, attach, Job.state_settled, Job.nativeId_settled]
  by_cases used : job.state ≠ .new ∨ job.nativeId.isSome
  · rw [if_pos used, if_pos used]
    rfl
  · rw [if_neg used, if_neg used]
    cases Text.isBlankText id with
    | true => rfl
    | false => exact congrArg (Plan.ask (.status id)) (funext (concludeAttach_settled job id))

theorem cancel_settled : cancel job.settled = (cancel job).map Report.settled := by
  cases bound : job.nativeId with
  | none => simp only [cancel, Job.nativeId_settled, bound]; rfl
  | some id => simp only [cancel, Job.nativeId_settled, bound]; rfl

theorem refresh_settled : refresh job.settled = (refresh job).map Report.settled := by
  rcases refresh_cases job with ⟨idle, h⟩ | ⟨id, bound, live, h⟩
  · rcases refresh_cases job.settled with ⟨-, h'⟩ | ⟨id, bound, live, -⟩
    · rw [h, h']
      rfl
    · rcases idle with unbound | ended
      · exact nomatch bound.symm.trans unbound
      · exact absurd (live.symm.trans ended) Bool.false_ne_true
  · have h' : refresh job.settled = .ask (.status id) (concludeRefresh job.settled id) :=
      refresh_of_live bound live
    rw [h, h']
    exact congrArg (Plan.ask (.status id)) (funext (concludeRefresh_settled job id))

end Lifecycle

namespace Plan

theorem map_map (f : β → γ) (g : γ → δ) (plan : Plan β) :
    (plan.map f).map g = plan.map (g ∘ f) := by
  cases plan <;> rfl

theorem run_map (b : Backend σ) (s : σ) (f : β → γ) (plan : Plan β) :
    (plan.map f).run b s = ((f (plan.run b s).1.1, (plan.run b s).1.2), (plan.run b s).2) := by
  cases plan <;> rfl

theorem query?_map (f : β → γ) (plan : Plan β) : (plan.map f).query? = plan.query? := by
  cases plan <;> rfl

end Plan

/-- All actions but a submission leave the specification alone. -/
theorem Action.plan_settled (job : Job) {a : Action} (h : a ≠ .submit) :
    a.plan job.settled = (a.plan job).map Report.settled := by
  cases a with
  | submit => exact absurd rfl h
  | attach id =>
    rw [plan, Lifecycle.attach_settled, Plan.map_map, plan, Plan.map_map]
    rfl
  | cancel =>
    rw [plan, Lifecycle.cancel_settled, Plan.map_map, plan, Plan.map_map]
    rfl
  | list => rfl
  | refresh =>
    rw [plan, Lifecycle.refresh_settled, Plan.map_map, plan, Plan.map_map]
    rfl

namespace Situation

/-- What can be seen of an action from outside. -/
structure Sight where
  /-- The request that is made, or why none can be made; nothing if nothing is asked. -/
  request? : Option (Except Error Request)
  /-- What the driver reports. -/
  reported : List Event
  /-- What the caller is shown. -/
  shown : Yield
  /-- What the lifecycle tells. -/
  told : List Event

/-- What can be seen of an action over a service. -/
def sight (service : Service) (x : Situation Network) (a : Action) : Sight where
  request? := (a.plan x.job).query?.map fun q => (service.call q).request
  reported := ((a.plan x.job).run service.backend x.world).1.2
  shown := (told service.backend x a).value
  told := (told service.backend x a).events

/-- What can be seen of several actions, the first of the list first. -/
def sights (service : Service) (x : Situation Network) : List Action → List Sight
  | [] => []
  | a :: actions => sight service x a :: sights service (after service.backend x a) actions

/-- The situation with its handle settled. -/
def settled (x : Situation Network) : Situation Network := { x with job := x.job.settled }

variable {service : Service} (blind : service.IgnoresSettling)

include blind

/-- **An action does the same to a settled handle**: the same comes of it, and the same
becomes of the network. -/
theorem run_plan_settled (x : Situation Network) (a : Action) :
    (a.plan x.settled.job).run service.backend x.settled.world
      = ((((a.plan x.job).run service.backend x.world).1.1.settled,
          ((a.plan x.job).run service.backend x.world).1.2),
         ((a.plan x.job).run service.backend x.world).2) := by
  -- only a submission shows the specification to the service
  by_cases h : a = .submit
  · subst h
    have hanswer : service.backend.answer (.submit x.job.spec.settled) x.world
        = service.backend.answer (.submit x.job.spec) x.world :=
      congrArg (Call.run · x.world) (blind x.job.spec)
    simp only [Action.plan, Lifecycle.submit, Plan.map_ask, Plan.run_ask, settled,
      Job.spec_settled, hanswer, Lifecycle.concludeSubmit_settled]
    rfl
  · have hplan := Action.plan_settled x.job h
    rw [settled, hplan, Plan.run_map]

theorem sight_settled (x : Situation Network) (a : Action) :
    sight service x.settled a = sight service x a := by
  have hrun := run_plan_settled blind x a
  have hrequest : ((a.plan x.settled.job).query?.map fun q => (service.call q).request)
      = (a.plan x.job).query?.map fun q => (service.call q).request := by
    by_cases h : a = .submit
    · subst h
      exact congrArg (fun call : Call String => some call.request) (blind x.job.spec)
    · rw [settled, Action.plan_settled x.job h, Plan.query?_map]
  simp only [sight, told, hrun, hrequest, Report.settled]

theorem after_settled (x : Situation Network) (a : Action) :
    after service.backend x.settled a = (after service.backend x a).settled := by
  simp only [after, run_plan_settled blind x a]
  rfl

/-- **A run does the same to a settled handle.** -/
theorem sights_settled (x : Situation Network) (actions : List Action) :
    sights service x.settled actions = sights service x actions
      ∧ reach service.backend x.settled actions = (reach service.backend x actions).settled := by
  induction actions generalizing x with
  | nil => exact ⟨rfl, rfl⟩
  | cons a actions ih =>
    rw [sights, sights, reach_cons, reach_cons, sight_settled blind, after_settled blind]
    exact ⟨congrArg _ (ih _).1, (ih _).2⟩

end Situation

/-! ### Reloaded handles -/

namespace Job

/-- That two handles agree in all but their specifications. -/
structure Agrees (job again : Job) : Prop where
  id : again.id = job.id
  state : again.state = job.state
  nativeId : again.nativeId = job.nativeId
  updatedAt : again.updatedAt = job.updatedAt

/-- That a handle leads the life of another one over a service: whatever is done and
whatever the replies are, the same can be seen, the handles agree, and the networks are
the same, with all that was sent. -/
def SameLife (service : Service) (job again : Job) : Prop :=
  ∀ (net : Network) (actions : List Action),
    Situation.sights service ⟨again, net⟩ actions = Situation.sights service ⟨job, net⟩ actions
      ∧ Agrees (Situation.reach service.backend ⟨job, net⟩ actions).job
        (Situation.reach service.backend ⟨again, net⟩ actions).job
      ∧ (Situation.reach service.backend ⟨again, net⟩ actions).world
        = (Situation.reach service.backend ⟨job, net⟩ actions).world

theorem agrees_settled (job : Job) : Agrees job job.settled := ⟨rfl, rfl, rfl, rfl⟩

theorem sameLife_settled {service : Service} (blind : service.IgnoresSettling) (job : Job) :
    SameLife service job job.settled := by
  intro net actions
  obtain ⟨hsights, hreach⟩ := Situation.sights_settled blind ⟨job, net⟩ actions
  rw [Situation.settled] at hreach
  refine ⟨hsights, ?_, ?_⟩
  · rw [hreach]
    exact agrees_settled _
  · rw [hreach]
    rfl

/-- **A handle that was kept as text** is read back, agrees with the one that was written,
and leads its life, over both schedulers. -/
theorem reloaded (job : Job) : ∃ again, ofText? job.text = some again ∧ Agrees job again
    ∧ (∀ d : Slurm.Driver, SameLife d.service job again)
    ∧ ∀ d : Nersc.Driver, SameLife d.service job again :=
  ⟨job.settled, job.ofText?_text, job.agrees_settled,
    fun d => sameLife_settled d.ignoresSettling job,
    fun d => sameLife_settled d.ignoresSettling job⟩

end Job

end RemoteBatch
