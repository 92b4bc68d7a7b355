import RemoteBatch.CommandLine.Program
import RemoteBatch.Proofs.Polling
import RemoteBatch.Proofs.Standing
import RemoteBatch.Proofs.Success

/-!
# Commands that follow a job

Watching a job, and submitting one and waiting for it, begin with one query and then poll.
Scripts rely on the exit code that this comes to, so it is described from outside: the
answers that the scheduler gives, up to the first terminal state among them or the tenth
error in a row, decide about the code, and about how many requests are made.

## Main definitions

* `Http.Call.requests`, `Http.Network.sendAll` — what a call sends, and the network after
  several requests.
* `Ending`, `Poller.Fate` — how following a job ends, and the answers that make it end so.
* `Beginning` — the query that a command begins with, and the job that it finds.
* `Follows` — how a command goes that follows a job, with the requests that it makes.

## Main results

* `Poller.fate_follow` — **a poll brings a job to its fate**, and there is one only.
* `follows_run` — what a command does, in the order in which it does it.
* `exitCode_run` — the exit code and the requests of the commands that follow a job.
-/

namespace RemoteBatch

open Http (Call Network Request Service)

/-! ### Requests -/

namespace Http

/-- The requests that a call makes: one, unless it cannot be made. -/
def Call.requests (call : Call α) : List Request :=
  match call.request with
  | .ok r => [r]
  | .error _ => []

/-- The network after several requests, the first of the list first. -/
def Network.sendAll (net : Network) (requests : List Request) : Network :=
  requests.foldl (fun net r => (net.send r).2) net

theorem Network.sendAll_append (net : Network) (rs ts : List Request) :
    net.sendAll (rs ++ ts) = (net.sendAll rs).sendAll ts := List.foldl_append

theorem Call.run_snd (call : Call α) (net : Network) :
    (call.run net).2 = net.sendAll call.requests := by
  unfold run requests
  cases call.request <;> rfl

theorem Network.line_send_ne_down {net : Network} (up : net.line ≠ .down) (r : Request) :
    (net.send r).2.line ≠ .down ∧ (net.send r).2.sent = net.sent ++ [r] := by
  rcases net with ⟨line, sent, now⟩
  rcases line with _ | _ | ⟨_ | _, _⟩
  · exact absurd rfl up
  all_goals exact ⟨Line.noConfusion, rfl⟩

/-- A line that is up takes every request. -/
theorem Network.sent_sendAll {net : Network} (up : net.line ≠ .down) (requests : List Request) :
    (net.sendAll requests).sent = net.sent ++ requests := by
  induction requests generalizing net with
  | nil => exact (List.append_nil _).symm
  | cons r requests ih =>
    obtain ⟨still, hsent⟩ := line_send_ne_down up r
    show ((net.send r).2.sendAll requests).sent = _
    rw [ih still, hsent, List.append_assoc, List.singleton_append]

theorem Service.statuses_snd (service : Service) (id : String) (n : Nat) (net : Network) :
    (service.backend.statuses id n net).2
      = net.sendAll (List.replicate n (service.call (.status id)).requests).flatten := by
  induction n generalizing net with
  | zero => rfl
  | succ n ih =>
    have hfirst : (service.backend.answer (.status id) net).2
        = net.sendAll (service.call (.status id)).requests := Call.run_snd _ net
    show (service.backend.statuses id n (service.backend.answer (.status id) net).2).2 = _
    rw [ih, hfirst, List.replicate_succ, List.flatten_cons, Network.sendAll_append]

end Http

/-! ### The fate of a job -/

/-- How following a job ends. -/
inductive Ending
  /-- There is no job to follow. -/
  | notBegun
  /-- The first terminal state that was seen. -/
  | terminal (state : JobState)
  /-- Too many status fetches in a row failed. -/
  | abandoned
  deriving DecidableEq, Repr

/-- The exit code that goes with an ending: only completion is a success. -/
def Ending.exitCode (ending : Ending) : Nat := if ending = .terminal .completed then 0 else 1

namespace Poller

variable {σ : Type} {m : Nat} {b : Backend σ} {id : String} {s : σ} {state : JobState}

/-- How following a job ends that is in a state, when `m` errors in a row are too many, and
after how many status fetches: none if the job has ended, or else as many as there are
answers up to the first that is a terminal state or the last of `m` errors. -/
inductive Fate (m : Nat) (b : Backend σ) (id : String) (s : σ) (state : JobState) :
    Nat → Ending → Prop
  | already (ended : state.isTerminal = true) : Fate m b id s state 0 (.terminal state)
  | terminal {n : Nat} {a : Answer JobState} {t : JobState} (live : state.isTerminal = false)
    (first : ∀ k < n, ¬ Stops m (b.statuses id k s).1)
    (last : (b.statuses id n s).1.getLast? = some a) (answered : a.outcome = .ok t)
    (ended : t.isTerminal = true) : Fate m b id s state n (.terminal t)
  | abandoned {n : Nat} (live : state.isTerminal = false)
    (first : ∀ k < n, ¬ Stops m (b.statuses id k s).1)
    (failed : failureRun (b.statuses id n s).1 = m) : Fate m b id s state n .abandoned

theorem failureRun_of_endsTerminal {as : List (Answer JobState)} (h : EndsTerminal as) :
    failureRun as = 0 := by
  obtain ⟨a, t, hlast, houtcome, -⟩ := h
  obtain ⟨before, rfl⟩ := List.getLast?_eq_some_iff.mp hlast
  rw [failureRun_concat, count, Answer.succeeded_of_ok houtcome, if_pos rfl]

/-- Two numbers of answers of which each is the first to stop a poll are the same. -/
theorem eq_of_first {n k : Nat} (firstN : ∀ j < n, ¬ Stops m (b.statuses id j s).1)
    (firstK : ∀ j < k, ¬ Stops m (b.statuses id j s).1) (stopsN : Stops m (b.statuses id n s).1)
    (stopsK : Stops m (b.statuses id k s).1) : n = k :=
  Nat.le_antisymm (Nat.le_of_not_lt fun h => firstN k h stopsK)
    (Nat.le_of_not_lt fun h => firstK n h stopsN)

/-- **A job has one fate.** -/
theorem Fate.unique (pos : 0 < m) {n k : Nat} {x y : Ending} (hx : Fate m b id s state n x)
    (hy : Fate m b id s state k y) : n = k ∧ x = y := by
  cases hx with
  | already ended =>
    cases hy with
    | already _ => exact ⟨rfl, rfl⟩
    | terminal live _ _ _ _ => exact absurd (live.symm.trans ended) Bool.false_ne_true
    | abandoned live _ _ => exact absurd (live.symm.trans ended) Bool.false_ne_true
  | terminal live first last answered ended =>
    have ends : EndsTerminal (b.statuses id n s).1 := ⟨_, _, last, answered, ended⟩
    cases hy with
    | already ended => exact absurd (live.symm.trans ended) Bool.false_ne_true
    | terminal _ first' last' answered' ended' =>
      obtain rfl := eq_of_first first first' (.inl ends) (.inl ⟨_, _, last', answered', ended'⟩)
      obtain rfl := Option.some.inj (last.symm.trans last')
      exact ⟨rfl, congrArg _ (Except.ok.inj (answered.symm.trans answered'))⟩
    | abandoned _ first' failed =>
      -- a terminal state is a success, after which no failures are counted
      obtain rfl := eq_of_first first first' (.inl ends) (.inr failed)
      exact absurd ((failureRun_of_endsTerminal ends).symm.trans failed) (Nat.ne_of_lt pos)
  | abandoned live first failed =>
    cases hy with
    | already ended => exact absurd (live.symm.trans ended) Bool.false_ne_true
    | terminal _ first' last answered ended =>
      have ends : EndsTerminal (b.statuses id k s).1 := ⟨_, _, last, answered, ended⟩
      obtain rfl := eq_of_first first first' (.inr failed) (.inl ends)
      exact absurd ((failureRun_of_endsTerminal ends).symm.trans failed) (Nat.ne_of_lt pos)
    | abandoned _ first' failed' =>
      exact ⟨eq_of_first first first' (.inr failed) (.inr failed'), rfl⟩

/-- The ending that the result of a poll reports. -/
def endingOf : Except Fault JobState → Ending
  | .ok state => .terminal state
  | .error _ => .abandoned

/-- A walk along the answers of a backend is no longer than it must be. -/
theorem Walk.not_stops {poller : Poller} {job : Job} {n : Nat} {q : Progress}
    {result : Except Fault JobState} (walk : Walk poller id { job } (b.statuses id n s).1 q result)
    (live : job.state.isTerminal = false) {k : Nat} (h : k < n) :
    ¬ Stops poller.maxFailures (b.statuses id k s).1 := by
  intro stops
  have hle := statuses_prefix b id (Nat.le_of_lt h) s
  have heq := walk.eq_of_prefix live poller.maxFailures_pos hle
    ((stopsFrom_zero poller.maxFailures_pos _).mpr stops)
  have hlength := congrArg List.length heq
  rw [length_statuses, length_statuses] at hlength
  exact absurd hlength (Nat.ne_of_lt h)

/-- **A poll brings a job to its fate**, and fetches its status just as often. -/
theorem fate_follow (poller : Poller) (dry : RunsDry b) {job : Job}
    (bound : job.nativeId = some id) : ∃ n,
      Fate poller.maxFailures b id s job.state n (endingOf (poller.follow b dry job s).1.result)
        ∧ (poller.follow b dry job s).2 = (b.statuses id n s).2 := by
  -- the poll without the case of a job that has no id
  have hfollow : poller.follow b dry job s
      = if job.state.isTerminal then (⟨.ok job.state, { job }⟩, s)
        else poller.loop b dry id { job } bound s := by
    unfold follow
    split
    · next unbound => exact absurd (bound.symm.trans unbound) (Option.some_ne_none id)
    · next id' bound' =>
      obtain rfl : id = id' := Option.some.inj (bound.symm.trans bound')
      rfl
  rw [hfollow]
  cases live : job.state.isTerminal with
  | true => exact ⟨0, .already live, rfl⟩
  | false =>
    obtain ⟨n, walk, hworld⟩ := walk_loop poller b dry id { job } bound s live
    have first : ∀ k < n, ¬ Stops poller.maxFailures (b.statuses id k s).1 :=
      fun k h => walk.not_stops live h
    refine ⟨n, ?_, hworld⟩
    rw [if_neg Bool.false_ne_true]
    -- the result tells which of the two stopped the walk
    obtain ⟨a, hlast, ⟨t, answered, ended, hresult, -⟩ | ⟨e, answered, hresult⟩⟩ :=
      (walk.consumed live).ended
    · rw [hresult]
      exact .terminal live first hlast answered ended
    · rw [hresult]
      refine .abandoned live first ?_
      rcases (walk.consumed live).stops with ⟨a', t, hlast', answered', -⟩ | failed
      · obtain rfl := Option.some.inj (hlast.symm.trans hlast')
        cases answered.symm.trans answered'
      · exact failed

end Poller

/-! ### Commands -/

namespace CommandLine

/-- Whether a command follows a job. -/
def Command.follows : Command → Bool
  | .watch _ _ => true
  | .submit args => args.wait
  | _ => false

/-- What a command begins with that follows a job. -/
structure Beginning where
  query : Query
  /-- The job that a reply shows, with its id and its state. -/
  job? : query.Reply → Option (String × JobState)

namespace Beginning

/-- A watch begins with the state of the job. -/
def watch (id : String) : Beginning where
  query := .status id
  job? state := some (id, state)

/-- A submission that is waited for begins with the id of the job, which is then queued. -/
def submit (spec : JobSpec) : Beginning where
  query := .submit spec
  job? id := if Text.isBlankText id then none else some (id, .queued)

/-- The job that is found at the beginning, if the query succeeds. -/
def found? (start : Beginning) (service : Service) (net : Network) : Option (String × JobState) :=
  (service.backend.answer start.query net).1.outcome.toOption.bind start.job?

end Beginning

/-- What a command begins with, if there is something to ask: a watch needs an id, and a
submission a specification. -/
def Command.beginning? (file? : String → Option String) : Command → Option Beginning
  | .watch id _ => if Text.isBlankText id then none else some (.watch id)
  | .submit args => (args.spec file?).toOption.map .submit
  | _ => none

/-- The service that an invocation sets up, if its configuration is sound. -/
def configured? (s : Surroundings) (registry : Registry Service) (i : Invocation) :
    Option Service :=
  (settingsOf s.env? i.flags).toOption.bind fun settings =>
    (setUp registry i.driver settings).toOption

/-- How an invocation goes that follows a job: how it ends, and the requests that it makes.
Ten errors in a row are too many. -/
inductive Follows (s : Surroundings) (registry : Registry Service) (i : Invocation)
    (net : Network) : Ending → List Request → Prop
  | unconfigured (unsound : configured? s registry i = none) :
    Follows s registry i net .notBegun []
  | unasked {service : Service} (configured : configured? s registry i = some service)
    (unasked : i.command.beginning? s.file? = none) : Follows s registry i net .notBegun []
  | refused {service : Service} {start : Beginning}
    (configured : configured? s registry i = some service)
    (begins : i.command.beginning? s.file? = some start)
    (refused : start.found? service net = none) :
    Follows s registry i net .notBegun (service.call start.query).requests
  | followed {service : Service} {start : Beginning} {id : String} {state : JobState} {n : Nat}
    {ending : Ending} (configured : configured? s registry i = some service)
    (begins : i.command.beginning? s.file? = some start)
    (found : start.found? service net = some (id, state))
    (fate : Poller.Fate 10 service.backend id (service.backend.answer start.query net).2 state n
      ending) :
    Follows s registry i net ending ((service.call start.query).requests
      ++ (List.replicate n (service.call (.status id)).requests).flatten)

/-! ### Running them -/

/-- What a command that follows a job does with a service. -/
def Command.uses (s : Surroundings) (driver : String) (service : Service) (net : Network) :
    Command → Result × Network
  | .watch id _ => CommandLine.watch s service id net
  | .submit args => CommandLine.submit s driver service args net
  | _ => ({}, net)

section Run

variable {s : Surroundings} {registry : Registry Service} {i : Invocation} {service : Service}
  {net : Network}

theorem configured?_eq_some_iff : configured? s registry i = some service ↔
    ∃ settings, settingsOf s.env? i.flags = .ok settings
      ∧ registry.create i.driver settings = .ok service := by
  rw [configured?, Option.bind_eq_some_iff]
  constructor
  · rintro ⟨settings, given, made⟩
    exact ⟨settings, eq_ok_of_toOption given, setUp_eq_ok_iff.mp (eq_ok_of_toOption made)⟩
  · rintro ⟨settings, given, made⟩
    rw [← setUp_eq_ok_iff] at made
    exact ⟨settings, by rw [given]; rfl, by rw [made]; rfl⟩

/-- A command that needs a service uses the one that is set up. -/
theorem runWith_of_configured (configured : configured? s registry i = some service) :
    ∃ settings, settingsOf s.env? i.flags = .ok settings
      ∧ ∀ net use, runWith registry i.driver settings net use = use service net := by
  obtain ⟨settings, given, made⟩ := configured?_eq_some_iff.mp configured
  refine ⟨settings, given, fun net use => ?_⟩
  rw [runWith, setUp_eq_ok_iff.mpr made]

/-- Every command but one needs a service. -/
theorem run_of_unconfigured (net : Network) (needs : ∀ states, i.command ≠ .drivers states)
    (unsound : configured? s registry i = none) :
    ∃ causes, run s registry i net = (.failing causes, net) := by
  cases given : settingsOf s.env? i.flags with
  | error causes => exact ⟨causes, by simp only [run, given]⟩
  | ok settings =>
    have hnone : (setUp registry i.driver settings).toOption = none := by
      simpa only [configured?, given, Except.toOption, Option.bind_some] using unsound
    obtain ⟨causes, hservice⟩ := exists_error_of_toOption hnone
    have hfails (use : Service → Network → Result × Network) :
        runWith registry i.driver settings net use = (.failing causes, net) := by
      rw [runWith, hservice]
    refine ⟨causes, ?_⟩
    simp only [run, given, hfails]
    cases command : i.command with
    | drivers states => exact absurd command (needs states)
    | submit args => rfl
    | cancel id => rfl
    | list => rfl
    | status id => rfl
    | watch id interval => rfl

theorem run_of_configured (follows : i.command.follows = true)
    (configured : configured? s registry i = some service) :
    run s registry i net = i.command.uses s i.driver service net := by
  obtain ⟨settings, given, reach⟩ := runWith_of_configured configured
  obtain ⟨driver, flags, command⟩ := i
  cases command with
  | watch id interval => simp only [run, given, reach, Command.uses]
  | submit args => simp only [run, given, reach, Command.uses]
  | _ => exact nomatch follows

variable {command : Command} {start : Beginning}

/-! A command that is given an id attaches a handle that is new. -/

theorem attach_of_blank (s : Surroundings) (service : Service) (net : Network) {id : String}
    (blank : Text.isBlankText id = true) :
    ∃ causes, attach s service id net = (.error causes, net) := by
  rcases Lifecycle.attach_cases (Job.create s.jobId { executable := "" } s.now) id
    with ⟨-, e, h⟩ | ⟨-, -, given, -⟩
  · exact ⟨["Failed to attach to job " ++ id, e.message],
      by simp only [attach, h, Plan.run_settled]⟩
  · exact absurd (given.symm.trans blank) Bool.false_ne_true

theorem attach_create (id : String) (given : Text.isBlankText id = false) :
    Lifecycle.attach (Job.create s.jobId { executable := "" } s.now) id
      = .ask (.status id)
          (Lifecycle.concludeAttach (Job.create s.jobId { executable := "" } s.now) id) := by
  simp [Lifecycle.attach, Job.create, given]

theorem attach_of_untold {id : String} (given : Text.isBlankText id = false) {e : Error}
    (untold : (service.backend.answer (.status id) net).1.outcome = .error e) :
    ∃ causes, attach s service id net
      = (.error causes, (service.backend.answer (.status id) net).2) := by
  refine ⟨["Failed to attach to job " ++ id, e.message], ?_⟩
  simp only [attach, attach_create id given, Plan.run_ask, Lifecycle.concludeAttach, untold]

theorem attach_of_told {id : String} (given : Text.isBlankText id = false) {state : JobState}
    (told : (service.backend.answer (.status id) net).1.outcome = .ok state) :
    ∃ job, job.nativeId = some id ∧ job.state = state ∧ attach s service id net
      = (.ok job, (service.backend.answer (.status id) net).2) := by
  refine ⟨((Job.create s.jobId { executable := "" } s.now).bind id).transition state
    (service.backend.answer (.status id) net).1.time, ?_, ?_, ?_⟩
  · simp
  · rw [Job.state_transition_eq_next]
    exact JobState.new_next state
  · simp only [attach, attach_create id given, Plan.run_ask, Lifecycle.concludeAttach, told]

theorem uses_of_unasked (driver : String) (service : Service) (net : Network)
    (follows : command.follows = true) (unasked : command.beginning? s.file? = none) :
    ∃ causes, command.uses s driver service net = (.failing causes, net) := by
  cases command with
  | watch id interval =>
    have blank : Text.isBlankText id = true := by
      cases h : Text.isBlankText id with
      | true => rfl
      | false => simp [Command.beginning?, h] at unasked
    obtain ⟨causes, h⟩ := attach_of_blank s service net blank
    exact ⟨causes, by simp only [Command.uses, watch, h]⟩
  | submit args =>
    obtain ⟨causes, h⟩ := exists_error_of_toOption (Option.map_eq_none_iff.mp unasked)
    exact ⟨causes, by simp only [Command.uses, submit, h]⟩
  | _ => exact nomatch follows

theorem submit_create (spec : JobSpec) : Lifecycle.submit (Job.create s.jobId spec s.now)
    = .ask (.submit spec) (Lifecycle.concludeSubmit (Job.create s.jobId spec s.now)) := rfl

/-- Only a watch of an id and a submission of a specification begin. -/
theorem beginning?_cases (begins : command.beginning? s.file? = some start) :
    (∃ id interval, command = .watch id interval ∧ Text.isBlankText id = false
        ∧ start = .watch id)
      ∨ ∃ args spec, command = .submit args ∧ args.spec s.file? = .ok spec
        ∧ start = .submit spec := by
  cases command with
  | watch id interval =>
    cases given : Text.isBlankText id with
    | true => simp [Command.beginning?, given] at begins
    | false =>
      refine .inl ⟨id, interval, rfl, given, ?_⟩
      simpa [Command.beginning?, given] using begins.symm
  | submit args =>
    obtain ⟨spec, hspec, rfl⟩ := Option.map_eq_some_iff.mp begins
    exact .inr ⟨args, spec, rfl, eq_ok_of_toOption hspec, rfl⟩
  | _ => exact nomatch begins

theorem uses_of_refused (driver : String) (begins : command.beginning? s.file? = some start)
    (refused : start.found? service net = none) : ∃ causes, command.uses s driver service net
      = (.failing causes, (service.backend.answer start.query net).2) := by
  rcases beginning?_cases begins with
    ⟨id, interval, rfl, given, rfl⟩ | ⟨args, spec, rfl, hspec, rfl⟩
  · cases answered : (service.backend.answer (.status id) net).1.outcome with
    | error e =>
      obtain ⟨causes, h⟩ := attach_of_untold (s := s) given answered
      refine ⟨causes, ?_⟩
      simp only [Command.uses, watch, h]
      rfl
    | ok state => simp [Beginning.found?, Beginning.watch, answered, Except.toOption] at refused
  · cases answered : (service.backend.answer (.submit spec) net).1.outcome with
    | error e =>
      refine ⟨["Failed to submit job", e.message], ?_⟩
      simp only [Command.uses, submit, hspec, submit_create, Plan.run_ask,
        Lifecycle.concludeSubmit_of_error answered]
      rfl
    | ok id =>
      cases blank : Text.isBlankText id with
      | false =>
        simp [Beginning.found?, Beginning.submit, answered, blank, Except.toOption] at refused
      | true =>
        refine ⟨["Failed to submit job", Lifecycle.blankId.message], ?_⟩
        simp only [Command.uses, submit, hspec, submit_create, Plan.run_ask,
          Lifecycle.concludeSubmit, answered, blank, if_true]
        rfl

/-- A command that finds its job follows it from there. -/
theorem uses_of_found (driver : String) (follows : command.follows = true)
    (begins : command.beginning? s.file? = some start) {id : String} {state : JobState}
    (found : start.found? service net = some (id, state)) :
    ∃ job, job.nativeId = some id ∧ job.state = state ∧ ∃ text,
      command.uses s driver service net
        = ((follow s service job (service.backend.answer start.query net).2).1.after text,
           (follow s service job (service.backend.answer start.query net).2).2) := by
  rcases beginning?_cases begins with
    ⟨id', interval, rfl, given, rfl⟩ | ⟨args, spec, rfl, hspec, rfl⟩
  · cases answered : (service.backend.answer (.status id') net).1.outcome with
    | error e => simp [Beginning.found?, Beginning.watch, answered, Except.toOption] at found
    | ok reported =>
      obtain ⟨rfl, rfl⟩ : id' = id ∧ reported = state := by
        simpa [Beginning.found?, Beginning.watch, answered, Except.toOption] using found
      obtain ⟨job, bound, hstate, h⟩ := attach_of_told (s := s) given answered
      refine ⟨job, bound, hstate, ?_⟩
      simp only [Command.uses, watch, h]
      exact ⟨_, rfl⟩
  · cases answered : (service.backend.answer (.submit spec) net).1.outcome with
    | error e => simp [Beginning.found?, Beginning.submit, answered, Except.toOption] at found
    | ok nativeId =>
      cases blank : Text.isBlankText nativeId with
      | true =>
        simp [Beginning.found?, Beginning.submit, answered, blank, Except.toOption] at found
      | false =>
        obtain ⟨rfl, rfl⟩ : nativeId = id ∧ .queued = state := by
          simpa [Beginning.found?, Beginning.submit, answered, blank, Except.toOption] using found
        have wait : args.wait = true := follows
        refine ⟨((Job.create s.jobId spec s.now).bind nativeId).transition .queued
          (service.backend.answer (.submit spec) net).1.time, ?_, ?_, ?_⟩
        · simp
        · rw [Job.state_transition_eq_next]
          rfl
        · simp only [Command.uses, submit, hspec, submit_create, Plan.run_ask,
            Lifecycle.concludeSubmit_of_ok answered blank, wait, if_true]
          exact ⟨_, rfl⟩

/-- **Following a job brings it to its fate**: the exit code says which, and the requests
are the fetches of its status. -/
theorem fate_of_follow {job : Job} {id : String} (bound : job.nativeId = some id) :
    ∃ n ending, Poller.Fate 10 service.backend id net job.state n ending
      ∧ (follow s service job net).1.exitCode = ending.exitCode
      ∧ (follow s service job net).2
        = net.sendAll (List.replicate n (service.call (.status id)).requests).flatten := by
  obtain ⟨n, fate, hworld⟩ := ({} : Poller).fate_follow service.runsDry (s := net) bound
  refine ⟨n, _, fate, ?_, ?_⟩
  · simp only [follow]
    cases (({} : Poller).follow service.backend service.runsDry job net).1.result with
    | error fault => rfl
    | ok state => cases state <;> rfl
  · rw [← service.statuses_snd, ← hworld]
    rfl

theorem exists_follows (s : Surroundings) (registry : Registry Service) (i : Invocation)
    (net : Network) (follows : i.command.follows = true) :
    ∃ ending requests, Follows s registry i net ending requests := by
  cases configured : configured? s registry i with
  | none => exact ⟨_, _, .unconfigured configured⟩
  | some service =>
    cases begins : i.command.beginning? s.file? with
    | none => exact ⟨_, _, .unasked configured begins⟩
    | some start =>
      cases found : start.found? service net with
      | none => exact ⟨_, _, .refused configured begins found⟩
      | some job =>
        obtain ⟨id, state⟩ := job
        obtain ⟨job, bound, rfl, -⟩ := uses_of_found i.driver follows begins found
        obtain ⟨n, ending, fate, -⟩ := fate_of_follow (s := s) bound
        exact ⟨_, _, .followed configured begins found fate⟩

/-- **A command that follows a job goes as it is described**: it exits with the code of its
ending and makes the requests. -/
theorem follows_run (follows : i.command.follows = true) {ending : Ending}
    {requests : List Request} (h : Follows s registry i net ending requests) :
    (run s registry i net).1.exitCode = ending.exitCode
      ∧ (run s registry i net).2 = net.sendAll requests := by
  cases h with
  | unconfigured unsound =>
    have needs (states : Bool) : i.command ≠ .drivers states := by
      intro drivers
      rw [drivers] at follows
      exact Bool.false_ne_true follows
    obtain ⟨causes, hrun⟩ := run_of_unconfigured net needs unsound
    rw [hrun]
    exact ⟨rfl, rfl⟩
  | @unasked service configured unasked =>
    obtain ⟨causes, huses⟩ := uses_of_unasked i.driver service net follows unasked
    rw [run_of_configured follows configured, huses]
    exact ⟨rfl, rfl⟩
  | refused configured begins refused =>
    obtain ⟨causes, huses⟩ := uses_of_refused i.driver begins refused
    rw [run_of_configured follows configured, huses]
    exact ⟨rfl, Call.run_snd _ net⟩
  | followed configured begins found fate =>
    obtain ⟨job, bound, rfl, text, huses⟩ := uses_of_found i.driver follows begins found
    obtain ⟨n, ending', fate', hcode, hnet⟩ := fate_of_follow (s := s) bound
    obtain ⟨rfl, rfl⟩ := fate.unique (by decide) fate'
    rw [run_of_configured follows configured, huses, Network.sendAll_append, ← Call.run_snd]
    exact ⟨hcode, hnet⟩

/-- **The exit code and the requests of a command that follows a job.**  There is one way in
which it goes.  It exits with zero exactly if the first terminal state that is seen is
completion, and with one if the job ends otherwise, is given up or was never followed; and it
makes the first request and the status fetches up to the end, all of which go out over a line
that is up. -/
theorem exitCode_run (s : Surroundings) (registry : Registry Service) (i : Invocation)
    (net : Network) (follows : i.command.follows = true) :
    (∃ ending requests, Follows s registry i net ending requests)
      ∧ ∀ ending requests, Follows s registry i net ending requests →
        ((run s registry i net).1.exitCode = 0 ↔ ending = .terminal .completed)
          ∧ (ending ≠ .terminal .completed → (run s registry i net).1.exitCode = 1)
          ∧ (run s registry i net).2 = net.sendAll requests
          ∧ (net.line ≠ .down → (run s registry i net).2.sent = net.sent ++ requests) := by
  refine ⟨exists_follows s registry i net follows, fun ending requests h => ?_⟩
  obtain ⟨hcode, hnet⟩ := follows_run follows h
  rw [hcode, hnet, Ending.exitCode]
  exact ⟨by simp, fun hne => if_neg hne, rfl, fun up => Network.sent_sendAll up requests⟩

/-- Surroundings without variables and files. -/
def bareSurroundings : Surroundings where
  env? _ := none
  file? _ := none
  palette := ⟨false⟩
  now := .epoch
  jobId := .zero

/-- A watch of a job. -/
def watchSeven : Invocation := { driver := "slurm-rest", command := .watch "7" 5 }

/-- The driver that they set up. -/
def bareSlurm : Slurm.Driver := ⟨⟨"http://localhost:6820"⟩, "root", ""⟩

/-- A response that tells the state of a job. -/
def stateResponse (token : String) : Http.Response :=
  ⟨200, .whole (Text.encodeUtf8
    ("\x7b\"jobs\": [\x7b\"job_state\": \"" ++ token ++ "\"\x7d]\x7d").toList)⟩

/-- A network on which the job runs and then completes. -/
def completing : Network where
  line := .up [.response (stateResponse "RUNNING"), .lost, .response (stateResponse "COMPLETED"),
    .response (stateResponse "COMPLETED")]
  now := .epoch

/-- The watch fetches the state until the job completes, beyond a fetch that fails, and then
exits with zero. -/
theorem exitCode_run_completing :
    watchSeven.command.follows = true
      ∧ (run bareSurroundings Registry.builtin watchSeven completing).1.exitCode = 0
      ∧ (run bareSurroundings Registry.builtin watchSeven completing).2.sent.length = 3 := by
  have configured : configured? bareSurroundings Registry.builtin watchSeven
      = some bareSlurm.service := rfl
  have found : (Beginning.watch "7").found? bareSlurm.service completing = some ("7", .active) := by
    decide +kernel
  have fate : Poller.Fate 10 bareSlurm.service.backend "7"
      (bareSlurm.service.backend.answer (.status "7") completing).2 .active 2
      (.terminal .completed) := by
    refine .terminal rfl ?_ rfl (by decide +kernel) rfl
    have lost : (bareSlurm.service.backend.answer (.status "7")
        (bareSlurm.service.backend.answer (.status "7") completing).2).1.succeeded = false := by
      decide +kernel
    -- one failed fetch is neither the end of the job nor ten in a row
    intro k hk
    obtain rfl | rfl : k = 0 ∨ k = 1 := by omega
    · rintro (⟨a, t, hlast, -⟩ | failed)
      · exact nomatch hlast
      · exact absurd failed (by decide)
    · rintro (⟨a, t, hlast, answered, -⟩ | failed)
      · obtain rfl := Option.some.inj hlast
        exact Bool.false_ne_true (lost.symm.trans (Answer.succeeded_of_ok answered))
      · exact absurd failed (by decide +kernel)
  obtain ⟨hcode, -, -, hsent⟩ := (exitCode_run bareSurroundings Registry.builtin watchSeven
    completing rfl).2 _ _ (.followed configured rfl found fate)
  refine ⟨rfl, hcode.mpr rfl, ?_⟩
  rw [hsent Http.Line.noConfusion]
  decide +kernel

end Run

end CommandLine

end RemoteBatch
