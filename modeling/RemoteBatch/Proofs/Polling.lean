import Mathlib.Data.List.Induction
import RemoteBatch.Poller

/-!
# What a poll consumes

A poll refreshes one job until its state is terminal or too many refreshes in a
row have failed.  Seen from outside it reads a list of answers, and this file says
which: the shortest prefix that stops it, read once from left to right.  The loop
is first shown to walk along such a list (`Walk`), one answer per step; all else is
proved about walks, by induction on the list.

## Main definitions

* `Backend.statuses` — the answers that a backend gives about one job.
* `Job.learn`, `course` — the handle after an answer, and its states along a list.
* `failureRun`, `Stops` — the errors at the end of a list, and whether it stops a
  poll.
* `note`, `verdict` — one step of the poll, and whether it is the last.
* `Walk` — a poll along a list of answers.
* `changesAlong`, `Linked` — the changes in a list of states, and chains of changes.

## Main results

* `walk_loop` — **the loop walks along the answers of its backend.**
* `Walk.stopsFrom`, `Walk.eq_of_prefix` — a walk stops, and no sooner.
* `follow_consumes_shortest` — **what a poll consumes, and what it leaves.**
-/

namespace RemoteBatch

/-- The first answers of a backend about one job, and the world after them. -/
def Backend.statuses (b : Backend σ) (id : String) : Nat → σ → List (Answer JobState) × σ
  | 0, s => ([], s)
  | n + 1, s =>
    let came := b.answer (.status id) s
    let rest := b.statuses id n came.2
    (came.1 :: rest.1, rest.2)

/-- The handle after an answer about its job; an error teaches nothing. -/
def Job.learn (job : Job) (a : Answer JobState) : Job :=
  match a.outcome with
  | .ok state => job.transition state a.time
  | .error _ => job

namespace Poller

/-! ### Answers that stop a poll -/

/-- The number of errors in a row after one more answer. -/
def count (n : Nat) (a : Answer JobState) : Nat := if a.succeeded then 0 else n + 1

/-- The number of errors in a row at the end of a list of answers. -/
def failureRun (as : List (Answer JobState)) : Nat :=
  (as.reverse.takeWhile (!·.succeeded)).length

/-- Whether a list ends with a success in a terminal state. -/
def EndsTerminal (as : List (Answer JobState)) : Prop :=
  ∃ a t, as.getLast? = some a ∧ a.outcome = .ok t ∧ t.isTerminal = true

/-- Whether a list stops a poll that gives up after `m` errors in a row. -/
def Stops (m : Nat) (as : List (Answer JobState)) : Prop := EndsTerminal as ∨ failureRun as = m

theorem failureRun_concat (as : List (Answer JobState)) (a : Answer JobState) :
    failureRun (as ++ [a]) = count (failureRun as) a := by
  unfold failureRun count
  cases h : a.succeeded <;> simp [h]

theorem foldl_count (as : List (Answer JobState)) : as.foldl count 0 = failureRun as := by
  -- from the right, where the errors in a row are
  induction as using List.reverseRecOn with
  | nil => rfl
  | append_singleton as a ih => rw [List.foldl_append, failureRun_concat, ← ih]; rfl

/-! ### One step -/

/-- The change of a handle that goes to a state, if it may. -/
def changeTo (job : Job) (state : JobState) : List Change :=
  if job.admits state then [⟨job.state, state, state⟩] else []

/-- What an answer makes the observer hear. -/
def told (id : String) (a : Answer JobState) : List Event :=
  match a.outcome with
  | .ok _ => a.events
  | .error e =>
    a.events ++ [.warning ("Failed to update status for job " ++ id ++ ": " ++ e.message)]

/-- What an answer changes about a handle, as the caller is told. -/
def seen (job : Job) (a : Answer JobState) : List Change :=
  match a.outcome with
  | .ok state => changeTo job state
  | .error _ => []

/-- The progress after an answer. -/
def note (id : String) (p : Progress) (a : Answer JobState) : Progress :=
  { job := p.job.learn a
    failures := count p.failures a
    changes := p.changes ++ seen p.job a
    events := p.events ++ told id a }

/-- The end that an answer brings, if it brings one. -/
def verdict (poller : Poller) (id : String) (p : Progress) (a : Answer JobState) :
    Option (Except Fault JobState) :=
  match a.outcome with
  | .ok _ =>
    if (p.job.learn a).state.isTerminal then some (.ok (p.job.learn a).state) else none
  | .error e =>
    if poller.maxFailures ≤ p.failures + 1 then
      some (.error (.abandoned id (p.failures + 1) e))
    else none

/-- A step of the loop is one answer noted and judged. -/
theorem advance_refresh (poller : Poller) (b : Backend σ) {id : String} {p : Progress} (s : σ)
    (bound : p.job.nativeId = some id) (live : p.job.state.isTerminal = false) :
    let ran := (Lifecycle.refresh p.job).run b s
    let a := (b.answer (.status id) s).1
    poller.advance id p ran.1.2 ran.1.1 = (note id p a, poller.verdict id p a)
      ∧ ran.2 = (b.answer (.status id) s).2 := by
  intro ran a
  have hran : ran = ((Lifecycle.concludeRefresh p.job id a, a.events),
      (b.answer (.status id) s).2) := by
    show (Lifecycle.refresh p.job).run b s = _
    rw [Lifecycle.refresh_of_live bound live, Plan.run_ask]
  rw [hran]
  refine ⟨?_, rfl⟩
  unfold advance note verdict Lifecycle.concludeRefresh Job.learn seen told count changeTo
  cases hout : a.outcome with
  | error e => simp [Answer.succeeded_of_error hout]
  | ok state =>
    cases admitted : p.job.admits state with
    | false => simp [Answer.succeeded_of_ok hout, admitted, Job.state_transition]
    | true => simp [Answer.succeeded_of_ok hout, admitted, Job.state_transition]

/-! ### Walks -/

/-- A poll along a list of answers: the progress before it, the answers, the
progress after it and the result.  Every answer but the last leaves the poll going
on. -/
inductive Walk (poller : Poller) (id : String) :
    Progress → List (Answer JobState) → Progress → Except Fault JobState → Prop
  | last {p : Progress} {a : Answer JobState} {result : Except Fault JobState}
    (ends : poller.verdict id p a = some result) : Walk poller id p [a] (note id p a) result
  | step {p q : Progress} {a : Answer JobState} {as : List (Answer JobState)}
    {result : Except Fault JobState} (goesOn : poller.verdict id p a = none)
    (rest : Walk poller id (note id p a) as q result) : Walk poller id p (a :: as) q result

/-- A poll that goes on follows a job that has not ended. -/
theorem live_note {poller : Poller} {id : String} {p : Progress} {a : Answer JobState}
    (live : p.job.state.isTerminal = false) (goesOn : poller.verdict id p a = none) :
    (note id p a).job.state.isTerminal = false := by
  show (p.job.learn a).state.isTerminal = false
  cases hout : a.outcome with
  | ok state => simpa [verdict, hout] using goesOn
  | error e => simpa [Job.learn, hout] using live

/-- **The loop walks along the answers of its backend**, and leaves the world as it
is after the last of them. -/
theorem walk_loop (poller : Poller) (b : Backend σ) (dry : RunsDry b) (id : String)
    (p : Progress) (bound : p.job.nativeId = some id) (s : σ)
    (live : p.job.state.isTerminal = false) :
    ∃ n, Walk poller id p (b.statuses id n s).1 (poller.loop b dry id p bound s).1.progress
        (poller.loop b dry id p bound s).1.result
      ∧ (poller.loop b dry id p bound s).2 = (b.statuses id n s).2 := by
  -- along the loop's own recursion; the answer of each step is put before the list
  -- of the steps behind it
  fun_induction poller.loop b dry id p bound s with
  | case1 p bound s ran next result hnext =>
    obtain ⟨hadvance, hworld⟩ := advance_refresh poller b s bound live
    have hnext' : next = _ := hadvance
    rw [hnext'] at hnext ⊢
    exact ⟨1, .last hnext, hworld⟩
  | case2 p bound s ran next hnext ih =>
    obtain ⟨hadvance, hworld⟩ := advance_refresh poller b s bound live
    have hnext' : next = _ := hadvance
    have hworld' : ran.2 = _ := hworld
    have goesOn : poller.verdict id p (b.answer (.status id) s).1 = none := by
      rw [hnext'] at hnext
      exact hnext
    have hnote : next.1 = note id p (b.answer (.status id) s).1 := by rw [hnext']
    obtain ⟨n, walk, hlast⟩ := ih (hnote ▸ live_note live goesOn)
    refine ⟨n + 1, .step goesOn ?_, ?_⟩
    · show Walk poller id _ (b.statuses id n (b.answer (.status id) s).2).1 _ _
      rw [← hnote, ← hworld']
      exact walk
    · rw [hlast, hworld']
      rfl

/-! ### Where a walk stops -/

/-- Whether a list stops a poll that has met `f` errors in a row before it. -/
def StopsFrom (m f : Nat) (as : List (Answer JobState)) : Prop :=
  EndsTerminal as ∨ as ≠ [] ∧ as.foldl count f = m

theorem stopsFrom_zero {m : Nat} (pos : 0 < m) (as : List (Answer JobState)) :
    StopsFrom m 0 as ↔ Stops m as := by
  unfold StopsFrom Stops
  rw [foldl_count]
  constructor
  · rintro (h | ⟨-, h⟩)
    · exact .inl h
    · exact .inr h
  · rintro (h | h)
    · exact .inl h
    · refine .inr ⟨?_, h⟩
      rintro rfl
      exact absurd h (Nat.ne_of_lt pos)

theorem endsTerminal_cons {a : Answer JobState} {as : List (Answer JobState)} (ne : as ≠ []) :
    EndsTerminal (a :: as) ↔ EndsTerminal as := by
  cases as with
  | nil => exact absurd rfl ne
  | cons a' as => unfold EndsTerminal; rw [List.getLast?_cons_cons]

theorem stopsFrom_cons {m f : Nat} {a : Answer JobState} {as : List (Answer JobState)}
    (ne : as ≠ []) : StopsFrom m f (a :: as) ↔ StopsFrom m (count f a) as := by
  unfold StopsFrom
  rw [endsTerminal_cons ne, List.foldl_cons]
  simp [ne]

theorem not_stopsFrom_nil {m f : Nat} : ¬ StopsFrom m f [] := by
  simp [StopsFrom, EndsTerminal]

/-- A handle that has not ended follows an answer into exactly the terminal states. -/
theorem state_transition_of_terminal {job : Job} (live : job.state.isTerminal = false)
    {state : JobState} (ends : state.isTerminal = true) (now : Calendar.Instant) :
    (job.transition state now).state = state := by
  rw [Job.state_transition, if_pos]
  refine Job.admits_iff.mpr ⟨?_, live, ?_⟩
  · rintro rfl
    exact Bool.false_ne_true (live.symm.trans ends)
  · rintro rfl
    exact Bool.false_ne_true ends

theorem isTerminal_transition {job : Job} (live : job.state.isTerminal = false)
    (state : JobState) (now : Calendar.Instant) :
    (job.transition state now).state.isTerminal = state.isTerminal := by
  cases ends : state.isTerminal with
  | true => rw [state_transition_of_terminal live ends, ends]
  | false =>
    rw [Job.state_transition]
    split
    · exact ends
    · exact live

/-- An answer ends a poll exactly if it stops it as a list of its own. -/
theorem verdict_eq_none_iff {poller : Poller} {id : String} {p : Progress}
    {a : Answer JobState} (live : p.job.state.isTerminal = false)
    (few : p.failures < poller.maxFailures) :
    poller.verdict id p a = none ↔ ¬ StopsFrom poller.maxFailures p.failures [a] := by
  cases hout : a.outcome with
  | ok state =>
    have ne : 0 ≠ poller.maxFailures := Nat.ne_of_lt poller.maxFailures_pos
    have hcount : count p.failures a = 0 := by
      rw [count, Answer.succeeded_of_ok hout, if_pos rfl]
    simp [verdict, hout, StopsFrom, EndsTerminal, Job.learn, isTerminal_transition live, hcount,
      ne]
  | error e =>
    have hcount : count p.failures a = p.failures + 1 := by
      rw [count, Answer.succeeded_of_error hout, if_neg Bool.false_ne_true]
    -- the loop tests for at least as many errors, and cannot pass the number by
    have hmax : poller.maxFailures ≤ p.failures + 1 ↔ p.failures + 1 = poller.maxFailures := by
      omega
    simp [verdict, hout, StopsFrom, EndsTerminal, hcount, hmax]

/-- An answer that leaves a poll going on leaves it an error to spare. -/
theorem failures_note_lt {poller : Poller} {id : String} {p : Progress} {a : Answer JobState}
    (goesOn : poller.verdict id p a = none) : (note id p a).failures < poller.maxFailures := by
  show count p.failures a < poller.maxFailures
  cases hout : a.outcome with
  | ok state =>
    rw [count, Answer.succeeded_of_ok hout, if_pos rfl]
    exact poller.maxFailures_pos
  | error e =>
    rw [count, Answer.succeeded_of_error hout, if_neg Bool.false_ne_true]
    simpa [verdict, hout] using goesOn

namespace Walk

variable {poller : Poller} {id : String} {p q : Progress} {as : List (Answer JobState)}
  {result : Except Fault JobState}

theorem ne_nil (walk : Walk poller id p as q result) : as ≠ [] := by cases walk <;> simp

theorem eq_foldl (walk : Walk poller id p as q result) : q = as.foldl (note id) p := by
  induction walk with
  | last _ => rfl
  | step _ _ ih => exact ih

/-- A walk ends with a list that stops the poll. -/
theorem stopsFrom (walk : Walk poller id p as q result) (live : p.job.state.isTerminal = false)
    (few : p.failures < poller.maxFailures) :
    StopsFrom poller.maxFailures p.failures as := by
  induction walk with
  | last ends =>
    by_contra h
    rw [(verdict_eq_none_iff live few).mpr h] at ends
    cases ends
  | step goesOn rest ih =>
    rw [stopsFrom_cons rest.ne_nil]
    exact ih (live_note live goesOn) (failures_note_lt goesOn)

/-- No shorter list does. -/
theorem eq_of_prefix (walk : Walk poller id p as q result)
    (live : p.job.state.isTerminal = false) (few : p.failures < poller.maxFailures)
    {l : List (Answer JobState)} (hl : l <+: as)
    (stops : StopsFrom poller.maxFailures p.failures l) : l = as := by
  induction walk generalizing l with
  | last ends =>
    rcases List.prefix_cons_iff.mp hl with rfl | ⟨t, rfl, ht⟩
    · exact absurd stops not_stopsFrom_nil
    · rw [List.prefix_nil.mp ht]
  | step goesOn rest ih =>
    rcases List.prefix_cons_iff.mp hl with rfl | ⟨t, rfl, ht⟩
    · exact absurd stops not_stopsFrom_nil
    · by_cases ne : t = []
      · -- the first answer alone would have ended the walk
        subst ne
        exact absurd stops ((verdict_eq_none_iff live few).mp goesOn)
      · rw [stopsFrom_cons ne] at stops
        rw [ih (live_note live goesOn) (failures_note_lt goesOn) ht stops]

/-- The errors in a row never exceed the number that ends the poll. -/
theorem foldl_count_le (walk : Walk poller id p as q result)
    (few : p.failures < poller.maxFailures) {l : List (Answer JobState)} (hl : l <+: as) :
    l.foldl count p.failures ≤ poller.maxFailures := by
  induction walk generalizing l with
  | @last p a result ends =>
    rcases List.prefix_cons_iff.mp hl with rfl | ⟨t, rfl, ht⟩
    · exact Nat.le_of_lt few
    · rw [List.prefix_nil.mp ht, List.foldl_cons, List.foldl_nil, count]
      split
      · exact Nat.zero_le _
      · exact few
  | step goesOn rest ih =>
    rcases List.prefix_cons_iff.mp hl with rfl | ⟨t, rfl, ht⟩
    · exact Nat.le_of_lt few
    · exact ih (failures_note_lt goesOn) ht

/-- The last answer of a walk decides its result: a terminal state, which the
handle is then in, or the error that was one too many. -/
theorem result_of_last (walk : Walk poller id p as q result)
    (live : p.job.state.isTerminal = false) (few : p.failures < poller.maxFailures) :
    ∃ a, as.getLast? = some a
      ∧ ((∃ t, a.outcome = .ok t ∧ t.isTerminal = true ∧ result = .ok t ∧ q.job.state = t)
        ∨ ∃ e, a.outcome = .error e
          ∧ result = .error (.abandoned id poller.maxFailures e)) := by
  induction walk with
  | @last p a result ends =>
    refine ⟨a, rfl, ?_⟩
    cases hout : a.outcome with
    | ok state =>
      have hlearn : p.job.learn a = p.job.transition state a.time := by rw [Job.learn, hout]
      simp only [verdict, hout, hlearn, isTerminal_transition live, Option.ite_none_right_eq_some,
        Option.some.injEq] at ends
      obtain ⟨terminal, rfl⟩ := ends
      have hstate := state_transition_of_terminal live terminal a.time
      refine .inl ⟨state, rfl, terminal, by rw [hstate], ?_⟩
      show (p.job.learn a).state = state
      rw [hlearn, hstate]
    | error e =>
      simp only [verdict, hout, Option.ite_none_right_eq_some, Option.some.injEq] at ends
      obtain ⟨hmax, rfl⟩ := ends
      refine .inr ⟨e, rfl, ?_⟩
      rw [show p.failures + 1 = poller.maxFailures by omega]
  | step goesOn rest ih =>
    obtain ⟨a, hlast, hresult⟩ := ih (live_note live goesOn) (failures_note_lt goesOn)
    exact ⟨a, by rw [List.getLast?_cons, hlast]; rfl, hresult⟩

end Walk

/-! ### What a walk leaves -/

/-- The states of a handle along a list of answers. -/
def course : Job → List (Answer JobState) → List JobState
  | job, [] => [job.state]
  | job, a :: as => job.state :: course (job.learn a) as

/-- The changes between neighbours of a list of states that differ. -/
def changesAlong : List JobState → List Change
  | s :: t :: rest => (if s = t then [] else [⟨s, t, t⟩]) ++ changesAlong (t :: rest)
  | _ => []

/-- Changes that lead from one state to another, each from where the one before
ended, to another state, and shown with the handle already there. -/
inductive Linked : JobState → List Change → JobState → Prop
  | nil (s : JobState) : Linked s [] s
  | cons {s t u : JobState} {changes : List Change} (ne : s ≠ t) (rest : Linked t changes u) :
    Linked s (⟨s, t, t⟩ :: changes) u

theorem seen_eq (job : Job) (a : Answer JobState) :
    seen job a
      = if job.state = (job.learn a).state then []
        else [⟨job.state, (job.learn a).state, (job.learn a).state⟩] := by
  unfold seen Job.learn
  cases a.outcome with
  | error e => simp
  | ok state =>
    cases admitted : job.admits state with
    | false => simp [changeTo, admitted, Job.state_transition]
    | true => simp [changeTo, admitted, Job.state_transition, (Job.admits_iff.mp admitted).1]

theorem changesAlong_cons_course (s : JobState) (job : Job) (as : List (Answer JobState)) :
    changesAlong (s :: course job as)
      = (if s = job.state then [] else [⟨s, job.state, job.state⟩])
        ++ changesAlong (course job as) := by
  cases as <;> rfl

theorem linked_course (job : Job) (as : List (Answer JobState)) :
    Linked job.state (changesAlong (course job as)) (as.foldl Job.learn job).state := by
  induction as generalizing job with
  | nil => exact .nil job.state
  | cons a as ih =>
    rw [course, changesAlong_cons_course, List.foldl_cons]
    split
    · next same => exact same ▸ ih (job.learn a)
    · next ne => exact .cons ne (ih (job.learn a))

section Fold

variable (id : String) (p : Progress) (as : List (Answer JobState))

theorem job_foldl_note : (as.foldl (note id) p).job = as.foldl Job.learn p.job := by
  induction as generalizing p with
  | nil => rfl
  | cons a as ih => exact ih (note id p a)

theorem failures_foldl_note : (as.foldl (note id) p).failures = as.foldl count p.failures := by
  induction as generalizing p with
  | nil => rfl
  | cons a as ih => exact ih (note id p a)

theorem changes_foldl_note :
    (as.foldl (note id) p).changes = p.changes ++ changesAlong (course p.job as) := by
  induction as generalizing p with
  | nil => exact (List.append_nil p.changes).symm
  | cons a as ih =>
    rw [List.foldl_cons, ih, course, changesAlong_cons_course, ← seen_eq, ← List.append_assoc]
    rfl

theorem events_foldl_note :
    (as.foldl (note id) p).events = p.events ++ as.flatMap (told id) := by
  induction as generalizing p with
  | nil => exact (List.append_nil p.events).symm
  | cons a as ih =>
    rw [List.foldl_cons, ih, List.flatMap_cons, ← List.append_assoc]
    rfl

end Fold

/-! ### Following -/

/-- What a poll of a job in progress makes of the answers that it consumes. -/
structure Consumed (m : Nat) (id : String) (job : Job) (as : List (Answer JobState))
    (o : Outcome) : Prop where
  stops : Stops m as
  /-- The poll reports the terminal state that its job is in, or the last error. -/
  ended : ∃ a, as.getLast? = some a
    ∧ ((∃ t, a.outcome = .ok t ∧ t.isTerminal = true ∧ o.result = .ok t
        ∧ o.progress.job.state = t)
      ∨ ∃ e, a.outcome = .error e ∧ o.result = .error (.abandoned id m e))
  /-- The handle has learnt the answers in order, and errors taught it nothing. -/
  learnt : o.progress.job = as.foldl Job.learn job
  /-- The caller was told every change of state once, in order. -/
  changes : o.progress.changes = changesAlong (course job as)
  linked : Linked job.state o.progress.changes o.progress.job.state
  /-- The observer was told what came with the answers, and one warning an error. -/
  events : o.progress.events = as.flatMap (told id)
  /-- The counter of the poll counts the errors in a row, and never beyond `m`. -/
  counted : ∀ l, l <+: as → (l.foldl (note id) { job }).failures = failureRun l
    ∧ failureRun l ≤ m

theorem Walk.consumed {poller : Poller} {id : String} {job : Job}
    {as : List (Answer JobState)} {o : Outcome}
    (walk : Walk poller id { job } as o.progress o.result)
    (live : job.state.isTerminal = false) : Consumed poller.maxFailures id job as o where
  stops := (stopsFrom_zero poller.maxFailures_pos as).mp
    (walk.stopsFrom live poller.maxFailures_pos)
  ended := walk.result_of_last live poller.maxFailures_pos
  learnt := by rw [walk.eq_foldl, job_foldl_note]
  changes := by
    rw [walk.eq_foldl, changes_foldl_note]
    rfl
  linked := by
    rw [walk.eq_foldl, changes_foldl_note, job_foldl_note]
    exact linked_course job as
  events := by
    rw [walk.eq_foldl, events_foldl_note]
    rfl
  counted l hl := by
    rw [failures_foldl_note, ← foldl_count]
    exact ⟨rfl, walk.foldl_count_le poller.maxFailures_pos hl⟩

theorem length_statuses (b : Backend σ) (id : String) (n : Nat) (s : σ) :
    (b.statuses id n s).1.length = n := by
  induction n generalizing s with
  | zero => rfl
  | succ n ih => exact congrArg (· + 1) (ih _)

theorem statuses_prefix (b : Backend σ) (id : String) {k n : Nat} (h : k ≤ n) (s : σ) :
    (b.statuses id k s).1 <+: (b.statuses id n s).1 := by
  induction k generalizing n s with
  | zero => exact List.nil_prefix
  | succ k ih =>
    cases n with
    | zero => omega
    | succ n => exact (List.prefix_cons_inj _).mpr (ih (by omega) _)

/-- **A poll consumes the shortest list of answers that stops it.**  A job that no
scheduler knows and one that has ended are not asked about at all. -/
theorem follow_consumes_shortest (poller : Poller) (b : Backend σ) (dry : RunsDry b)
    (job : Job) (s : σ) :
    (∀ k, (ofMaxFailures k).maxFailures = max k 1)
      ∧ (∀ k : UInt32, (ofMaxFailures k.toNat).maxFailures < UInt32.size)
      ∧ (job.nativeId = none → poller.follow b dry job s = (⟨.error (.unbound job), { job }⟩, s))
      ∧ (∀ id, job.nativeId = some id → job.state.isTerminal = true →
        poller.follow b dry job s = (⟨.ok job.state, { job }⟩, s))
      ∧ ∀ id, job.nativeId = some id → job.state.isTerminal = false →
        ∃ n, (poller.follow b dry job s).2 = (b.statuses id n s).2
          ∧ (∀ k, Stops poller.maxFailures (b.statuses id k s).1 → n ≤ k)
          ∧ Consumed poller.maxFailures id job (b.statuses id n s).1
              (poller.follow b dry job s).1 := by
  refine ⟨fun k => rfl, fun k => ?_, fun unbound => ?_, fun id bound terminal => ?_,
    fun id bound live => ?_⟩
  · have hk := k.toNat_lt_size
    show max k.toNat 1 < UInt32.size
    exact Nat.max_lt.mpr ⟨hk, by decide⟩
  · unfold follow
    split
    · rfl
    · next id bound => rw [unbound] at bound; cases bound
  · unfold follow
    split
    · next unbound => rw [unbound] at bound; cases bound
    · rw [if_pos terminal]
  · have hfollow : poller.follow b dry job s = poller.loop b dry id { job } bound s := by
      unfold follow
      split
      · next unbound => rw [unbound] at bound; cases bound
      · next id' bound' =>
        obtain rfl : id' = id := by rw [bound', Option.some.injEq] at bound; exact bound
        rw [if_neg (by simp [live])]
    obtain ⟨n, walk, hworld⟩ := walk_loop poller b dry id { job } bound s live
    rw [hfollow]
    refine ⟨n, hworld, fun k stops => ?_, walk.consumed live⟩
    -- fewer answers that stop the poll would be a shorter walk
    by_contra hlt
    have hprefix := statuses_prefix b id (Nat.le_of_not_le hlt) s
    have heq := walk.eq_of_prefix live poller.maxFailures_pos hprefix
      ((stopsFrom_zero poller.maxFailures_pos _).mpr stops)
    have hlength := congrArg List.length heq
    rw [length_statuses, length_statuses] at hlength
    omega

end Poller

end RemoteBatch
