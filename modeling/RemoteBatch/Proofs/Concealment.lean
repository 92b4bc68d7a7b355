import RemoteBatch.Proofs.Reloading

/-!
# Tokens stay in their header

A driver writes its token into one header of its requests.  Nobody who sees anything else
can tell the token: two runs with two tokens bring the same replies and errors, report the
same events and leave the same handle, and the requests that they send are the same once
the values of that header are struck out.

A comparison of two runs is carried along them by one invariant: the networks are the same
but for the header in what was sent.

## Main definitions

* `Http.Request.redact`, `Http.Network.redact` — requests without the values of a header.
* `Http.Call.Alike` — that two calls differ in the values of a header only.
* `Http.Service.Indistinct` — that two services cannot be told apart by their users.
* `Http.Service.MadeIndistinct` — the same of services whose making may fail.

## Main results

* `Http.Call.Alike.run` — **calls that are alike bring the same answer.**
* `Situation.sights_alike` — **so do runs of actions.**
* `Http.Service.token_concealed` — what two drivers show that differ in their tokens.
-/

namespace RemoteBatch

open Http (Call Content Endpoint Method Network Request Service)

namespace Http

/-! ### Requests without one header -/

/-- A header with its value struck out, if it has the name. -/
def strike (name : String) (h : String × String) : String × String :=
  if h.1 = name then (h.1, "") else h

/-- A request with the values of a header struck out. -/
def Request.redact (name : String) (r : Request) : Request :=
  { r with headers := r.headers.map (strike name) }

/-- A network on which the values of a header are struck out. -/
def Network.redact (name : String) (net : Network) : Network :=
  { net with sent := net.sent.map (Request.redact name) }

variable {name : String}

@[simp] theorem fst_strike (h : String × String) : (strike name h).1 = h.1 := by
  unfold strike
  split <;> rfl

/-- Which replies are welcome is said by the names of the headers. -/
theorem welcome_eq {hs ks : List (String × String)}
    (h : hs.map (strike name) = ks.map (strike name)) : welcome hs = welcome ks := by
  have hany (ls : List (String × String)) :
      ls.any (·.1 == "accept") = (ls.map (strike name)).any (·.1 == "accept") := by
    rw [List.any_map]
    refine congrArg (ls.any ·) (funext fun l => ?_)
    rw [Function.comp_apply, fst_strike]
  rw [welcome, welcome, hany hs, hany ks, h]

/-- Two lists of headers that differ in the values of one header make requests that do so,
if they are fit to be sent, or fail alike. -/
theorem Request.redact_make (method : Method) (url : Url) {hs ks : List (String × String)}
    (content : Content) (h : hs.map (strike name) = ks.map (strike name))
    (fit : (hs.all fun h => h.2.toList.all isHeaderChar)
      = ks.all fun h => h.2.toList.all isHeaderChar) :
    (make method url hs content).map (redact name)
      = (make method url ks content).map (redact name) := by
  have hlogin : ((takeLogin url).2 ++ hs).map (strike name)
      = ((takeLogin url).2 ++ ks).map (strike name) := by
    rw [List.map_append, List.map_append, h]
  have hmake (ls : List (String × String)) : make method url ls content
      = if ls.all fun h => h.2.toList.all isHeaderChar then
          .ok { method, url := (takeLogin url).1, body := bodyOf content
                headers := (takeLogin url).2 ++ ls ++ content.headers
                  ++ welcome ((takeLogin url).2 ++ ls) }
        else .error (.transport .unsendable) := rfl
  rw [hmake hs, hmake ks, fit, welcome_eq hlogin]
  split
  · simp only [Except.map, redact, List.map_append, h]
  · rfl

/-- Whoever waits in vain learns the address alone. -/
theorem Request.unanswered_eq {r r' : Request} (h : r.redact name = r'.redact name) :
    r.unanswered = r'.unanswered := by
  have hurl : r.url = r'.url := (Request.mk.inj h).2.1
  rw [unanswered, unanswered, hurl]

/-- Requests that are the same but for a header fare alike on networks that are. -/
theorem Network.send_redact {net net' : Network} (hnet : net.redact name = net'.redact name)
    {r r' : Request} (hr : r.redact name = r'.redact name) :
    (net.send r).1 = (net'.send r').1
      ∧ (net.send r).2.redact name = (net'.send r').2.redact name := by
  obtain ⟨line, sent, now⟩ := net
  obtain ⟨line', sent', now'⟩ := net'
  obtain ⟨rfl, hsent, rfl⟩ := Network.mk.inj hnet
  have happend : (sent ++ [r]).map (Request.redact name)
      = (sent' ++ [r']).map (Request.redact name) := by
    rw [List.map_append, List.map_append, hsent, List.map_singleton, List.map_singleton, hr]
  have hvain := Request.unanswered_eq hr
  -- what comes back is decided by the line
  rcases line with _ | _ | ⟨_ | _, _⟩
  · exact ⟨congrArg Except.error hvain, hnet⟩
  all_goals simp [send, redact, happend, hvain]

/-! ### Calls -/

/-- That two calls differ in the values of a header only. -/
structure Call.Alike (name : String) (call call' : Call α) : Prop where
  opening : call.opening = call'.opening
  request : call.request.map (Request.redact name) = call'.request.map (Request.redact name)
  interpret : call.interpret = call'.interpret
  closing : call.closing = call'.closing

namespace Call.Alike

variable {call call' : Call α}

theorem answer_eq (h : Alike name call call') : call.answer = call'.answer := by
  funext outcome time
  unfold Call.answer
  rw [h.opening, h.closing]

/-- **Calls that are alike bring the same answer**, and leave the same network but for the
header. -/
theorem run (h : Alike name call call') {net net' : Network}
    (hnet : net.redact name = net'.redact name) :
    (call.run net).1 = (call'.run net').1
      ∧ (call.run net).2.redact name = (call'.run net').2.redact name := by
  have hnow {m m' : Network} (hm : m.redact name = m'.redact name) : m.now = m'.now :=
    Network.mk.inj hm |>.2.2
  have hrequest := h.request
  unfold Call.run
  rw [h.answer_eq, h.interpret]
  cases made : call.request with
  | error e =>
    cases made' : call'.request with
    | error e' =>
      rw [made, made'] at hrequest
      obtain rfl := Except.error.inj hrequest
      exact ⟨congrArg (call'.answer (.error e)) (hnow hnet), hnet⟩
    | ok r' => exact nomatch (made ▸ made' ▸ hrequest)
  | ok r =>
    cases made' : call'.request with
    | error e' => exact nomatch (made ▸ made' ▸ hrequest)
    | ok r' =>
      rw [made, made'] at hrequest
      obtain ⟨hreceived, hafter⟩ := Network.send_redact hnet (Except.ok.inj hrequest)
      simp only [hreceived, hnow hafter]
      exact ⟨trivial, hafter⟩

end Call.Alike

end Http

/-! ### Runs -/

namespace Situation

/-- What can be seen of an action, with the values of a header struck out. -/
def Sight.redact (name : String) (sight : Sight) : Sight :=
  { sight with request? := sight.request?.map (Except.map (Request.redact name)) }

variable {name : String} {service service' : Service}
  (alike : ∀ q, (service.call q).Alike name (service'.call q))

include alike

/-- A plan comes to the same over services that are alike. -/
theorem run_plan_alike (plan : Plan β) {net net' : Network}
    (hnet : net.redact name = net'.redact name) :
    (plan.run service.backend net).1 = (plan.run service'.backend net').1
      ∧ (plan.run service.backend net).2.redact name
        = (plan.run service'.backend net').2.redact name := by
  cases plan with
  | settled result => exact ⟨rfl, hnet⟩
  | ask q conclude =>
    have hanswer : (service.backend.answer q net).1 = (service'.backend.answer q net').1 :=
      ((alike q).run hnet).1
    rw [Plan.run_ask, Plan.run_ask, hanswer]
    exact ⟨rfl, ((alike q).run hnet).2⟩

theorem sight_alike (job : Job) {net net' : Network} (hnet : net.redact name = net'.redact name)
    (a : Action) : (sight service ⟨job, net⟩ a).redact name
      = (sight service' ⟨job, net'⟩ a).redact name := by
  have hrun := (run_plan_alike alike (a.plan job) hnet).1
  have hrequest : ((a.plan job).query?.map fun q => (service.call q).request).map
        (Except.map (Request.redact name))
      = ((a.plan job).query?.map fun q => (service'.call q).request).map
        (Except.map (Request.redact name)) := by
    cases (a.plan job).query? with
    | none => rfl
    | some q => exact congrArg some (alike q).request
  simp only [sight, told, Sight.redact, hrun, hrequest]

/-- **Runs over services that are alike look the same**, and leave the same handle and, but
for the header, the same network. -/
theorem sights_alike (actions : List Action) (job : Job) {net net' : Network}
    (hnet : net.redact name = net'.redact name) :
    (sights service ⟨job, net⟩ actions).map (Sight.redact name)
        = (sights service' ⟨job, net'⟩ actions).map (Sight.redact name)
      ∧ (reach service.backend ⟨job, net⟩ actions).job
        = (reach service'.backend ⟨job, net'⟩ actions).job
      ∧ (reach service.backend ⟨job, net⟩ actions).world.redact name
        = (reach service'.backend ⟨job, net'⟩ actions).world.redact name := by
  induction actions generalizing job net net' with
  | nil => exact ⟨rfl, rfl, hnet⟩
  | cons a actions ih =>
    obtain ⟨hreport, hafter⟩ := run_plan_alike alike (a.plan job) hnet
    have hjob : (after service.backend ⟨job, net⟩ a).job
        = (after service'.backend ⟨job, net'⟩ a).job := by
      simp only [after, hreport]
    obtain ⟨hsights, hrest⟩ := ih (after service.backend ⟨job, net⟩ a).job hafter
    rw [sights, sights, List.map_cons, List.map_cons, sight_alike alike job hnet, reach_cons,
      reach_cons]
    refine ⟨congrArg _ ?_, ?_⟩
    · exact hsights.trans (by rw [hjob]; rfl)
    · exact ⟨hrest.1.trans (by rw [hjob]; rfl), hrest.2.trans (by rw [hjob]; rfl)⟩

end Situation

/-! ### The drivers -/

/-- The name of the header with Slurm's token. -/
def Slurm.tokenHeader : String := "x-slurm-user-token"

/-- The name of the header with NERSC's token. -/
def Nersc.tokenHeader : String := "authorization"

/-- Whether a text can stand in a header. -/
def Http.isHeaderText (s : String) : Bool := s.toList.all Http.isHeaderChar

/-- A request whose making begins with an address is alike for headers that are. -/
theorem Http.Request.redact_bind {name : String} (url? : Except Error Url) (f : Url → Url)
    (method : Method) {hs ks : List (String × String)} (content : Content)
    (h : hs.map (Http.strike name) = ks.map (Http.strike name))
    (fit : (hs.all fun h => h.2.toList.all Http.isHeaderChar)
      = ks.all fun h => h.2.toList.all Http.isHeaderChar) :
    (url? >>= fun u => make method (f u) hs content).map (redact name)
      = (url? >>= fun u => make method (f u) ks content).map (redact name) := by
  cases url? with
  | error e => rfl
  | ok u => exact redact_make method (f u) content h fit

/-- A token has no part in whether a driver is made. -/
theorem Slurm.Driver.ofSettings_token (s : Settings) (t : String) :
    ofSettings { s with token := t } = (Endpoint.ofSettings s defaultUrl).map fun endpoint =>
      { endpoint, userName := s.userName.getD "root", token := t } := rfl

theorem Nersc.Driver.ofSettings_token (s : Settings) (t : String) :
    ofSettings { s with token := t } = (Endpoint.ofSettings s defaultUrl).map fun endpoint =>
      { endpoint, token := t } := rfl

section Tokens

variable {t t' : String} (fit : Http.isHeaderText t = Http.isHeaderText t')

include fit

/-- **Drivers for Slurm make the same calls but for their tokens.** -/
theorem Slurm.Driver.alike (d : Driver) (q : Query) :
    Call.Alike tokenHeader ({ d with token := t }.service.call q)
      ({ d with token := t' }.service.call q) := by
  have hstrike : ({ d with token := t } : Driver).headers.map (Http.strike tokenHeader)
      = ({ d with token := t' } : Driver).headers.map (Http.strike tokenHeader) := by
    simp only [headers, List.map_cons]
    rfl
  have hfit : (({ d with token := t } : Driver).headers.all fun h => Http.isHeaderText h.2)
      = ({ d with token := t' } : Driver).headers.all fun h => Http.isHeaderText h.2 := by
    simp only [headers, List.all_cons, fit]
  cases q with
  | submit spec => exact ⟨rfl, Request.redact_bind _ id _ _ hstrike hfit, rfl, rfl⟩
  | cancel job => exact ⟨rfl, Request.redact_bind _ id _ _ hstrike hfit, rfl, rfl⟩
  | list => exact ⟨rfl, Request.redact_bind _ id _ _ hstrike hfit, rfl, rfl⟩
  | status job => exact ⟨rfl, Request.redact_bind _ id _ _ hstrike hfit, rfl, rfl⟩

/-- **So do drivers for NERSC.** -/
theorem Nersc.Driver.alike (d : Driver) (q : Query) :
    Call.Alike tokenHeader ({ d with token := t }.service.call q)
      ({ d with token := t' }.service.call q) := by
  have hstrike : ({ d with token := t } : Driver).headers.map (Http.strike tokenHeader)
      = ({ d with token := t' } : Driver).headers.map (Http.strike tokenHeader) := by
    simp only [headers, List.map_cons]
    rfl
  have hbearer (s : String) : Http.isHeaderText ("Bearer " ++ s) = Http.isHeaderText s := by
    rw [Http.isHeaderText, String.toList_append, List.all_append]
    rfl
  have hfit : (({ d with token := t } : Driver).headers.all fun h => Http.isHeaderText h.2)
      = ({ d with token := t' } : Driver).headers.all fun h => Http.isHeaderText h.2 := by
    simp only [headers, List.all_cons, hbearer, fit]
  cases q with
  | submit spec => exact ⟨rfl, Request.redact_bind _ id _ _ hstrike hfit, rfl, rfl⟩
  | cancel job => exact ⟨rfl, Request.redact_bind _ id _ _ hstrike hfit, rfl, rfl⟩
  | list => exact ⟨rfl, Request.redact_bind _ (·.appendQuery _) _ _ hstrike hfit, rfl, rfl⟩
  | status job => exact ⟨rfl, Request.redact_bind _ id _ _ hstrike hfit, rfl, rfl⟩

end Tokens

/-! ### Services that cannot be told apart -/

/-- That two services cannot be told apart by their users, nor, but for the values of a
header, by those who see their requests: not by one query, and not by the actions on a
handle, whatever the networks bring that they start from. -/
structure Http.Service.Indistinct (name : String) (service service' : Service) : Prop where
  /-- Every query has the same answer, with what is reported on the way. -/
  answers : ∀ (q : Query) (net : Network),
    (service.backend.answer q net).1 = (service'.backend.answer q net).1
      ∧ (service.backend.answer q net).2.redact name
        = (service'.backend.answer q net).2.redact name
  /-- Every action on a handle makes the same request, shows the same and tells the same. -/
  sights : ∀ (job : Job) (net : Network) (actions : List Action),
    (Situation.sights service ⟨job, net⟩ actions).map (Situation.Sight.redact name)
      = (Situation.sights service' ⟨job, net⟩ actions).map (Situation.Sight.redact name)
  handles : ∀ (job : Job) (net : Network) (actions : List Action),
    (Situation.reach service.backend ⟨job, net⟩ actions).job
      = (Situation.reach service'.backend ⟨job, net⟩ actions).job
  /-- What was sent over the network is the same. -/
  networks : ∀ (job : Job) (net : Network) (actions : List Action),
    (Situation.reach service.backend ⟨job, net⟩ actions).world.redact name
      = (Situation.reach service'.backend ⟨job, net⟩ actions).world.redact name

theorem Http.Service.indistinct {name : String} {service service' : Service}
    (alike : ∀ q, (service.call q).Alike name (service'.call q)) :
    Indistinct name service service' where
  answers q _ := (alike q).run rfl
  sights job _ actions := (Situation.sights_alike alike actions job rfl).1
  handles job _ actions := (Situation.sights_alike alike actions job rfl).2.1
  networks job _ actions := (Situation.sights_alike alike actions job rfl).2.2

/-- That two services cannot be told apart, or cannot be made for the same reason. -/
inductive Http.Service.MadeIndistinct (name : String) :
    Except Error Service → Except Error Service → Prop
  | failed (e : Error) : MadeIndistinct name (.error e) (.error e)
  | made {service service' : Service} (same : Indistinct name service service') :
    MadeIndistinct name (.ok service) (.ok service')

/-- **A token shows in one header only.**  Whatever the settings are, two tokens that both
can stand in a header, or both cannot, make drivers that nobody can tell apart without
looking at that header of their requests. -/
theorem Http.Service.token_concealed (s : Settings) {t t' : String}
    (fit : isHeaderText t = isHeaderText t') :
    MadeIndistinct Slurm.tokenHeader
        ((Slurm.Driver.ofSettings { s with token := t }).map (·.service))
        ((Slurm.Driver.ofSettings { s with token := t' }).map (·.service))
      ∧ ∀ machine, MadeIndistinct Nersc.tokenHeader
          ((Nersc.Driver.ofSettings { s with token := t }).map ({ · with machine }.service))
          ((Nersc.Driver.ofSettings { s with token := t' }).map ({ · with machine }.service))
        ∧ (Nersc.Driver.ofSettings { s with token := t }).map ({ · with machine }.facilityStatus)
          = (Nersc.Driver.ofSettings { s with token := t' }).map
            ({ · with machine }.facilityStatus) := by
  refine ⟨?_, fun machine => ?_⟩
  · rw [Slurm.Driver.ofSettings_token, Slurm.Driver.ofSettings_token]
    cases Endpoint.ofSettings s Slurm.defaultUrl with
    | error e => exact .failed e
    | ok endpoint =>
      exact .made (indistinct (Slurm.Driver.alike fit ⟨endpoint, s.userName.getD "root", t⟩))
  · rw [Nersc.Driver.ofSettings_token, Nersc.Driver.ofSettings_token]
    cases Endpoint.ofSettings s Nersc.defaultUrl with
    | error e => exact ⟨.failed e, rfl⟩
    | ok endpoint =>
      -- how the facility is doing is asked without a token
      exact ⟨.made (indistinct (Nersc.Driver.alike fit ⟨endpoint, t, machine⟩)), rfl⟩

/-- Their drivers list jobs by different requests, and cannot be told apart otherwise. -/
theorem Http.Service.token_concealed_pair :
    isHeaderText "secret" = isHeaderText "word"
      ∧ Indistinct Slurm.tokenHeader
        (Slurm.Driver.service ⟨⟨"http://h"⟩, "root", "secret"⟩)
        (Slurm.Driver.service ⟨⟨"http://h"⟩, "root", "word"⟩)
      ∧ (Slurm.Driver.list ⟨⟨"http://h"⟩, "root", "secret"⟩).request
        ≠ (Slurm.Driver.list ⟨⟨"http://h"⟩, "root", "word"⟩).request := by
  have fit : isHeaderText "secret" = isHeaderText "word" := by decide
  have hplace : Endpoint.ofSettings { url := some "http://h/" } Slurm.defaultUrl
      = .ok ⟨"http://h"⟩ := by decide +kernel
  have concealed := (token_concealed { url := some "http://h/" } fit).1
  rw [Slurm.Driver.ofSettings_token, Slurm.Driver.ofSettings_token, hplace] at concealed
  refine ⟨fit, ?_, by decide +kernel⟩
  cases concealed with
  | made same => exact same

end RemoteBatch
