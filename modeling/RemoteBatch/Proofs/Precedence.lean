import RemoteBatch.CommandLine.Program

/-!
# Flags before variables

Each connection flag stands for a variable of the environment and replaces the setting that
the variable gives.  The variables are read and checked as a whole before any flag is
applied, though: a variable whose flag is given no longer counts for the settings, and still
counts for whether there are settings at all.

## Main definitions

* `Settings.described` — the settings that variables describe, when nothing is wrong.
* `Settings.variablesFault?` — the first thing wrong with variables.
* `CommandLine.Flags.replaces` — whether the flag of a variable is given.
* `CommandLine.DifferOnlyIn` — that two environments differ in such variables at most.

## Main results

* `Settings.ofVariables_eq` — **variables give what they describe, or their first fault.**
* `CommandLine.overlay_described` — flags hide the variables that they replace.
* `CommandLine.settingsOf_eq_iff` — when two environments give the same under flags.
-/

namespace RemoteBatch

namespace Settings

/-! ### What variables say -/

variable (find : String → Option String)

/-- The settings that variables describe; one that cannot be read is passed over. -/
def described : Settings :=
  { url := (find "BATCHBRIDGE_URL").bind nonempty
    token := (find "BATCHBRIDGE_TOKEN").getD ""
    verifyTls := ((find "BATCHBRIDGE_VERIFY_TLS").bind truth?).getD true
    userName := (find "BATCHBRIDGE_USER_NAME").bind nonempty
    timeout := .ofSeconds (((find "BATCHBRIDGE_TIMEOUT").bind seconds?).getD 30) }

/-- The fault of a variable that cannot be read. -/
def unreadable? (read : String → Option α) (fault : String → Fault) : Option String → Option Fault
  | none => none
  | some raw => if (read raw).isNone then some (fault raw) else none

/-- The first thing wrong with variables, if anything: the two that have a form come first,
and then the settings that they describe with the others. -/
def variablesFault? : Option Fault :=
  (unreadable? truth? .notBoolean (find "BATCHBRIDGE_VERIFY_TLS")).or
    ((unreadable? seconds? .notSeconds (find "BATCHBRIDGE_TIMEOUT")).or (described find).fault?)

/-- A value, unless there is a fault. -/
def orFault (fault? : Option Fault) (a : α) : Except Error α :=
  match fault? with
  | some f => .error f.error
  | none => .ok a

theorem readVerifyTls_eq (raw? : Option String) : readVerifyTls raw?
    = orFault (unreadable? truth? .notBoolean raw?) ((raw?.bind truth?).getD true) := by
  cases raw? with
  | none => rfl
  | some raw =>
    unfold readVerifyTls unreadable?
    dsimp only [Option.bind_some]
    cases truth? raw <;> rfl

theorem readTimeout_eq (raw? : Option String) : readTimeout raw?
    = orFault (unreadable? seconds? .notSeconds raw?)
        (.ofSeconds ((raw?.bind seconds?).getD 30)) := by
  cases raw? with
  | none => rfl
  | some raw =>
    unfold readTimeout unreadable?
    dsimp only [Option.bind_some]
    cases seconds? raw <;> rfl

/-- **Variables give the settings that they describe, or their first fault.** -/
theorem ofVariables_eq : ofVariables find = orFault (variablesFault? find) (described find) := by
  rw [ofVariables, readVerifyTls_eq, readTimeout_eq, variablesFault?]
  cases unreadable? truth? .notBoolean (find "BATCHBRIDGE_VERIFY_TLS") with
  | some f => rfl
  | none =>
    cases unreadable? seconds? .notSeconds (find "BATCHBRIDGE_TIMEOUT") with
    | some f => rfl
    | none =>
      show ((described find).validate >>= fun _ => pure (described find)) = _
      rw [validate]
      cases (described find).fault? <;> rfl

/-- The letter of its wording that tells a kind of fault from the others. -/
def Fault.mark : Fault → Char
  | notBoolean _ => 'V'
  | notSeconds _ => 'T'
  | badScheme _ => 't'
  | zeroTimeout => ' '

theorem getElem?_toList_append {s : String} {n : Nat} {c : Char} (h : s.toList[n]? = some c)
    (t : String) : (s ++ t).toList[n]? = some c := by
  obtain ⟨hn, -⟩ := List.getElem?_eq_some_iff.mp h
  rw [String.toList_append, List.getElem?_append_left hn, h]

/-- It stands where the names of the two variables part. -/
theorem Fault.getElem?_message (f : Fault) : f.message.toList[12]? = some f.mark := by
  cases f with
  | notBoolean raw => exact getElem?_toList_append (c := 'V') (by decide) raw
  | notSeconds raw => exact getElem?_toList_append (c := 'T') (by decide) raw
  | badScheme url => exact getElem?_toList_append (c := 't') (by decide) url
  | zeroTimeout => decide

/-- Different faults have different wordings. -/
theorem Fault.message_injective {f g : Fault} (h : f.message = g.message) : f = g := by
  have hmark : f.mark = g.mark := by
    have hletter := f.getElem?_message
    rw [h, g.getElem?_message] at hletter
    exact (Option.some.inj hletter).symm
  cases f with
  | notBoolean raw =>
    cases g with
    | notBoolean raw' => exact congrArg _ ((String.append_right_inj _).mp h)
    | _ => simp [mark] at hmark
  | notSeconds raw =>
    cases g with
    | notSeconds raw' => exact congrArg _ ((String.append_right_inj _).mp h)
    | _ => simp [mark] at hmark
  | badScheme url =>
    cases g with
    | badScheme url' => exact congrArg _ ((String.append_right_inj _).mp h)
    | _ => simp [mark] at hmark
  | zeroTimeout =>
    cases g with
    | zeroTimeout => rfl
    | _ => simp [mark] at hmark

theorem Fault.error_injective {f g : Fault} (h : f.error.message = g.error.message) : f = g := by
  exact message_injective ((String.append_right_inj _).mp h)

end Settings

namespace CommandLine

open Settings (described variablesFault? orFault)

/-- Whether the flag of a variable is given. -/
def Flags.replaces (flags : Flags) : String → Bool
  | "BATCHBRIDGE_URL" => flags.url.isSome
  | "BATCHBRIDGE_TOKEN" => flags.token.isSome
  | "BATCHBRIDGE_USER_NAME" => flags.userName.isSome
  | "BATCHBRIDGE_TIMEOUT" => flags.timeout.isSome
  | "BATCHBRIDGE_VERIFY_TLS" => flags.insecure
  | _ => false

/-- That two environments differ at most in variables whose flags are given. -/
def DifferOnlyIn (flags : Flags) (env env' : String → Option String) : Prop :=
  ∀ name, flags.replaces name = false → env name = env' name

variable {flags : Flags} {env env' : String → Option String}

/-- **Flags hide the variables that they replace.** -/
theorem overlay_described (h : DifferOnlyIn flags env env') :
    flags.overlay (described env) = flags.overlay (described env') := by
  have hurl := h "BATCHBRIDGE_URL"
  have htoken := h "BATCHBRIDGE_TOKEN"
  have hname := h "BATCHBRIDGE_USER_NAME"
  have htimeout := h "BATCHBRIDGE_TIMEOUT"
  have htls := h "BATCHBRIDGE_VERIFY_TLS"
  obtain ⟨url, token, userName, insecure, timeout⟩ := flags
  simp only [Flags.replaces] at hurl htoken hname htimeout htls
  simp only [Flags.overlay, described, Settings.mk.injEq]
  refine ⟨?_, ?_, ?_, ?_, ?_⟩
  · cases url with
    | none => simp only [hurl rfl]
    | some url => rfl
  · cases token with
    | none => simp only [htoken rfl]
    | some token => rfl
  · cases insecure with
    | false => simp only [htls rfl]
    | true => rfl
  · cases userName with
    | none => simp only [hname rfl]
    | some name => rfl
  · cases timeout with
    | none => simp only [htimeout rfl]
    | some seconds => rfl

theorem settingsOf_of_fault {f : Settings.Fault} (h : variablesFault? env = some f)
    (flags : Flags) :
    settingsOf env flags = .error ["Invalid BATCHBRIDGE_* environment", f.error.message] := by
  rw [settingsOf, Settings.ofVariables_eq, h, orFault]

theorem settingsOf_of_sound (h : variablesFault? env = none) (flags : Flags) :
    settingsOf env flags = .ok (flags.overlay (described env)) := by
  rw [settingsOf, Settings.ofVariables_eq, h, orFault]

/-- **When two environments give the same under flags** that differ only in variables whose
flags are given: exactly if the same is wrong with both, or nothing with either.  Where only
the token and the user name are replaced, they always do. -/
theorem settingsOf_eq_iff (h : DifferOnlyIn flags env env') :
    (settingsOf env flags = settingsOf env' flags ↔ variablesFault? env = variablesFault? env')
      ∧ (flags.url = none → flags.timeout = none → flags.insecure = false →
        settingsOf env flags = settingsOf env' flags) := by
  have hiff : settingsOf env flags = settingsOf env' flags
      ↔ variablesFault? env = variablesFault? env' := by
    constructor
    · -- a fault is told, so that neither settings nor another fault give the same
      intro heq
      cases hfault : variablesFault? env with
      | none =>
        cases hfault' : variablesFault? env' with
        | none => rfl
        | some g =>
          rw [settingsOf_of_sound hfault, settingsOf_of_fault hfault'] at heq
          exact nomatch heq
      | some f =>
        cases hfault' : variablesFault? env' with
        | none =>
          rw [settingsOf_of_fault hfault, settingsOf_of_sound hfault'] at heq
          exact nomatch heq
        | some g =>
          rw [settingsOf_of_fault hfault, settingsOf_of_fault hfault'] at heq
          have hmessages := Except.error.inj heq
          rw [Settings.Fault.error_injective (List.cons.inj (List.cons.inj hmessages).2).1]
    · intro hsame
      cases hfault : variablesFault? env with
      | none =>
        rw [settingsOf_of_sound hfault, settingsOf_of_sound (hsame ▸ hfault), overlay_described h]
      | some f => rw [settingsOf_of_fault hfault, settingsOf_of_fault (hsame ▸ hfault)]
  refine ⟨hiff, fun hurl htimeout htls => hiff.mpr ?_⟩
  -- the variables that can be wrong are the same, since their flags are not given
  have hurl' := h "BATCHBRIDGE_URL" (by simp [Flags.replaces, hurl])
  have htimeout' := h "BATCHBRIDGE_TIMEOUT" (by simp [Flags.replaces, htimeout])
  have htls' := h "BATCHBRIDGE_VERIFY_TLS" (by simp [Flags.replaces, htls])
  simp only [variablesFault?, Settings.fault?, described, hurl', htimeout', htls']
  rfl

/-- The environment with some variables. -/
def environmentOf (entries : List (String × String)) (name : String) : Option String :=
  entries.lookup name

/-- Two environments that are sound give the same, whatever address and time they say. -/
theorem settingsOf_eq_iff_sound :
    DifferOnlyIn { url := some "http://h:6820", timeout := some 5 }
        (environmentOf [("BATCHBRIDGE_URL", "http://a"), ("BATCHBRIDGE_TIMEOUT", "7")])
        (environmentOf [])
      ∧ settingsOf
          (environmentOf [("BATCHBRIDGE_URL", "http://a"), ("BATCHBRIDGE_TIMEOUT", "7")])
          { url := some "http://h:6820", timeout := some 5 }
        = settingsOf (environmentOf []) { url := some "http://h:6820", timeout := some 5 } := by
  have h : DifferOnlyIn { url := some "http://h:6820", timeout := some 5 }
      (environmentOf [("BATCHBRIDGE_URL", "http://a"), ("BATCHBRIDGE_TIMEOUT", "7")])
      (environmentOf []) := by
    intro name hname
    by_cases hurl : name = "BATCHBRIDGE_URL"
    · exact absurd (hurl ▸ hname) (by decide)
    by_cases htimeout : name = "BATCHBRIDGE_TIMEOUT"
    · exact absurd (htimeout ▸ hname) (by decide)
    simp only [environmentOf, List.lookup_cons, beq_false_of_ne hurl, beq_false_of_ne htimeout]
  exact ⟨h, (settingsOf_eq_iff h).1.mpr (by decide +kernel)⟩

/-- **A variable that its flag does not override.**  An address in the environment that no
driver may use is refused, although a flag gives another one. -/
theorem replaced_address_refused :
    DifferOnlyIn { url := some "http://h:6820" }
        (environmentOf [("BATCHBRIDGE_URL", "ftp://x")]) (environmentOf [])
      ∧ settingsOf (environmentOf [("BATCHBRIDGE_URL", "ftp://x")])
          { url := some "http://h:6820" }
        = .error ["Invalid BATCHBRIDGE_* environment", "Invalid driver configuration: "
            ++ "base URL must start with http:// or https://: ftp://x"]
      ∧ settingsOf (environmentOf []) { url := some "http://h:6820" }
        = .ok { url := some "http://h:6820" } := by
  refine ⟨fun name hname => ?_, by decide +kernel, by decide +kernel⟩
  by_cases hurl : name = "BATCHBRIDGE_URL"
  · exact absurd (hurl ▸ hname) (by decide)
  · simp only [environmentOf, List.lookup_cons, beq_false_of_ne hurl]

end CommandLine

end RemoteBatch
