import RemoteBatch.Proofs.Following
import RemoteBatch.Proofs.Precedence
import RemoteBatch.Proofs.Registrations
import RemoteBatch.Proofs.Spelling

/-!
# Which variables give settings

Settings are read from variables exactly if each variable that has a form is well formed:
a truth value is a spelling of one of eight words, a time is a positive number of digits
between blanks, and an address begins with one of two schemes.  Whatever is read is valid.
Flags are laid over it without a check, and may make it invalid again; but every driver
checks its settings when it is made, so that nothing is sent with settings that are not.

## Main definitions

* `Settings.NamesTruth`, `Settings.WritesNumber` — the texts of truth values and numbers.
* `Settings.WellFormed` — that variables are well formed.
* `Settings.Carries` — that settings are what variables say.

## Main results

* `Settings.ofVariables_eq_ok_iff` — **the settings that variables give.**
* `CommandLine.run_of_invalid` — invalid settings reach no scheduler.
* `CommandLine.settings_valid` — both, with what flags make of the settings.
-/

namespace RemoteBatch

/-! ### Numbers -/

namespace Decimal

theorem natural?_eq_some_iff {cs : List Char} {n : Nat} : natural? cs = some n
    ↔ cs ≠ [] ∧ (∀ c ∈ cs, c.isDigit = true) ∧ Nat.ofDigitChars 10 cs 0 = n := by
  unfold natural?
  split
  · next h =>
    refine iff_of_false nofun ?_
    rintro ⟨hne, hdigits, -⟩
    rcases Bool.or_eq_true_iff.mp h with hnil | hother
    · exact hne (List.isEmpty_iff.mp hnil)
    · rw [List.all_eq_true.mpr hdigits] at hother
      exact nomatch hother
  · next h =>
    rw [Bool.or_eq_true_iff, not_or, List.isEmpty_iff, Bool.not_eq_true', Bool.not_eq_false,
      List.all_eq_true] at h
    rw [Option.some.injEq]
    exact ⟨fun hn => ⟨h.1, h.2, hn⟩, fun hn => hn.2.2⟩

theorem dropPlus_of_forall {digits : List Char} (h : ∀ c ∈ digits, c.isDigit = true) :
    dropPlus digits = digits := by
  unfold dropPlus
  split
  · next cs => exact absurd (h '+' List.mem_cons_self) (by decide)
  · rfl

/-- What is left of a list without one plus sign. -/
theorem dropPlus_eq_iff {cs digits : List Char} (h : ∀ c ∈ digits, c.isDigit = true) :
    dropPlus cs = digits ↔ cs = digits ∨ cs = '+' :: digits := by
  constructor
  · rintro rfl
    unfold dropPlus
    split
    · exact .inr rfl
    · exact .inl rfl
  · rintro (rfl | rfl)
    · exact dropPlus_of_forall h
    · rfl

end Decimal

namespace Settings

open Text (Spells Surrounds Tight spells_iff)

/-! ### The texts of values -/

/-- The words for a truth value. -/
def truthWords : Bool → List String
  | true => ["1", "true", "yes", "on"]
  | false => ["0", "false", "no", "off"]

/-- That a text names a truth value: it is a spelling of one of the words for that. -/
def NamesTruth (raw : String) (b : Bool) : Prop := ∃ word ∈ truthWords b, Spells raw word

/-- That a text writes a number: with digits, perhaps behind a plus sign, between blanks. -/
def WritesNumber (raw : String) (n : Nat) : Prop :=
  ∃ digits : List Char, digits ≠ [] ∧ (∀ c ∈ digits, c.isDigit = true)
    ∧ (Surrounds raw (String.ofList digits) ∨ Surrounds raw (String.ofList ('+' :: digits)))
    ∧ Nat.ofDigitChars 10 digits 0 = n

/-- The words are written small. -/
theorem foldCase_of_mem_truthWords {b : Bool} {word : String} (h : word ∈ truthWords b) :
    Text.foldCase word = word := by
  revert word
  cases b with
  | true => decide +kernel
  | false => decide +kernel

theorem namesTruth_iff {raw : String} {b : Bool} :
    NamesTruth raw b ↔ Text.foldCase (Text.trim raw) ∈ truthWords b := by
  constructor
  · rintro ⟨word, hword, spells⟩
    have hsame := eq_of_beq (spells_iff.mp spells)
    rw [foldCase_of_mem_truthWords hword] at hsame
    exact hsame ▸ hword
  · intro hmem
    refine ⟨_, hmem, spells_iff.mpr ?_⟩
    rw [Text.sameIgnoringCase, foldCase_of_mem_truthWords hmem]
    exact beq_self_eq_true _

theorem truth?_eq_some_iff {raw : String} {b : Bool} :
    truth? raw = some b ↔ NamesTruth raw b := by
  rw [namesTruth_iff]
  show (if Text.foldCase (Text.trim raw) ∈ truthWords true then some true
    else if Text.foldCase (Text.trim raw) ∈ truthWords false then some false else none) = _ ↔ _
  generalize Text.foldCase (Text.trim raw) = word
  by_cases htrue : word ∈ truthWords true
  · rw [if_pos htrue]
    cases b with
    | true => simp [htrue]
    | false =>
      -- no word stands for both
      have hfalse : word ∉ truthWords false := by
        revert word
        decide +kernel
      simp [hfalse]
  · rw [if_neg htrue]
    cases b with
    | true => simp [htrue]
    | false => simp

theorem tight_of_forall {cs : List Char} (h : ∀ c ∈ cs, Text.isBlank c = false) :
    Tight (String.ofList cs) := by
  rw [Tight, String.toList_ofList]
  exact ⟨fun c hc => h c (List.mem_of_mem_head? hc), fun c hc => h c (List.mem_of_getLast? hc)⟩

theorem seconds?_eq_some_iff {raw : String} {w : UInt64} :
    seconds? raw = some w ↔ WritesNumber raw w.toNat := by
  rw [seconds?, Option.map_eq_some_iff]
  constructor
  · rintro ⟨n, hbelow, rfl⟩
    have hlt := Decimal.below?_lt hbelow
    obtain ⟨hread, -⟩ := Option.filter_eq_some_iff.mp hbelow
    obtain ⟨hne, hdigits, hvalue⟩ := Decimal.natural?_eq_some_iff.mp hread
    refine ⟨_, hne, hdigits, ?_, ?_⟩
    · have surrounds := Text.surrounds_trim raw
      rcases (Decimal.dropPlus_eq_iff hdigits).mp rfl with hplain | hplus
      · left
        rwa [← hplain, String.ofList_toList]
      · right
        rwa [← hplus, String.ofList_toList]
    · rw [hvalue]
      exact (UInt64.toNat_ofNat_of_lt' hlt).symm
  · rintro ⟨digits, hne, hdigits, surrounds, hvalue⟩
    refine ⟨w.toNat, ?_, UInt64.ofNat_toNat⟩
    have hvisible : ∀ c ∈ digits, Text.isBlank c = false :=
      fun c hc => Text.isBlank_of_isDigit (hdigits c hc)
    have hcut : Decimal.dropPlus (Text.trim raw).toList = digits := by
      rw [Decimal.dropPlus_eq_iff hdigits]
      rcases surrounds with surrounds | surrounds
      · left
        rw [Text.trim_of_surrounds surrounds (tight_of_forall hvisible), String.toList_ofList]
      · right
        have htight : Tight (String.ofList ('+' :: digits)) := by
          apply tight_of_forall
          exact List.forall_mem_cons.mpr ⟨by decide, hvisible⟩
        rw [Text.trim_of_surrounds surrounds htight, String.toList_ofList]
    rw [Decimal.below?, hcut, Decimal.natural?_eq_some_iff.mpr ⟨hne, hdigits, hvalue⟩]
    exact Option.filter_eq_some_iff.mpr ⟨rfl, decide_eq_true w.toNat_lt_size⟩

/-! ### Variables -/

/-- That the variables are well formed that have a form. -/
structure WellFormed (find : String → Option String) : Prop where
  verifyTls : ∀ raw, find "BATCHBRIDGE_VERIFY_TLS" = some raw → ∃ b, NamesTruth raw b
  timeout : ∀ raw, find "BATCHBRIDGE_TIMEOUT" = some raw →
    ∃ n, WritesNumber raw n ∧ 1 ≤ n ∧ n < UInt64.size
  url : ∀ url, find "BATCHBRIDGE_URL" = some url → url = "" ∨ NamesScheme url

/-- That settings are what variables say, and as they are by default where these say
nothing. -/
structure Carries (find : String → Option String) (s : Settings) : Prop where
  /-- An empty address is none. -/
  url : s.url = (find "BATCHBRIDGE_URL").filter (· ≠ "")
  token : s.token = (find "BATCHBRIDGE_TOKEN").getD ""
  verifyTls : ∀ raw, find "BATCHBRIDGE_VERIFY_TLS" = some raw → NamesTruth raw s.verifyTls
  verifyTls_unset : find "BATCHBRIDGE_VERIFY_TLS" = none → s.verifyTls = true
  /-- An empty user name is none. -/
  userName : s.userName = (find "BATCHBRIDGE_USER_NAME").filter (· ≠ "")
  timeout : ∀ raw, find "BATCHBRIDGE_TIMEOUT" = some raw →
    WritesNumber raw s.timeout.seconds.toNat
  timeout_unset : find "BATCHBRIDGE_TIMEOUT" = none → s.timeout.seconds = 30
  whole : s.timeout.nanos = 0

variable {find : String → Option String} {s : Settings}

theorem unreadable?_eq_none_iff {read : String → Option α} {fault : String → Fault}
    {raw? : Option String} : unreadable? read fault raw? = none
      ↔ ∀ raw, raw? = some raw → ∃ a, read raw = some a := by
  cases raw? with
  | none => exact iff_of_true rfl nofun
  | some raw =>
    unfold unreadable?
    cases hread : read raw with
    | none => simp [hread]
    | some a => simp [hread]

theorem bind_nonempty (raw? : Option String) : raw?.bind nonempty = raw?.filter (· ≠ "") := by
  cases raw? with
  | none => rfl
  | some raw =>
    by_cases hraw : raw = ""
    · simp [nonempty, Option.filter, hraw]
    · simp [nonempty, Option.filter, hraw]

theorem isZero_ofSeconds {w : UInt64} : (Duration.ofSeconds w).isZero = false ↔ 1 ≤ w.toNat := by
  rw [Duration.isZero, Duration.ofSeconds, Bool.and_eq_false_iff]
  simp only [beq_self_eq_true, Bool.true_eq_false, or_false, beq_eq_false_iff_ne, ne_eq,
    ← UInt64.toNat_inj, UInt64.toNat_zero]
  omega

theorem url_described : (described find).url = (find "BATCHBRIDGE_URL").filter (· ≠ "") :=
  bind_nonempty _

theorem timeout_described {raw : String} (h : find "BATCHBRIDGE_TIMEOUT" = some raw) {w : UInt64}
    (hw : seconds? raw = some w) : (described find).timeout = .ofSeconds w := by
  rw [described, h, Option.bind_some, hw, Option.getD_some]

theorem timeout_described_of_unset (h : find "BATCHBRIDGE_TIMEOUT" = none) :
    (described find).timeout = .ofSeconds 30 := by
  rw [described, h, Option.bind_none, Option.getD_none]

/-- Nothing is wrong with variables exactly if they are well formed. -/
theorem variablesFault?_eq_none_iff : variablesFault? find = none ↔ WellFormed find := by
  rw [variablesFault?, Option.or_eq_none_iff, Option.or_eq_none_iff, unreadable?_eq_none_iff,
    unreadable?_eq_none_iff, fault?_eq_none_iff, url_described]
  simp only [truth?_eq_some_iff, hasScheme_iff]
  constructor
  · rintro ⟨htruth, hseconds, hurl, htime⟩
    refine ⟨htruth, ?_, ?_⟩
    · intro raw hraw
      obtain ⟨w, hw⟩ := hseconds raw hraw
      rw [timeout_described hraw hw, isZero_ofSeconds] at htime
      exact ⟨w.toNat, seconds?_eq_some_iff.mp hw, htime, w.toNat_lt_size⟩
    · intro url hfound
      by_cases hempty : url = ""
      · exact .inl hempty
      · exact .inr (hurl url (by simp [hfound, Option.filter, hempty]))
  · rintro ⟨verifyTls, timeout, url⟩
    have hread : ∀ raw, find "BATCHBRIDGE_TIMEOUT" = some raw →
        ∃ w, seconds? raw = some w ∧ 1 ≤ w.toNat := by
      intro raw hraw
      obtain ⟨n, hwrites, hpos, hlt⟩ := timeout raw hraw
      have hw : (UInt64.ofNat n).toNat = n := UInt64.toNat_ofNat_of_lt' hlt
      exact ⟨UInt64.ofNat n, seconds?_eq_some_iff.mpr (hw.symm ▸ hwrites), hw.symm ▸ hpos⟩
    refine ⟨verifyTls, ?_, ?_, ?_⟩
    · intro raw hraw
      obtain ⟨w, hw, -⟩ := hread raw hraw
      exact ⟨w, hw⟩
    · intro t ht
      obtain ⟨hfound, hne⟩ := Option.filter_eq_some_iff.mp ht
      exact (url t hfound).resolve_left (of_decide_eq_true hne)
    · cases hraw : find "BATCHBRIDGE_TIMEOUT" with
      | none =>
        rw [timeout_described_of_unset hraw]
        rfl
      | some raw =>
        obtain ⟨w, hw, hpos⟩ := hread raw hraw
        rw [timeout_described hraw hw, isZero_ofSeconds]
        exact hpos

/-- Well formed variables describe the settings that carry what they say, and no others. -/
theorem carries_iff (h : WellFormed find) : Carries find s ↔ s = described find := by
  have hfault := variablesFault?_eq_none_iff.mpr h
  rw [variablesFault?, Option.or_eq_none_iff, Option.or_eq_none_iff, unreadable?_eq_none_iff,
    unreadable?_eq_none_iff] at hfault
  obtain ⟨htruth, hseconds, -⟩ := hfault
  constructor
  · intro carries
    obtain ⟨url, token, verifyTls, userName, seconds, nanos⟩ := s
    obtain ⟨rfl, rfl, hverify, hunset, rfl, htime, huntimed, rfl⟩ := carries
    have hverifyTls : verifyTls = ((find "BATCHBRIDGE_VERIFY_TLS").bind truth?).getD true := by
      cases hraw : find "BATCHBRIDGE_VERIFY_TLS" with
      | none => exact hunset hraw
      | some raw => rw [Option.bind_some, truth?_eq_some_iff.mpr (hverify raw hraw)]; rfl
    have hseconds : seconds = ((find "BATCHBRIDGE_TIMEOUT").bind seconds?).getD 30 := by
      cases hraw : find "BATCHBRIDGE_TIMEOUT" with
      | none => exact huntimed hraw
      | some raw => rw [Option.bind_some, seconds?_eq_some_iff.mpr (htime raw hraw)]; rfl
    rw [described, bind_nonempty, bind_nonempty, ← hverifyTls, ← hseconds]
    rfl
  · rintro rfl
    refine ⟨url_described, rfl, ?_, ?_, bind_nonempty _, ?_, ?_, rfl⟩
    · intro raw hraw
      obtain ⟨b, hb⟩ := htruth raw hraw
      rw [← truth?_eq_some_iff, described, hraw, Option.bind_some, hb, Option.getD_some]
    · intro hraw
      rw [described, hraw, Option.bind_none, Option.getD_none]
    · intro raw hraw
      obtain ⟨w, hw⟩ := hseconds raw hraw
      rw [timeout_described hraw hw]
      exact seconds?_eq_some_iff.mp hw
    · intro hraw
      rw [timeout_described_of_unset hraw]
      rfl

/-- **The settings that variables give.** -/
theorem ofVariables_eq_ok_iff :
    ofVariables find = .ok s ↔ WellFormed find ∧ Carries find s := by
  rw [ofVariables_eq]
  cases hfault : variablesFault? find with
  | some f =>
    refine iff_of_false nofun ?_
    rintro ⟨formed, -⟩
    rw [variablesFault?_eq_none_iff.mpr formed] at hfault
    exact nomatch hfault
  | none =>
    have formed := variablesFault?_eq_none_iff.mp hfault
    rw [and_iff_right formed, carries_iff formed, orFault, Except.ok.injEq, eq_comm]

/-- Settings that are read are valid. -/
theorem validate_of_ofVariables (h : ofVariables find = .ok s) : s.validate = .ok () := by
  obtain ⟨formed, carries⟩ := ofVariables_eq_ok_iff.mp h
  have hfault := variablesFault?_eq_none_iff.mpr formed
  rw [variablesFault?, Option.or_eq_none_iff, Option.or_eq_none_iff] at hfault
  rw [(carries_iff formed).mp carries]
  exact validate_eq_ok_iff.mpr hfault.2.2

end Settings

/-! ### Invalid settings -/

theorem Slurm.Driver.validate_of_ofSettings {s : Settings} {d : Slurm.Driver}
    (h : Slurm.Driver.ofSettings s = .ok d) : s.validate = .ok () := by
  obtain ⟨e, he, -⟩ := exists_ok_of_bind h
  exact (Http.Endpoint.ofSettings_eq_ok_iff.mp he).1

theorem Nersc.Driver.validate_of_ofSettings {s : Settings} {d : Nersc.Driver}
    (h : Nersc.Driver.ofSettings s = .ok d) : s.validate = .ok () := by
  obtain ⟨e, he, -⟩ := exists_ok_of_bind h
  exact (Http.Endpoint.ofSettings_eq_ok_iff.mp he).1

/-- A driver that comes with the library is made from valid settings only. -/
theorem Registry.validate_of_create {name : String} {s : Settings} {service : Http.Service}
    (h : Registry.builtin.create name s = .ok service) : s.validate = .ok () := by
  rcases create_builtin_eq_ok_iff.mp h with ⟨-, d, hd, -⟩ | ⟨-, d, hd, -⟩
  · exact Slurm.Driver.validate_of_ofSettings hd
  · exact Nersc.Driver.validate_of_ofSettings hd

namespace CommandLine

open Http (Network)

/-- The program does not get past invalid settings. -/
theorem run_of_invalid {s : Surroundings} {i : Invocation} {settings : Settings}
    (h : settingsOf s.env? i.flags = .ok settings) (invalid : settings.validate ≠ .ok ())
    (net : Network) : (run s Registry.builtin i net).2 = net
      ∧ ((∀ states, i.command ≠ .drivers states) →
        (run s Registry.builtin i net).1.exitCode = 1) := by
  have unsound : configured? s Registry.builtin i = none := by
    rw [Option.eq_none_iff_forall_ne_some]
    intro service configured
    obtain ⟨settings', given, made⟩ := configured?_eq_some_iff.mp configured
    obtain rfl := Except.ok.inj (h.symm.trans given)
    exact invalid (Registry.validate_of_create made)
  by_cases needs : ∀ states, i.command ≠ .drivers states
  · obtain ⟨causes, hrun⟩ := run_of_unconfigured net needs unsound
    rw [hrun]
    exact ⟨rfl, fun _ => rfl⟩
  · refine ⟨?_, fun h => absurd h needs⟩
    obtain ⟨states, hdrivers⟩ := not_forall_not.mp needs
    simp only [run, h, hdrivers]

/-- **Which settings there are, and which of them are used.**  Variables give settings
exactly if they are well formed, and then those that carry what they say, which are valid.
From what flags make of them no driver is made unless it is valid as well: nothing is sent,
and every command that needs a driver fails. -/
theorem settings_valid (find : String → Option String) :
    ((∃ s, Settings.ofVariables find = .ok s) ↔ Settings.WellFormed find)
      ∧ (∀ s, Settings.ofVariables find = .ok s ↔
        Settings.WellFormed find ∧ Settings.Carries find s)
      ∧ (∀ s, Settings.ofVariables find = .ok s → s.validate = .ok ())
      ∧ ∀ flags settings, settingsOf find flags = .ok settings → settings.validate ≠ .ok () →
        (∀ d, Slurm.Driver.ofSettings settings ≠ .ok d)
          ∧ (∀ d, Nersc.Driver.ofSettings settings ≠ .ok d)
          ∧ (∀ name service, Registry.builtin.create name settings ≠ .ok service)
          ∧ ∀ s i net, s.env? = find → i.flags = flags →
            (run s Registry.builtin i net).2 = net
              ∧ ((∀ states, i.command ≠ .drivers states) →
                (run s Registry.builtin i net).1.exitCode = 1) := by
  refine ⟨?_, fun s => Settings.ofVariables_eq_ok_iff,
    fun s => Settings.validate_of_ofVariables, ?_⟩
  · constructor
    · rintro ⟨s, hs⟩
      exact (Settings.ofVariables_eq_ok_iff.mp hs).1
    · intro formed
      exact ⟨_, Settings.ofVariables_eq_ok_iff.mpr ⟨formed, (Settings.carries_iff formed).mpr rfl⟩⟩
  · intro flags settings hsettings invalid
    refine ⟨?_, ?_, ?_, ?_⟩
    · exact fun d hd => invalid (Slurm.Driver.validate_of_ofSettings hd)
    · exact fun d hd => invalid (Nersc.Driver.validate_of_ofSettings hd)
    · exact fun name service hmade => invalid (Registry.validate_of_create hmade)
    · rintro s i net rfl rfl
      exact run_of_invalid hsettings invalid net

/-- A time of zero that a flag gives is no setting that a driver is made from. -/
theorem settings_valid_timeless :
    settingsOf (fun _ => none) { timeout := some 0 } = .ok { timeout := .ofSeconds 0 }
      ∧ ({ timeout := .ofSeconds 0 } : Settings).validate ≠ .ok ()
      ∧ ∀ name service, Registry.builtin.create name { timeout := .ofSeconds 0 } ≠ .ok service := by
  have hsettings : settingsOf (fun _ => none) { timeout := some 0 }
      = .ok { timeout := .ofSeconds 0 } := by
    decide +kernel
  have invalid : ({ timeout := .ofSeconds 0 } : Settings).validate ≠ .ok () := by
    decide +kernel
  obtain ⟨-, -, -, hunused⟩ := settings_valid fun _ => none
  exact ⟨hsettings, invalid, (hunused _ _ hsettings invalid).2.2.1⟩

/-- In a variable it is refused at once, while blanks, a plus sign and zeros do no harm. -/
example :
    settingsOf (List.lookup · [("BATCHBRIDGE_TIMEOUT", "0")]) {}
        = .error ["Invalid BATCHBRIDGE_* environment", Settings.Fault.zeroTimeout.error.message]
      ∧ settingsOf (List.lookup · [("BATCHBRIDGE_TIMEOUT", "\u2003+007\n"),
          ("BATCHBRIDGE_VERIFY_TLS", " Off"), ("BATCHBRIDGE_URL", "")]) {}
        = .ok { verifyTls := false, timeout := .ofSeconds 7 } := by
  decide +kernel

end CommandLine

end RemoteBatch
