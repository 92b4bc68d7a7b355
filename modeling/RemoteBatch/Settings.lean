import RemoteBatch.Error
import RemoteBatch.Job.Duration
import RemoteBatch.Text.Ascii
import RemoteBatch.Text.Blank

/-!
# Connection settings

Where a driver finds its scheduler and how it identifies itself there.  Settings
come from named variables, and a driver accepts only settings that are valid.

## Main definitions

* `Settings` — the settings of one connection.
* `Settings.validate` — whether a driver may use them.
* `Settings.ofVariables` — the settings that variables describe.
* `Settings.baseUrl` — the base address, given the driver's own.
-/

namespace RemoteBatch

/-- The settings of one connection. -/
structure Settings where
  /-- The base address that replaces the driver's own. -/
  url : Option String := none
  token : String := ""
  /-- Whether to check the server's certificate. -/
  verifyTls : Bool := true
  /-- Who to appear as, where a scheduler wants to know. -/
  userName : Option String := none
  /-- How long one request may take. -/
  timeout : Duration := .ofSeconds 30
  deriving DecidableEq, Repr, Inhabited

namespace Settings

/-- What can be wrong with settings. -/
inductive Fault
  | notBoolean (raw : String)
  | notSeconds (raw : String)
  | badScheme (url : String)
  | zeroTimeout
  deriving DecidableEq, Repr

/-- The wording of a fault. -/
def Fault.message : Fault → String
  | notBoolean raw => "BATCHBRIDGE_VERIFY_TLS is not a boolean: " ++ raw
  | notSeconds raw => "BATCHBRIDGE_TIMEOUT is not a number of seconds: " ++ raw
  | badScheme url => "base URL must start with http:// or https://: " ++ url
  | zeroTimeout => "timeout must be greater than 0"

/-- A fault as an error of the call that needs the settings. -/
def Fault.error (f : Fault) : Error := .invalidConfig f.message

/-- Whether an address names one of the two protocols. -/
def hasScheme (url : String) : Bool :=
  "http://".toList.isPrefixOf url.toList || "https://".toList.isPrefixOf url.toList

/-- That an address begins with the name of one of the two protocols. -/
def NamesScheme (url : String) : Prop := ∃ rest, url = "http://" ++ rest ∨ url = "https://" ++ rest

theorem hasScheme_iff {url : String} : hasScheme url = true ↔ NamesScheme url := by
  rw [hasScheme, Bool.or_eq_true, List.isPrefixOf_iff_prefix, List.isPrefixOf_iff_prefix]
  have hstarts (scheme : String) :
      scheme.toList <+: url.toList ↔ ∃ rest, url = scheme ++ rest := by
    constructor
    · rintro ⟨rest, hrest⟩
      exact ⟨String.ofList rest, String.toList_inj.mp (by simp [← hrest])⟩
    · rintro ⟨rest, rfl⟩
      exact ⟨rest.toList, (String.toList_append ..).symm⟩
  rw [hstarts, hstarts, NamesScheme, exists_or]

/-- The first thing wrong with settings, if anything. -/
def fault? (s : Settings) : Option Fault :=
  match s.url.filter (!hasScheme ·) with
  | some url => some (.badScheme url)
  | none => if s.timeout.isZero then some .zeroTimeout else none

/-- Refuses settings that no driver may use. -/
def validate (s : Settings) : Except Error Unit :=
  match s.fault? with
  | some f => .error f.error
  | none => .ok ()

/-- Nothing is wrong with settings if their address, if any, names a protocol and their time
is not zero. -/
theorem fault?_eq_none_iff {s : Settings} : s.fault? = none
    ↔ (∀ url, s.url = some url → hasScheme url = true) ∧ s.timeout.isZero = false := by
  unfold fault?
  cases s.url with
  | none => simp
  | some url =>
    cases hscheme : hasScheme url with
    | true => simp [Option.filter, hscheme]
    | false => simp [Option.filter, hscheme]

theorem validate_eq_ok_iff {s : Settings} : s.validate = .ok () ↔ s.fault? = none := by
  unfold validate
  cases s.fault? with
  | none => simp
  | some f => simp

/-- The truth value that a text names. -/
def truth? (raw : String) : Option Bool :=
  let word := Text.foldCase (Text.trim raw)
  if word ∈ ["1", "true", "yes", "on"] then some true
  else if word ∈ ["0", "false", "no", "off"] then some false
  else none

/-- The number of seconds that a text names. -/
def seconds? (raw : String) : Option UInt64 :=
  (Decimal.below? UInt64.size (Text.trim raw)).map UInt64.ofNat

/-- A text, unless it is empty. -/
def nonempty (s : String) : Option String := if s.isEmpty then none else some s

/-- Whether certificates are checked. -/
def readVerifyTls : Option String → Except Error Bool
  | none => .ok true
  | some raw =>
    match truth? raw with
    | some b => .ok b
    | none => .error (Fault.notBoolean raw).error

/-- The time limit of a request. -/
def readTimeout : Option String → Except Error Duration
  | none => .ok (.ofSeconds 30)
  | some raw =>
    match seconds? raw with
    | some n => .ok (.ofSeconds n)
    | none => .error (Fault.notSeconds raw).error

/-- The valid settings that variables describe. -/
def ofVariables (find : String → Option String) : Except Error Settings := do
  let verifyTls ← readVerifyTls (find "BATCHBRIDGE_VERIFY_TLS")
  let timeout ← readTimeout (find "BATCHBRIDGE_TIMEOUT")
  let settings : Settings :=
    { url := (find "BATCHBRIDGE_URL").bind nonempty
      token := (find "BATCHBRIDGE_TOKEN").getD ""
      verifyTls
      userName := (find "BATCHBRIDGE_USER_NAME").bind nonempty
      timeout }
  settings.validate
  return settings

/-- A text without the slashes at its end. -/
def trimSlashes (s : String) : String :=
  String.ofList (s.toList.reverse.dropWhile (· == '/')).reverse

/-- The base address, without slashes at its end; `default` is the driver's own. -/
def baseUrl (s : Settings) (default : String) : String := trimSlashes (s.url.getD default)

end Settings

end RemoteBatch
