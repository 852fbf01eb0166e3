import Mathlib.Logic.Function.Basic
import DecisionPoint.Configuration.Override
import DecisionPoint.Proofs.Keyed
import DecisionPoint.Proofs.Successes
import DecisionPoint.Proofs.Text.Spans

/-!
# Fields and the texts of variables

Whatever section it stands in, each field has a key, and a configuration is what the keys hold.
What the text of a variable gives to a field is told for each kind of field without the steps of its
setter; and the setters put just that into a configuration.
-/

set_option autoImplicit false

namespace DecisionPoint

namespace Configuration

/-! ## A configuration as a table -/

inductive Kind where
  | text
  | texts
  | word
  | shortWord
  | flag
  | format
  | address
deriving DecidableEq, Repr

def Kind.Value : Kind → Type
  | text => String
  | texts => List String
  | word => UInt64
  | shortWord => UInt32
  | flag => Bool
  | format => LogFormat
  | address => Option String

inductive Key where
  | serviceName
  | entityId
  | httpAddress
  | adminAddress
  | shutdownTimeout
  | requestTimeout
  | pointTimeout
  | policySetId
  | administrationPoints
  | retentionInterval
  | fetchTimeout
  | startupRetries
  | startupBackoff
  | maxRequests
  | maxQueueSize
  | unboundedQueue
  | loggingEnabled
  | level
  | format
  | includeLocation
  | metricsEnabled
  | metricsAddress
deriving DecidableEq, Repr

namespace Key

def kind : Key → Kind
  | serviceName | entityId | httpAddress | adminAddress | policySetId | level => .text
  | administrationPoints => .texts
  | shutdownTimeout | requestTimeout | pointTimeout | retentionInterval | fetchTimeout
  | startupBackoff | maxRequests | maxQueueSize => .word
  | startupRetries => .shortWord
  | unboundedQueue | loggingEnabled | includeLocation | metricsEnabled => .flag
  | format => .format
  | metricsAddress => .address

def Value (key : Key) : Type :=
  key.kind.Value

end Key

def value (configuration : Configuration) : (key : Key) → key.Value
  | .serviceName => configuration.service.serviceName
  | .entityId => configuration.service.entityId
  | .httpAddress => configuration.service.httpAddress
  | .adminAddress => configuration.service.adminAddress
  | .shutdownTimeout => configuration.service.shutdownTimeoutSecs
  | .requestTimeout => configuration.service.requestTimeoutMillis
  | .pointTimeout => configuration.service.pointTimeoutMillis
  | .policySetId => configuration.policy.policySetId
  | .administrationPoints => configuration.policy.administrationPoints
  | .retentionInterval => configuration.policy.retentionIntervalMins
  | .fetchTimeout => configuration.policy.fetchTimeoutMillis
  | .startupRetries => configuration.policy.startupRetries
  | .startupBackoff => configuration.policy.startupBackoffMillis
  | .maxRequests => configuration.admission.maxRequests
  | .maxQueueSize => configuration.admission.maxQueueSize
  | .unboundedQueue => configuration.admission.unboundedQueue
  | .loggingEnabled => configuration.telemetry.logging.enabled
  | .level => configuration.telemetry.logging.level
  | .format => configuration.telemetry.logging.format
  | .includeLocation => configuration.telemetry.logging.includeLocation
  | .metricsEnabled => configuration.telemetry.metrics.enabled
  | .metricsAddress => configuration.telemetry.metrics.address

def ofValues (values : (key : Key) → key.Value) : Configuration where
  service :=
    ⟨values .serviceName, values .entityId, values .httpAddress, values .adminAddress,
      values .shutdownTimeout, values .requestTimeout, values .pointTimeout⟩
  policy :=
    ⟨values .policySetId, values .administrationPoints, values .retentionInterval,
      values .fetchTimeout, values .startupRetries, values .startupBackoff⟩
  admission := ⟨values .maxRequests, values .maxQueueSize, values .unboundedQueue⟩
  telemetry :=
    ⟨⟨values .loggingEnabled, values .level, values .format, values .includeLocation⟩,
      ⟨values .metricsEnabled, values .metricsAddress⟩⟩

theorem ofValues_value (configuration : Configuration) :
    ofValues configuration.value = configuration := rfl

theorem value_ofValues (values : (key : Key) → key.Value) (key : Key) :
    (ofValues values).value key = values key := by
  cases key <;> rfl

theorem ext_value {first second : Configuration}
    (same : ∀ key, first.value key = second.value key) : first = second := by
  calc first = ofValues first.value := (ofValues_value first).symm
    _ = ofValues second.value := congrArg ofValues (funext same)
    _ = second := ofValues_value second

def put (configuration : Configuration) (key : Key) (held : key.Value) : Configuration :=
  ofValues (Function.update configuration.value key held)

theorem value_put_self (configuration : Configuration) (key : Key) (held : key.Value) :
    (configuration.put key held).value key = held := by
  rw [put, value_ofValues, Function.update_self]

theorem value_put_of_ne (configuration : Configuration) {key other : Key} (different : other ≠ key)
    (held : key.Value) : (configuration.put key held).value other = configuration.value other := by
  rw [put, value_ofValues, Function.update_of_ne different]

/-! ## Texts and values -/

/-- A natural number below `2 ^ bits`, perhaps with blanks around it and a plus sign before it. -/
def IsNumber (bits : Nat) (text : String) (number : Nat) : Prop :=
  ∃ before sign digits after : List Char,
    text.toList = before ++ (sign ++ digits) ++ after ∧
      (∀ c ∈ before ++ after, Text.isBlank c = true) ∧ (sign = [] ∨ sign = ['+']) ∧
      digits ≠ [] ∧ (∀ c ∈ digits, c.isDigit = true) ∧
      Nat.ofDigitChars 10 digits 0 = number ∧ number < Nat.pow 2 bits

/-- A truth value in one of several words, in any case. -/
def IsFlag (text : String) (flag : Bool) : Prop :=
  Text.lowercase text ∈
    if flag then ["true", "1", "yes", "on"] else ["false", "0", "no", "off"]

instance (text : String) (flag : Bool) : Decidable (IsFlag text flag) :=
  inferInstanceAs (Decidable (_ ∈ _))

/-- The pieces between commas, trimmed, without those of which nothing is left. -/
def IsListed (text : String) (items : List String) : Prop :=
  ∃ pieces : List (List Char), pieces ≠ [] ∧ (∀ piece ∈ pieces, ',' ∉ piece) ∧
    text.toList = [','].intercalate pieces ∧
    items = ((pieces.map Text.trim).filter (· ≠ [])).map String.ofList

/-- What the text of a variable gives to a field. -/
def Kind.Takes : (kind : Kind) → String → kind.Value → Prop
  | text, given, held => held = given
  | texts, given, held => IsListed given held
  | word, given, held => IsNumber 64 given (UInt64.toNat held)
  | shortWord, given, held => IsNumber 32 given (UInt32.toNat held)
  | flag, given, held => IsFlag given held
  | format, given, held => Text.lowercase given = LogFormat.name held
  | address, given, held => held = if given = "" then none else some given

def Key.Takes (key : Key) (text : String) (held : key.Value) : Prop :=
  key.kind.Takes text held

end Configuration

/-! ## Setters -/

namespace Setter

open DecisionPoint.Configuration

/-- A setter puts a value that its text gives into a configuration, and it takes all texts that give
a value. -/
def Puts {β : Type} (setter : Setter) (takes : String → β → Prop)
    (set : Configuration → β → Configuration) : Prop :=
  ∀ given configuration configuration', setter given configuration = .ok configuration' ↔
    ∃ held, takes given held ∧ set configuration held = configuration'

theorem text_puts {β : Type} {takes : String → β → Prop} {set : Configuration → β → Configuration}
    {setter : Setter} (value : String → β)
    (only : ∀ given held, takes given held ↔ held = value given)
    (same : setter = text fun configuration given => set configuration (value given)) :
    setter.Puts takes set := by
  intro given configuration configuration'
  simp [same, text, only]

theorem natural?_eq_some_iff {digits : List Char} {number : Nat} :
    natural? digits = some number ↔
      digits ≠ [] ∧ (∀ c ∈ digits, c.isDigit = true) ∧ Nat.ofDigitChars 10 digits 0 = number := by
  have same : digits.foldl (fun n c => 10 * n + (c.toNat - 48)) 0 = Nat.ofDigitChars 10 digits 0 :=
    rfl
  unfold natural?
  rw [same]
  split
  · next refused =>
      simp only [Bool.or_eq_true, List.isEmpty_iff, Bool.not_eq_true', List.all_eq_false] at refused
      constructor
      · nofun
      · rintro ⟨present, all, -⟩
        rcases refused with nothing | ⟨c, mem, other⟩
        · exact absurd nothing present
        · exact absurd (all c mem) other
  · next taken =>
      simp only [Bool.or_eq_true, List.isEmpty_iff, Bool.not_eq_true', not_or,
        Bool.not_eq_false, List.all_eq_true] at taken
      obtain ⟨present, all⟩ := taken
      constructor
      · intro read
        exact ⟨present, all, Option.some.inj read⟩
      · rintro ⟨-, -, rfl⟩
        rfl

def digitsOf (cs : List Char) : List Char :=
  match Text.trim cs with
  | '+' :: rest => rest
  | cs => cs

theorem isNumber_iff {bits number : Nat} {given : String} :
    IsNumber bits given number ↔
      natural? (digitsOf given.toList) = some number ∧ number < Nat.pow 2 bits := by
  rw [natural?_eq_some_iff]
  constructor
  · rintro ⟨before, sign, digits, after, split, blank, signed, present, allDigits, value, small⟩
    have black : ∀ c ∈ sign ++ digits, Text.isBlank c = false := by
      intro c mem
      rcases List.mem_append.mp mem with mem | mem
      · rcases signed with rfl | rfl
        · cases mem
        · cases List.mem_singleton.mp mem
          decide
      · exact Text.isBlank_digit (allDigits c mem)
    have trimmed : Text.trim given.toList = sign ++ digits := by
      rw [split]
      exact Text.trim_core (List.append_ne_nil_of_right_ne_nil _ present) black blank
    have read : digitsOf given.toList = digits := by
      unfold digitsOf
      rw [trimmed]
      rcases signed with rfl | rfl
      · rw [List.nil_append]
        split
        · next rest =>
            have plus := allDigits '+' List.mem_cons_self
            exact absurd plus (by decide)
        · rfl
      · rfl
    rw [read]
    exact ⟨⟨present, allDigits, value⟩, small⟩
  · rintro ⟨⟨present, allDigits, value⟩, small⟩
    obtain ⟨before, after, split, blank⟩ := Text.exists_trim given.toList
    obtain ⟨sign, signed, trimmed⟩ : ∃ sign, (sign = [] ∨ sign = ['+']) ∧
        Text.trim given.toList = sign ++ digitsOf given.toList := by
      unfold digitsOf
      split
      · next rest begins => exact ⟨['+'], .inr rfl, begins⟩
      · exact ⟨[], .inl rfl, rfl⟩
    rw [trimmed] at split
    exact ⟨before, sign, _, after, split, blank, signed, present, allDigits, value, small⟩

theorem number_eq (bits : Nat) (set : Configuration → Nat → Configuration) (given : String)
    (configuration : Configuration) :
    number bits set given configuration =
      match natural? (digitsOf given.toList) with
      | some n => if n < Nat.pow 2 bits then .ok (set configuration n)
        else .error "expected integer"
      | none => .error "expected integer" :=
  rfl

theorem number_puts {β : Type} {set : Configuration → β → Configuration} (bits : Nat)
    {number : β → Nat} {ofNumber : Nat → β} (back : ∀ held, ofNumber (number held) = held)
    (kept : ∀ n, n < Nat.pow 2 bits → number (ofNumber n) = n) :
    (Setter.number bits fun configuration n => set configuration (ofNumber n)).Puts
      (fun given held => IsNumber bits given (number held)) set := by
  intro given configuration configuration'
  simp only [isNumber_iff]
  rw [number_eq]
  cases read : natural? (digitsOf given.toList) with
  | none => simp
  | some n =>
      dsimp only
      split
      · next small =>
          constructor
          · intro put
            refine ⟨ofNumber n, ?_, Except.ok.inj put⟩
            rw [kept n small]
            exact ⟨rfl, small⟩
          · rintro ⟨held, ⟨same, -⟩, rfl⟩
            rw [Option.some.inj same, back]
      · next large =>
          constructor
          · intro put
            cases put
          · rintro ⟨held, ⟨same, small⟩, -⟩
            exact absurd (Option.some.inj same ▸ small) large

theorem word_puts {set : Configuration → UInt64 → Configuration} {setter : Setter}
    (same : setter = number 64 fun configuration n => set configuration (.ofNat n)) :
    setter.Puts (fun given held => IsNumber 64 given held.toNat) set :=
  same ▸ number_puts 64 (fun _ => UInt64.ofNat_toNat) fun _ small => UInt64.toNat_ofNat_of_lt small

theorem shortWord_puts {set : Configuration → UInt32 → Configuration} {setter : Setter}
    (same : setter = number 32 fun configuration n => set configuration (.ofNat n)) :
    setter.Puts (fun given held => IsNumber 32 given held.toNat) set :=
  same ▸ number_puts 32 (fun _ => UInt32.ofNat_toNat) fun _ small => UInt32.toNat_ofNat_of_lt small

theorem flag_puts {set : Configuration → Bool → Configuration} {setter : Setter}
    (same : setter = flag set) : setter.Puts IsFlag set := by
  have words (word : String) (held : Bool) : flagWords.lookup word = some held ↔
      word ∈ if held then ["true", "1", "yes", "on"] else ["false", "0", "no", "off"] := by
    rw [lookup_eq_some_iff_mem (by decide)]
    cases held <;> simp [flagWords]
  intro given configuration configuration'
  simp only [same, IsFlag, ← words, flag]
  cases flagWords.lookup (Text.lowercase given) <;> simp

theorem format_puts {set : Configuration → LogFormat → Configuration} {setter : Setter}
    (same : setter = format set) :
    setter.Puts (fun given held => Text.lowercase given = held.name) set := by
  have names (word : String) (held : LogFormat) :
      LogFormat.choices.lookup word = some held ↔ word = held.name := by
    rw [lookup_eq_some_iff_mem (by decide)]
    cases held <;> simp [LogFormat.choices, LogFormat.name]
  intro given configuration configuration'
  simp only [same, ← names, format]
  cases LogFormat.choices.lookup (Text.lowercase given) <;> simp

theorem mark_not_mem_splitOn (mark : Char) (cs : List Char) :
    ∀ piece ∈ cs.splitOn mark, mark ∉ piece := by
  induction cs with
  | nil => simp
  | cons c rest ih =>
      rw [List.splitOn_cons_eq_if_modifyHead]
      split
      · exact List.forall_mem_cons.mpr ⟨List.not_mem_nil, ih⟩
      · next other =>
          have different : mark ≠ c := by
            rintro rfl
            exact other (beq_self_eq_true mark)
          cases pieces : rest.splitOn mark with
          | nil => nofun
          | cons piece pieces' =>
              rw [pieces, List.forall_mem_cons] at ih
              rw [List.modifyHead_cons, List.forall_mem_cons]
              exact ⟨List.not_mem_cons_of_ne_of_not_mem different ih.1, ih.2⟩

theorem isListed_iff {given : String} {items : List String} :
    IsListed given items ↔
      items = (((given.toList.splitOn ',').map Text.trim).filter (· ≠ [])).map String.ofList := by
  constructor
  · rintro ⟨pieces, present, unmarked, split, rfl⟩
    rw [split, List.splitOn_intercalate ',' unmarked present]
  · rintro rfl
    exact ⟨given.toList.splitOn ',', List.splitOn_ne_nil _ _, mark_not_mem_splitOn ',' _,
      (List.intercalate_splitOn ',').symm, rfl⟩

theorem list_puts {set : Configuration → List String → Configuration} {setter : Setter}
    (same : setter = list set) : setter.Puts IsListed set := by
  intro given configuration configuration'
  have present : (fun part : List Char => !part.isEmpty) = fun part => decide (part ≠ []) := by
    funext part
    cases part <;> rfl
  simp only [same, isListed_iff, list, present, exists_eq_left, Except.ok.injEq]

end Setter

end DecisionPoint
