import DecisionPoint.Audit
import DecisionPoint.Proofs.Evaluation.FailClosed
import DecisionPoint.Proofs.Http.Codec

/-!
# Audit lines

The fields of an audit line stand between bars as they are.  Those that the service writes itself,
the time, the decision and the response identifier, are made of letters, digits and hyphens.  The
other four come from the request and from the policy, and a line can be told apart into its fields
exactly when no bar stands in these.
-/

set_option autoImplicit false

namespace DecisionPoint

def isOrdinary (c : Char) : Bool :=
  c.isAlphanum || c == '-'

/-- A text in which nothing but ordinary characters stands. -/
def Ordinary (text : List Char) : Prop :=
  ∀ c ∈ text, isOrdinary c = true

instance (text : List Char) : Decidable (Ordinary text) :=
  List.decidableBAll (fun c => isOrdinary c = true) text

theorem Ordinary.append {left right : List Char} (first : Ordinary left) (second : Ordinary right) :
    Ordinary (left ++ right) := by
  intro c member
  rcases List.mem_append.mp member with member | member
  · exact first c member
  · exact second c member

theorem Ordinary.count {text : List Char} (ordinary : Ordinary text) {mark : Char}
    (marks : isOrdinary mark = false) : text.count mark = 0 := by
  apply List.count_eq_zero.mpr
  intro member
  rw [ordinary mark member] at marks
  cases marks

/-- None of some marks stands in a text. -/
def FreeOf (marks text : List Char) : Prop :=
  ∀ mark ∈ marks, mark ∉ text

instance (marks text : List Char) : Decidable (FreeOf marks text) :=
  List.decidableBAll (fun mark => mark ∉ text) marks

/-! ## What the service writes itself -/

theorem ordinary_digits (n : Nat) : Ordinary (Nat.toDigits 10 n) := by
  intro c member
  have digit := Nat.isDigit_of_mem_toDigits (by decide) (by decide) member
  simp [isOrdinary, Char.isAlphanum, digit]

theorem ordinary_int (value : Int) : Ordinary (toString value).toList := by
  cases value with
  | ofNat n =>
      change Ordinary n.repr.toList
      rw [Nat.toList_repr]
      exact ordinary_digits n
  | negSucc n =>
      change Ordinary ("-" ++ (n + 1).repr).toList
      rw [String.toList_append, Nat.toList_repr]
      exact .append (by decide) (ordinary_digits (n + 1))

theorem ordinary_hexDigits (width n : Nat) : Ordinary (Text.hexDigits width n) := by
  have table : ∀ digit : Fin 16, isOrdinary (Text.hexDigit digit.val) = true := by decide
  induction width generalizing n with
  | zero => exact nofun
  | succ width ih =>
      refine .append (ih (n / 16)) ?_
      intro c member
      rw [List.mem_singleton.mp member]
      exact table ⟨n % 16, Nat.mod_lt n (by decide)⟩

theorem Ordinary.hyphenated {digits : List Char} (ordinary : Ordinary digits) :
    Ordinary (hyphenated digits) := by
  intro c member
  simp only [DecisionPoint.hyphenated, List.mem_append, List.mem_cons] at member
  rcases member with (((taken | rfl | taken) | rfl | taken) | rfl | taken) | rfl | dropped
  · exact ordinary c (List.mem_of_mem_take taken)
  · rfl
  · exact ordinary c (List.mem_of_mem_drop (List.mem_of_mem_take taken))
  · rfl
  · exact ordinary c (List.mem_of_mem_drop (List.mem_of_mem_take taken))
  · rfl
  · exact ordinary c (List.mem_of_mem_drop (List.mem_of_mem_take taken))
  · rfl
  · exact ordinary c (List.mem_of_mem_drop dropped)

theorem ordinary_freshIdentifier (millis serial : Nat) :
    Ordinary (freshIdentifier millis serial).toList := by
  rw [freshIdentifier, String.toList_ofList]
  exact (ordinary_hexDigits 32 _).hyphenated

theorem Decision.ordinary_name (decision : Decision) : Ordinary decision.name.toList := by
  cases decision <;> decide

/-! ## Lines -/

/-- The text of columns, each of which is followed by a bar. -/
def barred (columns : List String) : List Char :=
  columns.flatMap fun column => column.toList ++ ['|']

theorem count_barred (columns : List String) (mark : Char) :
    (barred columns).count mark =
      (columns.flatMap String.toList).count mark + if mark = '|' then columns.length else 0 := by
  induction columns with
  | nil => simp [barred]
  | cons column rest ih =>
      rw [barred, List.flatMap_cons, ← barred, List.flatMap_cons, List.count_append,
        List.count_append, List.count_append, ih, List.length_cons, List.count_singleton]
      by_cases bar : mark = '|'
      · subst bar
        simp only [if_true, beq_self_eq_true]
        omega
      · simp [bar, Ne.symm bar]

theorem length_splitOn (text : List Char) (mark : Char) :
    (text.splitOn mark).length = text.count mark + 1 := by
  induction text with
  | nil => simp
  | cons c rest ih =>
      rw [List.splitOn_cons_eq_if_modifyHead, List.count_cons]
      by_cases same : (c == mark) = true
      · rw [if_pos same, if_pos same, List.length_cons, ih]
      · rw [if_neg same, if_neg same, List.length_modifyHead, ih]

theorem splitOn_barred (columns : List String) (free : ∀ column ∈ columns, '|' ∉ column.toList) :
    (barred columns).splitOn '|' = columns.map String.toList ++ [[]] := by
  induction columns with
  | nil => simp [barred]
  | cons column rest ih =>
      have here : '|' ∉ column.toList := free column List.mem_cons_self
      have later := ih fun other member => free other (List.mem_cons_of_mem _ member)
      rw [barred, List.flatMap_cons, ← barred, List.append_assoc, List.singleton_append,
        List.splitOn_append_cons_self_of_not_mem here, later]
      rfl

/-- A barred text falls apart into its columns exactly when no bar stands in them. -/
theorem splitOn_barred_iff (columns : List String) :
    (barred columns).splitOn '|' = columns.map String.toList ++ [[]] ↔
      '|' ∉ columns.flatMap String.toList := by
  constructor
  · intro split
    have pieces := length_splitOn (barred columns) '|'
    rw [split, count_barred, if_pos rfl] at pieces
    simp only [List.length_append, List.length_map, List.length_singleton] at pieces
    apply List.count_eq_zero.mp
    omega
  · intro free
    apply splitOn_barred
    intro column member bar
    exact free (List.mem_flatMap.mpr ⟨column, member, bar⟩)

namespace AuditRecord

theorem toList_line (record : AuditRecord) : record.line.toList = barred record.columns := by
  rw [line, String.toList_join, List.flatMap_map]
  simp [barred]

/-- The texts of a record that the service takes over as they are. -/
def foreign (record : AuditRecord) : List Char :=
  [record.requesterId.getD "", record.requestId, record.policyId.getD "",
    record.policyVersion.getD ""].flatMap String.toList

def lineBreaks : List Char :=
  ['\n', '\r', '\x0b', '\x0c', '\u0085', '\u2028', '\u2029']

/-- A line of seven fields, each followed by a bar, from which the fields can be had back. -/
structure Unambiguous (record : AuditRecord) : Prop where
  oneLine : FreeOf lineBreaks record.line.toList
  bars : record.line.toList.count '|' = 7
  fields : record.line.toList.splitOn '|' = record.columns.map String.toList ++ [[]]

section Fields

variable {record : AuditRecord} (own : Ordinary record.responseId.toList)
include own

/-- Only ordinary characters come into the fields from elsewhere than the request and the policy. -/
theorem count_columns {mark : Char} (marks : isOrdinary mark = false) :
    (record.columns.flatMap String.toList).count mark = record.foreign.count mark := by
  have time := (ordinary_int record.timestampMillis.toInt).count marks
  have decision := record.decision.ordinary_name.count marks
  have response := own.count marks
  simp only [columns, foreign, List.flatMap_cons, List.flatMap_nil, List.count_append,
    List.count_nil, time, decision, response]
  omega

theorem count_line {mark : Char} (marks : isOrdinary mark = false) :
    record.line.toList.count mark = record.foreign.count mark + if mark = '|' then 7 else 0 := by
  have seven : record.columns.length = 7 := rfl
  rw [toList_line, count_barred, count_columns own marks, seven]

theorem mem_line_iff {mark : Char} (marks : isOrdinary mark = false) (apart : mark ≠ '|') :
    mark ∈ record.line.toList ↔ mark ∈ record.foreign := by
  rw [← List.count_pos_iff, ← List.count_pos_iff, count_line own marks, if_neg apart, Nat.add_zero]

theorem bars_iff : record.line.toList.count '|' = 7 ↔ '|' ∉ record.foreign := by
  rw [count_line own (by decide), if_pos rfl, ← List.count_eq_zero]
  omega

theorem fields_iff :
    record.line.toList.splitOn '|' = record.columns.map String.toList ++ [[]] ↔
      '|' ∉ record.foreign := by
  rw [toList_line, splitOn_barred_iff, ← List.count_eq_zero, count_columns own (by decide),
    List.count_eq_zero]

theorem unambiguous_iff :
    record.Unambiguous ↔ FreeOf ('|' :: lineBreaks) record.foreign := by
  have breaks (mark : Char) (member : mark ∈ lineBreaks) :
      mark ∉ record.line.toList ↔ mark ∉ record.foreign := by
    have table : (lineBreaks.all fun mark => isOrdinary mark = false ∧ mark ≠ '|') = true := by
      decide
    obtain ⟨marks, apart⟩ := of_decide_eq_true (List.all_eq_true.mp table mark member)
    exact not_congr (mem_line_iff own marks apart)
  rw [FreeOf, List.forall_mem_cons]
  constructor
  · intro told
    exact ⟨(bars_iff own).mp told.bars,
      fun mark member => (breaks mark member).mp (told.oneLine mark member)⟩
  · rintro ⟨noBars, noBreaks⟩
    exact ⟨fun mark member => (breaks mark member).mpr (noBreaks mark member),
      (bars_iff own).mpr noBars, (fields_iff own).mpr noBars⟩

end Fields

theorem line_around (record : AuditRecord) :
    ∃ before after, record.line = before ++ record.requestId ++ after := by
  refine ⟨toString record.timestampMillis.toInt ++ "|" ++ (record.requesterId.getD "" ++ "|"),
    "|" ++ String.join ((record.columns.drop 3).map (· ++ "|")), ?_⟩
  apply String.toList_inj.mp
  simp [line, columns]

/-- Lines that can be told apart into their fields are those of one record only, so far as a line
tells. -/
theorem columns_eq_of_line_eq {record other : AuditRecord} (told : record.Unambiguous)
    (otherTold : other.Unambiguous) (same : record.line = other.line) :
    record.columns = other.columns := by
  have pieces := told.fields
  rw [same, otherTold.fields] at pieces
  have fields := List.append_cancel_right pieces
  exact ((List.map_inj_right fun _ _ => String.toList_inj.mp).mp fields).symm

end AuditRecord

/-! ## Evaluations -/

theorem Service.complete_responseId (service : Service) (now : Nat) (occasion : Occasion)
    (policy : Option PolicySnapshot) (verdict : Verdict) :
    (service.complete now occasion policy verdict).2.responseId =
      freshIdentifier now service.nextNumber := by
  cases verdict <;> rfl

/-- Every result answers under an identifier of its own making. -/
def Fresh : Progress FinalResult Evaluation → Prop
  | .waiting _ => True
  | .done result => ∃ now serial, result.responseId = freshIdentifier now serial

theorem Service.proceed_fresh (service : Service) (now : Nat) (occasion : Occasion)
    (policy : PolicySnapshot) (work : Pipeline.Enriching) :
    Fresh (service.proceed now occasion policy work).2 := by
  unfold proceed
  split
  · trivial
  · exact ⟨now, _, complete_responseId _ now occasion (some policy) _⟩
  · exact ⟨now, _, complete_responseId _ now occasion (some policy) _⟩

theorem Course.fresh {pipeline : Pipeline} {policy : Option PolicySnapshot} {request : Request}
    {ends : List Consultation} {service : Service} {progress : Progress FinalResult Evaluation}
    (course : Course pipeline policy request ends service progress) : Fresh progress := by
  cases course with
  | begun service now fixed inEffect =>
      unfold Service.evaluate
      split
      · exact ⟨now, _, Service.complete_responseId _ now _ none _⟩
      · exact service.proceed_fresh now _ _ _
  | resumed earlier service now fixed => exact service.proceed_fresh now _ _ _

/-- What an audit line takes over from a request and a policy. -/
def takenOver (request : Request) (policy : Option PolicySnapshot) : List String :=
  [request.issuer.getD "", request.id, (policy.map PolicySnapshot.policySetId).getD "",
    (policy.map PolicySnapshot.version).getD ""]

theorem columns_result (request : Request) (policy : Option PolicySnapshot) (responseId : String)
    (completedAt : Instant) (verdict : Verdict) :
    let result := (Occasion.of request).result policy responseId completedAt verdict
    (AuditRecord.ofResult result).columns =
      toString (Int64.ofInt result.completedAt.toMillis).toInt ::
        (takenOver request policy ++ [result.outcome.decision.name, result.responseId]) := by
  cases verdict <;> cases policy <;> rfl

theorem foreign_result (request : Request) (policy : Option PolicySnapshot) (responseId : String)
    (completedAt : Instant) (verdict : Verdict) :
    (AuditRecord.ofResult
      ((Occasion.of request).result policy responseId completedAt verdict)).foreign =
        (takenOver request policy).flatMap String.toList := by
  cases verdict <;> cases policy <;> rfl

theorem Course.result {pipeline : Pipeline} {policy : Option PolicySnapshot} {request : Request}
    {ends : List Consultation} {service : Service} {result : FinalResult}
    (course : Course pipeline policy request ends service (.done result)) :
    ∃ responseId completedAt verdict,
      result = (Occasion.of request).result policy responseId completedAt verdict := by
  obtain ⟨responseId, completedAt, ⟨absent, -, same⟩ | ⟨snapshot, ended, present, -, same⟩⟩ :=
    course.tells
  · exact ⟨responseId, completedAt, _, by rw [absent, same]⟩
  · exact ⟨responseId, completedAt, _, by rw [present, same]⟩

/-- The audit line of an evaluation is one line with seven bars, from which the time, requester,
request, policy, version, decision and response can be had back, exactly when neither a bar nor a
line break stands in the requester, the request's identifier, the policy's identifier or its
version.  Every bar in these four comes on top of the seven.  Two such lines are the same only if
their fields are. -/
theorem audit_line_unambiguous_iff {pipeline : Pipeline} {policy : Option PolicySnapshot}
    {request : Request} {ends : List Consultation} {service : Service} {result : FinalResult}
    (course : Course pipeline policy request ends service (.done result)) :
    let record := AuditRecord.ofResult result
    let taken := takenOver request policy
    record.columns =
        toString (Int64.ofInt result.completedAt.toMillis).toInt ::
          (taken ++ [result.outcome.decision.name, result.responseId]) ∧
      record.line.toList.count '|' = 7 + (taken.flatMap String.toList).count '|' ∧
      (record.line.toList.splitOn '|' = record.columns.map String.toList ++ [[]] ↔
        ∀ text ∈ taken, '|' ∉ text.toList) ∧
      (record.Unambiguous ↔
        ∀ text ∈ taken, FreeOf ('|' :: AuditRecord.lineBreaks) text.toList) ∧
      ∀ other : AuditRecord, record.Unambiguous → other.Unambiguous →
        record.line = other.line → record.columns = other.columns := by
  obtain ⟨now, serial, fresh⟩ := course.fresh
  have own : Ordinary (AuditRecord.ofResult result).responseId.toList := by
    change Ordinary result.responseId.toList
    rw [fresh]
    exact ordinary_freshIdentifier now serial
  obtain ⟨responseId, completedAt, verdict, same⟩ := course.result
  have foreign := foreign_result request policy responseId completedAt verdict
  rw [← same] at foreign
  refine ⟨same ▸ columns_result request policy responseId completedAt verdict, ?_, ?_, ?_,
    fun other => AuditRecord.columns_eq_of_line_eq⟩
  · rw [AuditRecord.count_line own (by decide), if_pos rfl, foreign, Nat.add_comm]
  · rw [AuditRecord.fields_iff own, foreign, List.mem_flatMap]
    constructor
    · intro free text member bar
      exact free ⟨text, member, bar⟩
    · rintro free ⟨text, member, bar⟩
      exact free text member bar
  · rw [AuditRecord.unambiguous_iff own, foreign]
    constructor
    · intro free text member mark marks within
      exact free mark marks (List.mem_flatMap.mpr ⟨text, member, within⟩)
    · intro free mark marks within
      obtain ⟨text, member, within⟩ := List.mem_flatMap.mp within
      exact free text member mark marks within

/-- Whoever sends a request can have any line written among the audit lines. -/
theorem any_line_is_forged (request : Request) (other : AuditRecord) :
    let forging := { request with id := "\n" ++ other.line ++ "\n" }
    (∀ fresh, ∃ body, RequestMessage.decode fresh body = .ok forging) ∧
      ∀ pipeline policy ends service result,
        Course pipeline policy forging ends service (.done result) →
          ∃ before after,
            (AuditRecord.ofResult result).line = before ++ "\n" ++ other.line ++ "\n" ++ after := by
  intro forging
  constructor
  · intro fresh
    have named : forging.id.isEmpty = false := by
      simp [forging]
    exact ⟨_, RequestMessage.decode_of_named fresh named⟩
  · intro pipeline policy ends service result course
    obtain ⟨responseId, completedAt, verdict, same⟩ := course.result
    have requestId : (AuditRecord.ofResult result).requestId = forging.id := by
      rw [same]
      cases verdict <;> rfl
    obtain ⟨before, after, line⟩ := AuditRecord.line_around (AuditRecord.ofResult result)
    refine ⟨before, after, ?_⟩
    rw [line, requestId]
    simp only [forging, String.append_assoc]

namespace SampleLine

def denying : Pipeline :=
  ⟨fun _ _ => .decided (.new .deny [] none), [], none⟩

def service : Service :=
  { SampleCourse.service with pipeline := denying }

/-- A request whose identifier ends one line and begins another. -/
def forging : Request :=
  .blank "q|alpha|1|Permit|x|\n0|root|r"

def body : String :=
  "\x7b\"request_id\":\"q|alpha|1|Permit|x|\\n0|root|r\"\x7d"

def permitted : AuditRecord :=
  ⟨0, none, "q", some "alpha", some "1", .permit, "x"⟩

def denied : AuditRecord :=
  ⟨0, some "root", "r", some "alpha", some "1", .deny, freshIdentifier 0 0⟩

end SampleLine

open SampleLine in
theorem audit_line_of_denial :
    ∃ result,
      Course denying (some SampleCourse.snapshot) SampleCourse.request [] service (.done result) ∧
        (AuditRecord.ofResult result).Unambiguous := by
  have course : Course denying (some SampleCourse.snapshot) SampleCourse.request [] service
      (.done _) := .begun service 0 rfl rfl
  exact ⟨_, course, (audit_line_unambiguous_iff course).2.2.2.1.mpr (by decide)⟩

open SampleLine in
/-- A denial whose line reads as two records, the first of which permits. -/
theorem denial_reads_as_permission :
    RequestMessage.decode "" body.toUTF8 = .ok forging ∧
      ∃ result,
        Course denying (some SampleCourse.snapshot) forging [] service (.done result) ∧
          (AuditRecord.ofResult result).line = permitted.line ++ "\n" ++ denied.line ∧
          permitted.Unambiguous ∧ denied.Unambiguous ∧
          ¬ (AuditRecord.ofResult result).Unambiguous := by
  have permits : permitted.Unambiguous :=
    (AuditRecord.unambiguous_iff (by decide)).mpr (by decide)
  have denies : denied.Unambiguous :=
    (AuditRecord.unambiguous_iff (ordinary_freshIdentifier 0 0)).mpr (by decide)
  refine ⟨by decide +kernel, _, .begun service 0 rfl rfl, by decide +kernel, permits, denies, ?_⟩
  intro told
  exact absurd told.bars (by decide +kernel)

end DecisionPoint
