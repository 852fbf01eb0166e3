import DecisionPoint.Obligation.Registry
import DecisionPoint.Proofs.Text.ByteOrder

/-!
# The order of the handlers

Places are compared by precedence, as integers, and then by the bytes of the identifier.  Lists in
this order hold a key at most once, and placing and erasing keep them in order.
-/

set_option autoImplicit false

namespace DecisionPoint

/-- A handler runs earlier than another: by precedence and then by the bytes of its identifier. -/
def Handler.Precedes (a b : Handler) : Prop :=
  a.precedence.toInt < b.precedence.toInt ∨
    a.precedence = b.precedence ∧ Text.bytes a.obligationId < Text.bytes b.obligationId

namespace HandlerKey

theorem before_iff (a b : HandlerKey) :
    a.before b = true ↔
      a.precedence.toInt < b.precedence.toInt ∨
        a.precedence = b.precedence ∧ a.obligationId < b.obligationId := by
  simp [before, Int32.lt_iff_toInt_lt]

theorem before_ofHandler_iff (a b : Handler) :
    (ofHandler a).before (ofHandler b) = true ↔ a.Precedes b := by
  rw [before_iff, Handler.Precedes, ← Text.lt_iff_bytes_lt]
  rfl

theorem not_before_self (key : HandlerKey) : ¬ key.before key = true := by
  rw [before_iff]
  rintro (less | ⟨-, less⟩)
  · exact Int.lt_irrefl _ less
  · exact lt_irrefl _ less

theorem before_trans {a b c : HandlerKey} (first : a.before b = true) (second : b.before c = true) :
    a.before c = true := by
  rw [before_iff] at first second ⊢
  rcases first with less | ⟨same, less⟩
  · rcases second with less' | ⟨same', -⟩
    · exact .inl (Int.lt_trans less less')
    · exact .inl (same' ▸ less)
  · rcases second with less' | ⟨same', less'⟩
    · exact .inl (same ▸ less')
    · exact .inr ⟨same.trans same', lt_trans less less'⟩

theorem before_of_ne {a b : HandlerKey} (different : a ≠ b) (notBefore : ¬ a.before b = true) :
    b.before a = true := by
  rw [before_iff] at notBefore ⊢
  rcases Int.lt_trichotomy a.precedence.toInt b.precedence.toInt with less | same | greater
  · exact absurd (.inl less) notBefore
  · have samePrecedence : a.precedence = b.precedence := Int32.toInt_inj.mp same
    rcases lt_trichotomy a.obligationId b.obligationId with less | sameId | greater
    · exact absurd (.inr ⟨samePrecedence, less⟩) notBefore
    · exact absurd (show a = b by cases a; cases b; simp_all) different
    · exact .inr ⟨samePrecedence.symm, greater⟩
  · exact .inl greater

end HandlerKey

namespace Handler

theorem not_precedes_self (handler : Handler) : ¬ handler.Precedes handler := by
  rw [← HandlerKey.before_ofHandler_iff]
  exact HandlerKey.not_before_self _

end Handler

namespace HandlerRegistry

/-- The items stand in the order of their keys. -/
def Ascending (items : List (HandlerKey × Handler)) : Prop :=
  items.Pairwise fun a b => a.1.before b.1 = true

section Items

variable {items : List (HandlerKey × Handler)}

theorem lookup_of_mem (ascending : Ascending items) {key : HandlerKey} {handler : Handler}
    (member : (key, handler) ∈ items) : items.lookup key = some handler := by
  induction items with
  | nil => cases member
  | cons item rest ih =>
      obtain ⟨first, later⟩ := List.pairwise_cons.mp ascending
      rcases List.mem_cons.mp member with same | deeper
      · rw [← same, List.lookup_cons_self]
      · have different : (key == item.1) = false := by
          rw [beq_eq_false_iff_ne]
          intro same
          exact HandlerKey.not_before_self key (by simpa [← same] using first _ deeper)
        rw [List.lookup_cons, different]
        exact ih later deeper

theorem mem_place {key : HandlerKey} {handler : Handler}
    (absent : ∀ item ∈ items, item.1 ≠ key) (item : HandlerKey × Handler) :
    item ∈ place key handler items ↔ item = (key, handler) ∨ item ∈ items := by
  induction items with
  | nil => simp [place]
  | cons other rest ih =>
      have different : key ≠ other.1 := fun same => absent other (by simp) same.symm
      have absentLater : ∀ item ∈ rest, item.1 ≠ key := fun item member =>
        absent item (List.mem_cons_of_mem _ member)
      by_cases earlier : key.before other.1 = true
      · simp [place, different, earlier]
      · rw [place, if_neg different, if_neg earlier, List.mem_cons, ih absentLater, List.mem_cons]
        exact or_left_comm

theorem ascending_place {key : HandlerKey} {handler : Handler} (ascending : Ascending items)
    (absent : ∀ item ∈ items, item.1 ≠ key) : Ascending (place key handler items) := by
  induction items with
  | nil => exact List.pairwise_singleton _ _
  | cons other rest ih =>
      obtain ⟨first, later⟩ := List.pairwise_cons.mp ascending
      have different : key ≠ other.1 := fun same => absent other (by simp) same.symm
      have absentLater : ∀ item ∈ rest, item.1 ≠ key := fun item member =>
        absent item (List.mem_cons_of_mem _ member)
      by_cases earlier : key.before other.1 = true
      · rw [place, if_neg different, if_pos earlier]
        refine List.pairwise_cons.mpr ⟨?_, ascending⟩
        intro item member
        rcases List.mem_cons.mp member with same | deeper
        · rw [same]
          exact earlier
        · exact HandlerKey.before_trans earlier (first item deeper)
      · rw [place, if_neg different, if_neg earlier]
        refine List.pairwise_cons.mpr ⟨?_, ih later absentLater⟩
        intro item member
        rcases (mem_place absentLater item).mp member with same | deeper
        · rw [same]
          exact HandlerKey.before_of_ne different earlier
        · exact first item deeper

theorem Ascending.nodup (ascending : Ascending items) : items.Nodup := by
  refine List.Pairwise.imp ?_ ascending
  intro a b before same
  subst same
  exact HandlerKey.not_before_self _ before

theorem ascending_erase (ascending : Ascending items) (key : HandlerKey) :
    Ascending (erase key items) :=
  List.Pairwise.filter _ ascending

end Items

theorem mem_erase {κ α : Type} [DecidableEq κ] (key : κ) (items : List (κ × α)) (item : κ × α) :
    item ∈ erase key items ↔ item ∈ items ∧ item.1 ≠ key := by
  simp [erase]

theorem lookup_erase {κ α : Type} [DecidableEq κ] (key other : κ) (items : List (κ × α)) :
    (erase key items).lookup other = if other = key then none else items.lookup other := by
  induction items with
  | nil => simp [erase]
  | cons item rest ih =>
      by_cases erased : item.1 = key
      · have skipped : erase key (item :: rest) = erase key rest := by simp [erase, erased]
        rw [skipped, ih]
        by_cases same : other = key
        · simp [same]
        · have further : (other == item.1) = false := by simp [erased, same]
          rw [if_neg same, if_neg same, List.lookup_cons, further]
      · have kept : erase key (item :: rest) = item :: erase key rest := by simp [erase, erased]
        rw [kept, List.lookup_cons, List.lookup_cons, ih]
        by_cases found : other = item.1
        · simp [found, erased]
        · have further : (other == item.1) = false := by simp [found]
          rw [further]

end HandlerRegistry

end DecisionPoint
