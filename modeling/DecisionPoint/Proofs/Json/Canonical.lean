import Mathlib.Data.String.Basic
import DecisionPoint.Proofs.Json.Records

/-!
# Documents in normal form

A document is canonical when the members of each of its objects ascend by name and it holds neither
rows nor a literal without a value: this is what a reader of any value keeps.  Bringing a document
into this form adds no numbers and no depth, and changes nothing the second time.
-/

set_option autoImplicit false

namespace DecisionPoint.Json

/-- What holds of a document whenever it holds of its parts holds of every document. -/
@[elab_as_elim]
theorem byParts {motive : Json → Prop} (null : motive .null) (bool : ∀ value, motive (.bool value))
    (number : ∀ value, motive (.number value)) (string : ∀ value, motive (.string value))
    (array : ∀ elements, (∀ element ∈ elements, motive element) → motive (.array elements))
    (object : ∀ members, (∀ member ∈ members, motive member.2) → motive (.object members))
    (rows : ∀ elements, (∀ element ∈ elements, motive element) → motive (.rows elements))
    (unreadable : motive .unreadable) (document : Json) : motive document := by
  refine Json.rec (motive_1 := motive) (motive_2 := fun elements => ∀ e ∈ elements, motive e)
    (motive_3 := fun members => ∀ m ∈ members, motive m.2)
    (motive_4 := fun member => motive member.2)
    null bool number string array object rows unreadable ?_ ?_ ?_ ?_ ?_ document
  · exact List.forall_mem_nil _
  · intro element rest holds others
    exact List.forall_mem_cons.mpr ⟨holds, others⟩
  · exact List.forall_mem_nil _
  · intro member rest holds others
    exact List.forall_mem_cons.mpr ⟨holds, others⟩
  · intro name value holds
    exact holds

/-! ## Numbers, readability and depth -/

/-- Whether a number is a double or fits a 64-bit word, signed or unsigned. -/
def Number.fits : Number → Bool
  | .integer value => -Nat.pow 2 63 ≤ value && value ≤ maxWord
  | .float _ => true

def Number.isFloat : Number → Bool
  | .integer _ => false
  | .float _ => true

theorem Number.isWord_of_fits {number : Number} (fits : number.fits = true)
    (whole : number.isFloat = false) : number.isWord = true := by
  cases number with
  | integer value => exact fits
  | float value => cases whole

mutual

def numbers : Json → List Number
  | .number value => [value]
  | .array elements | .rows elements => numbersOfElements elements
  | .object members => numbersOfMembers members
  | .null | .bool _ | .string _ | .unreadable => []

def numbersOfElements : List Json → List Number
  | [] => []
  | value :: rest => value.numbers ++ numbersOfElements rest

def numbersOfMembers : List (String × Json) → List Number
  | [] => []
  | (_, value) :: rest => value.numbers ++ numbersOfMembers rest

end

theorem mem_numbersOfElements {number : Number} {elements : List Json} :
    number ∈ numbersOfElements elements ↔ ∃ element ∈ elements, number ∈ element.numbers := by
  induction elements with
  | nil => simp [numbersOfElements]
  | cons element rest ih => simp [numbersOfElements, ih]

theorem mem_numbersOfMembers {number : Number} {members : List (String × Json)} :
    number ∈ numbersOfMembers members ↔ ∃ member ∈ members, number ∈ member.2.numbers := by
  induction members with
  | nil => simp [numbersOfMembers]
  | cons member rest ih => simp [numbersOfMembers, ih]

/-- A document whose numbers are doubles or fit words. -/
def Fits (document : Json) : Prop :=
  ∀ number ∈ document.numbers, number.fits = true

theorem fitsElements_iff {elements : List Json} :
    (∀ number ∈ numbersOfElements elements, number.fits = true) ↔
      ∀ element ∈ elements, Fits element := by
  constructor
  · intro fits element mem number held
    exact fits number (mem_numbersOfElements.mpr ⟨element, mem, held⟩)
  · intro fits number held
    obtain ⟨element, mem, held⟩ := mem_numbersOfElements.mp held
    exact fits element mem number held

theorem fitsMembers_iff {members : List (String × Json)} :
    (∀ number ∈ numbersOfMembers members, number.fits = true) ↔
      ∀ member ∈ members, Fits member.2 := by
  constructor
  · intro fits member mem number held
    exact fits number (mem_numbersOfMembers.mpr ⟨member, mem, held⟩)
  · intro fits number held
    obtain ⟨member, mem, held⟩ := mem_numbersOfMembers.mp held
    exact fits member mem number held

def IsWhole (document : Json) : Prop :=
  ∀ number ∈ document.numbers, number.isFloat = false

theorem readableElements_iff {elements : List Json} :
    readableElements elements = true ↔ ∀ element ∈ elements, element.readable = true := by
  induction elements with
  | nil => simp [readableElements]
  | cons element rest ih => simp [readableElements, ih]

theorem readableMembers_iff {members : List (String × Json)} :
    readableMembers members = true ↔ ∀ member ∈ members, member.2.readable = true := by
  induction members with
  | nil => simp [readableMembers]
  | cons member rest ih => simp [readableMembers, ih]

theorem depthOfElements_le_iff {elements : List Json} {limit : Nat} :
    depthOfElements elements ≤ limit ↔ ∀ element ∈ elements, element.depth ≤ limit := by
  induction elements with
  | nil => simp [depthOfElements]
  | cons element rest ih => simp [depthOfElements, ih]

theorem depthOfMembers_le_iff {members : List (String × Json)} {limit : Nat} :
    depthOfMembers members ≤ limit ↔ ∀ member ∈ members, member.2.depth ≤ limit := by
  induction members with
  | nil => simp [depthOfMembers]
  | cons member rest ih => simp [depthOfMembers, ih]

/-! ## Members in order -/

/-- Members whose names ascend, so that no name is repeated. -/
def Ascending (members : List (String × Json)) : Prop :=
  members.Pairwise fun first second => first.1 < second.1

theorem mem_insertSorted {name : String} {value : Json} {sorted : List (String × Json)}
    {member : String × Json} (mem : member ∈ insertSorted name value sorted) :
    member = (name, value) ∨ member ∈ sorted := by
  induction sorted with
  | nil => exact .inl (List.mem_singleton.mp mem)
  | cons first rest ih =>
      obtain ⟨other, kept⟩ := first
      unfold insertSorted at mem
      split at mem
      · rcases List.mem_cons.mp mem with own | later
        · exact .inl own
        · exact .inr (List.mem_cons_of_mem _ later)
      split at mem
      · exact List.mem_cons.mp mem
      · rcases List.mem_cons.mp mem with kept | later
        · exact .inr (kept ▸ List.mem_cons_self)
        · exact (ih later).imp id (List.mem_cons_of_mem _)

theorem ascending_insertSorted (name : String) (value : Json) {sorted : List (String × Json)}
    (ascending : Ascending sorted) : Ascending (insertSorted name value sorted) := by
  induction sorted with
  | nil => exact List.pairwise_singleton _ _
  | cons first rest ih =>
      obtain ⟨other, kept⟩ := first
      obtain ⟨before, later⟩ := List.pairwise_cons.mp ascending
      unfold insertSorted
      split
      · next same =>
          subst same
          exact List.pairwise_cons.mpr ⟨before, later⟩
      split
      · next smaller =>
          refine List.pairwise_cons.mpr ⟨?_, ascending⟩
          intro member mem
          rcases List.mem_cons.mp mem with rfl | mem
          · exact smaller
          · exact lt_trans smaller (before member mem)
      · next different notSmaller =>
          refine List.pairwise_cons.mpr ⟨?_, ih later⟩
          intro member mem
          rcases mem_insertSorted mem with rfl | mem
          · exact lt_of_le_of_ne (not_lt.mp notSmaller) (Ne.symm different)
          · exact before member mem

theorem insertSorted_last {name : String} (value : Json) {sorted : List (String × Json)}
    (last : ∀ member ∈ sorted, member.1 < name) :
    insertSorted name value sorted = sorted ++ [(name, value)] := by
  induction sorted with
  | nil => rfl
  | cons first rest ih =>
      obtain ⟨here, later⟩ := List.forall_mem_cons.mp last
      rw [insertSorted, if_neg (ne_of_gt here), if_neg (not_lt_of_gt here), ih later,
        List.cons_append]

theorem ascending_canonicalMembers (members : List (String × Json))
    {sorted : List (String × Json)} (ascending : Ascending sorted) :
    Ascending (canonicalMembers members sorted) := by
  induction members generalizing sorted with
  | nil => exact ascending
  | cons member rest ih => exact ih (ascending_insertSorted _ _ ascending)

theorem mem_canonicalMembers {members sorted : List (String × Json)} {member : String × Json}
    (mem : member ∈ canonicalMembers members sorted) :
    member ∈ sorted ∨ ∃ original ∈ members, member.2 = original.2.canonical := by
  induction members generalizing sorted with
  | nil => exact .inl mem
  | cons first rest ih =>
      rcases ih mem with placed | ⟨original, mem', same⟩
      · rcases mem_insertSorted placed with rfl | held
        · exact .inr ⟨first, List.mem_cons_self, rfl⟩
        · exact .inl held
      · exact .inr ⟨original, List.mem_cons_of_mem _ mem', same⟩

theorem canonicalMembers_ascending {members sorted : List (String × Json)}
    (ascending : Ascending (sorted ++ members))
    (kept : ∀ member ∈ members, member.2.canonical = member.2) :
    canonicalMembers members sorted = sorted ++ members := by
  induction members generalizing sorted with
  | nil => exact (List.append_nil _).symm
  | cons member rest ih =>
      obtain ⟨name, value⟩ := member
      obtain ⟨same, kept⟩ := List.forall_mem_cons.mp kept
      have last : ∀ member ∈ sorted, member.1 < name := fun member mem =>
        (List.pairwise_append.mp ascending).2.2 member mem _ List.mem_cons_self
      rw [List.append_cons] at ascending ⊢
      rw [canonicalMembers, same, insertSorted_last value last, ih ascending kept]

theorem canonicalElements_eq_map (elements : List Json) :
    canonicalElements elements = elements.map canonical := by
  induction elements with
  | nil => rfl
  | cons element rest ih => rw [canonicalElements, ih, List.map_cons]

/-! ## Canonical documents -/

/-- A document in normal form: members ascend by name, and integers fit words. -/
inductive Canonical : Json → Prop where
  | null : Canonical .null
  | bool (value : Bool) : Canonical (.bool value)
  | number {value : Number} (fits : value.fits = true) : Canonical (.number value)
  | string (value : String) : Canonical (.string value)
  | array {elements : List Json} (parts : ∀ element ∈ elements, Canonical element) :
      Canonical (.array elements)
  | object {members : List (String × Json)} (ascending : Ascending members)
      (parts : ∀ member ∈ members, Canonical member.2) : Canonical (.object members)

theorem canonical_spec (document : Json) (readable : document.readable = true)
    (fits : Fits document) : Canonical document.canonical := by
  have ofElements (elements : List Json)
      (ih : ∀ element ∈ elements,
        element.readable = true → Fits element → Canonical element.canonical)
      (readable : readableElements elements = true) (fits : ∀ element ∈ elements, Fits element) :
      Canonical (.array (canonicalElements elements)) := by
    rw [canonicalElements_eq_map]
    refine .array ?_
    intro _ mem
    obtain ⟨element, own, rfl⟩ := List.mem_map.mp mem
    exact ih element own (readableElements_iff.mp readable element own) (fits element own)
  induction document using byParts with
  | null => exact .null
  | bool value => exact .bool value
  | number value => exact .number (fits value List.mem_cons_self)
  | string value => exact .string value
  | array elements ih => exact ofElements elements ih readable (fitsElements_iff.mp fits)
  | rows elements ih => exact ofElements elements ih readable (fitsElements_iff.mp fits)
  | object members ih =>
      refine .object (ascending_canonicalMembers members List.Pairwise.nil) ?_
      intro member mem
      rcases mem_canonicalMembers mem with held | ⟨original, mem, same⟩
      · cases held
      · rw [same]
        exact ih original mem (readableMembers_iff.mp readable original mem)
          (fitsMembers_iff.mp fits original mem)
  | unreadable => cases readable

theorem depth_canonical_le (document : Json) : document.canonical.depth ≤ document.depth := by
  have ofElements (elements : List Json)
      (ih : ∀ element ∈ elements, element.canonical.depth ≤ element.depth) :
      depthOfElements (canonicalElements elements) ≤ depthOfElements elements := by
    rw [canonicalElements_eq_map, depthOfElements_le_iff]
    intro _ mem
    obtain ⟨element, own, rfl⟩ := List.mem_map.mp mem
    exact Nat.le_trans (ih element own) (depthOfElements_le_iff.mp (Nat.le_refl _) element own)
  induction document using byParts with
  | null => exact Nat.le_refl _
  | bool value => exact Nat.le_refl _
  | number value => exact Nat.le_refl _
  | string value => exact Nat.le_refl _
  | array elements ih => exact Nat.succ_le_succ (ofElements elements ih)
  | rows elements ih => exact Nat.succ_le_succ (ofElements elements ih)
  | object members ih =>
      refine Nat.succ_le_succ (depthOfMembers_le_iff.mpr ?_)
      intro member mem
      rcases mem_canonicalMembers mem with held | ⟨original, mem, same⟩
      · cases held
      · rw [same]
        exact Nat.le_trans (ih original mem)
          (depthOfMembers_le_iff.mp (Nat.le_refl _) original mem)
  | unreadable => exact Nat.le_refl _

namespace Canonical

variable {document : Json}

theorem canonical_eq (canonical : Canonical document) : document.canonical = document := by
  induction canonical with
  | null => rfl
  | bool value => rfl
  | number fits => rfl
  | string value => rfl
  | array parts ih =>
      rw [Json.canonical, canonicalElements_eq_map, List.map_congr_left ih, List.map_id']
  | object ascending parts ih =>
      rw [Json.canonical, canonicalMembers_ascending (by simpa using ascending) ih, List.nil_append]

theorem readable (canonical : Canonical document) : document.readable = true := by
  induction canonical with
  | null => rfl
  | bool value => rfl
  | number fits => rfl
  | string value => rfl
  | array parts ih => exact readableElements_iff.mpr ih
  | object ascending parts ih => exact readableMembers_iff.mpr ih

/-- Without doubles the text of such a document shows all that it is. -/
theorem isPlain (canonical : Canonical document) (whole : IsWhole document) :
    document.isPlain = true := by
  induction canonical with
  | null => rfl
  | bool value => rfl
  | number fits => exact Number.isWord_of_fits fits (whole _ List.mem_cons_self)
  | string value => rfl
  | array parts ih =>
      refine (arePlainElements_iff _).mpr ?_
      intro element mem
      exact ih element mem fun number held =>
        whole number (mem_numbersOfElements.mpr ⟨element, mem, held⟩)
  | object ascending parts ih =>
      refine (arePlainMembers_iff _).mpr ?_
      intro member mem
      exact ih member mem fun number held =>
        whole number (mem_numbersOfMembers.mpr ⟨member, mem, held⟩)

end Canonical

/-! ## Numbers in texts -/

theorem Numeral.fits_number {numeral : Numeral} {number : Number}
    (given : numeral.number = some number) : number.fits = true := by
  have ofDouble (double : numeral.double.map Number.float = some number) :
      number.fits = true := by
    obtain ⟨value, -, rfl⟩ := Option.map_eq_some_iff.mp double
    rfl
  unfold Numeral.number at given
  split at given
  · dsimp only at given
    split at given
    · split at given
      · next small =>
          cases given
          have bound : naturalOf numeral.whole ≤ Nat.pow 2 63 := small.2
          simp only [Number.fits, Bool.and_eq_true, decide_eq_true_eq]
          omega
      · exact ofDouble given
    · split at given
      · next small =>
          cases given
          simp only [Number.fits, Bool.and_eq_true, decide_eq_true_eq]
          omega
      · exact ofDouble given
  · exact ofDouble given

theorem fits_ofMembers {members : List (Option String × Json)}
    (fits : ∀ member ∈ members, Fits member.2) : Fits (ofMembers members) := by
  have named (found : List (String × Json))
      (taken : members.mapM (fun member => member.1.map (·, member.2)) = some found) :
      ∀ member ∈ found, Fits member.2 := by
    induction members generalizing found with
    | nil =>
        cases taken
        exact List.forall_mem_nil _
    | cons first rest ih =>
        obtain ⟨fitsFirst, fitsRest⟩ := List.forall_mem_cons.mp fits
        simp only [List.mapM_cons, Option.bind_eq_bind, Option.bind_eq_some_iff,
          Option.map_eq_some_iff] at taken
        obtain ⟨_, ⟨name, -, rfl⟩, others, taken, same⟩ := taken
        cases same
        exact List.forall_mem_cons.mpr ⟨fitsFirst, ih fitsRest others taken⟩
  unfold ofMembers
  split
  · next found taken => exact fitsMembers_iff.mpr (named found taken)
  · exact List.forall_mem_nil _

theorem fits_spanned (fuel : Nat) :
    (∀ cs document tail, spanValue fuel cs = some (document, tail) → Fits document) ∧
    (∀ cs elements tail, spanElements fuel cs = some (elements, tail) →
      ∀ element ∈ elements, Fits element) ∧
    ∀ cs members tail, spanMembers fuel cs = some (members, tail) →
      ∀ member ∈ members, Fits member.2 := by
  induction fuel with
  | zero => simp [spanValue, spanElements, spanMembers]
  | succ fuel ih =>
      obtain ⟨ofValue, ofElements, ofMembers⟩ := ih
      refine ⟨?_, ?_, ?_⟩
      · intro cs document tail spanned
        unfold spanValue at spanned
        split at spanned
        · cases spanned
          exact List.forall_mem_nil _
        · cases spanned
          exact List.forall_mem_nil _
        · cases spanned
          exact List.forall_mem_nil _
        · obtain ⟨⟨text, after⟩, -, same⟩ := Option.map_eq_some_iff.mp spanned
          cases same
          cases text <;> exact List.forall_mem_nil _
        · split at spanned
          · cases spanned
            exact List.forall_mem_nil _
          · obtain ⟨⟨elements, after⟩, read, same⟩ := Option.map_eq_some_iff.mp spanned
            cases same
            exact fitsElements_iff.mpr (ofElements _ _ _ read)
        · split at spanned
          · cases spanned
            exact List.forall_mem_nil _
          · obtain ⟨⟨members, after⟩, read, same⟩ := Option.map_eq_some_iff.mp spanned
            cases same
            exact fits_ofMembers (ofMembers _ _ _ read)
        · obtain ⟨⟨numeral, after⟩, -, same⟩ := Option.map_eq_some_iff.mp spanned
          cases same
          cases given : numeral.number with
          | none => exact List.forall_mem_nil _
          | some number =>
              intro held mem
              cases List.mem_singleton.mp mem
              exact Numeral.fits_number given
      · intro cs elements tail spanned
        unfold spanElements at spanned
        split at spanned
        · cases spanned
        · next value rest read =>
            split at spanned
            · cases spanned
              exact List.forall_mem_singleton.mpr (ofValue _ _ _ read)
            · obtain ⟨⟨others, after⟩, read', same⟩ := Option.map_eq_some_iff.mp spanned
              cases same
              exact List.forall_mem_cons.mpr ⟨ofValue _ _ _ read, ofElements _ _ _ read'⟩
            · cases spanned
      · intro cs members tail spanned
        unfold spanMembers at spanned
        split at spanned
        · cases spanned
        · split at spanned
          · split at spanned
            · cases spanned
            · next value rest read =>
                split at spanned
                · cases spanned
                  exact List.forall_mem_singleton.mpr (ofValue _ _ _ read)
                · obtain ⟨⟨others, after⟩, read', same⟩ := Option.map_eq_some_iff.mp spanned
                  cases same
                  exact List.forall_mem_cons.mpr ⟨ofValue _ _ _ read, ofMembers _ _ _ read'⟩
                · cases spanned
          · cases spanned

theorem fits_of_parse {text : String} {document : Json} (parsed : parse text = some document) :
    Fits document := by
  unfold parse parseChars at parsed
  dsimp only at parsed
  split at parsed
  · next found rest spanned =>
      split at parsed
      · cases parsed
        exact (fits_spanned _).1 _ _ _ spanned
      · cases parsed
  · cases parsed

end DecisionPoint.Json
