import DecisionPoint.Configuration.Dotenv
import DecisionPoint.Proofs.Keyed

/-!
# A file of variables adds and never overwrites

Which names the lines of a file define does not depend on the environment, whatever their values
refer to.  So a file that is read once more finds all its names defined and adds nothing.
-/

set_option autoImplicit false

namespace DecisionPoint

namespace Environment

def Extends (larger smaller : Environment) : Prop :=
  smaller.items <+: larger.items

theorem defineMissing_extends (environment : Environment) (item : Variable) :
    (environment.defineMissing item).Extends environment := by
  unfold Extends defineMissing
  split
  · exact List.prefix_refl _
  · next absent =>
      have missing : environment.get? item.name = none := Option.not_isSome_iff_eq_none.mp absent
      rw [environment.insert_absent item missing]
      exact List.prefix_append _ _

theorem defineMissing_present {environment : Environment} {item : Variable}
    (present : item.name ∈ environment.items.map Variable.name) :
    environment.defineMissing item = environment := by
  have held : environment.get? item.name ≠ none :=
    fun missing => (environment.get?_eq_none_iff item.name).mp missing present
  exact if_pos (Option.isSome_iff_ne_none.mpr held)

theorem mem_defineMissing (environment : Environment) (item : Variable) :
    item.name ∈ (environment.defineMissing item).items.map Variable.name := by
  unfold defineMissing
  split
  · next held =>
      obtain ⟨value, found⟩ := Option.isSome_iff_exists.mp held
      exact Keyed.mem_of_get? found
  · next absent =>
      have missing : environment.get? item.name = none := Option.not_isSome_iff_eq_none.mp absent
      rw [environment.insert_absent item missing]
      simp

theorem Extends.valueOf? {larger smaller : Environment} (more : larger.Extends smaller)
    {name value : String} (held : smaller.valueOf? name = some value) :
    larger.valueOf? name = some value := by
  obtain ⟨added, split⟩ := more
  unfold Environment.valueOf? Keyed.get? at held ⊢
  obtain ⟨item, found, rfl⟩ := Option.map_eq_some_iff.mp held
  rw [← split, List.find?_append, found]
  rfl

end Environment

namespace Dotenv

/-! ## Lines -/

/-- Two lines are of one kind, and if they are definitions, of one name. -/
inductive Alike : Line → Line → Prop where
  | nothing : Alike .nothing .nothing
  | invalid : Alike .invalid .invalid
  | definition (name value value' : String) :
      Alike (.definition ⟨name, value⟩) (.definition ⟨name, value'⟩)

theorem isSome_readValue (lookup lookup' : List Char → List Char) (mode : ValueMode)
    (cs : List Char) :
    (readValue lookup mode cs).isSome = (readValue lookup' mode cs).isSome := by
  induction cs generalizing mode with
  | nil =>
      cases mode with
      | escaped weak => cases weak <;> rfl
      | reference weak name => cases weak <;> rfl
      | _ => rfl
  | cons c rest ih =>
      cases mode with
      | ending =>
          simp only [readValue]
          split
          · exact ih .ending
          · rfl
      | escaped weak =>
          simp only [readValue]
          split
          · rfl
          · simp only [Option.isSome_map, ih]
      | strong =>
          simp only [readValue]
          split
          · exact ih .plain
          · simp only [Option.isSome_map, ih]
      | reference weak name =>
          simp only [readValue]
          split
          · exact ih _
          split
          · exact ih _
          split
          · simp only [Option.isSome_map, ih]
          · simp only [Option.isSome_map, ih]
      | braced weak name =>
          simp only [readValue]
          split
          · simp only [Option.isSome_map, ih]
          · exact ih _
      | plain => simp only [readValue, Option.isSome_map, ih]
      | weak => simp only [readValue, Option.isSome_map, ih]

theorem definition_alike (name : String) (value value' : Option (List Char)) :
    value.isSome = value'.isSome →
      Alike
        (match value with
          | none => .invalid
          | some value => .definition ⟨name, String.ofList value⟩)
        (match value' with
          | none => .invalid
          | some value => .definition ⟨name, String.ofList value⟩) := by
  intro same
  cases value with
  | none =>
      cases value' with
      | none => exact .invalid
      | some value' => cases same
  | some value =>
      cases value' with
      | none => cases same
      | some value' => exact .definition _ _ _

theorem readLine_alike (environment environment' : Environment) (defined defined' : List Variable)
    (line : List Char) :
    Alike (readLine environment defined line) (readLine environment' defined' line) := by
  unfold readLine
  dsimp only
  split
  · exact .nothing
  · exact .nothing
  · split
    · exact .invalid
    · next name rest target =>
        refine definition_alike (String.ofList name) _ _ ?_
        cases Text.trimStart rest with
        | nil => rfl
        | cons c others =>
            split
            · rfl
            · rfl
            · exact isSome_readValue _ _ .plain (c :: others)

/-- The names that lines define, up to the first that is no line of a file. -/
def definedNames : List (List Char) → List String
  | [] => []
  | line :: rest =>
    match readLine .empty [] line with
    | .nothing => definedNames rest
    | .invalid => []
    | .definition item => item.name :: definedNames rest

theorem defineAll_extends (lines : List (List Char)) (environment : Environment)
    (defined : List Variable) :
    (defineAll environment defined lines).Extends environment := by
  induction lines generalizing environment defined with
  | nil => exact List.prefix_refl _
  | cons line rest ih =>
      rw [defineAll]
      split
      · exact ih environment defined
      · exact List.prefix_refl _
      · next item read =>
          exact (environment.defineMissing_extends item).trans (ih _ _)

theorem definedNames_mem {lines : List (List Char)} (environment : Environment)
    (defined : List Variable) :
    ∀ name ∈ definedNames lines,
      name ∈ (defineAll environment defined lines).items.map Variable.name := by
  induction lines generalizing environment defined with
  | nil => nofun
  | cons line rest ih =>
      have alike := readLine_alike .empty environment [] defined line
      rw [definedNames, defineAll]
      generalize readLine .empty [] line = first at alike ⊢
      generalize readLine environment defined line = second at alike ⊢
      cases alike with
      | nothing => exact ih environment defined
      | invalid => nofun
      | definition name value value' =>
          refine List.forall_mem_cons.mpr ⟨?_, ih _ _⟩
          have here := environment.mem_defineMissing ⟨name, value'⟩
          exact ((defineAll_extends rest _ _).map Variable.name).subset here

theorem defineAll_present {lines : List (List Char)} {environment : Environment}
    (defined : List Variable)
    (present : ∀ name ∈ definedNames lines, name ∈ environment.items.map Variable.name) :
    defineAll environment defined lines = environment := by
  induction lines generalizing defined with
  | nil => rfl
  | cons line rest ih =>
      have alike := readLine_alike .empty environment [] defined line
      rw [definedNames] at present
      rw [defineAll]
      generalize readLine .empty [] line = first at alike present
      generalize readLine environment defined line = second at alike ⊢
      cases alike with
      | nothing => exact ih defined present
      | invalid => rfl
      | definition name value value' =>
          obtain ⟨here, later⟩ := List.forall_mem_cons.mp present
          have kept : environment.defineMissing ⟨name, value'⟩ = environment :=
            Environment.defineMissing_present here
          dsimp only
          rw [kept]
          exact ih _ later

/-! ## Files -/

/-- A file leaves all variables as they are and puts its own behind them. -/
theorem load_extends (environment : Environment) (content : String) :
    (load environment content).Extends environment :=
  defineAll_extends _ environment []

theorem load_load (environment : Environment) (content : String) :
    load (load environment content) content = load environment content := by
  unfold load
  dsimp only
  exact defineAll_present [] (definedNames_mem environment [])

end Dotenv

end DecisionPoint
