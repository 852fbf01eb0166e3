import DecisionPoint.Configuration.Layer
import DecisionPoint.Proofs.Configuration.Dotenv
import DecisionPoint.Proofs.Successes

/-!
# What layers come to

A loader has three parts, and a layer touches one of them.  So a layer of one sort may be moved past
a layer of another, and loading depends on little: the last layer that replaces the configuration,
the last part of names that was given, and whether there was a file of variables.
-/

set_option autoImplicit false

namespace DecisionPoint

namespace Layer

/-- The configuration that a layer puts in the place of the one before it, if it puts one there, or
why it fails. -/
def replacement : Layer → Except ConfigurationFault (Option Configuration)
  | .preset configuration => .ok (some configuration)
  | .text content format =>
    ((Loader.new .empty).withText content format).map fun loader => some loader.configuration
  | .file path content =>
    ((Loader.new .empty).withFile path content).map fun loader => some loader.configuration
  | .optionalFile _ .missing => .ok none
  | .optionalFile path content =>
    ((Loader.new .empty).withFile path content).map fun loader => some loader.configuration
  | .variables _ | .dotenv _ => .ok none

def Succeeds (layer : Layer) : Prop :=
  ∃ configuration?, layer.replacement = .ok configuration?

def configuration? (layer : Layer) : Option Configuration :=
  match layer.replacement with
  | .ok configuration? => configuration?
  | .error _ => none

def part? : Layer → Option String
  | .variables part => some part
  | _ => none

def dotenv? : Layer → Option String
  | .dotenv content => some content
  | _ => none

def isDeferred : Layer → Bool
  | .variables _ | .dotenv _ => true
  | .preset _ | .text _ _ | .file _ _ | .optionalFile _ _ => false

def apply (layer : Layer) (loader : Loader) : Loader where
  configuration := layer.configuration?.getD loader.configuration
  variablePart := (layer.part?.map Text.uppercase).or loader.variablePart
  environment := (layer.dotenv?.toList).foldl Dotenv.load loader.environment

theorem apply_comm {layer other : Layer} (deferred : layer.isDeferred = true)
    (replaces : other.isDeferred = false) (loader : Loader) :
    other.apply (layer.apply loader) = layer.apply (other.apply loader) := by
  cases layer with
  | «variables» part =>
      cases other with
      | «variables» | dotenv => cases replaces
      | _ => rfl
  | dotenv content =>
      cases other with
      | «variables» | dotenv => cases replaces
      | _ => rfl
  | _ => cases deferred

end Layer

namespace Loader

/-! ## One layer -/

theorem withText_eq (loader : Loader) (content format : String) :
    loader.withText content format =
      ((new .empty).withText content format).map fun other =>
        loader.withConfiguration other.configuration := by
  unfold withText
  dsimp only
  split <;> rfl

theorem withFile_eq (loader : Loader) (path : String) (content : FileContent) :
    loader.withFile path content =
      ((new .empty).withFile path content).map fun other =>
        loader.withConfiguration other.configuration := by
  cases content with
  | missing => rfl
  | directory => rfl
  | bytes content =>
      simp only [withFile]
      split
      · rfl
      · split <;> rfl

/-- A layer fails or not whatever the loader is, and then does only what it does to its part. -/
theorem add_eq (loader : Loader) (layer : Layer) :
    loader.add layer = layer.replacement.map fun _ => layer.apply loader := by
  have replaced {layer : Layer} {step : Except ConfigurationFault Loader}
      (replacement : layer.replacement = step.map fun other => some other.configuration)
      (part : layer.part? = none) (dotenv : layer.dotenv? = none) :
      (step.map fun other => loader.withConfiguration other.configuration) =
        layer.replacement.map fun _ => layer.apply loader := by
    cases step with
    | error fault =>
        rw [replacement]
        rfl
    | ok other =>
        simp only [replacement, Layer.apply, Layer.configuration?, part, dotenv, Except.map]
        rfl
  cases layer with
  | preset configuration => rfl
  | text content format =>
      rw [add, withText_eq]
      exact replaced rfl rfl rfl
  | file path content =>
      rw [add, withFile_eq]
      exact replaced rfl rfl rfl
  | optionalFile path content =>
      cases content with
      | missing => rfl
      | directory => rfl
      | bytes content =>
          rw [add, withOptionalFile, withFile_eq]
          · exact replaced rfl rfl rfl
          · nofun
  | «variables» part => rfl
  | dotenv content => rfl

theorem add_ok {layer : Layer} (succeeds : layer.Succeeds) (loader : Loader) :
    loader.add layer = .ok (layer.apply loader) := by
  obtain ⟨configuration?, given⟩ := succeeds
  rw [add_eq, given]
  rfl

/-- A layer that only counts at the end may go before or after one that replaces. -/
theorem add_comm {layer other : Layer} (deferred : layer.isDeferred = true)
    (replaces : other.isDeferred = false) (loader : Loader) :
    (loader.add layer >>= fun loader => loader.add other) =
      loader.add other >>= fun loader => loader.add layer := by
  have quiet : layer.Succeeds := by
    cases layer with
    | «variables» part => exact ⟨none, rfl⟩
    | dotenv content => exact ⟨none, rfl⟩
    | _ => cases deferred
  rw [add_ok quiet, add_eq]
  change (layer.apply loader).add other = _
  rw [add_eq]
  cases other.replacement with
  | error fault => rfl
  | ok configuration? =>
      change Except.ok (other.apply (layer.apply loader)) = (other.apply loader).add layer
      rw [add_ok quiet, Layer.apply_comm deferred replaces]

/-! ## All layers -/

variable {layers : List Layer}

theorem addAll_append (loader : Loader) (before after : List Layer) :
    loader.addAll (before ++ after) = loader.addAll before >>= fun loader => loader.addAll after :=
  List.foldlM_append

theorem addAll_ok (succeed : ∀ layer ∈ layers, layer.Succeeds) (loader : Loader) :
    loader.addAll layers = .ok (layers.foldl (fun loader layer => layer.apply loader) loader) := by
  induction layers generalizing loader with
  | nil => rfl
  | cons layer rest ih =>
      obtain ⟨here, later⟩ := List.forall_mem_cons.mp succeed
      rw [addAll, List.foldlM_cons, add_ok here]
      exact ih later (layer.apply loader)

theorem getLast?_filterMap_cons {α : Type} (given? : Layer → Option α) (layer : Layer)
    (rest : List Layer) :
    ((layer :: rest).filterMap given?).getLast? =
      ((rest.filterMap given?).getLast?).or (given? layer) := by
  rw [List.filterMap_cons]
  cases given? layer with
  | none => rw [Option.or_none]
  | some value => rw [List.getLast?_cons, ← Option.or_some]

theorem foldl_apply (layers : List Layer) (loader : Loader) :
    layers.foldl (fun loader layer => layer.apply loader) loader =
      ⟨((layers.filterMap Layer.configuration?).getLast?).getD loader.configuration,
        ((layers.filterMap Layer.part?).getLast?.map Text.uppercase).or loader.variablePart,
        (layers.filterMap Layer.dotenv?).foldl Dotenv.load loader.environment⟩ := by
  induction layers generalizing loader with
  | nil => rfl
  | cons layer rest ih =>
      have files : ((layer :: rest).filterMap Layer.dotenv?).foldl Dotenv.load loader.environment =
          (rest.filterMap Layer.dotenv?).foldl Dotenv.load
            (layer.dotenv?.toList.foldl Dotenv.load loader.environment) := by
        rw [List.filterMap_cons]
        cases layer.dotenv? <;> rfl
      rw [List.foldl_cons, ih, getLast?_filterMap_cons, getLast?_filterMap_cons, files,
        Option.getD_or, Option.map_or, Option.or_assoc]
      rfl

/-- However often one file of variables is added, it is added once. -/
theorem foldl_load_same {contents : List String} {content : String}
    (same : ∀ given ∈ contents, given = content) (environment : Environment) :
    (content :: contents).foldl Dotenv.load environment = Dotenv.load environment content := by
  induction contents with
  | nil => rfl
  | cons given rest ih =>
      obtain ⟨rfl, later⟩ := List.forall_mem_cons.mp same
      rw [List.foldl_cons, List.foldl_cons, Dotenv.load_load]
      exact ih later

/-! ## The normal form -/

/-- What the last layer that replaces a configuration leaves, or the defaults. -/
def baseOf (layers : List Layer) : Configuration :=
  ((layers.filterMap Layer.configuration?).getLast?).getD .default

def partOf (layers : List Layer) : Option String :=
  (layers.filterMap Layer.part?).getLast?.map Text.uppercase

/-- The environment with the variables of the first file added, if there is one. -/
def environmentOf (environment : Environment) (layers : List Layer) : Environment :=
  match layers.filterMap Layer.dotenv? with
  | [] => environment
  | content :: _ => Dotenv.load environment content

/-- The last replacing layer, with the overrides under the last part of names, is validated. -/
def normalForm (environment : Environment) (layers : List Layer) :
    Except ConfigurationFault Configuration := do
  let configuration ←
    match partOf layers with
    | none => .ok (baseOf layers)
    | some part => (baseOf layers).overrideAll part (environmentOf environment layers).items
  configuration.validate
  pure configuration

theorem load_addAll (environment : Environment) (succeed : ∀ layer ∈ layers, layer.Succeeds)
    (one : ∀ first ∈ layers.filterMap Layer.dotenv?, ∀ second ∈ layers.filterMap Layer.dotenv?,
      first = second) :
    ((new environment).addAll layers >>= load) = normalForm environment layers := by
  have files : (layers.filterMap Layer.dotenv?).foldl Dotenv.load environment =
      environmentOf environment layers := by
    unfold environmentOf
    cases contents : layers.filterMap Layer.dotenv? with
    | nil => rfl
    | cons content rest =>
        rw [contents] at one
        refine foldl_load_same ?_ environment
        intro given mem
        exact one given (List.mem_cons_of_mem _ mem) content List.mem_cons_self
  rw [addAll_ok succeed, foldl_apply]
  change load ⟨baseOf layers, (partOf layers).or none,
    (layers.filterMap Layer.dotenv?).foldl Dotenv.load environment⟩ = _
  rw [files, Option.or_none, normalForm, load, overridden]
  cases partOf layers <;> rfl

theorem addAll_error {before after : List Layer} {layer : Layer} {fault : ConfigurationFault}
    (succeed : ∀ earlier ∈ before, earlier.Succeeds) (failed : layer.replacement = .error fault)
    (loader : Loader) : loader.addAll (before ++ layer :: after) = .error fault := by
  rw [addAll_append, addAll_ok succeed]
  change (add _ layer >>= fun loader => loader.addAll after) = _
  rw [add_eq, failed]
  rfl

theorem addAll_exchange {layer other : Layer} (deferred : layer.isDeferred = true)
    (replaces : other.isDeferred = false) (before after : List Layer) (loader : Loader) :
    loader.addAll (before ++ layer :: other :: after) =
      loader.addAll (before ++ other :: layer :: after) := by
  have both (first second : Layer) (loader : Loader) : loader.addAll (first :: second :: after) =
      (loader.add first >>= fun loader => loader.add second) >>=
        fun loader => loader.addAll after := by
    rw [addAll, List.foldlM_cons, bind_assoc]
    rfl
  rw [addAll_append, addAll_append]
  refine bind_congr fun loader => ?_
  rw [both, both, add_comm deferred replaces]

theorem addAll_missing (before after : List Layer) (path : String) (loader : Loader) :
    loader.addAll (before ++ .optionalFile path .missing :: after) =
      loader.addAll (before ++ after) := by
  rw [addAll_append, addAll_append]
  rfl

/-- Layers come to a normal form.  If none of them fails and there is one file of variables, loading
gives the last configuration that was put in place, with the overrides under the last part of names
from the environment and the file, which adds variables to the environment and changes none.  A part
of names or a file of variables may be given before or after a layer that replaces the
configuration, and a file that may be missing and is counts for nothing.  Of layers that fail, the
first one's fault is that of the whole. -/
theorem layers_have_normal_form (environment : Environment) :
    (∀ layers : List Layer, (∀ layer ∈ layers, layer.Succeeds) →
      (∀ first ∈ layers.filterMap Layer.dotenv?, ∀ second ∈ layers.filterMap Layer.dotenv?,
        first = second) →
      ((new environment).addAll layers >>= load) = normalForm environment layers) ∧
      (∀ content, (Dotenv.load environment content).Extends environment ∧
        ∀ name value, environment.valueOf? name = some value →
          (Dotenv.load environment content).valueOf? name = some value) ∧
      (∀ layer other : Layer, layer.isDeferred = true → other.isDeferred = false →
        ∀ before after, (new environment).addAll (before ++ layer :: other :: after) =
          (new environment).addAll (before ++ other :: layer :: after)) ∧
      (∀ before after path,
        (new environment).addAll (before ++ .optionalFile path .missing :: after) =
          (new environment).addAll (before ++ after)) ∧
      ∀ (before after : List Layer) layer fault, (∀ earlier ∈ before, earlier.Succeeds) →
        layer.replacement = .error fault →
          ((new environment).addAll (before ++ layer :: after) >>= load) = .error fault := by
  refine ⟨?_, ?_, ?_, ?_, ?_⟩
  · intro layers succeed one
    exact load_addAll environment succeed one
  · intro content
    have more := Dotenv.load_extends environment content
    exact ⟨more, fun name value held => more.valueOf? held⟩
  · intro layer other deferred replaces before after
    exact addAll_exchange deferred replaces before after (new environment)
  · intro before after path
    exact addAll_missing before after path (new environment)
  · intro before after layer fault succeed failed
    rw [addAll_error succeed failed]
    rfl

/-- A preset with overrides, under a file that may be missing and under one that may not. -/
theorem sample_layers_settle :
    ((new .empty).addAll [.variables "arbiter", .preset .production, .dotenv "A=1",
        .optionalFile "local.toml" .missing] >>= load) =
      normalForm .empty [.variables "arbiter", .preset .production, .dotenv "A=1",
        .optionalFile "local.toml" .missing] ∧
      ((new .empty).addAll [.preset .production, .file "arbiter.toml" .missing,
        .text "" "yaml"] >>= load) = .error (.fileNotFound "arbiter.toml") := by
  obtain ⟨settled, -, -, -, failed⟩ := layers_have_normal_form .empty
  constructor
  · refine settled _ ?_ ?_
    · simp only [List.forall_mem_cons]
      exact ⟨⟨_, rfl⟩, ⟨_, rfl⟩, ⟨_, rfl⟩, ⟨_, rfl⟩, nofun⟩
    · simp [Layer.dotenv?]
  · exact failed [.preset .production] _ (.file "arbiter.toml" .missing) _
      (List.forall_mem_singleton.mpr ⟨_, rfl⟩) rfl

end Loader

end DecisionPoint
