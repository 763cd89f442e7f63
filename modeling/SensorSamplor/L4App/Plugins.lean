import SensorSamplor.Core.Dict
import SensorSamplor.Core.JavaText
import SensorSamplor.Core.Outcome
import SensorSamplor.L1Data.Throwable

/-!
# Configuring and loading plugins

Sensor and receiver factories are `Configurable` and `Identifiable`
(`Factory`). The application configures every factory it knows and only then
creates the objects of the active ones (`load`): one factory that refuses
its settings stops them all. `load_ok_iff` says when loading completes, and
`sameOutcome_load_iff` compares two property sets that differ in settings of
inactive factories only.
-/
namespace SensorSamplor

open SensorSamplor.Core SensorSamplor.Core.JavaText

/-- `Properties.getProperty`. -/
abbrev Properties := String → Option String

abbrev Configuration := Dict String String

/-- A factory of objects of type `O`: `create` is `createSensorFor` or
`createReceiver`.
mirrors base/Configurable.java, base/sensor/SensorFactory.java:11-18,
base/receiver/ReceiverFactory.java:9-15 -/
structure Factory (O : Type) where
  State : Type
  new : State
  getIdentifier : String
  getConfigurationKeys : List String
  setConfigurationValues : Configuration → State → Except Throwable State
  create : State → Except Throwable O

/-! ## Reading properties -/

/-- mirrors app/configuration/ConfigurationLoader.java:53-55 -/
def getStringProperty (properties : Properties) (name : String) : Option String := properties name

/-- mirrors app/configuration/ConfigurationLoader.java:68-83, for a value that is not null -/
def getStringListPropertyOf (value : String) : List String :=
  if value = "" then [] else (split ',' value).map trim

/-- mirrors app/configuration/ConfigurationLoader.java:63-66 -/
def getStringListProperty (properties : Properties) (name : String) : Option (List String) :=
  (getStringProperty properties name).map getStringListPropertyOf

/-- mirrors app/SensorSamplor.java:140-149 -/
def getConfigurationItemsFor (properties : Properties) (keys : List String) : Configuration :=
  keys.foldl (fun result key =>
    match getStringProperty properties key with
    | some value => result.insert key value
    | none => result) ∅

theorem lookup_foldl_items (properties : Properties) (keys : List String) (result : Configuration)
    (k : String) : (keys.foldl (fun result key =>
      match getStringProperty properties key with
      | some value => result.insert key value
      | none => result) result).lookup k =
      if k ∈ keys then (properties k).or (result.lookup k) else result.lookup k := by
  induction keys generalizing result with
  | nil => rfl
  | cons key keys ih =>
    rw [List.foldl_cons, ih]
    simp only [getStringProperty, List.mem_cons]
    by_cases hk : k = key
    · subst hk
      cases properties k <;> simp
    · cases properties key with
      | none => simp [hk]
      | some value => simp [hk, AList.lookup_insert_ne hk]

theorem lookup_getConfigurationItemsFor (properties : Properties) (keys : List String) (k : String) :
    (getConfigurationItemsFor properties keys).lookup k = if k ∈ keys then properties k else none := by
  rw [getConfigurationItemsFor, lookup_foldl_items]
  simp

/-- Only the properties of its keys reach a factory. -/
theorem getConfigurationItemsFor_congr {p p' : Properties} {keys : List String}
    (h : ∀ k ∈ keys, p k = p' k) : getConfigurationItemsFor p keys = getConfigurationItemsFor p' keys := by
  unfold getConfigurationItemsFor getStringProperty
  refine List.foldl_ext _ _ _ fun result k hk => ?_
  rw [h k hk]

/-! ## Loading -/

variable {O : Type}

/-- A factory after `setConfigurationValues`. -/
structure Configured (O : Type) where
  getIdentifier : String
  create : Except Throwable O

/-- mirrors app/SensorSamplor.java:136, for one factory -/
def configured (properties : Properties) (f : Factory O) : Except Throwable (Configured O) :=
  (f.setConfigurationValues (getConfigurationItemsFor properties f.getConfigurationKeys) f.new).map
    fun state => ⟨f.getIdentifier, f.create state⟩

/-- mirrors app/SensorSamplor.java:134-138 -/
def configure (properties : Properties) (factories : List (Factory O)) :
    Except Throwable (List (Configured O)) :=
  factories.mapM (configured properties)

/-- mirrors app/SensorSamplor.java:81-87,113-119. `active` is null when the property is
missing, which shows at the first factory. -/
def createActive (active : Option (List String)) : List (Configured O) → Except Throwable (List O)
  | [] => .ok []
  | f :: fs =>
    match active with
    | none => .error .nullPointerException
    | some ids =>
      if f.getIdentifier ∈ ids then do
        let o ← f.create
        let os ← createActive active fs
        return o :: os
      else createActive active fs

/-- mirrors app/SensorSamplor.java:79-88,111-120 -/
def load (properties : Properties) (active : Option (List String)) (factories : List (Factory O)) :
    Except Throwable (List O) := do
  createActive active (← configure properties factories)

/-! ## When loading completes -/

/-- A factory takes its settings. -/
def Accepts (properties : Properties) (f : Factory O) : Prop :=
  ∃ state, f.setConfigurationValues (getConfigurationItemsFor properties f.getConfigurationKeys) f.new =
    .ok state

/-- A factory takes its settings and creates `o`. -/
def Builds (properties : Properties) (f : Factory O) (o : O) : Prop :=
  ∃ state, f.setConfigurationValues (getConfigurationItemsFor properties f.getConfigurationKeys) f.new =
    .ok state ∧ f.create state = .ok o

theorem Builds.accepts {properties : Properties} {f : Factory O} {o : O} (h : Builds properties f o) :
    Accepts properties f := by
  obtain ⟨state, hs, -⟩ := h
  exact ⟨state, hs⟩

/-- A factory that can always create builds from what it accepts. -/
theorem builds_iff_accepts {properties : Properties} {f : Factory O}
    (h : ∀ state, ∃ o, f.create state = .ok o) : (∃ o, Builds properties f o) ↔ Accepts properties f := by
  refine ⟨fun ⟨o, ho⟩ => ho.accepts, fun ⟨state, hs⟩ => ?_⟩
  obtain ⟨o, ho⟩ := h state
  exact ⟨o, state, hs, ho⟩

theorem accepts_iff_configured {properties : Properties} {f : Factory O} :
    Accepts properties f ↔ ∃ c, configured properties f = .ok c := by
  unfold Accepts configured
  simp only [map_eq_ok]
  exact ⟨fun ⟨state, h⟩ => ⟨_, state, h, rfl⟩, fun ⟨_, state, h, _⟩ => ⟨state, h⟩⟩

theorem builds_iff_configured {properties : Properties} {f : Factory O} {o : O} :
    Builds properties f o ↔ ∃ c, configured properties f = .ok c ∧ c.create = .ok o := by
  unfold Builds configured
  simp only [map_eq_ok]
  refine ⟨fun ⟨state, h, ho⟩ => ⟨_, ⟨state, h, rfl⟩, ho⟩, fun ⟨c, ⟨state, h, hc⟩, ho⟩ => ⟨state, h, ?_⟩⟩
  rw [← ho, ← hc]

theorem getIdentifier_configured {properties : Properties} {f : Factory O} {c : Configured O}
    (h : configured properties f = .ok c) : c.getIdentifier = f.getIdentifier := by
  obtain ⟨state, -, rfl⟩ := map_eq_ok.1 h
  rfl

/-- Settings that agree on a factory's keys are taken, or refused, alike. -/
theorem configured_congr {p p' : Properties} {f : Factory O} (h : ∀ k ∈ f.getConfigurationKeys, p k = p' k) :
    configured p f = configured p' f := by
  unfold configured
  rw [getConfigurationItemsFor_congr h]

/-- The factories with an active identifier. -/
def activeOf (ids : List String) (factories : List (Factory O)) : List (Factory O) :=
  factories.filter fun f => decide (f.getIdentifier ∈ ids)

/-- The second loop creates the objects of the active factories in order. -/
theorem createActive_some (ids : List String) (cs : List (Configured O)) :
    createActive (some ids) cs =
      (cs.filter fun c => decide (c.getIdentifier ∈ ids)).mapM Configured.create := by
  induction cs with
  | nil => rfl
  | cons c cs ih =>
    rw [createActive, List.filter_cons]
    by_cases h : c.getIdentifier ∈ ids
    · simp only [h, if_true, decide_true, List.mapM_cons, ih]
    · simp only [h, if_false, decide_false, ih, Bool.false_eq_true]

theorem forall₂_builds {properties : Properties} {fs : List (Factory O)} {cs : List (Configured O)} {os : List O}
    (h : List.Forall₂ (fun f c => configured properties f = .ok c) fs cs) :
    List.Forall₂ (fun (c : Configured O) o => c.create = .ok o) cs os ↔
      List.Forall₂ (Builds properties) fs os := by
  induction h generalizing os with
  | nil => simp only [List.forall₂_nil_left_iff]
  | @cons f c fs cs hc _ ih =>
    simp only [List.forall₂_cons_left_iff, ih, builds_iff_configured, hc, Except.ok.injEq,
      exists_eq_left']

/-- **When loading completes.** With a list of active identifiers, loading
completes exactly when every factory takes its settings, active or not, and
every active one creates its object; the objects stand in the factories'
order. -/
theorem load_ok_iff {properties : Properties} {ids : List String} {factories : List (Factory O)} {os : List O} :
    load properties (some ids) factories = .ok os ↔
      (∀ f ∈ factories, Accepts properties f) ∧
        List.Forall₂ (Builds properties) (activeOf ids factories) os := by
  unfold load configure
  simp only [bind_eq_ok, mapM_eq_ok, createActive_some, accepts_iff_configured, ← exists_forall₂]
  have same : ∀ {cs : List (Configured O)},
      List.Forall₂ (fun f c => configured properties f = .ok c) factories cs →
      List.Forall₂ (fun f c => configured properties f = .ok c) (activeOf ids factories)
        (cs.filter fun c => decide (c.getIdentifier ∈ ids)) := by
    intro cs hcs
    refine List.rel_filter (fun f c hc => ?_) hcs
    show decide (f.getIdentifier ∈ ids) = true ↔ decide (c.getIdentifier ∈ ids) = true
    rw [getIdentifier_configured hc]
  refine ⟨fun ⟨cs, hcs, hos⟩ => ⟨⟨cs, hcs⟩, (forall₂_builds (same hcs)).1 hos⟩, fun ⟨⟨cs, hcs⟩, hos⟩ =>
    ⟨cs, hcs, (forall₂_builds (same hcs)).2 hos⟩⟩

/-- Without the property of the active identifiers no loading completes. -/
theorem load_none {properties : Properties} {factories : List (Factory O)} (h : factories ≠ []) (os : List O) :
    load properties none factories ≠ .ok os := by
  intro hload
  obtain ⟨cs, hcs, hos⟩ := bind_eq_ok.1 hload
  cases cs with
  | nil => exact h (List.forall₂_nil_right_iff.1 (mapM_eq_ok.1 hcs))
  | cons c cs => cases hos

/-! ## Active and inactive factories -/

/-- The identifier stands in the list of active ones; none does when the property is missing. -/
def IsActive (active : Option (List String)) (identifier : String) : Prop := identifier ∈ active.getD []

/-- Every factory that is not active takes its settings. -/
def InactiveAccepted (properties : Properties) (active : Option (List String))
    (factories : List (Factory O)) : Prop :=
  ∀ f ∈ factories, ¬ IsActive active f.getIdentifier → Accepts properties f

/-- There is a list of active identifiers, and its factories build the objects `os`. -/
def ActiveBuild (properties : Properties) (active : Option (List String)) (factories : List (Factory O))
    (os : List O) : Prop :=
  ∃ ids, active = some ids ∧ List.Forall₂ (Builds properties) (activeOf ids factories) os

/-- Loading fails whatever the settings of inactive factories are: there is
no list of active identifiers, or an active factory cannot build its object. -/
def FailsAnyway (properties : Properties) (active : Option (List String)) (factories : List (Factory O)) : Prop :=
  active = none ∨ ∃ f ∈ factories, IsActive active f.getIdentifier ∧ ¬ ∃ o, Builds properties f o

theorem mem_activeOf {ids : List String} {factories : List (Factory O)} {f : Factory O} :
    f ∈ activeOf ids factories ↔ f ∈ factories ∧ IsActive (some ids) f.getIdentifier := by
  rw [activeOf, List.mem_filter, decide_eq_true_iff]
  exact Iff.rfl

/-- Only the settings of inactive factories stand in the way of what the active ones build. -/
theorem load_ok_iff_activeBuild {properties : Properties} {active : Option (List String)}
    {factories : List (Factory O)} (h : factories ≠ []) {os : List O} :
    load properties active factories = .ok os ↔
      InactiveAccepted properties active factories ∧ ActiveBuild properties active factories os := by
  cases active with
  | none => exact iff_of_false (load_none h os) fun ⟨_, _, hids, _⟩ => by cases hids
  | some ids =>
    simp only [ActiveBuild, Option.some.injEq, exists_eq_left', load_ok_iff]
    refine and_congr_left fun hos => ⟨fun h f hf _ => h f hf, fun h f hf => ?_⟩
    by_cases hact : IsActive (some ids) f.getIdentifier
    · obtain ⟨o, ho⟩ := exists_forall₂.1 ⟨os, hos⟩ f (mem_activeOf.2 ⟨hf, hact⟩)
      exact ho.accepts
    · exact h f hf hact

theorem exists_activeBuild {properties : Properties} {active : Option (List String)}
    {factories : List (Factory O)} :
    (∃ os, ActiveBuild properties active factories os) ↔ ¬ FailsAnyway properties active factories := by
  unfold ActiveBuild FailsAnyway
  cases active with
  | none => simp
  | some ids =>
    simp only [Option.some.injEq, exists_eq_left', exists_forall₂, mem_activeOf, reduceCtorEq, false_or]
    push Not
    exact ⟨fun h f hf hact => h f ⟨hf, hact⟩, fun h f hf => h f hf.1 hf.2⟩

/-- What the active factories build depends on their own settings only. -/
theorem activeBuild_congr {p p' : Properties} {active : Option (List String)} {factories : List (Factory O)}
    (agree : ∀ f ∈ factories, IsActive active f.getIdentifier → ∀ k ∈ f.getConfigurationKeys, p k = p' k)
    {os : List O} : ActiveBuild p active factories os ↔ ActiveBuild p' active factories os := by
  unfold ActiveBuild
  refine exists_congr fun ids => and_congr_right fun hids => forall₂_congr_mem fun f hf o => ?_
  subst hids
  obtain ⟨hmem, hact⟩ := mem_activeOf.1 hf
  rw [builds_iff_configured, builds_iff_configured, configured_congr (agree f hmem hact)]

/-- **What two property sets have to share.** When they agree on the keys of
the active factories, loading has the same outcome for both exactly when it
fails for both anyway, or the inactive factories take the settings of both,
or of neither. -/
theorem sameOutcome_load_iff {p p' : Properties} {active : Option (List String)} {factories : List (Factory O)}
    (h : factories ≠ [])
    (agree : ∀ f ∈ factories, IsActive active f.getIdentifier → ∀ k ∈ f.getConfigurationKeys, p k = p' k) :
    SameOutcome (load p active factories) (load p' active factories) ↔
      FailsAnyway p active factories ∨
        (InactiveAccepted p active factories ↔ InactiveAccepted p' active factories) := by
  rw [sameOutcome_iff_of_gates (fun os => load_ok_iff_activeBuild h) (fun os =>
    (load_ok_iff_activeBuild h).trans (and_congr_right' (activeBuild_congr agree).symm)),
    exists_activeBuild, not_not]

end SensorSamplor
