import RootFinding.Config

/-!
# Assembling configurations

Every setting writes to one `Parameter` of a configuration, the two limits being one of
them, and leaves the others as they are (`Parameter.read_apply`).  After a list of
settings, a parameter therefore has the value that the last setting that touches it has
given it (`Parameter.read_foldl_apply`).

As a configuration is determined by its parameters (`Config.eq_of_read_eq`), this says
everything about lists of settings: which of them lead to the same configuration, which
settings can change places, and what a second list does to the first one
(`Config.assemblyLaw`).
-/

namespace RootFinding

/-- What a setting can overwrite. -/
inductive Parameter where
  | minIterations
  | maxIterations
  | targetPrecision
  | method
  | limits
  | heuristics
  deriving DecidableEq

/-- The parameter that a setting touches. -/
def Setting.parameter : Setting α -> Parameter
  | .minIterations _ => .minIterations
  | .maxIterations _ => .maxIterations
  | .targetPrecision _ => .targetPrecision
  | .method _ => .method
  | .limits _ _ => .limits
  | .heuristics => .heuristics

namespace Parameter

/-- The values that a parameter can have. -/
def Value (α : Type) : Parameter -> Type
  | .minIterations => Nat
  | .maxIterations => Nat
  | .targetPrecision => α
  | .method => Method α
  | .limits => α × α
  | .heuristics => Bool

/-- The value of a parameter in a configuration. -/
def read (config : Config α) : (parameter : Parameter) -> parameter.Value α
  | .minIterations => config.minIterations
  | .maxIterations => config.maxIterations
  | .targetPrecision => config.targetPrecision
  | .method => config.method
  | .limits => (config.lower, config.upper)
  | .heuristics => config.useHeuristics

/-- The value that a setting gives to a parameter, if it touches it.  The heuristics can
only be switched on. -/
def written? :
    (parameter : Parameter) -> Setting α -> Option (parameter.Value α)
  | .minIterations, .minIterations count => some count
  | .maxIterations, .maxIterations count => some count
  | .targetPrecision, .targetPrecision precision => some precision
  | .method, .method stepping => some stepping
  | .limits, .limits lower upper => some (lower, upper)
  | .heuristics, .heuristics => some true
  | _, _ => none

/-- The value that the last setting of a list that touches a parameter gives to it. -/
def last?
    (parameter : Parameter)
    (settings : List (Setting α)) : Option (parameter.Value α) :=
  (settings.filterMap parameter.written?).getLast?

/-- A setting touches its own parameter only. -/
theorem written?_eq_none_iff
    (parameter : Parameter)
    (setting : Setting α) :
    parameter.written? setting = none ↔ setting.parameter ≠ parameter := by
  cases parameter <;> cases setting <;> simp [written?, Setting.parameter]

/-- A setting overwrites the parameter that it touches, and no other one. -/
theorem read_apply
    (parameter : Parameter)
    (config : Config α)
    (setting : Setting α) :
    parameter.read (config.apply setting) =
      (parameter.written? setting).getD (parameter.read config) := by
  cases parameter <;> cases setting <;> rfl

@[simp] theorem last?_nil (parameter : Parameter) :
    parameter.last? ([] : List (Setting α)) = none := rfl

/-- A setting is the last one that touches a parameter if no later one does. -/
theorem last?_append
    (parameter : Parameter)
    (first second : List (Setting α)) :
    parameter.last? (first ++ second) =
      (parameter.last? second).or (parameter.last? first) := by
  rw [last?, List.filterMap_append, List.getLast?_append]
  rfl

theorem last?_cons
    (parameter : Parameter)
    (setting : Setting α)
    (settings : List (Setting α)) :
    parameter.last? (setting :: settings) =
      (parameter.last? settings).or (parameter.written? setting) := by
  rw [← List.singleton_append, last?_append]
  congr 1
  unfold last?
  cases written : parameter.written? setting with
  | none => rw [List.filterMap_cons_none written]; rfl
  | some value => rw [List.filterMap_cons_some written]; rfl

/-- After a list of settings, a parameter has the last value that was given to it, or the
one that it had before. -/
theorem read_foldl_apply
    (parameter : Parameter)
    (config : Config α)
    (settings : List (Setting α)) :
    parameter.read (settings.foldl Config.apply config) =
      (parameter.last? settings).getD (parameter.read config) := by
  induction settings generalizing config with
  | nil => rfl
  | cons setting settings hypothesis =>
      rw [List.foldl_cons, hypothesis, read_apply, last?_cons]
      cases parameter.last? settings <;> rfl

/-- A list touches a parameter if one of its settings does. -/
theorem last?_eq_none_iff
    (parameter : Parameter)
    (settings : List (Setting α)) :
    parameter.last? settings = none ↔
      ∀ setting ∈ settings, setting.parameter ≠ parameter := by
  rw [last?, List.getLast?_eq_none_iff, List.filterMap_eq_nil_iff]
  exact forall₂_congr fun setting _ => parameter.written?_eq_none_iff setting

/-- Two settings of different parameters can change places. -/
theorem last?_swap
    (parameter : Parameter)
    {first second : Setting α}
    (differ : first.parameter ≠ second.parameter)
    (settings : List (Setting α)) :
    parameter.last? (first :: second :: settings) =
      parameter.last? (second :: first :: settings) := by
  rw [last?_cons, last?_cons, last?_cons, last?_cons]
  -- One of the two settings leaves the parameter as it is.
  by_cases touched : second.parameter = parameter
  · have untouched : parameter.written? first = none :=
      (written?_eq_none_iff ..).mpr (touched ▸ differ)
    rw [untouched, Option.or_none, Option.or_none]
  · have untouched : parameter.written? second = none :=
      (written?_eq_none_iff ..).mpr touched
    rw [untouched, Option.or_none, Option.or_none]

end Parameter

namespace Config

/-- A configuration is determined by its parameters. -/
theorem eq_of_read_eq
    {config config' : Config α}
    (same : ∀ parameter : Parameter,
      parameter.read config = parameter.read config') :
    config = config' := by
  obtain ⟨lower_eq, upper_eq⟩ := Prod.mk.inj (same .limits)
  cases config
  cases config'
  congr
  · exact same .method
  · exact same .minIterations
  · exact same .maxIterations
  · exact same .targetPrecision
  · exact same .heuristics

/-- The builder functions do what the settings say. -/
theorem build_eq_apply :
    (build : Config α -> Setting α -> Config α) = apply := by
  funext config setting
  cases setting <;> rfl

/-- The heuristics are on exactly when they were on before or have been switched on. -/
theorem useHeuristics_foldl_apply
    (config : Config α)
    (settings : List (Setting α)) :
    (settings.foldl apply config).useHeuristics = true ↔
      config.useHeuristics = true ∨ Setting.heuristics ∈ settings := by
  induction settings generalizing config with
  | nil => simp
  | cons setting settings hypothesis =>
      rw [List.foldl_cons, hypothesis, List.mem_cons]
      cases setting <;> simp [apply]

variable [FloatingPoint α]

/-- A parameter has the value of the last setting that touches it, or the default. -/
theorem read_ofSettings
    (settings : List (Setting α))
    (parameter : Parameter) :
    parameter.read (ofSettings settings) =
      (parameter.last? settings).getD (parameter.read default) :=
  parameter.read_foldl_apply default settings

/-- The configuration of a list depends on the last setting of every parameter only. -/
theorem ofSettings_eq_of_last?_eq
    {first second : List (Setting α)}
    (same : ∀ parameter : Parameter,
      parameter.last? first = parameter.last? second) :
    ofSettings first = ofSettings second := by
  refine eq_of_read_eq fun parameter => ?_
  rw [read_ofSettings, read_ofSettings, same parameter]

/-- What lists of settings make of the default configuration. -/
structure AssemblyLaw (α : Type) [FloatingPoint α] : Prop where
  /-- The builder functions that belong to the settings, called one after the other, lead
  to the same configuration as the list itself, and so do the settings one by one. -/
  routes (settings : List (Setting α)) :
    settings.foldl build default = ofSettings settings ∧
      settings.foldl apply default = ofSettings settings
  /-- A parameter has the value of the last setting that touches it, or the default. -/
  read (settings : List (Setting α)) (parameter : Parameter) :
    parameter.read (ofSettings settings) =
      (parameter.last? settings).getD (parameter.read default)
  /-- The heuristics are on exactly when they occur. -/
  useHeuristics_iff (settings : List (Setting α)) :
    (ofSettings settings).useHeuristics = true ↔
      Setting.heuristics ∈ settings
  /-- Lists that agree on the last setting of every parameter lead to the same
  configuration. -/
  agree (first second : List (Setting α)) :
    (∀ parameter : Parameter,
        parameter.last? first = parameter.last? second) ->
      ofSettings first = ofSettings second
  /-- Settings of different parameters can change places, wherever they stand. -/
  swap (before after : List (Setting α)) (first second : Setting α) :
    first.parameter ≠ second.parameter ->
      ofSettings (before ++ first :: second :: after) =
        ofSettings (before ++ second :: first :: after)
  /-- A second list overrides the parameters that it touches. -/
  append_touched (first second : List (Setting α)) (parameter : Parameter) :
    (∃ setting ∈ second, setting.parameter = parameter) ->
      parameter.read (ofSettings (first ++ second)) =
        parameter.read (ofSettings second)
  /-- It leaves the other ones as they are. -/
  append_untouched (first second : List (Setting α)) (parameter : Parameter) :
    (∀ setting ∈ second, setting.parameter ≠ parameter) ->
      parameter.read (ofSettings (first ++ second)) =
        parameter.read (ofSettings first)

/-- All lists of settings obey the law of assembly. -/
theorem assemblyLaw (α : Type) [FloatingPoint α] : AssemblyLaw α := by
  refine
    { routes := fun settings => ⟨?_, rfl⟩
      read := read_ofSettings
      useHeuristics_iff := ?_
      agree := fun first second => ofSettings_eq_of_last?_eq
      swap := ?_
      append_touched := ?_
      append_untouched := ?_ }
  · rw [build_eq_apply, ofSettings]
  · intro settings
    rw [ofSettings, useHeuristics_foldl_apply]
    exact or_iff_right Bool.false_ne_true
  · intro before after first second differ
    refine ofSettings_eq_of_last?_eq fun parameter => ?_
    rw [parameter.last?_append, parameter.last?_append,
      parameter.last?_swap differ]
  · rintro first second parameter ⟨setting, member, touched⟩
    have overridden : parameter.last? second ≠ none := fun untouched =>
      (parameter.last?_eq_none_iff second).mp untouched setting member touched
    obtain ⟨value, last_eq⟩ := Option.ne_none_iff_exists'.mp overridden
    rw [read_ofSettings, read_ofSettings, parameter.last?_append, last_eq]
    rfl
  · intro first second parameter untouched
    rw [read_ofSettings, read_ofSettings, parameter.last?_append,
      (parameter.last?_eq_none_iff second).mpr untouched, Option.none_or]

/-- The second limits override the first ones; what stands between them is kept. -/
example :
    let config : Config Float :=
      ofSettings [.limits (-1.0) 1.0, .maxIterations 10, .limits (-2.0) 3.0]
    (config.lower, config.upper) = (-2.0, 3.0) ∧
      config.maxIterations = 10 ∧
      config.minIterations = defaultMinIterations :=
  ⟨rfl, rfl, rfl⟩

end Config
end RootFinding
