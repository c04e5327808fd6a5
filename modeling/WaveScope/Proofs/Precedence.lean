import Mathlib
import WaveScope.Settings.Load

/-!
# Which layer a setting comes from

The settings in force are built from the bottom up: the defaults, the settings file over them, the
environment over that, and the command line last, each layer writing only the settings it has a
usable value for.  Read from the top down the same rule says: every setting is taken from the
highest layer that supplies a usable value for it, and from the defaults when none does.

* `SettingsFile.usable`, `envLayer` and `Overrides.layer` say what each layer supplies, with its
  own checks applied: a sample count is raised to at least one, an initial top is kept only when
  finite and above zero, the environment gives a host only when it is not empty and a port only
  when it reads as one, and nothing else.
* `Resolved.ofLayers` takes each setting from the first layer of a list that supplies it.
* `merge_eq_ofLayers`, `applyEnv_ofLayers` and `applyOverrides_ofLayers` say that each step of the
  loader puts its layer on top of the list.
* `getD_findSome?_of_forall` carries a property that every supplied value and the default have
  over to the chosen value.

**Main statement.**  `settings_from_highest_layer`.
-/

namespace WaveScope.Settings

/-! ## What each layer supplies -/

/-- What a settings file supplies: its sample count raised to at least one, and its initial top
only when it is finite and above zero. -/
def SettingsFile.usable (f : SettingsFile) : SettingsFile :=
  { f with
    sampleCount := f.sampleCount.map (max · 1)
    initialYMax := f.initialYMax.bind checkedYMax }

/-- What the environment supplies: the host when it is not empty, the port when it reads as a
port, and nothing else. -/
def envLayer (env : Environment) : SettingsFile :=
  { host := (env.lookup hostVar).filter (fun h => !h.isEmpty)
    port := (env.lookup portVar).bind parsePort }

/-- What the command line supplies, with the same checks on the sample count and the initial top
as the settings file. -/
def Overrides.layer (o : Overrides) : SettingsFile :=
  { host := o.host
    port := o.port
    sampleCount := o.sampleCount.map (max · 1)
    initialYMax := o.initialYMax.bind checkedYMax
    autoScale := o.autoScale
    snapshotDir := o.snapshotDir }

/-- The layers above the defaults, highest first: the command line, the environment and the
settings file, if there is one. -/
def layers (f : Option SettingsFile) (env : Environment) (o : Overrides) : List SettingsFile :=
  [o.layer, envLayer env, (f.map SettingsFile.usable).getD {}]

/-- Each setting from the first layer that supplies it, else from the defaults. -/
def Resolved.ofLayers (ls : List SettingsFile) : Resolved :=
  let d := Resolved.default
  { host := (ls.findSome? (·.host)).getD d.host
    port := (ls.findSome? (·.port)).getD d.port
    sampleCount := (ls.findSome? (·.sampleCount)).getD d.sampleCount
    initialYMax := (ls.findSome? (·.initialYMax)).getD d.initialYMax
    autoScale := (ls.findSome? (·.autoScale)).getD d.autoScale
    reconnectIntervalMs := (ls.findSome? (·.reconnectIntervalMs)).getD d.reconnectIntervalMs
    snapshotDir := (ls.findSome? (·.snapshotDir)).getD d.snapshotDir
    logFilePath := (ls.findSome? (·.logFilePath)).or d.logFilePath }

/-! ## Each step of the loader adds a layer on top -/

/-- A layer on top of others supplies a setting if it has one, and leaves it to them if not. -/
lemma findSome?_cons_eq_or {α : Type} (l : SettingsFile) (ls : List SettingsFile)
    (field : SettingsFile → Option α) :
    (l :: ls).findSome? field = (field l).or (ls.findSome? field) := by
  rw [List.findSome?_cons]
  cases field l <;> rfl

lemma merge_eq_ofLayers (f : Option SettingsFile) :
    merge f = Resolved.ofLayers [(f.map SettingsFile.usable).getD {}] := by
  cases f with
  | none => rfl
  | some f =>
    -- a file without a sample count leaves the default, which is already at least one
    have hd : 1 ≤ SampleWindow.defaultCapacity := by decide
    cases h : f.sampleCount <;>
      simp [merge, Resolved.ofLayers, Resolved.default, SettingsFile.usable, h, hd]

/-- The environment writes the host it supplies, then the port it supplies. -/
lemma applyEnv_eq (r : Resolved) (env : Environment) :
    applyEnv r env =
      { r with
        host := ((env.lookup hostVar).filter (fun h => !h.isEmpty)).getD r.host
        port := ((env.lookup portVar).bind parsePort).getD r.port } := by
  unfold applyEnv
  generalize env.lookup hostVar = oh
  generalize env.lookup portVar = op
  -- an unset variable leaves its setting; a set one is written when it is usable
  rcases oh with _ | h <;> rcases op with _ | p
  · rfl
  · simp only [Option.bind_some]
    cases parsePort p <;> rfl
  · by_cases he : h.isEmpty <;> simp [he, Option.filter]
  · simp only [Option.bind_some]
    cases parsePort p <;> by_cases he : h.isEmpty <;> simp [he, Option.filter]

lemma applyEnv_ofLayers (ls : List SettingsFile) (env : Environment) :
    applyEnv (Resolved.ofLayers ls) env = Resolved.ofLayers (envLayer env :: ls) := by
  simp only [applyEnv_eq, Resolved.ofLayers, findSome?_cons_eq_or, envLayer, Option.getD_or,
    Option.none_or]

lemma applyOverrides_ofLayers (ls : List SettingsFile) (o : Overrides) :
    applyOverrides (Resolved.ofLayers ls) o = Resolved.ofLayers (o.layer :: ls) := by
  simp only [applyOverrides, Resolved.ofLayers, findSome?_cons_eq_or, Overrides.layer,
    Option.getD_or, Option.none_or]

/-- The loader builds exactly the settings read top-down from its layers. -/
lemma resolved_eq_ofLayers (f : Option SettingsFile) (env : Environment) (o : Overrides) :
    applyOverrides (applyEnv (merge f) env) o = Resolved.ofLayers (layers f env o) := by
  rw [merge_eq_ofLayers, applyEnv_ofLayers, applyOverrides_ofLayers, layers]

/-! ## What every layer guarantees -/

/-- A property of every value the layers supply, and of the default, holds of the setting chosen. -/
lemma getD_findSome?_of_forall {α : Type} {P : α → Prop} {ls : List SettingsFile}
    {field : SettingsFile → Option α} {d : α} (h : ∀ l ∈ ls, ∀ a, field l = some a → P a)
    (hd : P d) : P ((ls.findSome? field).getD d) := by
  cases hs : ls.findSome? field with
  | none => exact hd
  | some a =>
    obtain ⟨pre, l, post, hls, hl, -⟩ := List.findSome?_eq_some_iff.mp hs
    exact h l (by simp [hls]) a hl

lemma checkedYMax_eq_some {v a : Float} (h : checkedYMax v = some a) :
    a.isFinite = true ∧ a > 0 := by
  unfold checkedYMax at h
  split at h
  · rename_i hv
    cases h
    simpa using hv
  · cases h

lemma sampleCount_layers_pos (f : Option SettingsFile) (env : Environment) (o : Overrides) :
    ∀ l ∈ layers f env o, ∀ n, l.sampleCount = some n → 1 ≤ n := by
  intro l hl n hn
  simp only [layers, List.mem_cons, List.not_mem_nil, or_false] at hl
  rcases hl with rfl | rfl | rfl
  · obtain ⟨m, -, rfl⟩ := Option.map_eq_some_iff.mp hn
    omega
  · cases hn
  · cases f with
    | none => cases hn
    | some f =>
      obtain ⟨m, -, rfl⟩ := Option.map_eq_some_iff.mp hn
      omega

lemma initialYMax_layers_usable (f : Option SettingsFile) (env : Environment) (o : Overrides) :
    ∀ l ∈ layers f env o, ∀ y, l.initialYMax = some y → y.isFinite = true ∧ y > 0 := by
  intro l hl y hy
  simp only [layers, List.mem_cons, List.not_mem_nil, or_false] at hl
  rcases hl with rfl | rfl | rfl
  · obtain ⟨v, -, hv⟩ := Option.bind_eq_some_iff.mp hy
    exact checkedYMax_eq_some hv
  · cases hy
  · cases f with
    | none => cases hy
    | some f =>
      obtain ⟨v, -, hv⟩ := Option.bind_eq_some_iff.mp hy
      exact checkedYMax_eq_some hv

/-- **Settings precedence.**  For any settings file or none, any environment and any command
line, the settings in force take each setting from the highest layer that supplies a usable
value for it: the command line, then the environment (a host only when not empty, a port only
when its trimmed text reads as one, nothing else), then the settings file, then the defaults.  A
sample count from the file or the command line is raised to at least one, and an initial top
from either is used only when finite and above zero.  So at least one sample is kept, and the
initial top is finite and above zero, whatever the inputs. -/
theorem settings_from_highest_layer (f : Option SettingsFile) (env : Environment) (o : Overrides) :
    let r := applyOverrides (applyEnv (merge f) env) o
    r = Resolved.ofLayers (layers f env o) ∧ 1 ≤ r.sampleCount ∧
      r.initialYMax.isFinite = true ∧ r.initialYMax > 0 := by
  intro r
  have hr : r = Resolved.ofLayers (layers f env o) := resolved_eq_ofLayers f env o
  have hdefault : Resolved.default.initialYMax.isFinite = true ∧ Resolved.default.initialYMax > 0 :=
    ⟨by decide, by decide⟩
  have hcount : 1 ≤ r.sampleCount := by
    rw [hr]
    exact getD_findSome?_of_forall (sampleCount_layers_pos f env o) (by decide)
  have htop : r.initialYMax.isFinite = true ∧ r.initialYMax > 0 := by
    rw [hr]
    exact getD_findSome?_of_forall (initialYMax_layers_usable f env o) hdefault
  exact ⟨hr, hcount, htop⟩

end WaveScope.Settings
