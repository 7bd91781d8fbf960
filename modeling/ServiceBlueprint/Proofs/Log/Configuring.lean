import ServiceBlueprint.Log.Handler
import ServiceBlueprint.Proofs.Attempt
import ServiceBlueprint.Proofs.Text.LetterCase

/-!
# The handlers of the root logger

A host program adds and removes handlers of its own, changes its environment, drops settings and
configures, in any order. What the host has done to its handlers is told without regard to the
calls that configure. A call that succeeds leaves these handlers and one of this library behind
them; a call that fails leaves level and handlers alone.
-/

namespace ServiceBlueprint.Log

/-- What a host program does. -/
inductive Action where
  | configure (level format : Option String)
  | addHost (id : Nat)
  | removeHost (id : Nat)
  | setEnvironment (e : Environment)
  | dropSettings

def Action.keepsEnvironment : Action → Bool
  | .setEnvironment _ => false
  | _ => true

/-- The argument that is given, unless it is empty, or else the usual text. -/
def effective (given : Option String) (usual : String) : String :=
  (given.filter (· ≠ "")).getD usual

namespace Logging

def argument : Option String → Value
  | none => .null
  | some s => .text s

def call (l : Logging) (level format : Option String) : Attempt Format × Logging :=
  (configure (argument level) (argument format)).run.run l

def perform (l : Logging) : Action → Logging
  | .configure level format => (l.call level format).2
  | .addHost id => l.addHost id
  | .removeHost id => l.removeHost id
  | .setEnvironment e => { l with settings := { l.settings with environment := e } }
  | .dropSettings => { l with settings := l.settings.drop }

/-! ### One call -/

section

variable {α β : Type}

theorem run_bind (x : Configure α) (f : α → Configure β) (l : Logging) :
    (x >>= f).run.run l =
      match x.run.run l with
      | (.ok a, l') => (f a).run.run l'
      | (.error fault, l') => (.error fault, l') := by
  change StateT.run (ExceptT.bindCont f (x.run.run l).1) (x.run.run l).2 = _
  rcases x.run.run l with ⟨_ | a, l'⟩ <;> rfl

theorem run_attempt (y : Attempt α) (l : Logging) : (attempt y).run.run l = (y, l) := by
  cases y <;> rfl

theorem run_get (l : Logging) : (get : Configure Logging).run.run l = (.ok l, l) :=
  rfl

theorem run_set (l' l : Logging) : (set l' : Configure Unit).run.run l = (.ok (), l') :=
  rfl

theorem run_modify (f : Logging → Logging) (l : Logging) :
    (modify f : Configure Unit).run.run l = (.ok (), f l) :=
  rfl

theorem run_pure (a : α) (l : Logging) : (pure a : Configure α).run.run l = (.ok a, l) :=
  rfl

end

variable {l : Logging} {level format : Option String}

theorem textOf_orSetting (given : Option String) (usual : String) :
    textOf (orSetting (argument given) usual) = .ok (effective given usual) := by
  cases given with
  | none => rfl
  | some s =>
    by_cases hs : s = "" <;>
      simp [argument, orSetting, Value.truthy, textOf, effective, hs, Option.filter]

/-- Settings that cannot be read leave nothing else to do. -/
theorem call_of_settings_error {fault : Fault} (h : l.settings.get = .error fault) :
    l.call level format = (.error fault, l) := by
  unfold call configure currentSettings
  simp only [run_bind, run_get, run_attempt, h]

theorem call_of_settings {settings : Settings} {store : SettingsStore}
    (h : l.settings.get = .ok (settings, store)) :
    l.call level format =
      match Level.ofWord (effective level settings.logLevel) with
      | .error fault => (.error fault, { l with settings := store })
      | .ok n =>
        let f := Format.ofWord (effective format settings.logFormat)
        (.ok f, ⟨store, n, l.handlers.filter (!·.isOwn) ++ [.own f], .warning⟩) := by
  unfold call configure currentSettings
  simp only [run_bind, run_get, run_set, run_modify, run_pure, run_attempt, h, textOf_orSetting]
  cases Level.ofWord (effective level settings.logLevel) <;> rfl

end Logging

/-! ### What the host has done -/

/-- The handlers of the host, its environment and the settings that are kept. -/
structure Surroundings where
  hosts : List Nat
  environment : Environment
  kept : Option Settings

namespace Surroundings

def start (e : Environment) : Surroundings := ⟨[], e, none⟩

/-- The settings in force: those that are kept, or such as the environment gives now. -/
def settings (s : Surroundings) : Attempt Settings :=
  match s.kept with
  | some settings => .ok settings
  | none => Settings.ofEnvironment s.environment

def step (s : Surroundings) : Action → Surroundings
  | .configure _ _ => { s with kept := s.settings.toOption }
  | .addHost id => { s with hosts := if id ∈ s.hosts then s.hosts else s.hosts ++ [id] }
  | .removeHost id => { s with hosts := s.hosts.filter (· ≠ id) }
  | .setEnvironment e => { s with environment := e }
  | .dropSettings => { s with kept := none }

/-- A call brings the settings in force to be kept, and no others. -/
theorem settings_step_configure (s : Surroundings) (level format : Option String) :
    (s.step (.configure level format)).settings = s.settings := by
  obtain ⟨hosts, e, _ | kept⟩ := s
  · simp only [settings, step]
    cases Settings.ofEnvironment e <;> rfl
  · rfl

theorem kept_of_settings_error {s : Surroundings} {fault : Fault} (h : s.settings = .error fault) :
    s.kept = none := by
  unfold settings at h
  cases hkept : s.kept with
  | some settings =>
    rw [hkept] at h
    cases h
  | none => rfl

/-- The settings in force are those of an environment that stays the same. -/
def Settled (e : Environment) (s : Surroundings) : Prop :=
  s.environment = e ∧ s.settings = Settings.ofEnvironment e

theorem settled_start (e : Environment) : (start e).Settled e :=
  ⟨rfl, rfl⟩

variable {e : Environment} {s : Surroundings}

theorem Settled.step (h : s.Settled e) {a : Action} (ha : a.keepsEnvironment = true) :
    (s.step a).Settled e := by
  obtain ⟨rfl, hsettings⟩ := h
  cases a with
  | configure level format => exact ⟨rfl, (settings_step_configure s level format).trans hsettings⟩
  | addHost id => exact ⟨rfl, hsettings⟩
  | removeHost id => exact ⟨rfl, hsettings⟩
  | setEnvironment e => cases ha
  | dropSettings => exact ⟨rfl, rfl⟩

theorem Settled.run (h : s.Settled e) {history : List Action}
    (hkeep : ∀ a ∈ history, a.keepsEnvironment = true) :
    (history.foldl Surroundings.step s).Settled e := by
  induction history generalizing s with
  | nil => exact h
  | cons a history ih =>
    obtain ⟨ha, hkeep⟩ := List.forall_mem_cons.mp hkeep
    exact ih (h.step ha) hkeep

end Surroundings

/-! ### What comes of a call -/

/-- The state of logging in its surroundings. Between calls the handler of this library may have
handlers of the host on either side. -/
structure Reflects (s : Surroundings) (l : Logging) : Prop where
  environment : l.settings.environment = s.environment
  kept : l.settings.kept = s.kept
  hosts : l.handlers.filter (!·.isOwn) = s.hosts.map .host

/-- What a call may give and leave behind. -/
inductive Outcome (s : Surroundings) (l : Logging) (level format : Option String) :
    Attempt Format × Logging → Prop where
  | unread (fault : Fault) (hsettings : s.settings = .error fault) :
    Outcome s l level format (.error fault, l)
  | refused (settings : Settings) (store : SettingsStore) (fault : Fault)
    (hsettings : s.settings = .ok settings)
    (hstore : store.environment = s.environment ∧ store.kept = some settings)
    (hlevel : Level.ofWord (effective level settings.logLevel) = .error fault) :
    Outcome s l level format (.error fault, { l with settings := store })
  | installed (settings : Settings) (store : SettingsStore) (n : Level) (f : Format)
    (hsettings : s.settings = .ok settings)
    (hstore : store.environment = s.environment ∧ store.kept = some settings)
    (hlevel : Level.ofWord (effective level settings.logLevel) = .ok n)
    (hformat : f = .ofWord (effective format settings.logFormat)) :
    Outcome s l level format (.ok f, ⟨store, n, s.hosts.map .host ++ [.own f], .warning⟩)

section

variable {s : Surroundings} {l : Logging} {level format : Option String}

theorem Reflects.get_of_error (h : Reflects s l) {fault : Fault} (hs : s.settings = .error fault) :
    l.settings.get = .error fault := by
  have hkept := Surroundings.kept_of_settings_error hs
  unfold Surroundings.settings at hs
  rw [hkept] at hs
  unfold SettingsStore.get
  rw [h.kept, hkept, h.environment]
  exact Attempt.bind_eq_error.mpr (Or.inl hs)

theorem Reflects.get_of_ok (h : Reflects s l) {settings : Settings}
    (hs : s.settings = .ok settings) : ∃ store, l.settings.get = .ok (settings, store) ∧
      store.environment = s.environment ∧ store.kept = some settings := by
  unfold Surroundings.settings at hs
  unfold SettingsStore.get
  rw [h.kept, h.environment]
  cases hkept : s.kept with
  | some kept =>
    rw [hkept] at hs
    cases hs
    exact ⟨_, rfl, h.environment, h.kept.trans hkept⟩
  | none =>
    rw [hkept] at hs
    exact ⟨_, Attempt.bind_eq_ok.mpr ⟨settings, hs, rfl⟩, rfl, rfl⟩

theorem Reflects.outcome (h : Reflects s l) (level format : Option String) :
    Outcome s l level format (l.call level format) := by
  cases hs : s.settings with
  | error fault =>
    rw [Logging.call_of_settings_error (h.get_of_error hs)]
    exact .unread fault hs
  | ok settings =>
    obtain ⟨store, hget, hstore⟩ := h.get_of_ok hs
    rw [Logging.call_of_settings hget, h.hosts]
    cases hlevel : Level.ofWord (effective level settings.logLevel) with
    | error fault => exact .refused settings store fault hs hstore hlevel
    | ok n => exact .installed settings store n _ hs hstore hlevel rfl

/-! ### Histories -/

theorem filter_hosts_own (hosts : List Nat) (f : Format) :
    (hosts.map Handler.host ++ [Handler.own f]).filter (fun h => !h.isOwn) =
      hosts.map .host := by
  simp [List.filter_append, List.filter_map, Handler.isOwn, Function.comp_def]

theorem Reflects.call (h : Reflects s l) (level format : Option String) :
    Reflects (s.step (.configure level format)) (l.call level format).2 := by
  have hstep : (s.step (.configure level format)).kept = s.settings.toOption := rfl
  have hout := h.outcome level format
  generalize l.call level format = result at hout ⊢
  cases hout with
  | unread fault hs =>
    rw [hs] at hstep
    exact ⟨h.environment, (h.kept.trans (Surroundings.kept_of_settings_error hs)).trans hstep.symm,
      h.hosts⟩
  | refused settings store fault hs hstore hlevel =>
    rw [hs] at hstep
    exact ⟨hstore.1, hstore.2.trans hstep.symm, h.hosts⟩
  | installed settings store n f hs hstore hlevel hformat =>
    rw [hs] at hstep
    exact ⟨hstore.1, hstore.2.trans hstep.symm, filter_hosts_own s.hosts f⟩

theorem Reflects.mem_host_iff (h : Reflects s l) (id : Nat) :
    Handler.host id ∈ l.handlers ↔ id ∈ s.hosts := by
  have hmem : Handler.host id ∈ l.handlers ↔
      Handler.host id ∈ l.handlers.filter fun h => !h.isOwn := by
    simp [Handler.isOwn]
  rw [hmem, h.hosts]
  simp

theorem Reflects.addHost (h : Reflects s l) (id : Nat) :
    Reflects (s.step (.addHost id)) (l.addHost id) := by
  refine ⟨h.environment, h.kept, ?_⟩
  change (if l.handlers.contains (Handler.host id) then l.handlers
      else l.handlers ++ [Handler.host id]).filter (fun h => !h.isOwn) =
    (if id ∈ s.hosts then s.hosts else s.hosts ++ [id]).map .host
  have hmem := h.mem_host_iff id
  by_cases hid : id ∈ s.hosts
  · rw [if_pos hid, if_pos (List.contains_iff_mem.mpr (hmem.mpr hid))]
    exact h.hosts
  · rw [if_neg hid, if_neg fun hc => hid (hmem.mp (List.contains_iff_mem.mp hc)),
      List.filter_append, h.hosts, List.map_append]
    rfl

theorem Reflects.removeHost (h : Reflects s l) (id : Nat) :
    Reflects (s.step (.removeHost id)) (l.removeHost id) := by
  refine ⟨h.environment, h.kept, ?_⟩
  change (l.handlers.filter fun h => h ≠ .host id).filter (fun h => !h.isOwn) =
    (s.hosts.filter (· ≠ id)).map .host
  rw [List.filter_comm, h.hosts, List.filter_map]
  simp [Function.comp_def]

/-- Each action changes logging as it changes its surroundings. -/
theorem Reflects.perform (h : Reflects s l) (a : Action) : Reflects (s.step a) (l.perform a) := by
  cases a with
  | configure level format => exact h.call level format
  | addHost id => exact h.addHost id
  | removeHost id => exact h.removeHost id
  | setEnvironment e => exact ⟨rfl, h.kept, h.hosts⟩
  | dropSettings => exact ⟨h.environment, rfl, h.hosts⟩

theorem Reflects.run (h : Reflects s l) (history : List Action) :
    Reflects (history.foldl Surroundings.step s) (history.foldl Logging.perform l) := by
  induction history generalizing s l with
  | nil => exact h
  | cons a history ih => exact ih (h.perform a)

theorem reflects_start (e : Environment) : Reflects (.start e) (.ofEnvironment e) :=
  ⟨rfl, rfl, rfl⟩

end

theorem Format.ofWord_eq_json_iff (word : String) :
    Format.ofWord word = .json ↔ Text.IsCaseOf word "json" := by
  have hword : ∀ c ∈ "json".toList, Text.IsPlainLetter c := by
    simp [Text.IsPlainLetter, Char.isLower]
  rw [← Text.lower_eq_iff hword]
  unfold Format.ofWord
  split <;> simp [*]

/-- Whatever has happened before, a call that succeeds leaves the handlers of the host, in order,
and behind them one of this library in the format that is asked for. A call fails for want of settings
or of a level, and then level and handlers are as before. -/
theorem handlers_after_call (e : Environment) (history : List Action)
    (level format : Option String) :
    let s := history.foldl Surroundings.step (.start e)
    let l := history.foldl Logging.perform (.ofEnvironment e)
    let result := l.call level format
    (∀ f, result.1 = .ok f → ∃ settings, s.settings = .ok settings ∧
      Level.ofWord (effective level settings.logLevel) = .ok result.2.level ∧
      result.2.handlers = s.hosts.map .host ++ [.own f] ∧
      (f = .json ↔ Text.IsCaseOf (effective format settings.logFormat) "json")) ∧
    (∀ fault, result.1 = .error fault →
      result.2.level = l.level ∧ result.2.handlers = l.handlers) ∧
    (∀ fault, result.1 = .error fault ↔ s.settings = .error fault ∨
      ∃ settings, s.settings = .ok settings ∧
        Level.ofWord (effective level settings.logLevel) = .error fault) ∧
    ((∀ a ∈ history, a.keepsEnvironment = true) → s.settings = Settings.ofEnvironment e) := by
  intro s l result
  have hsettled : (∀ a ∈ history, a.keepsEnvironment = true) →
      s.settings = Settings.ofEnvironment e :=
    fun hkeep => ((Surroundings.settled_start e).run hkeep).2
  have hout : Outcome s l level format result :=
    ((reflects_start e).run history).outcome level format
  generalize result = r at hout ⊢
  cases hout with
  | unread fault hs =>
    refine ⟨fun f hf => ?_, fun _ _ => ⟨rfl, rfl⟩, fun fault' => ?_, hsettled⟩
    · cases hf
    · simp [hs]
  | refused settings store fault hs hstore hlevel =>
    refine ⟨fun f hf => ?_, fun _ _ => ⟨rfl, rfl⟩, fun fault' => ?_, hsettled⟩
    · cases hf
    · simp [hs, hlevel]
  | installed settings store n f hs hstore hlevel hformat =>
    refine ⟨fun f' hf => ?_, fun fault hf => ?_, fun fault => ?_, hsettled⟩
    · cases hf
      exact ⟨settings, hs, hlevel, rfl, hformat ▸ Format.ofWord_eq_json_iff _⟩
    · cases hf
    · simp [hs, hlevel]

/-- The second call is refused. -/
example :
    let history : List Action := [.addHost 1, .configure (some "debug") none, .addHost 2,
      .configure (some "basic_format") none, .configure none (some "Json"), .removeHost 1]
    (history.foldl Logging.perform (.ofEnvironment [])).handlers = [.host 2, .own .json] := by
  decide +kernel

end ServiceBlueprint.Log
