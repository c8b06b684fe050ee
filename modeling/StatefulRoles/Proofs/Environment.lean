import StatefulRoles.Proofs.Quantity
import StatefulRoles.Proofs.Synthesis.Gathering
/-!
# What a role's processes see of the platform

A role that asks for no GPU must see none, and the container runtime shows every one of them
unless the environment says otherwise. Of several definitions of a name the last one counts, so
what the role itself defines cannot undo that.

Results:
* `requestsGpu_verdict`: whether a role asks for GPUs, by the digits of the number that it gives.
* `built_environment`: which values the processes see of a stateful set's environment.
-/
namespace StatefulRoles.Environment

open Decimal Quantity

/-! ## Does the role ask for GPUs? -/

/-- The answer for a number in front of a suffix: finite numbers count as none if the digits of
their mantissa are all zero, and only then unless the product underflows. -/
def Verdict (number : List Char) (suffix : Option Suffix) (answer : Except Quantity.Error Bool) :
    Decimal → Prop
  | .finite _ digits exponent => ∃ gpu, answer = .ok gpu ∧
      (¬ Underflows digits exponent suffix → (gpu = false ↔ ∀ d ∈ mantissa number, d = 0))
  | .infinite _ | .nan false => answer = .ok true
  | .nan true => answer = .error (.trap .invalidOperation)

theorem requestsGpu_of_none {role : Role}
    (h : role.resources.requests.lookup gpuResource = none) : requestsGpu role = .ok false := by
  rw [requestsGpu, h]

theorem requestsGpu_of_ok {role : Role} {amount : String} {value : Decimal}
    (h : role.resources.requests.lookup gpuResource = some amount)
    (read : Quantity.parse amount = .ok value) :
    requestsGpu role = value.differsFromZero.mapError .trap := by
  rw [requestsGpu, h]
  simp only [read]

theorem verdict_of_scaled {number : List Char} {suffix : Option Suffix} {x value : Decimal}
    (hx : ofChars? number = some x) (h : scaled x suffix = .ok value) :
    Verdict number suffix (value.differsFromZero.mapError .trap) x := by
  cases x with
  | finite negative digits exponent =>
    obtain ⟨digits', exponent', rfl, zero, nonzero⟩ := scaled_finite h
    refine ⟨_, rfl, fun normal => ?_⟩
    rw [← ofDigits_eq_zero, ← ofChars_digits hx, decide_eq_false_iff_not, not_not]
    exact ⟨fun hd => by_contra fun hne => nonzero hne normal hd, zero⟩
  | infinite negative => cases suffix <;> cases h <;> rfl
  | nan signaling =>
    cases signaling <;> cases suffix <;> cases h <;> rfl

/-- **Whether a role asks for GPUs.** Without an amount of GPUs it does not. With an amount that
is read, it is the number in front of the suffix that decides: a finite one counts as none exactly
if all the digits of its mantissa are zero, unless it has a suffix and the product underflows; an
infinity and a quiet NaN count as some. A signaling NaN cannot be compared with zero. -/
theorem requestsGpu_verdict (role : Role) :
    (role.resources.requests.lookup gpuResource = none → requestsGpu role = .ok false) ∧
    ∀ amount value, role.resources.requests.lookup gpuResource = some amount →
      Quantity.parse amount = .ok value →
      ∃ number suffix x, Parts amount.toList number suffix ∧ ofChars? number = some x ∧
        Verdict number suffix (requestsGpu role) x := by
  refine ⟨requestsGpu_of_none, fun amount value hamount read => ?_⟩
  obtain ⟨x, hx, h⟩ := parse_eq_ok read
  refine ⟨_, _, x, split_parts amount.toList, hx, ?_⟩
  rw [requestsGpu_of_ok hamount read]
  exact verdict_of_scaled hx h

/-- An amount that hides its only digit other than zero. -/
def tinyAmount : String := "\u00a0-0_0.\u06603e-2 Ki"

/-- A role that asks for nothing, and one that asks for a tiny amount. -/
theorem requestsGpu_verdict_tiny :
    let role : Role := { id := "app", resources := { requests := [(gpuResource, tinyAmount)] } }
    requestsGpu { id := "app" } = .ok false ∧
      Quantity.parse tinyAmount = .ok (.finite true 3072 (-4)) ∧
      ∃ number suffix x, Parts tinyAmount.toList number suffix ∧ ofChars? number = some x ∧
        Verdict number suffix (requestsGpu role) x ∧ mantissa number = [0, 0, 0, 3] := by
  intro role
  have read : Quantity.parse tinyAmount = .ok (.finite true 3072 (-4)) := by decide +kernel
  obtain ⟨number, suffix, x, parts, hx, verdict⟩ :=
    (requestsGpu_verdict role).2 tinyAmount _ (by decide) read
  have digits : mantissa (split tinyAmount.toList).1 = [0, 0, 0, 3] := by decide +kernel
  rw [parts.split_eq] at digits
  exact ⟨(requestsGpu_verdict _).1 rfl, read, number, suffix, x, parts, hx, verdict, digits⟩

/-! ## What the processes see -/

/-- The value of a variable: its last definition counts. -/
def effective (env : List EnvVar) (name : String) : Option String :=
  (env.reverse.find? fun v => v.name = name).map EnvVar.value

theorem effective_append (before after : List EnvVar) (name : String) :
    effective (before ++ after) name = (effective after name).or (effective before name) := by
  rw [effective, List.reverse_append, List.find?_append, Option.map_or, effective, effective]

theorem effective_singleton (v : EnvVar) (name : String) :
    effective [v] name = if v.name = name then some v.value else none := by
  by_cases h : v.name = name <;> simp [effective, h]

/-- The value of every variable of the app container. -/
theorem effective_ofRole (role : Role) (setup : Option SetupPackage) (gpu : Bool) (name : String) :
    effective (ofRole role setup gpu) name =
      if gpu = false ∧ name = "NVIDIA_VISIBLE_DEVICES" then some "VOID"
      else if hasNewLayout setup = true ∧ name = "PYTHONUSERBASE" then some "/usr/local"
      else effective role.envVars name := by
  have hidden : effective (if gpu then [] else [hiddenDevices]) name =
      if gpu = false ∧ name = "NVIDIA_VISIBLE_DEVICES" then some "VOID" else none := by
    cases gpu
    · simp [effective_singleton, hiddenDevices, eq_comm]
    · rfl
  have base : effective (if hasNewLayout setup then [userBase] else []) name =
      if hasNewLayout setup = true ∧ name = "PYTHONUSERBASE" then some "/usr/local" else none := by
    cases hasNewLayout setup
    · rfl
    · simp [effective_singleton, userBase, eq_comm]
  rw [ofRole, effective_append, effective_append, hidden, base]
  split
  · rfl
  · split <;> simp

theorem hasNewLayout_iff {setup : Option SetupPackage} : hasNewLayout setup = true ↔
    ∃ package, setup = some package ∧ package.useNewLayout = true :=
  Option.any_eq_true ..

/-- What a role's processes see: its own variables with their values, apart from the two that the
platform decides about. -/
structure Governed (role : Role) (setup : Option SetupPackage) (env : List EnvVar) : Prop where
  own : role.envVars <+: env
  hidden : requestsGpu role = .ok false → effective env "NVIDIA_VISIBLE_DEVICES" = some "VOID"
  base : (∃ package, setup = some package ∧ package.useNewLayout = true) →
    effective env "PYTHONUSERBASE" = some "/usr/local"
  others : ∀ name, (name = "NVIDIA_VISIBLE_DEVICES" → requestsGpu role = .ok true) →
    (name = "PYTHONUSERBASE" → ∀ package, setup = some package → package.useNewLayout = false) →
    effective env name = effective role.envVars name

theorem governed_ofRole {role : Role} (setup : Option SetupPackage) {gpu : Bool}
    (h : requestsGpu role = .ok gpu) : Governed role setup (ofRole role setup gpu) where
  own := by
    rw [ofRole, List.append_assoc]
    exact List.prefix_append _ _
  hidden hgpu := by
    cases h.symm.trans hgpu
    rw [effective_ofRole, if_pos ⟨rfl, rfl⟩]
  base hbase := by
    rw [effective_ofRole, if_neg fun h => absurd h.2 (by decide),
      if_pos ⟨hasNewLayout_iff.mpr hbase, rfl⟩]
  others name hgpu hbase := by
    have visible : ¬ (gpu = false ∧ name = "NVIDIA_VISIBLE_DEVICES") := by
      rintro ⟨rfl, hname⟩
      cases h.symm.trans (hgpu hname)
    have old : ¬ (hasNewLayout setup = true ∧ name = "PYTHONUSERBASE") := by
      rintro ⟨new, hname⟩
      obtain ⟨package, hsetup, hnew⟩ := hasNewLayout_iff.mp new
      cases (hbase hname package hsetup).symm.trans hnew
    rw [effective_ofRole, if_neg visible, if_neg old]

/-- **The environment of the app container.** Whatever the role defines itself, however often: it
sees no GPU unless it asks for some, it finds the setup tools where the new layout has them, and
every other name has the value that the role gave it, or none. -/
theorem built_environment :
    (∀ role setup gpu, requestsGpu role = .ok gpu →
      Governed role setup (ofRole role setup gpu)) ∧
    ∀ catalog settings cluster role status replicas native s,
      (Synthesis.build catalog settings cluster role status replicas native).result = .ok s →
      ∃ setup pod, catalog (.setupPackage role.id) cluster = .ok setup ∧
        s.spec.template = some pod ∧ Governed role setup pod.app.environment := by
  refine ⟨fun _ setup _ => governed_ofRole setup, ?_⟩
  intro catalog settings cluster role status replicas native s h
  obtain ⟨facts, hfacts, rfl⟩ := Synthesis.build_eq_ok.mp h
  obtain ⟨read, -, gathered⟩ := Synthesis.gather_eq_ok.mp hfacts
  exact ⟨facts.setup, _, gathered.setup, rfl, governed_ofRole facts.setup gathered.gpu⟩

/-- A role that defines both variables of the platform itself, one of them twice. -/
def insistentRole : Role where
  id := "app"
  envVars := [⟨"NVIDIA_VISIBLE_DEVICES", "all"⟩, ⟨"PYTHONUSERBASE", "/opt"⟩, ⟨"MODE", "fast"⟩,
    ⟨"NVIDIA_VISIBLE_DEVICES", "0"⟩]

/-- A catalog whose setup packages have the new layout. -/
def newLayoutCatalog : Catalog
  | .setupPackage _, _ => .ok (some { useNewLayout := true })
  | question, cluster => Synthesis.plainCatalog none question cluster

theorem built_environment_insistent :
    requestsGpu insistentRole = .ok false ∧ Governed insistentRole none
        (insistentRole.envVars ++ [⟨"NVIDIA_VISIBLE_DEVICES", "VOID"⟩]) ∧
      let run := Synthesis.build newLayoutCatalog (.ok {})
        { name := "c", ns := "n", uid := "u", spec := { app := "db" } } insistentRole none 3 none
      ∃ s setup pod, run.result = .ok s ∧
        newLayoutCatalog (.setupPackage "app")
          { name := "c", ns := "n", uid := "u", spec := { app := "db" } } = .ok setup ∧
        s.spec.template = some pod ∧ Governed insistentRole setup pod.app.environment := by
  refine ⟨rfl, built_environment.1 insistentRole none false rfl, ?_⟩
  intro run
  obtain ⟨s, hs⟩ : ∃ s, run.result = .ok s := ⟨_, rfl⟩
  obtain ⟨setup, pod, hsetup, hpod, governed⟩ := built_environment.2 _ _ _ _ _ _ _ s hs
  exact ⟨s, setup, pod, hs, hsetup, hpod, governed⟩

end StatefulRoles.Environment
