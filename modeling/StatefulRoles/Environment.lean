import StatefulRoles.App
import StatefulRoles.Cluster.Role
/-!
# The environment of the app container

The role's own variables come first, in order. What the platform adds comes after them, so that it
wins where a name is defined twice.
-/
namespace StatefulRoles.Environment

/-- The resource whose request gives a member GPUs. Mirrors `NVIDIA_GPU_RESOURCE_NAME`. -/
def gpuResource : String := "nvidia.com/gpu"

/-- Where the new layout installs the setup tools. Part of `build_env_vars`. -/
def userBase : EnvVar := ⟨"PYTHONUSERBASE", "/usr/local"⟩

/-- Hides all GPUs; without it the container runtime shows every one of them. Part of
`build_env_vars`. -/
def hiddenDevices : EnvVar := ⟨"NVIDIA_VISIBLE_DEVICES", "VOID"⟩

/-- Does the role ask for a number of GPUs other than zero? Mirrors `gpu_requested`. -/
def requestsGpu (role : Role) : Except Quantity.Error Bool :=
  match role.resources.requests.lookup gpuResource with
  | none => .ok false
  | some amount =>
    match Quantity.parse amount with
    | .ok value => value.differsFromZero.mapError .trap
    | .error e => .error e

/-- Does the setup package have the new layout? Part of `build_env_vars`. -/
def hasNewLayout (setup : Option SetupPackage) : Bool := setup.any (·.useNewLayout)

/-- The variables, given whether the role asks for GPUs. Mirrors `build_env_vars`. -/
def ofRole (role : Role) (setup : Option SetupPackage) (gpu : Bool) : List EnvVar :=
  role.envVars ++ (if hasNewLayout setup then [userBase] else []) ++
    (if gpu then [] else [hiddenDevices])

end StatefulRoles.Environment
