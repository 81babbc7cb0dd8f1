import ClassForge.Engine
import ClassForge.Text.Quoted

/-!
An engine described on one line: its version, the names of its plugins and its policies.
-/
namespace ClassForge
open Number Text

def FormatVersion.describe (v : FormatVersion) : String :=
  "ClassFileVersion \x7b major: " ++ decimal v.major ++ ", minor: " ++ decimal v.minor ++ " \x7d"

def FailurePolicy.describe : FailurePolicy → String
  | .proceed => "Continue"
  | .failFast notify =>
    "FailFast \x7b notify_listener: " ++ (if notify then "true" else "false") ++ " \x7d"

def InitializerPolicy.describe : InitializerPolicy → String
  | .permit => "Permit"
  | .reject => "Reject"

namespace Engine
variable {ρ σ B : Type}

def pluginNames (e : Engine ρ σ B) : List String := e.plugins.map (·.name)

def describe (e : Engine ρ σ B) : String :=
  "Engine \x7b class_file_version: " ++ e.version.describe ++
    ", plugins: " ++ Quoted.quoteList e.pluginNames ++
    ", failure_policy: " ++ e.failurePolicy.describe ++
    ", initializer_policy: " ++ e.initializerPolicy.describe ++ ", .. \x7d"

end Engine
end ClassForge
