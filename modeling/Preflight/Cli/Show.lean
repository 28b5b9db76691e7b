import Preflight.Config.Layers
import Preflight.Json.Write
import Preflight.Yaml.Emit

/-!
# Showing the configuration

`config show` prints the merged configuration as YAML, or as indented JSON, with keys
sorted either way. A cloud token that is set is never shown: it is replaced by stars. With
sources, each value is shown beside the name of the layer it came from.
-/

set_option autoImplicit false

namespace Preflight.Cli

open Preflight.Config

/-- What stands in for a secret that is set. -/
def redacted : String := "********"

/-- The key of the cloud token. -/
def tokenKey : String := "cloud_token"

/-- The merged configuration as it is shown: a set token hidden, and with `sources` each
value paired with its layer. -/
def shownConfig (c : Config) (sources : Bool) : Value :=
  let items := c.items.map fun s =>
    let value := if Value.sameKey s.key (.str tokenKey) && s.value.truthy then .str redacted
      else s.value
    if sources then
      (s.key, Value.dict [(.str "value", value), (.str "source", .str s.layer.name)])
    else (s.key, value)
  .dict items

/-- The text `config show` prints: YAML, or JSON when asked. -/
def showConfig (c : Config) (json sources : Bool) : String :=
  let v := shownConfig c sources
  if json then Json.write .indentedSorted v ++ "\n" else Yaml.dump v

end Preflight.Cli
