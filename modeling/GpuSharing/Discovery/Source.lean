import GpuSharing.Discovery.Report

/-!
# Discovery sources

Where device descriptors come from. A source is asked for all devices or for one; most
sources find the one among all.
-/

set_option autoImplicit false

namespace GpuSharing

structure DiscoverySource where
  name : String
  discover : Discovery
  describe : String → Except DiscoveryError DeviceDescriptor
  /-- The commands that are run when the source is asked for all devices, or for one. -/
  commands : Option String → List (List String) := fun _ => []

namespace DiscoverySource

def ofDiscovery (name : String) (discover : Discovery) (commands : List (List String)) :
    DiscoverySource :=
  { name
    discover
    describe := discover.describe
    commands := fun _ => commands }

/-- A source that asks a second one whenever the first cannot answer. -/
def fallback (first second : DiscoverySource) : DiscoverySource :=
  { name := "fallback"
    discover :=
      match first.discover with
      | .ok report => .ok report
      | .error _ => second.discover
    describe := fun device =>
      match first.describe device with
      | .ok descriptor => .ok descriptor
      | .error _ => second.describe device
    commands := fun device =>
      let answered := match device with
        | none => first.discover.isOk
        | some device => (first.describe device).isOk
      first.commands device ++ if answered then [] else second.commands device }

end DiscoverySource

end GpuSharing
