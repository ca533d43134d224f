import HarvestTestbed.Config.Decode
import HarvestTestbed.Host.PathContent
import HarvestTestbed.Journal

/-!
# Loading a configuration

A configuration is loaded from a file.  Success is journalled with the path.
-/

namespace HarvestTestbed.SessionConfig

/-- Loads the configuration found at a path. -/
def load (path : String) (content : PathContent) : Except Fault SessionConfig × Journal :=
  match content.readText.bind ofToml with
  | .ok cfg => (.ok cfg, #[⟨.info, "configuration loaded from " ++ path⟩])
  | .error fault => (.error fault, #[])

end HarvestTestbed.SessionConfig
