import Metering.Settings.Ini
import Metering.Store.FileTree

/-! # Faults in settings

What can be wrong with a settings file, and with a single setting.
-/

namespace Metering

/-- Why a settings file cannot be used. -/
inductive SettingsFileFault where
  | line (fault : IniFault)
  | file (fault : FileFault)
deriving DecidableEq

def SettingsFileFault.message : SettingsFileFault → String
  | line fault => fault.message
  | file fault => fault.message

/-- Why the value of a setting is refused. -/
inductive SettingFault where
  | policy (found : String)
  | integer (key : String) (least most : Int)
  | choice (found : String) (choices : List String)
  | logFormat (found : String)
deriving DecidableEq

def SettingFault.message : SettingFault → String
  | policy found => s!"expected strict or lenient, got '{found}'"
  | integer key least most => s!"{key} must be an integer between {least} and {most}"
  | choice found choices => s!"'{found}' is not one of " ++ ", ".intercalate choices
  | logFormat found => s!"unknown log format '{found}'"

end Metering
