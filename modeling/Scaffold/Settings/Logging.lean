import Scaffold.Files.Path
import Scaffold.SortedMap

/-! Settings for logging. Names of levels, formats and destinations are kept as they were given;
they are looked at when logging begins. -/

namespace Scaffold.Settings
structure Logging where
  level : String := "info"
  format : String := "text"
  output : String := "stderr"
  file : Path := "datagen.log"
  color : Bool := true
  modules : SortedMap String := .empty
  deriving DecidableEq, Inhabited

end Scaffold.Settings
