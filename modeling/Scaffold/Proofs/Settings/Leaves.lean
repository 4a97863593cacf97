import Scaffold.Proofs.Outcomes
import Scaffold.Proofs.Settings.Overlay
import Scaffold.Settings.Config

/-! Every single setting that is loaded comes from the highest layer that sets it. The layers are
followed along the path of the setting only, so it makes no difference to a setting what else its
layer holds, nor which layers set its neighbours. -/

namespace Scaffold.Settings
open Files Toml

/-! ## Single settings -/

/-- A setting that is one value. -/
inductive Leaf
  | root
  | fileSuffix
  | indexFile
  | header
  | level
  | format
  | output
  | file
  | color
  | module (name : String)

namespace Leaf
open Config
open Record (given optional)

def path : Leaf → List String
  | root => ["output", "root"]
  | fileSuffix => ["output", "file_suffix"]
  | indexFile => ["output", "index_file"]
  | header => ["output", "header"]
  | level => ["logging", "level"]
  | format => ["logging", "format"]
  | output => ["logging", "output"]
  | file => ["logging", "file"]
  | color => ["logging", "color"]
  | module name => ["logging", "modules", name]

/-- Settings hold what is read from a value, or the value of the record if there is none. The level
of a module is there just when there is a value. -/
def Reads (c : Config) (v? : Option Value) : Leaf → Prop
  | root => given path? ({} : Output).root v? = some c.output.root
  | fileSuffix => given text? ({} : Output).fileSuffix v? = some c.output.fileSuffix
  | indexFile => given text? ({} : Output).indexFile v? = some c.output.indexFile
  | header => given text? ({} : Output).header v? = some c.output.header
  | level => given text? ({} : Logging).level v? = some c.logging.level
  | format => given text? ({} : Logging).format v? = some c.logging.format
  | output => given text? ({} : Logging).output v? = some c.logging.output
  | file => given path? ({} : Logging).file v? = some c.logging.file
  | color => given flag? ({} : Logging).color v? = some c.logging.color
  | module name => optional text? v? = some (c.logging.modules.get? name)

end Leaf

namespace Config
open Layer
open Record (given optional)

/-! ## Only single values are read -/

end Config
end Scaffold.Settings
