import Scaffold.Proofs.Settings.Leaves

/-! The order of the layers that settings are loaded from. A file that need not be there and is not
counts as an empty layer, so every run has the same five layers, and a file on its own has two. -/

namespace Scaffold.Settings.Config
open Files Toml Layer

/-! ## Settings of layers -/

section Sources
variable {files : FileTree} {env : Environment} {workspace : Path} {explicit? : Option Path}

end Sources

end Scaffold.Settings.Config
