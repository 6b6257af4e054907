import SpecAtlas.Text.Basic

/-!
# Names of test items

A specification or a feature of it is identified by its file, its class and the feature's name, and
selected on a command line by class and feature. An empty feature name selects the whole class.
-/

namespace SpecAtlas.Build

/-- The identifier of a class, or of a feature of it. -/
def itemId (uri className feature : Text) : Text :=
  if feature.isEmpty then uri ++ '#' :: className else uri ++ '#' :: className ++ '#' :: feature

/-- The filter that selects a class, or a feature of it. -/
def testFilter (className feature : Text) : Text :=
  if feature.isEmpty then className else className ++ '.' :: feature

end SpecAtlas.Build
