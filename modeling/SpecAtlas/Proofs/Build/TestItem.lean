import SpecAtlas.Build.TestItem
import SpecAtlas.Proofs.Text.Basic
import SpecAtlas.Proofs.Text.Mark
import SpecAtlas.Source.Heading

/-!
# Identifiers of test items

An identifier is read back at its marks: the file stands in front of the first `#`, the class up to the second one,
and the feature behind that, whatever marks its name has (`itemParts?_itemId`). This needs that the file and the
class have no marks. A file is given so; a class is, since the heading that declares it names it by a word
(`mark_not_mem_name`).
-/

namespace SpecAtlas

open Text Source

namespace Source

/-- A class is named by a word. -/
theorem isWord_of_declaredClass? {heading : List Text} {name : Text} (h : declaredClass? heading = some name) :
    name.all isWord = true := by
  unfold declaredClass? at h
  split at h
  · rename_i keyword word ext base rest
    split at h
    · rename_i hheading
      cases h
      simp only [Bool.and_eq_true] at hheading
      exact hheading.1.1.2
    · contradiction
  · contradiction

/-- The name that a specification heading gives is a word. -/
theorem ClassHeading.isWord_name {line : Text} {heading : ClassHeading} (h : ClassHeading.read? line = some heading) :
    heading.name.all isWord = true := by
  unfold ClassHeading.read? at h
  split at h
  · contradiction
  · split at h
    · obtain ⟨name, hname, rfl⟩ := Option.map_eq_some_iff.1 h
      exact isWord_of_declaredClass? hname
    · obtain ⟨name, hname, rfl⟩ := Option.map_eq_some_iff.1 h
      exact isWord_of_declaredClass? hname

/-- There is no mark in the name of a class. -/
theorem ClassHeading.mark_not_mem_name {line : Text} {heading : ClassHeading}
    (h : ClassHeading.read? line = some heading) : '#' ∉ heading.name :=
  not_mem_of_all (ClassHeading.isWord_name h) (by decide)

end Source

namespace Build

/-! ## Reading back -/

/-- The class of an item, and its feature if it has one. -/
def classAndFeature (item : Text) : Text × Option Text :=
  match cut? ['#'] item with
  | some (className, feature) => (className, some feature)
  | none => (item, none)

/-- The file, the class and the feature that an identifier is made of. -/
def itemParts? (id : Text) : Option (Text × Text × Option Text) :=
  (cut? ['#'] id).map fun (uri, item) => (uri, classAndFeature item)

section

variable {className : Text} (h : '#' ∉ className)

include h

theorem classAndFeature_class : classAndFeature className = (className, none) := by
  rw [classAndFeature, cut?_of_isClear (List.cons_ne_nil _ _) (isClear_of_not_mem h)]

theorem classAndFeature_feature (feature : Text) :
    classAndFeature (className ++ '#' :: feature) = (className, some feature) := by
  rw [classAndFeature, cut?_char h]

end

theorem itemParts?_append {uri : Text} (h : '#' ∉ uri) (item : Text) :
    itemParts? (uri ++ '#' :: item) = some (uri, classAndFeature item) := by
  rw [itemParts?, cut?_char h, Option.map_some]

/-- **An identifier is read back at its first two marks**, whatever marks the name of its feature has. -/
theorem itemParts?_itemId {uri className : Text} {feature : Option Text} (huri : '#' ∉ uri) (hclass : '#' ∉ className)
    (hfeature : feature ≠ some []) :
    itemParts? (itemId uri className (feature.getD [])) = some (uri, className, feature) := by
  cases feature with
  | none =>
      show itemParts? (uri ++ '#' :: className) = _
      rw [itemParts?_append huri, classAndFeature_class hclass]
  | some name =>
      have hname : name ≠ [] := fun h => hfeature (congrArg some h)
      have hid : itemId uri className name = uri ++ '#' :: (className ++ '#' :: name) := by simp [itemId, hname]
      rw [Option.getD_some, hid, itemParts?_append huri, classAndFeature_feature hclass]

/-! ## No collisions -/

/-- **Identifiers do not collide**: two of them are equal only if their files are, their classes and their features.
So no class shares its identifier with a feature, also not where names of features have marks. -/
theorem itemId_eq_iff {uri uri' line line' : Text} {heading heading' : ClassHeading} {feature feature' : Option Text}
    (huri : '#' ∉ uri) (huri' : '#' ∉ uri') (hclass : ClassHeading.read? line = some heading)
    (hclass' : ClassHeading.read? line' = some heading') (hfeature : feature ≠ some [])
    (hfeature' : feature' ≠ some []) :
    itemId uri heading.name (feature.getD []) = itemId uri' heading'.name (feature'.getD []) ↔
      uri = uri' ∧ heading.name = heading'.name ∧ feature = feature' := by
  constructor
  · intro hid
    have hparts := itemParts?_itemId huri (ClassHeading.mark_not_mem_name hclass) hfeature
    rw [hid, itemParts?_itemId huri' (ClassHeading.mark_not_mem_name hclass') hfeature'] at hparts
    simpa [eq_comm] using hparts
  · rintro ⟨rfl, hname, rfl⟩
    rw [hname]

/-- A class and a feature of it, the name of which looks like the rest of an identifier. -/
theorem itemId_markedFeature :
    '#' ∉ "file:///w/A.groovy".toList ∧
      ClassHeading.read? "class A extends Specification \x7b".toList = some ⟨"A".toList, false⟩ ∧
      itemId "file:///w/A.groovy".toList "A".toList [] ≠
        itemId "file:///w/A.groovy".toList "A".toList "#A#b".toList := by
  have huri : '#' ∉ "file:///w/A.groovy".toList := by decide
  have hclass : ClassHeading.read? "class A extends Specification \x7b".toList = some ⟨"A".toList, false⟩ := by decide
  have hnone : (none : Option Text) ≠ some [] := by decide
  have hmarked : some "#A#b".toList ≠ some [] := by decide
  refine ⟨huri, hclass, fun hid => ?_⟩
  exact absurd ((itemId_eq_iff huri huri hclass hclass hnone hmarked).1 hid).2.2 (by decide)

end Build

end SpecAtlas
