import SpecAtlas.Build.Tool
import SpecAtlas.File.Tree
import SpecAtlas.Text.Word

/-!
# What the build files tell

The build files in a workspace show which build tool it uses, and mostly the name of the project.
Gradle comes first where the files of both are present.

The name is looked for file by file. In a Gradle file it is a quoted text assigned to
`rootProject.name`, or else to the word `name`; in `pom.xml` it is the first `artifactId`. Without
any of these the project has the name of its directory.
-/

namespace SpecAtlas.Build

open File Text

/-- The build files of Gradle. -/
def gradleBuildFiles : List Text := ["build.gradle".toList, "build.gradle.kts".toList]

/-- The build file of Maven. -/
def mavenBuildFile : Text := "pom.xml".toList

/-- The Gradle files that may tell the project's name, in the order in which they are asked. -/
def gradleNameFiles : List Text :=
  ["settings.gradle".toList, "settings.gradle.kts".toList] ++ gradleBuildFiles

/-- Whether there is something in a workspace that has a name. -/
def has (root : Node) (workspace : FilePath) (name : Text) : Except Blockage Bool :=
  root.ask (fun _ => true) (workspace.child name)

/-- The build tool whose files are present. -/
def detect? (root : Node) (workspace : FilePath) : Except Blockage (Option Tool) := do
  if ← gradleBuildFiles.anyM (has root workspace) then return some .gradle
  else if ← has root workspace mavenBuildFile then return some .maven
  else return none

/-- Whether the workspace brings its own Gradle. -/
def hasWrapper (root : Node) (workspace : FilePath) : Except Blockage Bool := has root workspace "gradlew".toList

/-! ## The project's name -/

/-- Whether a character is a quote. -/
def isNameQuote (c : Char) : Bool := c == '\'' || c == '"'

/-- The text in quotes that is assigned at the front of a text. -/
def assigned? (text : Text) : Option Text :=
  match trimLeft text with
  | '=' :: rest =>
    match trimLeft rest with
    | q :: rest =>
      match rest.span (fun c => !isNameQuote c) with
      | (c :: name, _ :: _) => if isNameQuote q then some (c :: name) else none
      | _ => none
    | [] => none
  | _ => none

/-- The text that is first assigned to `key`; with `whole` no word character may stand before the
key. `last` is the character in front of the text. -/
def assignedTo? (key : Text) (whole : Bool) (last : Option Char) : Text → Option Text
  | [] => none
  | c :: text =>
    let here := if whole && last.any isWord then none else (after? key (c :: text)).bind assigned?
    here.or (assignedTo? key whole (some c) text)

/-- The project's name in a Gradle file. -/
def gradleName? (content : Text) : Option Text :=
  (assignedTo? "rootProject.name".toList false none content).or
    (assignedTo? "name".toList true none content)

/-- The text at the front that an element called `artifactId` holds. -/
def artifactHere? (text : Text) : Option Text := do
  match (← after? "<artifactId>".toList text).span (· != '<') with
  | (c :: name, rest) => if startsWith "</artifactId>".toList rest then some (c :: name) else none
  | _ => none

/-- The first artifact that a text names. -/
def mavenName? : Text → Option Text
  | [] => none
  | c :: text => ((artifactHere? (c :: text)).map trim).or (mavenName? text)

/-- What `read` finds in a file of the workspace, if there is one. -/
def fromFile? (root : Node) (workspace : FilePath) (read : Text → Option Text) (name : Text) :
    Except Obstacle (Option Text) := do
  let path := workspace.child name
  if ← (root.ask Node.isFile path).mapError Blockage.obstacle then
    return read (Node.lossyText (← root.read path))
  else return none

/-- The name that a build file tells, the first one that tells a name. -/
def declaredName? (root : Node) (workspace : FilePath) : Except Obstacle (Option Text) := do
  match ← gradleNameFiles.findSomeM? (fromFile? root workspace gradleName?) with
  | some name => return some name
  | none => fromFile? root workspace mavenName? mavenBuildFile

/-- The name of the project in a workspace. A build file that cannot be read ends the search. -/
def projectName (root : Node) (workspace : FilePath) : Text :=
  ((declaredName? root workspace).toOption.bind id).getD workspace.name

end SpecAtlas.Build
