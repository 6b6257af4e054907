import SpecAtlas.Build.Tool
import SpecAtlas.Numeral

/-!
# Running the build tool

The command line that runs the tests of a filter. It carries the time as a property, so that the
build tool never takes its task for up to date.

For a debugger Gradle opens a port of its own choice, Maven the one that it is told; without a port
Maven is not debugged. Port 0 is no port.
-/

namespace SpecAtlas.Build

/-- The port that Gradle opens for a debugger. -/
def gradleDebugPort : Int := 5005

/-- How the tests are to be run. -/
structure Invocation where
  tool : Tool
  /-- The workspace brings its own Gradle. -/
  wrapper : Bool
  filter : Text
  debug : Bool
  port : Option Int
  /-- Milliseconds since 1970. -/
  time : Int

/-- The argument that makes Maven wait for a debugger. -/
def mavenDebugArgument (port : Int) : Text :=
  "-Dmaven.surefire.debug=-agentlib:jdwp=transport=dt_socket,server=y,suspend=y,address=".toList
    ++ Numeral.ofInt port

/-- The program and its arguments. -/
def Invocation.arguments (i : Invocation) : List Text :=
  match i.tool with
  | .gradle =>
    [if i.wrapper then "./gradlew".toList else "gradle".toList, "test".toList, "--tests".toList, i.filter]
      ++ (if i.debug then ["--debug-jvm".toList] else [])
      ++ ["-Dorg.gradle.jvmargs=-Dtest.timestamp=".toList ++ Numeral.ofInt i.time]
  | .maven =>
    ["mvn".toList, "test".toList, "-Dtest=".toList ++ i.filter, "-Dtest.timestamp=".toList ++ Numeral.ofInt i.time]
      ++ match i.port with
        | some port => if i.debug && port != 0 then [mavenDebugArgument port] else []
        | none => []

end SpecAtlas.Build
