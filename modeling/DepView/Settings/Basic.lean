import DepView.Artifact
import DepView.Store.Path

/-!
The settings of the program and their defaults: where the viewer listens, how the analyzer is
called, and the numbers that go into the two layouts.
-/

namespace DepView

structure RadialSettings where
  centerX : Float
  centerY : Float
  radiusPerNode : Float
  minRadius : Float
  maxRadius : Float
deriving Repr

structure HierarchySettings where
  rankDir : Text
  nodeSep : Float
  rankSep : Float
  edgeSep : Float
deriving Repr

structure Settings where
  port : Int
  dependsJar : Path
  java : Text
  outputName : Text
  openBrowser : Bool
  radial : RadialSettings
  hierarchy : HierarchySettings
deriving Repr

def RadialSettings.standard : RadialSettings :=
  ⟨400.0, 250.0, 40.0, 120.0, 300.0⟩

def HierarchySettings.standard : HierarchySettings :=
  ⟨"TB".toList, 30.0, 60.0, 20.0⟩

def Settings.standard : Settings where
  port := 3000
  dependsJar := Path.ofString "depends.jar"
  java := "java".toList
  outputName := Artifact.outputName
  openBrowser := true
  radial := .standard
  hierarchy := .standard

end DepView
