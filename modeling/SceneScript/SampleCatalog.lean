import SceneScript.Catalog

/-!
# A sample catalog

A small catalog for trying things out: it has a command for every rule of rendering, one without parameters, and one that no rule
covers.
-/

namespace SceneScript.Catalog

/-- The names and parameter types of the sample catalog, by opcode. -/
def sampleCommands : List (String × List UInt16) := [
  ("NOP", []),
  ("JUMP", [0x00, 0x02]),
  ("WAIT", [0x03]),
  ("SET", [0x05, 0x05]),
  ("LOG", [0x0A]),
  ("MW", [0x0A]),
  ("SCENE_SET", [0x05, 0x05]),
  ("EV_MODE", [0x0A, 0x19]),
  ("TOPIC_GET", [0x15, 0x0A, 0x19, 0x05]),
  ("FI", [0x03, 0x19]),
  ("EV_START", [0x05, 0x16, 0x05]),
  ("APPEAR", [0x0A]),
  ("TURN", [0x08, 0x0D, 0x14, 0x10, 0x05]),
  ("MSG", [0x15, 0x05])]

/-- The sample catalog. -/
def sample : Catalog :=
  ⟨sampleCommands.zipIdx.map fun ((name, types), index) => ⟨Int16.ofNat index, name, types⟩⟩

end SceneScript.Catalog
