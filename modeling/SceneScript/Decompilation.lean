import SceneScript.Rendering
import SceneScript.Script

/-!
# Decompilation

The text of a whole script: its blocks in the order of the table, each instruction on the line that it records where that is
possible.
-/

namespace SceneScript.Script

/-- The renderer of a script's instructions. -/
def renderer (script : Script) (mode : RenderMode) : Renderer where
  symbols := script.symbols
  invocations := script.invocations
  mode := mode

/-- The text of a script. -/
def decompile (script : Script) (mode : RenderMode) : Except ScriptError String :=
  (script.renderer mode).renderBlocks script.blocks

end SceneScript.Script
