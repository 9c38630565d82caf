import ScopedStore.Model.Record
import ScopedStore.Json.Access

/-!
# Drafts

A draft is what a caller says about an object that does not exist yet: everything but its id and
its version. The id is drawn only when the draft is complete, so that a draft that cannot be read
uses up no id.
-/

set_option autoImplicit false

namespace ScopedStore

/-- What is said about a new object. -/
inductive Draft
  | client (mainWindowId : String)
  | window (workspaceId activeTabId : String) (position : Point) (size : WindowSize)
  | workspace (name : String)
  | tab (name : String)
  | block (definition : BlockDefinition) (runtimeOptions : Option RuntimeOptions)

namespace Draft

/-- The object of a draft under an id. -/
def build (id : String) : Draft → Record
  | client mainWindowId => ⟨.client, Client.new id mainWindowId⟩
  | window workspaceId activeTabId position size =>
      ⟨.window, Window.new id workspaceId activeTabId position size⟩
  | workspace name => ⟨.workspace, Workspace.new id name⟩
  | tab name => ⟨.tab, Tab.new id name⟩
  | block definition runtimeOptions => ⟨.block, Block.new id definition runtimeOptions⟩

/-- Reads the definition and the options of a block. A definition that is null is the empty
one. -/
def readBlock (definition runtimeOptions : Json) :
    Except Json.Fault (BlockDefinition × Option RuntimeOptions) := do
  let definition ← match definition with
    | .null => pure default
    | other => BlockDefinition.described.format.read other
  return (definition,
    ← (Json.Format.optional RuntimeOptions.described.format).read runtimeOptions)

/-- Reads the draft of an object of a kind; the definition and the options of a block are given
apart. -/
def read (kind : Kind) (spec definition runtimeOptions : Json) : Except Json.Fault Draft :=
  match kind with
  | .client => .ok (client (spec.textAt "main_window_id"))
  | .window => do
      let position ← Point.described.format.read (spec.field "pos")
      let size ← WindowSize.described.format.read (spec.field "win_size")
      return window (spec.textAt "workspace_id") (spec.textAt "active_tab_id") position size
  | .workspace => .ok (workspace (spec.textAt "name"))
  | .tab => .ok (tab (spec.textAt "name"))
  | .block => do
      let (definition, runtimeOptions) ← readBlock definition runtimeOptions
      return block definition runtimeOptions

end Draft

end ScopedStore
