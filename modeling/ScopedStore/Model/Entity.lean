import ScopedStore.Model.Ref

/-!
# The stored objects

One structure for each kind of object, the parts that they are made of, and their form as JSON.
Objects refer to each other by id only; none contains another.

A version counts the writes of an object. It is an unbounded number here and a signed integer of
64 bits as JSON, which no count of writes exceeds.
-/

set_option autoImplicit false

namespace ScopedStore

open Json (Structure Fields Format)

/-- Free data that a caller attaches to a block or a file. -/
abbrev Metadata : Type := SortedMap String Json

/-- Free data as JSON is an object with the same members. -/
def Metadata.format : Format Metadata := .map .any

/-! ## Parts -/

/-- A position on the screen, in pixels. -/
structure Point where
  x : Int32
  y : Int32
  deriving DecidableEq, Inhabited

/-- The size of a window, in pixels. -/
structure WindowSize where
  width : Int32
  height : Int32
  deriving DecidableEq, Inhabited

/-- The size of a terminal, in characters. -/
structure TerminalSize where
  rows : Int32
  columns : Int32
  deriving DecidableEq, Inhabited

/-- A file that belongs to the definition of a block. -/
structure FileDefinition where
  fileType : String
  path : String
  url : String
  content : String
  metadata : Metadata
  deriving DecidableEq, Inhabited

/-- What a caller asks of a new block. -/
structure BlockDefinition where
  controller : String
  view : String
  files : SortedMap String FileDefinition
  metadata : Metadata
  deriving DecidableEq, Inhabited

/-- The sizes with which a block starts. -/
structure RuntimeOptions where
  terminalSize : TerminalSize
  windowSize : WindowSize
  deriving DecidableEq, Inhabited

open Json.Field in
/-- A position as a structure. -/
def Point.described : Structure Point where
  title := "Point"
  fields := Fields.build Point.mk
    |>.andThen (required "x" .int32 Point.x)
    |>.andThen (required "y" .int32 Point.y)

open Json.Field in
/-- A window size as a structure. -/
def WindowSize.described : Structure WindowSize where
  title := "WinSize"
  fields := Fields.build WindowSize.mk
    |>.andThen (required "width" .int32 WindowSize.width)
    |>.andThen (required "height" .int32 WindowSize.height)

open Json.Field in
/-- A terminal size as a structure. -/
def TerminalSize.described : Structure TerminalSize where
  title := "TermSize"
  fields := Fields.build TerminalSize.mk
    |>.andThen (required "rows" .int32 TerminalSize.rows)
    |>.andThen (required "cols" .int32 TerminalSize.columns)

open Json.Field in
/-- A file definition as a structure, of which nothing has to be there. -/
def FileDefinition.described : Structure FileDefinition where
  title := "FileDef"
  fields := Fields.build FileDefinition.mk
    |>.andThen (omitting "filetype" .text FileDefinition.fileType "" String.isEmpty)
    |>.andThen (omitting "path" .text FileDefinition.path "" String.isEmpty)
    |>.andThen (omitting "url" .text FileDefinition.url "" String.isEmpty)
    |>.andThen (omitting "content" .text FileDefinition.content "" String.isEmpty)
    |>.andThen (omitting "meta" Metadata.format FileDefinition.metadata ∅ SortedMap.isEmpty)

open Json.Field in
/-- A block definition as a structure, of which nothing has to be there. -/
def BlockDefinition.described : Structure BlockDefinition where
  title := "BlockDef"
  fields := Fields.build BlockDefinition.mk
    |>.andThen (omitting "controller" .text BlockDefinition.controller "" String.isEmpty)
    |>.andThen (omitting "view" .text BlockDefinition.view "" String.isEmpty)
    |>.andThen (omitting "files" (.map FileDefinition.described.format) BlockDefinition.files ∅
        SortedMap.isEmpty)
    |>.andThen (omitting "meta" Metadata.format BlockDefinition.metadata ∅ SortedMap.isEmpty)

open Json.Field in
/-- Runtime options as a structure, of which nothing has to be there. -/
def RuntimeOptions.described : Structure RuntimeOptions where
  title := "RuntimeOpts"
  fields := Fields.build RuntimeOptions.mk
    |>.andThen (defaulting "termsize" TerminalSize.described.format RuntimeOptions.terminalSize
        ⟨0, 0⟩)
    |>.andThen (defaulting "winsize" WindowSize.described.format RuntimeOptions.windowSize ⟨0, 0⟩)

/-! ## Objects -/

/-- The root object, which names the main window. -/
structure Client where
  id : String
  version : Int
  mainWindowId : String
  deriving DecidableEq, Inhabited

/-- What one window shows. The block that was last active in a tab goes by the id of the tab. The
window last had the focus at a time in milliseconds of Unix time, which is zero if it never had. -/
structure Window where
  id : String
  version : Int
  workspaceId : String
  activeTabId : String
  activeBlocks : SortedMap String String
  position : Point
  size : WindowSize
  lastFocus : Int64
  deriving DecidableEq, Inhabited

/-- A named list of tabs. -/
structure Workspace where
  id : String
  version : Int
  name : String
  tabIds : List String
  deriving DecidableEq, Inhabited

/-- A named list of blocks. -/
structure Tab where
  id : String
  version : Int
  name : String
  blockIds : List String
  deriving DecidableEq, Inhabited

/-- One block of a tab. -/
structure Block where
  id : String
  version : Int
  definition : BlockDefinition
  controller : String
  view : String
  metadata : Metadata
  runtimeOptions : Option RuntimeOptions
  deriving DecidableEq, Inhabited

open Json.Field in
/-- A client as a structure. -/
def Client.described : Structure Client where
  title := "Client"
  fields := Fields.build Client.mk
    |>.andThen (required "oid" .text Client.id)
    |>.andThen (defaulting "version" .counter Client.version 0)
    |>.andThen (required "mainwindowid" .text Client.mainWindowId)

open Json.Field in
/-- A window as a structure. -/
def Window.described : Structure Window where
  title := "Window"
  fields := Fields.build Window.mk
    |>.andThen (required "oid" .text Window.id)
    |>.andThen (defaulting "version" .counter Window.version 0)
    |>.andThen (required "workspaceid" .text Window.workspaceId)
    |>.andThen (required "activetabid" .text Window.activeTabId)
    |>.andThen (defaulting "activeblockmap" (.map .text) Window.activeBlocks ∅)
    |>.andThen (required "pos" Point.described.format Window.position)
    |>.andThen (required "winsize" WindowSize.described.format Window.size)
    |>.andThen (defaulting "lastfocusts" .int64 Window.lastFocus 0)

open Json.Field in
/-- A workspace as a structure. -/
def Workspace.described : Structure Workspace where
  title := "Workspace"
  fields := Fields.build Workspace.mk
    |>.andThen (required "oid" .text Workspace.id)
    |>.andThen (defaulting "version" .counter Workspace.version 0)
    |>.andThen (defaulting "name" .text Workspace.name "")
    |>.andThen (defaulting "tabids" (.list .text) Workspace.tabIds [])

open Json.Field in
/-- A tab as a structure. -/
def Tab.described : Structure Tab where
  title := "Tab"
  fields := Fields.build Tab.mk
    |>.andThen (required "oid" .text Tab.id)
    |>.andThen (defaulting "version" .counter Tab.version 0)
    |>.andThen (defaulting "name" .text Tab.name "")
    |>.andThen (defaulting "blockids" (.list .text) Tab.blockIds [])

open Json.Field in
/-- A block as a structure. -/
def Block.described : Structure Block where
  title := "Block"
  fields := Fields.build Block.mk
    |>.andThen (required "oid" .text Block.id)
    |>.andThen (defaulting "version" .counter Block.version 0)
    |>.andThen (defaulting "blockdef" BlockDefinition.described.format Block.definition default)
    |>.andThen (defaulting "controller" .text Block.controller "")
    |>.andThen (defaulting "view" .text Block.view "")
    |>.andThen (omitting "meta" Metadata.format Block.metadata ∅ SortedMap.isEmpty)
    |>.andThen (omitting "runtimeopts" (.optional RuntimeOptions.described.format)
        Block.runtimeOptions none Option.isNone)

/-! ## New objects -/

/-- A new client, not yet stored. -/
def Client.new (id mainWindowId : String) : Client := ⟨id, 0, mainWindowId⟩

/-- A new window, not yet stored, without active blocks and never focused. -/
def Window.new (id workspaceId activeTabId : String) (position : Point) (size : WindowSize) :
    Window :=
  ⟨id, 0, workspaceId, activeTabId, ∅, position, size, 0⟩

/-- A new workspace without tabs, not yet stored. -/
def Workspace.new (id name : String) : Workspace := ⟨id, 0, name, []⟩

/-- A new tab without blocks, not yet stored. -/
def Tab.new (id name : String) : Tab := ⟨id, 0, name, []⟩

/-- A new block, not yet stored, whose own fields are those of its definition. -/
def Block.new (id : String) (definition : BlockDefinition)
    (runtimeOptions : Option RuntimeOptions) : Block :=
  ⟨id, 0, definition, definition.controller, definition.view, definition.metadata, runtimeOptions⟩

/-! ## What a window shows -/

/-- A window and the tab that is active in it. -/
structure WindowView where
  windowId : String
  activeTabId : String
  deriving DecidableEq, Inhabited

open Json.Field in
/-- A window view as a structure. -/
def WindowView.described : Structure WindowView where
  title := "UIContext"
  fields := Fields.build WindowView.mk
    |>.andThen (required "windowid" .text WindowView.windowId)
    |>.andThen (required "activetabid" .text WindowView.activeTabId)

end ScopedStore
