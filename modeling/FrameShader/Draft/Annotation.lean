/-
Annotations and names: what a draft says about ids that are already defined.

Decorations are always kept, each of them once.  The source and names are kept only if the settings
ask for debug symbols, but their targets are checked in any case; the first name of an id stays.

Main definitions:

* `FrameShader.Build.decorate`, `FrameShader.Build.decorateMember` — decorations;
* `FrameShader.Build.name`, `FrameShader.Build.nameMember`, `FrameShader.Build.source` — debug
  annotations;
* `FrameShader.Build.capability`, `FrameShader.Build.extension`, `FrameShader.Build.importSet` —
  what the module asks of its consumer.
-/

import FrameShader.Draft.Basic

set_option relaxedAutoImplicit false
set_option autoImplicit false

namespace FrameShader

namespace Draft

/-- The members of a record type, provided that `member` is one of them. -/
def recordMember (d : Draft) (target : Id) (member : Word) : Except BuildError Unit :=
  match d.tables.dataTypes.lookup target with
  | some (.record members) =>
      let width := UInt32.ofNat members.length
      if member < width then .ok () else .error (.componentOutOfRange member width)
  | _ => .error (.missingTarget target)

/-- The draft with an annotation, unless the same words are there already. -/
def addToAnnotations (d : Draft) (i : Instruction) : Draft :=
  if d.tables.annotations.contains i.encode then d
  else
    { d with
      tables := { d.tables with annotations := i.encode :: d.tables.annotations }
      sections := { d.sections with annotations := d.sections.annotations ++ [i] } }

/-- The draft with a name for an id or a member, unless it has one or names are not kept. -/
def addName (d : Draft) (target : Id) (member : Option Word) (i : Instruction) : Draft :=
  if !d.settings.debugSymbols || d.tables.names.contains (target, member) then d
  else
    { d with
      tables := { d.tables with names := (target, member) :: d.tables.names }
      sections := { d.sections with names := d.sections.names ++ [i] } }

/-- The draft that states the language it was written in, unless it does so or is not to. -/
def addSource (d : Draft) (language : SourceLanguage) (version : Word) : Draft :=
  if !d.settings.debugSymbols || !d.sections.source.isEmpty then d
  else
    { d with sections := { d.sections with
        source := [.plain .source [.sourceLanguage language, .literal version]] } }

/-- The draft that declares a capability, unless it does so already. -/
def addCapability (d : Draft) (c : Capability) : Draft :=
  if d.tables.capabilities.contains c then d
  else
    { d with
      tables := { d.tables with capabilities := c :: d.tables.capabilities }
      sections := { d.sections with
        capabilities := d.sections.capabilities ++ [.plain .capability [.capability c]] } }

/-- The draft that declares an extension, unless it does so already. -/
def addExtension (d : Draft) (text : String) : Draft :=
  if d.tables.extensions.contains text then d
  else
    { d with
      tables := { d.tables with extensions := text :: d.tables.extensions }
      sections := { d.sections with
        extensions := d.sections.extensions ++ [.plain .extension [.text text]] } }

/-- The draft with one more imported instruction set. -/
def addImport (d : Draft) (text : String) (id : Id) : Draft :=
  { d with
    tables := { d.tables with imports := (text, id) :: d.tables.imports }
    sections := { d.sections with
      imports := d.sections.imports ++ [.defining .extInstImport id [.text text]] } }

end Draft

namespace Build

/-! ### Decorations -/

/-- Adds an annotation of something that is defined. -/
def annotate (target : Id) (i : Instruction) : Build Unit := do
  inspect fun d => if d.isDefined target then .ok () else .error (.missingTarget target)
  modify (·.addToAnnotations i)

/-- Decorates an id.  The same decoration again changes nothing. -/
def decorate (target : Id) (decoration : Decoration) (operands : List Operand) : Build Unit :=
  annotate target (.plain .decorate (.id target :: .decoration decoration :: operands))

/-- Decorates a member of a record type. -/
def decorateMember (target : Id) (member : Word) (decoration : Decoration)
    (operands : List Operand) : Build Unit := do
  inspect (·.recordMember target member)
  annotate target
    (.plain .memberDecorate
      (.id target :: .literal member :: .decoration decoration :: operands))

/-! ### Debug annotations -/

/-- States the language the module was written in.  The first statement stays. -/
def source (language : SourceLanguage) (version : Word) : Build Unit :=
  modify (·.addSource language version)

/-- Names an id.  The first name stays. -/
def name (target : Id) (text : String) : Build Unit := do
  inspect fun d => if d.isVisible target then .ok () else .error (.missingTarget target)
  modify (·.addName target none (.plain .debugName [.id target, .text text]))

/-- Names a member of a record type.  The first name stays. -/
def nameMember (target : Id) (member : Word) (text : String) : Build Unit := do
  inspect (·.recordMember target member)
  modify (·.addName target (some member)
    (.plain .debugMemberName [.id target, .literal member, .text text]))

/-! ### What a module asks for -/

/-- Declares a capability, once. -/
def capability (c : Capability) : Build Unit := modify (·.addCapability c)

/-- Declares an extension, once. -/
def extension (extensionName : String) : Build Unit := modify (·.addExtension extensionName)

/-- The id of an imported instruction set, which is imported at the first request. -/
def importSet (setName : String) : Build Id := do
  match (← get).tables.imports.lookup setName with
  | some id => return id
  | none =>
      let id ← freshId
      modify (·.addImport setName id)
      return id

end Build

end FrameShader
