/-
Preserving: parts of a draft that most calls do not reach.

A view shows some part of a draft, such as the links between its functions or the places of its
resources.  Calls are long, but they change a draft in few ways, and whether a view sees these is
easily told.

Main definitions:

* `FrameShader.Decoration.isPlacement`, `FrameShader.Instruction.isPlacement` — decorations that say
  where a resource is found;
* `FrameShader.Draft.Steady` — a view that the steps that calls have in common do not reach;
* `FrameShader.Build.Preserves` — a call that preserves what a view shows.

Main results:

* `FrameShader.Operation.run_preserves` — **most operations preserve what a steady view shows**.
-/

import FrameShader.Proofs.Draft.Agreeing
import FrameShader.Proofs.Draft.Runs

set_option relaxedAutoImplicit false
set_option autoImplicit false

namespace FrameShader

/-! ### Decorations -/

/-- Whether the decoration says where a resource is found: in which set, or under which number. -/
def Decoration.isPlacement : Decoration → Bool
  | .descriptorSet | .binding => true
  | _ => false

/-- Whether the instruction says so of some id. -/
def Instruction.isPlacement (i : Instruction) : Bool :=
  match i.opcode, i.operands with
  | .decorate, .id _ :: .decoration decoration :: _ => decoration.isPlacement
  | _, _ => false

/-- Annotations define nothing. -/
theorem Draft.isDefined_addToAnnotations (d : Draft) (i : Instruction) (id : Id) :
    (d.addToAnnotations i).isDefined id = d.isDefined id :=
  view_eq (d.unannotated_addToAnnotations i) (·.isDefined id) fun _ => rfl

/-- Annotations take no ids. -/
theorem Draft.nextId_addToAnnotations (d : Draft) (i : Instruction) :
    (d.addToAnnotations i).nextId = d.nextId :=
  view_eq (d.unannotated_addToAnnotations i) Draft.nextId fun _ => rfl

namespace Build

/-- Decorating an id adds to the annotations, if the id is defined. -/
theorem runOn_decorate (target : Id) (decoration : Decoration) (operands : List Operand)
    (d : Draft) : (decorate target decoration operands).runOn d =
      if d.isDefined target then
        (.ok (), d.addToAnnotations
          (.plain .decorate (.id target :: .decoration decoration :: operands)))
      else (.error (.rejected (.missingTarget target)), d) := by
  rw [decorate, annotate, runOn_bind, runOn_inspect]
  cases d.isDefined target <;> rfl

end Build

/-! ### Views -/

/-- What the view shows is not changed by the steps that calls have in common: all but those that
say where resources are found, and those that link functions to one another. -/
class Draft.Steady {γ : Type} (view : Draft → γ) : Prop where
  addRecord (d : Draft) (r : LogRecord) : view (d.addRecord r) = view d
  takeId (d : Draft) : view d.takeId = view d
  configure (d : Draft) (change : SettingsChange) : view (d.configure change) = view d
  addCapability (d : Draft) (c : Capability) : view (d.addCapability c) = view d
  addExtension (d : Draft) (text : String) : view (d.addExtension text) = view d
  addSource (d : Draft) (language : SourceLanguage) (version : Word) :
    view (d.addSource language version) = view d
  addName (d : Draft) (target : Id) (member : Option Word) (i : Instruction) :
    view (d.addName target member i) = view d
  addToAnnotations (d : Draft) (i : Instruction) (h : i.isPlacement = false) :
    view (d.addToAnnotations i) = view d
  addImport (d : Draft) (text : String) (id : Id) : view (d.addImport text id) = view d
  addTypeDefinition (d : Draft) (id : Id) (t : DataType) (opcode : Opcode)
    (operands : List Operand) : view (d.addTypeDefinition id t opcode operands) = view d
  addConstantDefinition (d : Draft) (key : ConstantKey) (opcode : Opcode) (type id : Id)
    (operands : List Operand) : view (d.addConstantDefinition key opcode type id operands) = view d
  addGlobalValue (d : Draft) (opcode : Opcode) (type id : Id) (operands : List Operand) :
    view (d.addGlobalValue opcode type id operands) = view d
  addSlot (d : Draft) (set binding : Word) (id : Id) : view (d.addSlot set binding id) = view d
  addBuiltIn (d : Draft) (builtIn : BuiltIn) (v : Value) : view (d.addBuiltIn builtIn v) = view d
  addToBody (d : Draft) (i : Instruction) : view (d.addToBody i) = view d
  addResult (d : Draft) (opcode : Opcode) (type id : Id) (operands : List Operand) :
    view (d.addResult opcode type id operands) = view d
  addReturn (d : Draft) (i : Instruction) : view (d.addReturn i) = view d
  openBody (d : Draft) (f : OpenFunction) (s : Signature) : view (d.openBody f s) = view d
  addExecutionMode (d : Draft) (entryPoint : Id) (mode : ExecutionMode) (literals : List Word) :
    view (d.addExecutionMode entryPoint mode literals) = view d

namespace Build

/-- The call preserves what the view shows, whether it succeeds or fails. -/
class Preserves {γ α : Type} (view : Draft → γ) (call : Build α) : Prop where
  same : ∀ d, view (call.runOn d).2 = view d

namespace Preserves

variable {γ α : Type} {view : Draft → γ}

/-- What the view shows stays the same if a call keeps that it is any given thing. -/
theorem of_agrees {call : Build α}
    (h : ∀ c, Agrees (fun d d' => d = d' ∧ view d = c) call) : Preserves view call :=
  ⟨fun d => (h (view d)).keeps rfl⟩

instance inspect (look : Draft → Except BuildError α) : Preserves view (Build.inspect look) :=
  ⟨fun d => by rw [runOn_inspect]⟩

end Preserves

end Build

section steady

variable {γ : Type} {view : Draft → γ} [hview : Draft.Steady view]

/-- The steps that calls have in common do not change what the view shows. -/
instance Draft.Steady.lasting (c : γ) : Draft.Lasting fun d d' => d = d' ∧ view d = c := by
  refine .of_property fun {f d} hf hd => Eq.trans ?_ hd
  cases hf with
  | record r => exact hview.addRecord d r
  | take => exact hview.takeId d
  | capability c => exact hview.addCapability d c
  | name target member i => exact hview.addName d target member i
  | importSet text id => exact hview.addImport d text id
  | defineType id opcode operands => exact hview.addTypeDefinition d id _ opcode operands
  | defineArray id opcode operands =>
      exact (hview.addToAnnotations _ _ rfl).trans (hview.addTypeDefinition d id _ opcode operands)
  | defineConstant key opcode type id operands =>
      exact hview.addConstantDefinition d key opcode type id operands
  | defineVariable type id operands => exact hview.addGlobalValue d .variable type id operands
  | emit opcode type id operands => exact hview.addResult d opcode type id operands
  | store i => exact hview.addToBody d i
  | enter f s => exact hview.openBody d f s
  | leave i => exact hview.addReturn d i

namespace Build.Preserves

/-! ### Calls that are made of such steps -/

instance freshId : Preserves view freshId := of_agrees fun _ => freshId_agrees

instance signature (result : DataType) (parameters : List DataType) :
    Preserves view (signature result parameters) :=
  of_agrees fun _ => (signature_made result parameters).agrees_of_steps

instance enterFunction (id : Id) (text : String) (s : Signature) (control : FunctionControl) :
    Preserves view (enterFunction id text s control) :=
  of_agrees fun _ => (enterFunction_made id text s control).agrees_of_steps

instance beginFunction (text : String) (result : DataType) (parameters : List DataType)
    (control : FunctionControl) : Preserves view (beginFunction text result parameters control) :=
  of_agrees fun _ => (beginFunction_made text result parameters control).agrees_of_steps

end Build.Preserves

end steady

/-! ### Operations -/

/-- Whether the operation writes to the links between functions. -/
def Operation.isLink : Operation → Bool
  | .declareFunction _ _ | .defineFunction _ _ _ _ _ | .beginEntryPoint _ _ | .endFunction => true
  | _ => false

/-- Whether the operation says where a resource is found. -/
def Operation.isPlacement : Operation → Bool
  | .decorate _ decoration _ => decoration.isPlacement
  | .descriptorBinding _ _ _ => true
  | _ => false

namespace Operation

variable {γ : Type} {view : Draft → γ} [hview : Draft.Steady view]

/-- An operation preserves what a steady view shows if its own steps do. -/
theorem run_preserves_of (o : Operation)
    (h : ∀ {f : Draft → Draft}, o.Effect f → ∀ d, view (f d) = view d) :
    Build.Preserves view o.run := by
  refine .of_agrees fun c => o.run_agrees (Draft.respects_of_property fun {f d} hf hd => ?_)
  exact (h hf d).trans hd

/-- **Operations that neither link functions nor place resources preserve what a steady view
shows.** -/
theorem run_preserves (o : Operation) (hlink : o.isLink = false) (hplaces : o.isPlacement = false) :
    Build.Preserves view o.run := by
  refine o.run_preserves_of fun hf d => ?_
  cases hf with
  | configure change => exact hview.configure d change
  | extension text | bufferExtension => exact hview.addExtension d _
  | source language version => exact hview.addSource d language version
  | executionMode id mode literals => exact hview.addExecutionMode d id mode literals
  | localSize id => exact hview.addExecutionMode d id _ _
  | decorate => exact hview.addToAnnotations d _ hplaces
  | decorateMember | block | offset | nonWritable => exact hview.addToAnnotations d _ rfl
  | builtIn builtIn t type id =>
      exact (hview.addBuiltIn _ _ _).trans ((hview.addToAnnotations _ _ rfl).trans
        (hview.addGlobalValue d .variable type id _))
  | declare | define | entryPoint | close => nomatch hlink
  | slot | set | binding => nomatch hplaces

end Operation

end FrameShader
