/-
Kernels and their parts as documents.

Main definitions:

* `FrameShader.SensorFormat.toNode`, `FrameShader.Precision.toNode`, `FrameShader.Resource.toNode`,
  `FrameShader.LocalSize.toNode`, `FrameShader.Slot.toNode`, `FrameShader.KernelOptions.toNode`,
  `FrameShader.Kernel.toNode` — the parts as nodes;
* the functions `ofNode?` beside them — the parts read back.
-/

import FrameShader.Document.Node
import FrameShader.Kernel.Basic

set_option relaxedAutoImplicit false
set_option autoImplicit false

namespace FrameShader

/-! ### Names -/

/-- A format by its name. -/
def SensorFormat.toNode (f : SensorFormat) : Node := .text f.name

/-- The format that a node names. -/
def SensorFormat.ofNode? (d : Dialect) : Node → Option SensorFormat :=
  Node.choice? d (SensorFormat.all.map fun f => (f.name, f))

/-- A precision by its name. -/
def Precision.toNode (p : Precision) : Node := .text p.name

/-- The precision that a node names. -/
def Precision.ofNode? (d : Dialect) : Node → Option Precision :=
  Node.choice? d (Precision.all.map fun p => (p.name, p))

/-- A resource by its name. -/
def Resource.toNode (r : Resource) : Node := .text r.name

/-- The resource that a node names. -/
def Resource.ofNode? (d : Dialect) : Node → Option Resource :=
  Node.choice? d (Resource.all.map fun r => (r.name, r))

/-! ### Records -/

/-- A group size as a list of three. -/
def LocalSize.toNode (s : LocalSize) : Node := .list (s.toList.map Node.ofWord)

/-- The group size that a list holds. -/
def LocalSize.ofNode? (d : Dialect) : Node → Option LocalSize
  | .list (x :: y :: z :: rest) =>
      if d.surplus || rest.isEmpty then do return ⟨← x.word?, ← y.word?, ← z.word?⟩ else none
  | _ => none

/-- A slot as a table. -/
def Slot.toNode (s : Slot) : Node :=
  .table
    [("set", .ofWord s.set), ("binding", .ofWord s.binding), ("resource", s.resource.toNode),
     ("array_stride", .ofOption .ofWord s.arrayStride)]

/-- The fields of a slot. -/
def Slot.fields : List Field :=
  [{ name := "set" }, { name := "binding" }, { name := "resource" },
   { name := "array_stride", nullable := true }]

/-- The slot that a node describes. -/
def Slot.ofNode? (d : Dialect) (n : Node) : Option Slot := do
  match ← n.fields? d Slot.fields with
  | [set, binding, resource, stride] =>
      return {
        set := ← Node.required? Node.word? set
        binding := ← Node.required? Node.word? binding
        resource := ← Node.required? (Resource.ofNode? d) resource
        arrayStride := ← Node.required? (Node.orNull? Node.word?) stride }
  | _ => none

/-- Options as a table. -/
def KernelOptions.toNode (o : KernelOptions) : Node :=
  .table
    [("precision", o.precision.toNode), ("debug_symbols", .bool o.debugSymbols),
     ("local_size", o.localSize.toNode)]

/-- The options that a node describes. -/
def KernelOptions.ofNode? (d : Dialect) (n : Node) : Option KernelOptions := do
  match ← n.fields? d
      [{ name := "precision" }, { name := "debug_symbols" }, { name := "local_size" }] with
  | [precision, debugSymbols, localSize] =>
      return {
        precision := ← Node.required? (Precision.ofNode? d) precision
        debugSymbols := ← Node.required? Node.bool? debugSymbols
        localSize := ← Node.required? (LocalSize.ofNode? d) localSize }
  | _ => none

/-- A kernel as a table. -/
def Kernel.toNode (k : Kernel) : Node :=
  .table
    [("entry_point", .text k.entryPoint), ("format", k.format.toNode),
     ("precision", k.precision.toNode), ("assembled_module", .list (k.words.map Node.ofWord)),
     ("bindings", .list (k.slots.map Slot.toNode))]

/-- The kernel that a node describes. -/
def Kernel.ofNode? (d : Dialect) (n : Node) : Option Kernel := do
  match ← n.fields? d
      [{ name := "entry_point" }, { name := "format" }, { name := "precision" },
       { name := "assembled_module" }, { name := "bindings" }] with
  | [entryPoint, format, precision, words, slots] =>
      return {
        entryPoint := ← Node.required? Node.text? entryPoint
        format := ← Node.required? (SensorFormat.ofNode? d) format
        precision := ← Node.required? (Precision.ofNode? d) precision
        words := ← Node.required? (Node.listOf? Node.word?) words
        slots := ← Node.required? (Node.listOf? (Slot.ofNode? d)) slots }
  | _ => none

end FrameShader
