/-
Changes: everything that one step of a call can do to a draft.

Calls are many, but they change a draft in few ways.  Each way is one constructor below, with what
the call has checked before.  Ids are handed out one by one and put to use later, sometimes much
later, so a draft comes with the ids that were handed out and are not in use: its spare ids.  A
change that defines something takes the ids for it from there.

What all calls preserve is proved from here, one case for each change, and not call by call.

Main definitions:

* `FrameShader.Draft.Sees` — a value can be seen and has the type it claims;
* `FrameShader.Draft.TypeDefinition`, `FrameShader.Draft.ConstantDefinition` — the instructions that
  define types and constants;
* `FrameShader.Draft.Emission` — the instructions of a body that have results;
* `FrameShader.Draft.Note` — what may be stated and reported;
* `FrameShader.Draft.bare`, `FrameShader.Draft.unannotated` — a draft without what is said only once;
* `FrameShader.Account` — a draft with its spare ids;
* `FrameShader.Account.Change`, `FrameShader.Account.Changes` — one change, and several.
-/

import FrameShader.Draft.Operation
import Mathlib.Data.List.Forall2
import Mathlib.Data.UInt
import Mathlib.Logic.Relation

set_option relaxedAutoImplicit false
set_option autoImplicit false

namespace FrameShader

namespace Draft

/-! ### What a draft knows -/

/-- The value can be seen, it has the type it claims, and this is the structure of the type. -/
def Sees (d : Draft) (v : Value) (t : DataType) : Prop :=
  d.typeOf? v.id = some v.type ∧ d.tables.dataTypes.lookup v.type = some t

/-- The value belongs to the module and points to where data comes in or goes out. -/
def Exposes (d : Draft) (v : Value) : Prop :=
  d.globalType? v.id = some v.type ∧
    ∃ t, d.tables.dataTypes.lookup v.type = some (.pointer .input t) ∨
      d.tables.dataTypes.lookup v.type = some (.pointer .output t)

/-- The type `t` is interned under this id. -/
def Interned (d : Draft) (t : DataType) (id : Id) : Prop := d.tables.types.lookup t = some id

/-- The signature is that of the function type with this result and these parameters. -/
structure Signs (d : Draft) (result : DataType) (parameters : List DataType) (s : Signature) :
    Prop where
  type : d.Interned (.function result parameters) s.type
  result : d.Interned result s.result
  parameters : List.Forall₂ d.Interned parameters s.parameters

/-- The signature is that of some function type. -/
def HasSignature (d : Draft) (s : Signature) : Prop :=
  ∃ result parameters, d.Signs result parameters s

/-! ### Definitions -/

/-- The instruction that defines a type, by its opcode and its operands.  The parts of the type are
interned already. -/
inductive TypeDefinition (d : Draft) : DataType → Opcode → List Operand → Prop
  | void : TypeDefinition d .void .typeVoid []
  | bool : TypeDefinition d .bool .typeBool []
  | int (width : Word) (signed : Bool) :
      TypeDefinition d (.scalar (.int width signed)) .typeInt [.literal width, Build.flag signed]
  | float (width : Word) : TypeDefinition d (.float width) .typeFloat [.literal width]
  | vector {s : Scalar} {width : Word} {component : Id} (hwidth : isVectorWidth width = true)
      (hs : s ≠ .void) (hc : d.Interned (.scalar s) component) :
      TypeDefinition d (.vector s width) .typeVector [.id component, .literal width]
  | runtimeArray {t : DataType} {element : Id} (he : d.Interned t element) :
      TypeDefinition d (.runtimeArray t) .typeRuntimeArray [.id element]
  | record {ts : List DataType} {members : List Id} (hm : List.Forall₂ d.Interned ts members) :
      TypeDefinition d (.record ts) .typeStruct (members.map .id)
  | pointer {storage : StorageClass} {t : DataType} {pointee : Id} (hp : d.Interned t pointee) :
      TypeDefinition d (.pointer storage t) .typePointer [.storageClass storage, .id pointee]
  | image {shape : ImageShape} {component : Id}
      (hc : d.Interned (.scalar shape.sampledType) component) :
      TypeDefinition d (.image shape) .typeImage
        [.id component, .dim shape.dim, .literal shape.depth, Build.flag shape.arrayed,
          Build.flag shape.multisampled, .literal shape.sampled, .imageFormat shape.format]
  | sampler : TypeDefinition d .sampler .typeSampler []
  | sampledImage {shape : ImageShape} {image : Id} (hi : d.Interned (.image shape) image) :
      TypeDefinition d (.sampledImage (.image shape)) .typeSampledImage [.id image]
  | function {t : DataType} {ts : List DataType} {result : Id} {parameters : List Id}
      (hr : d.Interned t result) (hp : List.Forall₂ d.Interned ts parameters) :
      TypeDefinition d (.function t ts) .typeFunction (.id result :: parameters.map .id)

/-- Types that stay interned define what they define. -/
theorem TypeDefinition.mono {d d' : Draft}
    (h : ∀ {t : DataType} {id : Id}, d.Interned t id → d'.Interned t id) {t : DataType}
    {opcode : Opcode} {operands : List Operand} (ht : d.TypeDefinition t opcode operands) :
    d'.TypeDefinition t opcode operands := by
  have hall {ts : List DataType} {ids : List Id} (hts : List.Forall₂ d.Interned ts ids) :
      List.Forall₂ d'.Interned ts ids := hts.imp fun _ _ => h
  cases ht with
  | void => exact .void
  | bool => exact .bool
  | int width signed => exact .int width signed
  | float width => exact .float width
  | vector hwidth hs hc => exact .vector hwidth hs (h hc)
  | runtimeArray he => exact .runtimeArray (h he)
  | record hm => exact .record (hall hm)
  | pointer hp => exact .pointer (h hp)
  | image hc => exact .image (h hc)
  | sampler => exact .sampler
  | sampledImage hi => exact .sampledImage (h hi)
  | function hr hp => exact .function (h hr) (hall hp)

/-- The instruction that defines the constant with a key, by its opcode, type and operands. -/
inductive ConstantDefinition (d : Draft) : ConstantKey → Opcode → Id → List Operand → Prop
  | bool {value : Bool} {type : Id} (ht : d.Interned .bool type) :
      ConstantDefinition d (.bool value) (if value then .constantTrue else .constantFalse) type []
  | scalar {t : DataType} {type : Id} {value : Literal} (hv : value.suits t = .ok ())
      (ht : d.Interned t type) :
      ConstantDefinition d (.scalar type value) .constant type [value.operand]
  | composite {s : Scalar} {type : Id} {values : List Value}
      (hv : ∀ v ∈ values, d.isConstant v.id = true ∧ d.Sees v (.scalar s))
      (ht : d.Interned (.vector s (UInt32.ofNat values.length)) type) :
      ConstantDefinition d (.composite type (values.map Value.id)) .constantComposite type
        ((values.map Value.id).map .id)

/-! ### Instructions of a body -/

/-- The operations on two numbers, component by component. -/
def isArithmetic (opcode : Opcode) : Prop := opcode ∈ [Opcode.fAdd, .fSub, .fMul, .fMod]

theorem isArithmetic_iff {opcode : Opcode} : isArithmetic opcode ↔
    opcode = .fAdd ∨ opcode = .fSub ∨ opcode = .fMul ∨ opcode = .fMod := by
  simp [isArithmetic]

/-- The instructions with a result that calls add to the open function, by opcode, result type and
operands.  If `short` holds, lists of operands are short enough for their length to be a word. -/
inductive Emission (short : Prop) (d : Draft) : Opcode → Id → List Operand → Prop
  | arithmetic {opcode : Opcode} {a b : Value} {t : DataType} (ho : isArithmetic opcode)
      (ha : d.Sees a t) (hb : d.Sees b t) (hab : a.type = b.type) (ht : t.isFloat = true) :
      Emission short d opcode a.type [.id a.id, .id b.id]
  | vectorTimesScalar {v x : Value} {s : Scalar} {width : Word} (hv : d.Sees v (.vector s width))
      (hx : d.Sees x (.scalar s)) (hs : s.isFloat = true) :
      Emission short d .vectorTimesScalar v.type [.id v.id, .id x.id]
  | dot {a b : Value} {s : Scalar} {width : Word} {type : Id} (ha : d.Sees a (.vector s width))
      (hb : d.Sees b (.vector s width)) (hab : a.type = b.type) (hs : s.isFloat = true)
      (htype : d.Interned (.scalar s) type) :
      Emission short d .dot type [.id a.id, .id b.id]
  | extInst {text : String} {set number : Word} {t : DataType} {type : Id} {args : List Value}
      (htype : d.tables.dataTypes.lookup type = some t) (hargs : ∀ v ∈ args, ∃ u, d.Sees v u)
      (hset : (text, set) ∈ d.tables.imports) :
      Emission short d .extInst type (.id set :: .extInst number :: args.map fun v => .id v.id)
  | convertUToF {v : Value} {t : DataType} {source target : Word} {type : Id}
      (hv : d.Sees v t) (hs : t.scalarOf = .int source false)
      (htype : d.Interned (t.withScalar (.float target)) type) :
      Emission short d .convertUToF type [.id v.id]
  | fOrdEqual {a b : Value} {t : DataType} {type : Id} (ha : d.Sees a t) (hb : d.Sees b t)
      (hab : a.type = b.type) (ht : t.isFloat = true)
      (htype : d.Interned (t.withScalar .bool) type) :
      Emission short d .fOrdEqual type [.id a.id, .id b.id]
  | select {condition accept refuse : Value} {t : DataType} {count : Word}
      (hc : d.Sees condition (t.withScalar .bool)) (ha : d.Sees accept t) (hr : d.Sees refuse t)
      (har : accept.type = refuse.type) (ht : t.components? = some count) :
      Emission short d .select accept.type [.id condition.id, .id accept.id, .id refuse.id]
  | compositeConstruct {s : Scalar} {parts : List Value} {ts : List DataType}
      {counts : List Word} {type : Id} (hparts : List.Forall₂ d.Sees parts ts)
      (hs : ∀ t ∈ ts, t.scalarOf = s) (hcounts : ts.map DataType.components? = counts.map some)
      (hshort : short → parts.length < 2 ^ 30) (htype : d.Interned (.vector s counts.sum) type) :
      Emission short d .compositeConstruct type (parts.map fun v => .id v.id)
  | compositeExtract {v : Value} {s : Scalar} {width index : Word} {type : Id}
      (hv : d.Sees v (.vector s width)) (hi : index < width)
      (htype : d.Interned (.scalar s) type) :
      Emission short d .compositeExtract type [.id v.id, .literal index]
  | vectorShuffle {a b : Value} {s : Scalar} {m n : Word} {indices : List Word} {type : Id}
      (ha : d.Sees a (.vector s m)) (hb : d.Sees b (.vector s n)) (hi : ∀ i ∈ indices, i < m + n)
      (hshort : short → indices.length < 2 ^ 30)
      (htype : d.Interned (.vector s (UInt32.ofNat indices.length)) type) :
      Emission short d .vectorShuffle type (.id a.id :: .id b.id :: indices.map .literal)
  | sampledImage {image sampler : Value} {shape : ImageShape} {type : Id}
      (hi : d.Sees image (.image shape)) (hs : d.Sees sampler .sampler) (hn : shape.sampled ≠ 2)
      (htype : d.Interned (.sampledImage (.image shape)) type) :
      Emission short d .sampledImage type [.id image.id, .id sampler.id]
  | imageSampleExplicitLod {image coordinate lod : Value} {shape : ImageShape} {t : DataType}
      {width : Word} {type : Id} (hi : d.Sees image (.sampledImage (.image shape)))
      (hc : d.Sees coordinate t) (ht : t.isFloat = true)
      (hcount : t.components? = some shape.coordinateWidth)
      (hl : d.Sees lod (.float width)) (htype : d.Interned (.vector shape.sampledType 4) type) :
      Emission short d .imageSampleExplicitLod type
        [.id image.id, .id coordinate.id, .imageOperands .lod, .id lod.id]
  | accessChain {base : Value} {indices : List Value} {storage : StorageClass}
      {pointee part : DataType} {type : Id} (hb : d.Sees base (.pointer storage pointee))
      (hw : d.walk pointee indices = .ok part) (htype : d.Interned (.pointer storage part) type) :
      Emission short d .accessChain type (.id base.id :: indices.map fun v => .id v.id)
  | load {pointer : Value} {storage : StorageClass} {pointee : DataType} {type : Id}
      (hp : d.Sees pointer (.pointer storage pointee)) (htype : d.Interned pointee type) :
      Emission short d .load type [.id pointer.id]
  | functionCall {function : Id} {args : List Value} {s : Signature}
      (hs : d.callable function = .ok s)
      (hargs : List.Forall₂ (fun v p => v.type = p ∧ ∃ t, d.Sees v t) args s.parameters) :
      Emission short d .functionCall s.result (.id function :: args.map fun v => .id v.id)

/-! ### Notes -/

/-- What a step of a call can do to a draft besides defining something: it writes to the log, changes
the settings, or states something about what is defined. -/
inductive Note (d : Draft) : Draft → Prop
  | record (r : LogRecord) : Note d (d.addRecord r)
  | configure (c : SettingsChange) : Note d (d.configure c)
  | capability (c : Capability) : Note d (d.addCapability c)
  | extension (text : String) : Note d (d.addExtension text)
  | entryPoint {text : String} {f : OpenFunction} {interface : List Value}
      (hnew : d.tables.entryPoints.lookup text = none) (hf : d.current = some f)
      (hi : ∀ v ∈ interface, d.Exposes v) : Note d (d.addEntryPoint text f.id interface)
  | executionMode {entryPoint : Id} {mode : ExecutionMode} {literals : List Word}
      (h : d.isEntryPoint entryPoint = true) :
      Note d (d.addExecutionMode entryPoint mode literals)
  | decorate {target : Id} {decoration : Decoration} {operands : List Operand}
      (h : d.isDefined target = true) :
      Note d
        (d.addToAnnotations (.plain .decorate (.id target :: .decoration decoration :: operands)))
  | decorateMember {target : Id} {member : Word} {decoration : Decoration}
      {operands : List Operand} (h : d.isDefined target = true)
      (hm : d.recordMember target member = .ok ()) :
      Note d
        (d.addToAnnotations (.plain .memberDecorate
          (.id target :: .literal member :: .decoration decoration :: operands)))
  | source (language : SourceLanguage) (version : Word) : Note d (d.addSource language version)
  | name {target : Id} {text : String} (h : d.isVisible target = true) :
      Note d (d.addName target none (.plain .debugName [.id target, .text text]))
  | nameMember {target : Id} {member : Word} {text : String}
      (hm : d.recordMember target member = .ok ()) :
      Note d
        (d.addName target (some member)
          (.plain .debugMemberName [.id target, .literal member, .text text]))
  | slot {v : Value} {set binding : Word} (h : d.slotFor v set binding = .ok ()) :
      Note d (d.addSlot set binding v.id)
  | builtIn {builtIn : BuiltIn} {v : Value} {t : DataType}
      (hnew : d.tables.builtIns.lookup builtIn = none)
      (hv : d.tables.globals.lookup v.id = some v.type)
      (ht : d.Interned (.pointer .input t) v.type) : Note d (d.addBuiltIn builtIn v)

/-! ### What is said only once -/

/-- What can be read off a part of the draft is the same as long as this part is. -/
theorem view_eq {part : Draft → Draft} {d d' : Draft} (h : part d' = part d) {α : Type}
    (view : Draft → α) (hview : ∀ d, view (part d) = view d) :
    view d' = view d := by
  rw [← hview d', h, hview]

/-- The draft without capabilities, extensions, the source and names.  Calls look at these only to see
whether they have been stated. -/
def bare (d : Draft) : Draft :=
  { d with
    tables := { d.tables with capabilities := [], extensions := [], names := [] }
    sections := { d.sections with capabilities := [], extensions := [], source := [], names := [] } }

/-- The draft without its annotations, which are stated only once as well. -/
def unannotated (d : Draft) : Draft :=
  { d with
    tables := { d.tables with annotations := [] }
    sections := { d.sections with annotations := [] } }

section

variable (d : Draft)

theorem bare_addCapability (c : Capability) : (d.addCapability c).bare = d.bare := by
  unfold addCapability
  split <;> rfl

theorem bare_addExtension (text : String) : (d.addExtension text).bare = d.bare := by
  unfold addExtension
  split <;> rfl

theorem bare_addSource (language : SourceLanguage) (version : Word) :
    (d.addSource language version).bare = d.bare := by
  unfold addSource
  split <;> rfl

theorem bare_addName (target : Id) (member : Option Word) (i : Instruction) :
    (d.addName target member i).bare = d.bare := by
  unfold addName
  split <;> rfl

theorem unannotated_addToAnnotations (i : Instruction) :
    (d.addToAnnotations i).unannotated = d.unannotated := by
  unfold addToAnnotations
  split <;> rfl

end

end Draft

/-! ### Changes -/

/-- A draft with its spare ids: those that were handed out and that nothing is defined by. -/
structure Account where
  draft : Draft
  spare : List Id

namespace Account

/-- What a step of a call can do to a draft and its spare ids.  The ids that it puts to use stand
first among the spare ones.  Only if the ids are `exhausted` can a reserved id be lost. -/
inductive Change (short exhausted : Prop) : Account → Account → Prop
  /-- Hands out an id. -/
  | take {d : Draft} {ids : List Id} (h : d.nextId.toNat + 1 < UInt32.size) :
      Change short exhausted ⟨d, ids⟩ ⟨d.takeId, d.nextId :: ids⟩
  | importSet {d : Draft} {id : Id} {ids : List Id} {text : String}
      (hnew : d.tables.imports.lookup text = none) :
      Change short exhausted ⟨d, id :: ids⟩ ⟨d.addImport text id, ids⟩
  | defineType {d : Draft} {id : Id} {ids : List Id} {t : DataType} {opcode : Opcode}
      {operands : List Operand} (hnew : d.tables.types.lookup t = none)
      (h : d.TypeDefinition t opcode operands) :
      Change short exhausted ⟨d, id :: ids⟩ ⟨d.addTypeDefinition id t opcode operands, ids⟩
  | defineConstant {d : Draft} {id : Id} {ids : List Id} {key : ConstantKey} {opcode : Opcode}
      {type : Id} {operands : List Operand} (hnew : d.tables.constants.lookup key = none)
      (h : d.ConstantDefinition key opcode type operands) :
      Change short exhausted ⟨d, id :: ids⟩
        ⟨d.addConstantDefinition key opcode type id operands, ids⟩
  | defineVariable {d : Draft} {id : Id} {ids : List Id} {storage : StorageClass} {t : DataType}
      {type : Id} (hs : storage ≠ .function) (ht : d.Interned (.pointer storage t) type) :
      Change short exhausted ⟨d, id :: ids⟩
        ⟨d.addGlobalValue .variable type id [.storageClass storage], ids⟩
  | declare {d : Draft} {id : Id} {ids : List Id} {s : Signature} (hs : d.HasSignature s) :
      Change short exhausted ⟨d, id :: ids⟩ ⟨d.addDeclared id s, ids⟩
  /-- Loses a reserved id. -/
  | forget {d : Draft} {id : Id} {ids : List Id} {s : Signature} (he : exhausted)
      (hd : d.tables.declared.lookup id = some s) :
      Change short exhausted ⟨d, ids⟩ ⟨d.removeDeclared id, id :: ids⟩
  /-- Opens a new function. -/
  | begin {d : Draft} {id label : Id} {ids : List Id} {s : Signature} {values : List Value}
      {control : FunctionControl} (hc : d.current = none) (hs : d.HasSignature s)
      (hv : values.map Value.type = s.parameters) :
      Change short exhausted ⟨d, label :: ((values.map Value.id).reverse ++ id :: ids)⟩
        ⟨d.openBody (.start id s control values label) s, ids⟩
  /-- Opens a function whose id is reserved. -/
  | define {d : Draft} {id label : Id} {ids : List Id} {s : Signature} {values : List Value}
      {control : FunctionControl} (hc : d.current = none)
      (hd : d.tables.declared.lookup id = some s) (hs : d.HasSignature s)
      (hv : values.map Value.type = s.parameters) :
      Change short exhausted ⟨d, label :: ((values.map Value.id).reverse ++ ids)⟩
        ⟨(d.removeDeclared id).openBody (.start id s control values label) s, ids⟩
  /-- Adds an instruction with a result to the open function. -/
  | emit {d : Draft} {id : Id} {ids : List Id} {f : OpenFunction} {opcode : Opcode} {type : Id}
      {operands : List Operand} (hf : d.current = some f) (ht : f.terminated = false)
      (h : d.Emission short opcode type operands) :
      Change short exhausted ⟨d, id :: ids⟩ ⟨d.addResult opcode type id operands, ids⟩
  | store {d : Draft} {ids : List Id} {f : OpenFunction} {pointer value : Value}
      {storage : StorageClass} {pointee : DataType} (hf : d.current = some f)
      (ht : f.terminated = false) (hp : d.Sees pointer (.pointer storage pointee))
      (hv : d.Sees value pointee) :
      Change short exhausted ⟨d, ids⟩
        ⟨d.addToBody (.plain .store [.id pointer.id, .id value.id]), ids⟩
  | leave {d : Draft} {ids : List Id} {f : OpenFunction} {value : Option Value} {void : Id}
      {operands : List Operand} (hf : d.current = some f) (ht : f.terminated = false)
      (hv : d.Interned .void void) (h : d.returnOperands f.result void value = .ok operands) :
      Change short exhausted ⟨d, ids⟩
        ⟨d.addReturn (.plain (Build.returnOpcode value) operands), ids⟩
  | close {d : Draft} {ids : List Id} {f : OpenFunction} (hf : d.current = some f)
      (ht : f.terminated = true) : Change short exhausted ⟨d, ids⟩ ⟨d.closeBody f, ids⟩
  /-- Defines nothing. -/
  | note {d d' : Draft} {ids : List Id} (h : d.Note d') : Change short exhausted ⟨d, ids⟩ ⟨d', ids⟩

/-- Several changes, one after the other. -/
def Changes (short exhausted : Prop) : Account → Account → Prop :=
  Relation.ReflTransGen (Change short exhausted)

namespace Changes

variable {short exhausted : Prop} {a b c : Account}

theorem refl (a : Account) : Changes short exhausted a a := Relation.ReflTransGen.refl

theorem single (h : Change short exhausted a b) : Changes short exhausted a b :=
  Relation.ReflTransGen.single h

theorem trans (h₁ : Changes short exhausted a b) (h₂ : Changes short exhausted b c) :
    Changes short exhausted a c :=
  Relation.ReflTransGen.trans h₁ h₂

/-- A property that every change keeps. -/
theorem preserves {P : Account → Prop}
    (step : ∀ {a b : Account}, Change short exhausted a b → P a → P b)
    (h : Changes short exhausted a b) (ha : P a) : P b := by
  induction h with
  | refl => exact ha
  | tail _ hstep ih => exact step hstep ih

end Changes

/-- What can happen while there are ids can happen in any case. -/
theorem Change.mono {short exhausted exhausted' : Prop} {a b : Account}
    (himp : exhausted → exhausted') (h : Change short exhausted a b) :
    Change short exhausted' a b := by
  cases h with
  | forget he hd => exact .forget (himp he) hd
  | _ => constructor <;> assumption

theorem Changes.mono {short exhausted exhausted' : Prop} {a b : Account}
    (himp : exhausted → exhausted') (h : Changes short exhausted a b) :
    Changes short exhausted' a b :=
  Relation.ReflTransGen.mono (fun _ _ => Change.mono himp) _ _ h

end Account

end FrameShader
