/-
Composed calls: calls that are made of operations, one after another.

Whatever every plain operation does, a call that is made of them does too, and this is proved once,
by induction on how the call is composed.  The instances below say so of the operations themselves;
what is built from them is recognised by instance search.

Main definitions:

* `FrameShader.Build.Composed` — a call that is made of plain operations.

Main results:

* `FrameShader.Build.Composed.does` — such a call only makes changes;
* `FrameShader.Build.Composed.agrees` — such a call keeps what the steps of plain operations keep;
* `FrameShader.Build.Composed.commutes` — such a call does not notice what is overlooked.
-/

import FrameShader.Proofs.Draft.Muting
import FrameShader.Proofs.Draft.Runs

set_option relaxedAutoImplicit false
set_option autoImplicit false

namespace FrameShader.Build

/-- The calls that can be spoken about as data only make changes. -/
theorem Does.of_operation {α : Type} (o : Operation) {call : Build α} {f : α → Answer}
    (h : o.run = f <$> call) {a : Account} (ha : a.Consistent) :
    Does False call a fun _ _ => True := by
  have hrun := o.run_does ha False.elim
  unfold Does at hrun ⊢
  rw [h, runOn_map] at hrun
  generalize call.runOn a.draft = r at hrun ⊢
  rcases r with ⟨e | v, d⟩
  · exact hrun
  · obtain ⟨b, hb, hchanges, -⟩ := hrun
    exact ⟨b, hb, hchanges, trivial⟩

/-- The call is made of plain operations, and of records that it adds to the log. -/
class inductive Composed : {α : Type} → Build α → Prop
  | answer {α : Type} (v : α) : Composed (Pure.pure v)
  | sequence {α β : Type} {call : Build α} {next : α → Build β} (h : Composed call)
      (hnext : ∀ v, Composed (next v)) : Composed (call >>= next)
  | note (level : LogLevel) (message : String) : Composed (Build.record level message)
  /-- The call is an operation, up to the form of its answer. -/
  | operation {α : Type} (o : Operation) (call : Build α) (f : α → Answer)
      (hf : Function.Injective f) (h : o.run = f <$> call) (hplain : o.isPlain = true) :
      Composed call

namespace Composed

variable {α β : Type}

/-! ### Recognising composed calls -/

instance pure (v : α) : Composed (Pure.pure v) := .answer v

instance bind {call : Build α} {next : α → Build β} [h : Composed call]
    [hnext : ∀ v, Composed (next v)] : Composed (call >>= next) := .sequence h hnext

instance record (level : LogLevel) (message : String) : Composed (Build.record level message) :=
  .note level message

instance map {α β : Type} {f : α → β} {call : Build α} [Composed call] : Composed (f <$> call) := by
  rw [← bind_pure_comp]
  infer_instance

/-! ### Operations -/

/-- The operations that answer with a value are composed. -/
theorem of_value (o : Operation) {call : Build Value} (h : o.run = Answer.value <$> call)
    (hplain : o.isPlain = true) : Composed call :=
  .operation o call Answer.value (fun _ _ => Answer.value.inj) h hplain

/-- So are those that answer nothing. -/
theorem of_unit (o : Operation) {call : Build Unit} (h : o.run = Answer.ofUnit <$> call)
    (hplain : o.isPlain = true) : Composed call :=
  .operation o call Answer.ofUnit (fun _ _ _ => rfl) h hplain

instance capability (c : Capability) : Composed (Build.capability c) :=
  of_unit (.capability c) rfl rfl

instance source (language : SourceLanguage) (version : Word) :
    Composed (Build.source language version) :=
  of_unit (.source language version) rfl rfl

instance extension (text : String) : Composed (Build.extension text) :=
  of_unit (.extension text) rfl rfl

instance typeId (t : DataType) : Composed (Build.typeId t) :=
  .operation (.typeId t) _ _ (fun _ _ => Answer.id.inj) rfl rfl

instance decorate (target : Id) (decoration : Decoration) (operands : List Operand) :
    Composed (Build.decorate target decoration operands) :=
  of_unit (.decorate target decoration operands) rfl rfl

instance decorateMember (target : Id) (member : Word) (decoration : Decoration)
    (operands : List Operand) : Composed (Build.decorateMember target member decoration operands) :=
  of_unit (.decorateMember target member decoration operands) rfl rfl

instance globalVariable (storage : StorageClass) (t : DataType) :
    Composed (Build.globalVariable storage t) :=
  of_value (.globalVariable storage t) rfl rfl

instance uniformConstant (t : DataType) : Composed (Build.uniformConstant t) :=
  of_value (.uniformConstant t) rfl rfl

instance storageBuffer (element : DataType) (access : Access) :
    Composed (Build.storageBuffer element access) :=
  of_value (.storageBuffer element access) rfl rfl

instance descriptorBinding (v : Value) (set binding : Word) :
    Composed (Build.descriptorBinding v set binding) :=
  of_unit (.descriptorBinding v set binding) rfl rfl

instance builtInInput (builtIn : BuiltIn) (t : DataType) :
    Composed (Build.builtInInput builtIn t) :=
  of_value (.builtInInput builtIn t) rfl rfl

instance beginFunction (text : String) (result : DataType) (parameters : List DataType)
    (control : FunctionControl) : Composed (Build.beginFunction text result parameters control) :=
  .operation (.beginFunction text result parameters control) _ _
    (fun _ _ => Answer.function.inj) rfl rfl

instance beginEntryPoint (text : String) (interface : List Value) :
    Composed (Build.beginEntryPoint text interface) :=
  .operation (.beginEntryPoint text interface) _ _ (fun _ _ => Answer.function.inj) rfl rfl

instance returnFunction (value : Option Value) : Composed (Build.returnFunction value) :=
  of_unit (.returnFunction value) rfl rfl

instance endFunction : Composed Build.endFunction := of_unit .endFunction rfl rfl

instance name (id : Id) (text : String) : Composed (Build.name id text) :=
  of_unit (.name id text) rfl rfl

instance constUInt (value : Word) : Composed (Build.constUInt value) :=
  of_value (.constUInt value) rfl rfl

instance constFloat (s : Scalar) (value : Float64Bits) : Composed (Build.constFloat s value) :=
  of_value (.constFloat s value) rfl rfl

instance constVector (s : Scalar) (values : List Float64Bits) :
    Composed (Build.constVector s values) :=
  of_value (.constVector s values) rfl rfl

instance accessChain (base : Value) (indices : List Value) :
    Composed (Build.accessChain base indices) :=
  of_value (.accessChain base indices) rfl rfl

instance load (pointer : Value) : Composed (Build.load pointer) := of_value (.load pointer) rfl rfl

instance store (pointer value : Value) : Composed (Build.store pointer value) :=
  of_unit (.store pointer value) rfl rfl

instance sampledImage (image sampler : Value) : Composed (Build.sampledImage image sampler) :=
  of_value (.sampledImage image sampler) rfl rfl

instance imageSampleExplicitLod (image coordinate lod : Value) :
    Composed (Build.imageSampleExplicitLod image coordinate lod) :=
  of_value (.imageSampleExplicitLod image coordinate lod) rfl rfl

instance sampleImage (image sampler coordinate : Value) :
    Composed (Build.sampleImage image sampler coordinate) :=
  of_value (.sampleImage image sampler coordinate) rfl rfl

instance callFunction (function : Id) (args : List Value) :
    Composed (Build.callFunction function args) :=
  of_value (.callFunction function args) rfl rfl

instance compositeConstruct (t : DataType) (parts : List Value) :
    Composed (Build.compositeConstruct t parts) :=
  of_value (.compositeConstruct t parts) rfl rfl

instance compositeExtract (v : Value) (index : Word) : Composed (Build.compositeExtract v index) :=
  of_value (.compositeExtract v index) rfl rfl

instance splat (v : Value) (width : Word) : Composed (Build.splat v width) :=
  of_value (.splat v width) rfl rfl

instance vectorShuffle (v w : Value) (indices : List Word) :
    Composed (Build.vectorShuffle v w indices) :=
  of_value (.vectorShuffle v w indices) rfl rfl

instance swizzle (v : Value) (indices : List Word) : Composed (Build.swizzle v indices) :=
  of_value (.swizzle v indices) rfl rfl

instance vectorTimesScalar (v x : Value) : Composed (Build.vectorTimesScalar v x) :=
  of_value (.vectorTimesScalar v x) rfl rfl

instance dot (v w : Value) : Composed (Build.dot v w) := of_value (.dot v w) rfl rfl

instance fAdd (v w : Value) : Composed (Build.fAdd v w) := of_value (.fAdd v w) rfl rfl

instance fMod (v w : Value) : Composed (Build.fMod v w) := of_value (.fMod v w) rfl rfl

instance floor (v : Value) : Composed (Build.floor v) := of_value (.floor v) rfl rfl

instance fOrdEqual (v w : Value) : Composed (Build.fOrdEqual v w) :=
  of_value (.fOrdEqual v w) rfl rfl

instance select (condition accept refuse : Value) :
    Composed (Build.select condition accept refuse) :=
  of_value (.select condition accept refuse) rfl rfl

/-! ### What composed calls do -/

/-- **A composed call only makes changes.** -/
theorem does {call : Build α} (h : Composed call) (a : Account) (ha : a.Consistent) :
    Does False call a fun _ _ => True := by
  induction h generalizing a with
  | answer v => exact .pure trivial
  | sequence _ _ ih ihnext => exact .bind ha (ih a ha) fun v b hb _ => ihnext v b hb
  | note level message => exact .of_change (.note (.record _)) trivial
  | operation o call f _ h _ => exact .of_operation o h ha

/-- **A composed call keeps what the steps of plain operations keep.** -/
theorem agrees {Q : Draft → Draft → Prop} [Draft.Lasting Q]
    (hrespects : ∀ o : Operation, o.isPlain = true → o.Respects Q) {call : Build α}
    (h : Composed call) : Agrees Q call := by
  induction h with
  | answer v => exact .pure v
  | sequence _ _ ih ihnext => exact .bind ih ihnext
  | note level message => exact record_agrees level message
  | operation o call f hf h hplain =>
      intro d d' hsame
      obtain ⟨hanswer, hleft⟩ := o.run_agrees (hrespects o hplain) d d' hsame
      rw [h, runOn_map, runOn_map] at hanswer hleft
      refine ⟨.of_eq ?_, hleft⟩
      have hanswer := hanswer.eq
      generalize (call.runOn d).1 = answer at hanswer ⊢
      generalize (call.runOn d').1 = answer' at hanswer ⊢
      cases answer with
      | error e =>
          cases answer' with
          | error e' => exact congrArg _ (Except.error.inj hanswer)
          | ok v' => nomatch hanswer
      | ok v =>
          cases answer' with
          | error e' => nomatch hanswer
          | ok v' => exact congrArg _ (hf (Except.ok.inj hanswer))

/-- **A composed call does not notice what is overlooked.** -/
theorem commutes (strip : Instruction → Instruction) {call : Build α} (h : Composed call) :
    Commutes (Draft.overlook strip) call :=
  (h.agrees fun _ hplain => Operation.respects_overlook hplain).commutes

end Composed

end FrameShader.Build
