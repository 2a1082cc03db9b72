/-
Reading instructions: what they define, what they refer to, and what they say about types.

Everything that a draft looks up in a table can also be read off the instructions it has written.
The readers below do that, the latest entry first, as the tables have it.  Types are read from front
to back: the definition of a type refers to the definitions of its parts, which stand before it.

Main definitions:

* `FrameShader.Instruction.references`, `FrameShader.Instruction.callee?`,
  `FrameShader.Instruction.uses` — the ids that an instruction refers to;
* `FrameShader.resultsOf` — the ids that instructions define;
* `FrameShader.readTypes` — the types that instructions define;
* `FrameShader.rowsOf` — the entries that a reader finds in instructions, with the readers
  `FrameShader.Instruction.valueRow?`, `FrameShader.Instruction.importRow?`,
  `FrameShader.Instruction.constantRow?`, `FrameShader.Instruction.literalRow?`,
  and `FrameShader.Function.signatureRow?`;
* `FrameShader.Draft.bodies`, `FrameShader.Draft.definitions` — the functions of a draft, the open
  one included, and the instructions that may define ids.
-/

import FrameShader.Draft.Operation
import Mathlib.Data.List.Forall2
import Mathlib.Tactic.Tauto

set_option relaxedAutoImplicit false
set_option autoImplicit false

namespace FrameShader

/-! ### References -/

/-- The id that an operand refers to. -/
def Operand.id? : Operand → Option Id
  | .id target => some target
  | _ => none

@[simp] theorem Operand.id?_id (target : Id) : (Operand.id target).id? = some target := rfl

@[simp] theorem Operand.id?_literal (value : Word) : (Operand.literal value).id? = none := rfl

namespace Instruction

/-- The ids that an instruction refers to: its result type and its operands. -/
def references (i : Instruction) : List Id :=
  i.resultType.toList ++ i.operands.filterMap Operand.id?

/-- The function that a call calls. -/
def callee? (i : Instruction) : Option Id :=
  match i.opcode, i.operands with
  | .functionCall, .id function :: _ => some function
  | _, _ => none

/-- The ids that an instruction refers to, apart from the function that a call calls. -/
def uses (i : Instruction) : List Id :=
  match i.opcode, i.operands with
  | .functionCall, .id _ :: args => i.resultType.toList ++ args.filterMap Operand.id?
  | _, _ => i.references

/-- A reference is the called function or a use. -/
theorem mem_references_iff (i : Instruction) (id : Id) :
    id ∈ i.references ↔ id ∈ i.callee? ∨ id ∈ i.uses := by
  unfold callee? uses references
  split
  · next h₁ h₂ =>
      rw [h₂]
      simp only [List.filterMap_cons, Operand.id?_id, List.mem_append, List.mem_cons,
        Option.mem_def, Option.some.injEq]
      constructor
      · rintro (h | h | h)
        · exact Or.inr (Or.inl h)
        · exact Or.inl h.symm
        · exact Or.inr (Or.inr h)
      · rintro (h | h | h)
        · exact Or.inr (Or.inl h.symm)
        · exact Or.inl h
        · exact Or.inr (Or.inr h)
  · simp

end Instruction

/-- The ids that instructions define. -/
def resultsOf (is : List Instruction) : List Id := is.filterMap Instruction.result

@[simp] theorem resultsOf_nil : resultsOf [] = [] := rfl

@[simp] theorem resultsOf_cons (i : Instruction) (is : List Instruction) :
    resultsOf (i :: is) = i.result.toList ++ resultsOf is := by
  cases h : i.result <;> simp [resultsOf, h]

@[simp] theorem resultsOf_append (is js : List Instruction) :
    resultsOf (is ++ js) = resultsOf is ++ resultsOf js := List.filterMap_append

theorem mem_resultsOf {is : List Instruction} {id : Id} :
    id ∈ resultsOf is ↔ ∃ i ∈ is, i.result = some id := List.mem_filterMap

@[simp] theorem resultsOf_flatMap {α : Type} (f : α → List Instruction) (xs : List α) :
    resultsOf (xs.flatMap f) = xs.flatMap fun x => resultsOf (f x) := by
  induction xs with
  | nil => rfl
  | cons x xs ih => simp [ih]

/-- Where no id is defined twice, an id has one defining instruction. -/
theorem eq_of_results {is : List Instruction} (h : (resultsOf is).Nodup) {i j : Instruction}
    {id : Id} (hi : i ∈ is) (hj : j ∈ is) (hid : i.result = some id) (hjd : j.result = some id) :
    i = j := by
  induction is with
  | nil => exact absurd hi List.not_mem_nil
  | cons k is ih =>
      rw [resultsOf_cons] at h
      obtain ⟨-, hrest, hapart⟩ := List.nodup_append.1 h
      have hhead (hk : k.result = some id) {l : Instruction} (hl : l ∈ is) :
          l.result ≠ some id := fun hld =>
        hapart id (by rw [hk]; exact List.mem_cons_self) id (mem_resultsOf.2 ⟨l, hl, hld⟩) rfl
      rcases List.mem_cons.1 hi with hik | hi
      · rcases List.mem_cons.1 hj with hjk | hj
        · rw [hik, hjk]
        · exact absurd hjd (hhead (hik ▸ hid) hj)
      · rcases List.mem_cons.1 hj with hjk | hj
        · exact absurd hid (hhead (hjk ▸ hjd) hi)
        · exact ih hrest hi hj

/-- The instruction that defines an id. -/
def definitionIn? (is : List Instruction) (id : Id) : Option Instruction :=
  is.find? fun i => i.result == some id

/-- Where no id is defined twice, a defining instruction is the one that is found. -/
theorem definitionIn?_eq_some {is : List Instruction} (h : (resultsOf is).Nodup) {i : Instruction}
    {id : Id} : definitionIn? is id = some i ↔ i ∈ is ∧ i.result = some id := by
  constructor
  · intro hi
    exact ⟨List.mem_of_find?_eq_some hi, by simpa using List.find?_some hi⟩
  · rintro ⟨hi, hid⟩
    cases hfound : definitionIn? is id with
    | none =>
        have hnone := List.find?_eq_none.1 hfound i hi
        simp [hid] at hnone
    | some j =>
        have hj := List.mem_of_find?_eq_some hfound
        have hjd : j.result = some id := by simpa using List.find?_some hfound
        rw [eq_of_results h hi hj hid hjd]

/-! ### Looking up -/

section lookup

variable {α β : Type} [BEq α] [LawfulBEq α] {table : List (α × β)} {a : α} {b : β}

theorem mem_of_lookup_eq_some (h : table.lookup a = some b) : (a, b) ∈ table := by
  obtain ⟨before, after, htable, -⟩ := List.lookup_eq_some_iff.1 h
  rw [htable]
  exact List.mem_append_right _ List.mem_cons_self

/-- With one entry for each key, an entry is what looking up its key gives. -/
theorem lookup_eq_some_of_mem (hkeys : (table.map Prod.fst).Nodup) (h : (a, b) ∈ table) :
    table.lookup a = some b := by
  induction table with
  | nil => simp at h
  | cons e table ih =>
      rw [List.map_cons, List.nodup_cons] at hkeys
      rcases List.mem_cons.1 h with rfl | h
      · exact List.lookup_cons_self
      · have hne : (a == e.1) = false := by
          rw [beq_eq_false_iff_ne]
          rintro rfl
          exact hkeys.1 (List.mem_map.2 ⟨_, h, rfl⟩)
        rw [List.lookup_cons, hne]
        exact ih hkeys.2 h

/-- An entry for another key does not matter. -/
theorem lookup_cons_of_ne {k : α} {c : β} (h : a ≠ k) :
    ((k, c) :: table).lookup a = table.lookup a := by
  rw [List.lookup_cons, beq_eq_false_iff_ne.2 h]

end lookup

/-- What stands on the right of a relation between lists has something on the left. -/
theorem exists_of_mem_right {α β : Type} {R : α → β → Prop} {xs : List α} {ys : List β} {y : β}
    (h : List.Forall₂ R xs ys) (hy : y ∈ ys) : ∃ x ∈ xs, R x y := by
  induction h with
  | nil => exact nomatch hy
  | cons hR _ ih =>
      rcases List.mem_cons.1 hy with rfl | hy
      · exact ⟨_, List.mem_cons_self, hR⟩
      · obtain ⟨x, hx, hR⟩ := ih hy
        exact ⟨x, List.mem_cons_of_mem _ hx, hR⟩

/-- What stands on the left of a relation between lists has something on the right. -/
theorem exists_of_mem_left {α β : Type} {R : α → β → Prop} {xs : List α} {ys : List β} {x : α}
    (h : List.Forall₂ R xs ys) (hx : x ∈ xs) : ∃ y ∈ ys, R x y :=
  exists_of_mem_right (List.Forall₂.flip h) hx

/-! ### Types -/

/-- The types that operands refer to. -/
def operandTypes? (known : List (Id × DataType)) (operands : List Operand) :
    Option (List DataType) :=
  operands.mapM fun operand => operand.id?.bind fun id => known.lookup id

/-- The type that an instruction defines, where `known` has the types defined before. -/
def Instruction.dataType? (known : List (Id × DataType)) (i : Instruction) : Option DataType :=
  match i.opcode, i.operands with
  | .typeVoid, [] => some .void
  | .typeBool, [] => some .bool
  | .typeInt, [.literal width, .literal signed] => some (.scalar (.int width (signed != 0)))
  | .typeFloat, [.literal width] => some (.float width)
  | .typeVector, [.id component, .literal width] =>
      match known.lookup component with
      | some (.scalar s) => some (.vector s width)
      | _ => none
  | .typeRuntimeArray, [.id element] => (known.lookup element).map .runtimeArray
  | .typeStruct, members => (operandTypes? known members).map .record
  | .typePointer, [.storageClass storage, .id pointee] =>
      (known.lookup pointee).map (.pointer storage)
  | .typeImage, [.id component, .dim dim, .literal depth, .literal arrayed, .literal multisampled,
      .literal sampled, .imageFormat format] =>
      match known.lookup component with
      | some (.scalar s) =>
          some (.image ⟨s, dim, depth, arrayed != 0, multisampled != 0, sampled, format⟩)
      | _ => none
  | .typeSampler, [] => some .sampler
  | .typeSampledImage, [.id image] => (known.lookup image).map .sampledImage
  | .typeFunction, .id result :: parameters =>
      (known.lookup result).bind fun t =>
        (operandTypes? known parameters).map fun ts => .function t ts
  | _, _ => none

/-- What is made of a scalar part that is known. -/
theorem scalarPart_eq {known : List (Id × DataType)} {part : Id} {s : Scalar} (f : Scalar → DataType)
    (h : known.lookup part = some (.scalar s)) :
    (match known.lookup part with | some (.scalar s) => some (f s) | _ => none) = some (f s) := by
  rw [h]

/-- The types known after one more instruction. -/
def readType (known : List (Id × DataType)) (i : Instruction) : List (Id × DataType) :=
  match i.result, i.dataType? known with
  | some id, some t => (id, t) :: known
  | _, _ => known

/-- The types that instructions define, read from front to back. -/
def readTypes (is : List Instruction) : List (Id × DataType) := is.foldl readType []

@[simp] theorem readTypes_nil : readTypes [] = [] := rfl

@[simp] theorem readTypes_append_singleton (is : List Instruction) (i : Instruction) :
    readTypes (is ++ [i]) = readType (readTypes is) i := by
  simp [readTypes]

/-! ### Entries of tables -/

/-- What a reader finds in a list, the latest first. -/
def rowsOf {α β : Type} (reader : α → Option β) (xs : List α) : List β :=
  (xs.filterMap reader).reverse

section rowsOf

variable {α β : Type} (reader : α → Option β)

@[simp] theorem rowsOf_nil : rowsOf reader [] = [] := rfl

@[simp] theorem rowsOf_append (xs ys : List α) :
    rowsOf reader (xs ++ ys) = rowsOf reader ys ++ rowsOf reader xs := by
  simp [rowsOf]

@[simp] theorem rowsOf_singleton (x : α) : rowsOf reader [x] = (reader x).toList := by
  cases h : reader x <;> simp [rowsOf, h]

theorem mem_rowsOf {xs : List α} {y : β} :
    y ∈ rowsOf reader xs ↔ ∃ x ∈ xs, reader x = some y := by
  simp [rowsOf]

end rowsOf

namespace Instruction

/-- The type of the value that an instruction defines.  A function is a value of its function type,
although its instruction has the type of what it returns. -/
def valueType? (i : Instruction) : Option Id :=
  match i.opcode, i.operands with
  | .function, [_, .id type] => some type
  | _, _ => i.resultType

/-- The id that an instruction defines, with the type of its value. -/
def valueRow? (i : Instruction) : Option (Id × Id) :=
  match i.result, i.valueType? with
  | some id, some type => some (id, type)
  | _, _ => none

theorem valueRow?_eq_some {i : Instruction} {id type : Id} :
    i.valueRow? = some (id, type) ↔ i.result = some id ∧ i.valueType? = some type := by
  unfold valueRow?
  cases i.result <;> cases i.valueType? <;> simp

/-- The name of an imported instruction set, with its id. -/
def importRow? (i : Instruction) : Option (String × Id) :=
  match i.opcode, i.result, i.operands with
  | .extInstImport, some id, [.text text] => some (text, id)
  | _, _, _ => none

/-- The literal that an operand holds. -/
def literalOf? : Operand → Option Literal
  | .literal value => some (.bits32 value)
  | .literal64 value => some (.bits64 value)
  | _ => none

/-- The bits of a scalar constant, with its id. -/
def literalRow? (i : Instruction) : Option (Id × Literal) :=
  match i.opcode, i.result, i.operands with
  | .constant, some id, [operand] => (literalOf? operand).map (id, ·)
  | _, _, _ => none

/-- What makes a constant different from others, with its id. -/
def constantRow? (i : Instruction) : Option (ConstantKey × Id) :=
  match i.opcode, i.resultType, i.result, i.operands with
  | .constantTrue, _, some id, [] => some (.bool true, id)
  | .constantFalse, _, some id, [] => some (.bool false, id)
  | .constant, some type, some id, [operand] =>
      (literalOf? operand).map fun value => (.scalar type value, id)
  | .constantComposite, some type, some id, operands =>
      some (.composite type (operands.filterMap Operand.id?), id)
  | _, _, _, _ => none

theorem result_of_constantRow? {i : Instruction} {key : ConstantKey} {id : Id}
    (h : i.constantRow? = some (key, id)) : i.result = some id := by
  unfold constantRow? at h
  split at h
  · next hresult _ =>
      cases h
      exact hresult
  · next hresult _ =>
      cases h
      exact hresult
  · next hresult _ =>
      obtain ⟨value, -, hrow⟩ := Option.map_eq_some_iff.1 h
      cases hrow
      exact hresult
  · next hresult =>
      cases h
      exact hresult
  · cases h

theorem result_of_literalRow? {i : Instruction} {value : Literal} {id : Id}
    (h : i.literalRow? = some (id, value)) : i.result = some id := by
  unfold literalRow? at h
  split at h
  · next hresult _ =>
      obtain ⟨value, -, hrow⟩ := Option.map_eq_some_iff.1 h
      cases hrow
      exact hresult
  · cases h

end Instruction

/-- The id of a function, with its signature. -/
def Function.signatureRow? (f : Function) : Option (Id × Signature) :=
  match f.definition.opcode, f.definition.result, f.definition.resultType,
    f.definition.operands with
  | .function, some id, some result, [_, .id type] =>
      some (id, ⟨type, result, f.parameters.filterMap Instruction.resultType⟩)
  | _, _, _, _ => none

/-- The instructions of a function, the last one apart. -/
theorem Function.instructions_eq (f : Function) :
    f.instructions = (f.definition :: (f.parameters ++ f.label :: f.body)) ++ [Function.finish] := by
  simp [Function.instructions]

/-- Parameters and what stands in the body are instructions of a function. -/
theorem Function.mem_instructions (f : Function) {i : Instruction}
    (hi : i ∈ f.parameters ++ f.body) : i ∈ f.instructions := by
  simp only [Function.instructions, List.mem_cons, List.mem_append] at hi ⊢
  tauto

theorem Function.definition_of_signatureRow? {f : Function} {id : Id} {s : Signature}
    (h : f.signatureRow? = some (id, s)) :
    f.definition.result = some id ∧ f.definition.resultType = some s.result ∧
      s.parameters = f.parameters.filterMap Instruction.resultType := by
  unfold Function.signatureRow? at h
  split at h
  · next hresult htype _ =>
      cases h
      exact ⟨hresult, htype, rfl⟩
  · cases h

/-- A function is a value of its function type. -/
theorem Function.valueType?_of_signatureRow? {f : Function} {id : Id} {s : Signature}
    (h : f.signatureRow? = some (id, s)) : f.definition.valueType? = some s.type := by
  unfold Function.signatureRow? at h
  split at h
  · next hopcode _ _ hoperands =>
      cases h
      rw [Instruction.valueType?, hopcode, hoperands]
  · cases h

@[simp] theorem resultsOf_instructions (f : Function) :
    resultsOf f.instructions = f.definition.result.toList ++
      (resultsOf f.parameters ++ (f.label.result.toList ++ resultsOf f.body)) := by
  simp [Function.instructions, Function.finish, Instruction.plain]

/-- What a function consists of when it is opened: its definition, its parameters, a label and the
end. -/
theorem OpenFunction.mem_start {id label : Id} {s : Signature} {control : FunctionControl}
    {values : List Value} {i : Instruction} :
    i ∈ (OpenFunction.start id s control values label).closed.instructions ↔
      i = .typed .function s.result id [.functionControl control, .id s.type] ∨
      (∃ v ∈ values, i = .typed .functionParameter v.type v.id []) ∨
      i = .defining .label label [] ∨ i = Function.finish := by
  simp only [Function.instructions, OpenFunction.closed, OpenFunction.start, List.mem_cons,
    List.mem_append, List.mem_map, List.not_mem_nil, or_false, List.nil_append,
    @eq_comm _ (Instruction.typed .functionParameter _ _ _)]

/-! ### Functions and definitions of a draft -/

namespace Draft

/-- The functions of a draft, the open one included as if it were closed now. -/
def bodies (d : Draft) : List Function :=
  d.sections.functions ++ d.current.toList.map OpenFunction.closed

/-! ### Longer bodies -/

/-- The open function with a longer body. -/
theorem addResult_eq {d : Draft} {f : OpenFunction} (hf : d.current = some f) (opcode : Opcode) (type id : Id)
    (operands : List Operand) :
    d.addResult opcode type id operands =
      { d with current := some { f with
        body := f.body ++ [.typed opcode type id operands], locals := (id, type) :: f.locals } } := by
  rw [addResult, addLocal, addToBody, hf]
  rfl

theorem addToBody_eq {d : Draft} {f : OpenFunction} (hf : d.current = some f) (i : Instruction) :
    d.addToBody i = { d with current := some { f with body := f.body ++ [i] } } := by
  rw [addToBody, hf]
  rfl

theorem addReturn_eq {d : Draft} {f : OpenFunction} (hf : d.current = some f) (i : Instruction) :
    d.addReturn i =
      { d with current := some { f with body := f.body ++ [i], terminated := true } } := by
  rw [addReturn, hf]
  rfl

/-! ### Definitions -/

/-- The instructions that may define ids: imports, then globals, then functions. -/
def definitions (d : Draft) : List Instruction :=
  d.sections.imports ++ d.sections.globals ++ d.bodies.flatMap Function.instructions

/-- The ids that the instructions of a draft define. -/
def definedIds (d : Draft) : List Id := resultsOf d.definitions

theorem bodies_of_none {d : Draft} (h : d.current = none) : d.bodies = d.sections.functions := by
  simp [bodies, h]

theorem bodies_of_some {d : Draft} {f : OpenFunction} (h : d.current = some f) :
    d.bodies = d.sections.functions ++ [f.closed] := by
  simp [bodies, h]

/-- The ids that instructions define, section by section. -/
theorem definedIds_eq (d : Draft) : d.definedIds =
    resultsOf d.sections.imports ++ resultsOf d.sections.globals ++
      d.bodies.flatMap fun f => resultsOf f.instructions := by
  simp [definedIds, definitions]

/-- The ids that are reserved for functions. -/
def declaredIds (d : Draft) : List Id := d.tables.declared.map Prod.fst

/-- The ids of the functions of a draft. -/
def functionIds (d : Draft) : List Id := resultsOf (d.bodies.map Function.definition)

end Draft

end FrameShader
