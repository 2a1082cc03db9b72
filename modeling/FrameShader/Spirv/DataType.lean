/-
The types of values inside a module, described by their structure.

Main definitions:

* `FrameShader.Scalar`, `FrameShader.ImageShape`, `FrameShader.DataType` — the descriptions;
* `FrameShader.DataType.text` — the way a type is written in messages and names;
* `FrameShader.DataType.size` — the packed size in bytes, which may not fit a word;
* `FrameShader.DataType.scalarOf`, `FrameShader.DataType.components?`,
  `FrameShader.DataType.withScalar` — the component of a type, how many it has, and the same shape
  with another component.

Main results:

* `FrameShader.DataType.same_eq_true` — the structural comparison decides equality.
-/

import FrameShader.Spirv.Enumerant

set_option relaxedAutoImplicit false
set_option autoImplicit false

namespace FrameShader

/-! ### Overflow -/

/-- An arithmetic operation on words whose exact result is no word. -/
inductive Overflow where
  | add
  | multiply
  /-- The counter of ids is at its end. -/
  | increment
  deriving DecidableEq, Repr

/-- How an overflow is reported. -/
def Overflow.message : Overflow → String
  | .add => "attempt to add with overflow"
  | .multiply => "attempt to multiply with overflow"
  | .increment => "attempt to add with overflow"

/-- The sum of two words, if it is a word. -/
def Word.add? (a b : Word) : Except Overflow Word :=
  if a.toNat + b.toNat < UInt32.size then .ok (a + b) else .error .add

/-- The product of two words, if it is a word. -/
def Word.mul? (a b : Word) : Except Overflow Word :=
  if a.toNat * b.toNat < UInt32.size then .ok (a * b) else .error .multiply

/-! ### Scalars and images -/

/-- What a single component is. -/
inductive Scalar where
  | void
  | bool
  /-- An integer of `width` bits. -/
  | int (width : Word) (signed : Bool)
  /-- A floating-point number of `width` bits. -/
  | float (width : Word)
  deriving DecidableEq, Repr

namespace Scalar

/-- The unsigned integer of 32 bits, the type of indices. -/
def uint32 : Scalar := .int 32 false

/-- A scalar in words: its letter and its width. -/
def text : Scalar → String
  | .void => "void"
  | .bool => "bool"
  | .int width false => "u" ++ toString width.toNat
  | .int width true => "i" ++ toString width.toNat
  | .float width => "f" ++ toString width.toNat

/-- The size in whole bytes. -/
def size : Scalar → Word
  | .void => 0
  | .bool => 1
  | .int width _ => width / 8
  | .float width => width / 8

/-- Whether it is a floating-point number. -/
def isFloat : Scalar → Bool
  | .float _ => true
  | _ => false

end Scalar

/-- What an image holds and how it is addressed. -/
structure ImageShape where
  /-- The component of a sampled texel. -/
  sampledType : Scalar
  dim : Dim
  depth : Word
  arrayed : Bool
  multisampled : Bool
  /-- One if the image is read through a sampler, two if it is storage. -/
  sampled : Word
  format : ImageFormat
  deriving DecidableEq, Repr

namespace ImageShape

/-- A flat image read through a sampler, of unknown texel format. -/
def flat (sampledType : Scalar) : ImageShape :=
  ⟨sampledType, .twoD, 0, false, false, 1, .unknown⟩

/-- How many coordinate components address a texel: the array layer is one more. -/
def coordinateWidth (i : ImageShape) : Word :=
  let base : Word :=
    match i.dim with
    | .oneD | .buffer => 1
    | .threeD | .cube => 3
    | _ => 2
  if i.arrayed then base + 1 else base

end ImageShape

/-! ### Types -/

/-- The structure of a type. -/
inductive DataType where
  | scalar (component : Scalar)
  /-- `width` components; a module admits two to four. -/
  | vector (component : Scalar) (width : Word)
  /-- An array whose length is known only when the module runs. -/
  | runtimeArray (element : DataType)
  | record (members : List DataType)
  | pointer (storage : StorageClass) (pointee : DataType)
  | image (shape : ImageShape)
  | sampler
  | sampledImage (inner : DataType)
  | function (result : DataType) (parameters : List DataType)
  deriving Repr

namespace DataType

/-- No value at all. -/
def void : DataType := .scalar .void

/-- A truth value. -/
def bool : DataType := .scalar .bool

/-- An unsigned integer of 32 bits. -/
def uint32 : DataType := .scalar .uint32

/-- A floating-point number of `width` bits. -/
def float (width : Word) : DataType := .scalar (.float width)

/-! ### Equality -/

mutual

/-- Whether two types have the same structure. -/
def same : DataType → DataType → Bool
  | .scalar a, .scalar b => a == b
  | .vector a m, .vector b n => a == b && m == n
  | .runtimeArray a, .runtimeArray b => same a b
  | .record as, .record bs => sameAll as bs
  | .pointer c a, .pointer d b => c == d && same a b
  | .image a, .image b => a == b
  | .sampler, .sampler => true
  | .sampledImage a, .sampledImage b => same a b
  | .function a as, .function b bs => same a b && sameAll as bs
  | _, _ => false

/-- Whether two lists of types agree one by one. -/
def sameAll : List DataType → List DataType → Bool
  | [], [] => true
  | a :: as, b :: bs => same a b && sameAll as bs
  | _, _ => false

end

mutual

/-- The structural comparison decides equality. -/
theorem same_eq_true : ∀ a b : DataType, same a b = true ↔ a = b
  | .scalar a, b => by cases b <;> simp [same]
  | .vector a m, b => by cases b <;> simp [same]
  | .runtimeArray a, b => by cases b <;> simp [same, same_eq_true a]
  | .record as, b => by cases b <;> simp [same, sameAll_eq_true as]
  | .pointer c a, b => by cases b <;> simp [same, same_eq_true a]
  | .image a, b => by cases b <;> simp [same]
  | .sampler, b => by cases b <;> simp [same]
  | .sampledImage a, b => by cases b <;> simp [same, same_eq_true a]
  | .function a as, b => by cases b <;> simp [same, same_eq_true a, sameAll_eq_true as]

/-- The comparison of lists decides equality. -/
theorem sameAll_eq_true : ∀ as bs : List DataType, sameAll as bs = true ↔ as = bs
  | [], bs => by cases bs <;> simp [sameAll]
  | a :: as, bs => by cases bs <;> simp [sameAll, same_eq_true a, sameAll_eq_true as]

end

instance : DecidableEq DataType := fun a b => decidable_of_iff _ (same_eq_true a b)

/-! ### Text -/

mutual

/-- A type in words. -/
def text : DataType → String
  | .scalar component => component.text
  | .vector component width => "vec" ++ toString width.toNat ++ "<" ++ component.text ++ ">"
  | .runtimeArray element => "array<" ++ text element ++ ">"
  | .record members => "struct<" ++ ", ".intercalate (texts members) ++ ">"
  | .pointer storage pointee => "ptr<" ++ storage.name ++ ", " ++ text pointee ++ ">"
  | .image shape => "image" ++ shape.dim.name ++ "<" ++ shape.sampledType.text ++ ">"
  | .sampler => "sampler"
  | .sampledImage inner => "sampled<" ++ text inner ++ ">"
  | .function result parameters =>
      "fn(" ++ ", ".intercalate (texts parameters) ++ ") -> " ++ text result

/-- The types of a list in words. -/
def texts : List DataType → List String
  | [] => []
  | t :: ts => text t :: texts ts

end

/-! ### Size -/

mutual

/-- The packed size in bytes.  Pointers and arrays have the size of what they hold; images,
samplers and functions have none. -/
def size : DataType → Except Overflow Word
  | .scalar component => .ok component.size
  | .vector component width => Word.mul? component.size width
  | .runtimeArray element => size element
  | .record members => sizeFrom 0 members
  | .pointer _ pointee => size pointee
  | .image _ => .ok 0
  | .sampler => .ok 0
  | .sampledImage _ => .ok 0
  | .function _ _ => .ok 0

/-- The sizes of the members added to `sum` from the left; the first step that does not fit
decides. -/
def sizeFrom (sum : Word) : List DataType → Except Overflow Word
  | [] => .ok sum
  | t :: ts =>
      match size t with
      | .error e => .error e
      | .ok n =>
          match Word.add? sum n with
          | .error e => .error e
          | .ok sum => sizeFrom sum ts

end

/-! ### Components -/

/-- The component at the bottom of a type; records, samplers and functions have none. -/
def scalarOf : DataType → Scalar
  | .scalar component => component
  | .vector component _ => component
  | .runtimeArray element => scalarOf element
  | .pointer _ pointee => scalarOf pointee
  | .image shape => shape.sampledType
  | .sampledImage inner => scalarOf inner
  | .record _ => .void
  | .sampler => .void
  | .function _ _ => .void

/-- How many components a scalar or a vector has. -/
def components? : DataType → Option Word
  | .scalar .void => none
  | .scalar _ => some 1
  | .vector _ width => some width
  | _ => none

/-- Whether it is a floating-point scalar or vector. -/
def isFloat : DataType → Bool
  | .scalar component => component.isFloat
  | .vector component _ => component.isFloat
  | _ => false

/-- Whether it is a truth value or a vector of them. -/
def isBool : DataType → Bool
  | .scalar component => component == .bool
  | .vector component _ => component == .bool
  | _ => false

/-- The same number of components, each a `component`. -/
def withScalar (t : DataType) (component : Scalar) : DataType :=
  match t with
  | .vector _ width => .vector component width
  | _ => .scalar component

end DataType

/-- Whether a module admits vectors of this width. -/
def isVectorWidth (width : Word) : Bool := 2 ≤ width && width ≤ 4

end FrameShader
