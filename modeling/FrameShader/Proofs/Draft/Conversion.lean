/-
Conversion: what may be converted to floating-point numbers, and what becomes of it.

The check of a conversion looks at the component at the bottom of the type of its operand, and not at
the type itself.  So it lets unsigned integers and vectors of them pass, which keep their shape, but
also pointers to them, arrays of them and images of them; all of these become a single number.

Main definitions:

* `FrameShader.DataType.LiesOver` — a type with a certain component at its bottom.

Main results:

* `FrameShader.DataType.scalarOf_eq` — the bottom of a type, by the way the type is made;
* `FrameShader.Draft.convertUToF_accepts` — **what a conversion accepts and answers**;
* `FrameShader.Draft.not_unsigned_of_convertUToF` — it does not accept numbers alone.
-/

import FrameShader.Proofs.Draft.Runs

set_option relaxedAutoImplicit false
set_option autoImplicit false

namespace FrameShader

/-! ### The bottom of a type -/

namespace DataType

/-- The type has the component `s` at its bottom. -/
inductive LiesOver (s : Scalar) : DataType → Prop
  | scalar : LiesOver s (.scalar s)
  | vector (width : Word) : LiesOver s (.vector s width)
  | runtimeArray {element : DataType} (h : LiesOver s element) : LiesOver s (.runtimeArray element)
  | pointer (storage : StorageClass) {pointee : DataType} (h : LiesOver s pointee) :
      LiesOver s (.pointer storage pointee)
  | image {shape : ImageShape} (h : shape.sampledType = s) : LiesOver s (.image shape)
  | sampledImage {inner : DataType} (h : LiesOver s inner) : LiesOver s (.sampledImage inner)

/-- **A type lies over its bottom**, and over nothing else.  Records, samplers and functions have
none. -/
theorem scalarOf_eq {s : Scalar} (hs : s ≠ .void) (t : DataType) :
    t.scalarOf = s ↔ t.LiesOver s := by
  constructor
  · intro h
    induction t using scalarOf.induct with
    | case1 component => exact h ▸ .scalar
    | case2 component width => exact h ▸ .vector width
    | case3 element ih => exact .runtimeArray (ih h)
    | case4 storage pointee ih => exact .pointer storage (ih h)
    | case5 shape => exact .image h
    | case6 inner ih => exact .sampledImage (ih h)
    | case7 | case8 | case9 => exact absurd h.symm hs
  · intro h
    induction h with
    | scalar => rfl
    | vector width => rfl
    | runtimeArray _ ih => exact ih
    | pointer storage _ ih => exact ih
    | image h => exact h
    | sampledImage _ ih => exact ih

/-- A number, a vector of numbers, or something that is no number but lies over one. -/
theorem LiesOver.shape {s : Scalar} {t : DataType} (h : t.LiesOver s) :
    t = .scalar s ∨ (∃ width, t = .vector s width) ∨ t.components? = none := by
  cases h with
  | scalar => exact Or.inl rfl
  | vector width => exact Or.inr (Or.inl ⟨width, rfl⟩)
  | runtimeArray | pointer | image | sampledImage => exact Or.inr (Or.inr rfl)

/-- What has no components becomes a single one. -/
theorem withScalar_of_components? {t : DataType} (h : t.components? = none) (s : Scalar) :
    t.withScalar s = .scalar s := by
  cases t with
  | vector component width => cases h
  | _ => rfl

end DataType

namespace Draft

open Build

variable {d : Draft} {v : Value}

/-! ### The check -/

/-- **The check asks for an unsigned integer at the bottom of the type**, and for a floating-point
number to become of it. -/
theorem conversion_eq_ok {target : Scalar} {t : DataType} : d.conversion v target = .ok t ↔
    ∃ u source width, d.Sees v u ∧ u.LiesOver (.int source false) ∧ target = .float width ∧
      t = u.withScalar (.float width) := by
  have hint (source : Word) : Scalar.int source false ≠ .void := nofun
  constructor
  · intro h
    obtain ⟨u, source, width, hv, hu, htarget, ht⟩ := conversion_ok h
    exact ⟨u, source, width, hv, (u.scalarOf_eq (hint source)).1 hu, htarget, ht⟩
  · rintro ⟨u, source, width, hv, hu, rfl, rfl⟩
    have hbottom := (u.scalarOf_eq (hint source)).2 hu
    rw [conversion, bind_eq_ok]
    refine ⟨u, check_eq_ok.2 hv, ?_⟩
    rw [hbottom]
    rfl

/-! ### The conversion -/

/-- A result of the open function can be seen, and has the type it was given. -/
theorem sees_addResult {f : OpenFunction} {type : Id} {t : DataType} (opcode : Opcode) (id : Id)
    (operands : List Operand) (hf : d.current = some f)
    (ht : d.tables.dataTypes.lookup type = some t) :
    (d.addResult opcode type id operands).Sees ⟨id, type⟩ t := by
  refine ⟨?_, ht⟩
  have hlocal : (d.addResult opcode type id operands).localType? id = some type := by
    simp [localType?, addResult, addToBody, addLocal, hf]
  rw [typeOf?, hlocal]

/-- **What a conversion accepts and answers.**  The operand has an unsigned integer at the bottom of
its type.  If it is such an integer, the answer is a floating-point number, and if it is a vector of
them, the answer is a vector of as many numbers.  In all other cases, of a pointer, an array, or an
image, with a sampler or without one, the answer is a single number. -/
theorem convertUToF_accepts (settings : ModuleSettings) (os : List Operation) (v w : Value)
    (target : Scalar) (d' : Draft)
    (h : (convertUToF v target).runOn ((empty settings).after os) = (.ok w, d')) :
    ∃ t source width, ((empty settings).after os).Sees v t ∧ target = .float width ∧
      t.LiesOver (.int source false) ∧
      ((t = .scalar (.int source false) ∧ d'.Sees w (.float width)) ∨
        (∃ n, t = .vector (.int source false) n ∧ d'.Sees w (.vector (.float width) n)) ∨
        (t.components? = none ∧ d'.Sees w (.float width))) := by
  obtain ⟨a, ha, -, hconsistent⟩ := run_account False settings os False.elim
  rw [← ha] at h ⊢
  rw [convertUToF, runOn_bind, runOn_inspect] at h
  cases hcheck : a.draft.conversion v target with
  | error cause =>
      rw [hcheck] at h
      cases h
  | ok u =>
      rw [hcheck] at h
      obtain ⟨t, source, width, hv, hlies, rfl, rfl⟩ := conversion_eq_ok.1 hcheck
      -- the type of the result is interned before the instruction is written
      rcases htype : (typeId (t.withScalar (.float width))).runOn a.draft with ⟨e | type, d₁⟩
      · have hrun : (typeId (t.withScalar (.float width)) >>= _).runOn a.draft = (.ok w, d') := h
        rw [runOn_bind, htype] at hrun
        cases hrun
      · have hrun : (typeId (t.withScalar (.float width)) >>= fun type =>
            emitValue .convertUToF type [.id v.id]).runOn a.draft = (.ok w, d') := h
        rw [runOn_bind_of_ok htype] at hrun
        have hdoes : Does False (typeId (t.withScalar (.float width))) a _ := typeId_does _ hconsistent
        obtain ⟨b, rfl, hchanges, hinterned, -⟩ := hdoes.exists_of_ok htype
        obtain ⟨⟨f, hf⟩, rfl, rfl⟩ := runOn_emitValue_ok hrun
        have hsees := sees_addResult .convertUToF b.draft.nextId [.id v.id]
          (show b.take.draft.current = some f from (writable_eq_ok.1 hf).1)
          ((hconsistent.after hchanges).lookup_dataTypes hinterned)
        refine ⟨t, source, width, hv, rfl, hlies, ?_⟩
        rcases hlies.shape with rfl | ⟨n, rfl⟩ | hnone
        · exact Or.inl ⟨rfl, hsees⟩
        · exact Or.inr (Or.inl ⟨n, rfl, hsees⟩)
        · rw [DataType.withScalar_of_components? hnone] at hsees
          exact Or.inr (Or.inr ⟨hnone, hsees⟩)

/-- Calls that add a variable, a pointer to an unsigned integer, and open a function. -/
def pointerCalls : List Operation :=
  [.globalVariable .input .uint32, .beginFunction "f" .void [] .none]

/-- Calls that load the integer behind the pointer. -/
def integerCalls : List Operation := pointerCalls ++ [.load ⟨3, 2⟩]

/-- The integer is converted to a number. -/
theorem convertUToF_accepts_integer :
    ∃ w d', (convertUToF ⟨8, 1⟩ (.float 32)).runOn ((empty {}).after integerCalls) = (.ok w, d') ∧
      ((empty {}).after integerCalls).Sees ⟨8, 1⟩ .uint32 ∧ d'.Sees w (.float 32) := by
  have hok : ((convertUToF ⟨8, 1⟩ (.float 32)).runOn
      ((empty {}).after integerCalls)).1.isOk = true := by
    decide +kernel
  have hid : ((empty {}).after integerCalls).typeOf? 8 = some 1 := by decide +kernel
  have htype : ((empty {}).after integerCalls).tables.dataTypes.lookup 1 = some .uint32 := by
    decide +kernel
  obtain ⟨w, d', hrun⟩ := exists_of_isOk hok
  obtain ⟨t, source, width, ht, hwidth, -, hshape⟩ := convertUToF_accepts {} _ _ _ _ _ hrun
  refine ⟨w, d', hrun, ⟨hid, htype⟩, ?_⟩
  obtain rfl := Option.some.inj (ht.2.symm.trans htype)
  obtain rfl := Scalar.float.inj hwidth
  rcases hshape with ⟨-, hw⟩ | ⟨n, hvector, -⟩ | ⟨hnone, -⟩
  · exact hw
  · cases hvector
  · cases hnone

/-- **A conversion does not only accept unsigned integers and vectors of them**: the pointer itself
is converted as well. -/
theorem not_unsigned_of_convertUToF : ¬ ∀ (settings : ModuleSettings) (os : List Operation)
    (v w : Value) (target : Scalar) (d' : Draft),
    (convertUToF v target).runOn ((empty settings).after os) = (.ok w, d') →
      ∃ source width, target = .float width ∧
        (((empty settings).after os).Sees v (.scalar (.int source false)) ∧
            d'.Sees w (.float width) ∨
          ∃ n, ((empty settings).after os).Sees v (.vector (.int source false) n) ∧
            d'.Sees w (.vector (.float width) n)) := by
  intro hall
  have hok : ((convertUToF ⟨3, 2⟩ (.float 32)).runOn
      ((empty {}).after pointerCalls)).1.isOk = true := by
    decide +kernel
  have hpointer : ((empty {}).after pointerCalls).tables.dataTypes.lookup 2 =
      some (.pointer .input .uint32) := by
    decide +kernel
  obtain ⟨w, d', hrun⟩ := exists_of_isOk hok
  obtain ⟨source, width, -, ⟨hv, -⟩ | ⟨n, hv, -⟩⟩ := hall {} pointerCalls ⟨3, 2⟩ w _ d' hrun
  · cases hv.2.symm.trans hpointer
  · cases hv.2.symm.trans hpointer

end Draft

end FrameShader
