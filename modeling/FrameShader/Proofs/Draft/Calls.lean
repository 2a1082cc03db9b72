/-
What calls do: a call makes changes, and its answer says something about where they lead.

A call is described from the account it starts on.  If it succeeds, then it has only made changes
that do not lose ids, and its answer and the account it leaves behind satisfy what is claimed.  If it
fails, then it has only made changes as well.  The rules below take such a description apart along
the steps of the call; after each step the account is consistent again, so what the tables say can
be used everywhere.

Main definitions:

* `FrameShader.Build.Does` — what a call does on an account;
* `FrameShader.Draft.frame`, `FrameShader.Draft.Grows` — a draft that only learns of types and
  imports.

Main results:

* `FrameShader.Build.Does.bind` and the other rules — one for each step a call is made of;
* `FrameShader.Draft.Grows.emission` — what may be added to a body may still be added later.
-/

import FrameShader.Proofs.Draft.Checks
import FrameShader.Proofs.Draft.Consistency
import FrameShader.Proofs.Draft.Running

set_option relaxedAutoImplicit false
set_option autoImplicit false

namespace FrameShader

/-- The account after an id was handed out. -/
def Account.take (a : Account) : Account :=
  ⟨a.draft.takeId.addRecord (Build.idRecord a.draft.nextId), a.draft.nextId :: a.spare⟩

namespace Build

variable {α β : Type} {short : Prop} {a : Account}

/-! ### Rules -/

/-- On the account `a` the call only makes changes, and if it succeeds, its answer and the account
it leaves behind satisfy `P`.  Ids can be lost only if there are no more of them. -/
def Does (short : Prop) (call : Build α) (a : Account) (P : α → Account → Prop) : Prop :=
  match call.runOn a.draft with
  | (.ok v, d) => ∃ b : Account, b.draft = d ∧ a.Changes short False b ∧ P v b
  | (.error e, d) =>
      ∃ b : Account, b.draft = d ∧ a.Changes short (e = .overflow .increment) b

namespace Does

variable {P : α → Account → Prop} {Q : β → Account → Prop}

theorem pure {v : α} (h : P v a) : Does short (Pure.pure v) a P :=
  ⟨a, rfl, .refl a, h⟩

/-- A call that is rejected satisfies anything. -/
theorem reject {cause : BuildError} : Does short (Build.reject cause) a P := ⟨a, rfl, .refl a⟩

/-- Rejecting if something holds, and going on if not. -/
theorem guard {p : Prop} [Decidable p] {cause : BuildError} {next : PUnit → Build β}
    (h : ¬p → Does short (next ⟨⟩) a Q) :
    Does short (if p then Build.reject cause >>= next else next ⟨⟩) a Q := by
  by_cases hp : p
  · rw [if_pos hp]
    exact ⟨a, rfl, .refl a⟩
  · rw [if_neg hp]
    exact h hp

/-- A weaker claim. -/
theorem mono {call : Build α} {P' : α → Account → Prop} (h : Does short call a P)
    (himp : ∀ v b, a.Changes short False b → P v b → P' v b) : Does short call a P' := by
  unfold Does at h ⊢
  generalize call.runOn a.draft = r at h ⊢
  rcases r with ⟨e | v, d⟩
  · exact h
  · obtain ⟨b, hb, hchanges, hP⟩ := h
    exact ⟨b, hb, hchanges, himp _ _ hchanges hP⟩

/-- Where a call that succeeds leads. -/
theorem exists_of_ok {call : Build α} (h : Does short call a P) {v : α} {d : Draft}
    (hrun : call.runOn a.draft = (.ok v, d)) :
    ∃ b : Account, b.draft = d ∧ a.Changes short False b ∧ P v b := by
  unfold Does at h
  rwa [hrun] at h

/-- A call that goes on like another one after some changes. -/
theorem of_changes {call next : Build β} {b : Account} (hchanges : a.Changes short False b)
    (hrun : call.runOn a.draft = next.runOn b.draft) (h : Does short next b Q) :
    Does short call a Q := by
  unfold Does at h ⊢
  rw [hrun]
  generalize next.runOn b.draft = r at h ⊢
  rcases r with ⟨e | w, d⟩
  · obtain ⟨c, hc, hrest⟩ := h
    exact ⟨c, hc, (hchanges.mono False.elim).trans hrest⟩
  · obtain ⟨c, hc, hrest, hQ⟩ := h
    exact ⟨c, hc, hchanges.trans hrest, hQ⟩

/-- One call after another. -/
theorem bind {call : Build α} {next : α → Build β} (ha : a.Consistent) (h : Does short call a P)
    (hnext : ∀ v b, b.Consistent → P v b → Does short (next v) b Q) :
    Does short (call >>= next) a Q := by
  rcases hrun : call.runOn a.draft with ⟨e | v, d⟩
  · unfold Does at h ⊢
    rw [hrun] at h
    rw [runOn_bind, hrun]
    exact h
  · unfold Does at h
    rw [hrun] at h
    obtain ⟨b, rfl, hchanges, hP⟩ := h
    exact of_changes hchanges (runOn_bind_of_ok hrun) (hnext v b (ha.after hchanges) hP)

/-- Going on with the draft. -/
theorem get {next : Draft → Build β} (h : Does short (next a.draft) a Q) :
    Does short (MonadState.get >>= next) a Q := by
  unfold Does at h ⊢
  rwa [runOn_bind_of_ok (runOn_get a.draft)]

/-- Going on with an answer that may be a rejection. -/
theorem ofExcept {answer : Except BuildError α} {next : α → Build β}
    (h : ∀ v, answer = .ok v → Does short (next v) a Q) :
    Does short (Build.ofExcept answer >>= next) a Q := by
  cases answer with
  | error cause => exact ⟨a, rfl, .refl a⟩
  | ok v => exact h v rfl

/-- Going on with an answer that may be an overflow. -/
theorem ofArithmetic {answer : Except Overflow α} {next : α → Build β}
    (h : ∀ v, answer = .ok v → Does short (next v) a Q) :
    Does short (Build.ofArithmetic answer >>= next) a Q := by
  cases answer with
  | error operation => exact ⟨a, rfl, .refl a⟩
  | ok v => exact h v rfl

/-- Going on with what the draft shows. -/
theorem inspect {view : Draft → Except BuildError α} {next : α → Build β}
    (h : ∀ v, view a.draft = .ok v → Does short (next v) a Q) :
    Does short (Build.inspect view >>= next) a Q := by
  unfold Does
  rw [runOn_inspect_bind]
  exact ofExcept h

/-- Making one change. -/
theorem of_change {f : Draft → Draft} {P : PUnit → Account → Prop} {ids : List Id}
    (hchange : a.Change short False ⟨f a.draft, ids⟩) (h : P ⟨⟩ ⟨f a.draft, ids⟩) :
    Does short (modify f : Build PUnit) a P :=
  ⟨⟨f a.draft, ids⟩, rfl, .single hchange, h⟩

/-- Making one change and going on. -/
theorem change {f : Draft → Draft} {next : PUnit → Build β} {ids : List Id}
    (ha : a.Consistent) (hchange : a.Change short False ⟨f a.draft, ids⟩)
    (h : Account.Consistent ⟨f a.draft, ids⟩ → Does short (next ⟨⟩) ⟨f a.draft, ids⟩ Q) :
    Does short ((modify f : Build PUnit) >>= next) a Q := by
  refine bind ha (of_change (P := fun _ b => b = ⟨f a.draft, ids⟩) hchange rfl) ?_
  rintro ⟨⟩ b hb rfl
  exact h hb

/-- Writing to the log and going on. -/
theorem record {level : LogLevel} {message : String} {next : Unit → Build β} (ha : a.Consistent)
    (h : Account.Consistent ⟨a.draft.addRecord ⟨level, message⟩, a.spare⟩ →
      Does short (next ()) ⟨a.draft.addRecord ⟨level, message⟩, a.spare⟩ Q) :
    Does short (Build.record level message >>= next) a Q :=
  change ha (.note (.record _)) h

/-- Handing out an id and going on. -/
theorem freshId {next : Id → Build β} (ha : a.Consistent)
    (h : a.take.Consistent → Does short (next a.draft.nextId) a.take Q) :
    Does short (Build.freshId >>= next) a Q := by
  by_cases hroom : a.draft.nextId.toNat + 1 < UInt32.size
  · have hchanges : a.Changes short False a.take :=
      (Account.Changes.single (.take hroom)).trans (.single (.note (.record _)))
    have hcall : Does short Build.freshId a fun id b => id = a.draft.nextId ∧ b = a.take := by
      unfold Does
      rw [runOn_freshId, if_pos hroom]
      exact ⟨a.take, rfl, hchanges, rfl, rfl⟩
    refine bind ha hcall ?_
    rintro id b hb ⟨rfl, rfl⟩
    exact h hb
  · unfold Does
    rw [runOn_bind, runOn_freshId, if_neg hroom]
    exact ⟨a, rfl, .refl a⟩

end Does

end Build

/-! ### Drafts that learn of types -/

namespace Draft

/-- The draft without its types and imports, and without what no check depends on. -/
def frame (d : Draft) : Draft :=
  { current := d.current
    tables :=
      { constants := d.tables.constants
        literals := d.tables.literals
        globals := d.tables.globals
        functions := d.tables.functions
        declared := d.tables.declared
        entryPoints := d.tables.entryPoints
        builtIns := d.tables.builtIns
        slots := d.tables.slots } }

/-- The draft `d'` knows all types and imports of `d`, and apart from them no check tells the two
drafts apart. -/
structure Grows (d d' : Draft) : Prop where
  frame : d'.frame = d.frame
  types : ∀ {t : DataType} {id : Id}, d.Interned t id → d'.Interned t id
  dataTypes : ∀ {id : Id} {t : DataType},
    d.tables.dataTypes.lookup id = some t → d'.tables.dataTypes.lookup id = some t
  imports : ∀ entry ∈ d.tables.imports, entry ∈ d'.tables.imports

namespace Grows

variable {d d' d'' : Draft}

theorem refl (d : Draft) : d.Grows d := ⟨rfl, id, id, fun _ => id⟩

theorem trans (h : d.Grows d') (h' : d'.Grows d'') : d.Grows d'' :=
  ⟨h'.frame.trans h.frame, fun ht => h'.types (h.types ht), fun ht => h'.dataTypes (h.dataTypes ht),
    fun entry he => h'.imports entry (h.imports entry he)⟩

/-- A draft that learns of nothing. -/
theorem of_core (hcore : d'.core = d.core) (hframe : d'.frame = d.frame) : d.Grows d' where
  frame := hframe
  types {t id} ht := by
    show d'.core.tables.types.lookup t = some id
    rw [hcore]
    exact ht
  dataTypes {id t} ht := by
    show d'.core.tables.dataTypes.lookup id = some t
    rw [hcore]
    exact ht
  imports entry he := by
    show entry ∈ d'.core.tables.imports
    rw [hcore]
    exact he

variable {a : Account}

theorem take (a : Account) : a.draft.Grows a.take.draft := ⟨rfl, id, id, fun _ => id⟩

variable (h : d.Grows d')

include h

theorem current : d'.current = d.current := by
  show d'.frame.current = d.frame.current
  rw [h.frame]

theorem typeOf? (id : Id) : d'.typeOf? id = d.typeOf? id := by
  show d'.frame.typeOf? id = d.frame.typeOf? id
  rw [h.frame]

theorem literal? (id : Id) : d'.literal? id = d.literal? id := by
  show d'.frame.literal? id = d.frame.literal? id
  rw [h.frame]

theorem isConstant (id : Id) : d'.isConstant id = d.isConstant id := by
  show d'.frame.isConstant id = d.frame.isConstant id
  rw [h.frame]

theorem callable (id : Id) : d'.callable id = d.callable id := by
  show d'.frame.callable id = d.frame.callable id
  rw [h.frame]

theorem declared : d'.tables.declared = d.tables.declared := by
  show d'.frame.tables.declared = d.frame.tables.declared
  rw [h.frame]

theorem globals : d'.tables.globals = d.tables.globals := by
  show d'.frame.tables.globals = d.frame.tables.globals
  rw [h.frame]

theorem functions : d'.tables.functions = d.tables.functions := by
  show d'.frame.tables.functions = d.frame.tables.functions
  rw [h.frame]

theorem constants : d'.tables.constants = d.tables.constants := by
  show d'.frame.tables.constants = d.frame.tables.constants
  rw [h.frame]

theorem entryPoints : d'.tables.entryPoints = d.tables.entryPoints := by
  show d'.frame.tables.entryPoints = d.frame.tables.entryPoints
  rw [h.frame]

theorem builtIns : d'.tables.builtIns = d.tables.builtIns := by
  show d'.frame.tables.builtIns = d.frame.tables.builtIns
  rw [h.frame]

theorem slots : d'.tables.slots = d.tables.slots := by
  show d'.frame.tables.slots = d.frame.tables.slots
  rw [h.frame]

theorem sees {v : Value} {t : DataType} (hv : d.Sees v t) : d'.Sees v t :=
  ⟨by rw [h.typeOf?]; exact hv.1, h.dataTypes hv.2⟩

theorem interned {ts : List DataType} {ids : List Id} (hts : List.Forall₂ d.Interned ts ids) :
    List.Forall₂ d'.Interned ts ids :=
  hts.imp fun _ _ => h.types

theorem signs {result : DataType} {parameters : List DataType} {s : Signature}
    (hs : d.Signs result parameters s) : d'.Signs result parameters s :=
  ⟨h.types hs.type, h.types hs.result, h.interned hs.parameters⟩

theorem hasSignature {s : Signature} (hs : d.HasSignature s) : d'.HasSignature s := by
  obtain ⟨result, parameters, hs⟩ := hs
  exact ⟨result, parameters, h.signs hs⟩

/-- The part that one index reaches stays the same. -/
theorem stepInto {t part : DataType} {index : Value} (hstep : d.stepInto t index = .ok part) :
    d'.stepInto t index = .ok part := by
  unfold Draft.stepInto at hstep ⊢
  rw [bind_eq_ok] at hstep ⊢
  obtain ⟨u, hu, hstep⟩ := hstep
  rw [check_eq_ok] at hu
  refine ⟨u, check_eq_ok.2 (h.sees hu), ?_⟩
  have hmember (members : List DataType) :
      d'.selectedMember members index.id = d.selectedMember members index.id := by
    unfold Draft.selectedMember
    rw [h.literal?]
  simp only [hmember]
  exact hstep

/-- What indices reach stays the same. -/
theorem walk {indices : List Value} {t part : DataType} (hwalk : d.walk t indices = .ok part) :
    d'.walk t indices = .ok part := by
  induction indices generalizing t with
  | nil => exact hwalk
  | cons index indices ih =>
      rw [Draft.walk, bind_eq_ok] at hwalk ⊢
      obtain ⟨u, hu, hwalk⟩ := hwalk
      exact ⟨u, h.stepInto hu, ih hwalk⟩

/-- What may be added to a body may still be added later. -/
theorem emission {short : Prop} {opcode : Opcode} {type : Id} {operands : List Operand}
    (he : d.Emission short opcode type operands) : d'.Emission short opcode type operands := by
  cases he with
  | arithmetic ho ha hb hab ht => exact .arithmetic ho (h.sees ha) (h.sees hb) hab ht
  | vectorTimesScalar hv hx hs => exact .vectorTimesScalar (h.sees hv) (h.sees hx) hs
  | dot ha hb hab hs htype => exact .dot (h.sees ha) (h.sees hb) hab hs (h.types htype)
  | extInst htype hargs hset =>
      exact .extInst (h.dataTypes htype) (fun v hv => (hargs v hv).imp fun _ => h.sees)
        (h.imports _ hset)
  | convertUToF hv hs htype => exact .convertUToF (h.sees hv) hs (h.types htype)
  | fOrdEqual ha hb hab ht htype =>
      exact .fOrdEqual (h.sees ha) (h.sees hb) hab ht (h.types htype)
  | select hc ha hr har ht => exact .select (h.sees hc) (h.sees ha) (h.sees hr) har ht
  | compositeConstruct hparts hs hcounts hshort htype =>
      exact .compositeConstruct (hparts.imp fun _ _ => h.sees) hs hcounts hshort (h.types htype)
  | compositeExtract hv hi htype => exact .compositeExtract (h.sees hv) hi (h.types htype)
  | vectorShuffle ha hb hi hshort htype =>
      exact .vectorShuffle (h.sees ha) (h.sees hb) hi hshort (h.types htype)
  | sampledImage hi hs hn htype =>
      exact .sampledImage (h.sees hi) (h.sees hs) hn (h.types htype)
  | imageSampleExplicitLod hi hc ht hcount hl htype =>
      exact .imageSampleExplicitLod (h.sees hi) (h.sees hc) ht hcount (h.sees hl) (h.types htype)
  | accessChain hb hw htype => exact .accessChain (h.sees hb) (h.walk hw) (h.types htype)
  | load hp htype => exact .load (h.sees hp) (h.types htype)
  | functionCall hs hargs =>
      refine .functionCall ((h.callable _).trans hs) (hargs.imp ?_)
      rintro v p ⟨hp, t, ht⟩
      exact ⟨hp, t, h.sees ht⟩

end Grows

end Draft

end FrameShader
