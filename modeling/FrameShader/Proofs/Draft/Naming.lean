/-
Naming: which names a module keeps.

Names are given to new types, to functions that are opened, and to whatever a caller asks to name.
They are kept only while the settings ask for symbols.  Of the names that one id or one member of a
record is given, the first one that was accepted at such a time stays, and the others are dropped.

Main definitions:

* `FrameShader.GivenName` — the name of an id or of a member;
* `FrameShader.Draft.accepted` — the names that a run gives while symbols are asked for, in order;
* `FrameShader.Firsts` — the first name of each id and of each member;
* `FrameShader.Draft.Named` — the names of a draft are the first ones.

Main results:

* `FrameShader.Draft.Named.step` — **one call adds the names that it gives, unless there are some
  already**;
* `FrameShader.Draft.named_after` — **the names of a draft are the first that the run has given**.
-/

import FrameShader.Proofs.Draft.Asking

set_option relaxedAutoImplicit false
set_option autoImplicit false

namespace FrameShader

/-! ### Names -/

/-- A name: of an id, or of a member of a record. -/
structure GivenName where
  target : Id
  member : Option Word
  text : String
  deriving DecidableEq, Repr

namespace GivenName

/-- What is named. -/
def key (n : GivenName) : Id × Option Word := (n.target, n.member)

/-- The instruction that states the name. -/
def row (n : GivenName) : Instruction :=
  match n.member with
  | none => .plain .debugName [.id n.target, .text n.text]
  | some member => .plain .debugMemberName [.id n.target, .literal member, .text n.text]

end GivenName

/-- The name that a call gives which opens a function. -/
def openedName? (text : String) : Except Failure FunctionHandle → Option GivenName
  | .ok f => some ⟨f.id, none, text⟩
  | .error _ => none

/-- The name that a call was asked to give, if it has succeeded. -/
def givenName? : Operation × Except Failure Answer → Option GivenName
  | (.name id text, .ok _) => some ⟨id, none, text⟩
  | (.nameMember id member text, .ok _) => some ⟨id, some member, text⟩
  | (.beginFunction text _ _ _, .ok (.function f)) => some ⟨f.id, none, text⟩
  | (.defineFunction _ text _ _ _, .ok (.function f)) => some ⟨f.id, none, text⟩
  | (.beginEntryPoint text _, .ok (.function f)) => some ⟨f.id, none, text⟩
  | _ => none

/-- The name of a new type.  An array without a stride has none. -/
def typeName? (entry : Id × DataType) : Option GivenName :=
  if entry.2.hasStride then some ⟨entry.1, none, entry.2.text⟩ else none

/-! ### The first names -/

/-- These are the first names of each id and of each member. -/
structure Firsts (given kept : List GivenName) : Prop where
  nodup : (kept.map GivenName.key).Nodup
  mem_iff : ∀ n, n ∈ kept ↔ given.find? (·.key == n.key) = some n

namespace Firsts

variable {given kept : List GivenName} {n : GivenName}

theorem nil : Firsts [] [] := ⟨List.nodup_nil, by simp⟩

/-- What has a name keeps it. -/
theorem snoc_of_mem (h : Firsts given kept) (hn : n.key ∈ kept.map GivenName.key) :
    Firsts (given ++ [n]) kept := by
  refine ⟨h.nodup, fun m => ?_⟩
  rw [h.mem_iff, List.find?_append]
  cases hfind : given.find? (·.key == m.key) with
  | some k => rfl
  | none =>
      -- a name of `m` is not among the first ones, so it is not `n` that is named alike
      have hne : n.key ≠ m.key := by
        intro hkey
        obtain ⟨k, hk, hkn⟩ := List.mem_map.1 hn
        have hfound := (h.mem_iff k).1 hk
        rw [hkn, hkey, hfind] at hfound
        cases hfound
      simp [hne]

/-- What has no name gets one. -/
theorem snoc_of_not_mem (h : Firsts given kept) (hn : n.key ∉ kept.map GivenName.key) :
    Firsts (given ++ [n]) (kept ++ [n]) := by
  have hnone : given.find? (·.key == n.key) = none := by
    refine Option.eq_none_iff_forall_not_mem.2 fun k hk => hn ?_
    have hkey : k.key = n.key := by simpa using List.find?_some hk
    have hfirst : given.find? (·.key == k.key) = some k := by rw [hkey]; exact hk
    exact List.mem_map.2 ⟨k, (h.mem_iff k).2 hfirst, hkey⟩
  refine ⟨?_, fun m => ?_⟩
  · rw [List.map_append]
    refine List.nodup_append.2 ⟨h.nodup, List.nodup_singleton _, ?_⟩
    rintro k hk _ hm rfl
    exact hn (List.mem_singleton.1 hm ▸ hk)
  · rw [List.mem_append, List.mem_singleton, List.find?_append, h.mem_iff]
    by_cases hkey : n.key = m.key
    · rw [← hkey, hnone]
      simp [eq_comm]
    · have hne : m ≠ n := fun heq => hkey (heq ▸ rfl)
      simp [hkey, hne]

end Firsts

namespace Draft

open Build

variable {d d' d₀ : Draft} {given more : List GivenName}

/-- The names of the draft are the first of these. -/
def Named (given : List GivenName) (d : Draft) : Prop :=
  ∃ kept, Firsts given kept ∧ d.sections.names = kept.map GivenName.row ∧
    d.tables.names = (kept.map GivenName.key).reverse

theorem Named.empty (settings : ModuleSettings) : (Draft.empty settings).Named [] :=
  ⟨[], .nil, rfl, rfl⟩

theorem Named.of_terms (h : d.Named given) (hsame : d'.terms = d.terms) : d'.Named given := by
  obtain ⟨kept, hkept, hrows, hkeys⟩ := h
  exact ⟨kept, hkept, (view_eq hsame (·.sections.names) fun _ => rfl).trans hrows,
    (view_eq hsame (·.tables.names) fun _ => rfl).trans hkeys⟩

/-- A name is kept if it is the first one and symbols are asked for. -/
theorem Named.addName (h : d.Named given) (n : GivenName) :
    (d.addName n.target n.member n.row).Named
      (given ++ if d.settings.debugSymbols then [n] else []) := by
  obtain ⟨kept, hkept, hrows, hkeys⟩ := h
  have hmem : (n.target, n.member) ∈ d.tables.names ↔ n.key ∈ kept.map GivenName.key := by
    rw [hkeys, List.mem_reverse]
    rfl
  cases hsymbols : d.settings.debugSymbols with
  | false =>
      have hsame : d.addName n.target n.member n.row = d := by simp [Draft.addName, hsymbols]
      rw [hsame, if_neg Bool.false_ne_true, List.append_nil]
      exact ⟨kept, hkept, hrows, hkeys⟩
  | true =>
      rw [if_pos rfl]
      unfold Draft.addName
      split
      case isTrue h =>
        have hnamed : (n.target, n.member) ∈ d.tables.names := by simpa [hsymbols] using h
        exact ⟨kept, hkept.snoc_of_mem (hmem.1 hnamed), hrows, hkeys⟩
      case isFalse h =>
        have hnew : (n.target, n.member) ∉ d.tables.names := by simpa [hsymbols] using h
        refine ⟨kept ++ [n], hkept.snoc_of_not_mem fun hn => hnew (hmem.2 hn), ?_, ?_⟩
        · show d.sections.names ++ [n.row] = _
          rw [hrows, List.map_append]
          rfl
        · show n.key :: d.tables.names = _
          rw [hkeys, List.map_append, List.reverse_append]
          rfl

/-! ### Names of types -/

/-- Since `d₀`, types have been defined and named, and then the names `more` were given. -/
structure Since (d₀ : Draft) (given more : List GivenName) (d : Draft) : Prop where
  settings : d.settings = d₀.settings
  named : ∃ new, d.tables.dataTypes = new ++ d₀.tables.dataTypes ∧
    d.Named (given ++ if d₀.settings.debugSymbols then new.reverse.filterMap typeName? ++ more else [])

namespace Since

theorem refl (h : d.Named given) : Since d given [] d :=
  ⟨rfl, [], rfl, by simpa using h⟩

theorem of_terms (h : Since d₀ given more d) (hsame : d'.terms = d.terms) :
    Since d₀ given more d' := by
  obtain ⟨hsettings, new, htypes, hnamed⟩ := h
  exact ⟨(view_eq hsame (·.settings) fun _ => rfl).trans hsettings, new,
    (view_eq hsame (·.tables.dataTypes) fun _ => rfl).trans htypes, hnamed.of_terms hsame⟩

/-- One more name. -/
theorem addName (h : Since d₀ given [] d) (n : GivenName) :
    Since d₀ given [n] (d.addName n.target n.member n.row) := by
  obtain ⟨hsettings, new, htypes, hnamed⟩ := h
  have hbare := d.bare_addName n.target n.member n.row
  refine ⟨(view_eq hbare (·.settings) fun _ => rfl).trans hsettings, new,
    (view_eq hbare (·.tables.dataTypes) fun _ => rfl).trans htypes, ?_⟩
  have hadded := hnamed.addName n
  rw [hsettings] at hadded
  cases hsymbols : d₀.settings.debugSymbols <;> simpa [hsymbols] using hadded

/-- A type that is named is one that is defined. -/
theorem addType (h : Since d₀ given [] d) (id : Id) (t : DataType) (opcode : Opcode)
    (operands : List Operand) : Since d₀ given [] (d.addNamedType id t opcode operands) := by
  obtain ⟨hsettings, new, htypes, hnamed⟩ := h
  have hdefined : (d.addTypeDefinition id t opcode operands).tables.dataTypes =
      (id, t) :: new ++ d₀.tables.dataTypes := congrArg ((id, t) :: ·) htypes
  unfold addNamedType
  split
  case isTrue hstride =>
    have hbare := (d.addTypeDefinition id t opcode operands).bare_addName id none (typeName id t)
    refine ⟨(view_eq hbare (·.settings) fun _ => rfl).trans hsettings, _,
      (view_eq hbare (·.tables.dataTypes) fun _ => rfl).trans hdefined, ?_⟩
    have hkept : (d.addTypeDefinition id t opcode operands).Named _ := hnamed
    have hadded := hkept.addName ⟨id, none, t.text⟩
    rw [show (d.addTypeDefinition id t opcode operands).settings = d₀.settings from hsettings] at hadded
    cases hsymbols : d₀.settings.debugSymbols <;>
      simpa [hsymbols, typeName?, hstride, GivenName.row, typeName] using hadded
  case isFalse hstride =>
    refine ⟨hsettings, _, hdefined, ?_⟩
    have hkept : (d.addTypeDefinition id t opcode operands).Named _ := hnamed
    cases hsymbols : d₀.settings.debugSymbols <;>
      simpa [hsymbols, typeName?, hstride] using hkept

theorem keptByTypes (d₀ : Draft) (given : List GivenName) : KeptByTypes (Since d₀ given []) where
  unannotated hsame h := h.of_terms (view_eq hsame terms fun _ => rfl)
  take h := h.of_terms rfl
  capability h := h.of_terms (terms_addCapability _ _)
  define id t opcode operands _ h := h.addType id t opcode operands

end Since

/-- Calls that give no name but to types. -/
theorem Since.made {α : Type} {E : (Draft → Draft) → Prop} {call : Build α} (hcall : Made E call)
    (hE : ∀ {f : Draft → Draft}, E f → ∀ d, (f d).terms = d.terms) (h : Since d₀ given [] d) :
    Since d₀ given [] (call.runOn d).2 :=
  hcall.keeps (fun _ hsame h => h.of_terms hsame) (fun hf h => h.of_terms (hE hf _))
    (fun t _ => typeId_keeps (Since.keptByTypes d₀ given) t) h

/-! ### Names of functions -/

/-- The call opens a function, which is the last thing that it names. -/
def Announces (d₀ : Draft) (given : List GivenName) (text : String) (call : Build FunctionHandle) :
    Prop :=
  ∀ d, Since d₀ given [] d →
    Since d₀ given (openedName? text (call.runOn d).1).toList (call.runOn d).2

namespace Announces

variable {α : Type} {E : (Draft → Draft) → Prop} {text : String}

/-- Calls that give no name may come first. -/
theorem bind {call : Build α} {next : α → Build FunctionHandle} (hcall : Made E call)
    (hE : ∀ {f : Draft → Draft}, E f → ∀ d, (f d).terms = d.terms)
    (hnext : ∀ v, Announces d₀ given text (next v)) : Announces d₀ given text (call >>= next) := by
  intro d h
  have hcalled := h.made hcall hE
  rw [runOn_bind]
  rcases hrun : call.runOn d with ⟨e | v, d'⟩
  · rw [hrun] at hcalled
    exact hcalled
  · rw [hrun] at hcalled
    exact hnext v d' hcalled

/-- A step that gives no name may come last. -/
theorem andThen {call : Build FunctionHandle} {f : FunctionHandle → Draft → Draft}
    (hcall : Announces d₀ given text call) (hf : ∀ v d, (f v d).terms = d.terms) :
    Announces d₀ given text (call >>= fun v => modify (f v) >>= fun _ => pure v) := by
  intro d h
  have hcalled := hcall d h
  rw [runOn_bind]
  rcases hrun : call.runOn d with ⟨e | v, d'⟩
  · rw [hrun] at hcalled
    exact hcalled
  · rw [hrun] at hcalled
    exact hcalled.of_terms (hf v d')

end Announces

/-- A function that is open can be named. -/
theorem enterFunction_announces (d₀ : Draft) (given : List GivenName) (id : Id) (text : String)
    (s : Signature) (control : FunctionControl) :
    Announces d₀ given text (enterFunction id text s control) := by
  refine .bind (E := fun _ => False) (freshBody_made _) False.elim ?_
  rintro ⟨values, label⟩ d h
  let e := d.openBody (.start id s control values label) s
  have hopen : e.isDefined id = true := by
    simp [e, isDefined, openBody, OpenFunction.start]
  have hname := runOn_name_of_isDefined hopen text
  show Since d₀ given (openedName? text
      ((name id text >>= fun _ => _ : Build FunctionHandle).runOn e).1).toList
    ((name id text >>= fun _ => _ : Build FunctionHandle).runOn e).2
  rw [runOn_bind_of_ok hname]
  have hopened : Since d₀ given [] e := h.of_terms rfl
  exact (hopened.addName ⟨id, none, text⟩).of_terms rfl

theorem openFunction_announces (d₀ : Draft) (given : List GivenName) (id : Id) (text : String)
    (result : DataType) (parameters : List DataType) (control : FunctionControl) :
    Announces d₀ given text (openFunction id text result parameters control) :=
  .bind (E := fun _ => False) (signature_made _ _) False.elim
    fun _ => enterFunction_announces d₀ given _ _ _ _

theorem beginFunction_announces (d₀ : Draft) (given : List GivenName) (text : String)
    (result : DataType) (parameters : List DataType) (control : FunctionControl) :
    Announces d₀ given text (beginFunction text result parameters control) :=
  .bind (E := fun _ => False) (.inspect fun _ => rfl) False.elim fun _ =>
    .bind (E := fun _ => False) .freshId False.elim fun _ =>
      openFunction_announces d₀ given _ _ _ _ _

theorem defineFunction_announces (d₀ : Draft) (given : List GivenName) (id : Id) (text : String)
    (result : DataType) (parameters : List DataType) (control : FunctionControl) :
    Announces d₀ given text (defineFunction id text result parameters control) := by
  have hE {f : Draft → Draft} (hf : (Operation.defineFunction id text result parameters control).Effect f)
      (d : Draft) : (f d).terms = d.terms := by
    cases hf
    rfl
  have hopen : Announces d₀ given text (do
      modify (·.removeDeclared id)
      openFunction id text result parameters control) :=
    .bind (.effect (.define _ _ _ _ _)) hE fun _ => openFunction_announces d₀ given _ _ _ _ _
  refine .bind (.inspect fun _ => rfl) hE fun _ => .bind (.inspect fun _ => rfl) hE fun declared => ?_
  refine .bind (signature_made _ _) hE fun s => ?_
  show Announces d₀ given text (if declared ≠ s then _ else _)
  split
  · exact .bind (.inspect fun _ => rfl) hE fun _ => .bind (.inspect fun _ => rfl) hE fun _ =>
      .bind (.reject _) hE fun _ => hopen
  · exact hopen

theorem beginEntryPoint_announces (d₀ : Draft) (given : List GivenName) (text : String)
    (interface : List Value) :
    Announces d₀ given text (beginEntryPoint text interface) := by
  refine .bind (E := fun _ => False) (.inspect fun d => ?_) False.elim fun _ =>
    (beginFunction_announces d₀ given _ _ _ _).andThen fun _ _ => rfl
  rw [d.interface_sight]
  rfl

/-! ### Runs -/

/-- The types that `d'` has and `d` has not, the oldest first. -/
def newTypes (d d' : Draft) : List (Id × DataType) :=
  (d'.tables.dataTypes.take (d'.tables.dataTypes.length - d.tables.dataTypes.length)).reverse

/-- The names that a call gives while symbols are asked for: those of the types that it defines, and
the one that it was asked to give. -/
def acceptedBy (d : Draft) (o : Operation) : List GivenName :=
  if d.settings.debugSymbols then
    (newTypes d (d.step o)).filterMap typeName? ++ (givenName? (o, (o.run.runOn d).1)).toList
  else []

/-- The names that a run gives while symbols are asked for, in order. -/
def accepted (d : Draft) : List Operation → List GivenName
  | [] => []
  | o :: os => d.acceptedBy o ++ (d.step o).accepted os

theorem Since.named_acceptedBy {o : Operation}
    (h : Since d given (givenName? (o, (o.run.runOn d).1)).toList (d.step o)) :
    (d.step o).Named (given ++ d.acceptedBy o) := by
  obtain ⟨-, new, htypes, hnamed⟩ := h
  have hnew : newTypes d (d.step o) = new.reverse := by simp [newTypes, htypes]
  unfold acceptedBy
  rw [hnew]
  exact hnamed

/-- A call that opens a function, as an operation. -/
theorem Announces.since {text : String} {call : Build FunctionHandle} {o : Operation}
    (h : Announces d given text call) (hrun : o.run = .function <$> call)
    (hgiven : ∀ answer : Except Failure FunctionHandle,
      givenName? (o, answer.map .function) = openedName? text answer)
    (hd : d.Named given) : Since d given (givenName? (o, (o.run.runOn d).1)).toList (d.step o) := by
  have hopened := h d (.refl hd)
  rw [Draft.step, hrun, runOn_map, hgiven]
  exact hopened

/-- **One call adds the names that it gives**, unless there are some already. -/
theorem Named.step (h : d.Named given) (o : Operation) :
    (d.step o).Named (given ++ d.acceptedBy o) := by
  by_cases hnaming : o.isNaming = true
  · refine Since.named_acceptedBy ?_
    cases o with
    | beginFunction text result parameters control =>
        refine (beginFunction_announces d given text result parameters control).since rfl ?_ h
        rintro (_ | _) <;> rfl
    | defineFunction id text result parameters control =>
        refine (defineFunction_announces d given id text result parameters control).since rfl ?_ h
        rintro (_ | _) <;> rfl
    | beginEntryPoint text interface =>
        refine (beginEntryPoint_announces d given text interface).since rfl ?_ h
        rintro (_ | _) <;> rfl
    | name id text =>
        rw [Draft.step, Operation.run, runOn_map, name, runOn_bind, runOn_inspect]
        cases d.isVisible id with
        | false => exact .refl h
        | true => exact (Since.refl h).addName ⟨id, none, text⟩
    | nameMember id member text =>
        rw [Draft.step, Operation.run, runOn_map, nameMember, runOn_bind, runOn_inspect]
        cases d.recordMember id member with
        | error cause => exact .refl h
        | ok => exact (Since.refl h).addName ⟨id, some member, text⟩
    | _ => cases hnaming
  · have hplain : o.isNaming = false := Bool.eq_false_iff.2 hnaming
    have hnone : givenName? (o, (o.run.runOn d).1) = none := by
      cases o <;> first | rfl | cases hplain
    -- of these operations, only switching symbols on or off changes what names depend on
    by_cases hconfigure : ∃ change, o = .configure change
    · obtain ⟨change, rfl⟩ := hconfigure
      have hnew : newTypes d (d.step (.configure change)) = [] := by
        have hsame : (d.step (.configure change)).tables = d.tables := rfl
        simp [newTypes, hsame]
      rw [acceptedBy, hnew, hnone]
      simpa using show (d.step (.configure change)).Named given from h
    · have hE {f : Draft → Draft} (hf : o.Effect f) (d : Draft) : (f d).terms = d.terms := by
        refine (hf.terms d).resolve_right ?_
        rintro ⟨change, ho, -⟩
        exact hconfigure ⟨change, ho⟩
      refine Since.named_acceptedBy ?_
      rw [hnone]
      exact (Since.refl h).made (o.run_made_of_not_naming hplain) hE

/-- A run adds the names that it gives, unless there are some already. -/
theorem Named.run (h : d.Named given) (os : List Operation) :
    (d.after os).Named (given ++ d.accepted os) := by
  induction os generalizing d given with
  | nil => exact (List.append_nil given).symm ▸ h
  | cons o os ih =>
      rw [accepted, ← List.append_assoc]
      exact ih (h.step o)

/-- **The names of a draft are the first that the run has given** while symbols were asked for. -/
theorem named_after (settings : ModuleSettings) (os : List Operation) :
    ((empty settings).after os).Named ((empty settings).accepted os) :=
  (Named.empty settings).run os

end Draft

end FrameShader
