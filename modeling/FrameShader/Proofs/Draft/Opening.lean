/-
Opening and closing: the calls that begin, define, return from and end functions.

A new function takes the id it was given, the ids of its parameters and the id of its label at once,
when it is opened.  A declared function is no longer reserved a moment before it is opened; nothing
in between notices, and only running out of ids can come in between.

Main definitions:

* `FrameShader.Draft.Opens` — a draft that opens a function.

Main results:

* `FrameShader.Build.beginFunction_does`, `FrameShader.Build.beginEntryPoint_does` — new functions;
* `FrameShader.Build.defineFunction_does` — **a reserved id is not lost unless the ids run out**;
* `FrameShader.Build.returnFunction_does`, `FrameShader.Build.endFunction_does` — closing.
-/

import FrameShader.Proofs.Draft.Interning

set_option relaxedAutoImplicit false
set_option autoImplicit false

namespace FrameShader

/-- The draft `d'` is `d` after the function `id` with these parameters was opened; it may know more
types. -/
structure Draft.Opens (d : Draft) (id : Id) (values : List Value) (d' : Draft) : Prop where
  closed : d.current = none
  current : ∃ s control label, d'.current = some (.start id s control values label)
  dataTypes : ∀ {type : Id} {t : DataType},
    d.tables.dataTypes.lookup type = some t → d'.tables.dataTypes.lookup type = some t
  globals : d'.tables.globals = d.tables.globals
  functions : ∃ s, d'.tables.functions = (id, s) :: d.tables.functions
  entryPoints : d'.tables.entryPoints = d.tables.entryPoints
  /-- No other function has the id. -/
  fresh : d.tables.functions.lookup id = none

namespace Draft

variable {d d' d'' : Draft} {id : Id} {values : List Value}

/-- Learning of types before a function is opened. -/
theorem Opens.of_grows (h : d.Grows d') (h' : d'.Opens id values d'') : d.Opens id values d'' where
  closed := h.current ▸ h'.closed
  current := h'.current
  dataTypes ht := h'.dataTypes (h.dataTypes ht)
  globals := h'.globals.trans h.globals
  functions := by
    obtain ⟨s, hs⟩ := h'.functions
    exact ⟨s, by rw [hs, h.functions]⟩
  entryPoints := h'.entryPoints.trans h.entryPoints
  fresh := h.functions ▸ h'.fresh

/-- Learning of types after a function was opened. -/
theorem Opens.grows (h : d.Opens id values d') (h' : d'.Grows d'') : d.Opens id values d'' where
  closed := h.closed
  current := by
    rw [h'.current]
    exact h.current
  dataTypes ht := h'.dataTypes (h.dataTypes ht)
  globals := h'.globals.trans h.globals
  functions := by
    rw [h'.functions]
    exact h.functions
  entryPoints := h'.entryPoints.trans h.entryPoints
  fresh := h.fresh

/-- What is exposed before a function is opened is exposed afterwards. -/
theorem Opens.exposes (h : d.Opens id values d') {v : Value} {t : DataType}
    (hv : d.Sees v (.pointer .input t) ∨ d.Sees v (.pointer .output t)) : d'.Exposes v := by
  have htype : d.globalType? v.id = some v.type := by
    have hseen : d.typeOf? v.id = some v.type := hv.elim And.left And.left
    rwa [typeOf?, localType?, h.closed] at hseen
  refine ⟨?_, t, hv.imp (fun hv => h.dataTypes hv.2) (fun hv => h.dataTypes hv.2)⟩
  unfold globalType? at htype ⊢
  rw [h.globals]
  cases hglobal : d.tables.globals.lookup v.id with
  | some type =>
      rw [hglobal] at htype
      exact htype
  | none =>
      rw [hglobal] at htype
      obtain ⟨s, hs⟩ := h.functions
      have hne : v.id ≠ id := by
        intro heq
        rw [heq, h.fresh] at htype
        cases htype
      show (d'.tables.functions.lookup v.id).map Signature.type = _
      rw [hs, lookup_cons_of_ne hne]
      exact htype

end Draft

namespace Build

variable {short : Prop} {a : Account}

/-! ### Ids for a function -/

theorem freshParameters_does {types : List Id} {a : Account} (ha : a.Consistent) :
    Does short (freshParameters types) a fun values b =>
      values.map Value.type = types ∧ b.spare = (values.map Value.id).reverse ++ a.spare ∧
        a.draft.Grows b.draft := by
  induction types generalizing a with
  | nil => exact .pure ⟨rfl, rfl, .refl _⟩
  | cons type types ih =>
      refine .freshId ha fun ha' => .bind ha' (ih ha') ?_
      rintro values b _ ⟨htypes, hspare, hgrows⟩
      refine .pure ⟨by rw [List.map_cons, htypes], ?_, (Draft.Grows.take a).trans hgrows⟩
      rw [hspare, List.map_cons, List.reverse_cons, List.append_assoc]
      rfl

theorem freshBody_does {types : List Id} (ha : a.Consistent) :
    Does short (freshBody types) a fun x b =>
      x.1.map Value.type = types ∧ b.spare = x.2 :: ((x.1.map Value.id).reverse ++ a.spare) ∧
        a.draft.Grows b.draft := by
  refine .bind ha (freshParameters_does ha) ?_
  rintro values b hb ⟨htypes, hspare, hgrows⟩
  refine .freshId hb fun _ => .pure ⟨htypes, ?_, hgrows.trans (Draft.Grows.take b)⟩
  show b.draft.nextId :: b.spare = _
  rw [hspare]

/-- The call fails only if there are no more ids. -/
def Exhausts {α : Type} (call : Build α) : Prop :=
  ∀ (d d' : Draft) (e : Failure), call.runOn d = (.error e, d') → e = .overflow .increment

theorem Exhausts.pure {α : Type} (v : α) : Exhausts (Pure.pure v : Build α) :=
  fun _ _ _ h => nomatch h

theorem Exhausts.freshId : Exhausts Build.freshId := by
  intro d d' e h
  rw [runOn_freshId] at h
  split at h <;> cases h
  rfl

theorem Exhausts.bind {α β : Type} {call : Build α} {next : α → Build β} (hcall : Exhausts call)
    (hnext : ∀ v, Exhausts (next v)) : Exhausts (call >>= next) := by
  intro d d' e h
  rw [runOn_bind] at h
  rcases hrun : call.runOn d with ⟨e' | v, d₁⟩
  · rw [hrun] at h
    cases h
    exact hcall _ _ _ hrun
  · rw [hrun] at h
    exact hnext v _ _ _ h

theorem freshBody_exhausts (types : List Id) : Exhausts (freshBody types) := by
  have hparameters : Exhausts (freshParameters types) := by
    induction types with
    | nil => exact .pure _
    | cons type types ih => exact .bind .freshId fun _ => .bind ih fun _ => .pure _
  exact .bind hparameters fun _ => .bind .freshId fun _ => .pure _

/-- Handing out ids does not notice whether an id is reserved. -/
theorem freshBody_commutes (id : Id) (types : List Id) :
    Commutes (·.removeDeclared id) (freshBody types) := by
  have hfresh : Commutes (·.removeDeclared id) freshId := .freshId (fun _ => rfl) fun _ _ => rfl
  have hparameters : Commutes (·.removeDeclared id) (freshParameters types) := by
    induction types with
    | nil => exact .pure _
    | cons type types ih => exact .bind hfresh fun _ => .bind ih fun _ => .pure _
  exact .bind hparameters fun _ => .bind hfresh fun _ => .pure _

/-! ### Opening functions -/

/-- What is left to do once a function is open: it is named and reported. -/
def announce (handle : FunctionHandle) (text : String) : Build FunctionHandle := do
  name handle.id text
  record .trace ("begin function " ++ text ++ " (" ++ idText handle.id ++ ")")
  return handle

theorem announce_does (ha : a.Consistent) (handle : FunctionHandle) (text : String) :
    Does short (announce handle text) a fun f b =>
      f = handle ∧ b.spare = a.spare ∧ a.draft.Grows b.draft := by
  refine .bind ha (name_does _ _) fun _ b hb hab => .record hb fun _ => .pure ?_
  exact ⟨rfl, hab.spare, hab.grows.trans (.of_core rfl rfl)⟩

/-- A draft that opens a function. -/
theorem opens_openBody {d : Draft} {id label : Id} {s : Signature}
    {control : FunctionControl} {values : List Value} (hc : d.current = none)
    (hfresh : d.tables.functions.lookup id = none) :
    d.Opens id values (d.openBody (.start id s control values label) s) where
  closed := hc
  current := ⟨s, control, label, rfl⟩
  dataTypes ht := ht
  globals := rfl
  functions := ⟨s, rfl⟩
  entryPoints := rfl
  fresh := hfresh

/-- A function whose id was just handed out. -/
theorem enterFunction_does {id : Id} {ids : List Id} {s : Signature} {d : Draft}
    (ha : Account.Consistent ⟨d, id :: ids⟩) (hc : d.current = none) (hs : d.HasSignature s)
    (text : String) (control : FunctionControl) :
    Does short (enterFunction id text s control) ⟨d, id :: ids⟩ fun f b =>
      f.id = id ∧ f.parameters.map Value.type = s.parameters ∧ b.spare = ids ∧
        d.Opens id f.parameters b.draft := by
  have hfresh := ha.lookup_functions
  refine .bind ha (freshBody_does ha) ?_
  rintro ⟨values, label⟩ ⟨d', spare⟩ hb ⟨htypes, hspare, hgrows⟩
  obtain rfl : spare = label :: ((values.map Value.id).reverse ++ id :: ids) := hspare
  have hc' : d'.current = none := hgrows.current.trans hc
  have hfresh' : d'.tables.functions.lookup id = none := hgrows.functions ▸ hfresh
  refine .change hb (.begin hc' (hgrows.hasSignature hs) htypes) fun hb' => ?_
  refine (announce_does hb' ⟨id, s.type, s.result, values⟩ text).mono ?_
  rintro _ b - ⟨rfl, hspare, hgrows'⟩
  exact ⟨rfl, htypes, hspare, .of_grows hgrows ((opens_openBody hc' hfresh').grows hgrows')⟩

theorem beginFunction_does (ha : a.Consistent) (text : String) (result : DataType)
    (parameters : List DataType) (control : FunctionControl) :
    Does short (beginFunction text result parameters control) a fun f b =>
      b.spare = a.spare ∧ f.parameters.length = parameters.length ∧
        a.draft.Opens f.id f.parameters b.draft := by
  refine .inspect fun _ hclosed => .freshId ha fun ha' => ?_
  refine .bind ha' (signature_does ha' result parameters) ?_
  rintro s ⟨d, spare⟩ hb ⟨hsigns, hspare, hgrows⟩
  obtain rfl : spare = a.draft.nextId :: a.spare := hspare
  have hc : d.current = none := hgrows.current.trans (Draft.noFunctionOpen_ok hclosed)
  refine (enterFunction_does hb hc ⟨result, parameters, hsigns⟩ text control).mono ?_
  rintro f b - ⟨hid, htypes, hspare, hopens⟩
  have hlength := congrArg List.length htypes
  rw [List.length_map, ← hsigns.parameters.length_eq] at hlength
  rw [hid]
  exact ⟨hspare, hlength, .of_grows ((Draft.Grows.take a).trans hgrows) hopens⟩

theorem declareFunction_does (ha : a.Consistent) (result : DataType) (parameters : List DataType) :
    Does short (declareFunction result parameters) a fun _ b => b.spare = a.spare := by
  refine .bind ha (signature_does ha result parameters) ?_
  rintro s b hb ⟨hsigns, hspare, -⟩
  refine .freshId hb fun hb' => .change hb' (.declare ?_) fun _ => .pure hspare
  exact ⟨result, parameters, (Draft.Grows.take b).signs hsigns⟩

/-- **A reserved id becomes that of a function.**  It is lost only if the ids run out. -/
theorem openDeclared_does {id : Id} {s : Signature} {result : DataType}
    {parameters : List DataType} {d : Draft} {ids : List Id}
    (ha : Account.Consistent ⟨d, ids⟩) (hc : d.current = none)
    (hd : d.tables.declared.lookup id = some s) (hs : d.Signs result parameters s)
    (text : String) (control : FunctionControl) :
    Does short (modify (·.removeDeclared id) >>= fun _ =>
      openFunction id text result parameters control) ⟨d, ids⟩ fun _ b => b.spare = ids := by
  have hremoved : (d.removeDeclared id).Signs result parameters s := ⟨hs.type, hs.result, hs.parameters⟩
  have hrun : (modify (·.removeDeclared id) >>= fun _ =>
      openFunction id text result parameters control).runOn d =
        (enterFunction id text s control).runOn (d.removeDeclared id) := by
    rw [runOn_bind_of_ok (runOn_modify _ d), openFunction,
      runOn_bind_of_ok (signature_of_signs hremoved)]
  have hcommutes := freshBody_commutes id s.parameters d
  rcases hbody : (freshBody s.parameters).runOn d with ⟨e | ⟨values, label⟩, d₁⟩
  · -- The ids ran out after the id was no longer reserved.
    rw [hbody] at hcommutes
    have hlost : Does short (freshBody s.parameters) ⟨d.removeDeclared id, id :: ids⟩ _ :=
      freshBody_does (ha.removeDeclared hd)
    unfold Does at hlost ⊢
    rw [hrun, enterFunction, runOn_bind, hcommutes]
    rw [hcommutes] at hlost
    obtain ⟨b, hb, hchanges⟩ := hlost
    obtain rfl := freshBody_exhausts _ _ _ _ hbody
    exact ⟨b, hb, (Account.Changes.single (.forget rfl hd)).trans hchanges⟩
  · rw [hbody] at hcommutes
    have hkept : Does short (freshBody s.parameters) ⟨d, ids⟩ _ := freshBody_does ha
    unfold Does at hkept
    rw [hbody] at hkept
    obtain ⟨⟨d₂, spare⟩, rfl, hchanges, htypes, rfl, hgrows⟩ := hkept
    have hb := ha.after hchanges
    have hdefine : Account.Change short False
        ⟨d₂, label :: ((values.map Value.id).reverse ++ ids)⟩
        ⟨(d₂.removeDeclared id).openBody (.start id s control values label) s, ids⟩ :=
      .define (hgrows.current.trans hc) (hgrows.declared ▸ hd)
        (hgrows.hasSignature ⟨result, parameters, hs⟩) htypes
    refine .of_changes (hchanges.trans (.single hdefine)) ?_
      ((announce_does (hb.step hdefine) ⟨id, s.type, s.result, values⟩ text).mono
        fun _ _ _ h => h.2.1)
    rw [hrun, enterFunction, runOn_bind_of_ok hcommutes]
    rfl

theorem defineFunction_does (ha : a.Consistent) (id : Id) (text : String) (result : DataType)
    (parameters : List DataType) (control : FunctionControl) :
    Does short (defineFunction id text result parameters control) a
      fun _ b => b.spare = a.spare := by
  refine .inspect fun _ hclosed => .inspect fun declared hdeclared => ?_
  have hd : a.draft.tables.declared.lookup id = some declared := by
    cases hlookup : a.draft.tables.declared.lookup id with
    | none =>
        rw [hlookup] at hdeclared
        cases hdeclared
    | some s =>
        rw [hlookup] at hdeclared
        exact congrArg some (Except.ok.inj hdeclared)
  refine .bind ha (signature_does ha result parameters) ?_
  rintro s b hb ⟨hsigns, hspare, hgrows⟩
  by_cases hsame : declared ≠ s
  · simp only [if_pos hsame]
    exact .inspect fun _ _ => .inspect fun _ _ => ⟨b, rfl, .refl b⟩
  · simp only [if_neg hsame]
    obtain rfl := not_not.1 hsame
    refine (openDeclared_does hb (hgrows.current.trans (Draft.noFunctionOpen_ok hclosed))
      (hgrows.declared ▸ hd) hsigns text control).mono ?_
    exact fun _ c _ hbc => hbc.trans hspare

/-- The function of a new entry point. -/
theorem beginEntryPoint_does (ha : a.Consistent) (text : String) (interface : List Value) :
    Does short (beginEntryPoint text interface) a fun _ b => b.spare = a.spare := by
  refine .inspect fun _ hcheck => ?_
  have hnew : a.draft.tables.entryPoints.lookup text = none := by
    by_contra hsome
    rw [if_pos (Option.isSome_iff_ne_none.2 hsome)] at hcheck
    cases hcheck
  rw [hnew] at hcheck
  have hinterface := Draft.interface_ok (d := a.draft) hcheck
  refine .bind ha (beginFunction_does ha _ _ _ _) ?_
  rintro f b hb ⟨hspare, -, hopens⟩
  obtain ⟨s, control, label, hcurrent⟩ := hopens.current
  have hchange : b.Change short False ⟨b.draft.addEntryPoint text f.id interface, b.spare⟩ := by
    refine .note (.entryPoint (hopens.entryPoints ▸ hnew) hcurrent fun v hv => ?_)
    obtain ⟨t, ht⟩ := hinterface v hv
    exact hopens.exposes ht
  exact .change hb hchange fun _ => .pure hspare

/-! ### Closing functions -/

theorem returnFunction_does (ha : a.Consistent) (value : Option Value) :
    Does short (returnFunction value) a fun _ b => b.spare = a.spare := by
  refine .inspect fun f hf => .bind ha (typeId_does .void ha) fun void b hb hvoid => ?_
  obtain ⟨hcurrent, hopen⟩ := Draft.writable_eq_ok.1 hf
  refine .inspect fun operands hoperands => ?_
  exact .of_change (.leave (hvoid.2.grows.current.trans hcurrent) hopen hvoid.1 hoperands)
    hvoid.2.spare

theorem endFunction_does (ha : a.Consistent) :
    Does short endFunction a fun _ b => b.spare = a.spare := by
  unfold endFunction
  refine .get ?_
  cases hcurrent : a.draft.current with
  | none => exact .reject
  | some f =>
      by_cases hterminated : f.terminated = true
      · simp only [hterminated]
        refine .record ha fun _ => ?_
        exact .of_change (.close hcurrent hterminated) rfl
      · simp only [hterminated]
        exact .reject

end Build

end FrameShader
