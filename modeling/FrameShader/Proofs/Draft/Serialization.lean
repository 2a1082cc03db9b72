/-
Serialization: a finished module is read back from its words and from its bytes.

The reader only follows word counts.  It finds every instruction again if none is too long for its
count, so two modules with the same words have the same header and the same instructions, word by
word.  Texts are the only operands whose length is not known beforehand.  Where an opcode has a text,
it stands in a fixed place, and only the interface of an entry point follows one.

Main definitions:

* `FrameShader.Opcode.textOffset?`, `FrameShader.Instruction.Spelled` — where texts stand.

Main results:

* `FrameShader.Instruction.Spelled.unpackText?` — the text of an instruction is read back;
* `FrameShader.Account.Changes.spelled` — texts stand where they have to after any run;
* `FrameShader.Draft.finished_readable` — **a finished module is read back from its words and from
  its bytes**.
-/

import FrameShader.Kernel.Basic
import FrameShader.Proofs.Draft.References
import FrameShader.Proofs.Spirv.Stream

set_option relaxedAutoImplicit false
set_option autoImplicit false

namespace FrameShader

/-! ### Texts in instructions -/

/-- How many words stand before the text of an instruction, if its opcode has one. -/
def Opcode.textOffset? : Opcode → Option Nat
  | .extension => some 1
  | .extInstImport | .debugName => some 2
  | .entryPoint | .debugMemberName => some 3
  | _ => none

theorem Opcode.textOffset?_of_isCode {o : Opcode} (h : o.isCode = true) : o.textOffset? = none := by
  cases o <;> first | rfl | cases h

namespace Instruction

/-- The text of an instruction stands where its opcode says.  The interface of an entry point follows
it, and nothing does in other instructions. -/
def Spelled (i : Instruction) : Prop :=
  ∀ offset, i.opcode.textOffset? = some offset → ∃ before text interface,
    i.operands = before ++ .text text :: interface.map .id ∧
      (1 + i.resultType.toList.length + i.result.toList.length +
        (before.flatMap Operand.encode).length = offset) ∧
      (i.opcode ≠ .entryPoint → interface = [])

/-- The words of an instruction, the first one apart, after what stands before some operands. -/
theorem drop_encode {i : Instruction} {before after : List Operand}
    (h : i.operands = before ++ after) :
    i.encode.drop (1 + i.resultType.toList.length + i.result.toList.length +
      (before.flatMap Operand.encode).length) = after.flatMap Operand.encode := by
  have hencode : i.encode = (leadingWord (i.tail.length + 1) i.opcode.code ::
      (i.resultType.toList ++ i.result.toList ++ before.flatMap Operand.encode)) ++
        after.flatMap Operand.encode := by
    rw [encode, tail, h, List.flatMap_append]
    simp only [List.cons_append, List.append_assoc]
  rw [hencode]
  refine List.drop_left' ?_
  simp only [List.length_cons, List.length_append]
  omega

/-- References to ids are one word each. -/
theorem flatMap_encode_ids (ids : List Id) : (ids.map Operand.id).flatMap Operand.encode = ids := by
  induction ids with
  | nil => rfl
  | cons id ids ih =>
      rw [List.map_cons, List.flatMap_cons, ih]
      rfl

/-- **The text of an instruction is read back**, and what follows it is left. -/
theorem Spelled.unpackText? {i : Instruction} (h : i.Spelled) {offset : Nat}
    (hoffset : i.opcode.textOffset? = some offset) : ∃ before text interface,
      i.operands = before ++ .text text :: interface.map .id ∧
        (i.opcode ≠ .entryPoint → interface = []) ∧
        ('\x00' ∉ text.toList →
          FrameShader.unpackText? (i.encode.drop offset) = some (text, interface)) := by
  obtain ⟨before, text, interface, hoperands, rfl, hinterface⟩ := h offset hoffset
  refine ⟨before, text, interface, hoperands, hinterface, fun htext => ?_⟩
  rw [drop_encode hoperands, List.flatMap_cons, flatMap_encode_ids]
  exact unpackText?_packText htext interface

/-- The first word of an instruction says how many words it has and what it does. -/
theorem encode_eq {i : Instruction} (h : i.encode.length < 2 ^ 16) : ∃ first,
    i.encode = first :: (i.resultType.toList ++ i.result.toList ++
      i.operands.flatMap Operand.encode) ∧
    wordCount first = i.encode.length ∧ first &&& 0xFFFF = i.opcode.code := by
  rw [length_encode] at h
  exact ⟨_, rfl, wordCount_leadingWord h i.opcode, leadingWord_and h i.opcode⟩

end Instruction

/-! ### Where texts stand in a draft -/

namespace Draft

variable {d : Draft} {i : Instruction}

theorem Statement.spelled (h : d.Statement i) : i.Spelled := by
  intro offset hoffset
  cases h with
  | extension text =>
      cases hoffset
      exact ⟨[], text, [], rfl, rfl, fun _ => rfl⟩
  | @entryPoint text f interface =>
      cases hoffset
      refine ⟨[.executionModel .glCompute, .id f.id], text, interface.map Value.id, ?_, rfl,
        fun hne => absurd rfl hne⟩
      rw [List.map_map]
      rfl
  | @name target text =>
      cases hoffset
      exact ⟨[.id target], text, [], rfl, rfl, fun _ => rfl⟩
  | @nameMember target member text =>
      cases hoffset
      exact ⟨[.id target, .literal member], text, [], rfl, rfl, fun _ => rfl⟩
  | capability | source | executionMode | decorate | decorateMember => cases hoffset

theorem Definition.spelled {short : Prop} (h : d.Definition short i) : i.Spelled := by
  intro offset hoffset
  rcases h.import_or_isCode with ⟨text, id, rfl⟩ | hcode
  · cases hoffset
    exact ⟨[], text, [], rfl, rfl, fun _ => rfl⟩
  · rw [Opcode.textOffset?_of_isCode hcode] at hoffset
    cases hoffset

end Draft

namespace Account

variable {short exhausted : Prop} {a b : Account}

/-- **Every change puts texts where they have to stand.** -/
theorem Change.spelled (h : Change short exhausted a b)
    (ha : ∀ i ∈ a.draft.statements ++ a.draft.definitions, i.Spelled) :
    ∀ i ∈ b.draft.statements ++ b.draft.definitions, i.Spelled := by
  intro i hi
  rcases List.mem_append.1 hi with hi | hi
  · exact (h.statements hi).elim (fun hi => ha i (List.mem_append_left _ hi)) fun h => h.spelled
  · exact (h.definitions hi).elim (fun hi => ha i (List.mem_append_right _ hi)) fun h => h.spelled

theorem Changes.spelled {settings : ModuleSettings}
    (h : Changes short exhausted ⟨Draft.empty settings, []⟩ b) :
    ∀ i ∈ b.draft.statements ++ b.draft.definitions, i.Spelled :=
  h.preserves (P := fun a => ∀ i ∈ a.draft.statements ++ a.draft.definitions, i.Spelled)
    Change.spelled fun _ hi => nomatch hi

end Account

/-! ### Finished modules -/

/-- Texts stand where they have to in a module that was finished after a run. -/
theorem Draft.spelled_of_finish (settings : ModuleSettings) (os : List Operation) {m : ShaderModule}
    (h : (Build.finish.runOn ((empty settings).after os)).1 = .ok m) :
    ∀ i ∈ m.instructions, i.Spelled := by
  intro i hi
  obtain ⟨b, hb, hchanges, -⟩ := run_account False settings os False.elim
  rcases mem_of_finished (finished_of_finish h) hi with hi | hmodel
  · rw [← hb] at hi
    exact hchanges.spelled i hi
  · intro offset hoffset
    rw [hmodel] at hoffset
    cases hoffset

/-- Modules with the same words have the same header and the same instructions, word by word. -/
theorem ShaderModule.eq_of_words {m m' : ShaderModule}
    (h : ∀ i ∈ m.instructions, i.encode.length < 2 ^ 16)
    (h' : ∀ i ∈ m'.instructions, i.encode.length < 2 ^ 16) (hwords : m.words = m'.words) :
    m.header = m'.header ∧
      m.instructions.map Instruction.encode = m'.instructions.map Instruction.encode := by
  have hread := ShaderModule.readModule?_words h
  rw [hwords, ShaderModule.readModule?_words h'] at hread
  obtain ⟨hheader, hinstructions⟩ := Prod.mk.inj (Option.some.inj hread)
  exact ⟨hheader.symm, hinstructions.symm⟩

namespace Draft

/-- **A finished module is read back from its words and from its bytes**, if no instruction is too
long for its count:

* reading gives the header and the words of each instruction in order, whose first word has the count
  and the opcode;
* the text of an instruction is read back if it holds no zero character, and the interface of an
  entry point is left, or nothing;
* a kernel with these words is read back from its bytes;
* a module with the same words or the same bytes has the same header and the same instructions, word
  by word. -/
theorem finished_readable (settings : ModuleSettings) (os : List Operation) (m : ShaderModule)
    (h : (Build.finish.runOn ((empty settings).after os)).1 = .ok m)
    (hshort : ∀ i ∈ m.instructions, i.encode.length < 2 ^ 16) :
    readModule? m.words = some (m.header, m.instructions.map Instruction.encode) ∧
    (∀ i ∈ m.instructions, ∃ first,
      i.encode = first :: (i.resultType.toList ++ i.result.toList ++
        i.operands.flatMap Operand.encode) ∧
      wordCount first = i.encode.length ∧ first &&& 0xFFFF = i.opcode.code) ∧
    (∀ i ∈ m.instructions, ∀ offset, i.opcode.textOffset? = some offset →
      ∃ before text interface, i.operands = before ++ .text text :: interface.map .id ∧
        (i.opcode ≠ .entryPoint → interface = []) ∧
        ('\x00' ∉ text.toList →
          unpackText? (i.encode.drop offset) = some (text, interface))) ∧
    (∀ k : Kernel, k.words = m.words → (wordsOfBytes? k.bytes).bind readModule? =
      some (m.header, m.instructions.map Instruction.encode)) ∧
    (∀ m' : ShaderModule, (∀ i ∈ m'.instructions, i.encode.length < 2 ^ 16) →
      m.words = m'.words ∨ bytesOfWords m.words = bytesOfWords m'.words →
      m.header = m'.header ∧
        m.instructions.map Instruction.encode = m'.instructions.map Instruction.encode) := by
  have hread := ShaderModule.readModule?_words hshort
  refine ⟨hread, fun i hi => Instruction.encode_eq (hshort i hi), fun i hi offset hoffset => ?_,
    fun k hk => ?_, fun m' hshort' hsame => ?_⟩
  · exact (spelled_of_finish settings os h i hi).unpackText? hoffset
  · rw [Kernel.bytes, wordsOfBytes?_bytesOfWords, hk, Option.bind_some, hread]
  · exact ShaderModule.eq_of_words hshort hshort' (hsame.elim id bytesOfWords_inj.1)

/-- Calls that state an extension and import a set by names of four and eight letters, and open an
entry point with an interface. -/
def textCalls : List Operation :=
  [.extension "half",
    .importSet "GLSL.std",
    .builtInInput .globalInvocationId (.vector .uint32 3),
    .beginEntryPoint "main" [⟨5, 4⟩],
    .returnFunction none,
    .endFunction]

/-- A module with texts whose length is a multiple of four is read back. -/
theorem finished_readable_of_texts :
    ∃ m, (Build.finish.runOn ((empty {}).after textCalls)).1 = .ok m ∧
      (∀ i ∈ m.instructions, i.encode.length < 2 ^ 16) ∧
      readModule? m.words = some (m.header, m.instructions.map Instruction.encode) := by
  have hok : (match (Build.finish.runOn ((empty {}).after textCalls)).1 with
      | .ok m => decide (m.entryPoints.length = 1 ∧ ∀ i ∈ m.instructions, i.encode.length < 2 ^ 16)
      | .error _ => false) = true := by
    decide +kernel
  split at hok
  · next m hm =>
      have hshort := (of_decide_eq_true hok).2
      exact ⟨m, hm, hshort, (finished_readable {} textCalls m hm hshort).1⟩
  · cases hok

end Draft

end FrameShader
