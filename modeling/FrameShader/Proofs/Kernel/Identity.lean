/-
Identity: kernels are compared by their words, and their words say all that they were asked for.

Every kernel is generated.  Its opening tells format, precision and group size, and with debug symbols
it has more words than without.  So two kernels with the same words were asked for the same, although
neither formats nor slots are compared.  Between kernels that differ in the group size only three words
differ.

Main results:

* `FrameShader.Kernel.loadingModule_resize` — **another group size changes nothing else**;
* `FrameShader.Kernel.opens_of_loadingModule` — how every kernel opens;
* `FrameShader.Kernel.eq_of_words` — **the words of a kernel say what it was asked for**;
* `FrameShader.Kernel.generate_faithful` — all of this about kernels as they are generated.
-/

import FrameShader.Proofs.Draft.Resizing
import FrameShader.Proofs.Kernel.Symbols

set_option relaxedAutoImplicit false
set_option autoImplicit false

namespace FrameShader

namespace ShaderModule

variable (m : ShaderModule)

theorem words_eq_opening :
    m.words = m.header.words ++ (encodeAll m.opening ++ encodeAll m.closing) := by
  rw [words, m.instructions_eq_opening, encodeAll_append]

/-- Without debug symbols a module has fewer words, if it had a source statement. -/
theorem words_ne_mute (h : m.source ≠ []) : m.words ≠ m.mute.words := by
  intro hwords
  obtain ⟨i, is, hsource⟩ := List.exists_cons_of_ne_nil h
  have hlength := congrArg List.length hwords
  simp [words, instructions, globalInstructions, mute, hsource, Header.words] at hlength
  omega

/-- Another group size opens a module in the same way. -/
theorem Opens.resize {m : ShaderModule} {format : SensorFormat} {p : Precision} {s : LocalSize}
    {set entry globalId : Id} (h : m.Opens format p s set entry globalId) (s' : LocalSize) :
    (m.resize s').Opens format p s' set entry globalId := by
  have hmodes : (m.resize s').executionModes = [Kernel.sizeRow entry s'] := by
    simp [ShaderModule.resize, h.executionModes, Kernel.sizeRow, Instruction.resize,
      Instruction.plain, LocalSize.toList]
  exact { h with executionModes := hmodes }

end ShaderModule

namespace Kernel

open Build

variable {format : SensorFormat} {p : Precision} {symbols : Bool} {s : LocalSize}
  {m : ShaderModule} {d : Draft}

/-- **Another group size changes nothing else** in the module. -/
theorem loadingModule_resize
    (h : (loadingModule format ⟨p, symbols, s⟩).runOn (Kernel.draft ⟨p, symbols, s⟩) = (.ok m, d))
    (s' : LocalSize) :
    (loadingModule format ⟨p, symbols, s'⟩).runOn (Kernel.draft ⟨p, symbols, s'⟩) =
      (.ok (m.resize s'), d.resize s') := by
  obtain ⟨hanswer, hleft⟩ := loadingModule_agree format p symbols symbols
    (fun hcall => hcall.agree_resize s') (fun id => localSize_resize id s s') (finish_resize s')
    (Kernel.draft ⟨p, symbols, s⟩) (Kernel.draft ⟨p, symbols, s'⟩) rfl
  rw [h] at hanswer hleft
  refine Prod.ext ?_ hleft
  generalize ((loadingModule format ⟨p, symbols, s'⟩).runOn (Kernel.draft ⟨p, symbols, s'⟩)).1 =
    answer at hanswer ⊢
  cases hanswer with
  | ok hm => rw [hm]

/-- **How every kernel opens.** -/
theorem opens_of_loadingModule
    (h : (loadingModule format ⟨p, symbols, s⟩).runOn (Kernel.draft ⟨p, symbols, s⟩) = (.ok m, d)) :
    ∃ set entry globalId, m.Opens format p s set entry globalId := by
  obtain ⟨m₀, d₀, set, entry, globalId, hplain, hopens⟩ := exists_opening format p
  have hsilent := loadingModule_resize hplain s
  refine ⟨set, entry, globalId, ?_⟩
  cases symbols with
  | false =>
      rw [hsilent] at h
      cases h
      exact hopens.resize s
  | true =>
      -- without its symbols it is the kernel without symbols, and opens in the same way
      have hmute : m₀.resize s = m.mute :=
        Except.ok.inj (congrArg Prod.fst (hsilent.symm.trans (loadingModule_mute h)))
      have hopens' := hopens.resize s
      rw [hmute] at hopens'
      exact { hopens' with }

/-- With debug symbols the source is stated first, and what follows takes nothing back. -/
theorem loadingModule_states_source (format : SensorFormat) (options : KernelOptions) {a : Account}
    (ha : a.Consistent) (hsymbols : a.draft.settings.debugSymbols = true) :
    Does False (loadingModule format options) a fun _ b => b.draft.sections.source ≠ [] := by
  have hcapability : Does False (capability .shader) a
      fun _ b => b.draft.settings.debugSymbols = true := by
    refine .of_change (.note (.capability .shader)) ?_
    show (a.draft.addCapability .shader).settings.debugSymbols = true
    unfold Draft.addCapability
    split <;> exact hsymbols
  unfold loadingModule
  refine .bind ha hcapability fun _ b hb hsymbols' => ?_
  have hsource : Does False (source .unknown 0) b fun _ c => c.draft.sections.source ≠ [] := by
    refine .of_change (.note (.source .unknown 0)) ?_
    show (b.draft.addSource .unknown 0).sections.source ≠ []
    unfold Draft.addSource
    split
    · next hskip => simpa [hsymbols'] using hskip
    · exact List.cons_ne_nil _ _
  refine .bind hb hsource fun _ c hc hstated => ?_
  have hkept {call : Build ShaderModule} [Regular call] : Does False call c
      fun _ e => e.draft.sections.source ≠ [] := by
    refine (Regular.does c hc).mono fun _ e hchanges _ hnone => hstated ?_
    have hprefix := (hchanges.outgrows hc).parts .source
    exact List.prefix_nil.1 (hnone ▸ hprefix)
  refine @hkept _ (@Regular.bind _ _ _ _ inferInstance fun _ => ?_)
  dsimp only
  split <;> infer_instance

theorem source_of_loadingModule {options : KernelOptions} (hsymbols : options.debugSymbols = true)
    (h : (loadingModule format options).runOn (Kernel.draft options) = (.ok m, d)) :
    m.source ≠ [] := by
  obtain ⟨b, rfl, -, hsource⟩ := (loadingModule_states_source format options
    (a := ⟨Kernel.draft options, []⟩) (.empty _) hsymbols).exists_of_ok h
  have hpart : m.source = b.draft.sections.source :=
    Draft.part_of_finished (finished_of_loadingModule h) (k := .source) (by decide)
  rw [hpart]
  exact hsource

/-- **The words of a kernel say what it was asked for.** -/
theorem eq_of_words {format' : SensorFormat} {options options' : KernelOptions} {m' : ShaderModule}
    {d' : Draft}
    (h : (loadingModule format options).runOn (Kernel.draft options) = (.ok m, d))
    (h' : (loadingModule format' options').runOn (Kernel.draft options') = (.ok m', d'))
    (hwords : m.words = m'.words) : format = format' ∧ options = options' := by
  obtain ⟨p, symbols, s⟩ := options
  obtain ⟨p', symbols', s'⟩ := options'
  obtain ⟨set, entry, globalId, hopens⟩ := opens_of_loadingModule h
  obtain ⟨set', entry', globalId', hopens'⟩ := opens_of_loadingModule h'
  -- the openings tell everything but the symbols
  have hstream : encodeAll m.opening ++ encodeAll m.closing =
      encodeAll m'.opening ++ encodeAll m'.closing := by
    rw [m.words_eq_opening, m'.words_eq_opening] at hwords
    exact (List.append_inj hwords rfl).2
  rw [hopens.opening_eq, hopens'.opening_eq] at hstream
  have hsame : format = format' ∧ p = p' ∧ s = s' := by
    rcases prefix_of_encodeAll_append openingRows_short openingRows_short hstream with h | h
    · exact opening_unique h
    · obtain ⟨hformat, hprecision, hsize⟩ := opening_unique h
      exact ⟨hformat.symm, hprecision.symm, hsize.symm⟩
  obtain ⟨rfl, rfl, rfl⟩ := hsame
  -- and the symbols are seen by the number of words
  have hloud {m m' : ShaderModule} {d d' : Draft}
      (h : (loadingModule format ⟨p, true, s⟩).runOn (Kernel.draft ⟨p, true, s⟩) = (.ok m, d))
      (h' : (loadingModule format ⟨p, false, s⟩).runOn (Kernel.draft ⟨p, false, s⟩) = (.ok m', d')) :
      m.words ≠ m'.words := by
    obtain rfl : m.mute = m' :=
      Except.ok.inj (congrArg Prod.fst ((loadingModule_mute h).symm.trans h'))
    exact m.words_ne_mute (source_of_loadingModule rfl h)
  refine ⟨rfl, ?_⟩
  cases symbols with
  | false =>
      cases symbols' with
      | false => rfl
      | true => exact absurd hwords.symm (hloud h' h)
  | true =>
      cases symbols' with
      | false => exact absurd hwords (hloud h h')
      | true => rfl

/-- **Kernels are generated, and their words are as good as what they were asked for.**

* For every format, precision, choice of debug symbols and group size there is a kernel.
* Kernels that differ in the group size differ in three words, which are the sizes in order and stand
  at the end of the instruction that states them.
* Two kernels are equal just if they were asked for the same, so kernels that are equal have the same
  entry point, format, precision and slots, although only words are compared. -/
theorem generate_faithful :
    (∀ format p symbols, ∃ entry before after, ∀ s : LocalSize,
      (generate format ⟨p, symbols, s⟩).1 = .ok
        { entryPoint := format.entryPoint
          format := format
          precision := p
          words := before ++
            [Instruction.leadingWord 6 Opcode.executionMode.code, entry,
              ExecutionMode.localSize.code] ++ [s.x, s.y, s.z] ++ after
          slots := Slot.layout p }) ∧
    ∀ format options format' options', ∃ k k', (generate format options).1 = .ok k ∧
      (generate format' options').1 = .ok k' ∧
      ((k == k') = true ↔ format = format' ∧ options = options') ∧
      ((k == k') = true → k.entryPoint = k'.entryPoint ∧ k.format = k'.format ∧
        k.precision = k'.precision ∧ k.slots = k'.slots) := by
  constructor
  · intro format p symbols
    obtain ⟨m, d, hrun⟩ := exists_loadingModule format ⟨p, symbols, .one⟩
    obtain ⟨set, entry, globalId, hopens⟩ := opens_of_loadingModule hrun
    refine ⟨entry, m.header.words ++
      encodeAll (preambleRows format p set ++ [entryRow format entry globalId]),
      encodeAll m.closing, fun s => ?_⟩
    have hsize : (sizeRow entry s).encode =
        [Instruction.leadingWord 6 Opcode.executionMode.code, entry, ExecutionMode.localSize.code] ++
          [s.x, s.y, s.z] := by
      rw [Instruction.encode, sizeRow_tail]
      rfl
    have hwords : (m.resize s).words = m.header.words ++ (encodeAll (preambleRows format p set ++
        [entryRow format entry globalId, sizeRow entry s]) ++ encodeAll m.closing) := by
      rw [ShaderModule.words_eq_opening, (hopens.resize s).opening_eq]
      rfl
    rw [generate_of_loadingModule (loadingModule_resize hrun s), hwords]
    simp [hsize]
  · intro format options format' options'
    obtain ⟨m, d, hrun⟩ := exists_loadingModule format options
    obtain ⟨m', d', hrun'⟩ := exists_loadingModule format' options'
    have hequal : ((⟨format.entryPoint, format, options.precision, m.words,
        Slot.layout options.precision⟩ : Kernel) == ⟨format'.entryPoint, format',
        options'.precision, m'.words, Slot.layout options'.precision⟩) = true ↔
          format = format' ∧ options = options' := by
      refine ⟨fun h => eq_of_words hrun hrun' (beq_iff_eq.1 h), ?_⟩
      rintro ⟨rfl, rfl⟩
      rw [hrun] at hrun'
      cases hrun'
      exact beq_self_eq_true m.words
    refine ⟨_, _, generate_of_loadingModule hrun, generate_of_loadingModule hrun', hequal,
      fun h => ?_⟩
    obtain ⟨rfl, rfl⟩ := hequal.1 h
    exact ⟨rfl, rfl, rfl, rfl⟩

/-- Kernels of one mosaic in two group sizes are told apart, but not by their slots. -/
theorem generate_faithful_of_sizes : ∃ k k',
    (generate .grbg { localSize := ⟨8, 8, 1⟩ }).1 = .ok k ∧
      (generate .grbg { localSize := ⟨64, 1, 1⟩ }).1 = .ok k' ∧
      (k == k') = false ∧ k.words.length = k'.words.length ∧ k.slots = k'.slots := by
  obtain ⟨hsizes, hequal⟩ := generate_faithful
  obtain ⟨entry, before, after, hwords⟩ := hsizes .grbg .single false
  obtain ⟨k, k', hk, hk', hiff, -⟩ :=
    hequal .grbg { localSize := ⟨8, 8, 1⟩ } .grbg { localSize := ⟨64, 1, 1⟩ }
  have hne : (k == k') = false := by
    rw [← Bool.not_eq_true, hiff]
    rintro ⟨-, h⟩
    cases h
  obtain rfl := Except.ok.inj (hk.symm.trans (hwords ⟨8, 8, 1⟩))
  obtain rfl := Except.ok.inj (hk'.symm.trans (hwords ⟨64, 1, 1⟩))
  refine ⟨_, _, hk, hk', hne, ?_, rfl⟩
  simp only [List.length_append, List.length_cons, List.length_nil]

end Kernel

end FrameShader
