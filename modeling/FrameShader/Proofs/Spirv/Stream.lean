/-
Streams: what was written into words is read back.

A stream is read without knowing what its instructions mean.  The first word of each instruction says
how many words it has, so the reader stays in step if the count fits into half a word.  A text ends at
the first zero byte, so it is read back if it holds none, and what follows it is left over.

Main definitions:

* `FrameShader.wordCount`, `FrameShader.splitStream?` — the words of each instruction of a stream;
* `FrameShader.readModule?` — the header of a stream and the words of its instructions.

Main results:

* `FrameShader.wordsOfBytes?_bytesOfWords` — words are read back from their bytes;
* `FrameShader.unpackText?_packText` — **a text is read back from its words**, and what follows is
  left;
* `FrameShader.splitStream?_encodeAll` — **instructions are read back from a stream**;
* `FrameShader.prefix_of_encodeAll_append` — a stream begins in one way only;
* `FrameShader.ShaderModule.readModule?_words` — a module is read back from its words.
-/

import FrameShader.Spirv.ShaderModule
import Mathlib.Data.List.Basic
import Mathlib.Data.Nat.Bitwise
import Mathlib.Tactic.Tauto

set_option relaxedAutoImplicit false
set_option autoImplicit false

namespace FrameShader

/-! ### Words and their bytes -/

/-- Bits above all others are added. -/
theorem lor_shiftLeft {low : Nat} (k : Nat) (h : low < 2 ^ k) (high : Nat) :
    low ||| high <<< k = low + 2 ^ k * high := by
  rw [Nat.lor_comm, ← Nat.shiftLeft_add_eq_or_of_lt h, Nat.shiftLeft_eq, Nat.mul_comm, Nat.add_comm]

namespace Word

/-- The bytes of a word are its digits. -/
theorem map_toNat_toBytes (w : Word) : (toBytes w).map UInt8.toNat =
    [w.toNat % 2 ^ 8, w.toNat / 2 ^ 8 % 2 ^ 8, w.toNat / 2 ^ 16 % 2 ^ 8,
      w.toNat / 2 ^ 24 % 2 ^ 8] := by
  have h8 : (w >>> 8).toNat = w.toNat / 2 ^ 8 := Nat.shiftRight_eq_div_pow ..
  have h16 : (w >>> 16).toNat = w.toNat / 2 ^ 16 := Nat.shiftRight_eq_div_pow ..
  have h24 : (w >>> 24).toNat = w.toNat / 2 ^ 24 := Nat.shiftRight_eq_div_pow ..
  simp only [toBytes, List.map_cons, List.map_nil, UInt32.toNat_toUInt8, h8, h16, h24]

theorem toNat_ofBytes (a b c d : UInt8) : (ofBytes a b c d).toNat =
    a.toNat + 2 ^ 8 * b.toNat + 2 ^ 16 * c.toNat + 2 ^ 24 * d.toNat := by
  have ha := a.toNat_lt
  have hb := b.toNat_lt
  have hc := c.toNat_lt
  have hshift (x : UInt8) (k : Nat) (hk : k ≤ 24) : x.toNat <<< k % 2 ^ 32 = x.toNat <<< k := by
    refine Nat.mod_eq_of_lt ?_
    rw [Nat.shiftLeft_eq]
    calc
      x.toNat * 2 ^ k ≤ x.toNat * 2 ^ 24 :=
        Nat.mul_le_mul_left _ (Nat.pow_le_pow_right (by decide) hk)
      _ < 2 ^ 32 := by
        have hx := x.toNat_lt
        omega
  have h8 : (8 : UInt32).toNat % 32 = 8 := rfl
  have h16 : (16 : UInt32).toNat % 32 = 16 := rfl
  have h24 : (24 : UInt32).toNat % 32 = 24 := rfl
  simp only [ofBytes, UInt32.toNat_or, UInt32.toNat_shiftLeft, UInt8.toNat_toUInt32, h8, h16, h24]
  rw [hshift b 8 (by decide), hshift c 16 (by decide), hshift d 24 (by decide),
    lor_shiftLeft 8 ha, lor_shiftLeft 16 (by omega), lor_shiftLeft 24 (by omega)]

theorem ofBytes_toBytes (w : Word) :
    ofBytes w.toUInt8 (w >>> 8).toUInt8 (w >>> 16).toUInt8 (w >>> 24).toUInt8 = w := by
  have hw := w.toNat_lt
  have hbytes := map_toNat_toBytes w
  simp only [toBytes, List.map_cons, List.map_nil, List.cons.injEq, and_true] at hbytes
  obtain ⟨h0, h8, h16, h24⟩ := hbytes
  apply UInt32.toNat_inj.1
  rw [toNat_ofBytes, h0, h8, h16, h24]
  omega

theorem toBytes_ofBytes (a b c d : UInt8) : toBytes (ofBytes a b c d) = [a, b, c, d] := by
  have ha := a.toNat_lt
  have hb := b.toNat_lt
  have hc := c.toNat_lt
  have hd := d.toNat_lt
  apply List.map_injective_iff.2 (fun _ _ => UInt8.toNat_inj.1)
  rw [map_toNat_toBytes, toNat_ofBytes]
  simp only [List.map_cons, List.map_nil, List.cons.injEq, and_true]
  omega

end Word

/-- **Words are read back from their bytes.** -/
theorem wordsOfBytes?_bytesOfWords (ws : List Word) : wordsOfBytes? (bytesOfWords ws) = some ws := by
  induction ws with
  | nil => rfl
  | cons w ws ih =>
      show (wordsOfBytes? (bytesOfWords ws)).map (Word.ofBytes _ _ _ _ :: ·) = _
      rw [ih, Word.ofBytes_toBytes]
      rfl

/-- Different words have different bytes. -/
theorem bytesOfWords_inj {ws vs : List Word} : bytesOfWords ws = bytesOfWords vs ↔ ws = vs := by
  refine ⟨fun h => ?_, congrArg bytesOfWords⟩
  have hread := wordsOfBytes?_bytesOfWords ws
  rw [h, wordsOfBytes?_bytesOfWords] at hread
  exact (Option.some.inj hread).symm

/-! ### Texts -/

/-- Bytes without a zero are read back, and what follows them is left. -/
theorem unpackBytes?_packBytes {bytes : List UInt8} (h : 0 ∉ bytes) (rest : List Word) :
    unpackBytes? (packBytes bytes ++ rest) = some (bytes, rest) := by
  induction bytes using packBytes.induct with
  | case1 a b c d bytes ih =>
      simp only [List.mem_cons, not_or] at h
      have hword : 0 ∉ [a, b, c, d] := by
        simp only [List.mem_cons, List.not_mem_nil, or_false, not_or]
        tauto
      rw [packBytes, List.cons_append, unpackBytes?, Word.toBytes_ofBytes, if_neg hword,
        ih h.2.2.2.2]
      rfl
  | case2 a b c =>
      simp only [List.mem_cons, List.not_mem_nil, or_false, not_or, eq_comm] at h
      simp [packBytes, unpackBytes?, Word.toBytes_ofBytes, h]
  | case3 a b =>
      simp only [List.mem_cons, List.not_mem_nil, or_false, not_or, eq_comm] at h
      simp [packBytes, unpackBytes?, Word.toBytes_ofBytes, h]
  | case4 a =>
      simp only [List.mem_cons, List.not_mem_nil, or_false, eq_comm] at h
      simp [packBytes, unpackBytes?, Word.toBytes_ofBytes, h]
  | case5 => rfl

/-- Only the first of all characters has a zero byte. -/
theorem zero_notMem_utf8EncodeChar {c : Char} (h : c ≠ '\x00') : 0 ∉ String.utf8EncodeChar c := by
  have hpos : 0 < c.val.toNat := by
    refine Nat.pos_of_ne_zero fun hzero => h (Char.ext (UInt32.toNat_inj.1 hzero))
  have hne {n : Nat} (hn : 0 < n) (hlt : n < 256) : (0 : UInt8) ≠ UInt8.ofNat n := by
    intro heq
    have hval := congrArg UInt8.toNat heq
    rw [UInt8.toNat_ofNat', Nat.mod_eq_of_lt hlt] at hval
    exact absurd hval.symm (Nat.ne_of_gt hn)
  unfold String.utf8EncodeChar
  generalize c.val.toNat = v at hpos ⊢
  dsimp only
  split_ifs <;> simp only [List.mem_cons, List.not_mem_nil, or_false, not_or]
  · exact hne hpos (by omega)
  · exact ⟨hne (by omega) (by omega), hne (by omega) (by omega)⟩
  · exact ⟨hne (by omega) (by omega), hne (by omega) (by omega), hne (by omega) (by omega)⟩
  · exact ⟨hne (by omega) (by omega), hne (by omega) (by omega), hne (by omega) (by omega),
      hne (by omega) (by omega)⟩

/-- A text without the first of all characters has no zero byte. -/
theorem zero_notMem_utf8Bytes {s : String} (h : '\x00' ∉ s.toList) : 0 ∉ utf8Bytes s := by
  have hbytes : utf8Bytes s = s.toList.flatMap String.utf8EncodeChar := by
    have hs : s.toByteArray = s.toList.utf8Encode := by
      rw [← String.toByteArray_ofList, String.ofList_toList]
    show s.toByteArray.data.toList = _
    rw [hs]
    simp [List.utf8Encode]
  rw [hbytes, List.mem_flatMap]
  rintro ⟨c, hc, hzero⟩
  exact zero_notMem_utf8EncodeChar (fun heq => h (heq ▸ hc)) hzero

/-- The bytes of a text are text. -/
theorem textOfUtf8?_utf8Bytes (s : String) : textOfUtf8? (utf8Bytes s) = some s := by
  show String.fromUTF8? s.toByteArray = some s
  rw [String.fromUTF8?, dif_pos s.isValidUTF8]
  rfl

theorem utf8Bytes_ne_nil {s : String} (h : s ≠ "") : utf8Bytes s ≠ [] := by
  intro hbytes
  refine h (Option.some.inj ?_)
  rw [← textOfUtf8?_utf8Bytes s, hbytes]
  rfl

/-- **A text is read back from its words**, and what follows them is left. -/
theorem unpackText?_packText {s : String} (h : '\x00' ∉ s.toList) (rest : List Word) :
    unpackText? (packText s ++ rest) = some (s, rest) := by
  rw [unpackText?, packText, unpackBytes?_packBytes (zero_notMem_utf8Bytes h)]
  simp only [textOfUtf8?_utf8Bytes, Option.map_some]

/-! ### Leading words -/

/-- How many words an instruction has, as its first word says. -/
def wordCount (first : Word) : Nat := (first >>> 16).toNat

/-- Every opcode fits into half a word. -/
theorem Opcode.toNat_code_lt (o : Opcode) : o.code.toNat < 2 ^ 16 := by
  cases o <;> decide

namespace Instruction

/-- The count stands above the opcode. -/
theorem toNat_leadingWord {count : Nat} (h : count < 2 ^ 16) (o : Opcode) :
    (leadingWord count o.code).toNat = o.code.toNat + 2 ^ 16 * count := by
  have hcount : (UInt32.ofNat count).toNat = count := by
    rw [UInt32.toNat_ofNat', Nat.mod_eq_of_lt (by omega)]
  have hshift : count <<< 16 % 2 ^ 32 = count <<< 16 := by
    refine Nat.mod_eq_of_lt ?_
    rw [Nat.shiftLeft_eq]
    omega
  have h16 : (16 : UInt32).toNat % 32 = 16 := rfl
  simp only [leadingWord, UInt32.toNat_or, UInt32.toNat_shiftLeft, hcount, h16]
  rw [hshift, Nat.lor_comm, lor_shiftLeft 16 o.toNat_code_lt]

theorem wordCount_leadingWord {count : Nat} (h : count < 2 ^ 16) (o : Opcode) :
    wordCount (leadingWord count o.code) = count := by
  have hshift : (leadingWord count o.code >>> 16).toNat =
      (leadingWord count o.code).toNat / 2 ^ 16 := Nat.shiftRight_eq_div_pow ..
  have hcode := o.toNat_code_lt
  rw [wordCount, hshift, toNat_leadingWord h]
  omega

/-- The lower half of the first word is the opcode. -/
theorem leadingWord_and {count : Nat} (h : count < 2 ^ 16) (o : Opcode) :
    leadingWord count o.code &&& 0xFFFF = o.code := by
  have hcode := o.toNat_code_lt
  have hmask : (0xFFFF : Word).toNat = 2 ^ 16 - 1 := rfl
  apply UInt32.toNat_inj.1
  rw [UInt32.toNat_and, hmask, Nat.and_two_pow_sub_one_eq_mod, toNat_leadingWord h]
  omega

end Instruction

/-! ### Streams of instructions -/

/-- The words of each instruction of a stream.  A count of zero is refused, and so is one of more
words than are left. -/
def splitStream? : List Word → Option (List (List Word))
  | [] => some []
  | first :: rest =>
      if 0 < wordCount first ∧ wordCount first ≤ rest.length + 1 then
        (splitStream? (rest.drop (wordCount first - 1))).map
          ((first :: rest.take (wordCount first - 1)) :: ·)
      else none
termination_by ws => ws.length
decreasing_by simp only [List.length_drop, List.length_cons]; omega

@[simp] theorem splitStream?_nil : splitStream? [] = some [] := by rw [splitStream?]

theorem splitStream?_cons (first : Word) (rest : List Word) : splitStream? (first :: rest) =
    if 0 < wordCount first ∧ wordCount first ≤ rest.length + 1 then
      (splitStream? (rest.drop (wordCount first - 1))).map
        ((first :: rest.take (wordCount first - 1)) :: ·)
    else none := by
  rw [splitStream?]

/-- An instruction is read from the front of a stream. -/
theorem splitStream?_encode {i : Instruction} (h : i.encode.length < 2 ^ 16) (ws : List Word) :
    splitStream? (i.encode ++ ws) = (splitStream? ws).map (i.encode :: ·) := by
  rw [Instruction.length_encode] at h
  rw [Instruction.encode, List.cons_append, splitStream?_cons, Instruction.wordCount_leadingWord h,
    if_pos ⟨Nat.succ_pos _, by simp⟩, Nat.add_sub_cancel, List.drop_left, List.take_left]

/-- **Instructions are read back from a stream**, if each of them is short enough for its count. -/
theorem splitStream?_encodeAll {is : List Instruction} (h : ∀ i ∈ is, i.encode.length < 2 ^ 16) :
    splitStream? (encodeAll is) = some (is.map Instruction.encode) := by
  induction is with
  | nil => rw [encodeAll_nil, splitStream?_nil, List.map_nil]
  | cons i is ih =>
      rw [encodeAll_cons, splitStream?_encode (h i List.mem_cons_self),
        ih fun j hj => h j (List.mem_cons_of_mem i hj)]
      rfl

/-- The first instruction of a stream is told by the words of the stream. -/
theorem Instruction.encode_append_inj {i j : Instruction} (hi : i.encode.length < 2 ^ 16)
    (hj : j.encode.length < 2 ^ 16) {ws vs : List Word} (h : i.encode ++ ws = j.encode ++ vs) :
    i.encode = j.encode ∧ ws = vs := by
  have hfirst := congrArg wordCount (List.cons.inj h).1
  have hlength : i.encode.length = j.encode.length := by
    rw [length_encode] at hi hj
    rw [wordCount_leadingWord hi, wordCount_leadingWord hj] at hfirst
    rw [length_encode, length_encode, hfirst]
  exact List.append_inj h hlength

/-- **Of two ways to begin the same stream one continues the other**, instruction by instruction. -/
theorem prefix_of_encodeAll_append {is js : List Instruction}
    (his : ∀ i ∈ is, i.encode.length < 2 ^ 16) (hjs : ∀ j ∈ js, j.encode.length < 2 ^ 16)
    {ws vs : List Word} (h : encodeAll is ++ ws = encodeAll js ++ vs) :
    is.map Instruction.encode <+: js.map Instruction.encode ∨
      js.map Instruction.encode <+: is.map Instruction.encode := by
  induction is generalizing js with
  | nil => exact .inl List.nil_prefix
  | cons i is ih =>
      cases js with
      | nil => exact .inr List.nil_prefix
      | cons j js =>
          rw [encodeAll_cons, encodeAll_cons, List.append_assoc, List.append_assoc] at h
          obtain ⟨hsame, hrest⟩ := Instruction.encode_append_inj (his i List.mem_cons_self)
            (hjs j List.mem_cons_self) h
          have hprefix := ih (fun k hk => his k (List.mem_cons_of_mem i hk))
            (fun k hk => hjs k (List.mem_cons_of_mem j hk)) hrest
          simpa only [List.map_cons, hsame, List.prefix_cons_inj] using hprefix

/-- The header of a stream and the words of its instructions. -/
def readModule? : List Word → Option (Header × List (List Word))
  | magic :: version :: generator :: bound :: reserved :: ws =>
      if magic = magicNumber ∧ reserved = 0 then
        (splitStream? ws).map (⟨version, generator, bound⟩, ·)
      else none
  | _ => none

/-- A module is read back from its words. -/
theorem ShaderModule.readModule?_words {m : ShaderModule}
    (h : ∀ i ∈ m.instructions, i.encode.length < 2 ^ 16) :
    readModule? m.words = some (m.header, m.instructions.map Instruction.encode) := by
  show (if magicNumber = magicNumber ∧ (0 : Word) = 0 then
    (splitStream? (encodeAll m.instructions)).map (m.header, ·) else none) = _
  rw [if_pos ⟨rfl, rfl⟩, splitStream?_encodeAll h]
  rfl

end FrameShader
