/-
Words, the 32-bit units a SPIR-V module is made of, and the text stored in them.

A module is a sequence of words; on disk each word is four bytes, least significant first.  Text
inside a module is its UTF-8 bytes laid out four to a word, followed by at least one zero byte,
the last word being filled up with zeros.

Main definitions:

* `FrameShader.Word`, `FrameShader.Id` — words, and the words that name things;
* `FrameShader.Word.toBytes`, `FrameShader.Word.ofBytes` — a word and its four bytes;
* `FrameShader.bytesOfWords`, `FrameShader.wordsOfBytes?` — the same for a whole stream;
* `FrameShader.packText`, `FrameShader.unpackText?` — text laid out in words, and read back.
-/

set_option relaxedAutoImplicit false
set_option autoImplicit false

namespace FrameShader

/-- The unit of a module: every opcode, id and literal is made of words. -/
abbrev Word := UInt32

/-- The name of a result inside a module.  Ids count up from one. -/
abbrev Id := Word

/-- A number does not grow when only a word of it is kept. -/
theorem Word.toNat_ofNat_le (n : Nat) : (UInt32.ofNat n).toNat ≤ n := Nat.mod_le _ _

/-! ### Words as bytes -/

/-- The four bytes of a word, least significant first. -/
def Word.toBytes (w : Word) : List UInt8 :=
  [w.toUInt8, (w >>> 8).toUInt8, (w >>> 16).toUInt8, (w >>> 24).toUInt8]

/-- The word whose bytes are `a`, `b`, `c`, `d`, least significant first. -/
def Word.ofBytes (a b c d : UInt8) : Word :=
  a.toUInt32 ||| (b.toUInt32 <<< 8) ||| (c.toUInt32 <<< 16) ||| (d.toUInt32 <<< 24)

@[simp] theorem Word.length_toBytes (w : Word) : (Word.toBytes w).length = 4 := rfl

/-- A stream of words as the bytes a pipeline expects. -/
def bytesOfWords (ws : List Word) : List UInt8 := ws.flatMap Word.toBytes

@[simp] theorem bytesOfWords_nil : bytesOfWords [] = [] := rfl

@[simp] theorem bytesOfWords_cons (w : Word) (ws : List Word) :
    bytesOfWords (w :: ws) = Word.toBytes w ++ bytesOfWords ws := rfl

/-- The words of a byte stream, which must hold a whole number of them. -/
def wordsOfBytes? : List UInt8 → Option (List Word)
  | [] => some []
  | a :: b :: c :: d :: rest => (wordsOfBytes? rest).map (Word.ofBytes a b c d :: ·)
  | _ => none

/-! ### Text in words -/

/-- Bytes laid out four to a word and closed by zero bytes.  A length that is a multiple of four
gets one more word, so that the closing zero is always there. -/
def packBytes : List UInt8 → List Word
  | a :: b :: c :: d :: rest => Word.ofBytes a b c d :: packBytes rest
  | [a, b, c] => [Word.ofBytes a b c 0]
  | [a, b] => [Word.ofBytes a b 0 0]
  | [a] => [Word.ofBytes a 0 0 0]
  | [] => [0]

/-- The UTF-8 bytes of a text. -/
def utf8Bytes (s : String) : List UInt8 := s.toUTF8.data.toList

/-- A text laid out in words. -/
def packText (s : String) : List Word := packBytes (utf8Bytes s)

/-- The bytes before the first zero byte, and the words after the one that holds it. -/
def unpackBytes? : List Word → Option (List UInt8 × List Word)
  | [] => none
  | w :: rest =>
      let bytes := Word.toBytes w
      if 0 ∈ bytes then some (bytes.takeWhile (· ≠ 0), rest)
      else (unpackBytes? rest).map fun found => (bytes ++ found.1, found.2)

/-- The text that a list of bytes encodes, if they are valid UTF-8. -/
def textOfUtf8? (bytes : List UInt8) : Option String := String.fromUTF8? ⟨⟨bytes⟩⟩

/-- The text at the head of a list of words, and the words after it. -/
def unpackText? (ws : List Word) : Option (String × List Word) :=
  match unpackBytes? ws with
  | none => none
  | some (bytes, rest) => (textOfUtf8? bytes).map (·, rest)

end FrameShader
