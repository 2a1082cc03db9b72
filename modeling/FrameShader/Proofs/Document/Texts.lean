/-
Texts of TOML documents are read back.

A text is written in one of six ways, two of which may need several lines.  Without several lines each
character is read on its own, escaped or not.  With several lines the quotes in a row are read
together, up to two of them in the text and up to five where it ends, so what is read next depends on
how many quotes have just been written.  The index of `Spelled` counts these.

Main definitions:

* `FrameShader.Toml.Spelled` — characters and how they are written on several lines, where some quotes
  have just been written.

Main results:

* `FrameShader.Toml.escapeControl_cases` — a character stands for itself, or an escape stands for it;
* `FrameShader.Toml.Spelled.collects` — what is written on several lines is read back;
* `FrameShader.Toml.reads_text` — **a text is read back from its written form**.
-/

import FrameShader.Document.Toml.Text
import FrameShader.Document.Toml.Value
import FrameShader.Proofs.Document.Scanning

set_option relaxedAutoImplicit false
set_option autoImplicit false

namespace FrameShader

namespace Toml

open Scan

/-! ### Escapes -/

/-- A control that has no letter is read back from its code point. -/
theorem hexDigits_of_control : ∀ n < 128,
    isDigit 16 (upperHexDigit (n / 16)) = true ∧ isDigit 16 (upperHexDigit n) = true ∧
      numberOfDigits 16 ['0', '0', upperHexDigit (n / 16), upperHexDigit n] = n := by
  decide +kernel

theorem reads_codePoint {c : Char} (h : c.toNat < 128) (cs : List Char) :
    Reads (codePoint c.toNat) cs c cs := by
  rw [codePoint, if_pos (Or.inl (by omega)), Char.ofNat_toNat]
  exact .pure c cs

/-- A character without need of an escape is printable, unless it ends a line. -/
theorem isPrintable_of_needsEscape {c : Char} (h : needsEscape c = false) (hline : c ≠ '\n') :
    isPrintable c = true := by
  simp only [needsEscape, isPrintable] at h ⊢
  by_cases htab : c = '\t'
  · simp [htab]
  · simp [hline, htab] at h ⊢
    omega

theorem ne_of_isPrintable {c : Char} (h : isPrintable c = true) : c ≠ '\n' ∧ c ≠ '\r' := by
  constructor <;> rintro rfl <;> cases h

/-- The marks that may stand behind a backslash, apart from those of quotes and ends of lines. -/
def escapeMarks : List Char := ['\\', 'b', 't', 'f', 'r', 'u']

/-- **A character stands for itself, or an escape stands for it**, unless it ends a line. -/
theorem escapeControl_cases {c : Char} (hline : c ≠ '\n') :
    (escapeControl c = [c] ∧ isPrintable c = true ∧ c ≠ '\\') ∨
      ∃ mark written, escapeControl c = '\\' :: mark :: written ∧ mark ∈ escapeMarks ∧
        ∀ more, Reads escape (mark :: (written ++ more)) c more := by
  unfold escapeControl
  split_ifs with hbackslash hbackspace htab hfeed hreturn hescape
  · exact .inr ⟨_, [], rfl, by decide, fun _ => by rw [hbackslash]; rfl⟩
  · exact .inr ⟨_, [], rfl, by decide, fun _ => by rw [hbackspace]; rfl⟩
  · exact .inr ⟨_, [], rfl, by decide, fun _ => by rw [htab]; rfl⟩
  · exact .inr ⟨_, [], rfl, by decide, fun _ => by rw [hfeed]; rfl⟩
  · exact .inr ⟨_, [], rfl, by decide, fun _ => by rw [hreturn]; rfl⟩
  · refine .inr ⟨'u', _, rfl, by decide, fun more => ?_⟩
    have hsmall : c.toNat < 128 := by
      simp only [needsEscape, Bool.and_eq_true, Bool.or_eq_true, decide_eq_true_eq,
        beq_iff_eq] at hescape
      omega
    obtain ⟨hhigh, hlow, hnumber⟩ := hexDigits_of_control c.toNat hsmall
    have hdigits : Reads (takeExactly (isDigit 16) 4)
        (['0', '0', upperHexDigit (c.toNat / 16), upperHexDigit c.toNat] ++ more) _ more :=
      Reads.takeExactly (List.forall_mem_cons.2 ⟨rfl, List.forall_mem_cons.2 ⟨rfl,
        List.forall_mem_cons.2 ⟨hhigh, List.forall_mem_singleton.2 hlow⟩⟩⟩)
    refine .bind .next (hdigits.bind ?_)
    rw [hnumber]
    exact reads_codePoint hsmall more
  · exact .inl ⟨rfl, isPrintable_of_needsEscape (by simpa using hescape) hline, hbackslash⟩

/-! ### Texts on one line -/

/-- A character between double quotes, escaped if need be. -/
theorem reads_basicChar (c : Char) (more : List Char) :
    Reads basicChar (escapeShort c ++ more) (some c) more := by
  have hescaped (written : List Char) (h : Reads escape (written ++ more) c more) :
      Reads basicChar ('\\' :: (written ++ more)) (some c) more := .bind .next (h.map some)
  unfold escapeShort
  split_ifs with hquote hline
  · exact hescaped ['"'] (by rw [hquote]; rfl)
  · exact hescaped ['n'] (by rw [hline]; rfl)
  · rcases escapeControl_cases hline with ⟨hplain, hprintable, hbackslash⟩ | ⟨mark, written, hw, -, h⟩
    · rw [hplain]
      refine .bind .next ?_
      rw [if_neg hquote, if_neg hbackslash, if_pos hprintable]
      exact .pure _ more
    · rw [hw]
      exact hescaped (mark :: written) (h more)

theorem escapeShort_ne_nil (c : Char) : escapeShort c ≠ [] := by
  unfold escapeShort escapeControl
  split_ifs <;> simp

/-- No character is written so that it begins with a quote. -/
theorem stops_escapeShort (c : Char) : Stops (· == '"') (escapeShort c) := by
  unfold escapeShort escapeControl
  split_ifs with hquote <;> simp [stops_cons, hquote]

/-- **A text between double quotes**, after the first of them. -/
theorem collects_basic (cs rest : List Char) :
    Reads (collect basicChar) (cs.flatMap escapeShort ++ '"' :: rest) cs rest := by
  have hread := Reads.collect_flatMap escapeShort (fun c => c)
    (fun c _ => escapeShort_ne_nil c) (fun c (_ : c ∈ cs) => reads_basicChar c)
    (show Reads basicChar ('"' :: rest) none rest from rfl)
  rwa [List.map_id''] at hread
  exact fun _ => rfl

/-- **A text between single quotes**, after the first of them. -/
theorem collects_literal {cs : List Char} (hprintable : ∀ c ∈ cs, isPrintable c = true)
    (hquote : '\'' ∉ cs) (rest : List Char) :
    Reads (collect literalChar) (cs ++ '\'' :: rest) cs rest := by
  refine Reads.collect_chars (fun c hc more => ?_) rfl
  refine .bind .next ?_
  rw [if_neg fun h : c = '\'' => hquote (h ▸ hc), if_pos (hprintable c hc)]
  exact .pure _ more

/-! ### Texts on several lines -/

/-- A part of a text does not begin with the quote. -/
def Opens (quote : Char) (written : List Char) : Prop :=
  written ≠ [] ∧ Stops (· == quote) written

/-- Characters and how they are written between three quotes on each side, where `run` quotes have
just been written: one or two more may stand for themselves, and everything else is a part of its own
that `part` reads. -/
inductive Spelled (part : Scan (Option (List Char))) (quote : Char) :
    Nat → List Char → List Char → Prop
  | nil {run : Nat} (hrun : run ≤ 2) : Spelled part quote run [] []
  | quote {run : Nat} {cs written : List Char} (h : Spelled part quote (run + 1) cs written) :
      Spelled part quote run (quote :: cs) (quote :: written)
  | char {run : Nat} {c : Char} {first cs written : List Char} (hrun : run ≤ 2)
      (hopens : Opens quote first) (hpart : ∀ more, Reads part (first ++ more) (some [c]) more)
      (h : Spelled part quote 0 cs written) : Spelled part quote run (c :: cs) (first ++ written)

/-- The scanner reads quotes in a row as the parts of a text, or as its end. -/
def ReadsQuotes (part : Scan (Option (List Char))) (quote : Char) : Prop :=
  ∀ run ≠ 0, ∀ rest, Stops (· == quote) rest → ∀ a left,
    Reads (quotes quote run) (List.replicate run quote ++ rest) a left →
      Reads part (List.replicate run quote ++ rest) a left

section quotes

variable {quote : Char} {run : Nat} {rest : List Char}

theorem reads_runOf (h : Stops (· == quote) rest) :
    Reads (runOf quote) (List.replicate run quote ++ rest) run (List.replicate run quote ++ rest) := by
  have hquotes : ∀ c ∈ List.replicate run quote, (c == quote) = true := by simp
  rw [Reads, runOf, (Reads.span_written hquotes h).1, List.length_replicate]

theorem reads_replicate (n : Nat) : Reads (takeExactly (· == quote) n)
    (List.replicate n quote ++ rest) (List.replicate n quote) rest := by
  have hread : Reads (takeExactly (· == quote) (List.replicate n quote).length)
      (List.replicate n quote ++ rest) (List.replicate n quote) rest := .takeExactly (by simp)
  rwa [List.length_replicate] at hread

/-- Three quotes end a text. -/
theorem reads_quotes_end : Reads (quotes quote 3) (List.replicate 3 quote ++ rest) none rest := by
  rw [quotes, if_pos rfl]
  exact .bind .expect (.pure none rest)

/-- Fewer quotes stand for themselves. -/
theorem reads_quotes_within (hrun : run < 3) : Reads (quotes quote run)
    (List.replicate run quote ++ rest) (some (List.replicate run quote)) rest := by
  rw [quotes, if_neg (by omega), if_pos hrun]
  exact (reads_replicate run).map some

/-- One or two quotes may stand before those that end a text. -/
theorem reads_quotes_before (hrun : run ≠ 0) (hrun' : run ≤ 2) : Reads (quotes quote (run + 3))
    (List.replicate (run + 3) quote ++ rest) (some (List.replicate run quote))
    (List.replicate 3 quote ++ rest) := by
  rw [quotes, if_neg (by omega), if_neg (by omega), if_pos (by omega), Nat.add_sub_cancel,
    List.replicate_add, List.append_assoc]
  exact (reads_replicate run).map some

end quotes

namespace Spelled

variable {part : Scan (Option (List Char))} {quote : Char} {run : Nat} {cs written : List Char}

/-- Quotes that have just been written, and then a part that is no quote. -/
theorem collects_after (hpart : ReadsQuotes part quote) (hrun : run ≤ 2) {more rest : List Char}
    (hmore : Stops (· == quote) more) {parts : List (List Char)}
    (h : Reads (collect part) more parts rest) :
    ∃ parts', Reads (collect part) (List.replicate run quote ++ more) parts' rest ∧
      parts'.flatten = List.replicate run quote ++ parts.flatten := by
  by_cases hzero : run = 0
  · subst hzero
    exact ⟨parts, h, rfl⟩
  · refine ⟨List.replicate run quote :: parts, .collect_more (hpart run hzero more hmore _ _
      (reads_quotes_within (by omega))) ?_ h, rfl⟩
    rw [List.length_append, List.length_replicate]
    omega

/-- **What is written on several lines is read back**, up to the quotes that end it. -/
theorem collects (hpart : ReadsQuotes part quote) (h : Spelled part quote run cs written)
    {rest : List Char} (hrest : Stops (· == quote) rest) :
    ∃ parts, Reads (collect part)
        (List.replicate run quote ++ (written ++ (List.replicate 3 quote ++ rest))) parts rest ∧
      parts.flatten = List.replicate run quote ++ cs := by
  -- the quotes that have just been written are read with those that follow
  induction h with
  | @nil run hrun =>
      have hend : Reads (collect part) (List.replicate 3 quote ++ rest) [] rest :=
        .collect_done (hpart 3 (by decide) rest hrest _ _ reads_quotes_end)
      by_cases hzero : run = 0
      · subst hzero
        exact ⟨[], hend, rfl⟩
      · refine ⟨[List.replicate run quote], ?_, rfl⟩
        rw [List.nil_append, ← List.append_assoc, ← List.replicate_add]
        refine .collect_more (hpart (run + 3) (by omega) rest hrest _ _
          (reads_quotes_before hzero hrun)) ?_ hend
        simp only [List.length_append, List.length_replicate]
        omega
  | @quote run cs written _ ih =>
      obtain ⟨parts, hread, hparts⟩ := ih
      rw [List.replicate_succ', List.append_assoc] at hread hparts
      exact ⟨parts, hread, hparts⟩
  | @char run c first cs written hrun hopens hfirst _ ih =>
      obtain ⟨parts, hread, hparts⟩ := ih
      have hmore : Reads (collect part)
          (first ++ (written ++ (List.replicate 3 quote ++ rest))) ([c] :: parts) rest := by
        refine .collect_more (hfirst _) ?_ hread
        have hfirst := List.length_pos_iff.2 hopens.1
        simp only [List.length_append]
        omega
      obtain ⟨parts', hread', hparts'⟩ :=
        collects_after hpart hrun (hopens.2.append hopens.1 _) hmore
      refine ⟨parts', ?_, ?_⟩
      · rwa [List.append_assoc first]
      · rw [hparts', List.flatten_cons, hparts]
        rfl

end Spelled

/-! ### The two forms with several lines -/

theorem reads_newline {cs : List Char} : Reads newline ('\n' :: cs) true cs :=
  .bind .accept_same (.pure true cs)

/-- Nothing that ends a line comes next. -/
theorem reads_newline_other {cs : List Char} (h : Stops (fun c => c == '\n' || c == '\r') cs) :
    Reads newline cs false cs := by
  obtain ⟨hline, hreturn⟩ := stops_or.1 h
  exact .bind (.accept_other hline) (.acceptAll_stops hreturn)

theorem reads_plainChar_newline (cs : List Char) : Reads plainChar ('\n' :: cs) (some ['\n']) cs :=
  .bind reads_newline (.pure _ cs)

theorem reads_plainChar {c : Char} (h : isPrintable c = true) (cs : List Char) :
    Reads plainChar (c :: cs) (some [c]) cs := by
  refine .bind (reads_newline_other ?_) (.bind (.satisfy h) (.pure _ cs))
  simpa [stops_cons] using ne_of_isPrintable h

section parts

variable {c : Char} {cs : List Char}

theorem longBasicPart_quotes : ReadsQuotes longBasicPart '"' := by
  intro run hrun rest hrest a left h
  refine .bind (reads_runOf hrest) ?_
  rwa [if_pos hrun]

theorem longLiteralPart_quotes : ReadsQuotes longLiteralPart '\'' := by
  intro run hrun rest hrest a left h
  refine .bind (reads_runOf hrest) ?_
  rwa [if_pos hrun]

/-- What is neither a quote nor an escape stands for itself. -/
theorem reads_longBasicPart_plain {a : Option (List Char)} {left : List Char}
    (hquote : Stops (· == '"') cs) (hbackslash : Stops (· == '\\') cs)
    (h : Reads plainChar cs a left) : Reads longBasicPart cs a left := by
  have hrun : Reads (runOf '"') (List.replicate 0 '"' ++ cs) 0 cs := reads_runOf hquote
  refine .bind hrun ?_
  rw [if_neg (by simp)]
  exact .bind (.accept_other hbackslash) h

/-- The mark of an escape does not end a line. -/
theorem reads_lineEndsHere {mark : Char} (hmark : mark ∈ '"' :: escapeMarks) (cs : List Char) :
    Reads lineEndsHere (mark :: cs) false (mark :: cs) := by
  simp only [escapeMarks, List.mem_cons, List.not_mem_nil, or_false] at hmark
  rcases hmark with rfl | rfl | rfl | rfl | rfl | rfl | rfl <;> rfl

theorem reads_longBasicPart_escape {mark : Char} (hmark : mark ∈ '"' :: escapeMarks)
    {left : List Char} (h : Reads escape (mark :: cs) c left) :
    Reads longBasicPart ('\\' :: mark :: cs) (some [c]) left := by
  have hrun : Reads (runOf '"') (List.replicate 0 '"' ++ '\\' :: mark :: cs) 0
      ('\\' :: mark :: cs) := reads_runOf (stops_cons.2 rfl)
  refine .bind hrun ?_
  rw [if_neg (by simp)]
  refine .bind .accept_same (.bind (reads_lineEndsHere hmark cs) ?_)
  exact .bind h (.pure _ left)

/-- What is no quote stands for itself. -/
theorem reads_longLiteralPart {a : Option (List Char)} {left : List Char}
    (hquote : Stops (· == '\'') cs) (h : Reads plainChar cs a left) :
    Reads longLiteralPart cs a left := by
  have hrun : Reads (runOf '\'') (List.replicate 0 '\'' ++ cs) 0 cs := reads_runOf hquote
  refine .bind hrun ?_
  rwa [if_neg (by simp)]

end parts

/-- **Every text can be written between double quotes on several lines.** -/
theorem spelled_basic (cs : List Char) {run : Nat} (hrun : run ≤ 2) :
    Spelled longBasicPart '"' run cs (escapeLong run cs) := by
  induction cs generalizing run with
  | nil => exact .nil hrun
  | cons c cs ih =>
      rw [escapeLong]
      split_ifs with hquote htwo hline
      · -- the third quote in a row would end the text
        subst hquote
        show Spelled longBasicPart '"' run ('"' :: cs) (['\\', '"'] ++ escapeLong 0 cs)
        exact .char hrun ⟨List.cons_ne_nil _ _, stops_cons.2 rfl⟩
          (fun more => reads_longBasicPart_escape List.mem_cons_self rfl) (ih (Nat.zero_le 2))
      · subst hquote
        exact .quote (ih (by omega))
      · subst hline
        show Spelled longBasicPart '"' run ('\n' :: cs) (['\n'] ++ escapeLong 0 cs)
        refine .char hrun ⟨List.cons_ne_nil _ _, stops_cons.2 rfl⟩ (fun more => ?_) (ih (Nat.zero_le 2))
        exact reads_longBasicPart_plain (stops_cons.2 rfl) (stops_cons.2 rfl)
          (reads_plainChar_newline more)
      · rcases escapeControl_cases hline with ⟨hplain, hprintable, hbackslash⟩ | ⟨mark, ws, hw, hmark, h⟩
        · rw [hplain]
          have hopens : Opens '"' [c] := ⟨List.cons_ne_nil _ _, stops_cons.2 (by simpa using hquote)⟩
          refine .char hrun hopens (fun more => ?_) (ih (Nat.zero_le 2))
          exact reads_longBasicPart_plain hopens.2 (stops_cons.2 (by simpa using hbackslash))
            (reads_plainChar hprintable more)
        · rw [hw]
          refine .char hrun ⟨List.cons_ne_nil _ _, stops_cons.2 rfl⟩ (fun more => ?_) (ih (Nat.zero_le 2))
          exact reads_longBasicPart_escape (List.mem_cons_of_mem _ hmark) (h more)

/-- **A text can be written between single quotes on several lines**, if it needs no escapes and has
never more than two of these quotes in a row. -/
theorem spelled_literal {cs : List Char} (hplain : ∀ c ∈ cs, needsEscape c = false) {run : Nat}
    (hrun : longestRunFrom '\'' run cs ≤ 2) : Spelled longLiteralPart '\'' run cs cs := by
  induction cs generalizing run with
  | nil => exact .nil hrun
  | cons c cs ih =>
      obtain ⟨hc, hcs⟩ := List.forall_mem_cons.1 hplain
      rw [longestRunFrom] at hrun
      by_cases hquote : c = '\''
      · rw [if_pos hquote] at hrun
        subst hquote
        exact .quote (ih hcs hrun)
      · rw [if_neg hquote, Nat.max_le] at hrun
        have hopens : Opens '\'' [c] := ⟨List.cons_ne_nil _ _, stops_cons.2 (by simpa using hquote)⟩
        refine .char hrun.1 hopens (fun more => reads_longLiteralPart hopens.2 ?_) (ih hcs hrun.2)
        by_cases hline : c = '\n'
        · subst hline
          exact reads_plainChar_newline more
        · exact reads_plainChar (isPrintable_of_needsEscape hc hline) more

/-! ### The form of a text -/

/-- The quotes around a text on one line are not taken for those of a text on several lines. -/
theorem not_prefix_of_opens {quote : Char} {body rest : List Char} (hbody : Stops (· == quote) body)
    (hrest : Stops (· == quote) rest) :
    ¬ [quote, quote, quote] <+: quote :: (body ++ quote :: rest) := by
  rintro ⟨tail, h⟩
  obtain ⟨-, h⟩ := List.cons.inj h
  cases body with
  | nil =>
      obtain ⟨-, h⟩ := List.cons.inj h
      rw [← show quote :: tail = rest from h] at hrest
      exact absurd (stops_cons.1 hrest) (by simp)
  | cons c body =>
      obtain ⟨rfl, -⟩ := List.cons.inj h
      exact absurd (stops_cons.1 hbody) (by simp)

section forms

variable {cs rest : List Char}

theorem reads_text_basic (hrest : Stops (· == '"') rest) :
    Reads text (between '"' (cs.flatMap escapeShort) ++ rest) cs rest := by
  have hbody : Stops (· == '"') (cs.flatMap escapeShort) := by
    cases cs with
    | nil => exact stops_nil _
    | cons c cs =>
        exact (stops_escapeShort c).append (escapeShort_ne_nil c) _
  have hshort : between '"' (cs.flatMap escapeShort) ++ rest =
      '"' :: (cs.flatMap escapeShort ++ '"' :: rest) := by simp [between]
  rw [hshort]
  exact .bind (.acceptAll_other (not_prefix_of_opens hbody hrest))
    (.bind .accept_same (collects_basic cs rest))

theorem reads_text_literal (hprintable : ∀ c ∈ cs, isPrintable c = true) (hquote : '\'' ∉ cs)
    (hrest : Stops (· == '\'') rest) : Reads text (between '\'' cs ++ rest) cs rest := by
  have hbody : Stops (· == '\'') cs := by
    intro c hc
    exact beq_eq_false_iff_ne.2 fun h => hquote (h ▸ List.mem_of_mem_head? hc)
  have hshort : between '\'' cs ++ rest = '\'' :: (cs ++ '\'' :: rest) := by simp [between]
  rw [hshort]
  refine .bind (.acceptAll_stops (stops_cons.2 rfl)) (.bind (.accept_other (stops_cons.2 rfl)) ?_)
  refine .bind (.acceptAll_other (not_prefix_of_opens hbody hrest)) ?_
  have hexpect : Reads (expect ['\'']) (['\''] ++ (cs ++ '\'' :: rest)) () _ := .expect
  exact hexpect.bind (collects_literal hprintable hquote rest)

/-- A text on several lines, after the quotes that open it.  If it has several lines indeed, it starts
on a line of its own. -/
theorem reads_longText {part : Scan (Option (List Char))} {quote : Char} {written : List Char}
    {hasLines : Bool} (hpart : ReadsQuotes part quote) (h : Spelled part quote 0 cs written)
    (hfirst : hasLines = false →
      Stops (fun c => c == '\n' || c == '\r') (written ++ [quote, quote, quote]))
    (hrest : Stops (· == quote) rest) :
    Reads (longText part)
      ((if hasLines then ['\n'] else []) ++ (written ++ ([quote, quote, quote] ++ rest))) cs rest := by
  obtain ⟨parts, hread, hparts⟩ := h.collects hpart hrest
  have hrest : Reads (do let parts ← collect part; return parts.flatten)
      (written ++ ([quote, quote, quote] ++ rest)) cs rest := by
    refine .bind hread ?_
    rw [hparts]
    exact .pure cs rest
  cases hasLines with
  | true => exact .bind reads_newline hrest
  | false =>
      refine .bind (reads_newline_other ?_) hrest
      rw [if_neg (by simp), List.nil_append, ← List.append_assoc]
      exact (hfirst rfl).append (by simp) rest

theorem betweenLong_append (quote : Char) (hasLines : Bool) :
    betweenLong quote hasLines cs ++ rest = [quote, quote, quote] ++
      ((if hasLines then ['\n'] else []) ++ (cs ++ ([quote, quote, quote] ++ rest))) := by
  simp [betweenLong]

theorem reads_text_longBasic {hasLines : Bool} (hlines : hasLines = false → '\n' ∉ cs)
    (hrest : Stops (· == '"') rest) :
    Reads text (betweenLong '"' hasLines (escapeLong 0 cs) ++ rest) cs rest := by
  have hfirst (h : hasLines = false) :
      Stops (fun c => c == '\n' || c == '\r') (escapeLong 0 cs ++ ['"', '"', '"']) := by
    cases cs with
    | nil => exact stops_cons.2 rfl
    | cons c cs =>
        have hline : c ≠ '\n' := fun hc => hlines h (hc ▸ List.mem_cons_self)
        rw [escapeLong, if_neg (show ¬ 0 = 2 by decide), if_neg hline]
        split_ifs
        · exact stops_cons.2 rfl
        · rcases escapeControl_cases hline with ⟨hplain, hprintable, -⟩ | ⟨mark, written, hw, -, -⟩
          · rw [hplain]
            exact stops_cons.2 (by simpa using ne_of_isPrintable hprintable)
          · rw [hw]
            exact stops_cons.2 rfl
  rw [betweenLong_append]
  exact .bind .acceptAll_same
    (reads_longText longBasicPart_quotes (spelled_basic cs (Nat.zero_le 2)) hfirst hrest)

theorem reads_text_longLiteral {hasLines : Bool} (hplain : ∀ c ∈ cs, needsEscape c = false)
    (hrun : longestRun '\'' cs ≤ 2) (hlines : hasLines = false → '\n' ∉ cs)
    (hrest : Stops (· == '\'') rest) :
    Reads text (betweenLong '\'' hasLines cs ++ rest) cs rest := by
  have hfirst (h : hasLines = false) :
      Stops (fun c => c == '\n' || c == '\r') (cs ++ ['\'', '\'', '\'']) := by
    cases cs with
    | nil => exact stops_cons.2 rfl
    | cons c cs =>
        have hline : c ≠ '\n' := fun hc => hlines h (hc ▸ List.mem_cons_self)
        have hprintable := isPrintable_of_needsEscape (hplain c List.mem_cons_self) hline
        exact stops_cons.2 (by simpa using ne_of_isPrintable hprintable)
  rw [betweenLong_append]
  refine .bind (.acceptAll_stops (stops_cons.2 rfl)) (.bind (.accept_other (stops_cons.2 rfl)) ?_)
  exact .bind .acceptAll_same
    (reads_longText longLiteralPart_quotes (spelled_literal hplain hrun) hfirst hrest)

/-- **A text is read back from its written form**, if no quote comes after it. -/
theorem reads_text (hrest : Stops (fun c => c == '"' || c == '\'') rest) :
    Reads text (writeText cs ++ rest) cs rest := by
  obtain ⟨hbasic, hliteral⟩ := stops_or.1 hrest
  have hplain (h : cs.any needsEscape = false) : ∀ c ∈ cs, needsEscape c = false := by
    simpa using h
  have hlines (h : cs.contains '\n' = false) : '\n' ∉ cs := by simpa using h
  unfold writeText
  dsimp only
  split_ifs with h₁ h₂ h₃ h₄
  · exact reads_text_basic hbasic
  · simp only [Bool.and_eq_true, Bool.not_eq_true'] at h₂
    have hprintable : ∀ c ∈ cs, isPrintable c = true := fun c hc =>
      isPrintable_of_needsEscape (hplain h₂.1.1 c hc) fun h => hlines h₂.2 (h ▸ hc)
    exact reads_text_literal hprintable (by simpa using h₂.1.2) hliteral
  · exact reads_text_longBasic hlines hbasic
  · simp only [Bool.and_eq_true, Bool.not_eq_true', decide_eq_true_eq] at h₄
    exact reads_text_longLiteral (hplain h₄.1) h₄.2 hlines hliteral
  · exact reads_text_longBasic (fun h => nomatch h) hbasic
  · exact reads_text_basic hbasic

end forms

end Toml

end FrameShader
