/-
Lines of TOML documents are read back.

A document is written part by part, and each part has some lines.  The parts are read one after the
other, so what a document says is what its parts say, in order.

Main definitions:

* `FrameShader.Toml.IsBare` — names that are written without quotes;
* `FrameShader.Toml.Says` — a part of a document, and the statements that its lines make.

Main results:

* `FrameShader.Toml.reads_key` — keys are read back;
* `FrameShader.Toml.says_header`, `FrameShader.Toml.says_assignment` — lines are read back;
* `FrameShader.Toml.Says.append`, `FrameShader.Toml.Says.read?` — **what a document says is what its
  parts say**.
-/

import FrameShader.Document.Toml.Reader
import FrameShader.Proofs.Document.Values

set_option relaxedAutoImplicit false
set_option autoImplicit false

namespace FrameShader

namespace Toml

open Scan

/-! ### Keys -/

/-- Characters that are a part of a key without quotes. -/
structure IsBare (name : List Char) : Prop where
  chars : ∀ c ∈ name, isBareChar c = true
  ne_nil : name ≠ []

/-- Whether a character goes on with a part of a key, or with the blanks after it. -/
def extendsPart (c : Char) : Bool := isBareChar c || isBlank c

section keys

variable {name blank rest : List Char}

theorem isBlank_of_isBareChar {c : Char} (h : isBareChar c = true) : isBlank c = false := by
  rw [isBlank, beq_of_not h rfl, beq_of_not h rfl]
  rfl

/-- A name without quotes begins with no other character. -/
theorem IsBare.stops (h : IsBare name) {d : Char} (hd : isBareChar d = false) (more : List Char) :
    Stops (· == d) (name ++ more) :=
  (stops_other h.chars hd).append h.ne_nil more

theorem IsBare.stops_isBlank (h : IsBare name) (more : List Char) : Stops isBlank (name ++ more) :=
  (stops_written h.chars fun _ => isBlank_of_isBareChar).append h.ne_nil more

/-- A part of a key, and blanks after it. -/
theorem reads_keyPart (h : IsBare name) (hblank : ∀ c ∈ blank, isBlank c = true)
    (hrest : Stops extendsPart rest) :
    Reads keyPart (name ++ (blank ++ rest)) (String.ofList name) rest := by
  obtain ⟨hbare, hblanks⟩ : Stops isBareChar rest ∧ Stops isBlank rest := stops_or.1 hrest
  have hends : Stops isBareChar (blank ++ rest) := by
    cases blank with
    | nil => exact hbare
    | cons c blank =>
        refine stops_cons.2 (Bool.eq_false_iff.2 fun hc => ?_)
        exact absurd (hblank c List.mem_cons_self) (by simp [isBlank_of_isBareChar hc])
  refine .bind (.skipWhile_nothing (h.stops_isBlank _)) ?_
  refine .bind (.accept_other (h.stops rfl _)) (.bind (.accept_other (h.stops rfl _)) ?_)
  refine .bind (.takeWhile1 h.chars h.ne_nil hends) ?_
  exact .bind (.skipWhile hblank hblanks) (.pure _ rest)

/-- The parts of a key after the first, each with a dot before it. -/
def dotted (names : List (List Char)) : List Char := names.flatMap fun name => '.' :: name

/-- Names with dots between them are a name and the further ones, each after a dot. -/
theorem intercalate_eq_dotted (name : List Char) (names : List (List Char)) :
    ['.'].intercalate (name :: names) = name ++ dotted names := by
  induction names generalizing name with
  | nil => simp [dotted]
  | cons next names ih =>
      rw [List.intercalate_cons_cons, ih]
      simp [dotted]

/-- **A key is read back**; there may be blanks after its first part. -/
theorem reads_key {names : List (List Char)} (h : ∀ part ∈ name :: names, IsBare part)
    (hlength : names.length < depthLimit) (hblank : ∀ c ∈ blank, isBlank c = true)
    (hrest : Stops (fun c => c == '.' || extendsPart c) rest) :
    Reads key (name ++ (blank ++ (dotted names ++ rest)))
      ((name :: names).map String.ofList) rest := by
  obtain ⟨hname, hnames⟩ := List.forall_mem_cons.1 h
  obtain ⟨hdot, hends⟩ := stops_or.1 hrest
  have hfirst : Stops extendsPart (dotted names ++ rest) := by
    cases names with
    | nil => exact hends
    | cons part names => exact stops_cons.2 rfl
  refine .bind (reads_keyPart hname hblank hfirst)
    (.bind (show Reads _ _ (names.map String.ofList) rest from ?_) ?_)
  · refine .collect_pieces (Stops extendsPart) (fun part => '.' :: part) String.ofList
      (fun _ _ => List.cons_ne_nil _ _) (fun _ _ _ => stops_cons.2 rfl)
      (fun part hpart more hmore => ?_) hends (.bind (.accept_other hdot) (.pure none rest))
    have hread := reads_keyPart (hnames part hpart) (fun c hc => absurd hc List.not_mem_nil) hmore
    exact .bind .accept_same (hread.map some)
  · rw [if_pos (by rwa [List.length_map])]
    exact .pure _ rest

end keys

/-! ### Lines -/

theorem reads_lineEnd (more : List Char) : Reads lineEnd ('\n' :: more) () more := by
  refine .bind (.skipWhile_nothing (stops_cons.2 rfl)) ?_
  refine .bind (.bind (.accept_other (stops_cons.2 rfl)) (.pure false _)) ?_
  exact .bind reads_newline (.pure () more)

/-- A part of a document that makes these statements, whatever comes after it. -/
def Says (written : List Char) (statements : List Statement) : Prop :=
  ∀ more others, Reads lines more others [] → Reads lines (written ++ more) (statements ++ others) []

namespace Says

variable {written written' : List Char} {statements statements' : List Statement}

theorem nil : Says [] [] := fun _ _ h => h

/-- One part after another. -/
theorem append (h : Says written statements) (h' : Says written' statements') :
    Says (written ++ written') (statements ++ statements') := by
  intro more others hmore
  rw [List.append_assoc, List.append_assoc]
  exact h _ _ (h' more others hmore)

/-- A line that is read on its own. -/
theorem ofLine (found : Option Statement) (hne : written ≠ [])
    (h : ∀ more, Reads line (written ++ more) (some found) more) :
    Says written found.toList := by
  intro more others hmore
  obtain ⟨lines, mid, hread, hlines⟩ := hmore.of_bind
  cases hlines
  refine .bind (.collect_more (h more) ?_ hread) ?_
  · rw [List.length_append]
    exact Nat.lt_add_of_pos_left (List.length_pos_iff.2 hne)
  · cases found <;> exact .pure _ []

/-- **The statements of a document.** -/
theorem all (h : Says written statements) : lines.all? written = some statements := by
  have hend : Reads lines [] [] [] := .bind (.collect_done rfl) (.pure [] [])
  have hread := h [] [] hend
  rw [List.append_nil, List.append_nil] at hread
  exact hread.all?

/-- A document that has no mark says what its text says. -/
theorem read? (h : Says written statements) (hmark : Stops (· == byteOrderMark) written) :
    Toml.read? (String.ofList written) = assemble? statements := by
  have hwithout : withoutMark written = written := by
    cases written with
    | nil => rfl
    | cons c written => exact if_neg (by simpa [stops_cons] using hmark)
  rw [Toml.read?, String.toList_ofList, hwithout, h.all]
  rfl

end Says

/-- A line that says nothing. -/
theorem says_blank : Says ['\n'] [] := by
  refine .ofLine none (List.cons_ne_nil _ _) (fun more => ?_)
  refine .bind (.skipWhile_nothing (stops_cons.2 rfl)) (.bind .atEnd (.bind .peek ?_))
  exact .bind (reads_lineEnd more) (.pure _ more)

section lines

variable {name : List Char}

/-- **A header is read back.** -/
theorem says_header {names : List (List Char)} (h : ∀ part ∈ name :: names, IsBare part)
    (hlength : names.length < depthLimit) :
    Says ('[' :: (name ++ (dotted names ++ [']', '\n'])))
      [.header ((name :: names).map String.ofList)] := by
  have hname : IsBare name := h name List.mem_cons_self
  refine .ofLine (some _) (List.cons_ne_nil _ _) (fun more => ?_)
  have hkey : Reads key (name ++ ([] ++ (dotted names ++ ([']'] ++ '\n' :: more))))
      ((name :: names).map String.ofList) ([']'] ++ '\n' :: more) :=
    reads_key h hlength (fun c hc => absurd hc List.not_mem_nil) (stops_cons.2 rfl)
  have hlist : ¬ ['[', '['] <+: '[' :: (name ++ (dotted names ++ ([']'] ++ '\n' :: more))) := by
    rintro ⟨tail, heq⟩
    refine (hname.stops (d := '[') rfl (dotted names ++ ([']'] ++ '\n' :: more))).head?_ne ?_
    rw [← (List.cons.inj heq).2]
    rfl
  simp only [List.cons_append, List.append_assoc]
  refine .bind (.skipWhile_nothing (stops_cons.2 rfl)) (.bind .atEnd (.bind .peek ?_))
  refine .bind (.bind (.acceptAll_other hlist) ?_) (.bind (reads_lineEnd more) (.pure _ more))
  exact .bind .expect (.bind hkey (.bind .expect (.pure _ _)))

/-- **An assignment is read back.** -/
theorem says_assignment {written : List Char} {node : Node} (hname : IsBare name)
    (h : IsWritten written node) :
    Says (name ++ [' ', '=', ' '] ++ written ++ ['\n'])
      [.assignment [String.ofList name] node] := by
  refine .ofLine (some _) (by simp) (fun more => ?_)
  have hkey : Reads key (name ++ ([' '] ++ (dotted [] ++ (['='] ++ ([' '] ++
      (written ++ '\n' :: more)))))) [String.ofList name] _ :=
    reads_key (List.forall_mem_singleton.2 hname) (by decide) (List.forall_mem_singleton.2 rfl)
      (stops_cons.2 rfl)
  have hassignment : Reads (assignment (value depthLimit)) _ ([String.ofList name], node) _ :=
    hkey.bind (.bind .expect (.bind
      (.skipWhile (List.forall_mem_singleton.2 rfl) (h.starts.append h.ne_nil ('\n' :: more)))
      (.bind (h.reads more) (.pure _ _))))
  have hother (d : Char) (hd : isBareChar d = false) : (name ++ ([' '] ++ (dotted [] ++ (['='] ++
      ([' '] ++ (written ++ '\n' :: more)))))).head? ≠ some d := (hname.stops hd _).head?_ne
  rw [show name ++ [' ', '=', ' '] ++ written ++ ['\n'] ++ more = name ++ ([' '] ++ (dotted [] ++
    (['='] ++ ([' '] ++ (written ++ '\n' :: more))))) by simp [dotted]]
  refine .bind (.skipWhile_nothing (hname.stops_isBlank _)) (.bind .atEnd ?_)
  rw [if_neg (by simp [hname.ne_nil])]
  refine .bind .peek ?_
  -- a bare name starts no other kind of line
  split
  · exact absurd ‹_› (hother '#' rfl)
  · exact absurd ‹_› (hother '\n' rfl)
  · exact absurd ‹_› (hother '\x0d' rfl)
  · exact absurd ‹_› (hother '[' rfl)
  · exact .bind hassignment (.bind (reads_lineEnd more) (.pure _ more))

end lines

end Toml

end FrameShader
