/-
Values of TOML documents are read back.

Numbers are written in decimal digits without leading zeros, and lists on several lines with a comma
after each item.  A token of digits could be the beginning of a point in time, so it has to be shown
that it is none.

Main definitions:

* `FrameShader.Toml.IsNumeral` — decimal digits without leading zeros;
* `FrameShader.Toml.IsToken` — characters that are read as a scalar.

Main results:

* `FrameShader.Toml.integer?_toDigits` — a number is read back from its digits;
* `FrameShader.Toml.reads_valueOf_scalar`, `FrameShader.Toml.reads_valueOf_text`,
  `FrameShader.Toml.reads_value_list` — **values are read back**.
-/

import FrameShader.Proofs.Document.Texts

set_option relaxedAutoImplicit false
set_option autoImplicit false

namespace FrameShader

/-! ### Digits -/

theorem digitValue?_of_isDigit {c : Char} (h : c.isDigit = true) :
    digitValue? c = some (c.toNat - '0'.toNat) := by
  rw [Char.isDigit, Bool.and_eq_true, decide_eq_true_eq, decide_eq_true_eq] at h
  exact if_pos h

theorem isDigit_of_isDigit {c : Char} (h : c.isDigit = true) : isDigit 10 c = true := by
  rw [isDigit, digitValue?_of_isDigit h]
  rw [Char.isDigit, Bool.and_eq_true, decide_eq_true_eq, decide_eq_true_eq] at h
  have hlast : c.toNat ≤ 57 := h.2
  have hzero : '0'.toNat = 48 := rfl
  simp only [decide_eq_true_eq]
  omega

theorem numberOfDigits_eq {ds : List Char} (h : ∀ c ∈ ds, c.isDigit = true) (start : Nat) :
    ds.foldl (fun n d => 10 * n + (digitValue? d).getD 0) start = Nat.ofDigitChars 10 ds start := by
  induction ds generalizing start with
  | nil => rfl
  | cons d ds ih =>
      obtain ⟨hd, hds⟩ := List.forall_mem_cons.1 h
      rw [List.foldl_cons, digitValue?_of_isDigit hd, ih hds]
      rfl

namespace Toml

open Scan

/-- Decimal digits, of which the first is a zero only if it is alone. -/
structure IsNumeral (ds : List Char) : Prop where
  digits : ∀ c ∈ ds, c.isDigit = true
  ne_nil : ds ≠ []
  lead : ∀ rest, ds = '0' :: rest → rest = []

theorem head?_toDigits {n : Nat} (h : n ≠ 0) : (Nat.toDigits 10 n).head? ≠ some '0' := by
  have hsmall : ∀ n < 10, n ≠ 0 → n.digitChar ≠ '0' := by decide
  induction n using Nat.strongRecOn with
  | ind n ih =>
      by_cases hlt : n < 10
      · rw [Nat.toDigits_of_lt_base hlt]
        simpa using hsmall n hlt h
      · rw [Nat.toDigits_eq_if (by decide), if_neg hlt,
          List.head?_append_of_ne_nil _ Nat.toDigits_ne_nil]
        exact ih (n / 10) (by omega) (by omega)

theorem isNumeral_toDigits (n : Nat) : IsNumeral (Nat.toDigits 10 n) where
  digits c := Nat.isDigit_of_mem_toDigits (by decide) (by decide)
  ne_nil := Nat.toDigits_ne_nil
  lead rest h := by
    by_cases hzero : n = 0
    · subst hzero
      exact (List.cons.inj h).2.symm
    · exact absurd (by rw [h]; rfl) (head?_toDigits hzero)

namespace IsNumeral

variable {ds : List Char}

/-- The digits are read where no more of them come after. -/
theorem reads_groupedDigits (h : IsNumeral ds) {rest : List Char}
    (hrest : Stops (fun c => c == '_' || isDigit 10 c) rest) :
    Reads (groupedDigits 10) (ds ++ rest) ds rest := by
  obtain ⟨d, ds, rfl⟩ := List.exists_cons_of_ne_nil h.ne_nil
  obtain ⟨hd, hds⟩ := List.forall_mem_cons.1 h.digits
  refine .bind (.satisfy (isDigit_of_isDigit hd)) (.bind ?_ (.pure (d :: ds) rest))
  refine Reads.collect_chars (fun c hc more => ?_) ?_
  · refine .bind (.accept_other (stops_cons.2 (beq_of_not (hds c hc) rfl))) (.bind .peek ?_)
    show Reads (if isDigit 10 c then some <$> next else pure none) (c :: more) (some c) more
    rw [if_pos (isDigit_of_isDigit (hds c hc))]
    exact Reads.next.map some
  · cases rest with
    | nil => rfl
    | cons c rest =>
        simp only [stops_cons, Bool.or_eq_false_iff] at hrest
        refine .bind (.accept_other (stops_cons.2 hrest.1)) (.bind .peek ?_)
        show Reads (if isDigit 10 c then some <$> next else pure none) (c :: rest) none (c :: rest)
        rw [if_neg (by simp [hrest.2])]
        exact .pure none _

/-- There is no sign, and the first digit is no zero before others. -/
theorem reads_decimalDigits (h : IsNumeral ds) : Reads decimalDigits ds (false, ds) [] := by
  obtain ⟨d, ds, rfl⟩ := List.exists_cons_of_ne_nil h.ne_nil
  have hd : d.isDigit = true := h.digits d List.mem_cons_self
  have hsign (c : Char) (hc : c.isDigit = false) : Stops (· == c) (d :: ds) :=
    stops_cons.2 (beq_of_not hd hc)
  have hdigits := h.reads_groupedDigits (stops_nil _)
  rw [List.append_nil] at hdigits
  refine .bind (.bind (.accept_other (hsign '-' rfl))
    (.bind (.accept_other (hsign '+' rfl)) (.pure false _))) (.bind hdigits ?_)
  split
  · rename_i heq
    obtain ⟨rfl, rfl⟩ := List.cons.inj heq
    cases h.lead _ rfl
  · exact .pure _ []

theorem integer?_eq (h : IsNumeral ds)
    (hsize : (numberOfDigits 10 ds : Int) ≤ Int64.maxValue.toInt) :
    integer? ds = some (numberOfDigits 10 ds : Int) := by
  have hread : Reads decimalInteger ds (numberOfDigits 10 ds : Int) [] :=
    h.reads_decimalDigits.bind (.pure _ [])
  have hmark (c : Char) (hc : c.isDigit = false) (rest : List Char) : ds ≠ '0' :: c :: rest := by
    rintro rfl
    have := h.digits c (List.mem_cons_of_mem _ List.mem_cons_self)
    rw [hc] at this
    cases this
  unfold integer?
  split
  · exact absurd rfl (hmark 'x' rfl _)
  · exact absurd rfl (hmark 'o' rfl _)
  · exact absurd rfl (hmark 'b' rfl _)
  · rw [hread.all?]
    refine if_pos ⟨?_, hsize⟩
    exact Int.le_trans (by decide) (Int.natCast_nonneg _)

end IsNumeral

/-- **A number is read back from its digits**, if it has at most 32 bits. -/
theorem integer?_toDigits {n : Nat} (h : n < UInt32.size) :
    integer? (Nat.toDigits 10 n) = some (n : Int) := by
  have hnumber : numberOfDigits 10 (Nat.toDigits 10 n) = n := by
    rw [numberOfDigits, numberOfDigits_eq (isNumeral_toDigits n).digits]
    exact Nat.ofDigitChars_toDigits (by decide) (by decide)
  have hmax : Int64.maxValue.toInt = 9223372036854775807 := by decide
  have hsize : UInt32.size = 4294967296 := rfl
  rw [(isNumeral_toDigits n).integer?_eq (by omega), hnumber]

/-! ### Tokens -/

theorem suffix_of_paddedNumber {width low high n : Nat} {cs rest : List Char}
    (h : Reads (paddedNumber width low high) cs n rest) : rest <:+ cs := by
  obtain ⟨digits, mid, hdigits, h⟩ := h.of_bind
  dsimp only at h
  split at h <;> cases h
  exact hdigits.suffix_of_takeExactly

section tokens

variable {token rest : List Char} {node : Node}

/-- What has no hyphens is no date. -/
theorem date_eq_none (h : '-' ∉ token) : date.all? token = none := by
  have hno (u : Unit) (left : List Char) : ¬ Reads date token u left := by
    intro hdate
    obtain ⟨year, mid, hyear, hdate⟩ := hdate.of_bind
    obtain ⟨_, mid', hhyphen, -⟩ := hdate.of_bind
    refine h ((suffix_of_paddedNumber hyear).subset ?_)
    rw [hhyphen.of_expect]
    exact List.mem_cons_self
  unfold all?
  split
  · rename_i hread
    exact absurd hread (hno _ _)
  · rfl

/-- Characters that are read as a scalar, which is no date. -/
structure IsToken (token : List Char) (node : Node) : Prop where
  chars : ∀ c ∈ token, isTokenChar c = true
  ne_nil : token ≠ []
  hyphen : '-' ∉ token
  scalar : scalarOf? token = some node

theorem isToken_bool (b : Bool) : IsToken (if b then "true" else "false").toList (.bool b) where
  chars := List.all_eq_true.1 (by cases b <;> decide)
  ne_nil := by cases b <;> decide
  hyphen := by cases b <;> decide
  scalar := by cases b <;> rfl

theorem isToken_toDigits {n : Nat} (h : n < UInt32.size) : IsToken (Nat.toDigits 10 n) (.int n) := by
  have hdigits := (isNumeral_toDigits n).digits
  have hother (c : Char) (hc : c.isDigit = false) : c ∉ Nat.toDigits 10 n := by
    intro hmem
    rw [hdigits c hmem] at hc
    cases hc
  refine ⟨fun c hc => ?_, Nat.toDigits_ne_nil, hother '-' rfl, ?_⟩
  · simp [isTokenChar, Char.isAlphanum, hdigits c hc]
  · have htrue : Nat.toDigits 10 n ≠ ['t', 'r', 'u', 'e'] := by
      intro heq
      exact hother 't' rfl (heq ▸ List.mem_cons_self)
    have hfalse : Nat.toDigits 10 n ≠ ['f', 'a', 'l', 's', 'e'] := by
      intro heq
      exact hother 'f' rfl (heq ▸ List.mem_cons_self)
    rw [scalarOf?, if_neg htrue, if_neg hfalse, integer?_toDigits h]

/-! ### Values -/

theorem reads_scalar (h : IsToken token node) (hrest : Stops isTokenChar rest) :
    Reads scalar (token ++ rest) node rest := by
  refine .bind (.takeWhile1 h.chars h.ne_nil hrest) ?_
  rw [date_eq_none h.hyphen, h.scalar]
  exact .pure node rest

/-- At each depth a value is read in the same way, apart from what follows a bracket or a brace. -/
theorem value_eq_valueOf (depth : Nat) : ∃ list table, value depth = valueOf list table := by
  cases depth <;> exact ⟨_, _, rfl⟩

/-- **A scalar is read back.** -/
theorem reads_value_scalar (depth : Nat) (h : IsToken token node) (hrest : Stops isTokenChar rest) :
    Reads (value depth) (token ++ rest) node rest := by
  obtain ⟨list, table, hvalue⟩ := value_eq_valueOf depth
  rw [hvalue]
  refine .bind .peek ?_
  have hother (d : Char) (hd : isTokenChar d = false) : (token ++ rest).head? ≠ some d :=
    ((stops_other h.chars hd).append h.ne_nil rest).head?_ne
  split
  · exact absurd ‹_› (hother '"' rfl)
  · exact absurd ‹_› (hother '\'' rfl)
  · exact absurd ‹_› (hother '[' rfl)
  · exact absurd ‹_› (hother '\x7b' rfl)
  · exact reads_scalar h hrest

end tokens

/-- A text in its written form begins with a quote. -/
theorem writeText_eq_cons (cs : List Char) :
    ∃ more, writeText cs = '"' :: more ∨ writeText cs = '\'' :: more := by
  have hshort (quote : Char) (body : List Char) : ∃ more, between quote body = quote :: more :=
    ⟨_, rfl⟩
  have hlong (quote : Char) (hasLines : Bool) (body : List Char) :
      ∃ more, betweenLong quote hasLines body = quote :: more := ⟨_, rfl⟩
  unfold writeText
  dsimp only
  split_ifs
  · exact (hshort _ _).imp fun _ => .inl
  · exact (hshort _ _).imp fun _ => .inr
  · exact (hlong _ _ _).imp fun _ => .inl
  · exact (hlong _ _ _).imp fun _ => .inr
  · exact (hlong _ _ _).imp fun _ => .inl
  · exact (hshort _ _).imp fun _ => .inl

/-- **A text is read back.** -/
theorem reads_value_text (depth : Nat) {cs written rest : List Char}
    (hquote : ∃ more, written = '"' :: more ∨ written = '\'' :: more)
    (h : Reads text (written ++ rest) cs rest) :
    Reads (value depth) (written ++ rest) (.text (String.ofList cs)) rest := by
  obtain ⟨list, table, hvalue⟩ := value_eq_valueOf depth
  rw [hvalue]
  obtain ⟨more, rfl | rfl⟩ := hquote
  · exact .bind .peek (h.bind (.pure _ rest))
  · exact .bind .peek (h.bind (.pure _ rest))

/-! ### Lists -/

/-- Whether a character may begin what stands between the items of a list. -/
def startsGap (c : Char) : Bool := isBlank c || c == '#' || c == '\n' || c == '\r'

section lists

variable {rest : List Char}

theorem stops_of_startsGap (h : Stops startsGap rest) : Stops isBlank rest ∧ Stops (· == '#') rest ∧
    Stops (fun c => c == '\n' || c == '\r') rest := by
  obtain ⟨hrest, hreturn⟩ := stops_or.1 h
  obtain ⟨hrest, hline⟩ := stops_or.1 hrest
  obtain ⟨hblank, hcomment⟩ := stops_or.1 hrest
  exact ⟨hblank, hcomment, stops_or.2 ⟨hline, hreturn⟩⟩

/-- Nothing stands between two items. -/
theorem reads_gap_nothing (h : Stops startsGap rest) : Reads gap rest () rest := by
  obtain ⟨hblank, hcomment, hline⟩ := stops_of_startsGap h
  refine .bind (.collect_done ?_) (.pure () rest)
  refine .bind (.skipWhile_nothing hblank) ?_
  refine .bind (.bind (.accept_other hcomment) (.pure false rest)) ?_
  exact .bind (reads_newline_other hline) (.pure none rest)

/-- A new line and blanks stand between two items. -/
theorem reads_gap_line {indent : List Char} (hindent : ∀ c ∈ indent, isBlank c = true)
    (h : Stops startsGap rest) : Reads gap ('\n' :: (indent ++ rest)) () rest := by
  obtain ⟨hblank, hcomment, hline⟩ := stops_of_startsGap h
  refine .bind (a := [()])
    (.collect_more ?_ (Nat.lt_succ_self (indent ++ rest).length) (.collect_done ?_)) (.pure () rest)
  · refine .bind (.skipWhile_nothing (stops_cons.2 rfl)) ?_
    refine .bind (.bind (.accept_other (stops_cons.2 rfl)) (.pure false _)) ?_
    exact .bind reads_newline (.pure (some ()) _)
  · refine .bind (.skipWhile hindent hblank) ?_
    refine .bind (.bind (.accept_other hcomment) (.pure false rest)) ?_
    exact .bind (reads_newline_other hline) (.pure none rest)

/-- What ends each piece may as well begin the next. -/
theorem flatMap_shift {ι : Type} (first last : ι → List Char) (x : ι) (xs : List ι)
    (hlast : ∀ y z, last y = last z) (tail : List Char) :
    (x :: xs).flatMap (fun y => first y ++ last y) ++ tail =
      first x ++ (xs.flatMap (fun y => last y ++ first y) ++ (last x ++ tail)) := by
  induction xs generalizing x with
  | nil => simp
  | cons y xs ih =>
      rw [List.flatMap_cons, List.append_assoc, ih, List.flatMap_cons, hlast y x]
      simp only [List.append_assoc]

variable {ι : Type} {value : Scan Node} (write : ι → List Char) (found : ι → Node) {x : ι}
  {xs : List ι} {indent : List Char}

/-- The items of a list are read back if each stands on a line of its own, with a comma after it. -/
theorem reads_items (hindent : ∀ c ∈ indent, isBlank c = true)
    (hwrite : ∀ y ∈ x :: xs, write y ≠ [] ∧ Stops (fun c => startsGap c || c == ']') (write y))
    (hread : ∀ y ∈ x :: xs, ∀ more, more.head? = some ',' →
      Reads value (write y ++ more) (found y) more) :
    Reads (items value)
      ('\n' :: ((x :: xs).flatMap (fun y => indent ++ write y ++ [',', '\n']) ++ ']' :: rest))
      ((x :: xs).map found) rest := by
  have hitem (y : ι) (hy : y ∈ x :: xs) (more : List Char) :
      Stops startsGap (write y ++ more) ∧ Stops (· == ']') (write y ++ more) :=
    stops_or.1 ((hwrite y hy).2.append (hwrite y hy).1 more)
  -- an item is read together with the comma before it
  have hcomma (more : List Char) (hmore : more.head? = some ',') :
      Reads gap more () more ∧ Reads (accept ']') more false more := by
    obtain ⟨more, rfl⟩ := List.head?_eq_some_iff.1 hmore
    exact ⟨reads_gap_nothing (stops_cons.2 rfl), .accept_other (stops_cons.2 rfl)⟩
  rw [flatMap_shift (fun y => indent ++ write y) (fun _ => [',', '\n']) x xs fun _ _ => rfl]
  have hgoesOn : (xs.flatMap (fun y => [',', '\n'] ++ (indent ++ write y)) ++
      ([',', '\n'] ++ ']' :: rest)).head? = some ',' := by
    cases xs <;> rfl
  obtain ⟨hx, hxs⟩ := List.forall_mem_cons.1 hread
  rw [List.append_assoc]
  refine .bind (reads_gap_line hindent (hitem x List.mem_cons_self _).1) ?_
  refine .bind (.accept_other (hitem x List.mem_cons_self _).2) ?_
  refine .bind (hx _ hgoesOn) (.bind ?_ (.pure _ rest))
  refine .collect_pieces (fun more => more.head? = some ',') _ found
    (fun _ _ => List.cons_ne_nil _ _) (fun _ _ _ => rfl) (fun y hy more hmore => ?_) rfl ?_
  · obtain ⟨hgap, hbracket⟩ := hitem y (List.mem_cons_of_mem x hy) more
    show Reads _ ([','] ++ '\n' :: (indent ++ write y ++ more)) _ _
    rw [List.append_assoc indent]
    refine .bind (hcomma _ rfl).1 (.bind (hcomma _ rfl).2 (.bind .expect ?_))
    refine .bind (reads_gap_line hindent hgap) (.bind (.accept_other hbracket) ?_)
    exact (hxs y hy more hmore).map some
  · refine .bind (hcomma _ rfl).1 (.bind (hcomma _ rfl).2 (.bind .expect ?_))
    refine .bind (reads_gap_line (fun _ h => absurd h List.not_mem_nil) (stops_cons.2 rfl)) ?_
    exact .bind .accept_same (.pure none rest)

/-- **A list is read back.** -/
theorem reads_value_list {depth : Nat} {written : List Char} {nodes : List Node}
    (h : Reads (items (Toml.value depth)) written nodes rest) :
    Reads (Toml.value (depth + 1)) ('[' :: written) (.list nodes) rest :=
  .bind .peek (.bind .next (h.map Node.list))

end lists

/-! ### Values at the end of a line -/

/-- Characters that are read as a value at the end of a line. -/
structure IsWritten (written : List Char) (node : Node) : Prop where
  ne_nil : written ≠ []
  starts : Stops isBlank written
  reads : ∀ more, Reads (value depthLimit) (written ++ '\n' :: more) node ('\n' :: more)

theorem IsToken.isWritten {token : List Char} {node : Node} (h : IsToken token node) :
    IsWritten token node where
  ne_nil := h.ne_nil
  starts := stops_written h.chars fun c hc => by
    rw [isBlank, beq_of_not hc rfl, beq_of_not hc rfl]
    rfl
  reads more := reads_value_scalar depthLimit h (stops_cons.2 rfl)

/-- A text in its written form. -/
theorem isWritten_text (cs : List Char) : IsWritten (writeText cs) (.text (String.ofList cs)) := by
  obtain ⟨more, hquote⟩ := writeText_eq_cons cs
  refine ⟨?_, ?_, fun more => ?_⟩
  · rcases hquote with h | h <;> rw [h] <;> exact List.cons_ne_nil _ _
  · rcases hquote with h | h <;> rw [h] <;> exact stops_cons.2 rfl
  · exact reads_value_text depthLimit ⟨_, hquote⟩ (reads_text (stops_cons.2 rfl))

/-- A list of scalars, each on a line of its own. -/
theorem isWritten_list {ι : Type} (write : ι → List Char) (found : ι → Node) {x : ι} {xs : List ι}
    {indent : List Char} (hindent : ∀ c ∈ indent, isBlank c = true)
    (h : ∀ y ∈ x :: xs, IsToken (write y) (found y)) :
    IsWritten
      ('[' :: '\n' :: ((x :: xs).flatMap (fun y => indent ++ write y ++ [',', '\n']) ++ [']']))
      (.list ((x :: xs).map found)) where
  ne_nil := List.cons_ne_nil _ _
  starts := stops_cons.2 rfl
  reads more := by
    have hstarts (c : Char) (hc : isTokenChar c = true) : (startsGap c || c == ']') = false := by
      simp only [startsGap, isBlank, Bool.or_eq_false_iff]
      exact ⟨⟨⟨⟨⟨beq_of_not hc rfl, beq_of_not hc rfl⟩, beq_of_not hc rfl⟩, beq_of_not hc rfl⟩,
        beq_of_not hc rfl⟩, beq_of_not hc rfl⟩
    rw [List.cons_append, List.cons_append, List.append_assoc]
    refine reads_value_list (reads_items write found hindent (fun y hy => ?_)
      fun y hy more hmore => ?_)
    · exact ⟨(h y hy).ne_nil, stops_written (h y hy).chars hstarts⟩
    · obtain ⟨more, rfl⟩ := List.head?_eq_some_iff.1 hmore
      exact reads_value_scalar _ (h y hy) (stops_cons.2 rfl)

end Toml

end FrameShader
