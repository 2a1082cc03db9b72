/-
Scanning what has been written.

A scanner is described by what it gives and what it leaves: each of the rules below says this for one
of the scanners that the others are made of.  Scanners that look ahead need to know how the rest goes
on; most of the time it is enough that it does not begin with certain characters.

Main definitions:

* `FrameShader.Scan.Reads` — what a scanner gives, and what it leaves;
* `FrameShader.Scan.Stops` — a text that does not go on with certain characters.

Main results:

* `FrameShader.Scan.Reads.bind` — scanners one after the other;
* `FrameShader.Scan.Reads.of_bind` — what each of two scanners must have found;
* `FrameShader.Scan.Reads.collect_done`, `FrameShader.Scan.Reads.collect_more` — **repeating a scanner**;
* `FrameShader.Scan.Reads.collect_pieces`, `FrameShader.Scan.Reads.collect_flatMap` — repeating a
  scanner over what was written piece by piece.
-/

import FrameShader.Text.Scan
import Mathlib.Data.List.Basic

set_option relaxedAutoImplicit false
set_option autoImplicit false

namespace FrameShader

namespace Scan

variable {α β : Type}

/-- From the text `cs` the scanner reads `a` and leaves `rest`. -/
def Reads (scan : Scan α) (cs : List Char) (a : α) (rest : List Char) : Prop :=
  scan cs = some (a, rest)

/-- The text does not begin with a character that satisfies `p`. -/
def Stops (p : Char → Bool) (cs : List Char) : Prop := ∀ c ∈ cs.head?, p c = false

theorem stops_nil (p : Char → Bool) : Stops p [] := fun _ h => nomatch h

theorem stops_cons {p : Char → Bool} {c : Char} {cs : List Char} :
    Stops p (c :: cs) ↔ p c = false := by simp [Stops]

theorem stops_or {p q : Char → Bool} {cs : List Char} :
    Stops (fun c => p c || q c) cs ↔ Stops p cs ∧ Stops q cs := by
  simp only [Stops, Bool.or_eq_false_iff, imp_and, forall_and]

/-- What comes after the first character does not matter. -/
theorem Stops.append {p : Char → Bool} {cs : List Char} (h : Stops p cs) (hne : cs ≠ [])
    (more : List Char) : Stops p (cs ++ more) := by
  cases cs with
  | nil => exact absurd rfl hne
  | cons c cs => exact h

/-- Characters that satisfy `p` are no others. -/
theorem beq_of_not {p : Char → Bool} {c d : Char} (hc : p c = true) (hd : p d = false) :
    (c == d) = false := by
  refine beq_eq_false_iff_ne.2 ?_
  rintro rfl
  rw [hc] at hd
  cases hd

/-- A text of characters that satisfy `p` begins with no others. -/
theorem stops_written {p q : Char → Bool} {written : List Char} (h : ∀ c ∈ written, p c = true)
    (hq : ∀ c, p c = true → q c = false) : Stops q written :=
  fun c hc => hq c (h c (List.mem_of_mem_head? hc))

theorem stops_other {p : Char → Bool} {written : List Char} (h : ∀ c ∈ written, p c = true)
    {d : Char} (hd : p d = false) : Stops (· == d) written :=
  stops_written h fun _ hc => beq_of_not hc hd

theorem Stops.head?_ne {d : Char} {cs : List Char} (h : Stops (· == d) cs) : cs.head? ≠ some d :=
  fun heq => absurd (h d heq) (by simp)

namespace Reads

/-! ### One after the other -/

theorem pure (a : α) (cs : List Char) : Reads (Pure.pure a) cs a cs := rfl

/-- One scanner after another. -/
theorem bind {scan : Scan α} {next : α → Scan β} {cs mid rest : List Char} {a : α} {b : β}
    (h : Reads scan cs a mid) (hnext : Reads (next a) mid b rest) :
    Reads (scan >>= next) cs b rest := by
  unfold Reads at h hnext ⊢
  show (scan cs >>= fun p => next p.1 p.2) = some (b, rest)
  rw [h]
  exact hnext

/-- Rephrasing what was read. -/
theorem map {scan : Scan α} (f : α → β) {cs rest : List Char} {a : α} (h : Reads scan cs a rest) :
    Reads (f <$> scan) cs (f a) rest := by
  rw [← bind_pure_comp]
  exact h.bind (pure (f a) rest)

theorem all? {scan : Scan α} {cs : List Char} {a : α} (h : Reads scan cs a []) :
    scan.all? cs = some a := by
  rw [Scan.all?, h]

/-! ### Characters -/

variable {p : Char → Bool} {c : Char} {cs written rest : List Char}

theorem next : Reads Scan.next (c :: cs) c cs := rfl

theorem peek : Reads Scan.peek cs cs.head? cs := rfl

theorem atEnd : Reads Scan.atEnd cs cs.isEmpty cs := rfl

theorem accept_same : Reads (accept c) (c :: cs) true cs := if_pos rfl

/-- A character that does not come next. -/
theorem accept_other (h : Stops (· == c) cs) : Reads (accept c) cs false cs := by
  cases cs with
  | nil => rfl
  | cons d cs => exact if_neg (by simpa [stops_cons] using h)

theorem acceptAll_same : Reads (acceptAll written) (written ++ rest) true rest := by
  rw [Reads, acceptAll, if_pos (List.isPrefixOf_iff_prefix.2 (List.prefix_append written rest)),
    List.drop_left]

/-- Characters that do not come next. -/
theorem acceptAll_other (h : ¬ written <+: cs) : Reads (acceptAll written) cs false cs :=
  if_neg fun hprefix => h (List.isPrefixOf_iff_prefix.1 hprefix)

/-- Characters that do not come next, since the first does not. -/
theorem acceptAll_stops (h : Stops (· == c) cs) : Reads (acceptAll (c :: written)) cs false cs := by
  refine acceptAll_other ?_
  rintro ⟨rest, rfl⟩
  exact absurd (stops_cons.1 h) (by simp)

theorem expect : Reads (expect written) (written ++ rest) () rest := acceptAll_same.bind (pure () rest)

theorem satisfy (h : p c = true) : Reads (satisfy p) (c :: cs) c cs := by
  refine next.bind ?_
  rw [if_pos h]
  exact pure c cs

/-- Characters that satisfy `p` end where the text stops with them. -/
theorem span_written (h : ∀ c ∈ written, p c = true) (hrest : Stops p rest) :
    (written ++ rest).takeWhile p = written ∧ (written ++ rest).dropWhile p = rest := by
  have hstop : rest.takeWhile p = [] ∧ rest.dropWhile p = rest := by
    cases rest with
    | nil => exact ⟨rfl, rfl⟩
    | cons c rest => simp [stops_cons.1 hrest]
  rw [List.takeWhile_append_of_pos h, List.dropWhile_append_of_pos h, hstop.1, hstop.2,
    List.append_nil]
  exact ⟨rfl, rfl⟩

theorem takeWhile (h : ∀ c ∈ written, p c = true) (hrest : Stops p rest) :
    Reads (takeWhile p) (written ++ rest) written rest := by
  rw [Reads, Scan.takeWhile, (span_written h hrest).1, (span_written h hrest).2]

theorem takeWhile1 (h : ∀ c ∈ written, p c = true) (hne : written ≠ []) (hrest : Stops p rest) :
    Reads (takeWhile1 p) (written ++ rest) written rest := by
  refine (takeWhile h hrest).bind ?_
  rw [if_neg (by simpa using hne)]
  exact pure written rest

theorem skipWhile (h : ∀ c ∈ written, p c = true) (hrest : Stops p rest) :
    Reads (skipWhile p) (written ++ rest) () rest := by
  rw [Reads, Scan.skipWhile, (span_written h hrest).2]

/-- Nothing to pass over. -/
theorem skipWhile_nothing (hrest : Stops p rest) : Reads (Scan.skipWhile p) rest () rest :=
  show Reads (Scan.skipWhile p) ([] ++ rest) () rest from
    skipWhile (fun _ h => absurd h List.not_mem_nil) hrest

theorem takeExactly (h : ∀ c ∈ written, p c = true) :
    Reads (takeExactly p written.length) (written ++ rest) written rest := by
  induction written with
  | nil => exact pure [] rest
  | cons c cs ih =>
      obtain ⟨hc, hcs⟩ := List.forall_mem_cons.1 h
      exact (satisfy hc).bind ((ih hcs).bind (pure (c :: cs) rest))

/-! ### What a scanner must have found -/

theorem of_bind {scan : Scan α} {next : α → Scan β} {cs rest : List Char} {b : β}
    (h : Reads (scan >>= next) cs b rest) :
    ∃ a mid, Reads scan cs a mid ∧ Reads (next a) mid b rest := by
  obtain ⟨found, hscan, hnext⟩ := Option.bind_eq_some_iff.1 h
  exact ⟨found.1, found.2, hscan, hnext⟩

theorem of_expect {u : Unit} (h : Reads (Scan.expect written) cs u rest) : cs = written ++ rest := by
  obtain ⟨expected, mid, hread, hrest⟩ := of_bind h
  clear h
  unfold Reads acceptAll at hread
  split at hread
  · rename_i hprefix
    obtain ⟨more, rfl⟩ := List.isPrefixOf_iff_prefix.1 hprefix
    rw [List.drop_left] at hread
    cases hread
    cases hrest
    rfl
  · cases hread
    cases hrest

theorem of_satisfy (h : Reads (Scan.satisfy p) cs c rest) : cs = c :: rest := by
  cases cs with
  | nil => cases h
  | cons d cs =>
      obtain ⟨d', mid, hread, hrest⟩ := of_bind h
      clear h
      cases hread
      split at hrest <;> cases hrest
      rfl

/-- Characters that are read one by one leave the end of the text. -/
theorem suffix_of_takeExactly {n : Nat} (h : Reads (Scan.takeExactly p n) cs written rest) :
    rest <:+ cs := by
  induction n generalizing cs written with
  | zero =>
      cases h
      exact List.suffix_rfl
  | succ n ih =>
      obtain ⟨c, mid, hfirst, hrest⟩ := of_bind h
      obtain ⟨more, left, hmore, hrest⟩ := of_bind hrest
      cases hrest
      rw [of_satisfy hfirst]
      exact (ih hmore).trans (List.suffix_cons c mid)

/-! ### Repetition -/

variable {step : Scan (Option α)} {a : α} {as : List α} {mid : List Char}

theorem collect_done (h : Reads step cs none rest) : Reads (collect step) cs [] rest := by
  unfold Reads at h ⊢
  rw [collect, h]

/-- The step reads something, and is then repeated. -/
theorem collect_more (h : Reads step cs (some a) mid) (hshort : mid.length < cs.length)
    (hmore : Reads (collect step) mid as rest) : Reads (collect step) cs (a :: as) rest := by
  unfold Reads at h hmore ⊢
  rw [collect, h]
  simp only [if_pos hshort, hmore, Option.map_some]

/-- **Repeating a scanner over what was written piece by piece.**  To read a piece, the scanner may
demand that the text goes on in a certain way. -/
theorem collect_pieces {ι : Type} (goesOn : List Char → Prop) (write : ι → List Char)
    (found : ι → α) {xs : List ι} (hwrite : ∀ x ∈ xs, write x ≠ [])
    (hgoesOn : ∀ x ∈ xs, ∀ more, goesOn (write x ++ more))
    (hstep : ∀ x ∈ xs, ∀ more, goesOn more → Reads step (write x ++ more) (some (found x)) more)
    {tail : List Char} (htail : goesOn tail) (hdone : Reads step tail none rest) :
    Reads (collect step) (xs.flatMap write ++ tail) (xs.map found) rest := by
  induction xs with
  | nil => exact collect_done hdone
  | cons x xs ih =>
      obtain ⟨hx, hxs⟩ := List.forall_mem_cons.1 hwrite
      obtain ⟨-, hgoesOn⟩ := List.forall_mem_cons.1 hgoesOn
      obtain ⟨hread, hreads⟩ := List.forall_mem_cons.1 hstep
      have hmore : goesOn (xs.flatMap write ++ tail) := by
        cases xs with
        | nil => exact htail
        | cons y ys =>
            rw [List.flatMap_cons, List.append_assoc]
            exact hgoesOn y List.mem_cons_self _
      rw [List.flatMap_cons, List.append_assoc]
      refine collect_more (hread _ hmore) ?_ (ih hxs hgoesOn hreads)
      rw [List.length_append, List.length_append, List.length_append]
      exact Nat.lt_add_of_pos_left (List.length_pos_iff.2 hx)

/-- Repeating a scanner over what was written piece by piece, however the text goes on. -/
theorem collect_flatMap {ι : Type} (write : ι → List Char) (found : ι → α) {xs : List ι}
    (hwrite : ∀ x ∈ xs, write x ≠ [])
    (hstep : ∀ x ∈ xs, ∀ more, Reads step (write x ++ more) (some (found x)) more)
    {tail : List Char} (hdone : Reads step tail none rest) :
    Reads (collect step) (xs.flatMap write ++ tail) (xs.map found) rest :=
  collect_pieces (fun _ => True) write found hwrite (fun _ _ _ => trivial)
    (fun x hx more _ => hstep x hx more) trivial hdone

/-- Repeating a scanner that reads a character at a time. -/
theorem collect_chars {step : Scan (Option Char)} {tail : List Char}
    (hstep : ∀ c ∈ written, ∀ more, Reads step (c :: more) (some c) more)
    (hdone : Reads step tail none rest) : Reads (collect step) (written ++ tail) written rest := by
  have hread := collect_flatMap (fun c => [c]) (fun c => c) (fun c _ => List.cons_ne_nil c [])
    hstep hdone
  rwa [List.map_id'' (fun _ => rfl), List.flatMap_singleton'] at hread

end Reads

end Scan

end FrameShader
