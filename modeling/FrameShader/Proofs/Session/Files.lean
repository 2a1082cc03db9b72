/-
Files that are written to: what a path leads to, and what is read there after writing.

A path that has been opened for writing leads to a file, and goes on leading to it whatever is written:
opening makes a file at most, and writing changes nothing but bytes.  So a file that is opened and
written again and again is read as one would expect, by the open mode of the last time.

Main definitions:

* `FrameShader.FileSystem.Reaches`, `FrameShader.FileSystem.Leads` — a path leads to a place, and to a
  file;
* `FrameShader.FileSystem.Takes` — a path leads to a file, or to a place where one can be made;
* `FrameShader.FileSystem.bytesAt` — what is read at a path, which is nothing if there is no file.

Main results:

* `FrameShader.FileSystem.Takes.exists_opened` — **opening a file to write to**, in both modes;
* `FrameShader.FileSystem.Takes.exists_written` — **opening it, and writing to it at once**;
* `FrameShader.FileSystem.Takes.read_of_save` — what has been saved is read back.
-/

import FrameShader.Session.FileSystem

set_option relaxedAutoImplicit false
set_option autoImplicit false

namespace FrameShader

namespace FileSystem

/-! ### What a path leads to -/

/-- A path leads to this place, which may be that of a file. -/
structure Reaches (fs : FileSystem) (cwd : Location) (path : List UInt8) (l : Location) : Prop where
  walk : ∃ parent last, fs.walk cwd path = .ok (parent, last) ∧ standsForDirectory last = false ∧
    fs.place parent last = .ok l
  noDirectory : fs.isDirectory l = false
  noSlash : endsInSlash path = false

/-- A path leads to the file with this number. -/
def Leads (fs : FileSystem) (cwd : Location) (path : List UInt8) (number : Nat) : Prop :=
  ∃ l, fs.Reaches cwd path l ∧ fs.entry? l = some (.regular number)

/-- A path leads to a file, or to a place where one can be made. -/
def Takes (fs : FileSystem) (cwd : Location) (path : List UInt8) : Prop :=
  ∃ number opened, fs.openForWriting cwd path true = .ok (.appending number, opened)

/-- What is read at a path; where nothing can be read, there is nothing. -/
def bytesAt (fs : FileSystem) (cwd : Location) (path : List UInt8) : List UInt8 :=
  match fs.read cwd path with
  | .ok bytes => bytes
  | .error _ => []

variable {fs : FileSystem} {cwd : Location} {path : List UInt8} {number : Nat} {l : Location}

namespace Reaches

/-- Where a path leads does not depend on what files hold. -/
theorem setContent (h : fs.Reaches cwd path l) (other : Nat) (bytes : List UInt8) :
    (fs.setContent other bytes).Reaches cwd path l := ⟨h.walk, h.noDirectory, h.noSlash⟩

/-- What is opened is what stands at the place. -/
theorem openForWriting_eq (h : fs.Reaches cwd path l) (append : Bool) :
    fs.openForWriting cwd path append =
      let handle (number : Nat) : WriteHandle :=
        if append then .appending number else .positioned number 0
      match fs.entry? l with
      | some (.regular number) =>
          .ok (handle number, if append then fs else fs.setContent number [])
      | some .null => .ok (.null, fs)
      | some .full => .ok (.full, fs)
      | none => .ok (handle fs.nextNumber, fs.addFile l []) := by
  obtain ⟨parent, last, hwalk, hlast, hplace⟩ := h.walk
  simp only [openForWriting, hwalk, hlast, hplace, h.noDirectory, h.noSlash, bind, Except.bind]
  rcases fs.entry? l with _ | _ | _ | _ <;> rfl

theorem read_eq (h : fs.Reaches cwd path l) : fs.read cwd path =
    match fs.entry? l with
    | none => .error .notFound
    | some (.regular number) => .ok (fs.contentOf number)
    | some .null | some .full => .ok [] := by
  obtain ⟨parent, last, hwalk, hlast, hplace⟩ := h.walk
  simp only [read, hwalk, hlast, hplace, h.noDirectory, h.noSlash, bind, Except.bind]
  rcases fs.entry? l with _ | _ | _ | _ <;> rfl

end Reaches

/-- What can be opened is at a place. -/
theorem exists_reaches {append : Bool} {found : WriteHandle × FileSystem}
    (h : fs.openForWriting cwd path append = .ok found) : ∃ l, fs.Reaches cwd path l := by
  unfold openForWriting at h
  cases hwalk : fs.walk cwd path with
  | error cause =>
    rw [hwalk] at h
    cases h
  | ok parts =>
    obtain ⟨parent, last⟩ := parts
    rw [hwalk] at h
    simp only [bind, Except.bind] at h
    by_cases hname : (standsForDirectory last || endsInSlash path) = true
    · rw [if_pos hname] at h
      cases h
    rw [if_neg hname] at h
    simp only [pure, Except.pure] at h
    cases hplace : fs.place parent last with
    | error cause =>
      rw [hplace] at h
      cases h
    | ok l =>
      rw [hplace] at h
      simp only at h
      by_cases hdirectory : fs.isDirectory l = true
      · rw [if_pos hdirectory] at h
        cases h
      obtain ⟨hlast, hslash⟩ : standsForDirectory last = false ∧ endsInSlash path = false := by
        simpa using hname
      exact ⟨l, ⟨parent, last, hwalk, hlast, hplace⟩, by simpa using hdirectory, hslash⟩

/-! ### Contents -/

@[simp] theorem contentOf_setContent (fs : FileSystem) (number : Nat) (bytes : List UInt8) :
    (fs.setContent number bytes).contentOf number = bytes := by
  simp [contentOf, setContent]

@[simp] theorem contentOf_addFile (fs : FileSystem) (l : Location) (bytes : List UInt8) :
    (fs.addFile l bytes).contentOf fs.nextNumber = bytes := by
  simp [contentOf, addFile]

namespace Leads

theorem setContent (h : fs.Leads cwd path number) (other : Nat) (bytes : List UInt8) :
    (fs.setContent other bytes).Leads cwd path number := by
  obtain ⟨l, hl, hentry⟩ := h
  exact ⟨l, hl.setContent other bytes, hentry⟩

theorem bytesAt_eq (h : fs.Leads cwd path number) : fs.bytesAt cwd path = fs.contentOf number := by
  obtain ⟨l, hl, hentry⟩ := h
  rw [bytesAt, hl.read_eq, hentry]

theorem takes (h : fs.Leads cwd path number) : fs.Takes cwd path := by
  obtain ⟨l, hl, hentry⟩ := h
  refine ⟨number, fs, ?_⟩
  rw [hl.openForWriting_eq, hentry]
  rfl

end Leads

/-! ### A new file -/

theorem enter_addFile {l next : Location} {name : FileName} (h : fs.enter l name = .ok next)
    (place : Location) (bytes : List UInt8) : (fs.addFile place bytes).enter l name = .ok next := by
  unfold enter at h ⊢
  by_cases hstay : name = [] ∨ name = here
  · rwa [if_pos hstay] at h ⊢
  rw [if_neg hstay] at h ⊢
  by_cases hup : name = above
  · rwa [if_pos hup] at h ⊢
  rw [if_neg hup] at h ⊢
  -- What is not a directory does not become one, so only a failure may become another one.
  have hsame (l : Location) : (fs.addFile place bytes).isDirectory l = fs.isDirectory l := rfl
  simp only [hsame]
  by_cases hdirectory : (!fs.isDirectory l) = true
  · rw [if_pos hdirectory] at h
    cases h
  rw [if_neg hdirectory] at h ⊢
  by_cases hlong : nameLimit < name.length
  · rw [if_pos hlong] at h
    cases h
  rw [if_neg hlong] at h ⊢
  by_cases hnext : fs.isDirectory (l ++ [name]) = true
  · simpa [hnext] using h
  · rw [if_neg hnext] at h
    split at h <;> cases h

theorem foldlM_enter_addFile {names : List FileName} {start l : Location}
    (h : names.foldlM fs.enter start = .ok l) (place : Location) (bytes : List UInt8) :
    names.foldlM (fs.addFile place bytes).enter start = .ok l := by
  induction names generalizing start with
  | nil => exact h
  | cons name names ih =>
    rw [List.foldlM_cons] at h ⊢
    cases hnext : fs.enter start name with
    | error cause =>
      rw [hnext] at h
      cases h
    | ok next =>
      rw [hnext] at h
      rw [enter_addFile hnext]
      exact ih h

/-- A path is walked as before when a file is added. -/
theorem walk_addFile {found : Location × FileName} (h : fs.walk cwd path = .ok found)
    (place : Location) (bytes : List UInt8) : (fs.addFile place bytes).walk cwd path = .ok found := by
  unfold walk at h ⊢
  by_cases hzero : path.contains 0 = true
  · rw [if_pos hzero] at h
    cases h
  rw [if_neg hzero] at h ⊢
  by_cases hempty : path.isEmpty = true
  · rw [if_pos hempty] at h
    cases h
  rw [if_neg hempty] at h ⊢
  by_cases hlong : pathLimit < path.length
  · rw [if_pos hlong] at h
    cases h
  rw [if_neg hlong] at h ⊢
  generalize (if path.head? = some 0x2F then [] else cwd) = start at h ⊢
  generalize splitLast (path.reverse.dropWhile (· == 0x2F)).reverse = parts at h ⊢
  obtain ⟨names, last⟩ := parts
  dsimp only at h ⊢
  cases hparent : names.foldlM fs.enter start with
  | error cause =>
    rw [hparent] at h
    cases h
  | ok parent =>
    rw [hparent] at h
    rw [foldlM_enter_addFile hparent]
    exact h

/-- The path of a new file leads to it. -/
theorem Reaches.leads_addFile (h : fs.Reaches cwd path l) (hnew : fs.entry? l = none)
    (bytes : List UInt8) : (fs.addFile l bytes).Leads cwd path fs.nextNumber := by
  obtain ⟨parent, last, hwalk, hlast, hplace⟩ := h.walk
  refine ⟨l, ⟨⟨parent, last, walk_addFile hwalk l bytes, hlast, hplace⟩, h.noDirectory,
    h.noSlash⟩, ?_⟩
  rw [ entry?] at hnew
  simp [ entry?, addFile, List.lookup_append, hnew]

/-! ### Opening and writing -/

/-- **A file that is opened** is where the path leads.  It holds what it held before, or nothing if it
is not opened to append. -/
theorem Takes.exists_opened (h : fs.Takes cwd path) (append : Bool) : ∃ number opened,
    fs.openForWriting cwd path append =
      .ok (if append then .appending number else .positioned number 0, opened) ∧
    opened.Leads cwd path number ∧
    opened.contentOf number = if append then fs.bytesAt cwd path else [] := by
  obtain ⟨number, opened, hopen⟩ := h
  obtain ⟨l, hl⟩ := exists_reaches hopen
  have hread := hl.read_eq
  rw [hl.openForWriting_eq] at hopen ⊢
  rw [bytesAt, hread]
  cases hentry : fs.entry? l with
  | none =>
    refine ⟨fs.nextNumber, fs.addFile l [], rfl, hl.leads_addFile hentry [], ?_⟩
    rw [contentOf_addFile]
    exact (ite_self _).symm
  | some entry =>
    rw [hentry] at hopen
    cases entry with
    | regular number =>
      have hleads : fs.Leads cwd path number := ⟨l, hl, hentry⟩
      refine ⟨number, _, rfl, ?_, ?_⟩
      · cases append
        · exact hleads.setContent number []
        · exact hleads
      · cases append
        · exact contentOf_setContent fs number []
        · rfl
    | null | full => cases hopen

/-- **A file that is opened and written to** holds the bytes at its end, or only them if it is not
opened to append; the path goes on leading to it. -/
theorem Takes.exists_written (h : fs.Takes cwd path) (append : Bool) (bytes : List UInt8) :
    ∃ handle opened handle' written, fs.openForWriting cwd path append = .ok (handle, opened) ∧
      opened.write bytes handle = .ok (handle', written) ∧ written.Takes cwd path ∧
      written.bytesAt cwd path = (if append then fs.bytesAt cwd path else []) ++ bytes := by
  obtain ⟨number, opened, hopen, hleads, hcontent⟩ := h.exists_opened append
  have hafter (bytes : List UInt8) :
      (opened.setContent number bytes).Takes cwd path ∧
        (opened.setContent number bytes).bytesAt cwd path = bytes := by
    have hleads := hleads.setContent number bytes
    exact ⟨hleads.takes, by rw [hleads.bytesAt_eq, contentOf_setContent]⟩
  cases append with
  | true =>
    refine ⟨_, _, _, _, hopen, rfl, (hafter _).1, ?_⟩
    rw [(hafter _).2, hcontent]
  | false =>
    refine ⟨_, _, _, _, hopen, rfl, (hafter _).1, ?_⟩
    rw [(hafter _).2, hcontent]
    simp [overwrite]

/-- **A file that is saved is read back.** -/
theorem Takes.read_of_save (h : fs.Takes cwd path) {bytes : List UInt8} (hne : bytes ≠ [])
    {fs' : FileSystem} (hsave : fs.save cwd path bytes = .ok fs') : fs'.read cwd path = .ok bytes := by
  obtain ⟨handle, opened, handle', written, hopen, hwrite, -, hbytes⟩ := h.exists_written false bytes
  have hwritten : fs.save cwd path bytes = .ok written := by
    simp [save, hopen, hwrite, hne, bind, Except.bind, pure, Except.pure]
  obtain rfl : written = fs' := Except.ok.inj (hwritten.symm.trans hsave)
  rw [if_neg (by decide), List.nil_append, bytesAt] at hbytes
  -- what is read is the bytes, since where nothing can be read there are none
  cases hread : written.read cwd path with
  | ok found => rw [hread] at hbytes; exact congrArg _ hbytes
  | error cause => rw [hread] at hbytes; exact absurd hbytes.symm hne

end FileSystem

end FrameShader
