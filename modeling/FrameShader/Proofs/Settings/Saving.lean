/-
Saved settings load back.

Each key has a line, or a few, that assign its value to it; keys without a value have none.  The keys of
the outputs of the log stand in a table of their own, below the other ones.  A key that is left out has
its default when the document is read, so keys that have their defaults may be left out, and tables in
which all of them do.

Main definitions:

* `FrameShader.Settings.ReadsBack` — a value that is read back from what is written for it;
* `FrameShader.Settings.HasDefault` — a key has its default.

Main results:

* `FrameShader.Settings.readsBack_value` — **the value of each key is read back**;
* `FrameShader.Settings.ofNode?_logger`, `FrameShader.Settings.ofNode?_compilation` — the fields, or
  their defaults, are read from the keys that are there;
* `FrameShader.Settings.loads_saved` — **saved settings load back**, also without keys that have their
  defaults.
-/

import FrameShader.Proofs.Document.Lines
import FrameShader.Proofs.Document.Tables
import FrameShader.Proofs.Session.Files
import FrameShader.Proofs.Spirv.Stream
import FrameShader.Session.Basic
import Mathlib.Data.List.Nodup

set_option relaxedAutoImplicit false
set_option autoImplicit false

namespace FrameShader

open Toml (Says IsBare IsWritten IsToken)

/-! ### Keys -/

namespace SettingsKey

theorem isBare_name (k : SettingsKey) : IsBare k.name.toList where
  chars := List.all_eq_true.1 (by cases k <;> decide +kernel)
  ne_nil := by cases k <;> decide +kernel

theorem name_injective : Function.Injective name := by
  intro k k' h
  cases k <;> cases k' <;> first | rfl | exact absurd h (by decide)

theorem name_ne_logger (k : SettingsKey) : k.name ≠ "logger" := by cases k <;> decide

theorem nodup_ofCompilation : ofCompilation.Nodup := by decide

theorem nodup_ofLogger : ofLogger.Nodup := by decide

/-! ### Looking up -/

section entries

variable (node? : SettingsKey → Option Node)

theorem entries_cons (k : SettingsKey) (keys : List SettingsKey) :
    entries node? (k :: keys) = ((node? k).map fun node => (k.name, node)).toList ++
      entries node? keys := by
  rw [entries, List.filterMap_cons]
  cases node? k <;> rfl

/-- A key has its node among the entries. -/
theorem lookup_entries (k : SettingsKey) (keys : List SettingsKey) :
    (entries node? keys).lookup k.name = if k ∈ keys then node? k else none := by
  induction keys with
  | nil => rfl
  | cons j keys ih =>
      rw [entries_cons, List.lookup_append, ih]
      by_cases hkey : k = j
      · subst hkey
        cases node? k <;> simp
      · have hname : k.name ≠ j.name := fun h => hkey (name_injective h)
        have hnone : ((node? j).map fun node => (j.name, node)).toList.lookup k.name = none := by
          cases node? j with
          | none => rfl
          | some node => exact lookup_cons_of_ne hname
        rw [hnone, Option.none_or]
        simp [hkey]

/-- The names of the entries are those of the keys, as far as they have nodes. -/
theorem names_entries (keys : List SettingsKey) :
    ((entries node? keys).map Prod.fst).Sublist (keys.map name) := by
  induction keys with
  | nil => exact .slnil
  | cons k keys ih =>
      rw [entries_cons, List.map_append, List.map_cons]
      cases node? k with
      | none => exact ih.cons _
      | some node => exact ih.cons_cons _

theorem nodup_names {keys : List SettingsKey} (h : keys.Nodup) :
    ((entries node? keys).map Prod.fst).Nodup :=
  (names_entries node? keys).nodup (h.map name_injective)

/-- The fields of a record are read from the keys. -/
theorem fields?_entries {keys : List SettingsKey} (h : keys.Nodup) :
    (Node.table (entries node? keys)).fields? .toml (keys.map fun k => { name := k.name }) =
      some (keys.map node?) := by
  rw [Node.fields?_table .toml (nodup_names node? h) (by simp), List.map_map]
  refine congrArg some (List.map_congr_left fun k hk => ?_)
  exact (lookup_entries node? k keys).trans (if_pos hk)

/-- No key has the name of the table within the other one. -/
theorem notMem_entries (keys : List SettingsKey) :
    "logger" ∉ (entries node? keys).map Prod.fst := by
  intro h
  obtain ⟨k, -, hk⟩ := List.mem_map.1 ((names_entries node? keys).subset h)
  exact k.name_ne_logger hk

end entries

end SettingsKey

namespace Settings

open SettingsKey (entries)

/-! ### Values -/

/-- A value that is read back from what is written for it. -/
def ReadsBack (node : Node) : Prop :=
  ∃ written, valueText? node = some written ∧ IsWritten written node

/-- Values are no tables. -/
theorem ReadsBack.nodeTexts {node : Node} (h : ReadsBack node) (path : List String) :
    nodeTexts path node = [] := by
  obtain ⟨written, hwritten, -⟩ := h
  cases node with
  | table => cases hwritten
  | _ => rfl

theorem readsBack_bool (b : Bool) : ReadsBack (.bool b) :=
  ⟨_, rfl, (Toml.isToken_bool b).isWritten⟩

theorem readsBack_text (text : String) : ReadsBack (.text text) := by
  have hwritten := Toml.isWritten_text text.toList
  rw [String.ofList_toList] at hwritten
  exact ⟨_, rfl, hwritten⟩

theorem readsBack_localSize (size : LocalSize) : ReadsBack size.toNode := by
  have hindent : ∀ c ∈ "    ".toList, Toml.isBlank c = true :=
    List.all_eq_true.1 (by decide +kernel)
  have htokens : ∀ w ∈ size.x :: [size.y, size.z], IsToken (Nat.toDigits 10 w.toNat) (.ofWord w) :=
    fun w _ => Toml.isToken_toDigits w.toNat_lt
  exact ⟨_, rfl, Toml.isWritten_list _ _ hindent htokens⟩

variable (s : Settings)

/-- **The value of each key is read back**, if it has one. -/
theorem readsBack_value (k : SettingsKey) : ∀ node ∈ s.valueNode? k, ReadsBack node := by
  intro node hnode
  cases k with
  | debugSymbols | append | stdout | stderr =>
      cases hnode
      exact readsBack_bool _
  | precision | detail =>
      cases hnode
      exact readsBack_text _
  | localSize =>
      cases hnode
      exact readsBack_localSize _
  | file =>
      obtain ⟨path, -, rfl⟩ := Option.map_eq_some_iff.1 hnode
      exact readsBack_text path
  | forward =>
      obtain ⟨level, -, rfl⟩ := Option.map_eq_some_iff.1 hnode
      exact readsBack_text level.name

/-! ### Lines -/

/-- **What is written for an entry assigns the value to the name.** -/
theorem says_entryText {name : String} {node : Node} (hname : IsBare name.toList)
    (h : ReadsBack node) : Says (entryText (name, node)) [.assignment [name] node] := by
  obtain ⟨written, hwritten, hvalue⟩ := h
  have hline := Toml.says_assignment hname hvalue
  rw [String.ofList_toList] at hline
  rw [entryText, hwritten]
  exact hline

theorem says_entries {node? : SettingsKey → Option Node}
    (h : ∀ k, ∀ node ∈ node? k, ReadsBack node) (keys : List SettingsKey) :
    Says ((entries node? keys).flatMap entryText) (Toml.assignments (entries node? keys)) := by
  induction keys with
  | nil => exact .nil
  | cons k keys ih =>
      -- a key without a node has neither an entry nor a line
      rw [SettingsKey.entries_cons]
      cases hnode : node? k with
      | none => exact ih
      | some node => exact (says_entryText k.isBare_name (h k node hnode)).append ih

/-! ### Tables -/

theorem isBare_compilation : IsBare "compilation".toList :=
  ⟨List.all_eq_true.1 (by decide +kernel), by decide +kernel⟩

theorem isBare_logger : IsBare "logger".toList :=
  ⟨List.all_eq_true.1 (by decide +kernel), by decide +kernel⟩

theorem headerText_cons (name : String) (names : List String) : headerText (name :: names) =
    '[' :: (name.toList ++ (Toml.dotted (names.map String.toList) ++ [']', '\n'])) := by
  have hpath : ".".toList.intercalate ((name :: names).map String.toList) =
      name.toList ++ Toml.dotted (names.map String.toList) := Toml.intercalate_eq_dotted _ _
  rw [headerText, hpath, List.append_assoc, List.append_assoc]
  rfl

theorem says_headerText {name : String} {names : List String}
    (h : ∀ part ∈ name :: names, IsBare part.toList) (hlength : names.length < Toml.depthLimit) :
    Says (headerText (name :: names)) [.header (name :: names)] := by
  have hheader := Toml.says_header (List.forall_mem_map.2 h)
    (by rwa [List.length_map] : (names.map String.toList).length < Toml.depthLimit)
  rw [← List.map_cons, List.map_map] at hheader
  rw [headerText_cons]
  simpa using hheader

theorem says_compilation : Says (headerText ["compilation"]) [.header ["compilation"]] :=
  says_headerText (List.forall_mem_singleton.2 isBare_compilation) (by decide)

theorem says_logger :
    Says (headerText ["compilation", "logger"]) [.header ["compilation", "logger"]] :=
  says_headerText (List.forall_mem_cons.2
    ⟨isBare_compilation, List.forall_mem_singleton.2 isBare_logger⟩) (by decide)

section tables

variable {node? : SettingsKey → Option Node} (h : ∀ k, ∀ node ∈ node? k, ReadsBack node)

include h

/-- **A table says what its entries are.** -/
theorem says_tableText {path : List String} (hheader : Says (headerText path) [.header path])
    (keys : List SettingsKey) :
    Says (tableText path (entries node? keys))
      (.header path :: Toml.assignments (entries node? keys)) :=
  hheader.append (says_entries h keys)

theorem tableTexts_entries (path : List String) (keys : List SettingsKey) :
    tableTexts path (entries node? keys) = [] := by
  induction keys with
  | nil => rfl
  | cons k keys ih =>
      rw [SettingsKey.entries_cons]
      cases hnode : node? k with
      | none => exact ih
      | some node => exact congrArg₂ (· ++ ·) ((h k node hnode).nodeTexts _) ih

/-- A document has one table, and then the one within it. -/
theorem documentText_document : documentText (SettingsKey.document node?) =
    tableText ["compilation"] (entries node? SettingsKey.ofCompilation) ++
      '\n' :: tableText ["compilation", "logger"] (entries node? SettingsKey.ofLogger) := by
  have htables : tableTexts [] (SettingsKey.document node?) =
      [tableText ["compilation"] (entries node? SettingsKey.ofCompilation),
        tableText ["compilation", "logger"] (entries node? SettingsKey.ofLogger)] := by
    -- only the outputs of the log are a table among the entries
    simp only [SettingsKey.document, SettingsKey.compilation, tableTexts, nodeTexts,
      tableTexts_entries h]
    rfl
  rw [documentText, htables]
  simp [List.intercalate]

end tables

/-! ### Records -/

/-- A key has its default. -/
def HasDefault : SettingsKey → Prop
  | .debugSymbols => s.debugSymbols = ({} : Settings).debugSymbols
  | .precision => s.precision = ({} : Settings).precision
  | .localSize => s.localSize = ({} : Settings).localSize
  | .file => s.logger.file = ({} : LogTargets).file
  | .append => s.logger.append = ({} : LogTargets).append
  | .stdout => s.logger.stdout = ({} : LogTargets).stdout
  | .stderr => s.logger.stderr = ({} : LogTargets).stderr
  | .forward => s.logger.forward = ({} : LogTargets).forward
  | .detail => s.logger.detail = ({} : LogTargets).detail

section records

variable {s} {kept : SettingsKey → Bool}

/-- **A field is read from its key**, or has its default if the key is not there. -/
theorem defaulting?_kept {α : Type} {k : SettingsKey} {default a : α} {read : Node → Option α}
    (hkept : kept k = false → a = default)
    (hread : Node.defaulting? default read (s.valueNode? k) = some a) :
    Node.defaulting? default read (s.keptNode? kept k) = some a := by
  rw [keptNode?]
  cases hk : kept k with
  | true => exact hread
  | false => exact congrArg some (hkept hk).symm

variable (hpath : ∀ path, s.logger.file = some path → ∃ text, path = .text text)
  (hkept : ∀ k, kept k = false → s.HasDefault k)

include hpath in
/-- The path of the log file is read back from its text. -/
theorem file_eq : (s.logger.file.bind LogPath.text?).map LogPath.text = s.logger.file := by
  cases hfile : s.logger.file with
  | none => rfl
  | some path =>
    obtain ⟨text, rfl⟩ := hpath path hfile
    rfl

include hpath hkept in
/-- **The outputs of the log** are read from their keys. -/
theorem ofNode?_logger :
    LogTargets.ofNode? .toml (.table (entries (s.keptNode? kept) SettingsKey.ofLogger)) =
      some s.logger := by
  have hfile : Node.defaulting? none (Node.orNull? Node.text?) (s.keptNode? kept .file) =
      some (s.logger.file.bind LogPath.text?) := by
    refine defaulting?_kept (fun h => ?_) ?_
    · rw [show s.logger.file = none from hkept _ h]
      rfl
    · rw [valueNode?]
      cases s.logger.file.bind LogPath.text? <;> rfl
  have happend : Node.defaulting? true Node.bool? (s.keptNode? kept .append) =
      some s.logger.append := defaulting?_kept (hkept .append) rfl
  have hstdout : Node.defaulting? false Node.bool? (s.keptNode? kept .stdout) =
      some s.logger.stdout := defaulting?_kept (hkept .stdout) rfl
  have hstderr : Node.defaulting? false Node.bool? (s.keptNode? kept .stderr) =
      some s.logger.stderr := defaulting?_kept (hkept .stderr) rfl
  have hforward : Node.defaulting? none (Node.orNull? (ForwardLevel.ofNode? .toml))
      (s.keptNode? kept .forward) = some s.logger.forward := by
    refine defaulting?_kept (hkept .forward) ?_
    rw [valueNode?]
    rcases s.logger.forward with _ | _ | _ | _ <;> decide +kernel
  have hdetail : Node.defaulting? .disabled (LogDetail.ofNode? .toml) (s.keptNode? kept .detail) =
      some s.logger.detail := by
    refine defaulting?_kept (hkept .detail) ?_
    rw [valueNode?]
    cases s.logger.detail <;> decide +kernel
  have hfields := SettingsKey.fields?_entries (s.keptNode? kept) SettingsKey.nodup_ofLogger
  simp only [SettingsKey.ofLogger, List.map_cons, List.map_nil, SettingsKey.name] at hfields
  simp only [LogTargets.ofNode?, SettingsKey.ofLogger, hfields, Option.bind_eq_bind,
    Option.bind_some, hfile, happend, hstdout, hstderr, hforward, hdetail, Option.pure_def,
    file_eq hpath]

theorem word?_ofWord (w : Word) : (Node.ofWord w).word? = some w := by
  have hsize : 0 ≤ (w.toNat : Int) ∧ (w.toNat : Int).toNat < UInt32.size :=
    ⟨Int.natCast_nonneg _, w.toNat_lt⟩
  rw [Node.ofWord, Node.word?, if_pos hsize, Int.toNat_natCast, UInt32.ofNat_toNat]

/-- The table of the outputs of the log, if it is there, among the other entries. -/
def withLogger (entries : List (String × Node)) (logger : Option Node) : List (String × Node) :=
  entries ++ (logger.map fun node => ("logger", node)).toList

theorem fields?_withLogger (node? : SettingsKey → Option Node) (logger : Option Node) :
    (Node.table (withLogger (entries node? SettingsKey.ofCompilation) logger)).fields? .toml
      [{ name := "logger" }, { name := "debug_symbols" }, { name := "precision" },
       { name := "local_size" }] =
      some [logger, node? .debugSymbols, node? .precision, node? .localSize] := by
  have hnew := SettingsKey.notMem_entries node? SettingsKey.ofCompilation
  have hlogger :
      (withLogger (entries node? SettingsKey.ofCompilation) logger).lookup "logger" = logger := by
    rw [withLogger, List.lookup_append, lookup_eq_none_iff_notMem.2 hnew, Option.none_or]
    cases logger <;> rfl
  -- the logger has a name of its own, so it hides no other entry
  have hkey (k : SettingsKey) (hk : k ∈ SettingsKey.ofCompilation) :
      (withLogger (entries node? SettingsKey.ofCompilation) logger).lookup k.name = node? k := by
    rw [withLogger, List.lookup_append, SettingsKey.lookup_entries, if_pos hk]
    cases logger with
    | none => exact Option.or_none
    | some node => exact (congrArg _ (lookup_cons_of_ne k.name_ne_logger)).trans Option.or_none
  have hnodup :
      ((withLogger (entries node? SettingsKey.ofCompilation) logger).map Prod.fst).Nodup := by
    have hentries := SettingsKey.nodup_names node? SettingsKey.nodup_ofCompilation
    rw [withLogger, List.map_append]
    cases logger with
    | none => rwa [Option.map_none, Option.toList_none, List.map_nil, List.append_nil]
    | some node => exact hentries.append (List.nodup_singleton _) (by simpa using hnew)
  rw [Node.fields?_table .toml hnodup (by simp)]
  exact congrArg some (congrArg₂ List.cons hlogger (congrArg₂ List.cons
    (hkey .debugSymbols (by decide)) (congrArg₂ List.cons (hkey .precision (by decide))
      (congrArg₂ List.cons (hkey .localSize (by decide)) rfl))))

/-- **Settings** are read from their keys, and from a table of outputs of the log, if there is one. -/
theorem ofNode?_compilation (logger : Option Node)
    (hkept : ∀ k, kept k = false → s.HasDefault k)
    (hlogger : Node.defaulting? {} (LogTargets.ofNode? .toml) logger = some s.logger) :
    ofNode? .toml (.table [("compilation",
      .table (withLogger (entries (s.keptNode? kept) SettingsKey.ofCompilation) logger))]) =
      some s := by
  have hdebugSymbols : Node.defaulting? false Node.bool? (s.keptNode? kept .debugSymbols) =
      some s.debugSymbols := defaulting?_kept (hkept .debugSymbols) rfl
  have hprecision : Node.defaulting? .single (Precision.ofNode? .toml)
      (s.keptNode? kept .precision) = some s.precision := by
    refine defaulting?_kept (hkept .precision) ?_
    rw [valueNode?]
    cases s.precision <;> decide +kernel
  have hlocalSize : Node.defaulting? .one (LocalSize.ofNode? .toml)
      (s.keptNode? kept .localSize) = some s.localSize := by
    refine defaulting?_kept (hkept .localSize) ?_
    simp [valueNode?, Node.defaulting?, LocalSize.toNode, LocalSize.toList, LocalSize.ofNode?,
      Dialect.toml, word?_ofWord]
  show ofCompilationNode? .toml _ = some s
  simp only [ofCompilationNode?, fields?_withLogger, Option.bind_eq_bind, Option.bind_some, hlogger,
    hdebugSymbols, hprecision, hlocalSize, Option.pure_def]

end records

/-! ### Documents -/

section documents

variable (kept : SettingsKey → Bool) (s : Settings)

theorem readsBack_kept (k : SettingsKey) : ∀ node ∈ s.keptNode? kept k, ReadsBack node := by
  intro node hnode
  rw [keptNode?] at hnode
  split at hnode
  · exact s.readsBack_value k node hnode
  · cases hnode

/-- A document without the outputs of the log. -/
def compilationText : List Char :=
  documentText [("compilation", .table (entries (s.keptNode? kept) SettingsKey.ofCompilation))]

theorem compilationText_eq : s.compilationText kept =
    tableText ["compilation"] (entries (s.keptNode? kept) SettingsKey.ofCompilation) := by
  simp only [compilationText, documentText, tableTexts, nodeTexts,
    tableTexts_entries (s.readsBack_kept kept)]
  simp

theorem says_compilationText : Says (s.compilationText kept) (.header ["compilation"] ::
    Toml.assignments (entries (s.keptNode? kept) SettingsKey.ofCompilation)) := by
  rw [compilationText_eq]
  exact says_tableText (s.readsBack_kept kept) says_compilation _

theorem says_documentText : Says (documentText (SettingsKey.document (s.keptNode? kept)))
    (.header ["compilation"] ::
      Toml.assignments (entries (s.keptNode? kept) SettingsKey.ofCompilation) ++
      .header ["compilation", "logger"] ::
      Toml.assignments (entries (s.keptNode? kept) SettingsKey.ofLogger)) := by
  have hkept := s.readsBack_kept kept
  rw [documentText_document hkept]
  exact (says_tableText hkept says_compilation _).append
    (Toml.says_blank.append (says_tableText hkept says_logger _))

end documents

section loading

variable {s : Settings} {kept : SettingsKey → Bool}

/-- There is a document if the path of the log file is a text. -/
theorem toToml?_eq (hpath : ∀ path, s.logger.file = some path → ∃ text, path = .text text) :
    s.toToml? = some (s.toTomlOf fun _ => true) := by
  rw [toToml?, LogTargets.fileText?]
  cases hfile : s.logger.file with
  | none => rfl
  | some path =>
    obtain ⟨text, rfl⟩ := hpath path hfile
    rfl

/-- **A document loads back** without the outputs of the log, if these have their defaults. -/
theorem ofToml?_compilationText (hkept : ∀ k, kept k = false → s.HasDefault k)
    (hlogger : s.logger = {}) : ofToml? (String.ofList (s.compilationText kept)) = some s := by
  have hnodup := SettingsKey.nodup_names (s.keptNode? kept) SettingsKey.nodup_ofCompilation
  have hmark : Scan.Stops (· == Toml.byteOrderMark) (s.compilationText kept) := by
    rw [compilationText_eq]
    exact Scan.stops_cons.2 rfl
  rw [ofToml?, (s.says_compilationText kept).read? hmark, Toml.assemble?_table hnodup,
    Option.bind_some, ← List.append_nil (entries _ _)]
  exact ofNode?_compilation none hkept (congrArg some hlogger.symm)

/-- **A document loads back.** -/
theorem ofToml?_toTomlOf
    (hpath : ∀ path, s.logger.file = some path → ∃ text, path = .text text)
    (hkept : ∀ k, kept k = false → s.HasDefault k) : ofToml? (s.toTomlOf kept) = some s := by
  have hnodup := SettingsKey.nodup_names (s.keptNode? kept) SettingsKey.nodup_ofCompilation
  have hnodup' := SettingsKey.nodup_names (s.keptNode? kept) SettingsKey.nodup_ofLogger
  rw [ofToml?, toTomlOf, (s.says_documentText kept).read? (Scan.stops_cons.2 rfl),
    Toml.assemble?_nested hnodup hnodup' (SettingsKey.notMem_entries _ _), Option.bind_some]
  exact ofNode?_compilation (some _) hkept (ofNode?_logger hpath hkept)

/-- Without any text, everything has its default. -/
theorem ofToml?_empty : ofToml? "" = some {} := by
  have hdocument : Says [] [] := .nil
  show (Toml.read? (String.ofList [])).bind _ = _
  rw [hdocument.read? (Scan.stops_nil _)]
  rfl

/-- Settings that have been saved are loaded from the file. -/
theorem settingsOfFile_saved
    (hpath : ∀ path, s.logger.file = some path → ∃ text, path = .text text)
    {fs fs' : FileSystem} {cwd : Location} {path : String} (htakes : fs.Takes cwd (utf8Bytes path))
    (hsaved : Session.saved fs cwd path s = .ok fs') :
    Session.settingsOfFile fs' cwd (utf8Bytes path) = .ok s := by
  have hne : utf8Bytes (s.toTomlOf fun _ => true) ≠ [] := by
    refine utf8Bytes_ne_nil fun h => ?_
    rw [toTomlOf, documentText_document (s.readsBack_kept _), String.ofList_eq_empty_iff] at h
    cases h
  rw [Session.saved, toToml?_eq hpath] at hsaved
  dsimp only at hsaved
  split at hsaved
  · cases hfile : fs.save cwd (utf8Bytes path) (utf8Bytes (s.toTomlOf fun _ => true)) with
    | error cause =>
      rw [hfile] at hsaved
      cases hsaved
    | ok written =>
      rw [hfile] at hsaved
      cases hsaved
      have hloads : ofToml? (s.toTomlOf fun _ => true) = some s :=
        ofToml?_toTomlOf hpath fun _ h => absurd h (by decide)
      have hread := htakes.read_of_save hne hfile
      simp only [Session.settingsOfFile, FileSystem.readText, hread, bind, Except.bind,
        textOfUtf8?_utf8Bytes, pure, Except.pure, Session.settingsOfText, hloads]
  · cases hsaved

/-- **Saved settings load back**, if the path of the log file is a text.  So they do without any keys
that have their defaults, and without tables in which all keys do.  What has been saved into a file is
loaded from it. -/
theorem loads_saved (s : Settings)
    (hpath : ∀ path, s.logger.file = some path → ∃ text, path = .text text) :
    s.toToml? = some (s.toTomlOf fun _ => true) ∧
      ofToml? (s.toTomlOf fun _ => true) = some s ∧
      (∀ kept, (∀ k, kept k = false → s.HasDefault k) → ofToml? (s.toTomlOf kept) = some s ∧
        (s.logger = {} → ofToml? (String.ofList (s.compilationText kept)) = some s)) ∧
      (s = {} → ofToml? "" = some s) ∧
      ∀ fs fs' cwd path, fs.Takes cwd (utf8Bytes path) → Session.saved fs cwd path s = .ok fs' →
        Session.settingsOfFile fs' cwd (utf8Bytes path) = .ok s := by
  refine ⟨toToml?_eq hpath, ofToml?_toTomlOf hpath fun _ h => absurd h (by decide),
    fun kept hkept => ⟨ofToml?_toTomlOf hpath hkept, ofToml?_compilationText hkept⟩, ?_, ?_⟩
  · rintro rfl
    exact ofToml?_empty
  · intro fs fs' cwd path
    exact settingsOfFile_saved hpath

/-- A path with quotes, a backslash, a new line and a control loads back, without two keys. -/
theorem loads_saved_of_awkward :
    let s : Settings := {
      logger := {
        file := some (.text "a\"b\x27c\\d\ne\x01"), append := false, forward := some .trace,
        detail := .full }
      precision := .double, localSize := ⟨64, 1, 4294967295⟩ }
    let kept : SettingsKey → Bool := fun k => k != .stdout && k != .debugSymbols
    (∀ path, s.logger.file = some path → ∃ text, path = .text text) ∧
      (∀ k, kept k = false → s.HasDefault k) ∧ ofToml? (s.toTomlOf kept) = some s := by
  intro s kept
  have hpath : ∀ path, s.logger.file = some path → ∃ text, path = .text text := by
    rintro path ⟨⟩
    exact ⟨_, rfl⟩
  have hkept : ∀ k, kept k = false → s.HasDefault k := by
    intro k hk
    cases k <;> first | rfl | exact absurd hk (by decide)
  exact ⟨hpath, hkept, ((loads_saved s hpath).2.2.1 kept hkept).1⟩

end loading

end Settings

end FrameShader
