/-
Delivering: which texts of kernels the outputs have received in the end.

Every request for a kernel makes a logger of its own, which opens the log file anew.  So what the file
holds after several requests is up to the mode in which it is opened.  Opened to append, it holds what
it held before and then the text of every kernel, in order.  Opened to overwrite, it is emptied each
time and holds the text of the last kernel alone.  The standard streams and the log receive all texts in
either case.

Main definitions:

* `FrameShader.logLine`, `FrameShader.logLines` — texts as they stand in files and streams;
* `FrameShader.Session.remarks`, `FrameShader.Session.remarksOn` — what requests log besides texts;
* `FrameShader.LogTargets.fileAfter` — what the log file holds after some texts;
* `FrameShader.Session.Received` — what the outputs have received.

Main results:

* `FrameShader.Session.received_answer` — **one request**: its text is at all outputs;
* `FrameShader.Session.texts_received` — **several requests**: all texts are at the outputs, and in the
  log file as its mode has it.
-/

import FrameShader.Proofs.Session.Files
import FrameShader.Proofs.Session.Settling

set_option relaxedAutoImplicit false
set_option autoImplicit false

namespace FrameShader

/-- The kernel that answers a request. -/
def Reply.kernel? : Reply → Option Kernel
  | .kernel k => some k
  | _ => none

/-! ### Texts at the outputs -/

/-- A text as it stands in a file or a stream, with a new line at its end. -/
def logLine (text : String) : List UInt8 := utf8Bytes (text ++ "\n")

/-- Texts as they stand in a file or a stream, one after the other. -/
def logLines (texts : List String) : List UInt8 := texts.flatMap logLine

@[simp] theorem logLines_nil : logLines [] = [] := rfl

@[simp] theorem logLines_cons (text : String) (texts : List String) :
    logLines (text :: texts) = logLine text ++ logLines texts := rfl

/-- A text takes at least the end of its line. -/
theorem logLine_ne_nil (text : String) : logLine text ≠ [] := by
  refine utf8Bytes_ne_nil fun h => ?_
  simpa using congrArg String.length h

namespace LogTargets

/-- The record that hands a text on to the log, if texts are handed on. -/
def handedOn (t : LogTargets) (text : String) : List LogRecord :=
  (t.forward.map fun level => ⟨level.level, text⟩).toList

/-- What the log file holds after some texts: they follow what it held, or the last one replaces it. -/
def fileAfter (t : LogTargets) (held : List UInt8) (texts : List String) : List UInt8 :=
  if t.append then held ++ logLines texts else (texts.getLast?.map logLine).getD held

theorem fileAfter_nil (t : LogTargets) (held : List UInt8) : t.fileAfter held [] = held := by
  cases h : t.append <;> simp [fileAfter, h]

/-- The text that comes first is there before the others. -/
theorem fileAfter_cons (t : LogTargets) (held : List UInt8) (text : String) (texts : List String) :
    t.fileAfter held (text :: texts) = t.fileAfter (t.fileAfter held [text]) texts := by
  cases h : t.append with
  | true => simp [fileAfter, h]
  | false =>
    cases texts with
    | nil => simp [fileAfter, h]
    | cons other texts => simp [fileAfter, h, List.getLast?_cons]

end LogTargets

namespace Session

/-- The session whose standard streams and log have received a text. -/
def receives (s : Session) (t : LogTargets) (text : String) : Session :=
  { s with
    stdout := s.stdout ++ if t.stdout then logLine text else []
    stderr := s.stderr ++ if t.stderr then logLine text else []
    log := s.log ++ t.handedOn text }

theorem writeOutputs_cons_run (text : String) (o : LogOutput) (os : List LogOutput) (s : Session) :
    ((writeOutputs text (o :: os)).run s).2 =
      ((writeOutputs text os).run ((writeOutput text o).run s).2).2 := rfl

theorem writeOutputs_append_run (text : String) (os ps : List LogOutput) (s : Session) :
    ((writeOutputs text (os ++ ps)).run s).2 =
      ((writeOutputs text ps).run ((writeOutputs text os).run s).2).2 := by
  induction os generalizing s with
  | nil => rfl
  | cons o os ih => rw [List.cons_append, writeOutputs_cons_run, ih, writeOutputs_cons_run]

/-- The standard streams and the log each receive a text once. -/
theorem writeOutputs_streamOutputs (t : LogTargets) (text : String) (s : Session) :
    ((writeOutputs text (streamOutputs t)).run s).2 = s.receives t text := by
  have hstdout (s : Session) :
      ((writeOutputs text (if t.stdout then [.stdout] else [])).run s).2 =
        { s with stdout := s.stdout ++ if t.stdout then logLine text else [] } := by
    cases t.stdout
    · exact congrArg (fun out => { s with stdout := out }) (List.append_nil _).symm
    · rfl
  have hstderr (s : Session) :
      ((writeOutputs text (if t.stderr then [.stderr] else [])).run s).2 =
        { s with stderr := s.stderr ++ if t.stderr then logLine text else [] } := by
    cases t.stderr
    · exact congrArg (fun err => { s with stderr := err }) (List.append_nil _).symm
    · rfl
  have hforward (s : Session) :
      ((writeOutputs text (t.forward.map LogOutput.forward).toList).run s).2 =
        { s with log := s.log ++ t.handedOn text } := by
    unfold LogTargets.handedOn
    cases t.forward
    · exact congrArg (fun log => { s with log := log }) (List.append_nil _).symm
    · rfl
  rw [streamOutputs, writeOutputs_append_run, writeOutputs_append_run, hstdout, hstderr, hforward]
  rfl

/-! ### One request -/

/-- What a request for a kernel logs besides the text of the kernel: what is reported of the kernel,
and what is found when the settings are read.  They are read after the kernel has been generated,
unless it is generated by them. -/
def remarks (s : Session) (format : SensorFormat) : Option OptionsChange → List LogRecord
  | none => s.findings ++ (Kernel.generate format s.choice.options).2
  | some change => (Kernel.generate format (KernelOptions.change {} change)).2 ++ s.findings

/-- The outputs of these settings have received these texts, in this order.  The log has received other
records in between. -/
structure Received (s : Session) (c : Settings) (path : List UInt8)
    (chatter : List (List LogRecord)) (texts : List String) (s' : Session) : Prop where
  settings : s'.choice = c
  workingDirectory : s'.workingDirectory = s.workingDirectory
  takes : s'.fileSystem.Takes s'.workingDirectory path
  file : s'.fileSystem.bytesAt s'.workingDirectory path =
    c.logger.fileAfter (s.fileSystem.bytesAt s.workingDirectory path) texts
  stdout : s'.stdout = s.stdout ++ if c.logger.stdout then logLines texts else []
  stderr : s'.stderr = s.stderr ++ if c.logger.stderr then logLines texts else []
  log : s'.log = s.log ++
    (chatter.zipWith (fun remarks text => remarks ++ c.logger.handedOn text) texts).flatten

namespace Received

variable {s s' s'' : Session} {c : Settings} {path : List UInt8} {text : String}
  {texts : List String} {remarks : List LogRecord} {chatter : List (List LogRecord)}

theorem refl (hc : s.choice = c) (h : s.fileSystem.Takes s.workingDirectory path) :
    Received s c path [] [] s where
  settings := hc
  workingDirectory := rfl
  takes := h
  file := (c.logger.fileAfter_nil _).symm
  stdout := by simp
  stderr := by simp
  log := by simp

/-- What is received at first, and what is received then. -/
theorem cons (h : Received s c path [remarks] [text] s') (h' : Received s' c path chatter texts s'') :
    Received s c path (remarks :: chatter) (text :: texts) s'' where
  settings := h'.settings
  workingDirectory := h'.workingDirectory.trans h.workingDirectory
  takes := h'.takes
  file := by rw [h'.file, h.file, ← LogTargets.fileAfter_cons]
  stdout := by
    rw [h'.stdout, h.stdout]
    cases c.logger.stdout <;> simp
  stderr := by
    rw [h'.stderr, h.stderr]
    cases c.logger.stderr <;> simp
  log := by
    rw [h'.log, h.log]
    simp

end Received

variable {s : Session} {c : Settings} {path : LogPath}

theorem openLogFile_run {t : LogTargets} (hfile : t.file = some path) {handle : WriteHandle}
    {opened : FileSystem} (hopen : s.fileSystem.openForWriting s.workingDirectory path.bytes t.append =
      .ok (handle, opened)) :
    (openLogFile t).run s = ([.file handle], { s with fileSystem := opened }) := by
  unfold openLogFile
  rw [hfile]
  simp only [StateT.run_bind, StateT.run_get, pure_bind, hopen]
  rfl

theorem writeOutput_file_run {text : String} {handle handle' : WriteHandle} {written : FileSystem}
    (hwrite : s.fileSystem.write (logLine text) handle = .ok (handle', written)) :
    ((writeOutput text (.file handle)).run s).2 = { s with fileSystem := written } := by
  rw [logLine] at hwrite
  unfold writeOutput
  simp only [StateT.run_bind, StateT.run_get, pure_bind, hwrite]
  rfl

/-- The text of a kernel is written to all outputs. -/
theorem exists_logKernel_run (hdetail : s.choice.logger.detail = .full)
    (hfile : s.choice.logger.file = some path)
    (htakes : s.fileSystem.Takes s.workingDirectory path.bytes) {k : Kernel} {text : String}
    (htext : k.text = .ok text) : ∃ fs, fs.Takes s.workingDirectory path.bytes ∧
      fs.bytesAt s.workingDirectory path.bytes =
        s.choice.logger.fileAfter (s.fileSystem.bytesAt s.workingDirectory path.bytes) [text] ∧
      (logKernel k).run s =
        (.ok (), { s.settled.receives s.choice.logger text with fileSystem := fs }) := by
  obtain ⟨handle, opened, handle', written, hopen, hwrite, hkeeps, hbytes⟩ :=
    htakes.exists_written s.choice.logger.append (logLine text)
  refine ⟨written, hkeeps, ?_, ?_⟩
  · rw [hbytes, LogTargets.fileAfter]
    cases s.choice.logger.append <;> simp
  -- the file is written first, and the streams after it change nothing in it
  let outputs := LogOutput.file handle :: streamOutputs s.choice.logger
  have hlogger : openLogger.run s =
      (⟨s.choice, outputs⟩, { s.settled with fileSystem := opened }) := by
    unfold openLogger
    rw [bind_run, settingsNow_run]
    dsimp only
    rw [hdetail]
    dsimp only
    rw [bind_run, openLogFile_run (s := s.settled) hfile hopen]
    rfl
  have hwritten : ((writeLog ⟨s.choice, outputs⟩ text).run { s.settled with fileSystem := opened }).2 =
      { s.settled.receives s.choice.logger text with fileSystem := written } := by
    show ((writeOutputs text outputs).run { s.settled with fileSystem := opened }).2 = _
    rw [writeOutputs_cons_run, writeOutput_file_run (s := { s.settled with fileSystem := opened }) hwrite,
      writeOutputs_streamOutputs]
    rfl
  unfold logKernel
  rw [bind_run, hlogger]
  dsimp only
  rw [hdetail, htext]
  exact congrArg (Prod.mk (Except.ok ())) hwritten

/-- Without a text there is nothing to log, which is a failure. -/
theorem logKernel_run_of_error (hdetail : s.choice.logger.detail = .full) {k : Kernel}
    {cause : ListingError} (htext : k.text = .error cause) :
    ((logKernel k).run s).1 = .error cause := by
  unfold logKernel
  rw [bind_run, openLogger_settings, hdetail, htext]
  rfl

/-- A kernel is generated first, and then its text is logged. -/
theorem loadImage_run {format : SensorFormat} {o : KernelOptions} {k : Kernel}
    {records : List LogRecord} (hmade : Kernel.generate format o = (.ok k, records)) :
    (loadImage format o).run s =
      ((((logKernel k).run { s with log := s.log ++ records }).1.mapError .listing).map fun _ => k,
        ((logKernel k).run { s with log := s.log ++ records }).2) := by
  have hrecord : ((record records).run s).2 = { s with log := s.log ++ records } := rfl
  unfold loadImage
  rw [hmade, bind_run]
  dsimp only
  rw [bind_run, hrecord]
  cases ((logKernel k).run { s with log := s.log ++ records }).1 <;> rfl

/-- Generating a kernel: what is reported of it is logged, and its text is received. -/
theorem received_loadImage (hdetail : s.choice.logger.detail = .full)
    (hfile : s.choice.logger.file = some path)
    (htakes : s.fileSystem.Takes s.workingDirectory path.bytes) {format : SensorFormat}
    {o : KernelOptions} {k : Kernel} (h : ((loadImage format o).run s).1 = .ok k) :
    ∃ text, k.text = .ok text ∧
      Received s s.choice path.bytes [(Kernel.generate format o).2 ++ s.findings] [text]
        ((loadImage format o).run s).2 := by
  have hgenerate := generate_of_loadImage h
  rcases hmade : Kernel.generate format o with ⟨made, records⟩
  rw [hmade] at hgenerate
  obtain rfl : made = .ok k := hgenerate
  rw [loadImage_run hmade] at h ⊢
  -- The settings and the files are those of the session, whatever has been logged.
  let told : Session := { s with log := s.log ++ records }
  cases htext : k.text with
  | error cause =>
    rw [logKernel_run_of_error (s := told) hdetail htext] at h
    cases h
  | ok text =>
    obtain ⟨fs, hkeeps, hbytes, hrun⟩ := exists_logKernel_run (s := told) hdetail hfile htakes htext
    refine ⟨text, rfl, ?_⟩
    rw [hrun]
    exact
      { settings := rfl
        workingDirectory := rfl
        takes := hkeeps
        file := hbytes
        stdout := by
          rw [logLines_cons, logLines_nil, List.append_nil]
          rfl
        stderr := by
          rw [logLines_cons, logLines_nil, List.append_nil]
          rfl
        log := by
          show s.log ++ records ++ s.findings ++ s.choice.logger.handedOn text = _
          simp }

/-- Settings that are read before the request are part of what it logs. -/
theorem Received.of_settled {text : String} {records : List LogRecord} {s' : Session}
    (h : Received s.settled s.choice path.bytes [records] [text] s') :
    Received s s.choice path.bytes [s.findings ++ records] [text] s' :=
  { h with
    log := by
      rw [h.log]
      show s.log ++ s.findings ++ _ = _
      simp }

theorem answer_loadImage (s : Session) (format : SensorFormat) (change : Option OptionsChange) :
    s.answer (.loadImage format change) =
      let chosen := (Request.optionsOf change).run s
      let made := (loadImage format chosen.1).run chosen.2
      ((match made.1 with | .ok k => .kernel k | .error cause => .failed cause), made.2) := by
  unfold answer Request.run
  rw [bind_run, bind_run]
  dsimp only
  cases ((loadImage format ((Request.optionsOf change).run s).1).run _).1 <;> rfl

/-- **A request for a kernel** that succeeds has its text received by all outputs. -/
theorem received_answer (hdetail : s.choice.logger.detail = .full)
    (hfile : s.choice.logger.file = some path)
    (htakes : s.fileSystem.Takes s.workingDirectory path.bytes) {format : SensorFormat}
    {change : Option OptionsChange} {k : Kernel}
    (h : (s.answer (.loadImage format change)).1 = .kernel k) :
    ∃ text, k.text = .ok text ∧
      Received s s.choice path.bytes [s.remarks format change] [text]
        (s.answer (.loadImage format change)).2 := by
  have hmade {o : KernelOptions} {u : Session}
      (hchosen : (Request.optionsOf change).run s = (o, u)) :
      ((loadImage format o).run u).1 = .ok k := by
    rw [answer_loadImage, hchosen] at h
    dsimp only at h
    revert h
    cases ((loadImage format o).run u).1 with
    | error cause => nofun
    | ok made =>
      rintro ⟨⟩
      rfl
  rw [answer_loadImage]
  cases change with
  | some change => exact received_loadImage hdetail hfile htakes (hmade rfl)
  | none =>
    have hchosen : (Request.optionsOf none).run s = (s.choice.options, s.settled) := optionsNow_run s
    obtain ⟨text, htext, hreceived⟩ :=
      received_loadImage (s := s.settled) hdetail hfile htakes (hmade hchosen)
    have hfindings : s.settled.findings = [] := rfl
    rw [hfindings, List.append_nil] at hreceived
    rw [hchosen]
    exact ⟨text, htext, hreceived.of_settled⟩

/-! ### Several requests -/

/-- What requests for kernels log besides the texts of the kernels. -/
def remarksOn (s : Session) : List (SensorFormat × Option OptionsChange) → List (List LogRecord)
  | [] => []
  | (format, change) :: calls =>
      s.remarks format change :: (s.answer (.loadImage format change)).2.remarksOn calls

/-- **Requests for kernels** that succeed, one after the other, have all texts received. -/
theorem received_after {s : Session} {path : LogPath} (hdetail : s.choice.logger.detail = .full)
    (hfile : s.choice.logger.file = some path)
    (htakes : s.fileSystem.Takes s.workingDirectory path.bytes)
    {calls : List (SensorFormat × Option OptionsChange)} {ks : List Kernel}
    (h : s.replies (calls.map fun call => .loadImage call.1 call.2) = ks.map .kernel) :
    ∃ texts, List.Forall₂ (fun k text => k.text = .ok text) ks texts ∧
      Received s s.choice path.bytes (s.remarksOn calls) texts
        (s.after (calls.map fun call => .loadImage call.1 call.2)) := by
  generalize hc : s.choice = c at hdetail hfile
  induction calls generalizing s ks with
  | nil =>
    obtain rfl : ks = [] := List.map_eq_nil_iff.1 h.symm
    exact ⟨[], .nil, .refl hc htakes⟩
  | cons call calls ih =>
    subst hc
    cases ks with
    | nil => cases h
    | cons k ks =>
      obtain ⟨hfirst, hrest⟩ := List.cons.inj h
      obtain ⟨text, htext, hreceived⟩ := received_answer hdetail hfile htakes hfirst
      obtain ⟨texts, htexts, hlater⟩ := ih hreceived.takes hrest hreceived.settings
      exact ⟨text :: texts, .cons htext htexts, hreceived.cons hlater⟩

/-- **What the outputs have received in the end.**  Any number of requests for kernels are answered, one
after the other, and the settings log texts in full and into a file that can be written.  Then each
kernel has a text, and these texts, in the order of the requests, are received as follows:

* the log file holds what it held before and then all texts, if it is opened to append; if it is opened
  to overwrite, it holds the text of the last kernel alone;
* standard output and standard error have received all texts, if the settings name them, and nothing
  else;
* the log has received all texts, if the settings name it, each of them after what the request reports
  besides.

A new line ends each text, except in the log. -/
theorem texts_received {s : Session} {path : LogPath} (hdetail : s.choice.logger.detail = .full)
    (hfile : s.choice.logger.file = some path)
    (htakes : s.fileSystem.Takes s.workingDirectory path.bytes)
    (calls : List (SensorFormat × Option OptionsChange)) {ks : List Kernel}
    (h : s.replies (calls.map fun call => .loadImage call.1 call.2) = ks.map .kernel) :
    let t := s.choice.logger
    let held := s.fileSystem.bytesAt s.workingDirectory path.bytes
    let s' := s.after (calls.map fun call => .loadImage call.1 call.2)
    ∃ texts, List.Forall₂ (fun k text => k.text = .ok text) ks texts ∧
      s'.fileSystem.bytesAt s'.workingDirectory path.bytes =
        (if t.append then held ++ logLines texts else (texts.getLast?.map logLine).getD held) ∧
      s'.stdout = s.stdout ++ (if t.stdout then logLines texts else []) ∧
      s'.stderr = s.stderr ++ (if t.stderr then logLines texts else []) ∧
      s'.log = s.log ++ ((s.remarksOn calls).zipWith
        (fun remarks text => remarks ++ (t.forward.map fun level => ⟨level.level, text⟩).toList)
        texts).flatten := by
  obtain ⟨texts, htexts, hreceived⟩ := received_after hdetail hfile htakes h
  exact ⟨texts, htexts, hreceived.file, hreceived.stdout, hreceived.stderr, hreceived.log⟩

/-! ### Two requests -/

/-- A session that logs texts to a file and to standard output. -/
def loggingSession (append : Bool) : Session :=
  { settings := some { logger :=
      { file := some (.text "kernels.log"), append := append, stdout := true, detail := .full } } }

/-- Requests for a kernel in both precisions. -/
def loggedCalls : List (SensorFormat × Option OptionsChange) :=
  [(.rgba, some {}), (.rgba, some { precision := some .double })]

theorem loggingSession_takes (append : Bool) :
    (loggingSession append).fileSystem.Takes (loggingSession append).workingDirectory
      (LogPath.text "kernels.log").bytes := ⟨0, _, rfl⟩

/-- Both requests are answered by kernels. -/
theorem exists_replies_loggedCalls (append : Bool) : ∃ k k',
    (loggingSession append).replies (loggedCalls.map fun call => .loadImage call.1 call.2) =
      [k, k'].map .kernel := by
  have hall : ((loggingSession append).replies
      (loggedCalls.map fun call => .loadImage call.1 call.2)).all (·.kernel?.isSome) = true := by
    cases append <;> decide +kernel
  have hkernel {r : Reply} (h : r.kernel?.isSome = true) : ∃ k, r = .kernel k := by
    cases r <;> first | exact ⟨_, rfl⟩ | cases h
  simp only [loggedCalls, List.map_cons, List.map_nil, replies, List.all_cons, List.all_nil,
    Bool.and_true, Bool.and_eq_true] at hall ⊢
  obtain ⟨⟨k, hk⟩, k', hk'⟩ := hall.imp hkernel hkernel
  exact ⟨k, k', by rw [hk, hk']⟩

/-- Opened to append, the file holds both texts, one after the other, and so does standard output. -/
theorem texts_received_of_two : ∃ k k' text text',
    k.text = .ok text ∧ k'.text = .ok text' ∧
    (loggingSession true).replies (loggedCalls.map fun call => .loadImage call.1 call.2) =
      [k, k'].map .kernel ∧
    let s' := (loggingSession true).after (loggedCalls.map fun call => .loadImage call.1 call.2)
    s'.fileSystem.bytesAt s'.workingDirectory (LogPath.text "kernels.log").bytes =
      logLine text ++ logLine text' ∧ s'.stdout = logLine text ++ logLine text' := by
  have htargets : (loggingSession true).choice.logger.append = true ∧
      (loggingSession true).choice.logger.stdout = true ∧ (loggingSession true).stdout = [] ∧
      (loggingSession true).fileSystem.bytesAt (loggingSession true).workingDirectory
        (LogPath.text "kernels.log").bytes = [] := ⟨rfl, rfl, rfl, rfl⟩
  have hfile : (loggingSession true).choice.logger.file = some (.text "kernels.log") := rfl
  obtain ⟨k, k', h⟩ := exists_replies_loggedCalls true
  obtain ⟨texts, htexts, hbytes, hstdout, -⟩ :=
    texts_received rfl hfile (loggingSession_takes true) loggedCalls h
  cases htexts with
  | cons htext hrest =>
    cases hrest with
    | cons htext' hnone =>
      cases hnone
      exact ⟨k, k', _, _, htext, htext', h, by simpa [htargets] using hbytes,
        by simpa [htargets] using hstdout⟩

/-- Opened to overwrite, the file does not hold both texts: the second request empties it. -/
theorem overwriting_loses_text : ∃ ks texts,
    (loggingSession false).choice.logger.append = false ∧
    (loggingSession false).choice.logger.detail = .full ∧
    (loggingSession false).choice.logger.file = some (.text "kernels.log") ∧
    (loggingSession false).fileSystem.Takes (loggingSession false).workingDirectory
      (LogPath.text "kernels.log").bytes ∧
    (loggingSession false).replies (loggedCalls.map fun call => .loadImage call.1 call.2) =
      ks.map .kernel ∧
    List.Forall₂ (fun k text => Kernel.text k = .ok text) ks texts ∧
    let s' := (loggingSession false).after (loggedCalls.map fun call => .loadImage call.1 call.2)
    s'.fileSystem.bytesAt s'.workingDirectory (LogPath.text "kernels.log").bytes ≠
      logLines texts := by
  have hfile : (loggingSession false).choice.logger.file = some (.text "kernels.log") := rfl
  obtain ⟨k, k', h⟩ := exists_replies_loggedCalls false
  obtain ⟨texts, htexts, hreceived⟩ := received_after rfl hfile (loggingSession_takes false) h
  refine ⟨_, texts, rfl, rfl, hfile, loggingSession_takes false, h, htexts, ?_⟩
  have hheld := hreceived.file
  dsimp only
  rw [hheld]
  cases htexts with
  | cons htext hrest =>
    cases hrest with
    | cons htext' hnone =>
      cases hnone
      -- Only the second text is there, so the first one would have to be empty.
      intro hboth
      have hoverwrites : (loggingSession false).choice.logger.append = false := rfl
      have hfirst := congrArg List.length hboth
      simp only [LogTargets.fileAfter, hoverwrites, Bool.false_eq_true, if_false, List.getLast?_cons_cons,
        List.getLast?_singleton, Option.map_some, Option.getD_some, logLines_cons, logLines_nil,
        List.append_nil, List.length_append, Nat.right_eq_add, List.length_eq_zero_iff] at hfirst
      exact logLine_ne_nil _ hfirst

end Session

end FrameShader
