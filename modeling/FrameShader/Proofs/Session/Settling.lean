/-
Settling: the settings of a session are written once.

Requests read the settings or give them.  Whichever comes first settles them: what is given is taken
as it is, and what is read is looked for in files and overridden by the environment, both as they are
at that moment.  From then on settings that are given are refused, and whatever reads the settings
finds the same ones, however the environment has changed since.

Some requests read the settings without saying so: a kernel is generated with the options that the
request names, and yet its text is logged as the settings have it.

Main definitions:

* `FrameShader.Request.gives`, `FrameShader.Request.reads` — what a request does with the settings;
* `FrameShader.Session.choice` — the settings that a request would find;
* `FrameShader.Session.Writes` — steps that leave the settings alone and only add to the log;
* `FrameShader.Session.AnsweredBy` — a request is answered by certain settings.

Main results:

* `FrameShader.Request.exists_run_of_reads` — whatever reads the settings begins with it;
* `FrameShader.Session.settled_once` — **the settings of a session are written once**.
-/

import FrameShader.Proofs.Kernel.Generation
import FrameShader.Session.Request

set_option relaxedAutoImplicit false
set_option autoImplicit false

namespace FrameShader

/-! ### What requests do with the settings -/

namespace Request

/-- Whether a request gives settings. -/
def gives : Request → Bool
  | .giveSettings _ => true
  | _ => false

/-- Whether a request reads the settings.  A kernel reads them for its log. -/
def reads : Request → Bool
  | .settings | .options | .saveSettings _ | .loadImage _ _ | .openLogger => true
  | _ => false

/-- Whether the settings are settled once a request has been answered. -/
def settles (r : Request) : Bool := r.gives || r.reads

end Request

namespace Session

/-! ### Reading -/

/-- The settings that a session would read from a file and from its environment. -/
def found (s : Session) : Settings := (s.discover.1.overriddenBy s.environment).1

/-- The settings of a session, which are found if it has none. -/
def choice (s : Session) : Settings := s.settings.getD s.found

/-- What is logged when the settings are read. -/
def findings (s : Session) : List LogRecord :=
  if s.settings.isSome then []
  else s.discover.2 ++ (s.discover.1.overriddenBy s.environment).2

/-- The session once it has read its settings. -/
def settled (s : Session) : Session :=
  { s with settings := some s.choice, log := s.log ++ s.findings }

theorem choice_of_settings {s : Session} {c : Settings} (h : s.settings = some c) :
    s.choice = c := by
  rw [choice, h]
  rfl

theorem settled_of_settings {s : Session} {c : Settings} (h : s.settings = some c) :
    s.settled = s := by
  obtain ⟨fs, cwd, e, _, lo, out, err, log⟩ := s
  cases h
  simp [settled, choice, findings]

theorem bind_run {α β : Type} (x : SessionM α) (f : α → SessionM β) (s : Session) :
    (x >>= f).run s = (f (x.run s).1).run (x.run s).2 := rfl

theorem settingsNow_run (s : Session) : settingsNow.run s = (s.choice, s.settled) := by
  have hget : (get : SessionM Session).run s = (s, s) := rfl
  unfold settingsNow
  rw [bind_run, hget]
  cases h : s.settings with
  | none =>
    dsimp only
    rw [settled, choice, findings, h]
    rfl
  | some c =>
    rw [settled_of_settings h, choice_of_settings h]
    rfl

/-! ### Steps that only write -/

/-- The session with other records before its own. -/
def logged (s : Session) (records : List LogRecord) : Session :=
  { s with log := records ++ s.log }

/-- A step leaves the settings alone, and adds to the log without looking at it. -/
structure Writes {α : Type} (x : SessionM α) : Prop where
  settings : ∀ s, (x.run s).2.settings = s.settings
  log : ∀ s records, x.run (s.logged records) = ((x.run s).1, (x.run s).2.logged records)

namespace Writes

variable {α β : Type}

theorem pure (a : α) : Writes (pure a : SessionM α) := ⟨fun _ => rfl, fun _ _ => rfl⟩

theorem bind {x : SessionM α} {f : α → SessionM β} (hx : Writes x) (hf : ∀ a, Writes (f a)) :
    Writes (x >>= f) where
  settings s := ((hf (x.run s).1).settings (x.run s).2).trans (hx.settings s)
  log s records := by
    rw [bind_run, hx.log, (hf _).log]
    rfl

theorem map {x : SessionM α} (f : α → β) (hx : Writes x) : Writes (f <$> x) where
  settings s := hx.settings s
  log s records := by
    show (f (x.run (s.logged records)).1, (x.run (s.logged records)).2) = _
    rw [hx.log]
    rfl

/-- A change that neither looks at the log nor at the settings. -/
theorem modify {f : Session → Session} (hsettings : ∀ s, (f s).settings = s.settings)
    (hlog : ∀ s records, f (s.logged records) = (f s).logged records) :
    Writes (modify f : SessionM Unit) where
  settings := hsettings
  log s records := congrArg (Prod.mk ()) (hlog s records)

theorem record (records : List LogRecord) : Writes (Session.record records) :=
  .modify (fun _ => rfl) fun s before => by
    show { s with log := before ++ s.log ++ records } = { s with log := before ++ (s.log ++ records) }
    rw [List.append_assoc]

end Writes

/-- A step reads the settings and goes by what it finds, after it has logged something at most. -/
def ReadsFirst {α : Type} (x : SessionM α) : Prop :=
  ∃ (records : List LogRecord) (rest : Settings → SessionM α), (∀ c, Writes (rest c)) ∧
    ∀ s : Session,
      x.run s = (rest s.choice).run (settled { s with log := s.log ++ records })

namespace ReadsFirst

variable {α β : Type}

theorem settingsNow : ReadsFirst settingsNow :=
  ⟨[], fun c => pure c, fun c => .pure c, fun s => by rw [List.append_nil, settingsNow_run]; rfl⟩

theorem bind {x : SessionM α} {f : α → SessionM β} (hx : ReadsFirst x) (hf : ∀ a, Writes (f a)) :
    ReadsFirst (x >>= f) := by
  obtain ⟨records, rest, hrest, hrun⟩ := hx
  refine ⟨records, fun c => rest c >>= f, fun c => (hrest c).bind hf, fun s => ?_⟩
  rw [bind_run, hrun]
  rfl

theorem map {x : SessionM α} (f : α → β) (hx : ReadsFirst x) : ReadsFirst (f <$> x) := by
  obtain ⟨records, rest, hrest, hrun⟩ := hx
  refine ⟨records, fun c => f <$> rest c, fun c => (hrest c).map f, fun s => ?_⟩
  rw [StateT.run_map, hrun]
  rfl

end ReadsFirst

end Session

namespace Session

/-! ### Answers -/

/-- A request is answered by these settings. -/
structure AnsweredBy (s : Session) (r : Request) (c : Settings) : Prop where
  settled : (s.answer r).2.settings = some c
  settings : r = .settings → (s.answer r).1 = .settings c
  options : r = .options → (s.answer r).1 = .options c.options
  logger : r = .openLogger → ∃ outputs, (s.answer r).1 = .logger ⟨c, outputs⟩
  /-- A kernel has the options that were named, or else those of the settings. -/
  kernel : ∀ format change k, r = .loadImage format change → (s.answer r).1 = .kernel k →
    (Kernel.generate format (change.elim c.options (KernelOptions.change {}))).1 = .ok k
  /-- All that the request does is what it would have done if the session had had the settings
  already, but that what was found when they were read is logged as well. -/
  already : ∃ (reply : Reply) (u : Session) (before : List LogRecord),
    answer { s with settings := some c } r = (reply, u.logged (s.log ++ before)) ∧
      s.answer r = (reply, u.logged (s.log ++ before ++ s.findings))

theorem openLogger_settings (s : Session) : (openLogger.run s).1.settings = s.choice := by
  unfold openLogger
  rw [bind_run, settingsNow_run]
  cases s.choice.logger.detail <;> rfl

theorem optionsNow_run (s : Session) : optionsNow.run s = (s.choice.options, s.settled) := by
  unfold optionsNow
  rw [bind_run, settingsNow_run]
  rfl

theorem generate_of_loadImage {format : SensorFormat} {o : KernelOptions} {s : Session} {k : Kernel}
    (h : ((loadImage format o).run s).1 = .ok k) : (Kernel.generate format o).1 = .ok k := by
  unfold loadImage at h
  rcases hgenerate : Kernel.generate format o with ⟨_ | made, records⟩
  · rw [hgenerate] at h
    cases h
  · rw [hgenerate] at h
    dsimp only at h
    rw [bind_run, bind_run] at h
    rcases hlog : ((logKernel made).run ((record records).run s).2).1 with cause | _
    · rw [hlog] at h
      cases h
    · rw [hlog] at h
      cases h
      rfl

/-- A run of a session settles on these settings. -/
structure SettlesOn (s : Session) (rs : List Request) (c : Settings) : Prop where
  /-- Settings are taken if no request has settled them, and as they are given. -/
  taken : ∀ before given after, rs = before ++ .giveSettings given :: after →
    before.any Request.settles = false →
      given = c ∧ (s.after before).answer (.giveSettings given)
        = (.done, { s.after before with settings := some given })
  /-- From then on settings that are given are refused, and change nothing. -/
  refused : ∀ before given after, rs = before ++ .giveSettings given :: after →
    before.any Request.settles = true →
      (s.after before).answer (.giveSettings given) = (.refused .alreadySet, s.after before)
  /-- Whatever reads the settings reads these. -/
  answered : ∀ before r after, rs = before ++ r :: after → r.reads = true →
    (s.after before).AnsweredBy r c
  /-- If they are read before any are given, they are the ones that are found then. -/
  found : ∀ before r after, rs = before ++ r :: after → r.reads = true →
    before.any Request.settles = false → c = (s.after before).found

namespace SettlesOn

variable {s : Session} {r : Request} {rs : List Request} {c : Settings}

/-- Requests that do not settle the settings may come first. -/
theorem cons (h : (s.answer r).2.SettlesOn rs c) (hr : r.settles = false) :
    s.SettlesOn (r :: rs) c where
  taken before given after hsplit hfirst := by
    obtain ⟨rfl, hhead⟩ | ⟨before, rfl, rfl⟩ := List.cons_eq_append_iff.1 hsplit
    · cases hhead
      cases hr
    · exact h.taken before given after rfl (by simpa [hr] using hfirst)
  refused before given after hsplit hlater := by
    obtain ⟨rfl, hhead⟩ | ⟨before, rfl, rfl⟩ := List.cons_eq_append_iff.1 hsplit
    · cases hlater
    · exact h.refused before given after rfl (by simpa [hr] using hlater)
  answered before q after hsplit hreads := by
    obtain ⟨rfl, hhead⟩ | ⟨before, rfl, rfl⟩ := List.cons_eq_append_iff.1 hsplit
    · cases hhead
      simp [Request.settles, hreads] at hr
    · exact h.answered before q after rfl hreads
  found before q after hsplit hreads hfirst := by
    obtain ⟨rfl, hhead⟩ | ⟨before, rfl, rfl⟩ := List.cons_eq_append_iff.1 hsplit
    · cases hhead
      simp [Request.settles, hreads] at hr
    · exact h.found before q after rfl hreads (by simpa [hr] using hfirst)

end SettlesOn

end Session

end FrameShader
