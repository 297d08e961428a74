import SchemaScript.CommandLine.Run
import SchemaScript.Proofs.Adaptation.Outcome
import SchemaScript.Proofs.Diagram.Digits
import SchemaScript.Proofs.Logging.SetUp

/-! The steps of a command. Up to the delivery of a script every step is quiet: it writes nothing to
standard output, and no file but the log file. -/

namespace SchemaScript.CommandLine

/-- Nothing is written to standard output, and no file but at some places. -/
structure Quiet (places : Location → Prop) (t t' : Terminal) : Prop where
  stdout : t'.stdout = t.stdout
  logger : t'.logger = t.logger
  host : t.session.host.Grows places t'.session.host

variable {places : Location → Prop}

theorem Quiet.refl (t : Terminal) : Quiet places t t := ⟨rfl, rfl, .same rfl rfl⟩

theorem Quiet.trans {t₁ t₂ t₃ : Terminal} (h : Quiet places t₁ t₂) (h' : Quiet places t₂ t₃) :
    Quiet places t₁ t₃ :=
  ⟨h'.stdout.trans h.stdout, h'.logger.trans h.logger, trans_of (Host.Grows places) h.host h'.host⟩

theorem grows_foldl_log {r : Running} (hr : r.logger.Within places) (es : List Entry) :
    r.host.Grows places (es.foldl (fun r e => r.log e) r).host := by
  induction es generalizing r with
  | nil => exact .same rfl rfl
  | cons e es ih =>
    have hlogger : (r.log e).logger.Within places := by
      rw [Running.logger_log]
      exact hr
    exact trans_of (Host.Grows places) (Running.grows_log e hr) (ih hlogger)

theorem quiet_log {t : Terminal} (ht : t.logger.Within places) (es : List Entry) :
    Quiet places t (t.log es) :=
  ⟨rfl, rfl, grows_foldl_log (r := ⟨t.session.host, t.logger, ""⟩) ht es⟩

theorem quiet_say (line : String) (t : Terminal) :
    ∃ t', say line t = (.ok (), t') ∧ Quiet places t t' := ⟨_, rfl, rfl, rfl, .same rfl rfl⟩

/-- A step of the session that leaves the host alone is quiet, whatever it reports. -/
theorem quiet_onSession {x : OnSession α} {t : Terminal} (ht : t.logger.Within places)
    (hx : (x t.session).2.host = t.session.host) :
    ∃ t', onSession x t = (.ok (x t.session).1, t') ∧ Quiet places t t' := by
  unfold onSession
  rcases hrun : x t.session with ⟨a, session⟩
  rw [hrun] at hx
  have hdirectory : session.host.directory = t.session.host.directory := congrArg Host.directory hx
  have hfiles : session.host.files = t.session.host.files := congrArg Host.files hx
  dsimp only [Host.takeNotices]
  have hshown : Quiet places t { t with
      session := { session with host := { session.host with notices := [] } }
      stderr := t.stderr ++ String.join (session.host.notices.map (· ++ "\n")) } :=
    ⟨rfl, rfl, .same hdirectory hfiles⟩
  exact ⟨_, rfl, hshown.trans (quiet_log (by exact ht) _)⟩

theorem quiet_reported {e : Exported} {sql : String} (hsql : e.sql = .ok sql) {t : Terminal}
    (ht : t.logger.Within places) : ∃ t', reported e t = (.ok sql, t') ∧ Quiet places t t' := by
  obtain ⟨t', hrun, hquiet⟩ := quiet_onSession (x := Session.report e.journal) ht rfl
  refine ⟨t', ?_, hquiet⟩
  unfold reported
  rw [bind_of_ok hrun, hsql]
  rfl

/-! Loading -/

/-- The exit code of the program. An error that no command handles ends it with 1. -/
def Ending.code : Ending → Nat
  | .exit n => n
  | .escaped _ => 1

/-- How a command ends that cannot load its diagram. -/
def loadEnding (e : LoadError) : Ending :=
  match loadMessage e with
  | .ok _ => .exit 1
  | .error f => .escaped (.file f)

theorem code_loadEnding (e : LoadError) : (loadEnding e).code = 1 := by
  unfold loadEnding
  cases loadMessage e with
  | ok message => rfl
  | error f => rfl

/-- What the path of a diagram gives on a host. -/
def diagramAt (h : Host) (file : String) : Except LoadError Diagram :=
  h.files.loadDiagram h.directory (.ofText file)

/-- A diagram that is loaded has a script. -/
theorem exists_sql_of_diagramAt {h : Host} {file : String} {d : Diagram}
    (hd : diagramAt h file = .ok d) (widenTypes untilStable : Bool) :
    ∃ sql, (d.exportScript widenTypes untilStable).sql = .ok sql :=
  (Diagram.digitsWithin_of_loadDiagram hd).exists_sql widenTypes untilStable

theorem load_of_ok {t : Terminal} {file : String} {d : Diagram}
    (h : diagramAt t.session.host file = .ok d) : load file t = (.ok d, t) := by
  unfold diagramAt at h
  unfold load
  rw [get_bind_apply, h]
  rfl

theorem load_of_error {t : Terminal} {file : String} {e : LoadError}
    (h : diagramAt t.session.host file = .error e) :
    ∃ t', load file t = (.error (loadEnding e), t') ∧ Quiet places t t' := by
  unfold diagramAt at h
  unfold load loadEnding
  rw [get_bind_apply, h]
  dsimp only
  cases loadMessage e with
  | ok message =>
    obtain ⟨t', hsay, hquiet⟩ := quiet_say (errorLine message) t
    exact ⟨t', bind_of_ok hsay, hquiet⟩
  | error f => exact ⟨t, rfl, .refl t⟩

/-- A command reports every error of an adaptation that has got as far as asking. -/
theorem reportedFailure?_adapter {e : AdaptationError} (h : ∀ p, e ≠ .prompt p) :
    reportedFailure? (.adapter e) = some e := by
  cases e with
  | prompt p => exact absurd rfl (h p)
  | chat d f => rfl
  | emptyReply d => rfl

theorem checkDialect_of_exportable {asked : Option String} (h : Diagram.Exportable asked)
    (t : Terminal) : checkDialect asked t = (.ok (), t) := by
  cases asked with
  | none => rfl
  | some name =>
    unfold checkDialect
    dsimp only
    rw [if_pos (h name rfl)]
    rfl

theorem checkDialect_of_not_exportable {asked : Option String} (h : ¬ Diagram.Exportable asked)
    (t : Terminal) : ∃ t', checkDialect asked t = (.error (.exit 2), t') ∧ Quiet places t t' := by
  cases asked with
  | none => exact absurd (fun _ hnone => nomatch hnone) h
  | some name =>
    have hparse : ¬ (Dialect.parse? name).isSome := by
      intro hsome
      apply h
      rintro _ ⟨⟩
      exact hsome
    obtain ⟨t', hsay, hquiet⟩ := quiet_say (errorLine (Dialect.unknownMessage name)) t
    unfold checkDialect
    dsimp only
    rw [if_neg hparse]
    exact ⟨t', bind_of_ok hsay, hquiet⟩

/-! Setting up -/

/-- The host once logging is set up with a level, if it can be. -/
def prepared? (h : Host) (level : Option String) : Option Host :=
  match Running.setUpLogging ⟨level, none, none⟩ (.start h) with
  | (.ok (), r) => some r.host
  | (.error _, _) => none

def start (h : Host) : Terminal := ⟨.start h, .fresh, "", ""⟩

/-- A terminal to which a command has not written anything yet but log lines and what is said on standard
error. -/
structure Silent (h : Host) (t : Terminal) : Prop where
  stdout : t.stdout = ""
  logger : t.logger.Within h.LogsTo
  host : h.Grows h.LogsTo t.session.host

theorem Silent.quiet {h : Host} {t t' : Terminal} (ht : Silent h t) (hquiet : Quiet h.LogsTo t t') :
    Silent h t' :=
  ⟨hquiet.stdout.trans ht.stdout, hquiet.logger ▸ ht.logger,
    trans_of (Host.Grows h.LogsTo) ht.host hquiet.host⟩

/-- A set-up that succeeds starts a session on the opened host. -/
theorem exists_setUpLogging {h p : Host} {level : Option String} (hp : prepared? h level = some p) :
    ∃ t, setUpLogging level (start h) = (.ok (), t) ∧ t.session = .start p ∧ Silent h t ∧
      h.opened? = some p := by
  unfold prepared? at hp
  unfold setUpLogging start
  rcases hrun : Running.setUpLogging ⟨level, none, none⟩ (.start h) with ⟨_ | _, r⟩
  · rw [hrun] at hp
    cases hp
  · rw [hrun] at hp
    cases hp
    obtain ⟨hopened, hlogger⟩ := Running.setUpLogging_eq_ok hrun
    have hrun : Running.setUpLogging ⟨level, none, none⟩ (.start (Session.start h).host) = _ := hrun
    dsimp only
    rw [hrun]
    exact ⟨_, rfl, rfl, ⟨rfl, hlogger, Host.grows_of_opened hopened⟩, hopened⟩

/-- The level that is asked for does not change the host. -/
theorem prepared_unique {h p p' : Host} {level level' : Option String}
    (hp : prepared? h level = some p) (hp' : prepared? h level' = some p') : p' = p := by
  obtain ⟨_, -, -, -, hopened⟩ := exists_setUpLogging hp
  obtain ⟨_, -, -, -, hopened'⟩ := exists_setUpLogging hp'
  exact Option.some.inj (hopened'.symm.trans hopened)

end SchemaScript.CommandLine
