import SchemaScript.Proofs.CommandLine.Steps

/-! What an export writes. Once its diagram is loaded, a canonical export delivers the script of the
diagram, and an adapted one what the adaptation gives; if that fails, it delivers the canonical script
or nothing. An export that stops before has written nothing. -/

namespace SchemaScript

/-- Writes a text to a file, making the directories its path goes through. -/
def FileTree.save (t : FileTree) (directory : Location) (p : Path) (s : String) :
    Except FileError FileTree := do
  (← t.ensureDirectories directory p.parent).write directory p s

namespace CommandLine

/-! Delivering -/

theorem onFiles_of_ok {f : FileTree → Location → Except FileError FileTree} {t : Terminal}
    {files : FileTree} (h : f t.session.host.files t.session.host.directory = .ok files) :
    onFiles f t = (.ok (), { t with session.host.files := files }) := by
  unfold onFiles
  rw [get_bind_apply, h]
  rfl

theorem onFiles_of_error {f : FileTree → Location → Except FileError FileTree} {t : Terminal}
    {e : FileError} (h : f t.session.host.files t.session.host.directory = .error e) :
    onFiles f t = (.error (.escaped (.file e)), t) := by
  unfold onFiles
  rw [get_bind_apply, h]
  rfl

/-- A run has written a script: to standard output, less its escape sequences, or to the file at a path
as it is. The file may be one that the tree, which holds the log by then, does not allow. -/
def Delivers (h : Host) (sql : String) (out : Option String) (r : Ending × Terminal) : Prop :=
  match out with
  | none => r.1 = .exit 0 ∧ r.2.stdout = Text.withoutSequences sql
  | some path =>
    r.2.stdout = "" ∧
      (r.1 = .exit 0 ∧
        r.2.session.host.files.find h.directory (.ofText path) = .ok (.file (.text sql)) ∨
      ∃ e files, r.1 = .escaped (.file e) ∧ h.files.Grows h.LogsTo files ∧
        files.save h.directory (.ofText path) sql = .error e)

/-- The end of a run whose steps come to this. -/
def finish : Except Ending Unit × Terminal → Ending × Terminal
  | (.ok (), t) => (.exit 0, t)
  | (.error e, t) => (e, t)

theorem run_of_command (services : Services) (h : Host) {arguments : List String} {c : Command}
    (hc : command? arguments = some c) :
    run services h arguments = finish (c.steps services (start h)) := by
  unfold run start
  rw [hc]
  dsimp only
  rcases c.steps services ⟨.start h, .fresh, "", ""⟩ with ⟨_ | _, t⟩
  · rfl
  · rfl

theorem delivers_deliver (sql : String) (out : Option String) {h : Host} {t : Terminal}
    (ht : Silent h t) :
    Delivers h sql out (finish (deliver sql out t)) := by
  cases out with
  | none =>
    refine ⟨rfl, ?_⟩
    show t.stdout ++ Text.withoutSequences sql = Text.withoutSequences sql
    rw [ht.stdout, String.empty_append]
  | some path =>
    unfold deliver
    dsimp only
    have hdirectory := ht.host.directory
    have hsave : t.session.host.files.save h.directory (.ofText path) sql =
      t.session.host.files.ensureDirectories h.directory (Path.ofText path).parent >>= fun files =>
        files.write h.directory (.ofText path) sql := rfl
    cases hensure : t.session.host.files.ensureDirectories h.directory (Path.ofText path).parent with
    | error e =>
      rw [hensure] at hsave
      rw [bind_of_error (onFiles_of_error (by rw [hdirectory]; exact hensure))]
      exact ⟨ht.stdout, .inr ⟨e, t.session.host.files, rfl, ht.host.files, hsave⟩⟩
    | ok files =>
      rw [hensure] at hsave
      rw [bind_of_ok (onFiles_of_ok (by rw [hdirectory]; exact hensure))]
      cases hwrite : files.write h.directory (Path.ofText path) sql with
      | error e =>
        rw [bind_of_error (onFiles_of_error (by rw [hdirectory]; exact hwrite))]
        exact ⟨ht.stdout, .inr ⟨e, t.session.host.files, rfl, ht.host.files, hsave.trans hwrite⟩⟩
      | ok files' =>
        rw [bind_of_ok (onFiles_of_ok (by rw [hdirectory]; exact hwrite))]
        exact ⟨ht.stdout, .inl ⟨rfl, FileTree.find_of_write hwrite⟩⟩

/-! Ending early -/

/-- A run has ended like this and written nothing: nothing to standard output, and no file but the log
file. -/
structure EndsEarly (h : Host) (e : Ending) (r : Ending × Terminal) : Prop where
  ending : r.1 = e
  stdout : r.2.stdout = ""
  files : h.files.Grows h.LogsTo r.2.session.host.files

theorem Silent.endsEarly {h : Host} {t : Terminal} (ht : Silent h t) (e : Ending) :
    EndsEarly h e (finish (.error e, t)) :=
  ⟨rfl, ht.stdout, ht.host.files⟩

/-! Exporting -/

/-- What an adaptation comes to in a fresh session on a host, and the diagram it leaves. -/
def attempt (services : Services) (p : Host) (d : Diagram) (o : Options) :
    Except (ExportError AdaptationError) String × Diagram :=
  (d.exportAdapted (Dialect.adapt (Session.clientChat services)) o.dialect o.untilStable (.start p)).1

/-- What an adaptation comes to if the client replies the same to every message. -/
theorem attempt_of_reply {services : Services} {p : Host} {d : Diagram} {o : Options} {s : Settings}
    {reply : Except Failure String} {sql : String} (hs : p.settings = some s)
    (hdialect : Diagram.Exportable o.dialect)
    (hsql : (d.exportScript true o.untilStable).sql = .ok sql) (hne : sql ≠ "")
    (hreply : ∀ ms, (Client.fresh.chat services s ms).reply = reply) :
    ∃ dialect : Dialect, (attempt services p d o).1 =
      (dialect.conclude (some <$> reply)).mapError .adapter := by
  have hkept : (Session.start p).host.settings.isSome := Option.isSome_iff_exists.mpr ⟨s, hs⟩
  obtain ⟨dialect, hexport⟩ := d.exists_exportDialect hdialect hkept
  obtain ⟨s₁, hsides₁, hexported⟩ := Diagram.exportAdapted_eq
    (Dialect.adapt (Session.clientChat services)) hexport hsql
  obtain ⟨prompt, s₂, -, hsides₂, hadapted⟩ :=
    Dialect.adapt_eq (Session.clientChat services) dialect sql s₁
  have hsettings : s₂.host.settings = some s := by
    rw [hsides₂.1, hsides₁.1]
    exact hs
  have hfresh : s₂.client = .fresh := hsides₂.2.trans hsides₁.2
  refine ⟨dialect, ?_⟩
  unfold attempt
  rw [hexported, if_neg hne, hadapted, Session.reply_clientChat hsettings, hfresh, hreply]

variable (services : Services) {h p : Host} {file : String} {o : Options} {d : Diagram} {sql : String}

theorem outcome_attempt (hp : h.opened? = some p) (hdialect : Diagram.Exportable o.dialect)
    (hsql : (d.exportScript true o.untilStable).sql = .ok sql) :
    ∃ r : Except AdaptationError String, (∀ e, r ≠ .error (.prompt e)) ∧
      attempt services p d o = (r.mapError .adapter, (d.exportScript true o.untilStable).diagram) := by
  obtain ⟨s, hs⟩ := Host.kept_of_opened hp
  exact Diagram.outcome_exportAdapted hdialect (Option.isSome_iff_exists.mpr ⟨s, hs⟩) hsql

theorem exists_load (hp : prepared? h o.logLevel = some p) (hd : diagramAt p file = .ok d) :
    ∃ t, setUpLogging o.logLevel (start h) = (.ok (), t) ∧ load file t = (.ok d, t) ∧
      t.session = .start p ∧ Silent h t ∧ h.opened? = some p := by
  obtain ⟨t, hsetUp, hsession, hsilent, hopened⟩ := exists_setUpLogging hp
  have hload : load file t = (.ok d, t) := load_of_ok (by rw [hsession]; exact hd)
  exact ⟨t, hsetUp, hload, hsession, hsilent, hopened⟩

/-- A canonical export of a diagram that loads delivers its script. -/
theorem delivers_runCanonical (hp : prepared? h o.logLevel = some p)
    (hd : diagramAt p file = .ok d)
    (hsql : (d.exportScript o.widen o.untilStable).sql = .ok sql) :
    Delivers h sql o.out (finish (runCanonical file o (start h))) := by
  obtain ⟨t₁, hsetUp, hload, -, hsilent, -⟩ := exists_load hp hd
  obtain ⟨t₂, hreported, hquiet⟩ := quiet_reported hsql hsilent.logger
  unfold runCanonical
  rw [bind_of_ok hsetUp, bind_of_ok hload, bind_of_ok hreported]
  exact delivers_deliver _ _ (hsilent.quiet hquiet)

theorem exists_onSession_attempt {t : Terminal} (hp : h.opened? = some p) (hsilent : Silent h t)
    (hsession : t.session = .start p) (d : Diagram) (o : Options) :
    ∃ t', onSession (d.exportAdapted (Dialect.adapt (Session.clientChat services)) o.dialect
      o.untilStable) t = (.ok (attempt services p d o), t') ∧ Silent h t' := by
  obtain ⟨s, hs⟩ := Host.kept_of_opened hp
  have hadapter := Dialect.keeps_adapt (Session.keeps_clientChat services)
  have hsame := Diagram.keeps_exportAdapted hadapter d o.dialect o.untilStable t.session
    (by rw [hsession]; exact Option.isSome_iff_exists.mpr ⟨s, hs⟩)
  obtain ⟨t', hrun, hquiet⟩ := quiet_onSession hsilent.logger hsame
  rw [hsession] at hrun
  exact ⟨t', hrun, hsilent.quiet hquiet⟩

/-- An adapted export, once its diagram is loaded and its dialect known, delivers what the adaptation
gives; if that fails, it delivers the canonical script or ends without having written anything. -/
theorem delivers_runAdapted (hp : prepared? h o.logLevel = some p) (hd : diagramAt p file = .ok d)
    (hdialect : Diagram.Exportable o.dialect)
    (hsql : (d.exportScript true o.untilStable).sql = .ok sql) :
    (∀ adapted, (attempt services p d o).1 = .ok adapted →
      Delivers h adapted o.out (finish (runAdapted services file o (start h)))) ∧
    (∀ e, (attempt services p d o).1 = .error e →
      if o.fallback then Delivers h sql o.out (finish (runAdapted services file o (start h)))
      else EndsEarly h (.exit 1) (finish (runAdapted services file o (start h)))) := by
  obtain ⟨t₁, hsetUp, hload, hsession, hsilent, hopened⟩ := exists_load hp hd
  have hcheck := checkDialect_of_exportable hdialect t₁
  obtain ⟨t₂, hattempt, hsilent₂⟩ := exists_onSession_attempt services hopened hsilent hsession d o
  obtain ⟨r, hprompt, hr⟩ := outcome_attempt services hopened hdialect hsql
  unfold runAdapted
  rw [bind_of_ok hsetUp, bind_of_ok hload, bind_of_ok hcheck]
  dsimp only
  rw [bind_of_ok hattempt, hr]
  cases r with
  | ok adapted =>
    refine ⟨fun _ hadapted => ?_, fun e he => nomatch he⟩
    cases hadapted
    exact delivers_deliver _ _ hsilent₂
  | error e =>
    refine ⟨fun _ hadapted => (nomatch hadapted), fun _ _ => ?_⟩
    have hreport : reportedFailure? (.adapter e) = some e :=
      reportedFailure?_adapter fun p hp => hprompt p (hp ▸ rfl)
    obtain ⟨t₃, hsay, hquiet₃⟩ := quiet_say (errorLine e.message) t₂
    have hsilent₃ := hsilent₂.quiet hquiet₃
    dsimp only [Except.mapError]
    rw [hreport]
    dsimp only
    rw [bind_of_ok hsay]
    split
    · obtain ⟨t₄, hsay', hquiet₄⟩ := quiet_say fallbackLine t₃
      have hsilent₄ := hsilent₃.quiet hquiet₄
      obtain ⟨t₅, hreported, hquiet₅⟩ := quiet_reported hsql hsilent₄.logger
      rw [bind_of_ok hsay', bind_of_ok hreported]
      exact delivers_deliver _ _ (hsilent₄.quiet hquiet₅)
    · exact hsilent₃.endsEarly (.exit 1)

theorem exists_load_error {e : LoadError} (hp : prepared? h o.logLevel = some p)
    (hd : diagramAt p file = .error e) :
    ∃ t₁ t₂, setUpLogging o.logLevel (start h) = (.ok (), t₁) ∧
      load file t₁ = (.error (loadEnding e), t₂) ∧ Silent h t₂ := by
  obtain ⟨t₁, hsetUp, hsession, hsilent, -⟩ := exists_setUpLogging hp
  obtain ⟨t₂, hload, hquiet⟩ := load_of_error (t := t₁) (by rw [hsession]; exact hd)
  exact ⟨t₁, t₂, hsetUp, hload, hsilent.quiet hquiet⟩

theorem runCanonical_endsEarly {e : LoadError} (hp : prepared? h o.logLevel = some p)
    (hd : diagramAt p file = .error e) :
    EndsEarly h (loadEnding e) (finish (runCanonical file o (start h))) := by
  obtain ⟨t₁, t₂, hsetUp, hload, hsilent⟩ := exists_load_error hp hd
  unfold runCanonical
  rw [bind_of_ok hsetUp, bind_of_error hload]
  exact hsilent.endsEarly _

theorem runAdapted_endsEarly {e : LoadError} (hp : prepared? h o.logLevel = some p)
    (hd : diagramAt p file = .error e) :
    EndsEarly h (loadEnding e) (finish (runAdapted services file o (start h))) := by
  obtain ⟨t₁, t₂, hsetUp, hload, hsilent⟩ := exists_load_error hp hd
  unfold runAdapted
  rw [bind_of_ok hsetUp, bind_of_error hload]
  exact hsilent.endsEarly _

theorem runAdapted_endsEarly_of_dialect (hp : prepared? h o.logLevel = some p)
    (hd : diagramAt p file = .ok d) (hdialect : ¬ Diagram.Exportable o.dialect) :
    EndsEarly h (.exit 2) (finish (runAdapted services file o (start h))) := by
  obtain ⟨t₁, hsetUp, hload, -, hsilent, -⟩ := exists_load hp hd
  obtain ⟨t₂, hcheck, hquiet⟩ := checkDialect_of_not_exportable hdialect t₁
  unfold runAdapted
  rw [bind_of_ok hsetUp, bind_of_ok hload, bind_of_error hcheck]
  exact (hsilent.quiet hquiet).endsEarly _

end CommandLine

end SchemaScript
