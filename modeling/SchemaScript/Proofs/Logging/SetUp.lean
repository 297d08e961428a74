import SchemaScript.Logging.Basic
import SchemaScript.Proofs.Settings.Reading

/-! Setting logging up and logging. Once logging is set up, the settings are kept, and the only file that
is written then, or by any entry that is logged later, is the log file the settings name. The host
that set-up leaves does not depend on the level that was asked for. -/

namespace SchemaScript

/-- The location of the log file that the settings of a host name, if they name one. -/
def Host.LogsTo (h : Host) (l : Location) : Prop :=
  ∃ s p, (Settings.current h).1 = .ok s ∧ s.logFile = some p ∧ (p.absolute h.directory).names = l

/-- The host once its settings are read and the log file they name is open, if nothing of this fails. -/
def Host.opened? (h : Host) : Option Host :=
  match Settings.current h with
  | (.error _, _) => none
  | (.ok s, h) =>
    let h := h.takeNotices.2
    match s.logFile with
    | none => some h
    | some p =>
      match h.files.append [] (p.absolute h.directory) "" with
      | .ok files => some { h with files }
      | .error _ => none

/-- The handlers write to files at some places only. -/
def Logger.Within (places : Location → Prop) (l : Logger) : Prop :=
  ∀ k ∈ l.handlers, ∀ p, k.file = some p → ".." ∉ p.names ∧ places p.names

variable {places : Location → Prop}

namespace Running

theorem exists_of_settings_eq_ok {r r' : Running} {s : Settings} (h : settings r = (.ok s, r')) :
    ∃ host, Settings.current r.host = (.ok s, host) ∧ r'.host = host.takeNotices.2 := by
  unfold settings at h
  rcases hcurrent : Settings.current r.host with ⟨result, host⟩
  rw [hcurrent] at h
  cases result with
  | ok s =>
    cases h
    exact ⟨host, rfl, rfl⟩
  | error e => cases h

theorem host_of_freshThreshold {level : Nat ⊕ Logger.NoLevel} {n : Nat} {r r' : Running}
    (h : freshThreshold level r = (.ok n, r')) : r'.host = r.host := by
  obtain ⟨_, r₁, hmodify, h⟩ := exists_of_bind_eq_ok h
  cases hmodify
  cases level with
  | inl n =>
    cases h
    rfl
  | inr other => cases h

theorem exists_of_openFile_eq_ok {p : Path} {r r' : Running} (h : openFile p r = (.ok (), r')) :
    ∃ files, r.host.files.append [] p "" = .ok files ∧
      r' = { r with host := { r.host with files } } := by
  unfold openFile at h
  rw [get_bind_apply] at h
  cases happend : r.host.files.append [] p "" with
  | ok files =>
    rw [happend] at h
    cases h
    exact ⟨files, rfl, rfl⟩
  | error e =>
    rw [happend] at h
    cases h

/-- A set-up that succeeds has read the settings and made a handler for standard error, and one for the
log file if the settings name one. -/
theorem exists_of_setUpLogging_eq_ok {level : Option String} {r r' : Running}
    (h : setUpLogging ⟨level, none, none⟩ r = (.ok (), r')) :
    ∃ s r₁ n format, settings r = (.ok s, r₁) ∧
      (s.logFile = none ∧ r'.host = r₁.host ∧ r'.logger.handlers = [⟨n, format, none⟩] ∨
        ∃ p files, s.logFile = some p ∧
          r₁.host.files.append [] (p.absolute r₁.host.directory) "" = .ok files ∧
          r'.host = { r₁.host with files } ∧
          r'.logger.handlers =
            [⟨n, format, none⟩, ⟨n, format, some (p.absolute r₁.host.directory)⟩]) := by
  obtain ⟨s, r₁, hsettings, h⟩ := exists_of_bind_eq_ok h
  dsimp only at h
  rcases hlevel : Logger.level? (Text.upper (chosen level s.logLevel)) with _ | number
  · rw [hlevel] at h
    obtain ⟨_, _, hthrow, -⟩ := exists_of_bind_eq_ok h
    cases hthrow
  rw [hlevel] at h
  obtain ⟨_, r₂, hpure, h⟩ := exists_of_bind_eq_ok h
  cases hpure
  by_cases hvalid : (!Format.isValid (chosen none Logger.defaultFormat).toList) = true
  · rw [if_pos hvalid] at h
    obtain ⟨_, _, hthrow, -⟩ := exists_of_bind_eq_ok h
    cases hthrow
  rw [if_neg hvalid] at h
  obtain ⟨n, r₃, hfresh, h⟩ := exists_of_bind_eq_ok h
  obtain ⟨_, r₄, hmodify, h⟩ := exists_of_bind_eq_ok h
  have hhost := host_of_freshThreshold hfresh
  cases hmodify
  refine ⟨s, r₁, n, chosen none Logger.defaultFormat, hsettings, ?_⟩
  cases hlog : s.logFile with
  | none =>
    rw [hlog] at h
    cases h
    exact .inl ⟨rfl, hhost, rfl⟩
  | some p =>
    rw [hlog] at h
    obtain ⟨_, _, hget, h⟩ := exists_of_bind_eq_ok h
    cases hget
    obtain ⟨_, r₅, hopen, h⟩ := exists_of_bind_eq_ok h
    obtain ⟨files, happend, hr₅⟩ := exists_of_openFile_eq_ok hopen
    cases h
    rw [hhost] at happend
    refine .inr ⟨p, files, rfl, happend, ?_, ?_⟩
    · rw [hr₅, ← hhost]
    · rw [hr₅, ← hhost]
      rfl

/-- A set-up that succeeds leaves the opened host, and a logger that writes to no file but the log
file. -/
theorem setUpLogging_eq_ok {h : Host} {level : Option String} {r : Running}
    (hr : setUpLogging ⟨level, none, none⟩ (start h) = (.ok (), r)) :
    h.opened? = some r.host ∧ r.logger.Within h.LogsTo := by
  obtain ⟨s, r₁, n, format, hsettings, hrest⟩ := exists_of_setUpLogging_eq_ok hr
  obtain ⟨host, hcurrent, hhost⟩ := exists_of_settings_eq_ok hsettings
  have hcurrent : Settings.current h = (.ok s, host) := hcurrent
  have hdirectory : r₁.host.directory = h.directory := by
    have hkeeps : h.Grows (fun _ => True) (Settings.current.run h).2 := Settings.keeps_current h
    rw [ExceptT.run, hcurrent] at hkeeps
    rw [hhost]
    exact hkeeps.directory
  unfold Host.opened? Logger.Within
  rw [hcurrent]
  dsimp only
  rcases hrest with ⟨hlog, hsame, hhandlers⟩ | ⟨p, files, hlog, happend, hsame, hhandlers⟩
  · rw [hlog, hhandlers, hsame, hhost]
    refine ⟨rfl, fun k hk q hq => ?_⟩
    rw [List.mem_singleton] at hk
    rw [hk] at hq
    cases hq
  · rw [hlog, hhandlers, hsame, ← hhost]
    dsimp only
    rw [happend]
    refine ⟨rfl, fun k hk q hq => ?_⟩
    rw [List.mem_cons, List.mem_singleton] at hk
    rcases hk with rfl | rfl
    · cases hq
    · cases hq
      exact ⟨Path.not_mem_absolute _ _, s, p, congrArg Prod.fst hcurrent, hlog, by rw [hdirectory]⟩

/-! Entries -/

theorem logger_handle (e : Entry) (r : Running) (k : Handler) : (handle e r k).logger = r.logger := by
  unfold handle
  repeat' split
  all_goals rfl

theorem grows_handle (e : Entry) (r : Running) {k : Handler}
    (hk : ∀ p, k.file = some p → ".." ∉ p.names ∧ places p.names) :
    r.host.Grows places (handle e r k).host := by
  unfold handle
  split
  · exact .same rfl rfl
  · split
    · exact .same rfl rfl
    · exact .same rfl rfl
    · rename_i p _ hp
      split
      · rename_i files happend
        exact ⟨rfl, FileTree.grows_append happend (hk p hp).1 (hk p hp).2⟩
      · exact .same rfl rfl

theorem logger_log (e : Entry) (r : Running) : (log e r).logger = r.logger := by
  have hfold : ∀ (ks : List Handler) (r : Running), (ks.foldl (handle e) r).logger = r.logger := by
    intro ks
    induction ks with
    | nil => exact fun _ => rfl
    | cons k ks ih =>
      intro r
      rw [List.foldl_cons, ih, logger_handle]
  unfold log
  split
  · rfl
  · exact hfold _ r

theorem grows_log (e : Entry) {r : Running} (hr : r.logger.Within places) :
    r.host.Grows places (log e r).host := by
  have hfold : ∀ (ks : List Handler) (r : Running),
      (∀ k ∈ ks, ∀ p, k.file = some p → ".." ∉ p.names ∧ places p.names) →
      r.host.Grows places (ks.foldl (handle e) r).host := by
    intro ks
    induction ks with
    | nil => exact fun _ _ => .same rfl rfl
    | cons k ks ih =>
      intro r hks
      have hfirst : r.host.Grows places (handle e r k).host :=
        grows_handle e r (hks k List.mem_cons_self)
      exact trans_of (Host.Grows places) hfirst
        (ih (handle e r k) fun k' hk' => hks k' (List.mem_cons_of_mem k hk'))
  unfold log
  split
  · exact .same rfl rfl
  · exact hfold _ r hr

end Running

/-! The opened host -/

namespace Host

theorem exists_of_opened {h p : Host} (hp : h.opened? = some p) :
    ∃ s host, Settings.current h = (.ok s, host) ∧ p.settings = host.settings ∧
      p.directory = host.directory ∧
      (p.files = host.files ∨ ∃ q, s.logFile = some q ∧
        host.files.append [] (q.absolute host.directory) "" = .ok p.files) := by
  unfold opened? at hp
  rcases hcurrent : Settings.current h with ⟨_ | s, host⟩
  · rw [hcurrent] at hp
    cases hp
  rw [hcurrent] at hp
  dsimp only [takeNotices] at hp
  refine ⟨s, host, rfl, ?_⟩
  cases hlog : s.logFile with
  | none =>
    rw [hlog] at hp
    cases hp
    exact ⟨rfl, rfl, .inl rfl⟩
  | some q =>
    rw [hlog] at hp
    dsimp only at hp
    split at hp
    · rename_i happend
      cases hp
      exact ⟨rfl, rfl, .inr ⟨q, rfl, happend⟩⟩
    · cases hp

theorem kept_of_opened {h p : Host} (hp : h.opened? = some p) : ∃ s, p.settings = some s := by
  obtain ⟨s, host, hcurrent, hsettings, -, -⟩ := exists_of_opened hp
  exact ⟨s, hsettings.trans (Settings.kept_of_current hcurrent)⟩

theorem grows_of_opened {h p : Host} (hp : h.opened? = some p) : h.Grows h.LogsTo p := by
  obtain ⟨s, host, hcurrent, -, hdirectory, hfiles⟩ := exists_of_opened hp
  have hkeeps : h.Grows h.LogsTo (Settings.current.run h).2 := Settings.keeps_current h
  rw [ExceptT.run, hcurrent] at hkeeps
  refine ⟨hdirectory.trans hkeeps.directory, hkeeps.files.trans ?_⟩
  rcases hfiles with hsame | ⟨q, hlog, happend⟩
  · rw [hsame]
    exact .refl _
  · have hplace : h.LogsTo (q.absolute host.directory).names :=
      ⟨s, q, congrArg Prod.fst hcurrent, hlog, by rw [hkeeps.directory]⟩
    exact FileTree.grows_append happend (Path.not_mem_absolute _ _) hplace

end Host

end SchemaScript
