import SchemaScript.Proofs.Adaptation.Asking
import SchemaScript.Proofs.Script.Exported

/-! What an export to a dialect does with its adapter. The dialect is found before anything else, and
where there is none nothing is done. Then the diagram is widened, and its script goes to the adapter,
once; a diagram of views has an empty script, and no adapter is called for it, nor for one that has no
script. However the export ends after that, the diagram stays widened. -/

namespace SchemaScript.Diagram

open Session

/-- The dialect an export aims at: the one asked for, else that of the diagram, else that of the
settings. -/
inductive Aims (d : Diagram) (s : Session) : Option String → Dialect → Prop
  | asked {name : String} {target : Dialect} (h : Dialect.parse? name = some target) :
    Aims d s (some name) target
  | own {target : Dialect} (h : d.dialect = some target) : Aims d s none target
  | configured {settings : Settings} (h : d.dialect = none)
    (hsettings : (Session.settings s).1 = .ok settings) : Aims d s none settings.dialect

theorem Aims.exists_exportDialect {d : Diagram} {s : Session} {asked : Option String}
    {target : Dialect} (h : d.Aims s asked target) :
    ∃ s₁, Remembers s s₁ ∧ d.exportDialect asked s = (.ok target, s₁) := by
  unfold exportDialect
  cases h with
  | asked h =>
    refine ⟨s, refl_of Remembers s, ?_⟩
    dsimp only
    rw [h]
    rfl
  | own h =>
    refine ⟨s, refl_of Remembers s, ?_⟩
    rw [h]
    rfl
  | configured h hsettings =>
    refine ⟨(Session.settings s).2, remembers_settings s, ?_⟩
    rw [h]
    dsimp only
    rw [bind_apply, hsettings]
    rfl

/-- What is made of the answer of an adapter, once the diagram is widened. -/
def afterAdapter (d : Diagram) (untilStable : Bool) (answer : Except ε String) :
    OnSession (Except (ExportError ε) String × Diagram) :=
  pure (answer.mapError .adapter, (d.exportScript true untilStable).diagram)

/-- Once the dialect is known, what is left of an export is to report, and to call the adapter with the
script if there is one and it is not empty. -/
theorem exportAdapted_eq_of_dialect {d : Diagram} {asked : Option String} {s s₁ : Session}
    {target : Dialect} (h : d.exportDialect asked s = (.ok target, s₁)) (untilStable : Bool) :
    ∃ s₂, Remembers s₁ s₂ ∧ ∀ adapter : Adapter ε, d.exportAdapted adapter asked untilStable s =
      match (d.exportScript true untilStable).sql with
      | .error f => ((.error (.number f), (d.exportScript true untilStable).diagram), s₂)
      | .ok sql =>
        if sql = "" then ((.ok "", (d.exportScript true untilStable).diagram), s₂)
        else (adapter target sql >>= d.afterAdapter untilStable) s₂ := by
  refine ⟨(report (d.exportScript true untilStable).journal s₁).2, remembers_report _ s₁, ?_⟩
  intro adapter
  unfold exportAdapted
  rw [bind_apply, h]
  dsimp only
  rw [bind_apply]
  cases (d.exportScript true untilStable).sql with
  | error f => rfl
  | ok sql =>
    dsimp only
    split
    · rfl
    · rw [bind_apply, bind_apply]
      generalize (report (d.exportScript true untilStable).journal s₁).2 = s₂
      cases (adapter target sql s₂).1 with
      | ok adapted => rfl
      | error e => rfl

/-- With a script to adapt, the adapter is called once, and its answer is the result. -/
theorem exportAdapted_of_sql {d : Diagram} {asked : Option String} {s : Session} {target : Dialect}
    {untilStable : Bool} {sql : String} (h : d.Aims s asked target)
    (htables : ∃ t ∈ d.tables, t.isView = false)
    (hsql : (d.exportScript true untilStable).sql = .ok sql) :
    ∃ s₂, CallsOnce (fun step : Dialect × String → OnSession (Except ε String) =>
        d.exportAdapted (Function.curry step) asked untilStable) (target, sql) s s₂ ∧
      ∀ adapter : Adapter ε, (d.exportAdapted adapter asked untilStable s).1 =
        ((adapter target sql s₂).1.mapError .adapter, (d.widen untilStable).diagram) := by
  obtain ⟨s₁, hs₁, hdialect⟩ := h.exists_exportDialect
  obtain ⟨s₂, hs₂, heq⟩ := exportAdapted_eq_of_dialect (ε := ε) hdialect untilStable
  obtain ⟨t, ht, hview⟩ := htables
  have hnonempty : ¬ sql = "" := by
    intro hempty
    have hall := (sql_exportScript_eq_empty_iff d untilStable).mp (hempty ▸ hsql) t ht
    simp [hview] at hall
  have hcall (adapter : Adapter ε) : d.exportAdapted adapter asked untilStable s =
      (adapter target sql >>= d.afterAdapter untilStable) s₂ := by
    rw [heq, hsql]
    exact if_neg hnonempty
  refine ⟨s₂, ⟨d.afterAdapter untilStable, trans_of Remembers hs₁ hs₂,
    fun answer => Keeps.pure _, fun step => hcall _⟩, ?_⟩
  intro adapter
  rw [hcall, ← (d.exportScript_widens untilStable).1]
  rfl

/-- Where a size cannot be printed there is no script, and the adapter has no part in the result. -/
theorem exportAdapted_of_sql_error {d : Diagram} {asked : Option String} {s : Session}
    {target : Dialect} {untilStable : Bool} {f : NumberError} (h : d.Aims s asked target)
    (hsql : (d.exportScript true untilStable).sql = .error f) :
    ∃ s₂, ∀ adapter : Adapter ε, d.exportAdapted adapter asked untilStable s =
      ((.error (.number f), (d.widen untilStable).diagram), s₂) := by
  obtain ⟨s₁, -, hdialect⟩ := h.exists_exportDialect
  obtain ⟨s₂, -, heq⟩ := exportAdapted_eq_of_dialect (ε := ε) hdialect untilStable
  refine ⟨s₂, fun adapter => ?_⟩
  rw [heq, hsql, (d.exportScript_widens untilStable).1]

/-- Nor has it where the script is empty. -/
theorem exportAdapted_of_views {d : Diagram} {asked : Option String} {s : Session}
    {target : Dialect} (h : d.Aims s asked target) (untilStable : Bool)
    (hviews : ∀ t ∈ d.tables, t.isView = true) :
    ∃ s₂, ∀ adapter : Adapter ε, d.exportAdapted adapter asked untilStable s =
      ((.ok "", (d.widen untilStable).diagram), s₂) := by
  obtain ⟨s₁, -, hdialect⟩ := h.exists_exportDialect
  obtain ⟨s₂, -, heq⟩ := exportAdapted_eq_of_dialect (ε := ε) hdialect untilStable
  have hsql := (sql_exportScript_eq_empty_iff d untilStable).mpr hviews
  refine ⟨s₂, fun adapter => ?_⟩
  rw [heq, hsql, (d.exportScript_widens untilStable).1]
  rfl

/-- An export that finds no dialect ends with what its search has come to. -/
theorem exportAdapted_of_error {d : Diagram} {asked : Option String} {s s₁ : Session}
    {e : TargetError} (h : d.exportDialect asked s = (.error e, s₁)) (untilStable : Bool)
    (adapter : Adapter ε) :
    d.exportAdapted adapter asked untilStable s = ((.error (.target e), d), s₁) := by
  unfold exportAdapted
  rw [bind_apply, h]
  rfl

theorem exportDialect_of_unknown {name : String} (h : Dialect.parse? name = none) (d : Diagram)
    (s : Session) : d.exportDialect (some name) s = (.error (.unknownDialect name), s) := by
  unfold exportDialect
  dsimp only
  rw [h]
  rfl

theorem exportDialect_of_settings_error {d : Diagram} {s : Session} {e : SettingsError}
    (h : d.dialect = none) (hsettings : (Session.settings s).1 = .error e) :
    d.exportDialect none s = (.error (.settings e), (Session.settings s).2) := by
  unfold exportDialect
  rw [h]
  dsimp only
  rw [bind_apply, hsettings]
  rfl

/-- An export with a dialect it can aim at calls its adapter once, for that dialect and the script of the
widened diagram, if there is a table that is no view, and not at all otherwise; it leaves the diagram
widened, whether or not the adapter succeeds. The same is left where a size has too many digits for the
script, which is the error then, and nothing is called. An export with a dialect that is unknown, or
with settings that cannot be read where they are needed, leaves the diagram as it is and calls nothing.
Adapters may fail in any way. -/
theorem exportAdapted_callsAdapter (ε : Type) (d : Diagram) (asked : Option String)
    (untilStable : Bool) (s : Session) :
    let exporting := fun adapter : Adapter ε => d.exportAdapted adapter asked untilStable
    let e := d.exportScript true untilStable
    let widened := (d.widen untilStable).diagram
    (∀ target, d.Aims s asked target →
      ((∃ t ∈ d.tables, t.isView = false) →
        (∀ sql, e.sql = .ok sql →
          ∃ s₂, CallsOnce (fun step => exporting (Function.curry step)) (target, sql) s s₂ ∧
            ∀ adapter, (exporting adapter s).1 =
              ((adapter target sql s₂).1.mapError .adapter, widened)) ∧
        (∀ f, e.sql = .error f →
          ∃ s₂, ∀ adapter, exporting adapter s = ((.error (.number f), widened), s₂))) ∧
      ((∀ t ∈ d.tables, t.isView = true) →
        ∃ s₂, ∀ adapter, exporting adapter s = ((.ok "", widened), s₂))) ∧
    ((∃ sql, e.sql = .ok sql) ↔ widened.script.Printable) ∧
    (∀ name, asked = some name → Dialect.parse? name = none →
      ∀ adapter, exporting adapter s = ((.error (.target (.unknownDialect name)), d), s)) ∧
    (∀ e, asked = none → d.dialect = none → (Session.settings s).1 = .error e →
      ∀ adapter, exporting adapter s =
        ((.error (.target (.settings e)), d), (Session.settings s).2)) := by
  intro exporting e widened
  refine ⟨?_, ?_, ?_, ?_⟩
  · intro target haims
    refine ⟨fun htables => ⟨fun sql hsql => ?_, fun f hf => ?_⟩, fun hviews => ?_⟩
    · exact exportAdapted_of_sql haims htables hsql
    · exact exportAdapted_of_sql_error haims hf
    · exact exportAdapted_of_views haims untilStable hviews
  · rw [(d.exportScript_widens untilStable).2]
    exact exists_sql_iff
  · rintro name rfl hparse adapter
    exact exportAdapted_of_error (exportDialect_of_unknown hparse d s) untilStable adapter
  · rintro e rfl hnone hsettings adapter
    exact exportAdapted_of_error (exportDialect_of_settings_error hnone hsettings) untilStable adapter

/-- A view joined with another view, or with a table. -/
def gallery (isView : Bool) : Diagram where
  id := none
  name := none
  dialect := some .mysql
  tables :=
    [⟨"v", "shows", true, [⟨"x", "room", "smallint", none, none, none, true, none, false⟩],
      [⟨none, "rooms", false, ["x"]⟩]⟩,
      ⟨"t", "halls", isView, [⟨"x", "id", "bigint", none, none, none, false, none, true⟩], []⟩]
  relationships := [⟨none, "place", ⟨"v", "x"⟩, ⟨"t", "x"⟩⟩]

/-- Both are widened, but only where there is a table an adapter gets to see the script. -/
theorem gallery_exportAdapted_callsAdapter :
    (∃ sql s₂, ((gallery false).exportScript true false).sql = .ok sql ∧
      CallsOnce (fun step : Dialect × String → OnSession (Except AdaptationError String) =>
        (gallery false).exportAdapted (Function.curry step) (some " pg") false)
        (.postgresql, sql) (.start default) s₂ ∧
      ∀ adapter : Adapter AdaptationError,
        ((gallery false).exportAdapted adapter (some " pg") false (.start default)).1 =
          ((adapter .postgresql sql s₂).1.mapError .adapter, ((gallery false).widen false).diagram)) ∧
    (∃ s₂, ∀ adapter : Adapter AdaptationError,
      (gallery true).exportAdapted adapter none false (.start default) =
        ((.ok "", ((gallery true).widen false).diagram), s₂)) ∧
    ((gallery true).widen false).diagram ≠ gallery true := by
  have hparse : Dialect.parse? " pg" = some .postgresql := by decide +kernel
  refine ⟨?_, ?_, by decide +kernel⟩
  · obtain ⟨haims, hprintable, -, -⟩ := exportAdapted_callsAdapter AdaptationError (gallery false)
      (some " pg") false (.start default)
    obtain ⟨sql, hsql⟩ := hprintable.mpr (by decide +kernel)
    obtain ⟨s₂, hcalls⟩ :=
      ((haims .postgresql (.asked hparse)).1 ⟨_, List.mem_of_getLast? rfl, rfl⟩).1 sql hsql
    exact ⟨sql, s₂, hsql, hcalls⟩
  · obtain ⟨haims, -, -, -⟩ := exportAdapted_callsAdapter AdaptationError (gallery true) none false
      (.start default)
    exact (haims .mysql (.own rfl)).2 (by decide)

end SchemaScript.Diagram
