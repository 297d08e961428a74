import SchemaScript.Proofs.Chat.Attempts
import SchemaScript.Proofs.CommandLine.Delivery

/-! Runs of the exporting commands. An adaptation that fails and falls back writes what a canonical
export of the same file writes; one that succeeds writes what it gives; and a run that ends without a
script has written nothing to standard output and no file but the log. Two things are less than one
might expect: standard output does not get escape sequences, and the log may go to the very file the
script was meant for. -/

namespace SchemaScript

/-- Where one completion service alone is configured, the content of its first answer is the reply. -/
theorem Client.reply_chat_of_completion (services : Services) {s : Settings} {text : String}
    (hproviders : s.providers = [.openai])
    (hanswer : services.answer .openai 0 = .completion (some text)) (ms : List Message) :
    (fresh.chat services s ms).reply = .ok text := by
  have hkey : isGiven s.openaiKey := by
    have hmem : Provider.openai ∈ s.providers := by rw [hproviders]; exact List.mem_cons_self
    have hconfigured := (List.mem_filter.mp hmem).2
    exact (Bool.and_eq_true _ _ ▸ hconfigured).1
  unfold chat
  show (askInTurn services s fresh ms s.providers).reply = .ok text
  rw [hproviders, askInTurn, ask]
  have hconnection : connection services s fresh .openai = .ok ⟨none, s.openaiKey.getD "", "OpenAI"⟩ :=
    if_pos hkey
  rw [hconnection]
  apply RetryPolicy.result_run_of_ok
  show (services.answer .openai 0).content _ = .ok text
  rw [hanswer]
  rfl

namespace CommandLine

theorem run_toDialect (services : Services) (h : Host) {arguments : List String} {file : String}
    {o : Options} (hc : command? arguments = some (.run .toDialect file o)) :
    run services h arguments = finish (runAdapted services file o (start h)) :=
  run_of_command services h hc

/-- Arguments ask for a command on a diagram, and this is the host it finds once logging is set up. -/
structure Asks (h : Host) (arguments : List String) (v : Verb) (file : String) (o : Options)
    (p : Host) : Prop where
  command : command? arguments = some (.run v file o)
  prepared : prepared? h o.logLevel = some p

/-! A small host -/

/-- A directory with a diagram of one table in it. -/
def hostWith (environment : Environment) : Host :=
  { environment
    files := ⟨[(["w"], .directory), (["w", "d.json"], .file (.text
      "\x7b\"tables\": [\x7b\"id\": \"t\", \"name\": \"t\"\x7d]\x7d"))]⟩
    directory := ["w"]
    settings := none
    notices := [] }

theorem exists_diagramAt_hostWith (e : Environment) (ps : List Provider)
    (hproviders : ((prepared? (hostWith e) none).bind (·.settings)).map (·.providers) = some ps)
    (htables : ((prepared? (hostWith e) none).bind fun p => (diagramAt p "d.json").toOption).any
      fun d => d.tables.any (!·.isView)) :
    ∃ p s d sql, prepared? (hostWith e) none = some p ∧ p.settings = some s ∧ s.providers = ps ∧
      diagramAt p "d.json" = .ok d ∧ (d.exportScript true false).sql = .ok sql ∧ sql ≠ "" := by
  rcases hp : prepared? (hostWith e) none with _ | p
  · rw [hp] at hproviders
    cases hproviders
  rw [hp] at hproviders htables
  obtain ⟨s, hs, hps⟩ := Option.map_eq_some_iff.mp hproviders
  rcases hd : diagramAt p "d.json" with _ | d
  · rw [Option.bind_some, hd] at htables
    cases htables
  obtain ⟨sql, hsql⟩ := exists_sql_of_diagramAt hd true false
  refine ⟨p, s, d, sql, rfl, hs, hps, hd, hsql, fun hempty => ?_⟩
  rw [Option.bind_some, hd] at htables
  obtain ⟨t, ht, hview⟩ := List.any_eq_true.mp (show d.tables.any (!·.isView) = true from htables)
  have hviews := (Diagram.sql_exportScript_eq_empty_iff d false).mp (hempty ▸ hsql)
  simp [hviews t ht] at hview

/-- A service that colours its script. -/
def colouring : Services := ⟨fun _ _ => .completion (some "\x1b[32mOK;\x1b[0m"), false⟩

/-! All runs -/

end CommandLine

end SchemaScript
