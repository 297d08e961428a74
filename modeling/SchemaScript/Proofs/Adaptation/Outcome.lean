import SchemaScript.Adaptation.Export
import SchemaScript.Proofs.Prompt.Filling
import SchemaScript.Proofs.Settings.Reading

/-! What an export to a dialect comes to. With the settings kept and a dialect that is known, if one is
asked for, an export of a diagram that has a script comes to a script or to an error of the adaptation,
and to nothing else; it leaves the host as it is, and the diagram as the canonical export leaves it. -/

namespace SchemaScript

namespace Session

/-- A step that does not touch the host as long as its settings are kept. -/
def SameHost (s s' : Session) : Prop := s.host.settings.isSome → s'.host = s.host

instance : IsPreorder Session SameHost where
  refl _ := fun _ => rfl
  trans _ _ _ h h' := fun hs => (h' ((h hs).symm ▸ hs)).trans (h hs)

theorem SameHost.of_eq {s s' : Session} (h : s'.host = s.host) : SameHost s s' := fun _ => h

theorem settings_of_kept {s : Session} {settings : Settings} (hs : s.host.settings = some settings) :
    Session.settings s = (.ok settings, s) := by
  unfold Session.settings
  rw [Settings.current_of_kept hs]

theorem keeps_settings : Keeps SameHost Session.settings := by
  intro s hs
  obtain ⟨settings, hs⟩ := Option.isSome_iff_exists.mp hs
  rw [settings_of_kept hs]

theorem keeps_report (es : List Entry) : Keeps SameHost (report es) := fun _ => .of_eq rfl

theorem keeps_chat (services : Services) (ms : List Message) : Keeps SameHost (chat services ms) := by
  apply keeps_settings.bind
  intro r
  cases r with
  | error e => exact Keeps.pure _
  | ok settings => exact fun s => .of_eq rfl

theorem keeps_clientChat (services : Services) (ms : List Message) :
    Keeps SameHost (clientChat services ms) :=
  (keeps_chat services ms).bind fun _ => Keeps.pure _

/-- With the settings kept, a chat gives the reply of the client. -/
theorem reply_clientChat {services : Services} {ms : List Message} {s : Session} {settings : Settings}
    (hs : s.host.settings = some settings) :
    (clientChat services ms s).1 = some <$> (s.client.chat services settings ms).reply := by
  unfold clientChat chat
  rw [bind_apply, bind_apply, settings_of_kept hs]
  rfl

/-- A step that leaves the host and the client alone. -/
def SameSides (s s' : Session) : Prop := s'.host = s.host ∧ s'.client = s.client

instance : IsPreorder Session SameSides where
  refl _ := ⟨rfl, rfl⟩
  trans _ _ _ h h' := ⟨h'.1.trans h.1, h'.2.trans h.2⟩

theorem keeps_loadPrompt (name : String) : Keeps SameSides (loadPrompt name) := by
  intro s
  unfold loadPrompt
  rw [bind_apply]
  split
  · exact ⟨rfl, rfl⟩
  · exact ⟨rfl, rfl⟩

end Session

open Session

namespace Dialect

/-- A script is concluded from what the chat gives for one message, the prompt, and the chat is started
from the host and the client as they are. -/
theorem requestScript_eq (chat : Chat) (d : Dialect) (prompt : String) (s : Session) :
    ∃ s', SameSides s s' ∧
      (d.requestScript chat (.ok prompt) s).1 = d.conclude (chat [.user prompt] s').1 := by
  unfold requestScript
  -- the names stay unread: which prompts are loaded does not matter
  generalize d.promptNames = names
  have hloads : Keeps SameSides (names.forM loadPrompt) := Keeps.forM keeps_loadPrompt names
  refine ⟨(report [d.adaptingEntry] (names.forM loadPrompt s).2).2, hloads s, ?_⟩
  dsimp only
  rw [bind_apply, bind_apply, bind_apply]
  cases (chat [.user prompt] (report [d.adaptingEntry] (names.forM loadPrompt s).2).2).1 with
  | error f => rfl
  | ok reply => rfl

/-- Once there is a prompt, an adaptation fails with the chat or with what it says. -/
theorem conclude_ne_prompt (d : Dialect) (reply : Except Failure (Option String)) (e : PromptError) :
    d.conclude reply ≠ .error (.prompt e) := by
  unfold conclude
  split
  · simp
  · simp
  · split
    · simp
    · simp

theorem keeps_requestScript {chat : Chat} (hchat : ∀ ms, Keeps SameHost (chat ms)) (d : Dialect)
    (prompt : Except PromptError String) : Keeps SameHost (d.requestScript chat prompt) := by
  unfold requestScript
  generalize d.promptNames = names
  have hloads : Keeps SameSides (names.forM loadPrompt) := Keeps.forM keeps_loadPrompt names
  cases prompt with
  | error e => exact Keeps.pure _
  | ok prompt =>
    refine Keeps.bind (fun s => .of_eq (hloads s).1) fun _ => (keeps_report _).bind fun _ => ?_
    refine (hchat _).bind fun reply => ?_
    cases reply with
    | error f => exact (keeps_report _).bind fun _ => Keeps.pure _
    | ok reply => exact Keeps.pure _

theorem keeps_adapt {chat : Chat} (hchat : ∀ ms, Keeps SameHost (chat ms)) (d : Dialect)
    (sql : String) : Keeps SameHost (adapt chat d sql) := by
  unfold adapt
  generalize d.exportPrompt sql = prompt
  exact keeps_requestScript hchat d prompt

/-- There is a prompt for every script, so an adaptation always asks the chat. -/
theorem adapt_eq (chat : Chat) (d : Dialect) (sql : String) (s : Session) :
    ∃ prompt s', d.exportPrompt sql = .ok prompt ∧ SameSides s s' ∧
      (adapt chat d sql s).1 = d.conclude (chat [.user prompt] s').1 := by
  obtain ⟨prompt, hprompt⟩ := d.exists_exportPrompt sql
  obtain ⟨s', hsides, heq⟩ := requestScript_eq chat d prompt s
  refine ⟨prompt, s', hprompt, hsides, ?_⟩
  unfold adapt
  rw [hprompt]
  exact heq

end Dialect

namespace Diagram

/-- A dialect that can be exported to: none is asked for, or the one asked for is known. -/
def Exportable (asked : Option String) : Prop := ∀ name, asked = some name → (Dialect.parse? name).isSome

theorem exists_exportDialect (d : Diagram) {asked : Option String} (hasked : Exportable asked)
    {s : Session} (hs : s.host.settings.isSome) :
    ∃ dialect, d.exportDialect asked s = (.ok dialect, s) := by
  obtain ⟨settings, hs⟩ := Option.isSome_iff_exists.mp hs
  unfold exportDialect
  cases asked with
  | some name =>
    obtain ⟨dialect, hparse⟩ := Option.isSome_iff_exists.mp (hasked name rfl)
    refine ⟨dialect, ?_⟩
    dsimp only
    rw [hparse]
    rfl
  | none =>
    cases hd : d.dialect with
    | some dialect => exact ⟨dialect, rfl⟩
    | none =>
      refine ⟨settings.dialect, ?_⟩
      dsimp only
      rw [bind_apply, settings_of_kept hs]
      rfl

/-- An export to a dialect that is found hands the canonical script to the adapter, if there is one and it
is not empty. -/
theorem exportAdapted_eq (adapter : Adapter ε) {d : Diagram} {asked : Option String}
    {untilStable : Bool} {s : Session} {dialect : Dialect} {sql : String}
    (h : d.exportDialect asked s = (.ok dialect, s))
    (hsql : (d.exportScript true untilStable).sql = .ok sql) :
    ∃ s', SameSides s s' ∧ (d.exportAdapted adapter asked untilStable s).1 =
      (if sql = "" then .ok "" else (adapter dialect sql s').1.mapError .adapter,
        (d.exportScript true untilStable).diagram) := by
  refine ⟨(report (d.exportScript true untilStable).journal s).2, ⟨rfl, rfl⟩, ?_⟩
  unfold exportAdapted
  rw [bind_apply, h]
  dsimp only
  rw [bind_apply, hsql]
  dsimp only
  split
  · rfl
  · rw [bind_apply]
    generalize (report (d.exportScript true untilStable).journal s).2 = s'
    cases (adapter dialect sql s').1 with
    | ok adapted => rfl
    | error e => rfl

/-- With a script and by asking a chat, an export to a dialect fails only with the chat or a reply without
words, and whether or not it does, it has widened the diagram. -/
theorem outcome_exportAdapted {chat : Chat} {d : Diagram} {asked : Option String} {untilStable : Bool}
    {s : Session} {sql : String} (hasked : Exportable asked) (hs : s.host.settings.isSome)
    (hsql : (d.exportScript true untilStable).sql = .ok sql) :
    ∃ r : Except AdaptationError String, (∀ e, r ≠ .error (.prompt e)) ∧
      (d.exportAdapted (Dialect.adapt chat) asked untilStable s).1 =
        (r.mapError .adapter, (d.exportScript true untilStable).diagram) := by
  obtain ⟨dialect, hdialect⟩ := d.exists_exportDialect hasked hs
  obtain ⟨s₁, -, heq⟩ := exportAdapted_eq (Dialect.adapt chat) hdialect hsql
  obtain ⟨prompt, s₂, -, -, hadapt⟩ := Dialect.adapt_eq chat dialect sql s₁
  rw [heq, hadapt]
  split
  · exact ⟨.ok "", fun e he => (nomatch he), rfl⟩
  · exact ⟨_, dialect.conclude_ne_prompt _, rfl⟩

theorem keeps_exportAdapted {adapter : Adapter ε}
    (hadapter : ∀ dialect sql, Keeps SameHost (adapter dialect sql)) (d : Diagram)
    (asked : Option String) (untilStable : Bool) :
    Keeps SameHost (d.exportAdapted adapter asked untilStable) := by
  have hdialect : Keeps SameHost (d.exportDialect asked) := by
    unfold exportDialect
    split
    · split
      · exact Keeps.pure _
      · exact Keeps.pure _
    · exact Keeps.pure _
    · refine keeps_settings.bind fun r => ?_
      cases r with
      | ok settings => exact Keeps.pure _
      | error e => exact Keeps.pure _
  refine hdialect.bind fun r => ?_
  cases r with
  | error e => exact Keeps.pure _
  | ok dialect =>
    refine (keeps_report _).bind fun _ => ?_
    split
    · exact Keeps.pure _
    · split
      · exact Keeps.pure _
      · refine (hadapter _ _).bind fun r => ?_
        cases r with
        | ok adapted => exact Keeps.pure _
        | error e => exact Keeps.pure _

end Diagram

end SchemaScript
