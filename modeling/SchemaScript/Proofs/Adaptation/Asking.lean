import SchemaScript.Proofs.Adaptation.Outcome
import SchemaScript.Proofs.Adaptation.Stripping

/-! Asking a chat for a script. Whatever the chat does, it is asked once, with the prompt as its only
message. A failure of the chat and a reply without words are the only errors; any other reply leaves
a script that is not blank, for the blocks taken out of it are not, and where there are none the reply
itself is not. -/

namespace SchemaScript

namespace Session

/-- What has happened stays on record. -/
def Remembers (s s' : Session) : Prop := s.events <+: s'.events

instance : IsPreorder Session Remembers where
  refl s := List.prefix_refl s.events
  trans _ _ _ h h' := List.IsPrefix.trans h h'

theorem remembers_report (es : List Entry) : Keeps Remembers (report es) :=
  fun s => List.prefix_append s.events _

theorem remembers_settings : Keeps Remembers Session.settings := fun s => List.prefix_refl s.events

theorem remembers_loadPrompt (name : String) : Keeps Remembers (loadPrompt name) := by
  intro s
  unfold loadPrompt
  rw [bind_apply]
  split
  · exact List.prefix_refl s.events
  · exact List.prefix_append s.events _

/-- Started in `s`, a program makes the step it is given exactly once, namely in `s₁` and for `a`. It comes
there without the step, goes on from what the step gives, and takes nothing back that has happened, so
a step once made shows. -/
def CallsOnce (program : (α → OnSession β) → OnSession γ) (a : α) (s s₁ : Session) : Prop :=
  ∃ next : β → OnSession γ, Remembers s s₁ ∧ (∀ b, Keeps Remembers (next b)) ∧
    ∀ step, program step s = (step a >>= next) s₁

/-- The one call is for one argument. -/
theorem CallsOnce.unique [Inhabited β] {program : (α → OnSession β) → OnSession γ} {a b : α}
    {s s₁ s₂ : Session} (ha : CallsOnce program a s s₁) (hb : CallsOnce program b s s₂) : a = b := by
  classical
  obtain ⟨next, -, hnext, heq⟩ := ha
  obtain ⟨next', -, -, heq'⟩ := hb
  by_contra hne
  -- the run has to show any number of events that a call for `a` makes, and makes no such call
  let events (n : Nat) : List Event := List.replicate n (.consult [])
  let step (n : Nat) (x : α) : OnSession β := do
    if x = a then happen (events n)
    return default
  have hidle (n : Nat) : program (step n) s = next' default s₂ := by
    rw [heq']
    simp only [step, if_neg (Ne.symm hne)]
    rfl
  have hshown (n : Nat) : s₁.events ++ events n <+: (program (step n) s).2.events := by
    rw [heq]
    simp only [step, if_pos]
    exact hnext default { s₁ with events := s₁.events ++ events n }
  have hlength := (hshown ((next' default s₂).2.events.length + 1)).length_le
  rw [hidle] at hlength
  simp only [events, List.length_append, List.length_replicate] at hlength
  omega

end Session

open Session

namespace Dialect

/-- A reply without words: none at all, or a blank text. -/
def Wordless (reply : Except Failure (Option String)) : Prop :=
  reply = .ok none ∨ ∃ text, reply = .ok (some text) ∧ Text.isBlankText text = true

/-- What an adaptation makes of a reply: it fails if the chat has failed, with that failure as the cause,
or has said nothing, and only then; otherwise it gives a trimmed script that is not blank, and a line
end behind it. -/
structure Concludes (d : Dialect) (reply : Except Failure (Option String))
    (result : Except AdaptationError String) : Prop where
  error_iff : ∀ e, result = .error e ↔
    (∃ f, reply = .error f ∧ e = .chat d f) ∨ (Wordless reply ∧ e = .emptyReply d)
  script : ∀ script, result = .ok script →
    script = Text.strip script ++ "\n" ∧ Text.isBlankText script = false

theorem concludes_error (d : Dialect) (f : Failure) : d.Concludes (.error f) (.error (.chat d f)) := by
  refine ⟨fun e => ⟨?_, ?_⟩, fun script hscript => nomatch hscript⟩
  · rintro ⟨⟩
    exact .inl ⟨f, rfl, rfl⟩
  · rintro (⟨g, hg, rfl⟩ | ⟨hreply | ⟨text, htext, -⟩, -⟩)
    · cases hg
      rfl
    · cases hreply
    · cases htext

theorem concludes_wordless (d : Dialect) {reply : Except Failure (Option String)}
    (h : Wordless reply) : d.Concludes reply (.error (.emptyReply d)) := by
  refine ⟨fun e => ⟨?_, ?_⟩, fun script hscript => nomatch hscript⟩
  · rintro ⟨⟩
    exact .inr ⟨h, rfl⟩
  · rintro (⟨f, rfl, -⟩ | ⟨-, rfl⟩)
    · rcases h with hreply | ⟨text, htext, -⟩
      · cases hreply
      · cases htext
    · rfl

theorem concludes_script (d : Dialect) {text : String} (h : Text.isBlankText text = false) :
    d.Concludes (.ok (some text)) (.ok (Fence.strip text)) := by
  refine ⟨fun e => ⟨fun he => (nomatch he), ?_⟩, ?_⟩
  · rintro (⟨f, hf, -⟩ | ⟨hreply | ⟨other, hother, hblank⟩, -⟩)
    · cases hf
    · cases hreply
    · cases hother
      simp [h] at hblank
  · rintro script ⟨⟩
    have hwords : ¬ Text.Blank text.toList := by
      intro hblank
      rw [← Text.trim_eq_nil_iff, ← List.isEmpty_iff, Text.isEmpty_trim, h] at hblank
      cases hblank
    obtain ⟨inner, htrimmed, hstrip⟩ := Fence.exists_trimmed_stripChars hwords
    have hscript : (Fence.strip text).toList = inner ++ ['\n'] := by
      rw [Fence.strip, String.toList_ofList, hstrip]
    have htrim : Text.trim (Fence.strip text).toList = inner := by
      rw [hscript, Text.trim_append_newline (.inr htrimmed)]
    constructor
    · apply String.toList_inj.mp
      rw [String.toList_append, Text.strip, String.toList_ofList, htrim, hscript]
      rfl
    · obtain ⟨c, rest, rfl, -⟩ := htrimmed.first
      rw [← Text.isEmpty_trim, htrim]
      rfl

theorem concludes_conclude (d : Dialect) (reply : Except Failure (Option String)) :
    d.Concludes reply (d.conclude reply) := by
  unfold conclude
  split
  · exact d.concludes_error _
  · exact d.concludes_wordless (.inl rfl)
  · split
    · next hblank => exact d.concludes_wordless (.inr ⟨_, rfl, hblank⟩)
    · next hblank => exact d.concludes_script (Bool.eq_false_iff.mpr hblank)

/-- What follows a reply: only a failure is reported before the adaptation comes to its end. -/
def afterReply (d : Dialect) (reply : Except Failure (Option String)) :
    OnSession (Except AdaptationError String) := do
  match reply with
  | .error f => report [d.chatFailedEntry f]
  | .ok _ => pure ()
  return d.conclude reply

theorem remembers_afterReply (d : Dialect) (reply : Except Failure (Option String)) :
    Keeps Remembers (d.afterReply reply) := by
  cases reply with
  | error f => exact (remembers_report _).bind fun _ => Keeps.pure _
  | ok text => exact Keeps.pure _

theorem fst_afterReply (d : Dialect) (reply : Except Failure (Option String)) (s : Session) :
    (d.afterReply reply s).1 = d.conclude reply := by
  cases reply with
  | error f => rfl
  | ok text => rfl

/-- The chat gets the prompt once the parts of it are loaded, and only its reply matters after that. -/
theorem requestScript_eq_bind (d : Dialect) (prompt : String) (s : Session) :
    ∃ s₁, Remembers s s₁ ∧ ∀ chat : Chat,
      d.requestScript chat (.ok prompt) s = (chat [.user prompt] >>= d.afterReply) s₁ := by
  unfold requestScript
  -- the names stay unread: which prompts are loaded does not matter
  generalize d.promptNames = names
  have hloads : Keeps Remembers (names.forM loadPrompt) := Keeps.forM remembers_loadPrompt names
  exact ⟨(report [d.adaptingEntry] (names.forM loadPrompt s).2).2,
    trans_of Remembers (hloads s) (remembers_report _ _), fun chat => rfl⟩

end Dialect

end SchemaScript
