import SchemaScript.Proofs.Files.Growth
import SchemaScript.Proofs.Keeps
import SchemaScript.Settings.Host

/-! Reading the settings. Whatever the environment and its file hold, and whether or not the settings are
accepted, the host stays in its directory and its files stay as they are; all that can be added are
directories. Settings that were read once are given again without looking at the host. -/

namespace SchemaScript

/-- The host is where it was, and its files grow. -/
structure Host.Grows (places : Location → Prop) (h h' : Host) : Prop where
  directory : h'.directory = h.directory
  files : h.files.Grows places h'.files

variable {places : Location → Prop}

theorem Host.Grows.same {h h' : Host} (hd : h'.directory = h.directory) (hf : h'.files = h.files) :
    h.Grows places h' :=
  ⟨hd, hf ▸ .refl _⟩

instance : IsPreorder Host (Host.Grows places) where
  refl _ := .same rfl rfl
  trans _ _ _ h h' := ⟨h'.directory.trans h.directory, h.files.trans h'.files⟩

namespace Host

theorem keeps_onFiles {f : FileTree → Location → Except FileError FileTree}
    (hf : ∀ t l t', f t l = .ok t' → t.Grows places t') : Keeps (Host.Grows places) (onFiles f).run := by
  apply Keeps.getBind
  intro h
  split
  · rename_i files hfiles
    exact ⟨rfl, hf _ _ _ hfiles⟩
  · exact .same rfl rfl

theorem keeps_bindEnvFile (c : Content) : Keeps (Host.Grows places) (bindEnvFile c).run := by
  apply Keeps.getBind
  intro h
  split
  · exact .same rfl rfl
  · split
    · exact .same rfl rfl
    · split
      rename_i refusal _
      -- what the file binds is set whether or not it is refused further on
      cases refusal with
      | some e => exact .same rfl rfl
      | none => exact .same rfl rfl

theorem keeps_applyEnvFile : Keeps (Host.Grows places) applyEnvFile.run := by
  apply Keeps.getBind
  intro h
  split
  · exact .same rfl rfl
  · split
    · exact Keeps.bindExcept (keeps_bindEnvFile _) (fun _ => Keeps.pure _) h
    · exact .same rfl rfl

end Host

namespace Settings

theorem keeps_read (given : List (String × Json)) : Keeps (Host.Grows places) (read given).run := by
  apply Keeps.bindExcept Host.keeps_applyEnvFile
  intro _
  apply Keeps.getBind
  intro h
  dsimp only
  split
  · exact .same rfl rfl
  · split
    · refine Keeps.bindExcept (R := Host.Grows places) ?_ (fun _ => Keeps.pure _) h
      exact Host.keeps_onFiles fun _ _ _ => FileTree.grows_ensureDirectories
    · exact .same rfl rfl

theorem keeps_current : Keeps (Host.Grows places) current.run := by
  apply Keeps.getBind
  intro h
  split
  · exact .same rfl rfl
  · refine Keeps.bindExcept (R := Host.Grows places) (keeps_read []) (fun s => ?_) h
    exact Keeps.bindExcept (fun h => .same rfl rfl) fun _ => Keeps.pure _

/-- Settings that are kept are given as they are. -/
theorem current_of_kept {h : Host} {s : Settings} (hs : h.settings = some s) :
    current h = (.ok s, h) := by
  rw [current, get_bind_apply, hs]
  rfl

/-- Settings that have been given are kept. -/
theorem kept_of_current {h h' : Host} {s : Settings} (hs : current h = (.ok s, h')) :
    h'.settings = some s := by
  rw [current, get_bind_apply] at hs
  cases hkept : h.settings with
  | some s₁ =>
    rw [hkept] at hs
    cases hs
    exact hkept
  | none =>
    rw [hkept] at hs
    obtain ⟨s₁, h₁, -, hrest⟩ := exists_of_bind_eq_ok hs
    cases hrest
    rfl

end Settings

end SchemaScript
