import SchemaScript.Proofs.Files.Tree

/-! What the operations on a tree leave alone. Making directories leaves every file as it is, and
appending to the file at a location leaves all others; neither takes a directory away. A path from the
top that has no double dots leads to the location of its names, wherever it leads to anything. -/

namespace SchemaScript

/-! Double dots -/

theorem Path.not_mem_foldDots (names : List String) : ".." ∉ Path.foldDots names := by
  have hkept : ∀ kept : List String, ".." ∉ kept →
      ".." ∉ names.foldl (fun kept n => if n = ".." then kept.tail else n :: kept) kept := by
    induction names with
    | nil => exact fun _ h => h
    | cons n names ih =>
      intro kept h
      apply ih
      dsimp only
      split
      · exact fun hmem => h (List.mem_of_mem_tail hmem)
      · rename_i hn
        rw [List.mem_cons, not_or]
        exact ⟨Ne.symm hn, h⟩
  unfold foldDots
  rw [List.mem_reverse]
  exact hkept [] List.not_mem_nil

theorem Path.not_mem_absolute (directory : Location) (p : Path) :
    ".." ∉ (p.absolute directory).names := by
  unfold absolute
  split <;> exact not_mem_foldDots _

namespace FileTree

theorem eq_append_of_follow {t : FileTree} {here last : Location} {names : List String}
    (h : t.follow here names = .ok last) (hdots : ".." ∉ names) : last = here ++ names := by
  induction names generalizing here with
  | nil =>
    cases h
    rw [List.append_nil]
  | cons name names ih =>
    obtain ⟨next, hstep, hrest⟩ := follow_cons_eq_ok_iff.mp h
    rw [List.mem_cons, not_or] at hdots
    have hnext : next = here ++ [name] := by
      unfold step at hstep
      split at hstep
      · cases hstep
      · cases hstep
      · rw [if_neg (Ne.symm hdots.1)] at hstep
        split at hstep
        · cases hstep
        · cases hstep
          rfl
    rw [ih hrest hdots.2, hnext, List.append_assoc, List.singleton_append]

theorem eq_names_of_locate {t : FileTree} {p : Path} {l : Location} (h : t.locate [] p = .ok l)
    (hdots : ".." ∉ p.names) : l = p.names := by
  obtain ⟨-, -, hfollow⟩ := locate_eq_ok_iff.mp h
  rw [ite_self] at hfollow
  exact eq_append_of_follow hfollow hdots

/-! Growing -/

/-- The directories of a tree stay, and so do its files outside some places, where no file is added
either. -/
structure Grows (places : Location → Prop) (t t' : FileTree) : Prop where
  directories : ∀ l, t.node? l = some .directory → t'.node? l = some .directory
  files : ∀ l, ¬ places l → ∀ c, t'.node? l = some (.file c) ↔ t.node? l = some (.file c)

variable {places : Location → Prop}

theorem Grows.refl (t : FileTree) : Grows places t t := ⟨fun _ h => h, fun _ _ _ => Iff.rfl⟩

theorem Grows.trans {t₁ t₂ t₃ : FileTree} (h : Grows places t₁ t₂) (h' : Grows places t₂ t₃) :
    Grows places t₁ t₃ :=
  ⟨fun l hl => h'.directories l (h.directories l hl),
    fun l hl c => (h'.files l hl c).trans (h.files l hl c)⟩

theorem ne_nil_of_node? {t : FileTree} {l : Location} (h : t.node? l ≠ some .directory) : l ≠ [] := by
  rintro rfl
  exact h rfl

theorem grows_put_directory {t : FileTree} {l : Location} (h : t.node? l = none) :
    Grows places t (t.put l .directory) := by
  have hl : l ≠ [] := ne_nil_of_node? (t := t) (by simp [h])
  refine ⟨fun k hk => ?_, fun k _ c => ?_⟩
  · by_cases hkl : k = l
    · rw [hkl, node?_put_self t hl]
    · rw [node?_put_of_ne t hkl, hk]
  · by_cases hkl : k = l
    · rw [hkl, node?_put_self t hl, h]
      simp
    · rw [node?_put_of_ne t hkl]

theorem grows_put_file {t : FileTree} {l : Location} (h : t.node? l ≠ some .directory)
    (hl : places l) (c : Content) : Grows places t (t.put l (.file c)) := by
  refine ⟨fun k hk => ?_, fun k hk c' => ?_⟩
  · have hkl : k ≠ l := by
      rintro rfl
      exact h hk
    rw [node?_put_of_ne t hkl, hk]
  · have hkl : k ≠ l := by
      rintro rfl
      exact hk hl
    rw [node?_put_of_ne t hkl]

theorem grows_makeDirectory {t t' : FileTree} {directory : Location} {p : Path}
    (h : t.makeDirectory directory p = .ok t') : Grows places t t' := by
  unfold makeDirectory at h
  cases hl : t.locate directory p with
  | error e =>
    rw [hl] at h
    cases h
  | ok l =>
    rw [hl] at h
    simp only [bind, Except.bind] at h
    split at h
    · cases h
    · rename_i hnode
      split at h
      · cases h
        exact grows_put_directory hnode
      · cases h
      · cases h

theorem grows_ensureDirectory {t t' : FileTree} {directory : Location} {p : Path}
    (h : t.ensureDirectory directory p = .ok t') : Grows places t t' := by
  unfold ensureDirectory at h
  split at h
  · cases h
  · split at h
    · cases h
      exact .refl t
    · cases h
  · rename_i hmake
    cases h
    exact grows_makeDirectory hmake

theorem grows_ensureAbove {t t' : FileTree} {directory : Location} {root : String}
    {names : List String} (h : t.ensureAbove directory root names = .ok t') : Grows places t t' := by
  induction names generalizing t' with
  | nil => exact grows_ensureDirectory h
  | cons n above ih =>
    unfold ensureAbove at h
    dsimp only at h
    split at h
    · cases habove : t.ensureAbove directory root above with
      | error e =>
        rw [habove] at h
        cases h
      | ok t₁ =>
        rw [habove] at h
        exact (ih habove).trans (grows_ensureDirectory h)
    · exact grows_ensureDirectory h

theorem grows_ensureDirectories {t t' : FileTree} {directory : Location} {p : Path}
    (h : t.ensureDirectories directory p = .ok t') : Grows places t t' :=
  grows_ensureAbove h

theorem grows_append {t t' : FileTree} {p : Path} {s : String} (h : t.append [] p s = .ok t')
    (hdots : ".." ∉ p.names) (hp : places p.names) : Grows places t t' := by
  obtain ⟨l, c, hlocate, hnode, rfl⟩ := put_of_update h
  obtain rfl := eq_names_of_locate hlocate hdots
  exact grows_put_file (ne_directory_of_map_file hnode) hp _

end FileTree

end SchemaScript
