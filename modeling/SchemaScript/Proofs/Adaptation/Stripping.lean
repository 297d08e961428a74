import SchemaScript.Proofs.Adaptation.Fences

/-! Taking the script out of a reply, whatever the reply looks like. What is taken out of blocks has no
fence in it any more. Where no block has a script the reply is kept and trimmed, which neither makes nor
breaks a block: a block starts and ends with a fence, so blanks in front of a text or behind it belong to
none. In both cases taking the script out once more changes nothing. -/

namespace SchemaScript.Fence

theorem notMem_of_blank {ws : List Char} (hws : Text.Blank ws) : '\x60' ∉ ws := by
  intro h
  exact absurd (hws _ h) (by decide)

theorem fence_isPrefix_append_iff {ws : List Char} (hws : Text.Blank ws) (cs : List Char) :
    fence <+: cs ++ ws ↔ fence <+: cs := by
  refine ⟨fun h => ?_, fun h => h.trans (List.prefix_append cs ws)⟩
  rcases List.prefix_or_prefix_of_prefix h (List.prefix_append cs ws) with hcs | ⟨beyond, hbeyond⟩
  · exact hcs
  · cases beyond with
    | nil => simp [← hbeyond]
    | cons c beyond =>
      -- the part of the fence beyond the text would have to be blank
      rw [← hbeyond, List.prefix_append_right_inj] at h
      have hc : c ∈ fence := by simp [← hbeyond]
      obtain rfl : c = '\x60' := by simpa [fence] using hc
      exact absurd (h.subset List.mem_cons_self) (notMem_of_blank hws)

/-- A body ends in front of a fence. -/
theorem eq_append_of_splitAtFence? {cs body rest : List Char}
    (h : splitAtFence? cs = some (body, rest)) : cs = body ++ (fence ++ rest) := by
  induction cs generalizing body with
  | nil => cases h
  | cons c cs ih =>
    rw [splitAtFence?] at h
    split at h
    · next hfence =>
      obtain ⟨rfl, rfl⟩ := Prod.mk.inj (Option.some.inj h)
      exact (List.prefix_iff_eq_append.mp (List.isPrefixOf_iff_prefix.mp hfence)).symm
    · obtain ⟨⟨b, r⟩, hb, hr⟩ := Option.map_eq_some_iff.mp h
      obtain ⟨rfl, rfl⟩ := Prod.mk.inj hr
      rw [ih hb, List.cons_append]

/-- There is no fence in a body, for the first one ends it. -/
theorem unfenced_of_splitAtFence? {cs body rest : List Char}
    (h : splitAtFence? cs = some (body, rest)) : Unfenced body := by
  induction cs generalizing body with
  | nil => cases h
  | cons c cs ih =>
    have hcs := eq_append_of_splitAtFence? h
    rw [splitAtFence?] at h
    split at h
    · obtain ⟨rfl, -⟩ := Prod.mk.inj (Option.some.inj h)
      exact unfenced_nil
    · next hstart =>
      obtain ⟨⟨b, r⟩, hb, hr⟩ := Option.map_eq_some_iff.mp h
      obtain ⟨rfl, rfl⟩ := Prod.mk.inj hr
      intro hfence
      rcases List.infix_cons_iff.mp hfence with hopens | hinfix
      · rw [hcs, List.isPrefixOf_iff_prefix] at hstart
        exact hstart (List.IsPrefix.trans hopens (List.prefix_append _ _))
      · exact ih hb hinfix

theorem splitAtFence?_of_blank {ws : List Char} (hws : Text.Blank ws) : splitAtFence? ws = none := by
  rw [Option.eq_none_iff_forall_ne_some]
  rintro ⟨body, rest⟩ h
  have hmem : '\x60' ∈ ws := by
    rw [eq_append_of_splitAtFence? h]
    simp [fence]
  exact notMem_of_blank hws hmem

theorem splitAtFence?_append_blank {ws : List Char} (hws : Text.Blank ws) (cs : List Char) :
    splitAtFence? (cs ++ ws) = (splitAtFence? cs).map fun (body, rest) => (body, rest ++ ws) := by
  induction cs with
  | nil => exact splitAtFence?_of_blank hws
  | cons c cs ih =>
    have hstart : fence.isPrefixOf (c :: (cs ++ ws)) = fence.isPrefixOf (c :: cs) := by
      rw [Bool.eq_iff_iff, List.isPrefixOf_iff_prefix, List.isPrefixOf_iff_prefix, ← List.cons_append,
        fence_isPrefix_append_iff hws]
    rw [List.cons_append, splitAtFence?, splitAtFence?, hstart]
    split
    · next hfence =>
      have hlength := (List.isPrefixOf_iff_prefix.mp hfence).length_le
      rw [← List.cons_append, List.drop_append_of_le_length hlength]
      rfl
    · rw [ih, Option.map_map, Option.map_map]
      rfl

/-- Dropping from the front either stops before the blanks behind a text or uses the text up. -/
theorem dropWhile_append_blank {ws : List Char} (hws : Text.Blank ws) (p : Char → Bool)
    (cs : List Char) :
    (cs.dropWhile p ≠ [] ∧ (cs ++ ws).dropWhile p = cs.dropWhile p ++ ws) ∨
      (cs.dropWhile p = [] ∧ Text.Blank ((cs ++ ws).dropWhile p)) := by
  rw [List.dropWhile_append]
  by_cases h : cs.dropWhile p = []
  · right
    rw [h, List.isEmpty_nil, if_pos rfl]
    exact ⟨rfl, fun c hc => hws c ((List.dropWhile_suffix p).subset hc)⟩
  · left
    rw [if_neg (by simpa using h)]
    exact ⟨h, rfl⟩

/-- What follows the fence, the tag and the gaps that a text may open a block with. -/
def afterTag (cs : List Char) : List Char :=
  ((cs.drop fence.length).dropWhile isTagChar).dropWhile isGap

theorem afterOpening?_eq_some_iff {cs body : List Char} :
    afterOpening? cs = some body ↔ fence <+: cs ∧ afterTag cs = '\n' :: body := by
  rw [afterOpening?, ← List.isPrefixOf_iff_prefix, afterTag]
  split
  · next h =>
    split
    · next hd => simp [h, hd]
    · next hd => simpa [h] using hd body
  · next h => simp [h]

theorem afterTag_append_blank {ws : List Char} (hws : Text.Blank ws) {cs : List Char}
    (h : fence <+: cs) :
    (afterTag cs ≠ [] ∧ afterTag (cs ++ ws) = afterTag cs ++ ws) ∨
      (afterTag cs = [] ∧ Text.Blank (afterTag (cs ++ ws))) := by
  simp only [afterTag, List.drop_append_of_le_length h.length_le]
  rcases dropWhile_append_blank hws isTagChar (cs.drop fence.length) with
    ⟨-, htag⟩ | ⟨htag, hblank⟩
  · rw [htag]
    exact dropWhile_append_blank hws isGap _
  · right
    rw [htag]
    exact ⟨rfl, fun c hc => hblank c ((List.dropWhile_suffix isGap).subset hc)⟩

theorem afterOpening?_append {ws : List Char} (hws : Text.Blank ws) {cs body : List Char}
    (h : afterOpening? cs = some body) : afterOpening? (cs ++ ws) = some (body ++ ws) := by
  obtain ⟨hfence, htag⟩ := afterOpening?_eq_some_iff.mp h
  refine afterOpening?_eq_some_iff.mpr ⟨(fence_isPrefix_append_iff hws cs).mpr hfence, ?_⟩
  rcases afterTag_append_blank hws hfence with ⟨-, happend⟩ | ⟨hnil, -⟩
  · rw [happend, htag, List.cons_append]
  · simp [htag] at hnil

/-- A block that opens only with blanks behind the text has nothing but blanks in it. -/
theorem blank_of_afterOpening?_append {ws : List Char} (hws : Text.Blank ws) {cs body : List Char}
    (hnone : afterOpening? cs = none) (h : afterOpening? (cs ++ ws) = some body) :
    Text.Blank body := by
  obtain ⟨hfence, htag⟩ := afterOpening?_eq_some_iff.mp h
  rw [fence_isPrefix_append_iff hws] at hfence
  rcases afterTag_append_blank hws hfence with ⟨hne, happend⟩ | ⟨-, hblank⟩
  · obtain ⟨c, b, hb⟩ := List.exists_cons_of_ne_nil hne
    rw [happend, hb] at htag
    obtain ⟨rfl, -⟩ := List.cons.inj htag
    simp [afterOpening?_eq_some_iff.mpr ⟨hfence, hb⟩] at hnone
  · rw [htag] at hblank
    exact hblank.of_cons

theorem block?_append_blank {ws : List Char} (hws : Text.Blank ws) (cs : List Char) :
    block? (cs ++ ws) = (block? cs).map fun (body, rest) => (body, rest ++ ws) := by
  unfold block?
  cases h : afterOpening? cs with
  | some body =>
    rw [afterOpening?_append hws h, Option.bind_some, Option.bind_some,
      splitAtFence?_append_blank hws]
  | none =>
    cases h' : afterOpening? (cs ++ ws) with
    | none => rfl
    | some body => exact splitAtFence?_of_blank (blank_of_afterOpening?_append hws h h')

theorem block?_of_ne {c : Char} (h : c ≠ '\x60') (cs : List Char) : block? (c :: cs) = none := by
  have hstart : fence.isPrefixOf (c :: cs) = false := by
    simp [fence, List.isPrefixOf, Ne.symm h]
  rw [block?, afterOpening?, hstart]
  rfl

theorem blocks_nil : blocks [] = [] := by
  rw [blocks]
  rfl

theorem blocks_blank_append {ws : List Char} (hws : Text.Blank ws) (cs : List Char) :
    blocks (ws ++ cs) = blocks cs := by
  induction ws with
  | nil => rfl
  | cons c ws ih =>
    have hc : c ≠ '\x60' := fun h => notMem_of_blank hws (h ▸ List.mem_cons_self)
    rw [List.cons_append, blocks_cons_of_none (block?_of_ne hc _), ih hws.of_cons]

theorem blocks_append_blank {ws : List Char} (hws : Text.Blank ws) (cs : List Char) :
    blocks (cs ++ ws) = blocks cs := by
  fun_induction blocks cs with
  | case1 cs body rest h _ ih =>
    have hblock : block? (cs ++ ws) = some (body, rest ++ ws) := by
      rw [block?_append_blank hws, h, Option.map_some]
    rw [blocks_of_block? hblock, ih]
  | case2 _ =>
    have hnil : blocks (ws ++ []) = blocks [] := blocks_blank_append hws []
    rw [List.nil_append, ← List.append_nil ws, hnil, blocks_nil]
  | case3 c cs h ih =>
    have hblock : block? (c :: (cs ++ ws)) = none := by
      rw [← List.cons_append, block?_append_blank hws, h, Option.map_none]
    rw [List.cons_append, blocks_cons_of_none hblock, ih]

/-- Blanks around a text have no part in its blocks. -/
theorem scripts_trim_append_newline (cs : List Char) :
    scripts (Text.trim cs ++ ['\n']) = scripts cs := by
  obtain ⟨before, after, hbefore, hafter, hcs⟩ := Text.exists_surrounded cs
  have hline : Text.Blank ['\n'] := .cons (by decide) (by simp [Text.Blank])
  have hblocks : blocks cs = blocks (Text.trim cs) := by
    conv_lhs => rw [hcs]
    rw [blocks_blank_append hbefore, blocks_append_blank hafter]
  rw [scripts, blocks_append_blank hline, ← hblocks, scripts]

/-! What is taken out of blocks -/

theorem unfenced_of_mem_blocks {cs body : List Char} (h : body ∈ blocks cs) : Unfenced body := by
  fun_induction blocks cs with
  | case1 cs b rest hblock _ ih =>
    rcases List.mem_cons.mp h with rfl | h
    · obtain ⟨_, -, hsplit⟩ := Option.bind_eq_some_iff.mp hblock
      exact unfenced_of_splitAtFence? hsplit
    · exact ih h
  | case2 _ => simp at h
  | case3 c cs _ ih => exact ih h

theorem exists_block_of_mem_scripts {cs body : List Char} (h : body ∈ scripts cs) :
    body ≠ [] ∧ ∃ b ∈ blocks cs, body = Text.trim b := by
  obtain ⟨hmem, hne⟩ := List.mem_filter.mp h
  obtain ⟨b, hb, rfl⟩ := List.mem_map.mp hmem
  exact ⟨by simpa using hne, b, hb, rfl⟩

theorem unfenced_stripChars {cs : List Char} (h : scripts cs ≠ []) : Unfenced (stripChars cs) := by
  rw [stripChars_of_scripts h]
  refine (unfenced_intercalate fun body hbody => ?_).append_newline unfenced_nil
  obtain ⟨-, b, hb, rfl⟩ := exists_block_of_mem_scripts hbody
  exact Unfenced.of_infix (unfenced_of_mem_blocks hb) (Text.trim_isInfix b)

theorem scripts_of_unfenced {cs : List Char} (h : Unfenced cs) : scripts cs = [] := by
  have hnone : blocks (cs ++ []) = blocks [] := blocks_prose h (.inl rfl)
  rw [List.append_nil, blocks_nil] at hnone
  rw [scripts, hnone]
  rfl

theorem trimmed_intercalate {bodies : List (List Char)} (hne : bodies ≠ [])
    (h : ∀ body ∈ bodies, Text.Trimmed body) :
    Text.Trimmed (List.intercalate ['\n', '\n'] bodies) := by
  induction bodies with
  | nil => contradiction
  | cons body bodies ih =>
    obtain ⟨hbody, hrest⟩ := List.forall_mem_cons.mp h
    cases bodies with
    | nil => simpa [List.intercalate] using hbody
    | cons next bodies =>
      rw [List.intercalate_cons_cons, List.append_assoc]
      exact hbody.append _ (ih (List.cons_ne_nil next bodies) hrest)

theorem trimmed_scripts {cs : List Char} (h : scripts cs ≠ []) :
    Text.Trimmed (List.intercalate ['\n', '\n'] (scripts cs)) := by
  refine trimmed_intercalate h fun body hbody => ?_
  obtain ⟨hne, b, -, rfl⟩ := exists_block_of_mem_scripts hbody
  exact Text.trimmed_trim hne

/-- What is taken out of a reply that is not blank is not blank either. -/
theorem exists_trimmed_stripChars {cs : List Char} (h : ¬ Text.Blank cs) :
    ∃ text, Text.Trimmed text ∧ stripChars cs = text ++ ['\n'] := by
  by_cases hscripts : scripts cs = []
  · have hne : Text.trim cs ≠ [] := fun hnil => h (Text.trim_eq_nil_iff.mp hnil)
    exact ⟨_, Text.trimmed_trim hne, stripChars_of_no_scripts hscripts⟩
  · exact ⟨_, trimmed_scripts hscripts, stripChars_of_scripts hscripts⟩

theorem stripChars_stripChars (cs : List Char) : stripChars (stripChars cs) = stripChars cs := by
  by_cases h : scripts cs = []
  · have hagain : scripts (stripChars cs) = [] := by
      rw [stripChars_of_no_scripts h, scripts_trim_append_newline, h]
    have htrimmed : Text.trim cs = [] ∨ Text.Trimmed (Text.trim cs) :=
      (eq_or_ne _ _).imp id Text.trimmed_trim
    rw [stripChars_of_no_scripts hagain, stripChars_of_no_scripts h, Text.trim_append_newline htrimmed]
  · have hagain : scripts (stripChars cs) = [] := scripts_of_unfenced (unfenced_stripChars h)
    rw [stripChars_of_no_scripts hagain, stripChars_of_scripts h,
      Text.trim_append_newline (.inr (trimmed_scripts h))]

theorem scripts_ne_nil_iff {cs : List Char} :
    scripts cs ≠ [] ↔ ∃ body ∈ blocks cs, ¬ Text.Blank body := by
  simp [scripts, List.filter_eq_nil_iff, Text.trim_eq_nil_iff]

/-- Taking the script out of a reply once more changes nothing, whatever the reply is; and if a block of
the reply is not blank, no fence is left. -/
theorem strip_strip (reply : String) :
    strip (strip reply) = strip reply ∧
      ((∃ body ∈ blocks reply.toList, ¬ Text.Blank body) → Unfenced (strip reply).toList) := by
  constructor
  · rw [strip, strip, String.toList_ofList, stripChars_stripChars]
  · intro h
    rw [strip, String.toList_ofList]
    exact unfenced_stripChars (scripts_ne_nil_iff.mpr h)

/-- A reply whose blocks are all blank keeps its fences. -/
example : strip " \x60\x60\x60\n\n\x60\x60\x60 no script\t" =
    "\x60\x60\x60\n\n\x60\x60\x60 no script\n" := by
  decide +kernel

end SchemaScript.Fence
