import Mathlib.Data.List.Infix
import SchemaScript.Adaptation.Fence
import SchemaScript.Proofs.Text.Blanks

/-! What is taken out of a reply that is written as prose and fenced blocks. The blocks found are the
blocks written: a fence that opens one is the first place where a block can start, even if the prose in
front of it ends in backticks, and the fence that closes it is the first fence behind it. -/

namespace SchemaScript.Fence

/-- No fence stands anywhere in the text. -/
def Unfenced (cs : List Char) : Prop := ¬ fence <:+: cs

instance (cs : List Char) : Decidable (Unfenced cs) :=
  inferInstanceAs (Decidable (¬ fence <:+: cs))

theorem Unfenced.of_infix {cs ds : List Char} (h : Unfenced ds) (hcs : cs <:+: ds) : Unfenced cs :=
  fun hfence => h (hfence.trans hcs)

theorem Unfenced.of_cons {c : Char} {cs : List Char} (h : Unfenced (c :: cs)) : Unfenced cs :=
  h.of_infix (List.suffix_cons c cs).isInfix

/-- A fence has no line end in it. -/
theorem Unfenced.append_newline {cs ds : List Char} (hcs : Unfenced cs) (hds : Unfenced ds) :
    Unfenced (cs ++ '\n' :: ds) := by
  rintro ⟨before, after, h⟩
  rw [List.append_assoc] at h
  rcases List.append_eq_append_iff.mp h with ⟨rest, rfl, hrest⟩ | ⟨rest, rfl, hrest⟩
  · rcases List.append_eq_append_iff.mp hrest with ⟨inner, rfl, -⟩ | ⟨inner, hfence, hinner⟩
    · exact hcs ⟨before, inner, by rw [List.append_assoc]⟩
    · cases inner with
      | nil => exact hcs ⟨before, [], by simp [hfence]⟩
      | cons c inner =>
        obtain ⟨rfl, -⟩ := List.cons.inj hinner
        have hmem : '\n' ∈ fence := by simp [hfence]
        exact absurd hmem (by decide)
  · cases rest with
    | nil => exact absurd (List.cons.inj hrest).1 (by decide)
    | cons c rest => exact hds ⟨rest, after, by simpa using (List.cons.inj hrest).2.symm⟩

theorem unfenced_nil : Unfenced [] := by decide

theorem unfenced_intercalate {texts : List (List Char)} (h : ∀ cs ∈ texts, Unfenced cs) :
    Unfenced (List.intercalate ['\n', '\n'] texts) := by
  induction texts with
  | nil => exact unfenced_nil
  | cons cs texts ih =>
    obtain ⟨hcs, hrest⟩ := List.forall_mem_cons.mp h
    cases texts with
    | nil => simpa [List.intercalate] using hcs
    | cons ds texts =>
      rw [List.intercalate_cons_cons, List.append_assoc]
      exact hcs.append_newline (unfenced_nil.append_newline (ih hrest))

/-- A fence at the start of a text reaches beyond a part without fences. -/
theorem Unfenced.isPrefix_of_isPrefix_append {cs next : List Char} (h : Unfenced cs)
    (hfence : fence <+: cs ++ next) : cs <+: fence := by
  rcases List.prefix_or_prefix_of_prefix hfence (List.prefix_append cs next) with hcs | hcs
  · exact absurd hcs.isInfix h
  · exact hcs

theorem getLast?_of_isPrefix {cs : List Char} (hcs : cs <+: fence) (hne : cs ≠ []) :
    cs.getLast? = some '\x60' := by
  rw [List.getLast?_eq_some_getLast hne]
  have hmem := hcs.subset (List.getLast_mem hne)
  simpa [fence] using hmem

theorem isPrefixOf_fence_append (cs : List Char) : fence.isPrefixOf (fence ++ cs) = true :=
  List.isPrefixOf_iff_prefix.mpr (List.prefix_append fence cs)

/-- A body ends at the first fence behind it. -/
theorem splitAtFence?_append {body : List Char} (h : Unfenced body)
    (hend : body.getLast? ≠ some '\x60') (rest : List Char) :
    splitAtFence? (body ++ (fence ++ rest)) = some (body, rest) := by
  induction body with
  | nil => rfl
  | cons c cs ih =>
    have hstart : fence.isPrefixOf (c :: cs ++ (fence ++ rest)) = false := by
      rw [Bool.eq_false_iff, ne_eq, List.isPrefixOf_iff_prefix]
      intro hfence
      exact hend (getLast?_of_isPrefix (h.isPrefix_of_isPrefix_append hfence) (by simp))
    have htail : cs.getLast? ≠ some '\x60' := by
      intro hlast
      apply hend
      rw [List.getLast?_cons, hlast, Option.getD_some]
    rw [List.cons_append, splitAtFence?, ← List.cons_append, hstart, ih h.of_cons htail]
    rfl

/-- What a class of characters is dropped from ends where the class does. -/
theorem dropWhile_append_eq {p : Char → Bool} {cs rest : List Char} (h : ∀ c ∈ cs, p c = true)
    (hrest : ∀ c, rest.head? = some c → p c = false) : (cs ++ rest).dropWhile p = rest := by
  rw [List.dropWhile_append_of_pos h]
  cases rest with
  | nil => rfl
  | cons c rest => rw [List.dropWhile_cons_of_neg (by simp [hrest c rfl])]

/-- A block as it is written: a fence, a tag and gaps, and from the next line on a body, up to another
fence. -/
structure Block where
  tag : List Char
  gaps : List Char
  body : List Char
  tag_chars : ∀ c ∈ tag, isTagChar c = true
  gaps_chars : ∀ c ∈ gaps, isGap c = true
  body_unfenced : Unfenced body
  body_end : body.getLast? ≠ some '\x60'

namespace Block

def chars (b : Block) : List Char := fence ++ (b.tag ++ (b.gaps ++ '\n' :: (b.body ++ fence)))

theorem isTagChar_of_isGap {c : Char} (h : isGap c = true) : isTagChar c = false := by
  rcases (by simpa [isGap] using h : c = ' ' ∨ c = '\t') with rfl | rfl <;> decide

theorem afterOpening?_chars (b : Block) (rest : List Char) :
    afterOpening? (b.chars ++ rest) = some (b.body ++ (fence ++ rest)) := by
  have hgaps : (b.gaps ++ '\n' :: (b.body ++ (fence ++ rest))).dropWhile isGap =
      '\n' :: (b.body ++ (fence ++ rest)) := by
    apply dropWhile_append_eq b.gaps_chars
    rintro c ⟨⟩
    decide
  have htag : (b.tag ++ (b.gaps ++ '\n' :: (b.body ++ (fence ++ rest)))).dropWhile isTagChar =
      b.gaps ++ '\n' :: (b.body ++ (fence ++ rest)) := by
    apply dropWhile_append_eq b.tag_chars
    intro c hc
    cases hg : b.gaps with
    | nil =>
      obtain rfl : '\n' = c := by simpa [hg] using hc
      decide
    | cons g gs =>
      obtain rfl : g = c := by simpa [hg] using hc
      exact isTagChar_of_isGap (b.gaps_chars g (by simp [hg]))
  simp only [chars, List.append_assoc, List.cons_append]
  rw [afterOpening?, isPrefixOf_fence_append, if_pos rfl, List.drop_left, htag, hgaps]
  rfl

theorem block?_chars (b : Block) (rest : List Char) :
    block? (b.chars ++ rest) = some (b.body, rest) := by
  rw [block?, afterOpening?_chars, Option.bind_some,
    splitAtFence?_append b.body_unfenced b.body_end]

end Block

theorem isPrefix_fence_cases {cs : List Char} (h : cs <+: fence) (hne : cs ≠ []) :
    cs = ['\x60'] ∨ cs = ['\x60', '\x60'] ∨ cs = fence := by
  obtain ⟨_, rfl, rfl | ⟨_, rfl, rfl | rfl⟩⟩ :
      ∃ ds, cs = '\x60' :: ds ∧ (ds = [] ∨ ∃ es, ds = '\x60' :: es ∧ (es = [] ∨ es = ['\x60'])) := by
    simpa [fence, List.prefix_cons_iff, hne] using h
  · exact .inl rfl
  · exact .inr (.inl rfl)
  · exact .inr (.inr rfl)

/-- Behind a fence there is no tag, no gap and no line end: a block does not start there. -/
theorem afterOpening?_backtick (cs : List Char) : afterOpening? (fence ++ '\x60' :: cs) = none := by
  have htag : ('\x60' :: cs).dropWhile isTagChar = '\x60' :: cs :=
    List.dropWhile_cons_of_neg (by decide)
  have hgaps : ('\x60' :: cs).dropWhile isGap = '\x60' :: cs :=
    List.dropWhile_cons_of_neg (by decide)
  rw [afterOpening?, isPrefixOf_fence_append, if_pos rfl, List.drop_left, htag, hgaps]
  rfl

/-- No block starts in prose: where it ends in backticks in front of a fence, more of them follow the
first three. -/
theorem block?_prose {prose : List Char} (h : Unfenced prose) (hne : prose ≠ []) {next : List Char}
    (hnext : next = [] ∨ fence <+: next) : block? (prose ++ next) = none := by
  by_cases hstart : fence <+: prose ++ next
  · have hprefix := h.isPrefix_of_isPrefix_append hstart
    rcases hnext with rfl | ⟨rest, rfl⟩
    · rw [List.append_nil] at hstart
      exact absurd hstart.isInfix h
    · rcases isPrefix_fence_cases hprefix hne with rfl | rfl | rfl
      · exact congrArg (·.bind splitAtFence?) (afterOpening?_backtick rest)
      · exact congrArg (·.bind splitAtFence?) (afterOpening?_backtick ('\x60' :: rest))
      · exact absurd List.infix_rfl h
  · rw [block?, afterOpening?, if_neg (by rwa [List.isPrefixOf_iff_prefix]), Option.bind_none]

theorem blocks_of_block? {cs body rest : List Char} (h : block? cs = some (body, rest)) :
    blocks cs = body :: blocks rest := by
  rw [blocks]
  split
  · rename_i body' rest' h'
    rw [h] at h'
    cases h'
    rfl
  · simp_all

theorem blocks_cons_of_none {c : Char} {cs : List Char} (h : block? (c :: cs) = none) :
    blocks (c :: cs) = blocks cs := by
  rw [blocks]
  split
  · simp_all
  · rfl

theorem blocks_prose {prose : List Char} (h : Unfenced prose) {next : List Char}
    (hnext : next = [] ∨ fence <+: next) : blocks (prose ++ next) = blocks next := by
  induction prose with
  | nil => rfl
  | cons c cs ih =>
    have hnone := block?_prose h (List.cons_ne_nil c cs) hnext
    rw [List.cons_append] at hnone ⊢
    rw [blocks_cons_of_none hnone, ih h.of_cons]

/-- A reply as it is written: prose, and blocks each with the prose behind it. -/
structure Reply where
  opening : List Char
  sections : List (Block × List Char)
  opening_unfenced : Unfenced opening
  prose_unfenced : ∀ s ∈ sections, Unfenced s.2

def sectionChars (s : Block × List Char) : List Char := s.1.chars ++ s.2

theorem sections_start (sections : List (Block × List Char)) :
    sections.flatMap sectionChars = [] ∨ fence <+: sections.flatMap sectionChars := by
  cases sections with
  | nil => exact .inl rfl
  | cons s sections =>
    right
    rw [List.flatMap_cons, sectionChars, Block.chars, List.append_assoc, List.append_assoc]
    exact List.prefix_append _ _

theorem blocks_sections {sections : List (Block × List Char)} (h : ∀ s ∈ sections, Unfenced s.2) :
    blocks (sections.flatMap sectionChars) = sections.map (·.1.body) := by
  induction sections with
  | nil => rw [List.flatMap_nil, blocks]; rfl
  | cons s sections ih =>
    obtain ⟨hprose, hrest⟩ := List.forall_mem_cons.mp h
    rw [List.flatMap_cons, sectionChars, List.append_assoc, blocks_of_block? (s.1.block?_chars _),
      blocks_prose hprose (sections_start sections), ih hrest, List.map_cons]

namespace Reply

def text (r : Reply) : String := String.ofList (r.opening ++ r.sections.flatMap sectionChars)

def bodies (r : Reply) : List String := r.sections.map fun s => String.ofList s.1.body

theorem blocks_text (r : Reply) : blocks r.text.toList = r.bodies.map String.toList := by
  rw [text, String.toList_ofList, blocks_prose r.opening_unfenced (sections_start r.sections),
    blocks_sections r.prose_unfenced]
  simp [bodies]

theorem scripts_text (r : Reply) : scripts r.text.toList =
    ((r.bodies.filter (!Text.isBlankText ·)).map Text.strip).map String.toList := by
  have htrim : Text.trim ∘ String.toList = String.toList ∘ Text.strip := by
    funext body
    simp [Text.strip]
  have hblank : (fun cs : List Char => !cs.isEmpty) ∘ Text.trim ∘ String.toList =
      (!Text.isBlankText ·) := by
    funext body
    simp [Text.isEmpty_trim]
  rw [scripts, blocks_text, List.map_map, List.filter_map, hblank, htrim, List.map_map]

theorem unfenced_of_mem_bodies {r : Reply} {body : String} (h : body ∈ r.bodies) :
    Unfenced body.toList := by
  obtain ⟨s, -, rfl⟩ := List.mem_map.mp h
  rw [String.toList_ofList]
  exact s.1.body_unfenced

end Reply

theorem stripChars_of_scripts {cs : List Char} (h : scripts cs ≠ []) :
    stripChars cs = List.intercalate ['\n', '\n'] (scripts cs) ++ ['\n'] := by
  unfold stripChars
  split
  · contradiction
  · rfl

theorem stripChars_of_no_scripts {cs : List Char} (h : scripts cs = []) :
    stripChars cs = Text.trim cs ++ ['\n'] := by
  rw [stripChars, h]

/-- The script in a reply of prose and fenced blocks: the bodies that are not blank, each trimmed, in
order and with an empty line between them, where no fence is left; or the whole reply, trimmed, if
there is no such body. -/
theorem strip_writtenReply (r : Reply) :
    ((∃ body ∈ r.bodies, Text.isBlankText body = false) →
      strip r.text =
        "\n\n".intercalate ((r.bodies.filter (!Text.isBlankText ·)).map Text.strip) ++ "\n" ∧
      Unfenced (strip r.text).toList) ∧
    ((∀ body ∈ r.bodies, Text.isBlankText body = true) →
      strip r.text = Text.strip r.text ++ "\n") := by
  have hscripts := r.scripts_text
  constructor
  · rintro ⟨body, hbody, hblank⟩
    have hne : scripts r.text.toList ≠ [] := by
      rw [hscripts, List.map_map, ne_eq, List.map_eq_nil_iff, List.filter_eq_nil_iff]
      intro h
      simpa [hblank] using h body hbody
    refine ⟨?_, ?_⟩
    · rw [strip, stripChars_of_scripts hne, hscripts]
      apply String.toList_inj.mp
      simp [String.toList_intercalate]
    · rw [strip, String.toList_ofList, stripChars_of_scripts hne]
      refine (unfenced_intercalate fun cs hcs => ?_).append_newline unfenced_nil
      rw [hscripts, List.map_map, List.mem_map] at hcs
      obtain ⟨body, hbody, rfl⟩ := hcs
      have hunfenced := Reply.unfenced_of_mem_bodies (List.mem_of_mem_filter hbody)
      simpa [Text.strip] using hunfenced.of_infix (Text.trim_isInfix body.toList)
  · intro hblank
    have hnone : scripts r.text.toList = [] := by
      rw [hscripts, List.map_map, List.map_eq_nil_iff, List.filter_eq_nil_iff]
      intro body hbody
      simp [hblank body hbody]
    rw [strip, stripChars_of_no_scripts hnone]
    apply String.toList_inj.mp
    simp [Text.strip]

/-- Prose that ends in backticks in front of a fence and begins with one behind it, and a blank block. -/
def backticked : Reply where
  opening := "Use \x60\x60".toList
  sections :=
    [({ tag := ['s', 'q', 'l']
        gaps := [' ', '\t']
        body := "SELECT '\x60\x60' FROM t;\n".toList
        tag_chars := List.all_eq_true.mp (by decide)
        gaps_chars := List.all_eq_true.mp (by decide)
        body_unfenced := by decide +kernel
        body_end := by decide }, "\x60 or".toList),
      (⟨[], [], " ".toList, by simp, by simp, by decide, by decide⟩, [])]
  opening_unfenced := by decide
  prose_unfenced := by decide

example : strip backticked.text = "SELECT '\x60\x60' FROM t;\n" := by decide +kernel

end SchemaScript.Fence
