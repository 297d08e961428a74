import SchemaScript.Text.Blank
import SchemaScript.Text.CharClass

/-! Fenced code in a reply. A fence is three backticks; a block opens with a fence, a tag and gaps on
the rest of its line, and extends to the next fence. Where a reply has blocks that are not blank,
their bodies are the script, and the prose around them is dropped; where it has none, the reply is
the script. -/

namespace SchemaScript.Fence

def fence : List Char := ['\x60', '\x60', '\x60']

def isTagChar (c : Char) : Bool := Text.isWordChar c || c == '-'

def isGap (c : Char) : Bool := c == ' ' || c == '\t'

/-- What follows the line that opens a block, if the text starts with one. -/
def afterOpening? (cs : List Char) : Option (List Char) :=
  if fence.isPrefixOf cs then
    match ((cs.drop fence.length).dropWhile isTagChar).dropWhile isGap with
    | '\n' :: body => some body
    | _ => none
  else none

/-- The text before the first fence and the text behind it. -/
def splitAtFence? : List Char → Option (List Char × List Char)
  | [] => none
  | c :: cs =>
    if fence.isPrefixOf (c :: cs) then some ([], (c :: cs).drop fence.length)
    else (splitAtFence? cs).map fun (body, rest) => (c :: body, rest)

/-- The body of the block the text starts with, and the text behind that block. -/
def block? (cs : List Char) : Option (List Char × List Char) :=
  (afterOpening? cs).bind splitAtFence?

theorem length_splitAtFence? {cs body rest : List Char} (h : splitAtFence? cs = some (body, rest)) :
    rest.length ≤ cs.length := by
  induction cs generalizing body with
  | nil => simp [splitAtFence?] at h
  | cons c cs ih =>
    rw [splitAtFence?] at h
    split at h
    · obtain ⟨-, rfl⟩ := Prod.mk.inj (Option.some.inj h)
      simp
    · obtain ⟨⟨b, r⟩, hb, hr⟩ := Option.map_eq_some_iff.1 h
      obtain ⟨-, rfl⟩ := Prod.mk.inj hr
      exact Nat.le_succ_of_le (ih hb)

theorem length_afterOpening? {cs body : List Char} (h : afterOpening? cs = some body) :
    body.length < cs.length := by
  rw [afterOpening?] at h
  split at h
  · split at h
    · next hd =>
      obtain rfl := Option.some.inj h
      have h1 : (((cs.drop fence.length).dropWhile isTagChar).dropWhile isGap).length
          ≤ cs.length :=
        Nat.le_trans (List.dropWhile_sublist _).length_le
          (Nat.le_trans (List.dropWhile_sublist _).length_le (by simp))
      rw [hd, List.length_cons] at h1
      exact h1
    · simp at h
  · simp at h

/-- The text behind a block is shorter than the text it started. -/
theorem length_block? {cs body rest : List Char} (h : block? cs = some (body, rest)) :
    rest.length < cs.length := by
  obtain ⟨b, hb, hs⟩ := Option.bind_eq_some_iff.1 h
  exact Nat.lt_of_le_of_lt (length_splitAtFence? hs) (length_afterOpening? hb)

/-- The bodies of all blocks. A block starts at the first place where one can. -/
def blocks (cs : List Char) : List (List Char) :=
  match hb : block? cs with
  | some (body, rest) =>
    have : rest.length < cs.length := length_block? hb
    body :: blocks rest
  | none =>
    match cs with
    | [] => []
    | _ :: cs => blocks cs
termination_by cs.length

/-- The bodies that are not blank, trimmed. -/
def scripts (cs : List Char) : List (List Char) :=
  ((blocks cs).map Text.trim).filter (!·.isEmpty)

def stripChars (cs : List Char) : List Char :=
  match scripts cs with
  | [] => Text.trim cs ++ ['\n']
  | bodies => List.intercalate ['\n', '\n'] bodies ++ ['\n']

/-- The script in a reply. -/
def strip (reply : String) : String := String.ofList (stripChars reply.toList)

end SchemaScript.Fence
