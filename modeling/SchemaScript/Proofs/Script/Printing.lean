import SchemaScript.Script.Export

/-! When a script has a text. The sizes of its columns are the only numbers in it. As long as none of them
has too many digits, the text is the one that shows each size as it is; otherwise there is none. -/

namespace SchemaScript

/-- Where a step fails in one way only, going through a list succeeds if every step does. -/
theorem mapM_eq_ite {f : α → Except ε β} {g : α → β} {P : α → Prop} [DecidablePred P] {e : ε}
    (h : ∀ a, f a = if P a then .ok (g a) else .error e) (as : List α) :
    as.mapM f = if ∀ a ∈ as, P a then .ok (as.map g) else .error e := by
  induction as with
  | nil => simp [pure, Except.pure]
  | cons a as ih =>
    rw [List.mapM_cons, h, ih]
    by_cases ha : P a
    · by_cases has : ∀ a ∈ as, P a
      · rw [if_pos ha, if_pos has, if_pos (List.forall_mem_cons.mpr ⟨ha, has⟩)]
        rfl
      · rw [if_pos ha, if_neg has, if_neg fun hall => has (List.forall_mem_cons.mp hall).2]
        rfl
    · rw [if_neg ha, if_neg fun hall => ha (List.forall_mem_cons.mp hall).1]
      rfl

theorem mapM_bind_eq_ite {f : α → Except ε β} {g : α → β} {P : α → Prop} [DecidablePred P] {e : ε}
    (h : ∀ a, f a = if P a then .ok (g a) else .error e) (k : List β → γ) (as : List α) :
    (as.mapM f >>= fun bs => pure (k bs)) =
      if ∀ a ∈ as, P a then .ok (k (as.map g)) else .error e := by
  rw [mapM_eq_ite h]
  split
  · rfl
  · rfl

namespace Script

/-- All sizes of the column have texts. -/
def Column.Printable (c : Column) : Prop := ∀ i ∈ c.size, digitCount i ≤ digitLimit

def Block.Printable (b : Block) : Prop := ∀ c ∈ b.columns, c.Printable

/-- All sizes of the script have texts. -/
def Printable (s : Script) : Prop := ∀ b ∈ s.blocks, b.Printable

instance (c : Column) : Decidable c.Printable :=
  inferInstanceAs (Decidable (∀ i ∈ c.size, digitCount i ≤ digitLimit))

instance (b : Block) : Decidable b.Printable :=
  inferInstanceAs (Decidable (∀ c ∈ b.columns, c.Printable))

instance (s : Script) : Decidable s.Printable :=
  inferInstanceAs (Decidable (∀ b ∈ s.blocks, b.Printable))

/-! The texts with sizes of any length -/

def Column.text (c : Column) : String :=
  columnText c.name c.type (c.size.map toString) c.nullable c.default c.primaryKey

def Block.text (b : Block) : String :=
  createTableText b.table (b.columns.map Column.text)
    ++ String.join (b.indexes.map (IndexDef.text b.table)) ++ "\n"

def text (s : Script) : String :=
  String.join (s.blocks.map Block.text) ++ String.join (s.foreignKeys.map ForeignKey.text)

theorem Column.render_eq (c : Column) :
    c.render = if c.Printable then .ok c.text else .error .tooManyDigits :=
  mapM_bind_eq_ite (fun _ => rfl) _ c.size

theorem Block.render_eq (b : Block) :
    b.render = if b.Printable then .ok b.text else .error .tooManyDigits :=
  mapM_bind_eq_ite Column.render_eq _ b.columns

theorem render_eq (s : Script) :
    s.render = if s.Printable then .ok s.text else .error .tooManyDigits :=
  mapM_bind_eq_ite Block.render_eq _ s.blocks

end Script

namespace Diagram

theorem sql_eq (d : Diagram) :
    d.sql = if d.script.Printable then .ok d.script.text else .error .tooManyDigits :=
  d.script.render_eq

/-- A diagram has a script if all sizes can be printed, and then it is this text. -/
theorem sql_eq_ok_iff {d : Diagram} {sql : String} :
    d.sql = .ok sql ↔ d.script.Printable ∧ sql = d.script.text := by
  rw [sql_eq]
  by_cases h : d.script.Printable
  · rw [if_pos h]
    simp [h, eq_comm]
  · rw [if_neg h]
    simp [h]

theorem exists_sql_iff {d : Diagram} : (∃ sql, d.sql = .ok sql) ↔ d.script.Printable := by
  simp [sql_eq_ok_iff]

end Diagram

end SchemaScript
