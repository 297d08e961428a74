import SchemaScript.Diagram.Basic
import SchemaScript.Validation.Scalar

/-! Reading diagrams from JSON values. Members may come under their camel-case or their snake-case
key; unknown members are ignored. -/

namespace SchemaScript

/-- The names that reports use for the models. -/
def Field.modelName : String := "FieldSpec"

def Index.modelName : String := "IndexSpec"

def Table.modelName : String := "TableSpec"

def Relationship.modelName : String := "RelationshipSpec"

def Diagram.modelName : String := "Diagram"

namespace Checked

/-- Reads an object from its members. -/
def object (model : String) (read : List (String × Json) → Checked α) : Json → Checked α
  | .object members => read members
  | _ => mismatch (.notObject model)

end Checked

open Checked

def Field.ofMembers (ms : List (String × Json)) : Checked Field :=
  Field.mk <$> (Key.word "id").required string ms
    <*> (Key.word "name").required string ms
    <*> (Key.word "type").required string ms
    <*> (Key.mk "characterMaximumLength" "character_maximum_length").withDefault none
      (orNull integer) ms
    <*> (Key.word "precision").withDefault none (orNull integer) ms
    <*> (Key.word "scale").withDefault none (orNull integer) ms
    <*> (Key.word "nullable").withDefault false flag ms
    <*> (Key.word "default").withDefault none defaultText ms
    <*> (Key.mk "primaryKey" "primary_key").withDefault false flag ms

def Field.ofJson : Json → Checked Field := object Field.modelName Field.ofMembers

def Index.ofMembers (ms : List (String × Json)) : Checked Index :=
  Index.mk <$> (Key.word "id").withDefault none (orNull string) ms
    <*> (Key.word "name").required string ms
    <*> (Key.word "unique").withDefault false flag ms
    <*> (Key.mk "fieldIds" "field_ids").withDefault [] (list string) ms

def Index.ofJson : Json → Checked Index := object Index.modelName Index.ofMembers

def Table.ofMembers (ms : List (String × Json)) : Checked Table :=
  Table.mk <$> (Key.word "id").required string ms
    <*> (Key.word "name").required string ms
    <*> (Key.mk "isView" "is_view").withDefault false flag ms
    <*> (Key.word "fields").withDefault [] (list Field.ofJson) ms
    <*> (Key.word "indexes").withDefault [] (list Index.ofJson) ms

def Table.ofJson : Json → Checked Table := object Table.modelName Table.ofMembers

/-- Builds a relationship from its members in the order in which they are written. -/
def Relationship.ofParts (id : Option String) (name sourceTable sourceField targetTable targetField :
    String) : Relationship :=
  ⟨id, name, ⟨sourceTable, sourceField⟩, ⟨targetTable, targetField⟩⟩

def Relationship.ofMembers (ms : List (String × Json)) : Checked Relationship :=
  Relationship.ofParts <$> (Key.word "id").withDefault none (orNull string) ms
    <*> (Key.word "name").required string ms
    <*> (Key.mk "sourceTableId" "source_table_id").required string ms
    <*> (Key.mk "sourceFieldId" "source_field_id").required string ms
    <*> (Key.mk "targetTableId" "target_table_id").required string ms
    <*> (Key.mk "targetFieldId" "target_field_id").required string ms

def Relationship.ofJson : Json → Checked Relationship :=
  object Relationship.modelName Relationship.ofMembers

def Diagram.ofMembers (ms : List (String × Json)) : Checked Diagram :=
  Diagram.mk <$> (Key.word "id").withDefault none (orNull string) ms
    <*> (Key.word "name").withDefault none (orNull string) ms
    <*> (Key.mk "databaseType" "database_type").withDefault none (orNull Checked.dialect) ms
    <*> (Key.word "tables").withDefault [] (list Table.ofJson) ms
    <*> (Key.word "relationships").withDefault [] (list Relationship.ofJson) ms

def Diagram.ofJson : Json → Checked Diagram := object Diagram.modelName Diagram.ofMembers

end SchemaScript
