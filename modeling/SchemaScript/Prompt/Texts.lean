/-! The texts of the prompt catalog. A text is a list of lines, each of which ends in a line feed. Two of
them frame a request and have placeholders in braces; the others instruct on one dialect each. -/

namespace SchemaScript.PromptText

/-- Lines as one text. -/
def unlines (lines : List String) : String := String.join (lines.map (· ++ "\n"))

/-- The task and the rules that hold for every dialect. -/
def base : String := unlines [
  "You are generating SQL scripts for creating database tables and sequences, handling " ++
    "primary keys, indices, and other table attributes.",
  "The following instructions will guide you in optimizing the script for the " ++
    "\x7bDATABASE_TYPE\x7d dialect:",
  "- **Column Names**: Do **not** modify the names of columns. Every column name in the " ++
    "generated script must appear exactly as it does in the input script.",
  "- **Column Name Conflicts**: When a column name conflicts with a data type or reserved " ++
    "keyword (e.g., fulltext), escape the column name by enclosing it in the dialect's " ++
    "identifier quotes.",
  "- **Foreign Key Types**: Foreign key columns already share the data type of the column " ++
    "they reference. Keep the types of both columns identical."]

/-- The script and what the answer has to look like. -/
def footer : String := unlines [
  "- **Validation**: The script must execute as-is against a \x7bDATABASE_TYPE\x7d database.",
  "- **Syntax Checking**: Use only syntax supported by the \x7bDATABASE_TYPE\x7d dialect.",
  "- **Statement Order**: Keep tables before the statements that depend on them.",
  "",
  "Here is the SQL script that needs to be optimized or generated according to the " ++
    "instructions above:",
  "",
  "\x7bSQL_SCRIPT\x7d",
  "",
  "Just answer with the script with no additional details. Give the commands flat without " ++
    "markdown.",
  "",
  "No images are allowed. Do not try to generate or link images, including base64 data URLs.",
  "",
  "Feel free to suggest corrections for suspected typos as SQL comments."]

def postgresql : String := unlines [
  "- **Sequence Creation**: Use `CREATE SEQUENCE IF NOT EXISTS` for sequence creation.",
  "- **Table and Index Creation**: Use `CREATE TABLE IF NOT EXISTS` and `CREATE INDEX IF NOT " ++
    "EXISTS` to avoid errors if the object already exists.",
  "- **Serial and Identity Columns**: For auto-increment columns, use `SERIAL` or `GENERATED " ++
    "BY DEFAULT AS IDENTITY`.",
  "- **Conditional Statements**: Use PostgreSQL's support for `IF NOT EXISTS` in the " ++
    "relevant `CREATE` statements."]

def mysql : String := unlines [
  "- **Table Creation**: Use `CREATE TABLE IF NOT EXISTS` for creating tables. Make sure all " ++
    "foreign key columns use the data types given in the input script.",
  "- **Auto-Increment**: Use `AUTO_INCREMENT` for auto-incrementing primary key columns.",
  "- **Index Creation**: Place all `CREATE INDEX` statements separately after the `CREATE " ++
    "TABLE` statement. Do not use `IF NOT EXISTS` in `CREATE INDEX` statements.",
  "- **Indexing TEXT/BLOB Columns**: Do **not** create regular indexes on `TEXT` or `BLOB` " ++
    "columns. Use `FULLTEXT` indexes for `TEXT` columns where an index is required.",
  "- **Date Column Defaults**: Do not use `CURRENT_DATE` as a default for `DATE` columns. " ++
    "Use `DEFAULT NULL` instead.",
  "- **Timestamp Default Value**: Use `DEFAULT CURRENT_TIMESTAMP` for `TIMESTAMP` columns. " ++
    "Only one `TIMESTAMP` column can have `CURRENT_TIMESTAMP` as the default without specifying " ++
    "`ON UPDATE`.",
  "- **Boolean Columns**: Use `TINYINT(1)` instead of `BOOLEAN`.",
  "- **TEXT and BLOB Defaults**: Do not give `TEXT` or `BLOB` columns a literal default " ++
    "value.",
  "- **ENUM Data Type**: Make sure default values are members of the `ENUM` declaration.",
  "- **Default Values**: Format default values for `DECIMAL` and `ENUM` columns according to " ++
    "MySQL syntax.",
  "- **Sequences**: MySQL does not support sequences. Use `AUTO_INCREMENT` instead.",
  "",
  "**Reminder**: Escape column names that conflict with reserved keywords or data types " ++
    "(like `fulltext`) using backticks (`)."]

def mariadb : String := unlines [
  "- **Table Creation**: Use `CREATE TABLE IF NOT EXISTS` for creating tables. Make sure all " ++
    "foreign key columns use the data types given in the input script.",
  "- **Auto-Increment**: Use `AUTO_INCREMENT` for auto-incrementing primary key columns.",
  "- **Index Creation**: Place all `CREATE INDEX` statements separately after the `CREATE " ++
    "TABLE` statement. Do not use `IF NOT EXISTS` in `CREATE INDEX` statements.",
  "- **Indexing TEXT/BLOB Columns**: Do **not** create regular indexes on `TEXT` or `BLOB` " ++
    "columns. Use `FULLTEXT` indexes for `TEXT` columns where an index is required.",
  "- **Date Column Defaults**: Do not use `CURRENT_DATE` as a default for `DATE` columns. " ++
    "Use `DEFAULT NULL` instead.",
  "- **Timestamp Default Value**: Use `DEFAULT CURRENT_TIMESTAMP` for `TIMESTAMP` columns. " ++
    "Only one `TIMESTAMP` column can have `CURRENT_TIMESTAMP` as the default without specifying " ++
    "`ON UPDATE`.",
  "- **Boolean Columns**: Use `TINYINT(1)` instead of `BOOLEAN` for compatibility with older " ++
    "MariaDB versions.",
  "- **TEXT and BLOB Constraints**: Do not use `NOT NULL` with `TEXT` or `BLOB` columns.",
  "- **ENUM Data Type**: Make sure default values are members of the `ENUM` declaration and " ++
    "that the declaration follows MariaDB syntax.",
  "- **Default Values**: Format default values for `DECIMAL` and `ENUM` columns according to " ++
    "MariaDB syntax.",
  "- **Sequences**: Prefer `AUTO_INCREMENT` over sequences for primary keys.",
  "",
  "**Reminder**: Escape column names that conflict with reserved keywords or data types " ++
    "(like `fulltext`) using backticks (`)."]

def sqlServer : String := unlines [
  "- **Sequence Creation**: Use `CREATE SEQUENCE` without `IF NOT EXISTS`, wrapped in " ++
    "conditional logic that checks whether the sequence exists.",
  "- **Identity Columns**: Prefer the `IDENTITY` keyword (e.g., `INT IDENTITY(1,1)`) for " ++
    "auto-incrementing primary key columns.",
  "- **Conditional Logic**: Use a conditional block like `IF NOT EXISTS (SELECT * FROM " ++
    "sys.objects WHERE ...)` because SQL Server does not support `IF NOT EXISTS` directly in " ++
    "`CREATE` statements.",
  "- **Avoid Unsupported Syntax**: Do not emit statements like `CREATE TABLE IF NOT EXISTS`.",
  "- **Batches**: Separate batches with `GO` where a statement must run in its own batch."]

def sqlite : String := unlines [
  "- **Table Creation**: Use `CREATE TABLE IF NOT EXISTS`.",
  "- **Auto-Increment**: Use `AUTOINCREMENT` with `INTEGER PRIMARY KEY` for auto-increment " ++
    "functionality.",
  "- **No Sequence Support**: SQLite does not support sequences; rely on `AUTOINCREMENT` " ++
    "instead.",
  "- **Foreign Key Constraints**: Do not use `ALTER TABLE` to add foreign key constraints. " ++
    "SQLite cannot add foreign keys to an existing table. Define every foreign key inside its " ++
    "`CREATE TABLE` statement, without a constraint name.",
  "- **Table Order**: Because foreign keys move into `CREATE TABLE`, order the tables so " ++
    "referenced tables are created first where possible.",
  "- **Conditional Logic**: Use only SQLite-compatible syntax."]

end SchemaScript.PromptText
