import SqlWorkbench.Query.Template

/-!
# Catalog queries

What the catalog of an engine is asked for enum types, indexes and constraints. An engine that has
no such thing, or does not tell it, is not asked.
-/

namespace SqlWorkbench.Catalog

/-- A query without parameters, from its lines. -/
def queryOfLines (lines : List String) : Query :=
  .ofSql (Text.joinWith "\n" lines)

/-- The schemas of the engine itself. -/
def mysqlSystemSchemas : String :=
  "'mysql', 'information_schema', 'performance_schema', 'sys'"

/-- The query for enum types. -/
def enums? : Dialect → Option Query
  | .postgres => some (queryOfLines [
      "SELECT n.nspname AS \"schema\", t.typname AS \"name\", e.enumlabel AS \"value\"",
      "FROM pg_type t",
      "INNER JOIN pg_enum e ON t.oid = e.enumtypid",
      "INNER JOIN pg_catalog.pg_namespace n ON t.typnamespace = n.oid",
      "WHERE n.nspname NOT IN ('pg_catalog', 'information_schema')",
      "ORDER BY n.nspname, t.typname, e.enumsortorder"])
  | .mysql => some (queryOfLines [
      "SELECT TABLE_SCHEMA AS `schema`, TABLE_NAME AS `table`, COLUMN_TYPE AS `value`, " ++
        "COLUMN_NAME AS `name`, DATA_TYPE AS `data_type`",
      "FROM information_schema.COLUMNS",
      "WHERE TABLE_SCHEMA NOT IN (" ++ mysqlSystemSchemas ++
        ") AND (DATA_TYPE = 'enum' OR DATA_TYPE = 'set')",
      "GROUP BY TABLE_SCHEMA, TABLE_NAME, COLUMN_NAME, COLUMN_TYPE, DATA_TYPE"])
  | .mssql => some (queryOfLines [
      "SELECT TABLE_SCHEMA AS [schema], TABLE_NAME AS [table], DATA_TYPE AS [value], " ++
        "COLUMN_NAME AS [name], DATA_TYPE AS [data_type]",
      "FROM information_schema.COLUMNS",
      "WHERE TABLE_SCHEMA NOT IN ('INFORMATION_SCHEMA', 'information_schema', 'system') " ++
        "AND (DATA_TYPE = 'enum' OR DATA_TYPE = 'set')",
      "GROUP BY TABLE_SCHEMA, TABLE_NAME, COLUMN_NAME, DATA_TYPE"])
  | .clickhouse => some (queryOfLines [
      "SELECT table_schema AS `schema`, table_name AS `table`, " ++
        "column_name AS `name`, data_type AS `type`",
      "FROM information_schema.columns",
      "WHERE table_schema NOT IN ('INFORMATION_SCHEMA', 'information_schema', 'system') " ++
        "AND data_type ILIKE 'Enum%'"])
  | .sqlite => none

/-- The query for the columns of indexes. -/
def indexes? : Dialect → Option Query
  | .postgres => some (queryOfLines [
      "SELECT n.nspname AS \"schema\", t.relname AS \"table\", i.relname AS \"name\",",
      "       a.attname AS \"column\", ix.indisunique AS \"isUnique\", " ++
        "ix.indisprimary AS \"isPrimary\"",
      "FROM pg_class t",
      "INNER JOIN pg_index ix ON t.oid = ix.indrelid",
      "INNER JOIN pg_class i ON i.oid = ix.indexrelid",
      "INNER JOIN pg_attribute a ON a.attrelid = t.oid AND a.attnum = ANY(ix.indkey)",
      "INNER JOIN pg_namespace n ON n.oid = t.relnamespace",
      "WHERE n.nspname NOT IN ('pg_catalog', 'information_schema') AND t.relkind = 'r'"])
  | .mysql => some (queryOfLines [
      "SELECT TABLE_SCHEMA AS `schema`, TABLE_NAME AS `table`, INDEX_NAME AS `name`, " ++
        "COLUMN_NAME AS `column`, NON_UNIQUE = 0 AS `isUnique`, " ++
        "INDEX_NAME = 'PRIMARY' AS `isPrimary`",
      "FROM information_schema.STATISTICS",
      "WHERE TABLE_SCHEMA NOT IN (" ++ mysqlSystemSchemas ++ ")",
      "ORDER BY TABLE_SCHEMA, TABLE_NAME, INDEX_NAME, SEQ_IN_INDEX"])
  | .mssql => some (queryOfLines [
      "SELECT s.name AS [schema], t.name AS [table], i.name AS [name], c.name AS [column], " ++
        "i.is_unique AS [isUnique], i.is_primary_key AS [isPrimary]",
      "FROM sys.indexes i",
      "INNER JOIN sys.tables t ON t.object_id = i.object_id",
      "INNER JOIN sys.schemas s ON s.schema_id = t.schema_id",
      "INNER JOIN sys.index_columns ic ON ic.object_id = i.object_id AND ic.index_id = i.index_id",
      "INNER JOIN sys.columns c ON c.object_id = ic.object_id AND c.column_id = ic.column_id"])
  | .clickhouse => some (queryOfLines [
      "SELECT database AS `schema`, table AS `table`, name AS `column`",
      "FROM system.columns",
      "WHERE is_in_primary_key = 1 AND database NOT IN ('system', 'information_schema')"])
  | .sqlite => none

/-- The query for constraints. -/
def constraints? : Dialect → Option Query
  | .postgres => some (queryOfLines [
      "SELECT tc.table_schema AS \"schema\", tc.table_name AS \"table\",",
      "       tc.constraint_name AS \"name\", tc.constraint_type AS \"type\", " ++
        "kcu.column_name AS \"column\",",
      "       ccu.table_schema AS \"usage_schema\", ccu.table_name AS \"usage_table\",",
      "       ccu.column_name AS \"usage_column\"",
      "FROM information_schema.table_constraints tc",
      "LEFT JOIN information_schema.key_column_usage kcu " ++
        "ON tc.constraint_name = kcu.constraint_name",
      "LEFT JOIN information_schema.constraint_column_usage ccu " ++
        "ON tc.constraint_name = ccu.constraint_name",
      "WHERE tc.constraint_type IN ('PRIMARY KEY', 'UNIQUE', 'FOREIGN KEY')",
      "  AND ccu.table_schema NOT LIKE 'pg_%'"])
  | .mysql => some (queryOfLines [
      "SELECT tc.TABLE_SCHEMA AS `schema`, tc.TABLE_NAME AS `table`, " ++
        "tc.CONSTRAINT_NAME AS `name`, tc.CONSTRAINT_TYPE AS `type`, " ++
        "kcu.COLUMN_NAME AS `column`, kcu.REFERENCED_TABLE_SCHEMA AS `usage_schema`, " ++
        "kcu.REFERENCED_TABLE_NAME AS `usage_table`, " ++
        "kcu.REFERENCED_COLUMN_NAME AS `usage_column`",
      "FROM information_schema.TABLE_CONSTRAINTS tc",
      "LEFT JOIN information_schema.KEY_COLUMN_USAGE kcu " ++
        "ON tc.CONSTRAINT_NAME = kcu.CONSTRAINT_NAME",
      "WHERE tc.CONSTRAINT_TYPE IN ('PRIMARY KEY', 'UNIQUE', 'FOREIGN KEY') " ++
        "AND tc.TABLE_SCHEMA NOT IN (" ++ mysqlSystemSchemas ++ ")"])
  | .mssql | .clickhouse | .sqlite => none

end SqlWorkbench.Catalog
