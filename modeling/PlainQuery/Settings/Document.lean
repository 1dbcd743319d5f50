import PlainQuery.Settings.Basic

/-!
# Settings as documents
-/

namespace PlainQuery.Settings

/-- The settings by section, under the names by which they are read. -/
def toJson (settings : Settings) : Json :=
  .ofMembers
    [("database", .ofMembers
        [("connection_string", .string settings.database.location),
         ("pool_size", .ofNat settings.database.poolSize),
         ("read_only", .bool settings.database.readOnly),
         ("schema", .string settings.database.schema)]),
     ("discovery", .ofMembers
        [("cache_ttl_secs", .ofNat settings.discovery.timeToLive),
         ("include_internal_tables", .bool settings.discovery.includeInternal),
         ("internal_tables", .ofStrings settings.discovery.internalTables),
         ("sample_size", .ofNat settings.discovery.sampleSize)]),
     ("display", .ofMembers
        [("markdown_rows", .ofNat settings.display.markdownRows),
         ("text_rows", .ofNat settings.display.textRows)]),
     ("executor", .ofMembers
        [("max_rows", .ofNat settings.execution.maxRows),
         ("timeout_secs", .ofNat settings.execution.timeout)]),
     ("generator", .ofMembers
        [("default_date_column", .string settings.defaultDateColumn)]),
     ("llm", .ofMembers
        [("api_key", .ofOption .string settings.model.apiKey),
         ("api_url", .ofOption .string settings.model.apiUrl),
         ("backend", .string settings.model.backend),
         ("model", .string settings.model.model),
         ("temperature", .string (Number.Layout.plain.write settings.model.temperature))]),
     ("logging", .ofMembers [("json", .bool settings.logAsDocuments)])]

end PlainQuery.Settings
