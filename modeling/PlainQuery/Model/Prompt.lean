import PlainQuery.Text.Pieces

/-!
# Prompts

What a language model is asked: to turn a question into an intent, to tell questions about data from
conversation, and to answer a question from the rows of a result.
-/

namespace PlainQuery.Prompt

/-- The lines of a text, each with its line break. -/
def lines (texts : List String) : String := String.join (texts.map fun text => text ++ "\n")

/-- Asks for the intent of a question. -/
def intent (schemaDescription currentDate question : String) : String :=
  lines
    ["You are an expert at turning questions into structured SQL query plans.",
     "",
     "AVAILABLE DATABASE SCHEMA:",
     schemaDescription,
     "",
     "CURRENT DATE: " ++ currentDate,
     "",
     "Read the user's question and extract what is needed to build a SQL query.",
     "Resolve relative dates such as \"last month\", \"this year\" or \"last quarter\"",
     "into exact dates using the current date.",
     "",
     "USER QUESTION:",
     question,
     "",
     "Reply ONLY with valid JSON, no text before or after, in this shape:",
     "\x7b",
     "    \"tables\": [\"table1\", \"table2\"],",
     "    \"select_columns\": [\"col1\", \"col2\"],",
     "    \"aggregations\": [",
     "        \x7b\"func\": \"SUM|COUNT|COUNT DISTINCT|AVG|MAX|MIN\", \"column\": \"column " ++
      "or *\", \"alias\": \"name\"\x7d",
     "    ],",
     "    \"filters\": [",
     "        \x7b\"column\": \"column\", \"operator\": \"=|!=|>|<|>=|<=|LIKE|ILIKE|IN|NOT " ++
      "IN|BETWEEN|IS NULL|IS NOT NULL\", \"value\": \"value\"\x7d",
     "    ],",
     "    \"joins\": [",
     "        \x7b\"table1\": \"t1\", \"col1\": \"c1\", \"table2\": \"t2\", \"col2\": \"c2\"\x7d",
     "    ],",
     "    \"group_by\": [\"col1\"],",
     "    \"order_by\": [",
     "        \x7b\"column\": \"column\", \"direction\": \"ASC|DESC\"\x7d",
     "    ],",
     "    \"limit\": null,",
     "    \"date_range\": \x7b",
     "        \"start_date\": \"YYYY-MM-DD or null\",",
     "        \"end_date\": \"YYYY-MM-DD or null\",",
     "        \"period_description\": \"description\"",
     "    \x7d,",
     "    \"confidence\": 0.0,",
     "    \"reasoning\": \"short explanation\"",
     "\x7d",
     "",
     "RULES:",
     "1. Only use tables and columns that exist in the schema.",
     "2. When the question is ambiguous, prefer the most common interpretation.",
     "3. For \"how many\" questions use COUNT with column \"*\".",
     "4. For \"total\" or \"sum\" questions use SUM.",
     "5. IN and NOT IN take a JSON array; BETWEEN takes a two-element array.",
     "6. If no order is requested, order by the most relevant column DESC."]

/-- Asks whether a message is a question about data. -/
def detection (message : String) : String :=
  lines
    ["You classify messages sent to a data analysis assistant.",
     "",
     "Decide whether the user wants to query data from a database.",
     "",
     "MESSAGES THAT NEED DATA:",
     "- Questions about quantities, totals, sums or averages",
     "- Comparisons between categories or periods",
     "- Rankings (top, highest, lowest, sorted)",
     "- Trends over time",
     "- Specific filters (\"open tickets\", \"equipment with failures\")",
     "- Record listings",
     "",
     "MESSAGES THAT DO NOT NEED DATA:",
     "- Greetings or small talk",
     "- General questions about the system",
     "- Requests for help or explanations",
     "- Theoretical questions",
     "",
     "USER MESSAGE:",
     message,
     "",
     "Reply ONLY with valid JSON, no text before or after:",
     "\x7b",
     "    \"requires_data\": true,",
     "    \"confidence\": 0.0,",
     "    \"reasoning\": \"short explanation\"",
     "\x7d"]

/-- Asks for an answer to a question in prose, from the result of its query. -/
def answer (question queryDescription results : String) (rowCount : Nat) (columns : List String) :
    String :=
  lines
    ["You are a data analysis assistant. A query was run to answer the user's question.",
     "",
     "ORIGINAL QUESTION:",
     question,
     "",
     "QUERY RUN:",
     queryDescription,
     "",
     "DATA RETURNED:",
     results,
     "",
     "METADATA:",
     "- Rows returned: " ++ toString rowCount,
     "- Columns: " ++ Text.joined ", " columns,
     "",
     "Write a clear, professional answer that:",
     "1. Answers the question directly",
     "2. Presents the data legibly (use a markdown table for several rows)",
     "3. Points out relevant insights when the data allows it",
     "4. Is concise but complete",
     "",
     "If the data is empty, say that no results were found and suggest likely",
     "reasons (wrong period, overly strict filter).",
     "",
     "Do not invent data. Only use the data provided."]

end PlainQuery.Prompt
