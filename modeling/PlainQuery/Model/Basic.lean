import PlainQuery.Text.Escaped

/-!
# Language models

A `Model` answers a prompt with a text, in some monad `m`: a scripted model in a test, an endpoint
of a service in a program.  What is asked for is either prose or a document.
-/

namespace PlainQuery

/-- Why a model gives no reply. -/
inductive ModelError where
  /-- The model could not be reached. -/
  | connection (detail : String)
  /-- The model sent something else than a reply. -/
  | response (detail : String)
  /-- The settings describe no model. -/
  | configuration (detail : String)
deriving DecidableEq, Repr

namespace ModelError

/-- The wording of the problem. -/
def message : ModelError → String
  | connection detail => "LLM connection error: " ++ detail
  | response detail => "LLM response error: " ++ detail
  | configuration detail => "LLM configuration error: " ++ detail

/-- The name of the kind of problem. -/
def kind : ModelError → String
  | connection _ => "ConnectionError"
  | response _ => "ResponseError"
  | configuration _ => "ConfigError"

/-- What is wrong, without the kind. -/
def detail : ModelError → String
  | connection detail => detail
  | response detail => detail
  | configuration detail => detail

/-- The problem as a command reports it: its kind, and its detail between quotes. -/
def report (error : ModelError) : String := error.kind ++ "(" ++ Text.escaped error.detail ++ ")"

end ModelError

/-- What a prompt asks for. -/
inductive ReplyFormat where
  | prose
  | document
deriving DecidableEq, Repr

/-- A language model. -/
abbrev Model (m : Type → Type) := String → ReplyFormat → m (Except ModelError String)

end PlainQuery
