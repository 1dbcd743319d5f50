import PlainQuery.Json.Shape
import PlainQuery.Model.Basic
import PlainQuery.Model.Status
import PlainQuery.Text.Blank

/-!
# Endpoints

An `Endpoint` is a service that answers prompts over HTTP, in one of two dialects: a local
generator, which can be asked for documents, or a chat service with a key.  `Endpoint.request` says
what is sent and `Endpoint.reply` reads what comes back; the sending itself is left to a
`Transport`, so `Endpoint.asModel` is a model in any monad that has one.
-/

namespace PlainQuery

/-- Settings of the language model. -/
structure ModelSettings where
  backend : String := "ollama"
  model : String := "qwen2.5-coder"
  apiKey : Option String := none
  apiUrl : Option String := none
  temperature : Number.Single := .ofRatio false 1 10
deriving DecidableEq, Repr, Inhabited

namespace Model

/-- How a service is talked to. -/
inductive Dialect where
  /-- A local generator. -/
  | generator
  /-- A chat service with its key. -/
  | chat (key : String)
deriving DecidableEq, Repr

/-- A service that answers prompts. -/
structure Endpoint where
  dialect : Dialect
  url : String
  model : String
  temperature : Number.Single
deriving DecidableEq, Repr

/-- A request with a document as its body. -/
structure Request where
  url : String
  headers : List (String × String)
  body : String
deriving DecidableEq, Repr

/-- What a service sends back. -/
structure Response where
  status : Nat
  body : String
deriving DecidableEq, Repr

/-- Why there is no response. -/
inductive TransportError where
  /-- The address of the service is none. -/
  | unusableUrl
  /-- The connection broke off. -/
  | interrupted
deriving DecidableEq, Repr

/-- The way requests are sent. -/
abbrev Transport (m : Type → Type) := Request → m (Except TransportError Response)

namespace Endpoint

/-- The address of a local generator. -/
def generatorUrl : String := "http://localhost:11434/api/generate"

/-- The endpoint that the settings describe. -/
def ofSettings (settings : ModelSettings) : Except ModelError Endpoint :=
  let endpoint (dialect : Dialect) (url : String) : Endpoint :=
    { dialect, url, model := settings.model, temperature := settings.temperature }
  match settings.backend with
  | "ollama" => .ok (endpoint .generator (settings.apiUrl.getD generatorUrl))
  | "remote" =>
    match settings.apiUrl, settings.apiKey with
    | none, _ => .error (.configuration "API URL is required for remote LLM provider")
    | some _, none => .error (.configuration "API key is required for remote LLM provider")
    | some url, some key => .ok (endpoint (.chat key) url)
  | other => .error (.configuration ("Unsupported LLM backend: " ++ other))

/-! ## Requests -/

/-- The text of a string in a document. -/
def quote (text : String) : String := String.ofList (Json.writeString text)

/-- The text of an object with the given members in the given order. -/
def objectText (members : List (String × String)) : String :=
  "\x7b" ++ Text.joined "," (members.map fun (key, value) => quote key ++ ":" ++ value) ++ "\x7d"

/-- The temperature in a request; what is no finite number cannot be written. -/
def temperatureText (temperature : Number.Single) : String :=
  if temperature.isFinite then Number.Layout.documentSingle.write temperature else "null"

/-- The longest reply of a chat service, in tokens. -/
def maxTokens : Nat := 2000

/-- The body of a request. -/
def body (endpoint : Endpoint) (prompt : String) (format : ReplyFormat) : String :=
  let temperature := temperatureText endpoint.temperature
  match endpoint.dialect with
  | .generator =>
    objectText
      ([("model", quote endpoint.model), ("prompt", quote prompt), ("stream", "false")] ++
        (if format = .document then [("format", quote "json")] else []) ++
        [("options", objectText [("temperature", temperature)])])
  | .chat _ =>
    objectText
      [("model", quote endpoint.model),
       ("messages",
        "[" ++ objectText [("role", quote "user"), ("content", quote prompt)] ++ "]"),
       ("temperature", temperature), ("max_tokens", toString maxTokens)]

/-- The request for a reply to a prompt. -/
def request (endpoint : Endpoint) (prompt : String) (format : ReplyFormat) : Request where
  url := endpoint.url
  headers :=
    (match endpoint.dialect with
      | .generator => []
      | .chat key => [("authorization", "Bearer " ++ key)]) ++
      [("content-type", "application/json")]
  body := endpoint.body prompt format

/-! ## Replies -/

/-- What a local generator replies with. -/
def generatorShape : Json.Shape :=
  .record "struct OllamaResponse" [("response", .text), ("done", .optionalFlag)]

/-- What a chat service replies with. -/
def chatShape : Json.Shape :=
  .record "struct PromptResponse"
    [("choices",
      .list (.record "struct Choice"
        [("message", .record "struct ResponseMessage" [("content", .text)])]))]

/-- The reply of a local generator; a blank one does not count. -/
def generatorReply (response : Response) : Except ModelError String :=
  if !isSuccess response.status then
    .error (.response ("Ollama API responded with status code: " ++ statusText response.status ++
      " - Response body: " ++ response.body))
  else
    match generatorShape.read response.body with
    | .error fault => .error (.response ("Failed to parse Ollama response: " ++ fault.message))
    | .ok value =>
      let reply := ((value.member? "response").bind Json.string?).getD ""
      if (Text.trim reply).isEmpty then .error (.response "Ollama returned an empty reply")
      else .ok reply

/-- The reply of a chat service: the content of its first choice. -/
def chatReply (response : Response) : Except ModelError String :=
  if !isSuccess response.status then
    .error (.response ("API responded with status code: " ++ statusText response.status))
  else
    match chatShape.read response.body with
    | .error _ => .error (.response "error decoding response body")
    | .ok value =>
      match (value.member? "choices").bind Json.items? with
      | some (choice :: _) =>
        .ok ((((choice.member? "message").bind (Json.member? "content")).bind
          Json.string?).getD "")
      | _ => .error (.response "No choices in response")

/-- Reads what came back from the endpoint. -/
def reply (endpoint : Endpoint) : Except TransportError Response → Except ModelError String
  | .error .unusableUrl => .error (.connection "builder error")
  | .error .interrupted =>
    .error (.connection ("error sending request for url (" ++ endpoint.url ++ ")"))
  | .ok response =>
    match endpoint.dialect with
    | .generator => generatorReply response
    | .chat _ => chatReply response

/-- The model behind an endpoint. -/
def asModel {m : Type → Type} [Monad m] (transport : Transport m) (endpoint : Endpoint) : Model m :=
  fun prompt format => do
    let outcome ← transport (endpoint.request prompt format)
    pure (endpoint.reply outcome)

end Endpoint

end Model

end PlainQuery
