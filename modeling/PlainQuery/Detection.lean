import PlainQuery.Intent.Build
import PlainQuery.Model.Basic
import PlainQuery.Model.Prompt
import PlainQuery.Text.CaseMap

/-!
# Telling questions about data from conversation

`heuristic` counts words that speak for a question about data and words that speak against it.
`detect` asks a model only when this count is not decisive, and falls back on the count whenever the
model gives no usable reply.
-/

namespace PlainQuery

/-- An opinion on a message. -/
structure Detection where
  isDataQuery : Bool
  confidence : Number.Double
  reasoning : String
deriving DecidableEq, Repr

namespace Detection

open Number (Double Floating)

/-- Words that occur in questions about data. -/
def dataKeywords : List String :=
  ["how many", "how much", "total", "sum", "average", "count", "cost", "spend",
   "revenue", "sales", "compare", "versus", "highest", "lowest", "maximum",
   "minimum", "top", "ranking", "sorted", "category", "product", "equipment",
   "month", "year", "quarter", "period", "date", "trend", "history", "show",
   "list", "ticket", "failure", "maintenance", "event", "open", "closed",
   "pending", "resolved", "customer", "technician",
   "cuanto", "cuantos", "cuánto", "cuántos", "suma", "promedio", "gasto",
   "costo", "ingreso", "venta", "comparar", "comparación", "mayor", "menor",
   "máximo", "mínimo", "ordenar", "ordenados", "categoría", "servicio",
   "producto", "equipo", "mes", "año", "trimestre", "período", "fecha",
   "tendencia", "evolución", "histórico", "muestra", "mostrar", "dame", "lista",
   "listar", "falla", "mantenimiento", "evento", "abierto", "cerrado",
   "pendiente", "resuelto", "cliente", "usuario", "técnico"]

/-- Words that occur in conversation. -/
def chatKeywords : List String :=
  ["hello", "thanks", "thank you", "bye", "help", "what can you", "how does",
   "explain", "what is", "why", "who are",
   "hola", "gracias", "adiós", "chao", "ayuda", "qué puedes", "que puedes",
   "cómo funciona", "como funciona", "explicar", "explica", "qué es", "que es",
   "por qué", "por que", "quién", "quien"]

/-- How many of the words occur in a text. -/
def hits (keywords : List String) (text : List Char) : Nat :=
  keywords.countP fun word => Text.occursIn word.toList text

/-- The confidence from which on a count is decisive; no count goes beyond it. -/
def decisive : Double := .ofRatio false 17 20

/-- The confidence that a share of the hits gives: `0.5 + 0.4 * share`, at most `decisive`. -/
def confidenceOfShare (share : Double) : Double :=
  (Floating.add (.ofRatio false 1 2) (share.mul (.ofRatio false 2 5))).min decisive

/-- The opinion by counting words. -/
def heuristic (message : String) : Detection :=
  let text := (Text.lower message).toList
  let data := hits dataKeywords text
  let chat := hits chatKeywords text
  if data == 0 && chat == 0 then
    { isDataQuery := false
      confidence := .ofRatio false 3 10
      reasoning := "No relevant keywords found." }
  else
    let share : Double := .ofRatio false data (data + chat)
    -- as many words for conversation as for data decide against data
    { isDataQuery := Floating.lt (.ofRatio false 1 2) share
      confidence := confidenceOfShare share
      reasoning :=
        "Heuristic: " ++ toString data ++ " data keywords vs " ++ toString chat ++
          " chat keywords." }

/-- The opinion in a document, if it has one. -/
def ofJson? (value : Json) : Option Detection := do
  let members ← value.members?
  let requiresData ← members.get? "requires_data"
  let isDataQuery ← requiresData.bool?
  pure
    { isDataQuery
      confidence := Intent.confidenceOf (members.get? "confidence")
      reasoning := ((members.get? "reasoning").bind Json.string?).getD "Model detection" }

/-- The opinion in the reply of a model, if it has one. -/
def ofReply? (reply : String) : Option Detection :=
  match Reply.extractJson reply with
  | .ok value => ofJson? value
  | .error _ => none

/-- The opinion on a message, with the help of a model if there is one and it is needed. -/
def detect {m : Type → Type} [Monad m] (model : Option (Model m)) (message : String) :
    m Detection :=
  let counted := heuristic message
  match model with
  | none => pure counted
  | some model =>
    if decisive.le counted.confidence then pure counted
    else do
      let reply ← model (Prompt.detection message) .document
      match reply with
      | .ok reply => pure ((ofReply? reply).getD counted)
      | .error _ => pure counted

/-- The confidence that an opinion needs by default. -/
def standardThreshold : Double := .ofRatio false 3 5

/-- The opinion is that the message is a question about data, with enough confidence. -/
def isAccepted (threshold : Double) (detection : Detection) : Bool :=
  detection.isDataQuery && threshold.le detection.confidence

end Detection

end PlainQuery
