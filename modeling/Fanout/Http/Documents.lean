import Fanout.Payload

/-!
The documents that the service publishes about itself: the description of its endpoints in OpenAPI
and a page that shows it.
-/

namespace Fanout.Http

namespace Description

def text (s : String) : Payload := .value (.string s)

def record (members : List (String × Payload)) : Payload :=
  .map (members.map fun (name, value) => (.text name, value))

def stringSchema : Payload := record [("type", text "string")]

def success (description contentType : String) : Payload :=
  record [("200", record [
    ("description", text description),
    ("content", record [(contentType, record [("schema", stringSchema)])])])]

def scopeParameter : Payload := record [
  ("name", text "scope"),
  ("in", text "query"),
  ("description",
    text "Top-level resource to receive events for. Omit to receive every event."),
  ("required", .value (.bool false)),
  ("schema", stringSchema),
  ("example", text "team-red")]

def events : Payload := record [("get", record [
  ("tags", .list [text "sse::handler"]),
  ("summary", text "GET a long-lived stream of real-time events"),
  ("operationId", text "sse_handler"),
  ("parameters", .list [scopeParameter]),
  ("responses",
    success "Stream of serialized events, one per SSE data frame" "text/event-stream")])]

def health : Payload := record [("get", record [
  ("tags", .list [text "health_check_controller"]),
  ("summary", text "GET liveness of the API router"),
  ("operationId", text "health_check"),
  ("responses", success "API router is up and responding to requests" "text/plain")])]

def document : Payload := record [
  ("openapi", text "3.1.0"),
  ("info", record [
    ("title", text "Shiftboard Real-time API"),
    ("description", text ""),
    ("license", record [("name", text "")]),
    ("version", text "0.1.0")]),
  ("paths", record [("/events", events), ("/health", health)]),
  ("components", record []),
  ("tags", .list [record [
    ("name", text "shiftboard"),
    ("description", text "Real-time shift, coverage and lock notifications")]])]

end Description

/-- The description of the endpoints as JSON text. -/
def description : Bytes := Description.document.write.toOption.getD []

def descriptionPath : String := "/api-docs/openapi.json"

/-- The page that shows the description. -/
def page : Bytes := Utf8.encode <| String.intercalate "\n" [
  "<!doctype html>",
  "<html>",
  "  <head>",
  "    <meta charset=\"utf-8\">",
  "    <script type=\"module\" src=\"https:"
    ++ "//unpkg.com/rapidoc/dist/rapidoc-min.js\"></script>",
  "  </head>",
  "  <body>",
  "    <rapi-doc spec-url=\"" ++ descriptionPath ++ "\"></rapi-doc>",
  "  </body>",
  "</html>",
  ""]

end Fanout.Http
