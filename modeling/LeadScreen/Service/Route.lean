import LeadScreen.Service.Respond

set_option autoImplicit false

/-!
# Routes of the service

The path of a request chooses the route, and each route has its methods. Slashes at the end of a
path are passed over when no route has the path with them.
-/

namespace LeadScreen.Service

inductive Route where
  /-- A word about the service. -/
  | root
  /-- Whether the service is well. -/
  | health
  /-- The verdict on a lead. -/
  | lead
  /-- The verdicts on a table. -/
  | table
  /-- The report on a table. -/
  | report
  /-- How a requisition is read. -/
  | requisition
  /-- What the service can be asked for. -/
  | schema
  /-- A page for people to read. -/
  | page (path : Text)
deriving DecidableEq, Repr

namespace Route

def described : List Route :=
  [.lead, .table, .report, .requisition, .root, .health]

def all : List Route :=
  described ++ [.schema, .page "/docs", .page "/docs/oauth2-redirect", .page "/redoc"]

def path : Route → Text
  | .root => "/"
  | .health => "/health"
  | .lead => "/validate/row"
  | .table => "/validate"
  | .report => "/validate/report"
  | .requisition => "/requisition/parse"
  | .schema => "/openapi.json"
  | .page path => path

def methods : Route → List Text
  | .root => ["GET"]
  | .health => ["GET"]
  | .schema => ["GET", "HEAD"]
  | .page _ => ["GET", "HEAD"]
  | _ => ["POST"]

end Route

/-- The description of the service: what it is called, and the methods at each path. -/
def schemaData : Json.Value :=
  let paths := Route.described.map fun route =>
    (route.path, Json.Value.array (route.methods.map fun m => .text (Text.lower m)))
  .object
    [("info".toList, .object
      [("title".toList, .text "Lead Validator API"),
       ("version".toList, .text "0.1.0"),
       ("description".toList,
         .text "Lead verification API: VALID / INVALID / RECHECK verdicts with comments")]),
     ("paths".toList, .object paths)]

def respondAt (settings : Settings) (route : Route) (body : Body) : Except Failure Response :=
  match route with
  | .root =>
    .ok (.ofData 200 (.object
      [("service".toList, .text "lead-validator"), ("status".toList, .text "running")]))
  | .health => .ok (.ofData 200 (.object [("status".toList, .text "ok")]))
  | .lead => .ok (respondToLead settings body)
  | .table => respondToTable settings body
  | .report => respondWithReport settings body
  | .requisition => respondToRequisition body
  | .schema => .ok (.ofData 200 schemaData)
  | .page _ =>
    .ok { status := 200, contentType := "text/html; charset=utf-8", content := .page }

/-- The route of a path, the slashes at its end being passed over if need be. -/
def routeOf? (path : Text) : Option Route :=
  let bare := (path.reverse.dropWhile (· == '/')).reverse
  match Route.all.find? fun route => decide (route.path = path) with
  | some route => some route
  | none => Route.all.find? fun route => decide (route.path = bare)

/-- The response to a request. What follows a question mark in a path chooses no route. -/
def respond (settings : Settings) (request : Request) : Except Failure Response :=
  match routeOf? (request.path.takeWhile (· != '?')) with
  | none => .ok (.detail 404 "Not Found")
  | some route =>
    if route.methods.elem request.method then respondAt settings route request.body
    else .ok (.detail 405 "Method Not Allowed")

end LeadScreen.Service
