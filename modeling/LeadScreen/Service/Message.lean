import LeadScreen.Json.Value
import LeadScreen.Table.Source

set_option autoImplicit false

/-!
# Requests and responses

A request names a method and a path and may carry data or an uploaded file. A response has a status
and carries data, a workbook or a page.
-/

namespace LeadScreen.Service

structure Upload where
  field : Text
  fileName : Text
  contentType : Option Text
  content : Table.Content
deriving DecidableEq, Repr

inductive Body where
  | empty
  /-- Data, as it is written. -/
  | data (t : Text)
  | upload (u : Upload)
deriving DecidableEq, Repr

structure Request where
  method : Text
  path : Text
  body : Body := .empty
deriving DecidableEq, Repr

inductive Content where
  | data (v : Json.Value)
  | workbook (s : Table.Sheet)
  | page
deriving Repr

structure Response where
  status : Nat
  contentType : Text
  /-- How a file is to be saved. -/
  disposition : Option Text := none
  content : Content
deriving Repr

namespace Response

def ofData (status : Nat) (v : Json.Value) : Response where
  status := status
  contentType := "application/json"
  content := .data v

/-- A response that says what is wrong with a request. -/
def detail (status : Nat) (t : Text) : Response :=
  ofData status (.object [("detail".toList, .text t)])

structure Flaw where
  /-- The way to the place. -/
  place : List Text
  kind : Text
deriving DecidableEq, Repr

def Flaw.toData (f : Flaw) : Json.Value :=
  .object [("loc".toList, .array (f.place.map .text)), ("type".toList, .text f.kind)]

/-- A response that lists what is wrong with the places of a request. -/
def flaws (fs : List Flaw) : Response :=
  ofData 422 (.object [("detail".toList, .array (fs.map Flaw.toData))])

end Response

end LeadScreen.Service
