/-
# A sample application

Routes to see the gate at work.

| path | answers |
| --- | --- |
| `/secret` | a greeting for the user |
| `/form` | the method, the body and the content type that arrived |
| `/public` | what the gate decided |
| `/lazy` | who is logged in, where no login was needed |

`echo` is the response of an application that has no routes.
-/

import LoginGate.Web.Application

namespace LoginGate
namespace Sample

/-- Greets the user. -/
def secret : Handler := fun a => do
  let user ← a.user
  Handling.written ((Response.textOf ("hello " ++ user.subject)).map (.plain 200))

/-- Shows what arrived. -/
def form : Handler := fun a =>
  Handling.json 200
    [("method", .text a.inbound.method), ("body", .text (Octets.latin1 a.inbound.body)),
      ("content_type", ((a.inbound.header? "content-type").map Json.text).getD .null)]

/-- Shows what the gate decided. -/
def visitor : Handler := fun a =>
  Handling.json 200 [("status", .text a.outcome.status)]

/-- Shows who is logged in. -/
def lazy : Handler := fun a => do
  let outcome ← a.authenticate
  let subject := outcome.result?.map fun r => Json.text r.identity.subject
  Handling.json 200 [("status", .text outcome.status), ("subject", subject.getD .null)]

/-- The routes of the sample. -/
def routes : List (Route Handler) :=
  [.read "/secret" secret, .readWrite "/form" form, .read "/public" visitor, .read "/lazy" lazy]

/-- The response of an application without routes. -/
def echo : Response :=
  { status := 200, headers := [("x-inner", "1")], body := Utf8.encode "ok" }

end Sample
end LoginGate
