import FlowWatch.Endpoint.Router

/-!
# Requests and answers as texts

A request is read from its first line, which holds the method, the target and
the version of the protocol, parted by single blanks. An answer tells the length
of its body and closes the connection.
-/

namespace FlowWatch.Endpoint

/-- The request whose first line starts a text. -/
def Request.ofText? (text : String) : Option Request :=
  match text.splitOn "\r\n" with
  | [] => none
  | line :: _ => match line.splitOn " " with
    | [method, target, version] =>
      if version.startsWith "HTTP/1." then some ⟨method, target⟩ else none
    | _ => none

/-- The answer to a text that is no request. -/
def malformed : Response := ⟨400, ""⟩

/-- The name of a status. -/
def statusName : Nat → String
  | 200 => "OK"
  | 400 => "Bad Request"
  | 404 => "Not Found"
  | 405 => "Method Not Allowed"
  | _ => "Internal Server Error"

/-- The text of an answer. -/
def Response.text (r : Response) : String :=
  String.intercalate "\r\n"
    [s!"HTTP/1.1 {r.status} {statusName r.status}", "content-type: text/plain; charset=utf-8",
      s!"content-length: {r.body.utf8ByteSize}", "connection: close", "", r.body]

end FlowWatch.Endpoint
