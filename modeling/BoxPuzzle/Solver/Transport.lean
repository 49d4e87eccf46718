import BoxPuzzle.Solver.Http

/-!
# HTTP on the line

The texts that a client and a server exchange over a connection that is closed after the reply.

* `Address`, `Address.ofUrl?`: where a plain `http` address points to;
* `HttpRequest.message`: the text of a request;
* `ServerReply.ofMessage?`: the reply in a text.
-/

namespace BoxPuzzle

/-- A socket of a host and a path below it. -/
structure Address where
  host : String
  /-- The TCP number of the socket. -/
  socket : Nat := 80
  path : String := "/"
deriving DecidableEq, Repr

/-- The address of a URL of the form `http://host:80/path`, number and path being optional. -/
def Address.ofUrl? (url : String) : Option Address := do
  let rest ← (url.dropPrefix? "http://").map (·.toString.toList)
  let authority := rest.takeWhile (· ≠ '/')
  let path := rest.dropWhile (· ≠ '/')
  let socket ← match authority.dropWhile (· ≠ ':') with
    | [] => some 80
    | _ :: digits => (readNumeral 65535 digits).toOption
  return {
    host := String.ofList (authority.takeWhile (· ≠ ':'))
    socket
    path := if path = [] then "/" else String.ofList path }

/-- The text of a request to the server at an address. -/
def HttpRequest.message (r : HttpRequest) (a : Address) : String :=
  "\r\n".intercalate
    [r.method ++ " " ++ a.path ++ " HTTP/1.0",
      "Host: " ++ a.host ++ ":" ++ decimalText a.socket,
      "Content-Type: " ++ r.contentType,
      "Content-Length: " ++ decimalText r.body.utf8ByteSize,
      "",
      r.body]

/-- The status on the first line of a reply: the number after the protocol's name. -/
def statusOf? (head : String) : Option Nat := do
  let _ :: status :: _ := head.splitOn " " | none
  (readNumeral 999 status.toList).toOption

/-- The reply in a text: a head, an empty line and the body. -/
def ServerReply.ofMessage? (message : String) : Option ServerReply := do
  let head :: body := message.splitOn "\r\n\r\n" | none
  return .answered (← statusOf? ((head.splitOn "\r\n").headD "")) ("\r\n\r\n".intercalate body)

end BoxPuzzle
