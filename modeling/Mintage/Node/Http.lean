import Mintage.Node.JsonRpc

/-!
# Posting over plain HTTP

A request is a few lines of text and a body, and the reply is what the server sends until it closes
the connection. Requests say that they are of version 1.0, so that the body of a reply comes in one
piece and ends with the connection.
-/

namespace Mintage

/-- Where requests are posted. -/
structure HttpTarget where
  host : String
  service : String
  path : String
deriving DecidableEq

namespace HttpTarget

/-- The target of a URL, if its scheme is plain HTTP. -/
def ofUrl? (url : String) : Option HttpTarget := do
  let ("http", rest) ← Url.splitScheme (Url.strip url) | none
  let rest := rest.dropWhile Url.isSlash
  let authority := rest.takeWhile fun c => ¬ Url.isSlash c && c ≠ '?' && c ≠ '#'
  let path := (rest.drop authority.length).takeWhile (· ≠ '#')
  let (_, server) := (Url.splitUser authority).getD ([], authority)
  let (host, service) := Url.splitService false server
  let host := if host.head? = some '[' then host.tail.dropLast else host
  return {
    host := String.ofList host
    service := if service.tail.isEmpty then "80" else String.ofList service.tail
    path := String.ofList (if path.head?.any Url.isSlash then path else '/' :: path) }

/-- The request that posts JSON. -/
def post (t : HttpTarget) (body : Json) : Bytes :=
  let body := Utf8.encode body.render
  Utf8.encode (String.join [
    s!"POST {t.path} HTTP/1.0\r\n",
    s!"Host: {t.host}:{t.service}\r\n",
    "Content-Type: application/json\r\n",
    s!"Content-Length: {body.length}\r\n\r\n"]) ++ body

end HttpTarget

namespace HttpReply

/-- The bytes in front of the first empty line and those behind it. -/
def splitHead : Bytes → Option (Bytes × Bytes)
  | 13 :: 10 :: 13 :: 10 :: body => some ([], body)
  | b :: bs => (splitHead bs).map fun (head, body) => (b :: head, body)
  | [] => none

/-- The status in the first line of a head, which is the second word. -/
def status? (head : Bytes) : Option Nat := do
  let text ← (Utf8.decode (head.takeWhile (· ≠ 13))).toOption
  let _ :: status :: _ := text.toList.splitOn ' ' | none
  Url.digits? 10 status

/-- The reply that a server has sent, or that it is none. -/
def ofBytes (bs : Bytes) : Except String HttpReply :=
  let reply : Option HttpReply := do
    let (head, body) ← splitHead bs
    return ⟨← status? head, body⟩
  match reply with
  | some reply => .ok reply
  | none => .error "incomplete reply"

end HttpReply

end Mintage
