import RecordSearch.Service.Router
import RecordSearch.Text.Letters

/-!
# Requests and answers on the wire

A request is a head of lines in ASCII, an empty line, and as many bytes of body as the head says. An
answer is written in the same form. A connection carries one of each.
-/

namespace RecordSearch

/-- The head of a request. -/
structure RequestHead where
  method : String
  target : String
  /-- The header lines, names and values. -/
  headers : List (String × String)

namespace RequestHead

/-- The bytes before the first empty line and the bytes after it. -/
def split? : List UInt8 → Option (List UInt8 × List UInt8)
  | 13 :: 10 :: 13 :: 10 :: rest => some ([], rest)
  | byte :: rest => (split? rest).map fun (head, body) => (byte :: head, body)
  | [] => none

/-- The lines of a head. -/
def lines (head : List UInt8) : List String :=
  let text := String.ofList (head.map fun byte => Char.ofNat byte.toNat)
  text.splitOn "\r\n"

/-- The header of a line; blanks around the value are not part of it. -/
def header? (line : String) : Option (String × String) :=
  match line.splitOn ":" with
  | [] | [_] => none
  | name :: parts =>
    let value := (":".intercalate parts).toList
    let isBlank := fun (c : Char) => c == ' ' || c == '\t'
    let trimmed := ((value.dropWhile isBlank).reverse.dropWhile isBlank).reverse
    some (name, String.ofList trimmed)

/-- The head that some bytes spell. -/
def ofBytes? (head : List UInt8) : Option RequestHead :=
  match lines head with
  | [] => none
  | first :: others =>
    match first.splitOn " " with
    | [method, target, _] => (others.mapM header?).map fun headers => ⟨method, target, headers⟩
    | _ => none

/-- The value of a header; the letter case of its name does not matter. -/
def value? (head : RequestHead) (name : String) : Option String :=
  (head.headers.find? fun header => Text.sameLetters header.1 name).map Prod.snd

/-- How many bytes of the body are read. A body that is too long is not read to its end. -/
def bodyLength (head : RequestHead) : Nat :=
  min (((head.value? "content-length").bind String.toNat?).getD 0) (maxBodyBytes + 1)

end RequestHead

/-- What the bytes of a connection amount to so far. -/
inductive Received where
  /-- More bytes are needed. -/
  | part
  | request (request : Request)
  | malformed

/-- The most bytes of a head. -/
def maxHeadBytes : Nat := 65536

/-- What the bytes that came so far amount to. -/
def Received.ofBytes (bytes : List UInt8) : Received :=
  match RequestHead.split? bytes with
  | none => if maxHeadBytes < bytes.length then malformed else part
  | some (head, body) =>
    match RequestHead.ofBytes? head with
    | none => malformed
    | some head =>
      if body.length < head.bodyLength then part
      else
        request ⟨head.method, head.target, head.value? "content-type", body.take head.bodyLength⟩

namespace Response

/-- The phrase of a status. -/
def phrase (status : Nat) : String :=
  if status = 200 then "OK"
  else if status = 400 then "Bad Request"
  else if status = 404 then "Not Found"
  else if status = 405 then "Method Not Allowed"
  else if status = 503 then "Service Unavailable"
  else "Internal Server Error"

/-- The header lines of an answer. -/
def headers (response : Response) : List (String × String) :=
  (response.contentType.map ("content-type", ·)).toList ++
    (response.allowOrigin.map ("access-control-allow-origin", ·)).toList ++
    (response.allow.map ("allow", ·)).toList ++
    [("content-length", toString response.body.utf8ByteSize), ("connection", "close")]

/-- The text of an answer. -/
def text (response : Response) : String :=
  "HTTP/1.1 " ++ toString response.status ++ " " ++ phrase response.status ++ "\r\n" ++
    String.join (response.headers.map fun header => header.1 ++ ": " ++ header.2 ++ "\r\n") ++
    "\r\n" ++ response.body

end Response

end RecordSearch
