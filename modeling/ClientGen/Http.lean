/-!
# HTTP methods

The methods that a client can send, with their names on the wire and their verbs in an API
description.
-/

namespace ClientGen

/-- The methods of HTTP/1.1 and PATCH. -/
inductive HttpMethod where
  | get
  | post
  | put
  | delete
  | patch
  | options
  | head
  | trace
  | connect
deriving DecidableEq

namespace HttpMethod

/-- All methods, in the order in which clients list them. -/
def all : List HttpMethod :=
  [.get, .post, .put, .delete, .patch, .options, .head, .trace, .connect]

/-- The verb that an API description uses. -/
def verb : HttpMethod → String
  | .get => "get"
  | .post => "post"
  | .put => "put"
  | .delete => "delete"
  | .patch => "patch"
  | .options => "options"
  | .head => "head"
  | .trace => "trace"
  | .connect => "connect"

/-- The name on the wire. -/
def wireName : HttpMethod → String
  | .get => "GET"
  | .post => "POST"
  | .put => "PUT"
  | .delete => "DELETE"
  | .patch => "PATCH"
  | .options => "OPTIONS"
  | .head => "HEAD"
  | .trace => "TRACE"
  | .connect => "CONNECT"

/-- The method that a verb names, whatever the case of its ASCII letters. -/
def ofVerb? (text : String) : Option HttpMethod :=
  all.find? fun m => m.verb.toList == text.toList.map Char.toLower

end HttpMethod

end ClientGen
