import FillInStory.Log.Record
import FillInStory.Text.Quoted
import FillInStory.Web.FilledForm
import FillInStory.Web.MediaType
import FillInStory.Web.Message
import FillInStory.Web.StoryCall
import FillInStory.Web.Urlencoded

/-! # Answering requests

The server shows the form for a randomly chosen template, tells the story that a filled-in form asks for,
and does the same for callers that speak JSON. The random choice is an argument, so that an answer is a
function of the server, the draw and the request.
-/

namespace FillInStory

structure BuildInfo where
  branch : Text
  commit : Text
  dirty : Text
  sourceTime : Text
  compiler : Text
  deriving DecidableEq, Repr

/-- The stories that are served, and what the server tells about itself. -/
structure Server where
  stories : Collection
  title : Text
  address : Text
  build : BuildInfo

inductive Route where
  | form
  | random
  | populate
  | info
  | version
  | documentation
  | description
  | descriptionYaml
  deriving DecidableEq, Repr

namespace Route

def interfacePath : Text := "/v1"

def ofPath? (path : Text) : Option Route :=
  if path = "/".toList then some .form
  else if path = "/v1/story/random".toList then some .random
  else if path = "/v1/story/populate".toList then some .populate
  else if path = "/v1/story/info".toList then some .info
  else if path = "/v1/story/version".toList then some .version
  else if path = "/docs".toList || path = "/docs/".toList || path = "/docs/oauth-receiver.html".toList then
    some .documentation
  else if path = "/spec".toList then some .description
  else if path = "/spec_yaml".toList then some .descriptionYaml
  else none

/-- Whether a route answers alike whatever the method. -/
def takesAnyMethod : Route → Bool
  | .documentation | .description | .descriptionYaml => true
  | .form | .random | .populate | .info | .version => false

end Route

namespace Server

/-! ## Replies -/

def plainReply (t : Text) : Reply := ⟨200, some "text/plain; charset=utf-8", .text t⟩

def pageReply (t : Text) : Reply := ⟨200, some "text/html; charset=utf-8", .text t⟩

def jsonReply (members : List (Text × Json)) : Reply :=
  ⟨200, some "application/json; charset=utf-8", .json members⟩

def errorReply (status : Nat) (message : Text) : Reply := ⟨status, none, .text message⟩

def descriptionReply (server : Server) (contentType : Text) : Reply :=
  ⟨200, some contentType, .description (Description.ofServer server.title server.address)⟩

/-- A JSON reply that is no error, with the members that follow the result. -/
def successReply (members : List (Text × Json)) : Reply :=
  jsonReply (("result_code", .string "0") :: ("result_msg", .string "success") :: members)

/-! ## What the routes do -/

def showForm (server : Server) (draw : Fin server.stories.size) : Logged Reply :=
  match server.stories.choose draw with
  | .error e => pure (errorReply 503 e.message)
  | .ok (number, template) => do
    Logged.write .debug .form ("Rendering form for template #" ++ Text.decimal number ++ ".")
    pure (pageReply (FormPage.render number template))

/-- The status of the reply to a form whose story cannot be told. -/
def untoldStatus : StoryError → Nat
  | .indexOutOfRange _ _ => 404
  | _ => 500

/-- The story that the parameters of the form ask for. -/
def tellForm (server : Server) (parameters : Dictionary Text Text) : Logged Reply :=
  match FilledForm.ofParameters parameters with
  | .error e => do
    Logged.write .warn .form e.message
    pure (errorReply 400 e.message)
  | .ok form =>
    match server.stories.populate form.number form.fieldMap with
    | .error e => do
      Logged.write .warn .form e.message
      pure (errorReply (untoldStatus e) e.message)
    | .ok story => pure (plainReply story)

def postForm (server : Server) (request : Request) : Except Refusal (Logged Reply) :=
  match request.header? "content-type" with
  | none => .error .contentTypeRequired
  | some contentType =>
    if (MediaType.parse? contentType).any (·.isApplication "x-www-form-urlencoded") then
      .ok (server.tellForm (Urlencoded.parameters request.body))
    else .error .invalidContentType

/-- The reply to a call for a story. -/
def tellCall (server : Server) (call : StoryCall) : Reply :=
  match call.tell server.stories with
  | .ok story => successReply [("story", .string story)]
  | .error e =>
    jsonReply
      [("result_code", .string "1"), ("result_msg", .string ("ERROR: " ++ e.message)), ("story", .string "")]

/-- What the log says about the request that brings a call: where it goes, its headers and the call, but
none of the values. The path is that below the interface's own. -/
def requestSummary (request : Request) (call : StoryCall) : Text :=
  "\n  URI: " ++ (request.target.below Route.interfacePath.length).text ++ "\n"
    ++ request.groupedHeaders.flatMap (fun (name, value) =>
      ("  Header: " ++ name ++ " = " ++ Text.quotedHeader value ++ " \n" : Text))
    ++ (match request.target.query with
      | some query => "  Query Parameters: " ++ Text.quoted query ++ "\n"
      | none => "  * No Query Parameters\n" : Text)
    ++ call.summary

def postCall (server : Server) (request : Request) : Except Refusal (Logged Reply) :=
  match request.header? "content-type" with
  | none => .error .expectContentType
  | some contentType =>
    if (MediaType.parse? contentType).any (·.isApplication "json") then
      let body := if request.body.isEmpty then some Json.null else Json.ofBytes? request.body
      match body.bind StoryCall.ofJson? with
      | none => .error .parseRequestPayload
      | some call => .ok do
        Logged.write .debug .requests (requestSummary request call)
        pure (server.tellCall call)
    else .error .contentTypeNotSupported

/-- The chosen template's number and the names of its fields. -/
def showRandom (server : Server) (draw : Fin server.stories.size) : Reply :=
  match server.stories.choose draw with
  | .error e =>
    jsonReply
      [("result_code", .string "1"), ("result_msg", .string ("ERROR: " ++ e.message)),
        ("template_num", .number (.natural 0)), ("fields", .array [])]
  | .ok (number, template) =>
    successReply [("template_num", .number (.natural number)),
      ("fields", .array (template.fields.names.map Json.string))]

/-- How many templates there are and when they were loaded. -/
def showInfo (server : Server) : Reply :=
  successReply [("template_count", .number (.natural server.stories.size)),
    ("loaded_at", .string server.stories.loadedAt.text)]

def showVersion (server : Server) : Reply :=
  successReply [("server_version", .string programVersion),
    ("git_branch", .string server.build.branch), ("git_commit", .string server.build.commit),
    ("git_dirty", .string server.build.dirty), ("source_ts", .string server.build.sourceTime),
    ("rustc_version", .string server.build.compiler)]

/-! ## Routing -/

/-- The reply of a route to a method, if the route takes the method. -/
def dispatch (server : Server) (draw : Fin server.stories.size) (request : Request) (route : Route)
    (method : Text) : Except Refusal (Logged Reply) :=
  let gets : Bool := method = "GET".toList
  let posts : Bool := method = "POST".toList
  match route with
  | .form =>
    if gets then .ok (server.showForm draw)
    else if posts then server.postForm request
    else .error .methodNotAllowed
  | .populate => if posts then server.postCall request else .error .methodNotAllowed
  | .random => if gets then .ok (pure (server.showRandom draw)) else .error .methodNotAllowed
  | .info => if gets then .ok (pure server.showInfo) else .error .methodNotAllowed
  | .version => if gets then .ok (pure server.showVersion) else .error .methodNotAllowed
  | .documentation => .ok (pure (server.descriptionReply "text/html; charset=utf-8"))
  | .description => .ok (pure (server.descriptionReply "application/json"))
  | .descriptionYaml => .ok (pure (server.descriptionReply "application/x-yaml"))

/-- The answer to a request: a reply with the records that it leaves in the log, or a refusal. Where a
route takes some methods only, a request for the head of a reply gets the reply to the same request
without its body. -/
def answer (server : Server) (draw : Fin server.stories.size) (request : Request) :
    Except Refusal (Logged Reply) :=
  match Route.ofPath? request.target.path with
  | none => .error .notFound
  | some route =>
    if request.method = "HEAD".toList && !route.takesAnyMethod then
      (server.dispatch draw request route "GET").map fun reply =>
        ⟨{ reply.value with body := .nothing }, reply.records⟩
    else server.dispatch draw request route request.method

end Server

end FillInStory
