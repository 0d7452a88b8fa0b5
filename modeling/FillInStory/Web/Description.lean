import FillInStory.Text.Basic

/-! # The description of the interface

The server tells its callers which operations it offers and what the objects look like that they take and
return. Every property of an object is required.
-/

namespace FillInStory

def programVersion : Text := "0.1.0"

inductive PropertyKind where
  | string
  | integer
  | array
  | object
  deriving DecidableEq, Repr

namespace PropertyKind

def label : PropertyKind → Text
  | .string => "string"
  | .integer => "integer"
  | .array => "array"
  | .object => "object"

end PropertyKind

/-- One way to call the server. -/
structure Operation where
  method : Text
  path : Text
  summary : Text
  deriving DecidableEq, Repr

structure Schema where
  name : Text
  properties : List (Text × PropertyKind)
  deriving DecidableEq, Repr

/-- What the server tells about itself. -/
structure Description where
  title : Text
  version : Text
  server : Text
  operations : List Operation
  schemas : List Schema
  deriving DecidableEq, Repr

namespace Description

def operationList : List Operation :=
  [⟨"get", "/story/info", "Summarize the loaded story collection."⟩,
    ⟨"get", "/story/random", "Pick a random story template and list the names of its fields."⟩,
    ⟨"get", "/story/version", "Report the server version and the source it was built from."⟩,
    ⟨"post", "/story/populate", "Fill in a story template's fields and return the story."⟩]

def schemaList : List Schema :=
  [⟨"ReqPopulateStory", [("template_num", .integer), ("values", .object)]⟩,
    ⟨"RespPopulateStory", [("result_code", .string), ("result_msg", .string), ("story", .string)]⟩,
    ⟨"RespRandomStory",
      [("fields", .array), ("result_code", .string), ("result_msg", .string), ("template_num", .integer)]⟩,
    ⟨"RespStoryInfo",
      [("loaded_at", .string), ("result_code", .string), ("result_msg", .string),
        ("template_count", .integer)]⟩,
    ⟨"RespVersion",
      [("git_branch", .string), ("git_commit", .string), ("git_dirty", .string), ("result_code", .string),
        ("result_msg", .string), ("rustc_version", .string), ("server_version", .string),
        ("source_ts", .string)]⟩]

def ofServer (title address : Text) : Description :=
  ⟨title, programVersion, address, operationList, schemaList⟩

end Description

end FillInStory
