import Prose.Text.Quoted

namespace Prose

/-!
# Errors

Every failure is one value of `Error`.  It has a message, a category, a code, and for some failures an
advice.
-/

/-- What a node holds: children in order, or a text. -/
inductive Shape where
  | parent
  | text
deriving DecidableEq, Repr

def Shape.name : Shape → String
  | .parent => "parent"
  | .text => "text"

/-- What can go wrong. -/
inductive Error where
  | unknownNodeType (name : String)
  | shapeMismatch (type : String) (shape : Shape) (operation : String)
  | malformedCst (type : String) (reason : String)
  | invalidPlugin (reason : String)
  | invalidCallback (operation : String)
  | parse (message : String) (source : String) (offset length : Nat)
  | plugin (name : String) (message : String)
  | suspended (plugin : String)
  | config (message : String)
  | io (message : String)
deriving DecidableEq, Repr

namespace Error

/-- The families of errors: contract violations of a caller, trees that do not fit their model,
unreadable sources, failing plugins, and troubles with configuration or files. -/
inductive Category where
  | guard
  | build
  | parse
  | pipeline
  | config
deriving DecidableEq, Repr

def Category.name : Category → String
  | .guard => "guard"
  | .build => "build"
  | .parse => "parse"
  | .pipeline => "pipeline"
  | .config => "config"

def kind : Error → String
  | .unknownNodeType .. => "UnknownNodeType"
  | .shapeMismatch .. => "ShapeMismatch"
  | .malformedCst .. => "MalformedCst"
  | .invalidPlugin .. => "InvalidPlugin"
  | .invalidCallback .. => "InvalidCallback"
  | .parse .. => "Parse"
  | .plugin .. => "Plugin"
  | .suspended .. => "Suspended"
  | .config .. => "Config"
  | .io .. => "Io"

def message : Error → String
  | .unknownNodeType name => "unknown node type `" ++ name ++ "`"
  | .shapeMismatch type shape operation =>
    "`" ++ type ++ "` is a " ++ shape.name ++ " node and cannot accept " ++ operation
  | .malformedCst type reason => "malformed CST node `" ++ type ++ "`: " ++ reason
  | .invalidPlugin reason => "invalid plugin: " ++ reason
  | .invalidCallback operation =>
    "invalid callback: `" ++ operation ++ "` requires a completion callback"
  | .parse message .. => "parse error: " ++ message
  | .plugin name message => "plugin `" ++ name ++ "` failed: " ++ message
  | .suspended name => "pipeline suspended: plugin `" ++ name ++ "` has not resumed"
  | .config message => "configuration error: " ++ message
  | .io message => message

def category : Error → Category
  | .invalidPlugin .. | .invalidCallback .. => .guard
  | .unknownNodeType .. | .shapeMismatch .. | .malformedCst .. => .build
  | .parse .. => .parse
  | .plugin .. | .suspended .. => .pipeline
  | .config .. | .io .. => .config

/-- Whether a caller violated a contract. -/
def isGuard (error : Error) : Bool := error.category = .guard

def code : Error → String
  | .unknownNodeType .. => "retext::build::unknown_node_type"
  | .shapeMismatch .. => "retext::build::shape_mismatch"
  | .malformedCst .. => "retext::build::malformed_cst"
  | .invalidPlugin .. => "retext::guard::invalid_plugin"
  | .invalidCallback .. => "retext::guard::invalid_callback"
  | .parse .. => "retext::parse"
  | .plugin .. => "retext::pipeline::plugin"
  | .suspended .. => "retext::pipeline::suspended"
  | .config .. => "retext::config"
  | .io .. => "retext::io"

/-- What a caller may do about it. -/
def advice : Error → Option String
  | .unknownNodeType name =>
    some ("register `" ++ name ++ "` on the object model before building trees that use it")
  | .malformedCst .. => some "a CST node carries exactly one of `children` or `value`"
  | .suspended .. => some "asynchronous plugins must be driven to completion by their caller"
  | _ => none

end Error
end Prose
