import Redirects.Synthesis

/-!
# Declarative rules

The rules that a request engine installs. Each has a number, a filter over addresses, and what
becomes of a request that passes the filter. The form allows both filters and both targets at once,
or none; the rules that are made here have one of each.
-/

namespace Redirects

/-- A kind of request. -/
inductive ResourceType where
  | mainFrame
  | subFrame
  | stylesheet
  | script
  | image
  | font
  | object
  | xmlHttpRequest
  | ping
  | media
  | webSocket
  | other
deriving DecidableEq, Repr

namespace ResourceType

/-- Every kind of request, in the order in which they are written. -/
def all : List ResourceType :=
  [.mainFrame, .subFrame, .stylesheet, .script, .image, .font, .object, .xmlHttpRequest, .ping,
    .media, .webSocket, .other]

/-- The name of a kind of request. -/
def name : ResourceType → String
  | .mainFrame => "main_frame"
  | .subFrame => "sub_frame"
  | .stylesheet => "stylesheet"
  | .script => "script"
  | .image => "image"
  | .font => "font"
  | .object => "object"
  | .xmlHttpRequest => "xmlhttprequest"
  | .ping => "ping"
  | .media => "media"
  | .webSocket => "websocket"
  | .other => "other"

/-- The kind of request of a name. -/
def ofName? (name : String) : Option ResourceType := all.find? (·.name = name)

theorem ofName?_name (type : ResourceType) : ofName? type.name = some type := by
  cases type <;> decide

end ResourceType

/-- What becomes of a request. -/
structure Redirection where
  /-- The address it is sent to. -/
  url : Option String := none
  /-- The template that replaces what the pattern matched. -/
  substitution : Option String := none
deriving DecidableEq, Repr

/-- Which requests a rule is for. -/
structure Condition where
  /-- A text that the address contains. -/
  urlFilter : Option String := none
  /-- A pattern that occurs in the address. -/
  regexFilter : Option String := none
  /-- The kinds of request. -/
  resourceTypes : List ResourceType
deriving DecidableEq, Repr

/-- A declarative rule. -/
structure DeclarativeRule where
  /-- Number of the rule. -/
  id : UInt32
  priority : UInt32
  redirection : Redirection
  condition : Condition
deriving DecidableEq, Repr

/-- The priority that every rule has. -/
def commonPriority : UInt32 := 1

/-- The declarative rule with a number, a filter and a target. -/
def Synthesis.emit (synthesis : Synthesis) (id : UInt32) : DeclarativeRule where
  id
  priority := commonPriority
  redirection :=
    match synthesis.target with
    | .url url => { url := some url }
    | .substitution template => { substitution := some template }
  condition :=
    match synthesis.filter with
    | .substring text => { urlFilter := some text, resourceTypes := ResourceType.all }
    | .regex pattern => { regexFilter := some pattern.render, resourceTypes := ResourceType.all }

end Redirects
