import RepoSurvey.Endpoint
import RepoSurvey.Role.Signal

/-!
# What a file does at run time

A coarse label from a file's kind, its text, and the endpoints found in it. The first
rule that holds decides.
-/

namespace RepoSurvey.Role

open Pattern

/-- A handler's parameters, a request that is read or a response that is sent. -/
def requestResponse : Pattern :=
  oneOf ["(req" ++ blanks ++ "," ++ blanks ++ "res)",
    "(request" ++ blanks ++ "," ++ blanks ++ "response)", requestUse, responseUse]

/-- A call to an endpoint elsewhere. -/
def httpCall : Pattern :=
  oneOf ["axios." ++ words ["get", "post", "put", "delete", "patch"] ++ blanks ++ "(",
    "fetch" ++ blanks ++ "("]

/-- A document schema or model. -/
def documentModel : Pattern := oneOf [schemaConstruction, modelConstruction]

/-- Tags and hooks of a user interface. -/
def interfaceParts : Pattern := oneOf [componentTag, stateHooks]

/-- What a file of a kind does, given its text and the endpoints found in it. -/
def behavior (type : FileType) (content : List Char) (routes : List Route)
    (calls : List ApiCall) : Behavior :=
  if [.route, .controller, .middleware, .entryPoint].contains type || !routes.isEmpty ||
      requestResponse.occursIn content then
    .requestHandler
  else if type = .model || documentModel.occursIn content then .dataLayer
  else if type = .apiClient ||
      (type = .service && (!calls.isEmpty || httpCall.occursIn content)) then
    .httpClient
  else if type = .store then .state
  else if [.component, .page, .markup, .style].contains type ||
      interfaceParts.occursIn content then
    .uiRender
  else if type = .service || type = .utility then .logic
  else if type = .config || type = .manifest then .config
  else .logic

end RepoSurvey.Role
