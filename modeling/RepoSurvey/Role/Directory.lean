import RepoSurvey.Role.Basic
import RepoSurvey.Text.Case

/-!
# Directory names that tell a role

Many projects name a directory for what its files are. `directoryRoles` lists the names
that this library knows, in lower case; `directoryRole?` looks a segment up in any case.
-/

namespace RepoSurvey.Role

/-- What a directory's name says about the files in it. A directory that is read
differently outside the frontend has a second reading. -/
structure DirectoryRole where
  name : String
  role : Role
  outsideFrontend : Option Role := none

/-- The directory names with a meaning. -/
def directoryRoles : List DirectoryRole :=
  [{ name := "routes", role := ⟨.route, "Route definition", .backend⟩ },
   { name := "route", role := ⟨.route, "Route definition", .backend⟩ },
   { name := "api", role := ⟨.apiClient, "API client module", .frontend⟩,
     outsideFrontend := some ⟨.route, "API route/handler", .backend⟩ },
   { name := "pages", role := ⟨.page, "Page/view", .frontend⟩ },
   { name := "page", role := ⟨.page, "Page/view", .frontend⟩ },
   { name := "app", role := ⟨.page, "App router / page", .frontend⟩ },
   { name := "views", role := ⟨.page, "View template", .frontend⟩ },
   { name := "components", role := ⟨.component, "UI component", .frontend⟩ },
   { name := "component", role := ⟨.component, "UI component", .frontend⟩ },
   { name := "ui", role := ⟨.component, "UI component", .frontend⟩ },
   { name := "widgets", role := ⟨.component, "UI widget", .frontend⟩ },
   { name := "controllers", role := ⟨.controller, "Controller", .backend⟩ },
   { name := "controller", role := ⟨.controller, "Controller", .backend⟩ },
   { name := "services", role := ⟨.service, "Service / business logic", .backend⟩ },
   { name := "service", role := ⟨.service, "Service / business logic", .backend⟩ },
   { name := "models", role := ⟨.model, "Data model", .backend⟩ },
   { name := "model", role := ⟨.model, "Data model", .backend⟩ },
   { name := "schemas", role := ⟨.model, "Schema definition", .backend⟩ },
   { name := "schema", role := ⟨.model, "Schema definition", .backend⟩ },
   { name := "middleware", role := ⟨.middleware, "Middleware", .backend⟩ },
   { name := "middlewares", role := ⟨.middleware, "Middleware", .backend⟩ },
   { name := "lib", role := ⟨.utility, "Library / shared code", .shared⟩ },
   { name := "libs", role := ⟨.utility, "Library / shared code", .shared⟩ },
   { name := "utils", role := ⟨.utility, "Utility", .shared⟩ },
   { name := "util", role := ⟨.utility, "Utility", .shared⟩ },
   { name := "helpers", role := ⟨.utility, "Helper", .shared⟩ },
   { name := "hooks", role := ⟨.utility, "React/hooks", .frontend⟩ },
   { name := "store", role := ⟨.store, "State store", .frontend⟩ },
   { name := "stores", role := ⟨.store, "State store", .frontend⟩ },
   { name := "providers", role := ⟨.component, "Context/provider", .frontend⟩ },
   { name := "layouts", role := ⟨.component, "Layout", .frontend⟩ },
   { name := "layout", role := ⟨.component, "Layout", .frontend⟩ },
   { name := "types", role := ⟨.types, "Type definitions", .shared⟩ },
   { name := "typings", role := ⟨.types, "Type definitions", .shared⟩ },
   { name := "interfaces", role := ⟨.types, "Type definitions", .shared⟩ },
   { name := "constants", role := ⟨.utility, "Constants", .shared⟩ },
   { name := "config", role := ⟨.config, "Configuration", .infrastructure⟩ },
   { name := "configs", role := ⟨.config, "Configuration", .infrastructure⟩ },
   { name := "__tests__", role := ⟨.test, "Test file", .test⟩ },
   { name := "__mocks__", role := ⟨.test, "Mock", .test⟩ },
   { name := "__fixtures__", role := ⟨.test, "Test fixture", .test⟩ },
   { name := "test", role := ⟨.test, "Test file", .test⟩ },
   { name := "tests", role := ⟨.test, "Test file", .test⟩ },
   { name := "spec", role := ⟨.test, "Test spec", .test⟩ },
   { name := "specs", role := ⟨.test, "Test spec", .test⟩ },
   { name := "e2e", role := ⟨.test, "E2E test", .test⟩ },
   { name := "integration", role := ⟨.test, "Integration test", .test⟩ },
   { name := "scripts", role := ⟨.script, "Script", .infrastructure⟩ },
   { name := "script", role := ⟨.script, "Script", .infrastructure⟩ },
   { name := "migrations", role := ⟨.script, "Migration", .backend⟩ },
   { name := "seed", role := ⟨.script, "Seed data", .backend⟩ },
   { name := "seeds", role := ⟨.script, "Seed data", .backend⟩ },
   { name := "public", role := ⟨.static, "Static asset (path)", .frontend⟩ },
   { name := "static", role := ⟨.static, "Static asset", .frontend⟩ },
   { name := "assets", role := ⟨.static, "Asset", .frontend⟩ },
   { name := "styles", role := ⟨.style, "Styles", .frontend⟩ },
   { name := "theme", role := ⟨.style, "Theme", .frontend⟩ },
   { name := "themes", role := ⟨.style, "Theme", .frontend⟩ },
   { name := "docs", role := ⟨.docs, "Documentation", .documentation⟩ },
   { name := "documentation", role := ⟨.docs, "Documentation", .documentation⟩ },
   { name := "workflows", role := ⟨.config, "CI workflow", .infrastructure⟩ },
   { name := "actions", role := ⟨.config, "GitHub Actions", .infrastructure⟩ }]

/-- What a path segment says, in any case. -/
def directoryRole? (segment : String) : Option DirectoryRole :=
  directoryRoles.find? fun d => d.name == Text.lowered segment

end RepoSurvey.Role
