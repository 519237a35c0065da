import RepoSurvey.Json.Value
import RepoSurvey.Survey.Basic

/-!
# The report of a survey

A survey as a JSON value. The fields of every object are in the order in which they are
written. What is not known is null, or is left out where the field says so.
-/

namespace RepoSurvey

open JsonValue

/-! ## Parts of a file -/

/-- A field for a text that is known and not empty. -/
def JsonValue.knownField (name : String) (s : Option String) : List (String × JsonValue) :=
  match s with
  | some s => if s.isEmpty then [] else [(name, string s)]
  | none => []

/-- The report of an import. -/
def ImportRecord.report (i : ImportRecord) : JsonValue :=
  object [
    ("path", string i.path),
    ("value", string i.specifier),
    ("type", string i.system.label),
    ("imported", strings i.imported),
    ("resolvedPath", stringOrNull i.target),
    ("isTypeOnly", bool i.typeOnly)]

/-- The report of an export. Its source is left out where there is none. -/
def Export.report (e : Export) : JsonValue :=
  object ([
    ("type", string e.form.label),
    ("name", string e.name),
    ("kind", string e.kind.label)] ++ knownField "source" e.source)

/-- The report of a route. -/
def Route.report (r : Route) : JsonValue :=
  object [("method", string r.method), ("path", string r.path)]

/-- The report of a call. Its method is left out where it states none. -/
def ApiCall.report (c : ApiCall) : JsonValue :=
  object ([("type", string c.caller.label), ("url", string c.url)] ++
    knownField "method" c.method)

/-- The report of an analysis. -/
def Analysis.report (a : Analysis) : JsonValue :=
  object [
    ("imports", array (a.imports.map (·.report))),
    ("resolvedImports", strings a.targets),
    ("exports", array (a.exports.map (·.report))),
    ("routes", array (a.routes.map (·.report))),
    ("apiCalls", array (a.apiCalls.map (·.report))),
    ("components", strings a.components),
    ("functions", strings a.functions),
    ("importedBy", strings a.importedBy)]

/-- The report of a file, with its text if that is asked for. -/
def ProjectFile.report (withContent : Bool) (f : ProjectFile) : JsonValue :=
  object ([("path", string f.path)] ++
    (if withContent then [("content", stringOrNull f.content)] else []) ++ [
    ("type", string f.type.label),
    ("role", string f.title),
    ("category", string f.category.label),
    ("behavior", string f.behavior.label),
    ("analysis", f.analysis.report)])

/-! ## The project -/

/-- The report of a relationship. -/
def Relationship.report (r : Relationship) : JsonValue :=
  object [("from", string r.source), ("to", string r.target), ("type", string r.kind.label)]

/-- The report of the size of a list of relationships. -/
def RelationshipCounts.report (c : RelationshipCounts) : JsonValue :=
  object [
    ("totalRelationships", nat c.total),
    ("importRelationships", nat c.imports),
    ("usesRelationships", nat c.uses),
    ("filesInGraph", nat c.files)]

/-- The report of frameworks, area by area. -/
def Frameworks.report (f : Frameworks) : JsonValue :=
  object (FrameworkArea.all.map fun area => (area.label, strings (f.get area)))

/-- The report of a feature. -/
def Feature.report (f : Feature) : JsonValue :=
  object [
    ("name", string f.name),
    ("keyword", string f.keyword),
    ("hubs", object (f.hubPaths.map fun entry => (entry.1.label, strings entry.2))),
    ("fileCount", nat f.files.length),
    ("allFiles", strings f.files),
    ("categorized", object (f.buckets.map fun entry => (entry.1.label, strings entry.2))),
    ("sharedDependencies", strings f.shared),
    ("apiRoutes", array (f.routes.map (·.report)))]

namespace Survey

/-- The places to which coverage is rounded in a report. -/
def coveragePlaces : Nat := 4

/-- The report of what is counted. -/
def metadata (s : Survey) : JsonValue :=
  object [
    ("totalFiles", nat s.files.length),
    ("frameworks", s.frameworks.report),
    ("projectType", string s.frameworks.projectType.label),
    ("frameworksList", strings s.frameworks.toList),
    ("relationshipStats", (RelationshipCounts.of s.relationships).report),
    ("coverage", number (.binary (s.coverage.roundPlaces coveragePlaces)))]

/-- The reports of the features, by their keywords. -/
def featureReports (s : Survey) : JsonValue :=
  object (s.features.map fun f => (f.keyword, f.report))

/-- The report of a survey, with the texts of its files if they are asked for. -/
def report (withContent : Bool) (s : Survey) : JsonValue :=
  object [
    ("files", array (s.files.map (·.report withContent))),
    ("metadata", s.metadata),
    ("relationships", array (s.relationships.map (·.report))),
    ("features", s.featureReports)]

end Survey

end RepoSurvey
