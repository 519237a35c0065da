import RepoSurvey.Number.Binary64
import RepoSurvey.Project.File

/-!
# Frameworks of a project

A framework is known by the packages that it is imported from, by files at the root, and
by extensions. Each package and each file that is found counts its weight, an extension
half of it. What scores at all is detected; within an area the highest score comes first,
and a tie keeps the order of the table.
-/

namespace RepoSurvey

/-- What a framework is for. -/
inductive FrameworkArea where
  | backend | frontend | database | tooling
deriving DecidableEq, Repr

namespace FrameworkArea

/-- The areas, in the order in which they are reported. -/
def all : List FrameworkArea := [backend, frontend, database, tooling]

/-- The label under which an area is written. -/
def label : FrameworkArea → String
  | backend => "backend"
  | frontend => "frontend"
  | database => "database"
  | tooling => "tooling"

end FrameworkArea

/-- What a framework is known by. -/
structure Fingerprint where
  name : String
  weight : Int
  packages : List String := []
  files : List String := []
  extensions : List String := []

/-- The frameworks of an area. -/
def Fingerprint.known : FrameworkArea → List Fingerprint
  | .backend =>
    [{ name := "Express", weight := 10, packages := ["express"] },
     { name := "Fastify", weight := 10, packages := ["fastify"] },
     { name := "NestJS", weight := 10, packages := ["@nestjs/core", "@nestjs/common"] },
     { name := "Koa", weight := 10, packages := ["koa"] },
     { name := "Hapi", weight := 10, packages := ["@hapi/hapi"] },
     { name := "JWT Auth", weight := 5, packages := ["jsonwebtoken", "jose"] },
     { name := "Passport", weight := 5, packages := ["passport"] }]
  | .frontend =>
    [{ name := "React", weight := 10, packages := ["react"],
       extensions := [".jsx", ".tsx"] },
     { name := "Vue", weight := 10, packages := ["vue"], extensions := [".vue"] },
     { name := "Angular", weight := 10, packages := ["@angular/core"] },
     { name := "Svelte", weight := 10, packages := ["svelte"], extensions := [".svelte"] },
     { name := "Next.js", weight := 10, packages := ["next"],
       files := ["next.config.js", "next.config.mjs"] },
     { name := "Nuxt", weight := 10, packages := ["nuxt"],
       files := ["nuxt.config.js", "nuxt.config.ts"] },
     { name := "React Router", weight := 5,
       packages := ["react-router-dom", "react-router"] },
     { name := "Vue Router", weight := 5, packages := ["vue-router"] }]
  | .database =>
    [{ name := "MongoDB", weight := 10, packages := ["mongodb"] },
     { name := "Mongoose", weight := 10, packages := ["mongoose"] },
     { name := "Prisma", weight := 10, packages := ["@prisma/client"],
       files := ["prisma/schema.prisma", "schema.prisma"], extensions := [".prisma"] },
     { name := "Sequelize", weight := 10, packages := ["sequelize"] },
     { name := "TypeORM", weight := 10, packages := ["typeorm"] },
     { name := "PostgreSQL", weight := 8, packages := ["pg", "postgres"] },
     { name := "MySQL", weight := 8, packages := ["mysql", "mysql2"] },
     { name := "Redis", weight := 8, packages := ["redis", "ioredis"] }]
  | .tooling =>
    [{ name := "Vite", weight := 10, packages := ["vite"],
       files := ["vite.config.js", "vite.config.ts", "vite.config.mjs"] },
     { name := "Webpack", weight := 10, packages := ["webpack"],
       files := ["webpack.config.js", "webpack.config.ts"] },
     { name := "Axios", weight := 5, packages := ["axios"] },
     { name := "Tailwind CSS", weight := 8, packages := ["tailwindcss"],
       files := ["tailwind.config.js", "tailwind.config.ts"] },
     { name := "ESLint", weight := 5,
       files := [".eslintrc.js", ".eslintrc.json", "eslint.config.js"] },
     { name := "Prettier", weight := 5,
       files := [".prettierrc", ".prettierrc.js", "prettier.config.js"] },
     { name := "TypeScript", weight := 8, files := ["tsconfig.json"],
       extensions := [".ts", ".tsx"] },
     { name := "Jest", weight := 5, packages := ["jest", "@jest/globals"],
       files := ["jest.config.js", "jest.config.ts"] },
     { name := "Vitest", weight := 5, packages := ["vitest"],
       files := ["vitest.config.js", "vitest.config.ts"] }]

/-- What is found in a project that a framework may be known by. -/
structure Traces where
  packages : List String
  /-- The paths of the project, in lower case. -/
  paths : List String
  extensions : List String

/-- The package that a specifier imports from: its first segment, or the first two where
it starts with a scope. -/
def packageName (specifier : String) : String :=
  let parts := Path.segments specifier
  "/".intercalate (parts.take (if Path.startsWith specifier "@" then 2 else 1))

/-- What is found in the files of a project. -/
def Traces.of (files : List ProjectFile) : Traces :=
  { packages := (files.flatMap fun f => f.analysis.imports.map
      fun i => packageName i.specifier).filter (!·.isEmpty)
    paths := files.map fun f => Text.lowered f.path
    extensions := (files.map fun f => Path.extension f.path).filter (!·.isEmpty) }

namespace Fingerprint

/-- Twice the score of a framework, a whole number. -/
def doubleScore (p : Fingerprint) (t : Traces) : Int :=
  let packages := p.packages.countP t.packages.contains
  let files := p.files.countP fun name => t.paths.contains (Text.lowered name)
  2 * p.weight * (packages + files) + if p.extensions.any t.extensions.contains then p.weight else 0

/-- The score of a framework, as a binary number. -/
def score (p : Fingerprint) (t : Traces) : Binary64 :=
  let twice := p.doubleScore t
  .ofRatio (twice < 0) twice.natAbs 2

end Fingerprint

/-- The names of the frameworks detected in each area. -/
structure Frameworks where
  backend : List String := []
  frontend : List String := []
  database : List String := []
  tooling : List String := []
deriving DecidableEq, Repr

/-- What a project is built as. -/
inductive ProjectType where
  | fullstack | backend | frontend | unknown
deriving DecidableEq, Repr

/-- The label under which a type of project is written. -/
def ProjectType.label : ProjectType → String
  | fullstack => "fullstack"
  | backend => "backend"
  | frontend => "frontend"
  | unknown => "unknown"

namespace Frameworks

/-- The names detected in an area. -/
def get (f : Frameworks) : FrameworkArea → List String
  | .backend => f.backend
  | .frontend => f.frontend
  | .database => f.database
  | .tooling => f.tooling

/-- The frameworks of an area that score, the highest score first. -/
def ranked (traces : Traces) (area : FrameworkArea) : List (String × Int) :=
  (((Fingerprint.known area).map fun p => (p.name, p.doubleScore traces)).filter
    fun e => 0 < e.2).mergeSort fun a b => b.2 ≤ a.2

/-- The frameworks detected in the files of a project. -/
def detect (files : List ProjectFile) : Frameworks :=
  let traces := Traces.of files
  let names (area : FrameworkArea) := (ranked traces area).map (·.1)
  { backend := names .backend, frontend := names .frontend, database := names .database,
    tooling := names .tooling }

/-- All names detected, area by area. -/
def toList (f : Frameworks) : List String := FrameworkArea.all.flatMap f.get

/-- What a project with these frameworks is built as. A database counts as a backend. -/
def projectType (f : Frameworks) : ProjectType :=
  if !f.backend.isEmpty && !f.frontend.isEmpty then .fullstack
  else if !f.backend.isEmpty || !f.database.isEmpty then .backend
  else if !f.frontend.isEmpty then .frontend
  else .unknown

end Frameworks

end RepoSurvey
