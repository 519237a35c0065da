import RepoSurvey.Pattern.Search
import RepoSurvey.Path.Basic
import RepoSurvey.Role.Basic
import RepoSurvey.Text.Case

/-!
# Configuration and manifest files

Files that are known by their name alone: manifests, lock files, and the configuration of
build tools, linters, test runners and hosts. `isConfigName` recognises such a name in any
case, and `configRole` gives a recognised name its title.
-/

namespace RepoSurvey.Role

open Pattern

/-- Names, in lower case, with which the name of a configuration file starts. -/
def configNameStarts : List String :=
  ["package.json", "package-lock.json", "yarn.lock", "pnpm-lock.yaml",
   "pnpm-workspace.yaml", "bun.lockb", "lerna.json", "nx.json", "turbo.json",
   "tsconfig.json", "jsconfig.json", "tsconfig.base.json", "tsconfig.app.json",
   "tsconfig.node.json", "tsconfig.test.json", "tsconfig.build.json", "vercel.json",
   "netlify.toml", "netlify.json", "firebase.json", ".firebaserc", "vitest.config",
   "vite.config", "next.config", "nuxt.config", "svelte.config", "angular.json",
   "astro.config", "remix.config", "tailwind.config", "postcss.config", "jest.config",
   "jest.setup", "vitest.setup", "karma.conf", "mocha.opts", "cypress.config",
   "playwright.config", "webpack.config", "rollup.config", "rspack.config",
   "esbuild.config", "parcel.config", "babel.config", ".babelrc", "eslint.config",
   ".eslintrc", ".prettierrc", "prettier.config", "stylelint.config", ".stylelintrc",
   "commitlint.config", ".commitlintrc", "lint-staged.config", "husky", ".nvmrc",
   ".node-version", ".npmrc", ".yarnrc", "docker-compose", "dockerfile", ".dockerignore",
   "makefile", "justfile", "procfile", ".env.example", ".env.sample", ".env.template",
   ".editorconfig", ".gitignore", ".gitattributes", "renovate.json", "dependabot.yml",
   ".releaserc", "release.config"]

/-- The end of a script that configures some tool. -/
def configScriptEnd : Pattern :=
  ".config." ++ words ["js", "ts", "mjs", "cjs"] ++ anchor .textEnd

/-- The end of a tool's own configuration file, with or without an extension. -/
def toolSettingsEnd : Pattern :=
  "." ++ words ["eslintrc", "prettierrc", "babelrc"] ++
    optional ("." ++ words ["js", "json", "yml", "yaml"]) ++ anchor .textEnd

/-- Whether a name, in any case, is that of a configuration or manifest file. -/
def isConfigName (name : String) : Bool :=
  let lower := Text.lower name.toList
  configNameStarts.any (fun start => start.toList.isPrefixOf lower) ||
    configScriptEnd.occursIn lower || toolSettingsEnd.occursIn lower

/-- A whole name, with or without a line break behind it. -/
def wholeName (names : List String) : Pattern :=
  anchor .textStart ++ words names ++ anchor .textEnd

/-- The lock files of package managers. -/
def lockfileName : Pattern :=
  wholeName ["package-lock.json", "yarn.lock", "pnpm-lock.yaml", "bun.lockb"]

/-- The settings of a compiler. -/
def compilerConfigName : Pattern :=
  anchor .textStart ++ "tsconfig" ++ optional "." ++ many (charNotOf "\n") ++ ".json" ++
    anchor .textEnd

/-- The settings of a host. -/
def hostingName : Pattern := wholeName ["vercel.json", "netlify.json", "firebase.json"]

/-- The settings of a tool that builds or checks. -/
def buildToolName : Pattern :=
  anchor .textStart ++
    words ["vite", "vitest", "next", "nuxt", "svelte", "astro", "remix", "tailwind",
      "postcss", "webpack", "rollup", "babel", "eslint", "prettier", "stylelint",
      "commitlint"] ++ ".config."

/-- The tools with a settings file of their own. -/
def lintToolName : Pattern := "." ++ words ["eslintrc", "prettierrc", "babelrc"]

/-- The settings of a test runner. -/
def testRunnerName : Pattern :=
  anchor .textStart ++
    oneOf [words ["jest.config", "jest.setup", "vitest.config", "vitest.setup"],
      words ["karma", "cypress", "playwright"] ++ "." ++ words ["config", "conf"]]

/-- The settings of an environment or a tool in it. -/
def environmentName : Pattern :=
  wholeName [".env.example", ".env.sample", ".env.template", ".gitignore",
    ".gitattributes", ".editorconfig", ".npmrc", ".yarnrc", ".nvmrc", ".node-version"]

/-- The role of a file known by its name, which is given in lower case. -/
def configRole (name : String) : Role :=
  let chars := name.toList
  let infrastructure (type : FileType) (title : String) : Role :=
    ⟨type, title, .infrastructure⟩
  if name = "package.json" then infrastructure .manifest "Package manifest"
  else if lockfileName.occursIn chars then infrastructure .manifest "Lockfile"
  else if ["pnpm-workspace.yaml", "lerna.json", "nx.json", "turbo.json"].contains name then
    infrastructure .manifest "Monorepo / workspace config"
  else if compilerConfigName.occursIn chars || name = "jsconfig.json" then
    infrastructure .config "TypeScript/JS project config"
  else if hostingName.occursIn chars || name = "netlify.toml" then
    infrastructure .config "Hosting/deploy config"
  else if buildToolName.occursIn chars || lintToolName.occursIn chars then
    infrastructure .config "Build/lint config"
  else if testRunnerName.occursIn chars then infrastructure .config "Test runner config"
  else if Path.startsWith name "docker-compose." || name = "dockerfile" ||
      name = ".dockerignore" then
    infrastructure .config "Docker config"
  else if ["makefile", "justfile", "procfile"].contains name then
    infrastructure .script "Build/run script"
  else if environmentName.occursIn chars then
    infrastructure .config "Environment/tool config"
  else infrastructure .config "Configuration file"

end RepoSurvey.Role
