import RefactorAudit.Refactoring.Technique
import RefactorAudit.Text.Case

/-!
# Detection rules

What points to which technique: kinds of nodes that came or went, words in what
came, and names that changed.
-/

namespace RefactorAudit

/-- What has to happen to a node for a rule to apply. -/
inductive Condition where
  | added
  | removed
  | renamed
  | other (label : String)
  deriving DecidableEq, Repr

namespace Condition

def label : Condition → String
  | .added => "added"
  | .removed => "removed"
  | .renamed => "name_changed"
  | .other label => label

def ofLabel (s : String) : Condition :=
  if s == "added" then .added else if s == "removed" then .removed
  else if s == "name_changed" then .renamed else .other s

end Condition

/-- A rule can ask for a kind of node, for a text, for both or for neither. -/
structure Rule where
  condition : Condition
  kind : Option String
  text : Option String
  deriving DecidableEq, Repr

/-- The rules that point to a technique, and the level of what they find. -/
structure TechniqueRules where
  technique : Technique
  level : Int
  rules : List Rule
  deriving Repr

abbrev Registry := List TechniqueRules

namespace Registry

/-- The first rules for a technique. -/
def rulesFor? (r : Registry) (t : Technique) : Option TechniqueRules := r.find? (·.technique == t)

def kinds (condition : Condition) (names : List String) : List Rule :=
  names.map fun k => ⟨condition, some k, none⟩

/-- Rules for words in what was added. -/
def terms (words : List String) : List Rule := words.map fun w => ⟨.added, none, some w⟩

def functionKinds : List String := ["function_declaration", "method_declaration", "function_definition"]

def standard : Registry := [
  ⟨.extractMethod, 2, kinds .added functionKinds⟩,
  ⟨.inlineMethod, 2, kinds .removed functionKinds⟩,
  ⟨.renameSymbol, 1, [⟨.renamed, none, none⟩]⟩,
  ⟨.moveModularize, 2, kinds .added ["import_statement", "import_declaration", "using_directive"]⟩,
  ⟨.serviceExtraction, 4, terms ["restcontroller", "controller", "service", "@restcontroller", "@controller",
    "@service", "express", "fastify", "flask", "django"]⟩,
  ⟨.layering, 3, terms ["repository", "dao", "datalayer", "@repository", "@dao"]⟩,
  ⟨.eventDriven, 4, terms ["kafka", "rabbitmq", "sqs", "eventbus", "pubsub", "messaging"]⟩,
  ⟨.cloudMigration, 3, terms ["aws-sdk", "s3", "dynamodb", "lambda", "ec2", "rds", "sns", "sqs", "azure", "blob",
    "cosmosdb", "functions", "google-cloud", "gcs", "firestore", "cloud-functions"]⟩,
  ⟨.errorHandling, 2, terms ["try", "catch", "exception", "error", "retry", "fallback"]⟩,
  ⟨.loggingObservability, 2, terms ["log4j", "slf4j", "winston", "bunyan", "logging", "logger", "metrics",
    "monitoring", "tracing"]⟩,
  ⟨.testing, 2, terms ["junit", "testng", "jest", "mocha", "pytest", "unittest", "mockito", "sinon", "@test",
    "describe", "it(", "test("]⟩,
  ⟨.containerization, 4, terms ["dockerfile", "docker-compose", "kubernetes", "k8s", "helm", "container"]⟩,
  ⟨.infrastructureAsCode, 4, terms ["terraform", "cloudformation", "arm", "pulumi", "cdk", "serverless"]⟩,
  ⟨.databaseMigration, 3, terms ["jpa", "hibernate", "mybatis", "sequelize", "typeorm", "sqlalchemy", "mongoose",
    "prisma", "migration", "schema"]⟩]

end Registry

end RefactorAudit
