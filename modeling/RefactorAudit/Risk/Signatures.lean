import RefactorAudit.Pattern
import RefactorAudit.Risk.Flag

/-!
# Risk signatures

The tables of patterns that point to a risk, by family.
-/

namespace RefactorAudit.Risk

/-- Patterns that point to the same risk. A pattern raises a flag when it matches
at least `least` times. -/
structure Signature where
  kind : Kind
  severity : Severity
  patterns : List Pattern
  finding : String
  suggestion : String
  least : Nat

def Signature.describe (s : Signature) (count : Nat) : String := s!"{s.finding} ({count} occurrences)"

open Pattern

/-! ## Parts of patterns -/

def quotes : List Char := ['"', '\'']

def quote : Piece := .one (.among quotes)

/-- `_`, `-` or nothing. -/
def joint : Piece := atMostOne (.among ['_', '-'])

/-- `_`, a space, `-` or nothing. -/
def gap : Piece := atMostOne (.among ['_', ' ', '-'])

def opening : Pattern := [blanks, .one (.only '(')]

/-- `=` and a string literal that is not empty. -/
def assigned : Pattern :=
  [blanks, .one (.only '='), blanks, quote, .run (.notAmong quotes) 1 none, quote]

/-- A string literal as the first argument of a call. -/
def literalArgument : Pattern :=
  opening ++ [blanks, quote, .run (.notAmong quotes) 0 none, quote, blanks]

/-- An argument of a call that holds two points. -/
def climbingArgument : Pattern :=
  opening ++ [blanks, .run (.notAmong [')']) 0 none] ++ exactly ".."

/-- A call of a function, letter case aside. -/
def callOf (name : String) : Pattern := .wordEdge :: caseless name ++ opening

/-- A string literal, letter case aside. -/
def literal (parts : Pattern) : Pattern := opening ++ [blanks, quote] ++ parts ++ [quote]

/-! ## Security -/

def secrets : Signature where
  kind := .security
  severity := .high
  patterns := [
    caseless "password" ++ assigned,
    caseless "api" ++ joint :: caseless "key" ++ assigned,
    caseless "secret" ++ assigned,
    caseless "token" ++ assigned,
    caseless "access" ++ joint :: caseless "key" ++ assigned,
    caseless "private" ++ joint :: caseless "key" ++ assigned,
    caseless "aws" ++ joint :: caseless "access" ++ joint :: caseless "key",
    caseless "aws" ++ joint :: caseless "secret" ++ joint :: caseless "key",
    caseless "github" ++ joint :: caseless "token",
    caseless "database" ++ joint :: caseless "password"]
  finding := "Potential secret exposure detected"
  suggestion := "Use environment variables or secure configuration management for secrets"
  least := 1

def deprecatedCrypto : Signature where
  kind := .security
  severity := .medium
  patterns := [
    callOf "md5",
    callOf "sha1",
    callOf "des",
    callOf "rc4",
    caseless "crypto.createHash" ++ literal (caseless "md5"),
    caseless "crypto.createHash" ++ literal (caseless "sha1"),
    caseless "MessageDigest.getInstance" ++ literal (caseless "MD5"),
    caseless "MessageDigest.getInstance" ++ literal (caseless "SHA" ++ atMostOne (.only '-') :: caseless "1")]
  finding := "Deprecated cryptographic functions found"
  suggestion := "Replace with modern cryptographic functions (SHA-256, AES-256)"
  least := 1

def sqlInjection : Signature where
  kind := .security
  severity := .high
  patterns := [
    caseless "executeQuery" ++ literalArgument ++ exactly "+",
    .wordEdge :: caseless "query" ++ literalArgument ++ exactly "+",
    caseless "Statement.execute" ++ literalArgument ++ exactly "+",
    caseless "cursor.execute" ++ literalArgument ++ [.one (.among ['+', '%'])]]
  finding := "Potential SQL injection vulnerability"
  suggestion := "Use parameterized queries or prepared statements"
  least := 1

def crossSiteScripting : Signature where
  kind := .security
  severity := .medium
  patterns := [
    caseless "innerHTML" ++ [blanks, .one (.only '='), blanks, .run (.notAmong [';']) 1 none, .lineEnd],
    caseless "document.write" ++ opening,
    callOf "eval",
    .wordEdge :: exactly "new" ++ someBlanks :: exactly "Function" ++ opening,
    caseless "setTimeout" ++ opening ++
      [blanks, quote, .run (.notAmong [',']) 1 none, .one (.only ','), blanks, .one (.only '0'), blanks,
        .one (.only ')')]]
  finding := "Potential XSS vulnerability"
  suggestion := "Sanitize user input and use Content Security Policy"
  least := 1

def pathTraversal : Signature where
  kind := .security
  severity := .high
  patterns := [
    exactly "../../",
    exactly "..\\..\\",
    caseless "..%2f..%2f",
    caseless "..%5c..%5c",
    caseless "readFile" ++ .run .word 0 none :: climbingArgument,
    .wordEdge :: caseless "open" ++ climbingArgument]
  finding := "Potential path traversal vulnerability"
  suggestion := "Validate and sanitize file paths, use path.join() or equivalent"
  least := 1

def security : List Signature :=
  [secrets, deprecatedCrypto, sqlInjection, crossSiteScripting, pathTraversal]

/-! ## Licenses -/

def licenseSuggestion : String := "Review license compatibility with your project requirements"

/-- The rest of a license's short name: its version. -/
def licenseVersion : Pattern := [joint, atMostOne (.anyCase 'v'), atMostOne (.between '0' '9')]

def publicLicense : Pattern :=
  caseless "general" ++ gap :: caseless "public" ++ gap :: caseless "license"

def gpl : Signature where
  kind := .license
  severity := .high
  patterns := [.wordEdge :: caseless "gpl" ++ licenseVersion, caseless "gnu" ++ gap :: publicLicense]
  finding := "GPL license may require source code disclosure"
  suggestion := licenseSuggestion
  least := 1

def agpl : Signature where
  kind := .license
  severity := .critical
  patterns := [
    .wordEdge :: caseless "agpl" ++ licenseVersion,
    caseless "gnu" ++ gap :: caseless "affero" ++ gap :: publicLicense]
  finding := "AGPL license requires source code disclosure for network services"
  suggestion := licenseSuggestion
  least := 1

def copyleft : Signature where
  kind := .license
  severity := .high
  patterns := [caseless "copyleft"]
  finding := "Copyleft license may impose restrictions"
  suggestion := licenseSuggestion
  least := 1

def proprietary : Signature where
  kind := .license
  severity := .medium
  patterns := [
    caseless "proprietary",
    caseless "commercial" ++ gap :: caseless "license",
    caseless "closed" ++ gap :: caseless "source"]
  finding := "Proprietary license may require commercial agreement"
  suggestion := licenseSuggestion
  least := 1

def licenses : List Signature := [gpl, agpl, copyleft, proprietary]

/-! ## Compatibility -/

def deprecatedApis : Signature where
  kind := .compatibility
  severity := .medium
  patterns := [
    exactly "new" ++ someBlanks :: exactly "Date" ++ opening ++ [.run (.notAmong [')']) 1 none, .one (.only ')')],
    exactly ".call" ++ opening ++ blanks :: exactly "null" ++ [blanks, .one (.only ',')],
    exactly "arguments.callee",
    .wordEdge :: exactly "with" ++ opening,
    .wordEdge :: exactly "eval" ++ opening]
  finding := "Deprecated API usage found"
  suggestion := "Update to modern APIs and remove deprecated usage"
  least := 1

def browserCompatibility : Signature where
  kind := .compatibility
  severity := .low
  patterns := [
    exactly "document.all",
    exactly "window.event",
    exactly "attachEvent",
    exactly "detachEvent",
    exactly "createStyleSheet"]
  finding := "Browser compatibility issues"
  suggestion := "Test across target browsers and update polyfills"
  least := 1

def runtimeVersion : Signature where
  kind := .compatibility
  severity := .low
  patterns := [
    exactly "process.version",
    exactly "node" ++ joint :: exactly "version",
    exactly "v8" ++ joint :: exactly "version",
    exactly "sys.version_info"]
  finding := "Runtime version dependencies"
  suggestion := "Declare the minimum supported runtime version in the project manifest"
  least := 1

def compatibility : List Signature := [deprecatedApis, browserCompatibility, runtimeVersion]

/-! ## Performance -/

def repeatedLength : Signature where
  kind := .performance
  severity := .medium
  patterns := [
    exactly "for" ++ opening ++ [blanks, .choice ["var", "let"], someBlanks, someWord, blanks, .one (.only '='),
      blanks, .one (.only '0'), blanks, .one (.only ';'), blanks, someWord, blanks, .one (.only '<'), blanks,
      .run (.either .word (.only '.')) 1 none] ++ exactly ".length" ++
      [blanks, .one (.only ';'), blanks, someWord] ++ exactly "++" ++ [blanks, .one (.only ')')]]
  finding := "Inefficient loop with repeated .length access"
  suggestion := "Cache array length before loop"
  least := 4

def documentQueries : Signature where
  kind := .performance
  severity := .medium
  patterns := [exactly "document.getElementById" ++ opening]
  finding := "Multiple DOM queries without caching"
  suggestion := "Cache DOM elements for reuse"
  least := 4

def dynamicRegex : Signature where
  kind := .performance
  severity := .medium
  patterns := [exactly "new" ++ someBlanks :: exactly "RegExp" ++ opening]
  finding := "Dynamic regex creation in loops"
  suggestion := "Create regex patterns outside loops"
  least := 4

def performance : List Signature := [repeatedLength, documentQueries, dynamicRegex]

/-! ## Maintainability -/

def longParameterList : Signature where
  kind := .maintainability
  severity := .low
  patterns := [
    [.choice ["function", "def"], someBlanks, someWord] ++ opening ++
      [.run (.notAmong [')']) 50 none, .one (.only ')')]]
  finding := "Functions with many parameters"
  suggestion := "Consider using parameter objects or builder pattern"
  least := 1

def longBlock : Signature where
  kind := .maintainability
  severity := .low
  patterns := [[.one (.only '\x7b'), .run (.notAmong ['\x7d']) 200 none, .one (.only '\x7d')]]
  finding := "Very long functions or blocks"
  suggestion := "Break down into smaller, focused functions"
  least := 1

def technicalDebt : Signature where
  kind := .maintainability
  severity := .low
  patterns := [[.choice ["//", "#"], blanks, .choice ["TODO", "FIXME", "HACK"], .wordEdge]]
  finding := "Code with TODO/FIXME/HACK comments"
  suggestion := "Address technical debt before production deployment"
  least := 1

def maintainability : List Signature := [longParameterList, longBlock, technicalDebt]

end RefactorAudit.Risk
