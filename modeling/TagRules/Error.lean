import TagRules.Malformation

/-!
# Errors

The ways in which making a rule, evaluating it, planning and tagging can fail, each with its
wording.

* `RuleError`: a rule, a tag or a registry cannot be made or is not valid.
* `EvalError`: a rule cannot be evaluated on a record.
* `PlanError`: tags cannot be brought into an order, or a plan cannot be run.
* `TaggingError`: any of these.
-/

namespace TagRules

/-- The kinds of registered functions. -/
inductive OperatorKind where
  /-- Transforms of a field. -/
  | transform
  /-- Comparators of a field and a literal. -/
  | comparator
  /-- Predicates on whole records. -/
  | customRule
deriving DecidableEq, Repr

/-- The wording of a kind. -/
def OperatorKind.describe : OperatorKind → String
  | .transform => "transform"
  | .comparator => "comparator"
  | .customRule => "custom rule"

/-- Why a literal is no pattern. -/
inductive PatternFault where
  /-- It is no text. -/
  | notText
  /-- It is a text, but no regular expression. -/
  | malformed
deriving DecidableEq, Repr

/-- The wording of a fault. -/
def PatternFault.message : PatternFault → String
  | .notText => "pattern must be a string"
  | .malformed => "not a regular expression"

/-- What is missing in a condition key. -/
inductive KeyPart where
  /-- The name of a field. -/
  | field
  /-- The name of a transform. -/
  | transform
  /-- The end of the key. -/
  | ending
deriving DecidableEq, Repr

/-- The wording of what is expected. -/
def KeyPart.expected : KeyPart → String
  | .field => "expected field name"
  | .transform => "expected transform name"
  | .ending => ""

/-- An error of a rule, a tag or a registry. -/
inductive RuleError where
  /-- Something is malformed. -/
  | malformed (fault : Malformation)
  /-- A rule names a transform or a comparator that is not registered. -/
  | unknownOperator (kind : OperatorKind) (key : String)
  /-- A rule names a custom rule that is not registered. -/
  | unknownRuleKey (key : String)
  /-- A key is registered a second time. -/
  | duplicateOperator (kind : OperatorKind) (key : String)
  /-- The normal form of a rule is too large. -/
  | tooManyAlternatives (count limit : Nat)
  /-- The literal of a pattern is none. -/
  | invalidPattern (pattern : String) (fault : PatternFault)
  /-- Two tags have the same name. -/
  | duplicateTag (name : String)
  /-- A condition key breaks off at an offset in bytes, where a part is missing. -/
  | invalidKey (key : String) (offset : Nat) (missing : KeyPart)
  /-- A text is not JSON. -/
  | notJson

/-- The wording of an error. -/
def RuleError.message : RuleError → String
  | .malformed fault => "malformed rule: " ++ fault.message
  | .unknownOperator kind key => "unknown " ++ kind.describe ++ " '" ++ key ++ "'"
  | .unknownRuleKey key => "unknown custom rule '" ++ key ++ "'"
  | .duplicateOperator kind key => "duplicate " ++ kind.describe ++ " '" ++ key ++ "'"
  | .tooManyAlternatives count limit =>
    "rule expands to " ++ toString count ++ " alternatives, over the limit of " ++ toString limit
  | .invalidPattern pattern fault => "invalid pattern '" ++ pattern ++ "': " ++ fault.message
  | .duplicateTag name => "duplicate tag name '" ++ name ++ "'"
  | .invalidKey key offset missing =>
    "invalid condition key '" ++ key ++ "': " ++ key ++ "\n" ++
      String.ofList (List.replicate offset ' ') ++ "^\n" ++ missing.expected
  | .notJson => "invalid rule json"

/-- An error of evaluating a rule. -/
inductive EvalError where
  /-- An operator does not take operands of the given types. -/
  | typeMismatch (operator : String) (operands : List String)
  /-- A transform or a comparator is not registered. -/
  | unknownOperator (kind : OperatorKind) (key : String)
  /-- A custom rule is not registered. -/
  | unknownRuleKey (key : String)
  /-- The literal of a pattern is none. -/
  | invalidPattern (pattern : String) (fault : PatternFault)
deriving DecidableEq, Repr

/-- The wording of an error. -/
def EvalError.message : EvalError → String
  | .typeMismatch operator operands =>
    "type mismatch in '" ++ operator ++ "': unsupported operand types (" ++
      ", ".intercalate operands ++ ")"
  | .unknownOperator kind key => "unknown " ++ kind.describe ++ " '" ++ key ++ "'"
  | .unknownRuleKey key => "unknown custom rule '" ++ key ++ "'"
  | .invalidPattern pattern fault => "invalid pattern '" ++ pattern ++ "': " ++ fault.message

/-- An error of planning or of running a plan. -/
inductive PlanError where
  /-- Tags depend on each other in a circle. -/
  | cyclicDependency (path : List String)
  /-- The rule of a tag is not in normal form. -/
  | unsupportedRuleKind (tag kind : String)
  /-- A node reads a column that no earlier node has produced. -/
  | missingInput (column : String)
deriving DecidableEq, Repr

/-- The wording of an error. -/
def PlanError.message : PlanError → String
  | .cyclicDependency path => "cyclic dependency detected: " ++ " -> ".intercalate path
  | .unsupportedRuleKind tag kind => "unsupported rule kind '" ++ kind ++ "' in tag '" ++ tag ++ "'"
  | .missingInput column => "plan node reads output '" ++ column ++ "' before it was produced"

/-- An error of tagging. -/
inductive TaggingError where
  /-- The tags are not valid. -/
  | rule (e : RuleError)
  /-- A rule cannot be evaluated. -/
  | eval (e : EvalError)
  /-- The tags cannot be planned. -/
  | plan (e : PlanError)

/-- The wording of an error. -/
def TaggingError.message : TaggingError → String
  | .rule e => e.message
  | .eval e => e.message
  | .plan e => e.message

end TagRules
