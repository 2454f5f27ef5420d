namespace GroupSearch

inductive FailureKind
  | malformedValue
  | grammar
  | unknownOperator
  | reservedOperator
  | unsupportedOperator
  | notFound
  | resolverUnavailable
  deriving DecidableEq, Repr

def FailureKind.label : FailureKind → String
  | malformedValue => "malformed_value"
  | grammar => "syntax"
  | unknownOperator => "unknown_operator"
  | reservedOperator => "reserved_operator"
  | unsupportedOperator => "unsupported_operator"
  | notFound => "not_found"
  | resolverUnavailable => "resolver_unavailable"

theorem FailureKind.label_injective : Function.Injective FailureKind.label := by
  intro k l h
  cases k <;> cases l <;> simp [label] at h ⊢

structure Failure where
  kind : FailureKind
  message : String
  deriving DecidableEq, Repr

inductive Referent
  | account
  | group
  deriving DecidableEq, Repr

def Referent.noun : Referent → String
  | account => "account"
  | group => "group"

def Referent.title : Referent → String
  | account => "Account"
  | group => "Group"

inductive Cause
  | unterminatedQuote (position : Nat)
  | groupedValue (keyword : String) (position : Nat)
  | emptyQuery
  | unexpected (symbol : String) (position : Nat)
  | unexpectedEnd
  | unclosed (position : Nat)
  | unknownOperator (keyword : String)
  | reservedOperator (keyword : String)
  | unsupportedOperator (keyword : String)
  | missingDescription
  | unknownProperty
  | invalidLimit (text : String)
  | limitNotPositive (limit : Int)
  | accountNotFound (reference : String)
  | groupNotFound (reference : String)
  | lookupUnavailable (referent : Referent) (reason : String)
  deriving DecidableEq, Repr

namespace Cause

def kind : Cause → FailureKind
  | unterminatedQuote _ | groupedValue .. | emptyQuery | unexpected .. | unexpectedEnd
  | unclosed _ => .grammar
  | unknownOperator _ => .unknownOperator
  | reservedOperator _ => .reservedOperator
  | unsupportedOperator _ => .unsupportedOperator
  | missingDescription | unknownProperty | invalidLimit _ | limitNotPositive _ => .malformedValue
  | accountNotFound _ | groupNotFound _ => .notFound
  | lookupUnavailable .. => .resolverUnavailable

def message : Cause → String
  | unterminatedQuote p => s!"Unterminated quoted string at position {p}"
  | groupedValue k p => s!"Grouped values are not supported for {k} at position {p}"
  | emptyQuery => "query is empty"
  | unexpected s p => s!"Unexpected '{s}' at position {p}"
  | unexpectedEnd => "Unexpected end of query"
  | unclosed p => s!"Missing ')' for '(' at position {p}"
  | unknownOperator k => s!"Unsupported operator {k}"
  | reservedOperator k => s!"'{k}' operator is reserved and not supported"
  | unsupportedOperator k => s!"'{k}' operator is not supported by group index version"
  | missingDescription => "description operator requires a value"
  | unknownProperty => "Invalid query"
  | invalidLimit t => s!"Invalid limit: {t}"
  | limitNotPositive n => s!"limit must be positive: {n}"
  | accountNotFound r => s!"User {r} not found"
  | groupNotFound r => s!"Group {r} not found"
  | lookupUnavailable r why => s!"Cannot resolve {r.noun}: {why}"

def failure (c : Cause) : Failure := ⟨c.kind, c.message⟩

end Cause

end GroupSearch
