import GroupSearch.Directory.Accounts
import GroupSearch.Directory.Groups
import GroupSearch.Directory.Lookup
import GroupSearch.Operator
import GroupSearch.Outcome
import GroupSearch.Query.Descent
import GroupSearch.Text.Quoted

namespace GroupSearch

/-- What ends a compilation: a failure to be reported, or a defect that passes through. -/
inductive Stop
  | rejected (cause : Cause)
  | escaped (defect : Defect)
  deriving DecidableEq, Repr

abbrev Build (σ α : Type) := ExceptT Stop (StateM σ) α

structure Compiler (σ : Type) where
  schema : Schema
  lookups : Lookups σ

namespace Compiler

variable {σ α : Type}

def reject (cause : Cause) : Build σ α := throw (.rejected cause)

def ofExcept (r : Except Cause α) : Build σ α :=
  match r with
  | .ok a => pure a
  | .error cause => reject cause

def uuidIs (value : String) : Predicate := .leaf (.field "uuid" value)

def nameIs (value : String) : Predicate := .leaf (.field "name" value)

def nameHas (value : String) : Predicate :=
  if value.isEmpty then nameIs value else .leaf (.field "inname" value)

def descriptionHas : Option String → Except Cause Predicate
  | none => .error .missingDescription
  | some value =>
    if value.isEmpty then .error .missingDescription
    else .ok (.leaf (.field "description" value))

def propertyIs (value : String) : Except Cause Predicate :=
  if Text.lowerKeyword value = "visibletoall" then .ok (.leaf .visibleToAll)
  else .error .unknownProperty

def limitNumeral? (value : String) : Except Text.Overlong (Option Int) :=
  (Text.readInteger value.toList).map
    (Option.filter fun n ↦ -2147483648 ≤ n ∧ n ≤ 2147483647)

/-- A numeral that is too long to be read is no reason to reject the query: nothing turns the fault
into a cause. -/
def limitTo : Option String → Except Stop Predicate
  | none => .error (.rejected (.invalidLimit "None"))
  | some value =>
    match limitNumeral? value with
    | .error o => .error (.escaped (.overlong o))
    | .ok none => .error (.rejected (.invalidLimit value))
    | .ok (some n) =>
      match Limit.ofInt? n with
      | none => .error (.rejected (.limitNotPositive n))
      | some cap => .ok (.leaf (.limit cap))

variable (c : Compiler σ)

def supports (f : IndexField) : Bool := c.schema.has f

def isAvailable (keyword : String) : Bool :=
  match Operator.ofKeyword? keyword with
  | none => false
  | some o => o.isAvailable c.schema

def support : List (String × Bool) := Operator.all.map fun o ↦ (o.keyword, o.isAvailable c.schema)

def note (level : Log.Level) (message : String) : Build σ Unit :=
  modify (c.lookups.note ⟨level, message⟩)

/-- Takes the answer to a lookup; a directory that is not available rejects the query. -/
def ask (referent : Referent) (answer : Answer σ α) : Build σ α := do
  match ← (liftM answer.run : Build σ (Except LookupError α)) with
  | .ok a => return a
  | .error (.unavailable reason) =>
    c.note .warning s!"{referent.title} lookup unavailable: {reason}"
    reject (.lookupUnavailable referent reason)
  | .error (.defect d) => throw (.escaped d)

def hasMember (reference : String) : Build σ Predicate :=
  if c.supports .member then do
    match idSet (← c.ask .account (c.lookups.accounts reference)) with
    | [] => reject (.accountNotFound reference)
    | id :: ids => return .disj (.leaf (.member id)) (ids.map fun i ↦ .leaf (.member i))
  else reject (.unsupportedOperator "member")

/-- The uuid of the group with that uuid, or else of the best suggestion. -/
def groupUuid (reference : String) : Build σ String := do
  match ← c.ask .group (c.lookups.group reference) with
  | some g => return g.uuid
  | none =>
    match bestSuggestion (← c.ask .group (c.lookups.suggestions reference)) reference with
    | none => reject (.groupNotFound reference)
    | some r =>
      c.note .debug s!"Group {Text.quoted reference} resolved by suggestion to {r.uuid}"
      return r.uuid

def hasSubgroup (reference : String) : Build σ Predicate :=
  if c.supports .subgroup then return .leaf (.subgroup (← c.groupUuid reference))
  else reject (.unsupportedOperator "subgroup")

def apply (o : Operator) (value : String) : Build σ Predicate :=
  match o with
  | .uuid => return uuidIs value
  | .description => ofExcept (descriptionHas value)
  | .inname => return nameHas value
  | .name => return nameIs value
  | .is => ofExcept (propertyIs value)
  | .member => c.hasMember value
  | .subgroup => c.hasSubgroup value
  | .limit => MonadExcept.ofExcept (limitTo value)

/-- The predicate for a keyword and a value; an absent value counts as empty. -/
def operator (keyword : String) (value : Option String) : Build σ Predicate :=
  if keyword = Operator.reserved then reject (.reservedOperator keyword)
  else
    match Operator.ofKeyword? keyword with
    | none => reject (.unknownOperator keyword)
    | some o => do
      c.note .debug s!"Dispatching operator {keyword}:{Text.quotedOption value}"
      c.apply o (value.getD "")

/-- A bare term is searched for in uuids, names and name parts, and if it is not empty in
descriptions. -/
def term (value : String) : Predicate :=
  .disj (uuidIs value) ([nameIs value, nameHas value] ++
    (descriptionHas value).toOption.toList)

def clause : Clause → Build σ Predicate
  | .operator keyword value => c.operator keyword value
  | .term value => return term value

def tokens (ts : List Token) : Build σ Predicate := Query.ofTokens c.clause .rejected ts

def query (text : Option String) : Build σ Predicate :=
  match Token.read (text.getD "") with
  | .error cause => reject cause
  | .ok [] => reject .emptyQuery
  | .ok (t :: ts) => c.tokens (t :: ts)

/-- Turns a rejection into an outcome, with a note on it. -/
def settle (notice : Cause → Option Log.Record) (build : Build σ Predicate) :
    ExceptT Defect (StateM σ) Outcome :=
  ExceptT.mk fun s ↦
    match build.run.run s with
    | (.ok p, s) => (.ok (.ok p), s)
    | (.error (.rejected cause), s) =>
      (.ok (.error cause.failure), match notice cause with
        | none => s
        | some r => c.lookups.note r s)
    | (.error (.escaped d), s) => (.error d, s)

def dispatch (keyword : String) (value : Option String) : ExceptT Defect (StateM σ) Outcome :=
  c.settle (fun cause ↦ some ⟨.debug,
    s!"Operator {keyword}:{Text.quotedOption value} failed: {cause.message}"⟩)
    (c.operator keyword value)

def parse (text : Option String) : ExceptT Defect (StateM σ) Outcome :=
  c.settle (fun cause ↦ some ⟨.debug,
    s!"Query {Text.quotedOption text} failed: {cause.message}"⟩) (c.query text)

def verdict : Outcome → Log.Record
  | .error f => ⟨.warning, s!"Query rejected ({f.kind.label}): {f.message}"⟩
  | .ok p =>
    let limit := match p.effectiveLimit with
      | none => "None"
      | some n => toString n
    ⟨.info, s!"Compiled query: {p.expression} limit={limit}"⟩

def compile (text : Option String) : ExceptT Defect (StateM σ) Outcome := do
  modify (c.lookups.note ⟨.debug, s!"Compiling query: {Text.quotedOption text}"⟩)
  let outcome ← c.parse text
  modify (c.lookups.note (verdict outcome))
  return outcome

end Compiler

end GroupSearch
