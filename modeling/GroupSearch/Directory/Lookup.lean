import GroupSearch.Directory.Record
import GroupSearch.Document.Yaml.Fault
import GroupSearch.Files.Tree
import GroupSearch.Log.Record
import GroupSearch.Text.Decimal

namespace GroupSearch

/-- A failure that no caller expects. -/
inductive Defect
  | undecodable
  | scalar (fault : Yaml.ScalarFault)
  | path (fault : FileFault)
  | overlong (fault : Text.Overlong)
  | other (label message : String)
  deriving DecidableEq, Repr

def Defect.message : Defect → String
  | undecodable => "the file is not UTF-8"
  | scalar fault => fault.message
  | path fault => fault.phrase
  | overlong fault => fault.message
  | other _ message => message

inductive LookupError
  | unavailable (reason : String)
  | defect (d : Defect)
  deriving DecidableEq, Repr

def LookupError.ofOverlong (fault : Text.Overlong) : LookupError := .defect (.overlong fault)

abbrev Answer (σ α : Type) := ExceptT LookupError (StateM σ) α

structure Lookups (σ : Type) where
  /-- The ids of the accounts that a reference stands for, in any order. -/
  accounts : String → Answer σ (List Int)
  group : String → Answer σ (Option Group)
  /-- Groups that a partial name may mean. -/
  suggestions : String → Answer σ (List Reference)
  note : Log.Record → σ → σ

/-- A lookup that was made, with its answer. -/
inductive LookupEvent
  | accounts (reference : String) (answer : Except LookupError (List Int))
  | group (reference : String) (answer : Except LookupError (Option Group))
  | suggestions (reference : String) (answer : Except LookupError (List Reference))

namespace Lookups

variable {σ α : Type}

def record (event : Except LookupError α → LookupEvent) (answer : Answer σ α) :
    Answer (σ × List LookupEvent) α :=
  ExceptT.mk fun (s, trace) ↦
    let (a, s) := answer.run.run s
    (a, (s, trace ++ [event a]))

/-- The same lookups over a state that also lists those made, in order. -/
def traced (l : Lookups σ) : Lookups (σ × List LookupEvent) where
  accounts r := record (.accounts r) (l.accounts r)
  group r := record (.group r) (l.group r)
  suggestions r := record (.suggestions r) (l.suggestions r)
  note r := fun (s, trace) ↦ (l.note r s, trace)

end Lookups

end GroupSearch
