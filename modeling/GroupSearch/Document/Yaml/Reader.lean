import GroupSearch.Document.Yaml.Evaluation

namespace GroupSearch.Yaml

def loadTo (rounds : Nat) (s : String) : Except ReadError Loaded := do
  match ← Document.ofTokens (← tokens s) with
  | some d => d.loadTo rounds
  | none => return ⟨.null, .none⟩

/-- How often a node that holds itself is unrolled, which is deeper than anyone looks into it. -/
def unrolled : Nat := 8

/-- Gives the value of a document and the links in it, or tells why it has none. -/
abbrev Loader := String → Except ReadError Loaded

def load : Loader := loadTo unrolled

/-- Gives the value of a document or tells why it has none. -/
abbrev Reader := String → Except ReadError Value

def Loader.read (load : Loader) : Reader := fun s ↦ (load s).map Loaded.value

def read : Reader := load.read

end GroupSearch.Yaml
