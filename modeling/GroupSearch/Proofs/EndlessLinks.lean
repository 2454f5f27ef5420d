import GroupSearch.Document.Yaml.Links
import Mathlib.Data.Fintype.Prod
import Mathlib.Order.Monotone.Basic

namespace GroupSearch.Yaml.Links

variable {a b : Links} {n m i j : Nat} {keys : List Key} {key : Key}

end GroupSearch.Yaml.Links
