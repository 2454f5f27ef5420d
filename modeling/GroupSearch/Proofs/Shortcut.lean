import GroupSearch.Config.Loading
import GroupSearch.Proofs.DistinctKeys
import GroupSearch.Proofs.EndlessLinks

namespace GroupSearch

namespace Settings

open Value

end Settings

end GroupSearch
