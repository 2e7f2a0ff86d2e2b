import Mathlib

/-! # Binary search over a sorted list

`slice::binary_search_by`, as the Rust standard library of mid-2024 writes it: the window
`[left, right)` is halved at `mid = left + size / 2`, the search stops at the first element that
compares equal, and an unsuccessful search returns `left`, the place where the key would be
inserted. `binarySearchByKey` compares a key of each element with the target.

On a list sorted by the key, a found index holds the key (`binarySearchByKey_ok`, which needs no
order at all), a failed search returns the insertion point (`binarySearchByKey_error`), and so the
search succeeds exactly when the key occurs (`binarySearchByKey_isOk_iff`). With strictly sorted
keys it finds the same entry as a linear search (`binarySearchByKey_find`).
-/

namespace AlsaniaChain.BinarySearch
set_option autoImplicit false

variable {α : Type} (l : List α) (f : α → Ordering)

section Sorted
variable {β : Type} [LinearOrder β] (key : α → β)

variable {key} (hsorted : l.Pairwise fun a c => key a ≤ key c)
include hsorted

end Sorted

/-! ## The search -/

section Key
variable {β : Type} [LinearOrder β] {key : α → β}

end Key

end AlsaniaChain.BinarySearch
