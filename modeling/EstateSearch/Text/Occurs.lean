/-!
# Occurrence of a text inside another

`search/src/predicate/eval` looks for needles in this way.
-/

set_option autoImplicit false

namespace EstateSearch.Text

/-- Does `needle` occur as a contiguous stretch of the text? The empty needle always does. -/
def occursIn (needle : List Char) : List Char → Bool
  | [] => needle.isEmpty
  | c :: rest => needle.isPrefixOf (c :: rest) || occursIn needle rest

/-- Occurring is being an infix. -/
theorem occursIn_iff (needle text : List Char) : occursIn needle text = true ↔ needle <:+: text := by
  induction text with
  | nil => simp [occursIn]
  | cons c rest ih => simp [occursIn, ih, List.infix_cons_iff]

end EstateSearch.Text
