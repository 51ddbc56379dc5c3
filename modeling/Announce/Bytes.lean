/-!
# Octet strings

Payloads and identifiers are lists of octets in wire order.  The list is the
only view of them: a reader takes octets from the front and a writer appends
them at the end.
-/

namespace Announce

/-- A string of octets, in wire order. -/
abbrev Bytes := List UInt8

namespace Bytes

/-- Split off the first `count` octets, if there are that many. -/
def splitExact? : Nat → Bytes → Option (Bytes × Bytes)
  | 0, octets => some ([], octets)
  | _ + 1, [] => none
  | count + 1, octet :: octets =>
      (splitExact? count octets).map fun (front, rest) => (octet :: front, rest)

/-- Splitting off a front succeeds exactly when it is long enough, and then
agrees with `take` and `drop`. -/
theorem splitExact?_eq (count : Nat) (octets : Bytes) :
    splitExact? count octets =
      if count ≤ octets.length then
        some (octets.take count, octets.drop count)
      else none := by
  induction count generalizing octets with
  | zero => simp [splitExact?]
  | succ count ih =>
      cases octets with
      | nil => simp [splitExact?]
      | cons octet octets =>
          by_cases fits : count ≤ octets.length <;>
            simp [splitExact?, ih, fits]

/-- The two parts of a split make up the whole, and the front has the length
that was asked for. -/
theorem eq_of_splitExact? {count : Nat} {octets front rest : Bytes}
    (split : splitExact? count octets = some (front, rest)) :
    octets = front ++ rest ∧ front.length = count := by
  rw [splitExact?_eq] at split
  by_cases fits : count ≤ octets.length
  · rw [if_pos fits] at split
    simp only [Option.some.injEq, Prod.mk.injEq] at split
    obtain ⟨rfl, rfl⟩ := split
    exact ⟨(List.take_append_drop count octets).symm, List.length_take_of_le fits⟩
  · simp [fits] at split

/-- The octets of a text in UTF-8. -/
def ofText (text : String) : Bytes :=
  text.toList.flatMap String.utf8EncodeChar

end Bytes

end Announce
