/-! Brace-balanced text. `balanced` splits off its longest prefix whose braces balance, and
`group?` reads one `{…}`. -/
namespace Phrasebook.Text

/-- The number of groups open after a text that starts inside `depth` of them, or nothing when
it closes one that is not open. -/
def depthAfter : Nat → List Char → Option Nat
  | depth, [] => some depth
  | depth, '{' :: cs => depthAfter (depth + 1) cs
  | 0, '}' :: _ => none
  | depth + 1, '}' :: cs => depthAfter depth cs
  | depth, _ :: cs => depthAfter depth cs

/-- The braces of the text pair up: it never closes an unopened group and leaves none open. -/
def IsBalanced (cs : List Char) : Prop :=
  depthAfter 0 cs = some 0

instance (cs : List Char) : Decidable (IsBalanced cs) :=
  inferInstanceAs (Decidable (_ = _))

/-- The length of the longest prefix that closes exactly the `depth` groups open before it. -/
def balancedLength? : Nat → List Char → Option Nat
  | 0, [] => some 0
  | _ + 1, [] => none
  | depth, '{' :: cs => orStop depth (balancedLength? (depth + 1) cs)
  | 0, '}' :: _ => some 0
  | depth + 1, '}' :: cs => (balancedLength? depth cs).map (· + 1)
  | depth, _ :: cs => orStop depth (balancedLength? depth cs)
where
  /-- One more than a length found further on; else nothing is taken, if nothing is open. -/
  orStop : Nat → Option Nat → Option Nat
    | _, some n => some (n + 1)
    | 0, none => some 0
    | _ + 1, none => none

/-- The longest balanced prefix, and the rest. -/
def balanced (cs : List Char) : List Char × List Char :=
  cs.splitAt ((balancedLength? 0 cs).getD 0)

/-- A brace group at the front: the balanced text between its braces, and what follows it. -/
def group? : List Char → Option (List Char × List Char)
  | '{' :: cs =>
    match balanced cs with
    | (body, '}' :: rest) => some (body, rest)
    | _ => none
  | _ => none

theorem balanced_append (cs : List Char) : (balanced cs).1 ++ (balanced cs).2 = cs := by
  simp [balanced, List.splitAt_eq]

theorem group?_eq_some {cs body rest : List Char} (h : group? cs = some (body, rest)) :
    cs = '{' :: (body ++ '}' :: rest) := by
  simp only [group?] at h
  split at h
  · rename_i cs
    split at h
    · rename_i hb
      have := balanced_append cs
      simp_all
    · simp at h
  · simp at h

theorem length_lt_of_group? {cs body rest : List Char} (h : group? cs = some (body, rest)) :
    rest.length < cs.length := by
  simp [group?_eq_some h]
  omega

end Phrasebook.Text
