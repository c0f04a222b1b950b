/-!
Ordinal labels for positions. The first ten are words; every other number
takes its digits and the English suffix. Zero and the negative numbers take
`th`, as do the numbers whose last two digits lie between 11 and 19.
-/
namespace CommandShell.Text

def ordinalWords : List String :=
  ["first", "second", "third", "fourth", "fifth", "sixth", "seventh", "eighth", "ninth", "tenth"]

def ordinalSuffix (n : Nat) : String :=
  if 10 < n % 100 && n % 100 < 20 then "th"
  else match n % 10 with
    | 1 => "st"
    | 2 => "nd"
    | 3 => "rd"
    | _ => "th"

def ordinal : Int → String
  | .ofNat 0 => "0th"
  | .ofNat (n + 1) => ordinalWords.getD n (toString (n + 1) ++ ordinalSuffix (n + 1))
  | .negSucc n => "-" ++ toString (n + 1) ++ "th"

theorem ordinal_of_ten_lt {n : Nat} (h : 10 < n) :
    ordinal n = toString n ++ ordinalSuffix n := by
  obtain ⟨m, rfl⟩ : ∃ m, n = m + 1 := ⟨n - 1, by omega⟩
  have hlen : ordinalWords.length ≤ m := by
    change 10 ≤ m
    omega
  change ordinalWords.getD m _ = _
  simp [List.getD_eq_getElem?_getD, List.getElem?_eq_none hlen]

end CommandShell.Text
