import CommandShell.Fault.Basic

/-!
Values as keys and as items of sets. A value that can change, or that holds
one, is no key. Keys are the same when they are equal as numbers, as texts or
item by item; two failures are never the same. A set keeps the first of
several equal items, lists its numbers by their places and everything else
after them. Sorting compares numbers, texts and tuples, each with its like.
-/
namespace CommandShell.Value

/-- The name of the type that keeps a value from being a key. -/
def nonKey? : Value → Option String
  | .list _ => some "list"
  | .set _ => some "set"
  | .record _ => some "dict"
  | .styled _ => some "Text"
  | .tuple items => nonKeyItem? items
  | _ => Option.none
where
  nonKeyItem? : List Value → Option String
    | [] => Option.none
    | item :: rest =>
        match item.nonKey? with
        | some name => some name
        | Option.none => nonKeyItem? rest

def checkKey (v : Value) : Except Failure Unit :=
  match v.nonKey? with
  | some name => .error (.wrongType ("unhashable type: '" ++ name ++ "'"))
  | Option.none => .ok ()

/-- Truth values and codes count as the numbers that they stand for. -/
def number? : Value → Option Int
  | .bool b => some (if b then 1 else 0)
  | .int n => some n
  | .code c => some c.number
  | _ => Option.none

mutual
def sameKey : Value → Value → Bool
  | .tuple items, .tuple others => sameKeys items others
  | .text s, .text t => s == t
  | .none, .none => true
  | .unset, .unset => true
  | v, w =>
      match v.number?, w.number? with
      | some m, some n => m == n
      | _, _ => false

def sameKeys : List Value → List Value → Bool
  | [], [] => true
  | item :: items, other :: others => sameKey item other && sameKeys items others
  | _, _ => false
end

/-- The places of a set: the least of 8, 32, 128, ... of which the items take
less than three fifths; `fuel` bounds the search. -/
def placesFrom : (fuel places items : Nat) → Nat
  | 0, places, _ => places
  | fuel + 1, places, items =>
      if 5 * items < 3 * (places - 1) then places else placesFrom fuel (4 * places) items

def places (items : Nat) : Nat := placesFrom items 8 items

/-- The place of a number: its remainder, except that -1 stands where -2 does. -/
def place (places : Nat) (n : Int) : Nat := ((if n = -1 then -2 else n) % places).toNat

/-- Numbers by their places, then the other items as they came. -/
def arrange (items : List Value) : List Value :=
  let size := places items.length
  let placeOf (v : Value) : Nat := (v.number?.map (place size)).getD size
  items.mergeSort fun v w => placeOf v ≤ placeOf w

def insertKey (items : List Value) (v : Value) : List Value :=
  if items.any (sameKey v) then items else items ++ [v]

def setOf (items : List Value) : Value := .set (arrange (items.foldl insertKey []))

def notComparable (v w : Value) : Failure :=
  .wrongType ("'<' not supported between instances of '" ++ v.typeName ++ "' and '" ++
    w.typeName ++ "'")

mutual
/-- Whether a value comes before another in a sorted list. -/
def precedes (v w : Value) : Except Failure Bool :=
  match v, w with
  | .text s, .text t => .ok (s < t)
  | .tuple items, .tuple others => itemsPrecede items others
  | v, w =>
      match v.number?, w.number? with
      | some m, some n => .ok (m < n)
      | _, _ => .error (notComparable v w)

/-- The first items that differ decide, and then the lengths. -/
def itemsPrecede : List Value → List Value → Except Failure Bool
  | [], others => .ok !others.isEmpty
  | _ :: _, [] => .ok false
  | item :: items, other :: others =>
      if sameKey item other then itemsPrecede items others else precedes item other
end

/-- Every later item has to be comparable with the items before it. -/
def checkComparable : List Value → Except Failure Unit
  | [] => .ok ()
  | v :: rest => do
      rest.forM fun w => (w.precedes v).map fun _ => ()
      checkComparable rest

def ascending (v w : Value) : Bool :=
  match w.precedes v with
  | .ok before => !before
  | .error _ => true

def sorted (items : List Value) : Except Failure (List Value) :=
  (checkComparable items).map fun _ => items.mergeSort ascending

end CommandShell.Value
