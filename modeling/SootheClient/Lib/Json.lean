import Mathlib.Algebra.Group.Int.Defs
import Mathlib.Algebra.Group.Nat.Defs
import Mathlib.Data.Rat.Defs

/-!
# JSON values

The values of a JSON document and the accessors a program reads them with. An object is its list
of members; a lookup finds the first member of a name, and `insert` keeps names unique.
-/

/-- A number: an integer, or a finite floating-point number by its exact value. -/
inductive JsonNum where
  | int (n : ℤ)
  | float (q : ℚ)
  deriving DecidableEq

/-- A JSON value. -/
inductive Json where
  | null
  | bool (b : Bool)
  | num (n : JsonNum)
  | str (s : String)
  | arr (items : List Json)
  | obj (members : List (String × Json))

namespace Json

/-- The members of an object. -/
abbrev Members := List (String × Json)

/-- `Map::get`. -/
def Members.get (m : Members) (key : String) : Option Json := m.lookup key

/-- `Map::contains_key`. -/
def Members.containsKey (m : Members) (key : String) : Bool := (m.get key).isSome

/-- `Map::insert`. -/
def Members.insert (m : Members) (key : String) (v : Json) : Members :=
  (key, v) :: m.filter (·.1 != key)

/-- `Value::as_str`. -/
def asStr? : Json → Option String
  | str s => some s
  | _ => none

/-- `Value::as_bool`. -/
def asBool? : Json → Option Bool
  | bool b => some b
  | _ => none

/-- `Value::as_array`. -/
def asArray? : Json → Option (List Json)
  | arr items => some items
  | _ => none

/-- `Value::as_object`. -/
def asObject? : Json → Option Members
  | obj members => some members
  | _ => none

/-- `Value::as_i64`. -/
def asI64? : Json → Option ℤ
  | num (.int n) => if -2 ^ 63 ≤ n ∧ n < 2 ^ 63 then some n else none
  | _ => none

/-- `Value::as_u64`. -/
def asU64? : Json → Option ℕ
  | num (.int n) => if 0 ≤ n ∧ n < 2 ^ 64 then some n.toNat else none
  | _ => none

/-- An integer as a double: the nearest multiple of a power of two with 53 bits, ties to even. -/
def roundToF64 (n : ℤ) : ℤ :=
  let m := n.natAbs
  let unit := 2 ^ (m.log2 - 52)
  let q := m / unit
  let r := m % unit
  n.sign * (if unit < 2 * r ∨ (2 * r = unit ∧ q % 2 = 1) then (q + 1) * unit else q * unit : ℕ)

/-- `Value::as_f64`. -/
def asF64? : Json → Option ℚ
  | num (.int n) => some (roundToF64 n)
  | num (.float q) => some q
  | _ => none

/-- `Value::get` with a string: only an object has members. -/
def get (v : Json) (key : String) : Option Json := v.asObject?.bind (·.get key)

/-- `v.get(key).and_then(|v| v.as_str())`. -/
def getStr (v : Json) (key : String) : Option String := (v.get key).bind asStr?

/-- A string member, or the empty string. -/
def getStrD (v : Json) (key : String) : String := (v.getStr key).getD ""

variable {key text : String} {m : Members} {v : Json}

theorem asStr?_eq_some : v.asStr? = some text ↔ v = str text := by
  cases v with
  | str s => exact ⟨fun h => congrArg str (Option.some.inj h), fun h => congrArg some (str.inj h)⟩
  | null | bool | num | arr | obj =>
    exact iff_of_false (fun h => by cases h) fun h => by cases h

theorem getStr_eq_some : v.getStr key = some text ↔ v.get key = some (str text) := by
  unfold getStr
  rw [Option.bind_eq_some_iff]
  simp only [asStr?_eq_some, exists_eq_right]

theorem Members.get_insert_self : (Members.insert m key v).get key = some v :=
  List.lookup_cons_self

theorem Members.get_insert_of_ne {k : String} (h : k ≠ key) :
    (Members.insert m key v).get k = m.get k := by
  unfold Members.insert Members.get
  rw [List.lookup_cons, beq_false_of_ne h]
  simp only
  induction m with
  | nil => rfl
  | cons kv m ih =>
    obtain ⟨k', w⟩ := kv
    by_cases hk : k' = key
    · rw [List.filter_cons_of_neg (by simp [hk]), ih, List.lookup_cons, hk, beq_false_of_ne h]
    · rw [List.filter_cons_of_pos (by simp [hk]), List.lookup_cons, List.lookup_cons, ih]

end Json
