import Mathlib.Data.List.Infix
import Mathlib.Data.Rat.Encodable
import Mathlib.Data.Rat.Floor
import Mathlib.Algebra.Order.Ring.Rat
import NovenaGateway.ForStd.Dict

/-!
# JSON values and the Python operations the gateway applies to them

A message or a configuration file reaches the gateway as whatever `json.loads` returns, so
every function of the model that the source runs on such a value takes a `Json` and follows
Python: integers are unbounded, `int()` and `float()` coerce strings and Booleans, `==`
compares `1`, `1.0` and `True` as equal, and a wrong type raises.

Floats are binary64 values. A finite one carries the proof that it is the rounding of some
rational, so no other rational can appear as a float. The sign of a zero is dropped: no
comparison or truth test can see it.
-/

namespace Novena

/-! ## Exceptions -/

/-- The exception classes the modelled code raises or catches. The text is kept where the
    source writes it; the texts of the interpreter's own errors are not modelled. -/
inductive Exn where
  | governedCommandRejected (msg : String)
  | deploymentSetupRejected (msg : String)
  | invalidSignature
  | valueError (msg : String)
  | typeError
  | keyError
  | attributeError
  | overflowError
  | runtimeError (msg : String)
  | osError
  deriving DecidableEq, Repr

/-- A Python computation: a value or the exception that left it. -/
abbrev Py (α : Type) := Except Exn α

/-- `isinstance(exc, ValueError)`: both rejection classes derive from `ValueError`. -/
def Exn.isValueError : Exn → Bool
  | .valueError _ | .governedCommandRejected _ | .deploymentSetupRejected _ => true
  | _ => false

/-! ## binary64 -/

/-- `2 ^ e` for any integer exponent. -/
def pow2 (e : Int) : ℚ :=
  if 0 ≤ e then ((2 ^ e.toNat : Nat) : ℚ) else 1 / ((2 ^ (-e).toNat : Nat) : ℚ)

/-- The nearest natural number to a non-negative rational, ties to even. -/
def roundHalfEven (q : ℚ) : Nat :=
  let f := q.num.natAbs / q.den
  let r := q.num.natAbs % q.den
  if 2 * r < q.den then f else if q.den < 2 * r then f + 1 else if f % 2 = 0 then f else f + 1

/-- The nearest binary64 value to a rational, ties to even; `none` when it overflows. -/
def roundDouble (q : ℚ) : Option ℚ :=
  if q = 0 then some 0 else
    let a := |q|
    -- the binary exponent is `e₀` or one less, since `log2` truncates
    let e₀ : Int := (a.num.natAbs.log2 : Int) - (a.den.log2 : Int)
    let e := if pow2 e₀ ≤ a then e₀ else e₀ - 1
    let ulp := pow2 (max (e - 52) (-1074))
    let r := (roundHalfEven (a / ulp) : ℚ) * ulp
    if pow2 1024 ≤ r then none else some (if q < 0 then -r else r)

/-- A finite binary64 value. -/
structure Double where
  val : ℚ
  rounded : ∃ q, roundDouble q = some val

instance : DecidableEq Double := fun a b =>
  decidable_of_iff (a.val = b.val) ⟨fun h => by cases a; cases b; simpa using h, fun h => h ▸ rfl⟩

/-- Python's `float`. -/
inductive F64 where
  | nan
  | inf (neg : Bool)
  | fin (x : Double)
  deriving DecidableEq

/-- The float nearest to `q`, when there is one. -/
def F64.ofRat? (q : ℚ) : Option F64 :=
  match h : roundDouble q with
  | some r => some (.fin ⟨r, q, h⟩)
  | none => none

/-- `x < y` on floats: false as soon as one of them is NaN. -/
def F64.lt : F64 → F64 → Bool
  | .nan, _ | _, .nan => false
  | .inf true, .inf true => false
  | .inf true, _ => true
  | _, .inf true => false
  | .inf false, _ => false
  | .fin _, .inf false => true
  | .fin x, .fin y => x.val < y.val

/-- `max(x, y)` keeps its first argument unless the second is greater. -/
def F64.max (x y : F64) : F64 := if x.lt y then y else x

/-! ## Strings -/

/-- `s.startswith(p)`. -/
def startsWith (s p : String) : Bool := p.toList.isPrefixOf s.toList

/-- The code points of the decimal digits zero; each starts a run of ten (category Nd). -/
def digitZeros : List Nat :=
  [0x30, 0x660, 0x6f0, 0x7c0, 0x966, 0x9e6, 0xa66, 0xae6, 0xb66, 0xbe6, 0xc66, 0xce6, 0xd66,
   0xde6, 0xe50, 0xed0, 0xf20, 0x1040, 0x1090, 0x17e0, 0x1810, 0x1946, 0x19d0, 0x1a80, 0x1a90,
   0x1b50, 0x1bb0, 0x1c40, 0x1c50, 0xa620, 0xa8d0, 0xa900, 0xa9d0, 0xa9f0, 0xaa50, 0xabf0,
   0xff10, 0x104a0, 0x10d30, 0x11066, 0x110f0, 0x11136, 0x111d0, 0x112f0, 0x11450, 0x114d0,
   0x11650, 0x116c0, 0x11730, 0x118e0, 0x11950, 0x11c50, 0x11d50, 0x11da0, 0x16a60, 0x16ac0,
   0x16b50, 0x1d7ce, 0x1d7d8, 0x1d7e2, 0x1d7ec, 0x1d7f6, 0x1e140, 0x1e2f0, 0x1e950, 0x1fbf0]

/-- The value of a decimal digit character, in any script. -/
def digitValue? (c : Char) : Option Nat :=
  digitZeros.findSome? fun z => if z ≤ c.toNat ∧ c.toNat < z + 10 then some (c.toNat - z) else none

/-- `c.isspace()`. -/
def isSpace (c : Char) : Bool :=
  c.toNat ∈ [0x9, 0xa, 0xb, 0xc, 0xd, 0x1c, 0x1d, 0x1e, 0x1f, 0x20, 0x85, 0xa0, 0x1680, 0x2000,
    0x2001, 0x2002, 0x2003, 0x2004, 0x2005, 0x2006, 0x2007, 0x2008, 0x2009, 0x200a, 0x2028,
    0x2029, 0x202f, 0x205f, 0x3000]

/-- `s.strip()`, on the characters. -/
def strip (cs : List Char) : List Char :=
  ((cs.dropWhile isSpace).reverse.dropWhile isSpace).reverse

/-- A run of decimal digits in which single underscores may separate two digits: the digits
    read and the rest. `prev` says whether the last character was a digit. -/
def digitRun : List Char → Bool → List Nat → List Nat × List Char
  | [], _, acc => (acc.reverse, [])
  | c :: cs, prev, acc =>
    match digitValue? c with
    | some d => digitRun cs true (d :: acc)
    | none =>
      match c, prev, cs with
      | '_', true, d :: _ => if (digitValue? d).isSome then digitRun cs false acc
          else (acc.reverse, c :: cs)
      | _, _, _ => (acc.reverse, c :: cs)

/-- The value of a list of decimal digits. -/
def ofDigits (ds : List Nat) : Nat := ds.foldl (fun n d => 10 * n + d) 0

/-- An optional sign. -/
def sign : List Char → Bool × List Char
  | '-' :: cs => (true, cs)
  | '+' :: cs => (false, cs)
  | cs => (false, cs)

/-- `int(s)`; `none` is a `ValueError`. More than 4300 digits are refused, as by default. -/
def intOfStr (s : String) : Option Int :=
  let (neg, cs) := sign (strip s.toList)
  match digitRun cs false [] with
  | (d :: ds, []) =>
    if (d :: ds).length ≤ 4300 then
      some (if neg then -(ofDigits (d :: ds) : Int) else ofDigits (d :: ds))
    else none
  | _ => none

/-- A decimal literal `digits [. digits] [e digits]` as an exact rational. -/
def decimalOfChars (cs : List Char) : Option ℚ :=
  -- digits before the point and after it, at least one in all
  let (whole, cs) := digitRun cs false []
  let (frac, cs) := match cs with
    | '.' :: cs => digitRun cs false []
    | cs => ([], cs)
  if whole = [] ∧ frac = [] then none else
    let mantissa : ℚ := (ofDigits (whole ++ frac) : ℚ) / (10 ^ frac.length : Nat)
    match cs with
    | [] => some mantissa
    -- an exponent needs digits and ends the text
    | e :: cs =>
      if e = 'e' ∨ e = 'E' then
        let (neg, cs) := sign cs
        match digitRun cs false [] with
        | (d :: ds, []) =>
          let scale : ℚ := ((10 ^ ofDigits (d :: ds) : Nat) : ℚ)
          some (if neg then mantissa / scale else mantissa * scale)
        | _ => none
      else none

/-- `float(s)`; `none` is a `ValueError`. -/
def floatOfStr (s : String) : Option F64 :=
  let (neg, cs) := sign (strip s.toList)
  let word := cs.map Char.toLower
  if word = "inf".toList ∨ word = "infinity".toList then some (.inf neg)
  else if word = "nan".toList then some .nan
  else (decimalOfChars cs).map fun q =>
    let q := if neg then -q else q
    (F64.ofRat? q).getD (.inf neg)

/-! ## JSON values -/

/-- What `json.loads` returns. -/
inductive Json where
  | null
  | bool (b : Bool)
  | int (n : Int)
  | float (x : F64)
  | str (s : String)
  | arr (xs : List Json)
  | obj (fields : List (String × Json))

instance : Inhabited Json := ⟨.null⟩

namespace Json

/-- `bool(v)`. -/
def truthy : Json → Bool
  | null => false
  | bool b => b
  | int n => n ≠ 0
  | float (.fin x) => x.val ≠ 0
  | float _ => true
  | str s => s ≠ ""
  | arr xs => !xs.isEmpty
  | obj fields => !fields.isEmpty

/-- `a or b`. -/
def orElse (a b : Json) : Json := if a.truthy then a else b

/-- The number a Boolean, an integer or a finite float stands for in comparisons. -/
def number? : Json → Option ℚ
  | bool b => some (if b then 1 else 0)
  | int n => some n
  | float (.fin x) => some x.val
  | _ => none

mutual
/-- `a is b or a == b`, the comparison that containers and `in` use. Every NaN of a decoded
    document is one object, so NaN is found in a list although it is not equal to itself. -/
def same : Json → Json → Bool
  | null, null => true
  | str a, str b => a = b
  | arr a, arr b => sameList a b
  | obj a, obj b => a.length == b.length && sameFields a b
  | float .nan, float .nan => true
  | float (.inf a), float (.inf b) => a = b
  | a, b => match a.number?, b.number? with
    | some x, some y => x = y
    | _, _ => false
/-- Elementwise `same`. -/
def sameList : List Json → List Json → Bool
  | [], [] => true
  | a :: as, b :: bs => same a b && sameList as bs
  | _, _ => false
/-- Every field of the first object is in the second, whatever the order. -/
def sameFields : List (String × Json) → List (String × Json) → Bool
  | [], _ => true
  | (k, a) :: as, bs => (match bs.lookup k with
    | some b => same a b
    | none => false) && sameFields as bs
end

/-- `a == b`. -/
def eq (a b : Json) : Bool :=
  match a, b with
  | float .nan, float .nan => false
  | a, b => same a b

/-- `x in v`. -/
def mem (x v : Json) : Py Bool :=
  match v with
  | arr ys => .ok (ys.any (same x))
  | obj fields => match x with
    | str s => .ok (fields.any (·.1 = s))
    | arr _ | obj _ => .error .typeError
    | _ => .ok false
  | str t => match x with
    | str s => .ok (decide (s.toList <:+: t.toList))
    | _ => .error .typeError
  | _ => .error .typeError

/-- `v.get(key)`, where only an object has the method and a missing key gives `None`. -/
def get (v : Json) (key : String) : Py Json :=
  match v with
  | obj fields => .ok ((Dict.get? fields key).getD null)
  | _ => .error .attributeError

/-- `v.get(key, default)`. -/
def getD (v : Json) (key : String) (default : Json) : Py Json :=
  match v with
  | obj fields => .ok ((Dict.get? fields key).getD default)
  | _ => .error .attributeError

/-- `v[key]`. -/
def item (v : Json) (key : String) : Py Json :=
  match v with
  | obj fields => match Dict.get? fields key with
    | some x => .ok x
    | none => .error .keyError
  | _ => .error .typeError

/-- `int(v)`. -/
def toInt : Json → Py Int
  | int n => .ok n
  | bool b => .ok (if b then 1 else 0)
  | float (.fin x) => .ok (Int.tdiv x.val.num x.val.den)
  | float .nan => .error (.valueError "cannot convert float NaN to integer")
  | float (.inf _) => .error .overflowError
  | str s => match intOfStr s with
    | some n => .ok n
    | none => .error (.valueError "invalid literal for int()")
  | null | arr _ | obj _ => .error .typeError

/-- `float(v)`. -/
def toFloat : Json → Py F64
  | float x => .ok x
  | int n => match F64.ofRat? n with
    | some x => .ok x
    | none => .error .overflowError
  -- `True` and `False` are 1 and 0
  | bool b => match F64.ofRat? (if b then 1 else 0) with
    | some x => .ok x
    | none => .error .overflowError
  | str s => match floatOfStr s with
    | some x => .ok x
    | none => .error (.valueError "could not convert string to float")
  | null | arr _ | obj _ => .error .typeError

/-! ## `str()` -/

/-- The decimal exponent of a positive rational: `10 ^ e ≤ q < 10 ^ (e + 1)`, searched downwards
    from the largest exponent of a float. -/
def decimalExponent (q : ℚ) : Nat → Int → Int
  | 0, e => e
  | fuel + 1, e =>
    let p : ℚ := if 0 ≤ e then ((10 ^ e.toNat : Nat) : ℚ) else 1 / ((10 ^ (-e).toNat : Nat) : ℚ)
    if p ≤ q then e else decimalExponent q fuel (e - 1)

/-- The decimal digits `ds` of a number whose first digit counts `10 ^ e`, in positional notation
    for exponents from -4 to 15 and in scientific notation otherwise. -/
def pointedDigits (ds : List Char) (e : Int) : List Char :=
  -- small numbers with leading zeros
  if -4 ≤ e ∧ e < 0 then ['0', '.'] ++ List.replicate ((-e).toNat - 1) '0' ++ ds
  -- numbers below 1e16 are written out
  else if 0 ≤ e ∧ e < 16 then
    let whole := ds.take (e.toNat + 1)
    let frac := ds.drop (e.toNat + 1)
    whole ++ List.replicate (e.toNat + 1 - whole.length) '0' ++ ['.'] ++
      (if frac = [] then ['0'] else frac)
  -- the others with an exponent of two digits at least
  else
    let tail := ds.drop 1
    let ed := Nat.toDigits 10 e.natAbs
    ds.take 1 ++ (if tail = [] then [] else '.' :: tail) ++
      ['e', if 0 ≤ e then '+' else '-'] ++ (if ed.length < 2 then '0' :: ed else ed)

/-- A rational to `n` significant digits: the nearest decimal, or the one on the other side. -/
def decimalText (q : ℚ) (n : Nat) (nearest : Bool) : List Char :=
  if q = 0 then ['0', '.', '0'] else
    -- the position of the leading digit
    let e := decimalExponent |q| 634 309
    let shift : Int := (n : Int) - 1 - e
    let scale : ℚ := if 0 ≤ shift then ((10 ^ shift.toNat : Nat) : ℚ)
      else 1 / ((10 ^ (-shift).toNat : Nat) : ℚ)
    let rounded := roundHalfEven (|q| * scale)
    let m := if nearest then rounded
      else if |q| * scale < rounded then rounded - 1 else rounded + 1
    -- rounding up may carry into one more digit, as in 9.99 → 10
    let body := if 10 ^ n ≤ m then pointedDigits (Nat.toDigits 10 (m / 10)) (e + 1)
      else pointedDigits (Nat.toDigits 10 m) e
    if q < 0 then '-' :: body else body

/-- `repr` of a finite float: the text with the fewest digits that reads back as `x`, and of these
    the nearest one. Above a power of two the floats lie further apart than below it, so that the
    nearest decimal may read back as another float and the one above it as `x`. Seventeen digits are
    enough for every double, so the last alternative is never taken. -/
def reprDouble (x : Double) : String :=
  (((List.range 17).flatMap fun n => [true, false].map fun nearest =>
      String.ofList (decimalText x.val (n + 1) nearest)).find?
    fun s => floatOfStr s = some (.fin x)).getD ("?" ++ toString (Encodable.encode x.val))

/-- The text of a float is a decimal that reads back as the float, or one that no float reads as. -/
theorem reprDouble_cases (x : Double) :
    (∃ n nearest, reprDouble x = String.ofList (decimalText x.val n nearest) ∧
      floatOfStr (reprDouble x) = some (.fin x)) ∨
    reprDouble x = "?" ++ toString (Encodable.encode x.val) := by
  unfold reprDouble
  -- the shortest text that reads back, in the order of the search
  cases hfound : List.find? (fun s => decide (floatOfStr s = some (.fin x)))
      ((List.range 17).flatMap fun n => [true, false].map fun nearest =>
        String.ofList (decimalText x.val (n + 1) nearest)) with
  | none => exact .inr rfl
  | some s =>
    have hread := List.find?_some hfound
    obtain ⟨n, -, hs⟩ := List.mem_flatMap.mp (List.mem_of_find?_eq_some hfound)
    obtain ⟨nearest, -, rfl⟩ := List.mem_map.mp hs
    exact .inl ⟨n + 1, nearest, rfl, of_decide_eq_true hread⟩

/-- `repr` of a float. -/
def reprFloat : F64 → String
  | .nan => "nan"
  | .inf neg => if neg then "-inf" else "inf"
  | .fin x => reprDouble x

/-- `repr` of a character inside a string literal quoted by `q`. Characters outside ASCII are
    taken as printable. -/
def reprChar (q c : Char) : List Char :=
  if c = q ∨ c = '\\' then ['\\', c]
  else if c = '\n' then ['\\', 'n']
  else if c = '\r' then ['\\', 'r']
  else if c = '\t' then ['\\', 't']
  else if c.toNat < 0x20 ∨ c.toNat = 0x7f then
    ['\\', 'x', Nat.digitChar (c.toNat / 16), Nat.digitChar (c.toNat % 16)]
  else [c]

/-- `repr` of a string: double quotes are used when the text has single quotes only. -/
def reprStr (s : String) : String :=
  let q := if '\'' ∈ s.toList ∧ '"' ∉ s.toList then '"' else '\''
  String.ofList (q :: s.toList.flatMap (reprChar q) ++ [q])

mutual
/-- `repr(v)`. -/
def pyRepr : Json → String
  | null => "None"
  | bool b => if b then "True" else "False"
  | int n => toString n
  | float x => reprFloat x
  | str s => reprStr s
  | arr xs => "[" ++ reprList xs ++ "]"
  | obj fields => "\x7b" ++ reprFields fields ++ "\x7d"
/-- The items of a list, separated by commas. -/
def reprList : List Json → String
  | [] => ""
  | [x] => pyRepr x
  | x :: xs => pyRepr x ++ ", " ++ reprList xs
/-- The items of a dictionary, separated by commas. -/
def reprFields : List (String × Json) → String
  | [] => ""
  | [(k, x)] => reprStr k ++ ": " ++ pyRepr x
  | (k, x) :: xs => reprStr k ++ ": " ++ pyRepr x ++ ", " ++ reprFields xs
end

/-- `str(v)`. -/
def toStr : Json → String
  | str s => s
  | v => v.pyRepr

/-! ## Dictionary keys -/

/-- What a hashable value is as a dictionary key: values that compare equal are one key. -/
inductive Key where
  | none
  | num (q : ℚ)
  | inf (neg : Bool)
  | nan
  | str (s : String)
  deriving DecidableEq

/-- The key of a value; a list or a dictionary is unhashable. -/
def hashKey : Json → Py Key
  | null => .ok .none
  | bool b => .ok (.num (if b then 1 else 0))
  | int n => .ok (.num n)
  | float (.fin x) => .ok (.num x.val)
  | float (.inf neg) => .ok (.inf neg)
  | float .nan => .ok .nan
  | str s => .ok (.str s)
  | arr _ | obj _ => .error .typeError

/-- The member name `json.dump` writes for a dictionary key. -/
def jsonKey : Json → String
  | str s => s
  | bool b => if b then "true" else "false"
  | null => "null"
  | int n => toString n
  | float .nan => "NaN"
  | float (.inf neg) => if neg then "-Infinity" else "Infinity"
  | float (.fin x) => reprDouble x
  | arr _ | obj _ => ""

/-- A text is its own key. -/
@[simp] theorem hashKey_str (s : String) : hashKey (str s) = .ok (.str s) := rfl

@[simp] theorem get_obj (fields : List (String × Json)) (key : String) :
    (obj fields).get key = .ok ((Dict.get? fields key).getD null) := rfl

@[simp] theorem getD_obj (fields : List (String × Json)) (key : String) (default : Json) :
    (obj fields).getD key default = .ok ((Dict.get? fields key).getD default) := rfl

/-- Only an object answers `.get`. -/
theorem get_ok {v x : Json} {key : String} (h : v.get key = .ok x) :
    ∃ fields, v = obj fields ∧ x = (Dict.get? fields key).getD null := by
  cases v with
  | obj fields => exact ⟨fields, rfl, (Except.ok.inj h).symm⟩
  | _ => cases h

/-- `v.get(key)` of an object; `None` of anything else. -/
def field (v : Json) (key : String) : Json :=
  match v with
  | obj fields => (Dict.get? fields key).getD null
  | _ => null

/-- What `get` returns is the field. -/
theorem get_eq_field {v x : Json} {key : String} (h : v.get key = .ok x) : v.field key = x := by
  cases v with
  | obj fields => exact Except.ok.inj h
  | _ => cases h

@[simp] theorem field_obj (fields : List (String × Json)) (key : String) :
    (obj fields).field key = (Dict.get? fields key).getD null := rfl

/-- An object is itself or, when it is empty, the empty object. -/
@[simp] theorem orElse_obj (fields : List (String × Json)) :
    (obj fields).orElse (obj []) = obj fields := by
  cases fields <;> rfl

/-- `.get` on `v or {}` reads a field of `v`. -/
theorem orElse_get {v x : Json} {key : String} (h : (v.orElse (obj [])).get key = .ok x) :
    v.field key = x := by
  -- a falsy value is replaced by the empty object
  simp only [orElse] at h
  split at h
  · exact get_eq_field h
  · next hv =>
    cases v with
    | obj fields =>
      cases fields with
      | nil => exact Except.ok.inj h
      | cons => simp [truthy] at hv
    | _ => exact Except.ok.inj h

/-- `.get` with a default that is not the result. -/
theorem orElse_getD {v x d : Json} {key : String}
    (h : (v.orElse (obj [])).getD key d = .ok x) (hne : x ≠ d) : v.field key = x := by
  simp only [orElse] at h
  split at h
  -- a truthy object keeps its fields
  · cases v with
    | obj fields =>
      simp only [getD_obj, Except.ok.injEq] at h
      simp only [field]
      cases hk : Dict.get? fields key with
      | none => rw [hk] at h; exact absurd h.symm hne
      | some y => rw [hk] at h; exact h
    | _ => cases h
  · exact absurd (Except.ok.inj h).symm hne

end Json

end Novena
