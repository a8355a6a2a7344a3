import PathRouter.Decimal.Shortest
import PathRouter.Moment
import PathRouter.Text.Quoted

/-!
# Scalars

Values without parts are scalars: nothing, truth values, numbers, texts and
moments in time.  They are the keys of mappings, where numbers are the same key
when they are equal, whatever their kind.

## Main definitions

* `Scalar`: the scalars.
* `Scalar.isSame`: whether two scalars are the same key.
* `Scalar.disorder?`: why two scalars have no order.
* `Scalar.render` and `Scalar.inText`: a scalar as messages show it, and as it
  stands in running text.
-/

namespace PathRouter

/-- A value without parts. -/
inductive Scalar where
  /-- Nothing. -/
  | null
  /-- A truth value. -/
  | bool (b : Bool)
  /-- An integer. -/
  | int (n : Int)
  /-- A binary fraction. -/
  | float (x : Float)
  /-- A text. -/
  | text (s : String)
  /-- A moment in time. -/
  | moment (m : Moment)
deriving Inhabited

namespace Scalar

/-- The name of the kind of a scalar. -/
def kind : Scalar → String
  | null => "NoneType"
  | bool _ => "bool"
  | int _ => "int"
  | float _ => "float"
  | text _ => "str"
  | moment m => m.kind

/-- The name of the kind of a scalar, with the place where the kind is
defined. -/
def qualifiedKind : Scalar → String
  | moment m => "datetime." ++ m.kind
  | scalar => scalar.kind

/-- Whether a scalar counts as present: zeros and the empty text do not. -/
def isPresent : Scalar → Bool
  | null => false
  | bool b => b
  | int n => n != 0
  | float x => !(x == 0)
  | text s => !s.isEmpty
  | moment _ => true

/-- The text that a scalar is. -/
def text? : Scalar → Option String
  | text s => some s
  | _ => none

/-- Whether a scalar is a number; truth values count as zero and one. -/
def isNumber : Scalar → Bool
  | bool _ | int _ | float _ => true
  | _ => false

/-- The numerator and the denominator of a finite number. -/
def fraction? : Scalar → Option (Int × Nat)
  | bool b => some (if b then 1 else 0, 1)
  | int n => some (n, 1)
  | float x =>
      if x.isFinite then
        let (numerator, denominator) := (Decimal.Binary.ofFloat x).fraction
        some (if x < 0 then -numerator else numerator, denominator)
      else none
  | _ => none

/-- Whether two scalars are the same key of a mapping. -/
def isSame (a b : Scalar) : Bool :=
  match a, b with
  | null, null => true
  | text s, text t => s == t
  | float x, float y => x == y
  | moment m, moment n => m.isSame n
  | _, _ =>
      match a.fraction?, b.fraction? with
      | some (n, d), some (m, e) => n * e == m * d
      | _, _ => false

/-- Whether a number is below another one. -/
def isBelow (a b : Scalar) : Bool :=
  match a.fraction?, b.fraction?, a, b with
  | some (n, d), some (m, e), _, _ => n * e < m * d
  | _, _, float x, float y => x < y
  | _, _, float x, _ => x < 0
  | _, _, _, float y => 0 < y
  | _, _, _, _ => false

/-- Why a scalar and the one in front of it have no order, if they have none. -/
def disorder? (scalar front : Scalar) : Option String :=
  match scalar, front with
  | text _, text _ => none
  | moment m, moment n =>
      if m.kind = n.kind then m.disorder? n else (m.disorder? n).or unordered
  | _, _ => if scalar.isNumber && front.isNumber then none else unordered
where
  /-- The wording for two kinds without an order. -/
  unordered : Option String :=
    some ("'<' not supported between instances of " ++
      Text.quoted scalar.qualifiedKind ++ " and " ++
      Text.quoted front.qualifiedKind)

/-- A scalar as messages show it. -/
def render : Scalar → String
  | null => "None"
  | bool true => "True"
  | bool false => "False"
  | int n => toString n
  | float x => Decimal.render x
  | text s => Text.quoted s
  | moment m => m.render

/-- A scalar in running text: texts stand as they are. -/
def inText : Scalar → String
  | text s => s
  | moment m => m.text
  | scalar => scalar.render

end Scalar
end PathRouter
