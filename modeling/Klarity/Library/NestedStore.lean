import Mathlib.Logic.Function.Basic

set_option autoImplicit false

/-! # Nested objects, and stores with dotted keys

A `Nested` value is a leaf or an object with named properties. A path is a list of names; `get`, `set` and
`delete` follow one, and what they do to one property of the outermost object is all that is ever needed of
them: `field_set`, `field_delete`.

A `DottedStore` keeps one such value and is addressed by keys in which a dot separates the names of a path. -/

/-- A leaf, or an object with its properties by their names. -/
inductive Nested (A : Type)
  | leaf (a : A)
  | object (fields : String → Option (Nested A))

/-- The properties of an object. -/
abbrev Fields (A : Type) := String → Option (Nested A)

variable {A : Type}

/-- `Object.assign({}, first, second)`: the properties of the second one win. -/
def Fields.assign (first second : Fields A) : Fields A := fun name => (second name).or (first name)

namespace Nested

/-- The properties of a value, of which a leaf has none. -/
def fields : Nested A → Fields A
  | .leaf _ => fun _ => none
  | .object fields => fields

/-- An object without properties. -/
def empty : Nested A := .object fun _ => none

instance : Inhabited (Nested A) := ⟨empty⟩

@[simp] theorem fields_object (fields : Fields A) : (object fields).fields = fields := rfl

@[simp] theorem fields_empty : (empty : Nested A).fields = fun _ => none := rfl

def get (v : Nested A) : List String → Option (Nested A)
  | [] => some v
  | name :: path => (v.fields name).bind (get · path)

/-- What is on the way and is not an object is replaced by one. -/
def set (v : Nested A) (path : List String) (data : Nested A) : Nested A :=
  match path with
  | [] => data
  | name :: path =>
      object (Function.update v.fields name (some (((v.fields name).getD empty).set path data)))

/-- Nothing is deleted where the path leads nowhere. -/
def delete (v : Nested A) : List String → Nested A
  | [] => v
  | [name] => object (Function.update v.fields name none)
  | name :: next :: path =>
      object (Function.update v.fields name ((v.fields name).map (delete · (next :: path))))

@[simp] theorem get_nil (v : Nested A) : v.get [] = some v := rfl

@[simp] theorem set_nil (v data : Nested A) : v.set [] data = data := rfl

@[simp] theorem get_cons (v : Nested A) (name : String) (path : List String) :
    v.get (name :: path) = (v.fields name).bind (get · path) := rfl

/-- A write changes the property that its path begins with, and no other. -/
theorem fields_set (v data : Nested A) (name : String) (path : List String) :
    (v.set (name :: path) data).fields =
      Function.update v.fields name (some (((v.fields name).getD empty).set path data)) := rfl

theorem fields_delete_singleton (v : Nested A) (name : String) :
    (v.delete [name]).fields = Function.update v.fields name none := rfl

theorem fields_delete_cons (v : Nested A) (name next : String) (path : List String) :
    (v.delete (name :: next :: path)).fields =
      Function.update v.fields name ((v.fields name).map (delete · (next :: path))) := rfl

/-- What is written is read back. -/
theorem get_set_self (v data : Nested A) (path : List String) : (v.set path data).get path = some data := by
  induction path generalizing v with
  | nil => rfl
  | cons name path ih => simp only [get_cons, fields_set, Function.update_self, Option.bind_some, ih]

end Nested

namespace Dotted

/-- The names in a key: a dot separates them. -/
def segments (key : String) : List String := (key.toList.splitOn '.').map String.ofList

/-- A text that can be a name: the dot separates names, and the backslash escapes a dot. -/
def IsName (s : String) : Prop := s ≠ "" ∧ '.' ∉ s.toList ∧ '\\' ∉ s.toList

instance : DecidablePred IsName := fun _ => inferInstanceAs (Decidable (_ ∧ _))

theorem segments_of_not_mem {key : String} (h : '.' ∉ key.toList) : segments key = [key] := by
  unfold segments
  have hone := @List.splitOn_intercalate _ [key.toList] _ _ '.' (by simpa using h) (by simp)
  rw [List.intercalate_singleton] at hone
  rw [hone]
  simp

theorem segments_append_dot {key name : String} (hkey : '.' ∉ key.toList) (hname : '.' ∉ name.toList) :
    segments (key ++ "." ++ name) = [key, name] := by
  unfold segments
  have htwo := @List.splitOn_intercalate _ [key.toList, name.toList] _ _ '.'
    (by simp [hkey, hname]) (by simp)
  have htext : (key ++ "." ++ name).toList = ['.'].intercalate [key.toList, name.toList] := by
    simp [List.intercalate, List.intersperse]
  rw [htext, htwo]
  simp

end Dotted

/-- A store that keeps an object and reaches into it by dotted keys. -/
class DottedStore (S : Type) (A : outParam Type) where
  content : S → Nested A
  get : S → String → Option (Nested A)
  set : S → String → Nested A → S
  delete : S → String → S
  get_eq (s : S) (key : String) : get s key = (content s).get (Dotted.segments key)
  content_set (s : S) (key : String) (data : Nested A) :
    content (set s key data) = (content s).set (Dotted.segments key) data
  content_delete (s : S) (key : String) :
    content (delete s key) = (content s).delete (Dotted.segments key)

/-- An object in memory is such a store. -/
instance : DottedStore (Nested A) A where
  content := id
  get v key := v.get (Dotted.segments key)
  set v key data := v.set (Dotted.segments key) data
  delete v key := v.delete (Dotted.segments key)
  get_eq _ _ := rfl
  content_set _ _ _ := rfl
  content_delete _ _ := rfl
