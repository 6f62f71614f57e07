import Mathlib.Data.List.Basic

/-!
# JSON values

What `encoding/json` decodes a text to. Members of an object are read and replaced in place;
reading anything but an object gives nothing.
-/

inductive Json
  | null
  | bool (b : Bool)
  | num (n : Int)
  | str (s : String)
  | arr (items : List Json)
  | obj (members : List (String × Json))

namespace Json

def members : Json → List (String × Json)
  | .obj members => members
  | _ => []

/-- The member under a key. -/
def get (j : Json) (key : String) : Option Json := (j.members.find? (·.1 == key)).map (·.2)

/-- The string, or the empty one. -/
def text : Option Json → String
  | some (.str s) => s
  | _ => ""

/-- The elements of an array, or none. -/
def elements : Option Json → List Json
  | some (.arr items) => items
  | _ => []

/-- The member under a key is changed, if there is one. -/
def modify (key : String) (f : Json → Json) : Json → Json
  | .obj members => .obj (members.map fun m => if m.1 == key then (m.1, f m.2) else m)
  | j => j

theorem find_map {key key' : String} {f : Json → Json} (members : List (String × Json)) :
    ((members.map fun m => if m.1 == key then (m.1, f m.2) else m).find? (·.1 == key')).map (·.2) =
      ((members.find? (·.1 == key')).map (·.2)).map (if key' = key then f else id) := by
  induction members with
  | nil => rfl
  | cons m rest ih =>
    rw [List.map_cons, List.find?_cons, List.find?_cons]
    by_cases hit : m.1 = key'
    · by_cases same : m.1 = key
      · simp [← hit, same]
      · have other : ¬ key' = key := fun eq => same (hit.trans eq)
        simp [hit, other]
    · have miss : ((if m.1 == key then (m.1, f m.2) else m).1 == key') = false := by
        split <;> simpa using hit
      rw [miss, beq_false_of_ne hit]
      exact ih

/-- Reading after a change. -/
theorem get_modify {j : Json} {key key' : String} {f : Json → Json} :
    (j.modify key f).get key' = (j.get key').map (if key' = key then f else id) := by
  cases j with
  | obj members => exact find_map members
  | _ => rfl

@[simp] theorem get_modify_self (j : Json) (key : String) (f : Json → Json) : (j.modify key f).get key = (j.get key).map f := by
  rw [get_modify, if_pos rfl]

theorem get_modify_of_ne {key key' : String} (j : Json) (f : Json → Json) (other : key' ≠ key) :
    (j.modify key f).get key' = j.get key' := by
  rw [get_modify, if_neg other, Option.map_id_fun, id]

/-- One change after another to the same member. -/
theorem modify_modify (j : Json) (key : String) (f g : Json → Json) : (j.modify key f).modify key g = j.modify key (g ∘ f) := by
  cases j with
  | obj members =>
    simp only [modify, List.map_map, obj.injEq]
    refine List.map_congr_left fun m _ => ?_
    by_cases same : m.1 = key <;> simp [same]
  | _ => rfl

end Json
