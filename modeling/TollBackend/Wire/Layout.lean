import TollBackend.Wire.LittleEndian

/-!
# Layouts

A message of fields of fixed width, one behind the other: where a field stands is known from the
widths before it alone.

## Main definitions

* `FixedField`: a named field with its content, which is as long as the field is wide.
* `concat`: the message of some fields.
* `width`: the width of some fields together.

## Main results

* `length_concat`: a message is as long as its fields are wide.
* `slice_concat`: each field stands behind the widths of those before it.
-/

namespace Wire

variable {α : Type}

/-- A field of a message. -/
structure FixedField (α : Type) where
  name : String
  width : Nat
  content : List α
  length_content : content.length = width

/-- The message that consists of the fields. -/
def concat (fields : List (FixedField α)) : List α :=
  fields.flatMap FixedField.content

/-- The width of all fields together. -/
def width (fields : List (FixedField α)) : Nat :=
  (fields.map FixedField.width).sum

@[simp] theorem concat_nil : concat ([] : List (FixedField α)) = [] :=
  rfl

@[simp] theorem concat_cons (field : FixedField α) (fields : List (FixedField α)) :
    concat (field :: fields) = field.content ++ concat fields :=
  List.flatMap_cons

theorem concat_append (before after : List (FixedField α)) :
    concat (before ++ after) = concat before ++ concat after :=
  List.flatMap_append

theorem length_concat (fields : List (FixedField α)) : (concat fields).length = width fields := by
  induction fields with
  | nil => rfl
  | cons field fields ih =>
    rw [concat_cons, List.length_append, ih, field.length_content, width, width, List.map_cons,
      List.sum_cons]

theorem slice_concat (before : List (FixedField α)) (field : FixedField α) (after : List (FixedField α)) :
    slice (concat (before ++ field :: after)) (width before) (width before + field.width) =
      field.content := by
  have start := length_concat before
  -- the fields before it end where it begins
  rw [concat_append, slice_append_right (le_of_eq start), start, Nat.sub_self,
    Nat.add_sub_cancel_left, concat_cons,
    slice_append_left (le_of_eq field.length_content.symm)]
  exact slice_whole field.length_content

end Wire
