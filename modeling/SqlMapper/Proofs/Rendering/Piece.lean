import SqlMapper.Data.Value

/-!
# Pieces of a statement

A statement is rendered as a list of pieces: stretches of text, and the places where bound values
stand. A rendering is read in two ways. With the placeholder of a dialect at the place of every
value it is the text of a statement (`Rendering.text`); its values from left to right are what is
bound (`Rendering.values`). Whatever is put together from smaller renderings has the text and the
values of its parts in the same order, so the two readings cannot drift apart.
-/

namespace SqlMapper

/-- A stretch of a statement. -/
inductive Piece where
  /-- Text that stands in the statement as it is. -/
  | literal (text : String)
  /-- The place of a bound value. -/
  | bound (value : Value)
deriving DecidableEq, Inhabited

/-- The text of a piece, given the placeholder that stands for a value. -/
def Piece.text (placeholder : String) : Piece → String
  | .literal text => text
  | .bound _ => placeholder

/-- The value of a piece, if it has one. -/
def Piece.value? : Piece → Option Value
  | .literal _ => none
  | .bound value => some value

/-- A statement as a list of pieces, from left to right. -/
abbrev Rendering := List Piece

namespace Rendering

/-- The text with a placeholder at the place of every value. -/
def text (placeholder : String) : Rendering → String
  | [] => ""
  | piece :: rest => piece.text placeholder ++ text placeholder rest

/-- The values from left to right. -/
def values (r : Rendering) : List Value :=
  r.filterMap Piece.value?

/-- Renderings one after another with a text between any two. -/
def join (separator : String) : List Rendering → Rendering
  | [] => []
  | [r] => r
  | r :: next :: rest => r ++ .literal separator :: join separator (next :: rest)

variable (placeholder separator : String)

@[simp] theorem text_nil : text placeholder [] = "" := rfl

@[simp] theorem text_literal (t : String) (r : Rendering) :
    text placeholder (.literal t :: r) = t ++ text placeholder r := rfl

/-- The text of one literal piece is that piece. -/
theorem text_literal_nil (t : String) : text placeholder [.literal t] = t := String.append_empty

@[simp] theorem text_bound (v : Value) (r : Rendering) :
    text placeholder (.bound v :: r) = placeholder ++ text placeholder r := rfl

/-- The text of two renderings is the text of one after the text of the other. -/
@[simp] theorem text_append (r s : Rendering) :
    text placeholder (r ++ s) = text placeholder r ++ text placeholder s := by
  induction r with
  | nil => simp [text]
  | cons piece rest ih => simp [text, ih, String.append_assoc]

@[simp] theorem values_nil : values [] = [] := rfl

@[simp] theorem values_literal (t : String) (r : Rendering) :
    values (.literal t :: r) = values r := rfl

@[simp] theorem values_bound (v : Value) (r : Rendering) :
    values (.bound v :: r) = v :: values r := rfl

@[simp] theorem values_append (r s : Rendering) : values (r ++ s) = values r ++ values s := by
  simp [values]

/-- The text of joined renderings is their texts joined. -/
@[simp] theorem text_join (rs : List Rendering) :
    text placeholder (join separator rs) = separator.intercalate (rs.map (text placeholder)) := by
  induction rs with
  | nil => simp [join]
  | cons r rest ih =>
    cases rest with
    | nil => simp [join]
    | cons next rest =>
      simp only [join, text_append, text_literal, ih, List.map_cons]
      rw [String.intercalate_cons_cons, String.append_assoc]

/-- Joining renderings puts no value in. -/
@[simp] theorem values_join (rs : List Rendering) :
    values (join separator rs) = rs.flatMap values := by
  induction rs with
  | nil => rfl
  | cons r rest ih =>
    cases rest with
    | nil => simp [join]
    | cons next rest => rw [List.flatMap_cons, ← ih, join, values_append, values_literal]

/-- Leaving out renderings without values before joining leaves out no value. -/
theorem values_join_filter (rs : List Rendering) (keep : Rendering → Bool)
    (h : ∀ r ∈ rs, keep r = false → values r = []) :
    values (join separator (rs.filter keep)) = rs.flatMap values := by
  rw [values_join]
  induction rs with
  | nil => rfl
  | cons r rest ih =>
    have others := ih fun s hs => h s (List.mem_cons_of_mem r hs)
    cases hr : keep r with
    | true => rw [List.filter_cons_of_pos hr, List.flatMap_cons, List.flatMap_cons, others]
    | false =>
      rw [List.filter_cons_of_neg (by simp [hr]), List.flatMap_cons, others, h r List.mem_cons_self hr,
        List.nil_append]

end Rendering

end SqlMapper
