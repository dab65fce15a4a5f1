import ElementAtlas.Query.Literal

/-!
# Arguments of methods

A method has named parameters. Arguments without a keyword go to the parameters in order, an
argument with a keyword goes to the parameter of that name, and in the end every parameter has
exactly one.
-/

namespace ElementAtlas

variable {α : Type}

/-- The arguments that a method is called with. -/
structure Arguments (α : Type) where
  positional : List (Literal α)
  keywords : List (String × Literal α)

/-- A parameter with the argument that has gone to it so far. -/
structure Slot (α : Type) where
  parameter : String
  argument : Option (Literal α)

/-- Gives an argument with a keyword to its parameter. -/
def Slot.assign {n : Nat} (slots : Vector (Slot α) n) (keyword : String) (argument : Literal α) :
    Except ArgumentFault (Vector (Slot α) n) :=
  match slots.findFinIdx? (·.parameter = keyword) with
  | none => .error (.unexpectedKeyword keyword)
  | some i =>
    if slots[i].argument.isSome then .error (.givenTwice keyword)
    else .ok (slots.set i ⟨keyword, some argument⟩)

/-- The argument of each parameter. -/
def Arguments.bind {n : Nat} (arguments : Arguments α) (parameters : Vector String n) :
    Except ArgumentFault (Vector (Literal α) n) := do
  if n < arguments.positional.length then throw (.tooMany n arguments.positional.length)
  else
    let slots := Vector.ofFn fun i : Fin n => ⟨parameters[i], arguments.positional[i.val]?⟩
    let slots ← arguments.keywords.foldlM (fun slots (k, a) => Slot.assign slots k a) slots
    slots.mapM fun slot =>
      match slot.argument with
      | some argument => .ok argument
      | none => .error (.missing slot.parameter)

/-- The text that a literal is. -/
def Literal.toText [Scalar α] : Literal α → Except ArgumentFault String
  | .text s => .ok s
  | other => .error (.notText other.render)

/-- The quantity that a literal is. -/
def Literal.toQuantity [Scalar α] : Literal α → Except ArgumentFault (Quantity α)
  | .quantity q => .ok q
  | other => .error (.notQuantity other.render)

end ElementAtlas
