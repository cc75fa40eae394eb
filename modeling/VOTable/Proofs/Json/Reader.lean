import VOTable.Json.Reader
import VOTable.Proofs.Json.Token

/-!
# Reading what is written

The tokens of a value lead the reader from where a value is due to where that value has been
delivered, whatever containers are still open around it (`steps_tokens`). So a plain value that is
written is read back (`ofText?_render`).
-/

namespace VOTable.Json

open ReaderState

/-- Where the first item of an array is due, a value may begin. -/
theorem steps_firstItem (value : Json) (rest : List JsonToken) (stack : List Frame) :
    steps (value.tokens ++ rest) (expectFirstItem stack) =
      steps (value.tokens ++ rest) (expectValue (.array [] :: stack)) := by
  cases value with
  | null | bool value | number value | string content => rfl
  | array items => cases items <;> rfl
  | object members => cases members <;> rfl

mutual

/-- The tokens of a value deliver it. -/
theorem steps_tokens (value : Json) (rest : List JsonToken) (stack : List Frame) :
    steps (value.tokens ++ rest) (expectValue stack) = steps rest (deliver value stack) := by
  match value with
  | null => rfl
  | bool value => rfl
  | number value => rfl
  | string content => rfl
  | array [] => rfl
  | array (item :: more) =>
      rw [tokens, List.cons_append, List.append_assoc, List.append_assoc, List.singleton_append]
      change steps _ (expectFirstItem stack) = _
      rw [steps_firstItem, steps_tokens item]
      change steps _ (afterItem [item] stack) = _
      rw [steps_itemTokens more]
      rfl
  | object [] => rfl
  | object ((name, value) :: more) =>
      rw [tokens, List.cons_append, List.cons_append, List.cons_append, List.append_assoc,
        List.append_assoc, List.singleton_append]
      change steps _ (expectValue (.object [] name :: stack)) = _
      rw [steps_tokens value]
      change steps _ (afterMember [(name, value)] stack) = _
      rw [steps_memberTokens more]
      rfl

/-- The tokens behind the first item append their items to those before. -/
theorem steps_itemTokens (items : List Json) (before : List Json) (rest : List JsonToken)
    (stack : List Frame) :
    steps (itemTokens items ++ (.closeArray :: rest)) (afterItem before stack) =
      steps rest (deliver (.array (before.reverse ++ items)) stack) := by
  match items with
  | [] => rw [List.append_nil]; rfl
  | item :: more =>
      rw [itemTokens, List.cons_append, List.append_assoc]
      change steps _ (expectValue (.array before :: stack)) = _
      rw [steps_tokens item]
      change steps _ (afterItem (item :: before) stack) = _
      rw [steps_itemTokens more, List.reverse_cons, List.append_assoc, List.singleton_append]

/-- The tokens behind the first member append their members to those before. -/
theorem steps_memberTokens (members : List (Option String × Json))
    (before : List (Option String × Json)) (rest : List JsonToken) (stack : List Frame) :
    steps (memberTokens members ++ (.closeObject :: rest)) (afterMember before stack) =
      steps rest (deliver (.object (before.reverse ++ members)) stack) := by
  match members with
  | [] => rw [List.append_nil]; rfl
  | (name, value) :: more =>
      rw [memberTokens, List.cons_append, List.cons_append, List.cons_append, List.append_assoc]
      change steps _ (expectValue (.object before name :: stack)) = _
      rw [steps_tokens value]
      change steps _ (afterMember ((name, value) :: before) stack) = _
      rw [steps_memberTokens more, List.reverse_cons, List.append_assoc, List.singleton_append]

end

/-- A plain value is read back from its text, in either layout. -/
theorem ofText?_render {value : Json} (plain : value.IsPlain) (layout : JsonLayout) :
    ofText? (value.render layout) = some value := by
  have delivered := steps_tokens value [] []
  rw [List.append_nil] at delivered
  rw [ofText?, JsonToken.ofText?_render plain layout]
  simp only [delivered]
  rfl

end VOTable.Json
